import GraphBrowser.Proofs.Books
import GraphBrowser.Proofs.Fitting
import GraphBrowser.Proofs.Mirror

set_option autoImplicit false

namespace GraphBrowser

namespace Layout.Run

variable {α ε : Type} [Coordinate α]

theorem yields_in_order (r : Run α ε) (frame : Frame α ε) (yields : r.Yields frame)
    (inOrder : r.members.Pairwise fun a b => octets a.1 < octets b.1) :
    frame.placements.Pairwise fun a b => octets a.id < octets b.id := by
  induction yields with
  | now r next e frame pulled =>
      obtain ⟨rfl, _⟩ := next_some r next e frame pulled
      exact painted_at_in_order r _ inOrder
  | later r next e first frame pulled _ ih =>
      obtain ⟨_, rfl⟩ := next_some r next e first pulled
      exact ih inOrder

end Layout.Run

namespace Scene

def scenery {α : Type} (s : Scene α) : Nat × List Connector × View α × Size α :=
  (s.nodes.size, s.connectors, s.view, s.size)

theorem change_scenery {α : Type} (s : Scene α) (element : Nat) (f : SceneNode α → SceneNode α) :
    (s.change element f).scenery = s.scenery := by
  unfold change
  split
  next => rw [scenery, Array.size_modify, ← scenery]
  next => rfl

end Scene

namespace Explorer

theorem apply_placements_count {α σ ε : Type} [Coordinate α] [Surface σ α ε] (placements : List (Layout.Placement α ε))
    (x : Explorer α σ ε) :
    (x.applyPlacements placements).1 = placements.countP fun p => x.nodes.isVisible p.id := by
  induction placements generalizing x with
  | nil => rfl
  | cons p rest ih =>
      rw [applyPlacements, List.countP_cons]
      split
      next => exact congrArg (· + 1) (ih (x.moveTo p.element p.offset))
      next => exact ih x

variable {α : Type} [Coordinate α]

theorem move_to_get (x : Explorer α (Scene α) Nat) (element : Nat) (offset : Point α) (i : Nat) :
    (x.moveTo element offset).surface.nodes[i]? =
      if element = i then x.surface.nodes[i]?.map ({ · with position := offset }) else x.surface.nodes[i]? := by
  have nodes : (x.moveTo element offset).surface.nodes = x.surface.nodes.modify element ({ · with position := offset }) :=
    Scene.change_nodes x.surface element _
  rw [nodes, Array.getElem?_modify]

theorem apply_placements_scenery (placements : List (Layout.Placement α Nat)) (x : Explorer α (Scene α) Nat) :
    (x.applyPlacements placements).2.surface.scenery = x.surface.scenery := by
  induction placements generalizing x with
  | nil => rfl
  | cons p rest ih =>
      rw [applyPlacements]
      split
      next => exact (ih (x.moveTo p.element p.offset)).trans (Scene.change_scenery x.surface p.element _)
      next => exact ih x

theorem apply_placements_still (placements : List (Layout.Placement α Nat)) (x : Explorer α (Scene α) Nat) (i : Nat)
    (away : ∀ p ∈ placements, x.nodes.isVisible p.id = true → p.element ≠ i) :
    (x.applyPlacements placements).2.surface.nodes[i]? = x.surface.nodes[i]? := by
  induction placements generalizing x with
  | nil => rfl
  | cons p rest ih =>
      obtain ⟨first, others⟩ := List.forall_mem_cons.mp away
      rw [applyPlacements]
      split
      next shown =>
        have moved := move_to_get x p.element p.offset i
        rw [if_neg (first shown)] at moved
        exact (ih (x.moveTo p.element p.offset) others).trans moved
      next => exact ih x others

theorem apply_placements_moved (placements : List (Layout.Placement α Nat)) (x : Explorer α (Scene α) Nat)
    (apart : placements.Pairwise fun p q => p.element ≠ q.element) (p : Layout.Placement α Nat) (member : p ∈ placements)
    (shown : x.nodes.isVisible p.id = true) : (x.applyPlacements placements).2.surface.nodes[p.element]? =
      x.surface.nodes[p.element]?.map ({ · with position := p.offset }) := by
  induction placements generalizing x with
  | nil => cases member
  | cons q rest ih =>
      obtain ⟨first, others⟩ := List.pairwise_cons.mp apart
      rcases List.mem_cons.mp member with rfl | later
      · have moved := move_to_get x p.element p.offset p.element
        rw [if_pos rfl] at moved
        have still := apply_placements_still rest (x.moveTo p.element p.offset) p.element
          fun other there _ => (first other there).symm
        rw [applyPlacements, if_pos shown]
        exact still.trans moved
      · rw [applyPlacements]
        split
        next =>
          have moved := move_to_get x q.element q.offset p.element
          rw [if_neg (first p later)] at moved
          have placed := ih (x.moveTo q.element q.offset) others later shown
          rwa [moved] at placed
        next => exact ih x others later shown

structure Repositioned (x : Explorer α (Scene α) Nat) (frame : Layout.Frame α Nat) (count : Nat)
    (y : Explorer α (Scene α) Nat) : Prop where
  moved : ∀ p ∈ frame.placements, x.nodes.isVisible p.id = true → x.element? p.id = some p.element ∧
    ∃ node, x.surface.nodes[p.element]? = some node ∧ node.id = p.id ∧
      y.surface.nodes[p.element]? = some { node with position := p.offset }
  still : ∀ (element : Nat) (node : SceneNode α), x.surface.nodes[element]? = some node →
    (∀ p ∈ frame.placements, x.nodes.isVisible p.id = true → p.id ≠ node.id) → y.surface.nodes[element]? = some node
  scenery : y.surface.scenery = x.surface.scenery
  -- The tables of nodes and links, pending fetches, failures and all else outside the scene stay.
  told : y = { x with surface := y.surface }
  counted : count = frame.placements.countP fun p => x.nodes.isVisible p.id

theorem apply_placements_repositions (x : Explorer α (Scene α) Nat) (mirror : Mirror x) (frame : Layout.Frame α Nat)
    (owned : ∀ p ∈ frame.placements, x.element? p.id = some p.element)
    (inOrder : frame.placements.Pairwise fun p q => octets p.id < octets q.id) :
    Repositioned x frame (x.applyFrame frame).1 (x.applyFrame frame).2 := by
  have apart : frame.placements.Pairwise fun p q => p.element ≠ q.element := by
    refine inOrder.imp_of_mem ?_
    intro p q first second less same
    have one := element_unique x mirror p.id q.id q.element (same ▸ owned p first) (owned q second)
    rw [one] at less
    exact List.lt_irrefl _ less
  have placed (p : Layout.Placement α Nat) (member : p ∈ frame.placements) :
      ∃ node, x.surface.nodes[p.element]? = some node ∧ node.id = p.id := by
    obtain ⟨known, found, same⟩ := Option.map_eq_some_iff.mp (owned p member)
    obtain ⟨node, drawn, shows⟩ := mirror.pictured.shows p.id known found
    exact ⟨node, same ▸ drawn, shows.id⟩
  refine ⟨?_, ?_, apply_placements_scenery _ x, apply_placements_told _ x, apply_placements_count _ x⟩
  · intro p member shown
    obtain ⟨node, drawn, named⟩ := placed p member
    refine ⟨owned p member, node, drawn, named, ?_⟩
    have moved := apply_placements_moved frame.placements x apart p member shown
    rwa [drawn] at moved
  · intro element node drawn other
    refine (apply_placements_still frame.placements x element ?_).trans drawn
    rintro p member shown rfl
    obtain ⟨here, found, named⟩ := placed p member
    rw [drawn, Option.some.injEq] at found
    exact other p member shown (found ▸ named.symm)

theorem frame_repositions_shown (size : Size α) (settings : Settings α)
    (earlier later : List (Operation α Nat (Scene.Adjustment α))) (frame : Layout.Frame α Nat)
    (yields : ((Explorer.new (Scene.empty size) settings).run earlier).runLayout.1.Yields frame) :
    let x := (Explorer.new (Scene.empty size) settings).run (earlier ++ [.runLayout] ++ later)
    Repositioned x frame (x.applyFrame frame).1 (x.applyFrame frame).2 := by
  have snapshot := Layout.run_snapshot ((Explorer.new (Scene.empty size) settings).run earlier).layout
    ((Explorer.new (Scene.empty size) settings).run earlier).nodes
    ((Explorer.new (Scene.empty size) settings).run earlier).links
    ((Explorer.new (Scene.empty size) settings).run earlier).surface
  apply apply_placements_repositions _ (run_mirror size settings _)
  · exact yielded_elements _ earlier later frame yields
  · exact Layout.Run.yields_in_order _ frame yields snapshot.inOrder

def paired : List (Operation ℝ Nat (Scene.Adjustment ℝ)) :=
  [.openRoot ⟨⟨"a", none⟩, [⟨"a", "b", "knows"⟩]⟩, .expand "a" .outbound, .redeem ⟨"b", 1⟩ (.ok ⟨⟨"b", none⟩, []⟩)]

-- The frame places both. It is applied when another run has started and b is closed.
theorem frame_repositions_open_node :
    let start : Explorer ℝ (Scene ℝ) Nat := Explorer.new (Scene.empty ⟨800, 600⟩) .standard
    let run := (start.run paired).runLayout.1
    let x := start.run (paired ++ [.runLayout] ++ [.runLayout, .collapse "b"])
    run.Yields run.ticked.painted ∧ run.ticked.painted.placements.map (·.id) = ["a", "b"] ∧
      Repositioned x run.ticked.painted (x.applyFrame run.ticked.painted).1 (x.applyFrame run.ticked.painted).2 ∧
      (x.applyFrame run.ticked.painted).1 = 1 := by
  intro start run x
  have first := Layout.Run.next_unfinished run (start.run paired).runLayout.2.layout (by decide +kernel)
  have second := Layout.Run.next_unfinished run.ticked (start.run paired).runLayout.2.layout (by decide +kernel)
  have yields : run.Yields run.ticked.painted := .later _ _ _ _ _ first (.now _ _ _ _ second)
  have members : run.ticked.members = [("a", 0), ("b", 1)] := by
    decide +kernel
  have shown : ["a", "b"].countP x.nodes.isVisible = 1 := by
    decide +kernel
  have due : Layout.Run.paints run.ticked.settings (run.ticked.iteration + 1) = true := by
    decide +kernel
  have bodies := (Layout.run_snapshot (start.run paired).layout (start.run paired).nodes (start.run paired).links
    (start.run paired).surface).bodies
  have owners := Layout.Run.painted_owners run.ticked ((run.settings.course.keeps _ _ _).trans bodies)
    (members ▸ List.cons_ne_nil _ _) due
  have placed : run.ticked.painted.placements.map (·.id) = ["a", "b"] := by
    have ids := congrArg (List.map Prod.fst) owners
    rw [members, List.map_map] at ids
    exact ids
  refine ⟨yields, placed, frame_repositions_shown ⟨800, 600⟩ .standard paired _ _ yields, ?_⟩
  have count := apply_placements_count run.ticked.painted.placements x
  rw [← shown, ← placed, List.countP_map]
  exact count

end Explorer

end GraphBrowser
