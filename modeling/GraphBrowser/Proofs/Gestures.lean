import GraphBrowser.Proofs.Handling
import GraphBrowser.Proofs.Picture
import Mathlib.Data.List.Induction

set_option autoImplicit false

namespace GraphBrowser

namespace Scene

variable {α : Type} [Scalar α]

def Identifies (s t : Scene α) : Prop :=
  ∀ (element : Nat) (id : String), s.nodes[element]?.map SceneNode.id = some id →
    t.nodes[element]?.map SceneNode.id = some id

omit [Scalar α] in
theorem modify_identifies (s t : Scene α) (element : Nat) (f : SceneNode α → SceneNode α) (same : ∀ n, (f n).id = n.id)
    (modified : t.nodes = s.nodes.modify element f) : Identifies s t := by
  intro i id found
  obtain ⟨n, placed, rfl⟩ := Option.map_eq_some_iff.mp found
  rw [modified, Array.getElem?_modify, placed]
  by_cases here : element = i
  · rw [if_pos here]
    exact congrArg some (same n)
  · rw [if_neg here]
    rfl

omit [Scalar α] in
theorem change_identifies (s : Scene α) (element : Nat) (f : SceneNode α → SceneNode α) (same : ∀ n, (f n).id = n.id) :
    Identifies s (s.change element f) :=
  modify_identifies s _ element f same (change_nodes s element f)

theorem create_identifies (s : Scene α) (node : NodeSummary) : Identifies s (Surface.create node s).2 := by
  intro i id found
  obtain ⟨n, placed, rfl⟩ := Option.map_eq_some_iff.mp found
  have below := (Array.getElem?_eq_some_iff.mp placed).1
  simp only [Surface.create, Array.getElem?_push, if_neg (Nat.ne_of_lt below), placed, Option.map_some]

theorem identifies_follow : Succession (α := α) Identifies where
  refl _ _ _ found := found
  trans _ _ _ first second element id found := second element id (first element id found)
  create node s := create_identifies s node
  bind _ element s := modify_identifies s _ element ({ · with wired := true }) (fun _ => rfl) rfl
  reveal element s := change_identifies s element _ fun _ => rfl
  hide element s := change_identifies s element _ fun _ => rfl
  connect _ _ _ _ _ _ found := found
  disconnect _ _ _ _ found := found
  setOffset element _ s := change_identifies s element _ fun _ => rfl
  repaint _ _ _ _ found := found
  view _ _ _ _ found := found
  resize _ _ _ _ found := found

theorem hit_placed (s : Scene α) (pointer : Point α) (element : Nat) (hit : s.nodeAt? pointer = some element) :
    ∃ n, s.nodes[element]? = some n := by
  obtain ⟨⟨n, place⟩, found, rfl⟩ := Option.map_eq_some_iff.mp hit
  have member := List.mem_reverse.mp (List.mem_of_find?_eq_some found)
  have listed := List.mem_zipIdx_iff_getElem?.mp member
  rw [Array.getElem?_toList] at listed
  exact ⟨n, listed⟩

end Scene

def Explorer.tables {α σ ε : Type} [Coordinate α] (x : Explorer α σ ε) :
    NodeTable ε × LinkTable × IdMap Pending × IdMap Failure × Nat := (x.nodes, x.links, x.books)

namespace Event

variable {α : Type}

-- The pointer does not take hold, and does not let go.
def isHolding : Event α → Bool
  | .press _ => false
  | .release _ _ => false
  | .leave => false
  | _ => true

def isMove : Event α → Bool
  | .move _ => true
  | _ => false

def isPassive : Event α → Bool
  | .release _ _ => false
  | .answer _ _ => false
  | _ => true

end Event

namespace Page

variable {α : Type} [Coordinate α]

theorem handle_tables (p : Page α) (e : Event α) (passive : e.isPassive = true) :
    (p.handle e).explorer.tables = p.explorer.tables := by
  have writes := handle_writes p e
  generalize p.handle e = q at writes ⊢
  cases writes with
  | release => cases passive
  | answer => cases passive
  | animationFrame placements =>
      dsimp only
      rw [Explorer.apply_placements_told]
      rfl
  | _ => rfl

theorem handle_pan (p : Page α) (e : Event α) (holding : e.isHolding = true) : (p.handle e).pan = p.pan := by
  have writes := handle_writes p e
  generalize p.handle e = q at writes ⊢
  cases writes with
  | press => cases holding
  | release => cases holding
  | leave => cases holding
  | _ => rfl

theorem unmoved_drag (p : Page α) (e : Event α) (holding : e.isHolding = true) (unmoved : e.isMove = false) :
    (p.handle e).drag = p.drag := by
  have writes := handle_writes p e
  generalize p.handle e = q at writes ⊢
  cases writes with
  | press => cases holding
  | move => cases unmoved
  | release => cases holding
  | leave => cases holding
  | _ => rfl

theorem release_free (p : Page α) (alt shift : Bool) :
    (p.handle (.release alt shift)).drag = none ∧ (p.handle (.release alt shift)).pan = none := by
  have writes := handle_writes p (.release alt shift)
  generalize p.handle (.release alt shift) = q at writes ⊢
  cases writes
  exact ⟨rfl, rfl⟩

theorem moved_drag (p : Page α) (pointer : Point α) : (p.moved pointer).drag = p.drag.map (Drag.follow · pointer) := by
  rw [moved]
  split
  next drag _ held =>
    rw [held]
    dsimp only
    split
    next => rfl
    next => rfl
  next free _ => exact free.trans (congrArg (Option.map _) free).symm
  next free _ => exact free.trans (congrArg (Option.map _) free).symm

def straysAt (p : Page α) (start : Point α) : Event α → Bool
  | .move pointer => (p.onCanvas? pointer).any fun point => decide (Drag.threshold < start.distance point)
  | _ => false

def strays (p : Page α) (start : Point α) (events : List (Event α)) : Bool := events.any (p.straysAt start)

theorem handle_drag (p q : Page α) (settled : Settled p q) (e : Event α) (holding : e.isHolding = true) :
    (q.handle e).drag = q.drag.map fun d => { d with moved := d.moved || p.straysAt d.pointer e } := by
  have still : q.drag = q.drag.map fun d => { d with moved := d.moved || false } := by simp
  cases e with
  | press pointer => cases holding
  | move pointer =>
      simp only [handle, straysAt, settled_on_canvas p q settled]
      cases p.onCanvas? pointer with
      | none => exact still
      | some point =>
          refine (moved_drag q point).trans (congrArg (q.drag.map ·) ?_)
          funext d
          rw [Drag.follow]
          by_cases far : (Drag.threshold : α) < d.pointer.distance point
          · simp [far]
          · simp [far]
  | release alt shift => cases holding
  | leave => cases holding
  | _ => exact (unmoved_drag q _ rfl rfl).trans still

theorem visit_drag (p : Page α) (events : List (Event α)) (holding : ∀ e ∈ events, e.isHolding = true) :
    (p.visit events).drag = p.drag.map fun d => { d with moved := d.moved || p.strays d.pointer events } := by
  induction events using List.reverseRecOn with
  | nil => simp [visit, strays]
  | append_singleton events e ih =>
      have before := ih fun e member => holding e (List.mem_append_left [_] member)
      rw [visit_snoc, handle_drag p _ (visit_settled p events) e (holding e (by simp)), before, Option.map_map]
      simp [strays, Function.comp_def, Bool.or_assoc]

theorem strays_settled (p q : Page α) (settled : Settled p q) : q.strays = p.strays := by
  have same : q.straysAt = p.straysAt := by
    funext start e
    cases e with
    | move pointer => rw [straysAt, straysAt, settled_on_canvas p q settled]
    | _ => rfl
  funext start events
  rw [strays, strays, same]

structure Clicked (p q : Page α) (id : String) (alt shift : Bool) : Prop where
  collapsed : alt = true → q.explorer = (p.explorer.collapse id).2 ∧ q.tasks = p.tasks
  expanded : alt = false →
    let (tickets, explorer) := p.explorer.expand id (if shift then .inbound else .outbound)
    q.explorer = explorer ∧ q.tasks = p.tasks ++ tickets.map .neighbor

theorem release_clicked (p : Page α) (id : String) (alt shift : Bool) (clicked : p.clicked? = some id) :
    Clicked p (p.release alt shift) id alt shift := by
  rw [release, clicked]
  constructor
  · intro collapses
    subst collapses
    exact ⟨rfl, List.append_nil p.tasks⟩
  · intro expands
    subst expands
    exact ⟨rfl, rfl⟩

theorem release_unclicked (p : Page α) (alt shift : Bool) (unclicked : p.clicked? = none) :
    (p.release alt shift).explorer = p.explorer := by
  rw [release, unclicked]
  rfl

theorem near_move_scene (p : Page α) (pointer : Pointer α) (drag : Drag α)
    (held : (p.handle (.move pointer)).drag = some drag) (unmoved : drag.moved = false) :
    (p.handle (.move pointer)).scene = p.scene := by
  rw [handle] at held ⊢
  cases reached : p.onCanvas? pointer with
  | none => rfl
  | some point =>
      rw [reached, Option.map_some, Option.getD_some, moved_drag] at held
      obtain ⟨before, had, rfl⟩ := Option.map_eq_some_iff.mp held
      rw [Option.map_some, Option.getD_some, moved, had]
      simp only [unmoved]
      rfl

section Press

variable (p : Page α) (pointer : Pointer α) (start : Point α) (reached : p.onCanvas? pointer = some start)

include reached

theorem press_hit (element : Nat) (n : SceneNode α) (hit : p.scene.nodeAt? start = some element)
    (placed : p.scene.nodes[element]? = some n) :
    (p.handle (.press pointer)).drag = some ⟨element, start, n.position, false⟩ := by
  rw [handle, reached, Option.map_some, Option.getD_some, press, hit]
  dsimp only
  rw [placed, Option.map_some, Option.getD_some]

theorem press_missed (missed : p.scene.nodeAt? start = none) : (p.handle (.press pointer)).drag = p.drag := by
  rw [handle, reached, Option.map_some, Option.getD_some, press, missed]

theorem press_same_scene : (p.handle (.press pointer)).scene = p.scene := by
  rw [handle, reached]
  exact press_scene p start

theorem hit_held (element : Nat) (n : SceneNode α) (hit : p.scene.nodeAt? start = some element)
    (placed : p.scene.nodes[element]? = some n) (between : List (Event α))
    (holding : ∀ e ∈ between, e.isHolding = true) :
    ((p.handle (.press pointer)).visit between).drag =
      some ⟨element, start, n.position, p.strays start between⟩ := by
  rw [visit_drag _ between holding, press_hit p pointer start reached element n hit placed,
    strays_settled p _ (handle_settled p (.press pointer))]
  rfl

theorem hit_kept (element : Nat) (n : SceneNode α) (placed : p.scene.nodes[element]? = some n)
    (between : List (Event α)) :
    ((p.handle (.press pointer)).visit between).scene.nodes[element]?.map SceneNode.id = some n.id :=
  visit_succeeds Scene.identifies_follow (fun _ _ _ found => found) (p.handle (.press pointer)) between element n.id
    (by rw [press_same_scene p pointer start reached, placed, Option.map_some])

theorem hit_clicked (element : Nat) (n : SceneNode α) (hit : p.scene.nodeAt? start = some element)
    (placed : p.scene.nodes[element]? = some n) (between : List (Event α))
    (holding : ∀ e ∈ between, e.isHolding = true) :
    ((p.handle (.press pointer)).visit between).clicked? = if p.strays start between then none else some n.id := by
  rw [clicked?, hit_held p pointer start reached element n hit placed between holding]
  dsimp only
  rw [hit_kept p pointer start reached element n placed between]

theorem missed_unclicked (free : p.drag = none) (missed : p.scene.nodeAt? start = none) (between : List (Event α))
    (holding : ∀ e ∈ between, e.isHolding = true) : ((p.handle (.press pointer)).visit between).clicked? = none := by
  rw [clicked?, visit_drag _ between holding, press_missed p pointer start reached missed, free]
  rfl

theorem near_moves_scene (element : Nat) (n : SceneNode α) (hit : p.scene.nodeAt? start = some element)
    (placed : p.scene.nodes[element]? = some n) (between : List (Event α))
    (holding : ∀ e ∈ between, e.isHolding = true) (near : p.strays start between = false)
    (before : List (Event α)) (q : Pointer α) (after : List (Event α)) (parts : between = before ++ .move q :: after) :
    (((p.handle (.press pointer)).visit before).handle (.move q)).scene =
      ((p.handle (.press pointer)).visit before).scene := by
  have sooner : between = (before ++ [.move q]) ++ after := by rw [parts, List.append_assoc]; rfl
  rw [sooner, strays, List.any_append, Bool.or_eq_false_iff] at near
  rw [sooner] at holding
  have held := hit_held p pointer start reached element n hit placed (before ++ [.move q]) fun e member =>
    holding e (List.mem_append_left after member)
  rw [visit_snoc] at held
  exact near_move_scene _ q _ held near.1

end Press

-- A press on a node is a click if the pointer did not stray before it was let go. Whatever else happened in
-- between, letting go then does one thing to that node, and else nothing. Nothing but clicks and answers ever
-- changes what is known of the graph.
theorem clicks_and_drags_told_apart (p : Page α) (pointer : Pointer α) (start : Point α) (between : List (Event α))
    (alt shift : Bool) (free : p.drag = none) (reached : p.onCanvas? pointer = some start)
    (holding : ∀ e ∈ between, e.isHolding = true) :
    let pressed := p.handle (.press pointer)
    let held := pressed.visit between
    let done := held.handle (.release alt shift)
    (∀ element, p.scene.nodeAt? start = some element → p.strays start between = false →
      (∃ n, p.scene.nodes[element]? = some n ∧ Clicked held done n.id alt shift) ∧
        ∀ before q after, between = before ++ .move q :: after →
          ((pressed.visit before).handle (.move q)).scene = (pressed.visit before).scene) ∧
      (p.scene.nodeAt? start = none ∨ p.strays start between = true → done.explorer = held.explorer) ∧
      (∀ (q : Page α) (e : Event α), ((∃ alt shift, e = .release alt shift) ∨ e = .leave) →
        (q.handle e).drag = none ∧ (q.handle e).pan = none) ∧
      ∀ (q : Page α) (e : Event α), e.isPassive = true → (q.handle e).explorer.tables = q.explorer.tables := by
  intro pressed held done
  refine ⟨?_, ?_, ?_, handle_tables⟩
  · intro element hit near
    obtain ⟨n, placed⟩ := Scene.hit_placed p.scene start element hit
    refine ⟨⟨n, placed, ?_⟩, near_moves_scene p pointer start reached element n hit placed between holding near⟩
    have clicked := hit_clicked p pointer start reached element n hit placed between holding
    rw [near, if_neg Bool.false_ne_true] at clicked
    exact release_clicked held n.id alt shift clicked
  · intro other
    refine release_unclicked held alt shift ?_
    cases hit : p.scene.nodeAt? start with
    | none => exact missed_unclicked p pointer start reached free hit between holding
    | some element =>
        obtain ⟨n, placed⟩ := Scene.hit_placed p.scene start element hit
        have strayed := other.resolve_left (by rw [hit]; exact Option.some_ne_none element)
        rw [hit_clicked p pointer start reached element n hit placed between holding, strayed, if_pos rfl]
  · intro q e last
    rcases last with ⟨alt, shift, rfl⟩ | rfl
    · exact release_free q alt shift
    · exact ⟨rfl, rfl⟩

-- The root lies in the middle.
def opened : Page Float := onDesk.handle (.answer (.root "a") (.ok ⟨⟨"a", none⟩, [⟨"a", "b", "knows"⟩]⟩))

-- The page is scrolled while the pointer is down.
def wavering : List (Event Float) :=
  [.move ⟨404, 301, .origin⟩, .wheel ⟨0, 0, .origin⟩ 1.0, .animationFrame, .move ⟨402, 200, ⟨0.0, -100.0⟩⟩]

theorem wavering_press_clicks_on_root :
    let held := (opened.handle (.press ⟨402, 300, .origin⟩)).visit wavering
    opened.scene.nodeAt? ⟨402.0, 300.0⟩ = some 0 ∧ opened.strays ⟨402.0, 300.0⟩ wavering = false ∧
      ∃ n, opened.scene.nodes[0]? = some n ∧ Clicked held (held.handle (.release false true)) n.id false true := by
  intro held
  have hit : opened.scene.nodeAt? ⟨402.0, 300.0⟩ = some 0 := by decide +kernel
  have near : opened.strays ⟨402.0, 300.0⟩ wavering = false := by decide +kernel
  have across : (Float.ofInt 402 - 0.0 : Float) = 402.0 := by decide +kernel
  have down : (Float.ofInt 300 - 0.0 : Float) = 300.0 := by decide +kernel
  have reached : opened.onCanvas? ⟨402, 300, .origin⟩ = some ⟨402.0, 300.0⟩ :=
    congrArg some (congr (congrArg Point.mk across) down)
  exact ⟨hit, near, ((clicks_and_drags_told_apart opened ⟨402, 300, .origin⟩ ⟨402.0, 300.0⟩ wavering false true rfl reached
    (by decide)).1 0 hit near).1⟩

end Page

end GraphBrowser
