import GraphBrowser.Proofs.LinkIndex
import GraphBrowser.Proofs.Retrying
import Mathlib.Data.List.Sort

set_option autoImplicit false

namespace GraphBrowser

inductive Showing (ε : Type) where
  | reveal (element : ε)
  | connect (source target : ε) (label : String)
deriving DecidableEq

def Showing.tell {σ α ε : Type} [Surface σ α ε] (surface : σ) : Showing ε → σ
  | .reveal element => Surface.reveal element surface
  | .connect source target label => Surface.connect source target label surface

theorem Asker.ends_neighbor (asker : Asker) (m n : String) : asker.ends m = asker.ends n ↔ m = n := by
  rw [Asker.ends, Asker.ends, Direction.ends_eq]
  exact and_iff_right rfl

namespace Explorer

variable {α σ ε : Type} [Coordinate α]

def unveiling (x : Explorer α σ ε) (id : String) : List (Showing ε) :=
  match x.nodes[id]? with
  | some node => if node.visible then [] else [.reveal node.element]
  | none => []

def stroke (x : Explorer α σ ε) (s d : String) : List (Showing ε) :=
  match x.element? s, x.element? d, x.links.get? s d with
  | some source, some target, some link => if link.visible then [] else [.connect source target link.label]
  | _, _, _ => []

def showings (x : Explorer α σ ε) (asker : Asker) (neighbor : String) : List (Showing ε) :=
  x.unveiling neighbor ++ x.stroke (asker.ends neighbor).1 (asker.ends neighbor).2

theorem unknown_silent (x : Explorer α σ ε) (asker : Asker) (neighbor : String) (fresh : x.nodes[neighbor]? = none) :
    x.showings asker neighbor = [] := by
  have nameless : x.element? neighbor = none := by
    rw [element?, fresh]
    rfl
  cases asker with
  | mk anchor direction =>
      cases direction with
      | outbound =>
          simp only [showings, unveiling, fresh, stroke, Asker.ends, Direction.ends, nameless, List.nil_append]
          cases x.element? anchor <;> rfl
      | inbound => simp only [showings, unveiling, fresh, stroke, Asker.ends, Direction.ends, nameless, List.nil_append]

def borders (x : Explorer α σ ε) (asker : Asker) (n : String) : Bool :=
  (x.links.get? (asker.ends n).1 (asker.ends n).2).isSome

theorem borders_neighbors (x : Explorer α σ ε) (asker : Asker) (n : String) :
    x.borders asker n = true ↔ n ∈ x.neighbors asker.anchor asker.direction := (mem_neighbors x asker n).symm

theorem neighbors_ascending (x : Explorer α σ ε) (id : String) (direction : Direction) :
    (x.neighbors id direction).Pairwise fun a b => octets a < octets b := by
  cases direction with
  | outbound => exact List.pairwise_map.mpr (LinkTable.outbound_ascending x.links id)
  | inbound => exact List.pairwise_map.mpr (LinkTable.inbound_ascending x.links id)

theorem neighbors_congr (x y : Explorer α σ ε) (id : String) (direction : Direction)
    (same : ∀ s d, (y.links.get? s d).isSome = (x.links.get? s d).isSome) :
    y.neighbors id direction = x.neighbors id direction := by
  have sorted (z : Explorer α σ ε) : (z.neighbors id direction).Pairwise (· < ·) :=
    (neighbors_ascending z id direction).imp fun less => (octets_lt _ _).mp less
  refine (sorted y).eq_of_mem_iff (sorted x) ?_
  intro n
  rw [mem_neighbors y ⟨id, direction⟩ n, mem_neighbors x ⟨id, direction⟩ n, same]

theorem request_surface (x : Explorer α σ ε) (asker : Asker) (neighbor : String) :
    (x.request asker neighbor).2.surface = x.surface := by
  unfold request
  dsimp only
  split
  next => split <;> rfl
  next => rfl

variable [Surface σ α ε]

theorem join_tells (x : Explorer α σ ε) (s d : String) (source : x.nodes.isVisible s = true)
    (destination : x.nodes.isVisible d = true) :
    (x.join s d).2.surface = (x.stroke s d).foldl Showing.tell x.surface := by
  obtain ⟨first, foundFirst, _⟩ := (NodeTable.visible_iff x.nodes s).mp source
  obtain ⟨second, foundSecond, _⟩ := (NodeTable.visible_iff x.nodes d).mp destination
  have elements : x.element? s = some first.element ∧ x.element? d = some second.element :=
    ⟨element_of_get x s first foundFirst, element_of_get x d second foundSecond⟩
  rcases join_cases x s d with idle | ⟨sourceNode, destinationNode, link, foundS, _, foundD, _, known, hidden, joined⟩
  · have silent : (x.links.connect s d).1 = false := by
      have asks := (join_asks x s d).1
      rw [source, destination, idle] at asks
      exact asks.symm
    have nothing : x.stroke s d = [] := by
      cases known : x.links.get? s d with
      | none => simp only [stroke, elements, known]
      | some link =>
          have visible : link.visible = true := by
            by_contra hidden
            have fires := (LinkTable.connect_fires x.links s d).mpr ⟨link, known, Bool.eq_false_of_not_eq_true hidden⟩
            rw [silent] at fires
            cases fires
          simp only [stroke, elements, known, visible, if_true]
    rw [idle, nothing]
    rfl
  · obtain rfl := Option.some.inj (foundFirst.symm.trans foundS)
    obtain rfl := Option.some.inj (foundSecond.symm.trans foundD)
    have drawn : x.stroke s d = [.connect first.element second.element link.label] := by
      simp only [stroke, elements, known, hidden, Bool.false_eq_true, if_false]
    rw [joined, drawn]
    rfl

-- The ends of a link at a visible asker are visible once its neighbour is.
theorem join_neighbor_tells (x : Explorer α σ ε) (asker : Asker) (neighbor : String)
    (anchor : x.nodes.isVisible asker.anchor = true) (shown : x.nodes.isVisible neighbor = true) :
    (x.joinNeighbor asker neighbor).2.surface =
      (x.stroke (asker.ends neighbor).1 (asker.ends neighbor).2).foldl Showing.tell x.surface := by
  have ends := ends_visible x.nodes asker neighbor
  rw [anchor, shown, Bool.and_self, Bool.and_eq_true] at ends
  exact join_tells x _ _ ends.1 ends.2

theorem reach_tells (x : Explorer α σ ε) (asker : Asker) (neighbor : String)
    (anchor : x.nodes.isVisible asker.anchor = true) :
    (x.reach asker neighbor).2.surface = (x.showings asker neighbor).foldl Showing.tell x.surface := by
  cases found : x.nodes[neighbor]? with
  | none =>
      rw [reach_unknown x asker neighbor found, request_surface, unknown_silent x asker neighbor found]
      rfl
  | some node =>
      cases visible : node.visible with
      | true =>
          have shown : x.nodes.isVisible neighbor = true := by
            rw [NodeTable.visible_of_get x.nodes neighbor node found, visible]
          have unveiled : x.unveiling neighbor = [] := by simp only [unveiling, found, visible, if_true]
          rw [showings, unveiled, List.nil_append, ← join_neighbor_tells x asker neighbor anchor shown]
          simp only [reach, found, visible, if_true]
      | false =>
          have unveiled : x.unveiling neighbor = [.reveal node.element] := by
            simp only [unveiling, found, visible, Bool.false_eq_true, if_false]
          have shown : (x.reveal neighbor).nodes.isVisible neighbor = true := by
            rw [reveal_nodes, NodeTable.set_visible_visible, if_pos rfl, found]
            rfl
          have told : (x.reveal neighbor).surface = Surface.reveal node.element x.surface := by
            simp only [reveal, NodeTable.reveal, NodeTable.changing_of_get x.nodes neighbor true node found, visible,
              Bool.false_eq_true, if_false]
          have elements (id : String) : (x.reveal neighbor).element? id = x.element? id := by
            rw [element?, reveal_nodes, set_visible_lasting Node.element element_lasting]
            rfl
          have same : (x.reveal neighbor).stroke (asker.ends neighbor).1 (asker.ends neighbor).2 =
              x.stroke (asker.ends neighbor).1 (asker.ends neighbor).2 := by
            simp only [stroke, elements]
            rfl
          have joined := join_neighbor_tells (x.reveal neighbor) asker neighbor
            (reveal_keeps_visible x neighbor asker.anchor anchor) shown
          rw [same, told] at joined
          rw [showings, unveiled, List.foldl_append, List.foldl_cons, List.foldl_nil, Showing.tell, ← joined]
          simp only [reach, found, visible, Bool.false_eq_true, if_false]

-- What is told about one neighbour does not depend on the others.
theorem showings_kept (x : Explorer α σ ε) (asker : Asker) (neighbor other : String)
    (anchor : x.nodes.isVisible asker.anchor = true) (apart : other ≠ neighbor) :
    (x.reach asker neighbor).2.showings asker other = x.showings asker other := by
  have reached := reach_expanded x asker neighbor anchor
  have elements (id : String) : (x.reach asker neighbor).2.element? id = x.element? id :=
    acts_lasting Node.element element_lasting x _ (reach_acts x asker neighbor) id
  have node : (x.reach asker neighbor).2.nodes[other]? = x.nodes[other]? := by
    rw [reached.nodes, if_neg (by simpa using apart)]
  have link : (x.reach asker neighbor).2.links.get? (asker.ends other).1 (asker.ends other).2 =
      x.links.get? (asker.ends other).1 (asker.ends other).2 := by
    have elsewhere : reaches x.nodes asker [neighbor] (asker.ends other).1 (asker.ends other).2 = false := by
      have differ : (asker.ends other == asker.ends neighbor) = false := by
        simpa [Asker.ends_neighbor] using apart
      simp [reaches, differ]
    have untouched := LinkTable.drawn_refl x.links (asker.ends other).1 (asker.ends other).2
    rw [reached.links, elsewhere]
    exact untouched.symm
  simp only [showings, unveiling, stroke, elements, node, link]

theorem reach_all_tells (asker : Asker) (neighbors : List String) (x : Explorer α σ ε)
    (anchor : x.nodes.isVisible asker.anchor = true) (distinct : neighbors.Nodup) :
    (x.reachAll asker neighbors).2.surface =
      (neighbors.flatMap (x.showings asker)).foldl Showing.tell x.surface := by
  induction neighbors generalizing x with
  | nil => rfl
  | cons neighbor rest ih =>
      rw [List.nodup_cons] at distinct
      have still := (acts_keeps x _ (reach_acts x asker neighbor)).nodes asker.anchor anchor
      have others : rest.flatMap ((x.reach asker neighbor).2.showings asker) = rest.flatMap (x.showings asker) := by
        apply List.flatMap_congr
        intro other member
        refine showings_kept x asker neighbor other anchor ?_
        rintro rfl
        exact distinct.1 member
      rw [List.flatMap_cons, List.foldl_append, ← reach_tells x asker neighbor anchor, ← others]
      exact ih (x.reach asker neighbor).2 still distinct.2

-- The links keep their order, and neither the layout nor the scatter is touched.
structure Untouched (x y : Explorer α σ ε) : Prop where
  order : y.links.toList.map Link.ends = x.links.toList.map Link.ends
  layout : y.layout = x.layout
  scatter : y.scatter = x.scatter

theorem join_untouched (x : Explorer α σ ε) (s d : String) : Untouched x (x.join s d).2 := by
  rcases join_cases x s d with idle | ⟨source, destination, link, _, _, _, _, _, _, joined⟩
  · rw [idle]
    exact ⟨rfl, rfl, rfl⟩
  · rw [joined]
    exact ⟨LinkTable.change_ends x.links (.connect s d), rfl, rfl⟩

theorem reach_untouched (x : Explorer α σ ε) (asker : Asker) (neighbor : String) :
    Untouched x (x.reach asker neighbor).2 := by
  unfold reach
  split
  next =>
    unfold request
    dsimp only
    split
    next => split <;> exact ⟨rfl, rfl, rfl⟩
    next => exact ⟨rfl, rfl, rfl⟩
  next node _ =>
    split
    next => exact join_untouched x _ _
    next =>
      have joined := join_untouched (x.reveal neighbor) (asker.ends neighbor).1 (asker.ends neighbor).2
      exact ⟨joined.order, joined.layout, joined.scatter⟩

theorem reach_all_untouched (asker : Asker) (neighbors : List String) (x : Explorer α σ ε) :
    Untouched x (x.reachAll asker neighbors).2 := by
  induction neighbors generalizing x with
  | nil => exact ⟨rfl, rfl, rfl⟩
  | cons neighbor rest ih =>
      have first := reach_untouched x asker neighbor
      have later := ih (x.reach asker neighbor).2
      exact ⟨later.order.trans first.order, later.layout.trans first.layout, later.scatter.trans first.scatter⟩

def Quiescent (x : Explorer α σ ε) (asker : Asker) (neighbor : String) : Prop :=
  x.nodes.isVisible neighbor = true ∧ x.links.isVisible (asker.ends neighbor).1 (asker.ends neighbor).2 = true ∨
    x.nodes[neighbor]? = none ∧ x.failures[neighbor]? = none ∧
      ∃ fetch, x.pending[neighbor]? = some fetch ∧ asker ∈ fetch.askers

theorem quiescent_reach (x : Explorer α σ ε) (asker : Asker) (neighbor : String)
    (quiescent : Quiescent x asker neighbor) : x.reach asker neighbor = (none, x) := by
  rcases quiescent with ⟨shown, drawn⟩ | ⟨fresh, forgiven, fetch, found, waits⟩
  · obtain ⟨node, known, visible⟩ := (NodeTable.visible_iff x.nodes neighbor).mp shown
    have undrawn : x.join (asker.ends neighbor).1 (asker.ends neighbor).2 = (false, x) := by
      rcases join_cases x (asker.ends neighbor).1 (asker.ends neighbor).2 with
        idle | ⟨_, _, link, _, _, _, _, found, hidden, _⟩
      · exact idle
      · rw [LinkTable.visible_of_get _ _ _ link found, hidden] at drawn
        cases drawn
    have joined : x.joinNeighbor asker neighbor = (false, x) := undrawn
    simp only [reach, known, visible, if_true, joined]
  · have unheld : x.failures.erase neighbor = x.failures := by
      apply Std.ExtTreeMap.ext_getElem?
      intro id
      rw [IdMap.erase_get]
      split
      next here => rw [here, forgiven]
      next => rfl
    rw [reach_unknown x asker neighbor fresh]
    simp only [request, found, if_pos waits, unheld]

theorem quiescent_reach_all (x : Explorer α σ ε) (asker : Asker) (neighbors : List String)
    (quiescent : ∀ n ∈ neighbors, Quiescent x asker n) : x.reachAll asker neighbors = ([], x) := by
  induction neighbors with
  | nil => rfl
  | cons neighbor rest ih =>
      have first := quiescent_reach x asker neighbor (quiescent neighbor List.mem_cons_self)
      have others := ih fun n member => quiescent n (List.mem_cons_of_mem neighbor member)
      simp only [reachAll, first, others, Option.toList_none, List.append_nil]

theorem expand_quiescent (x : Explorer α σ ε) (id : String) (direction : Direction)
    (shown : x.nodes.isVisible id = true) (n : String) (member : n ∈ x.neighbors id direction) :
    Quiescent (x.expand id direction).2 ⟨id, direction⟩ n := by
  have expanded := expand_shown x id direction shown
  cases found : x.nodes[n]? with
  | none =>
      obtain ⟨fetch, foundFetch, waiting, _⟩ := expanded.asked n member found
      refine .inr ⟨(expanded_unknown x _ _ _ expanded n).mpr found, expanded.forgiven n member found, fetch, foundFetch, ?_⟩
      rw [waiting]
      exact (mem_joined _ _ _).mpr (.inr rfl)
  | some node =>
      have reached : reaches x.nodes ⟨id, direction⟩ (x.neighbors id direction)
          (Asker.ends ⟨id, direction⟩ n).1 (Asker.ends ⟨id, direction⟩ n).2 = true := by
        rw [reaches, List.any_eq_true]
        exact ⟨n, member, by simp [found]⟩
      refine .inl ⟨?_, ?_⟩
      · rw [NodeTable.isVisible, expanded.nodes, if_pos member, found]
        rfl
      · rw [LinkTable.drawn_visible _ _ _ expanded.links, (mem_neighbors x ⟨id, direction⟩ n).mp member, reached]
        exact Bool.or_true _

theorem expand_twice (x : Explorer α σ ε) (id : String) (direction : Direction) :
    (x.expand id direction).2.expand id direction = ([], (x.expand id direction).2) := by
  cases shown : x.nodes.isVisible id with
  | false =>
      rw [expand_hidden x id direction shown]
      exact expand_hidden x id direction shown
  | true =>
      have still := (acts_keeps x _ (expand_acts x id direction)).nodes id shown
      have neighbors := neighbors_congr x (x.expand id direction).2 id direction
        (LinkTable.drawn_known _ _ _ (expand_shown x id direction shown).links)
      have quiescent := expand_quiescent x id direction shown
      generalize (x.expand id direction).2 = y at *
      rw [expand, if_pos still, neighbors]
      exact quiescent_reach_all y ⟨id, direction⟩ _ quiescent

structure Unfolds (x : Explorer α σ ε) (asker : Asker) (tickets : List Ticket) (y : Explorer α σ ε) : Prop where
  shown : ∀ n, x.borders asker n = true → x.nodes[n]?.isSome = true →
    y.nodes.isVisible n = true ∧ y.links.isVisible (asker.ends n).1 (asker.ends n).2 = true
  nodes : ∀ id : String, y.nodes[id]? =
    if x.borders asker id then x.nodes[id]?.map ({ · with visible := true }) else x.nodes[id]?
  joined : ∀ n, x.nodes[n]?.isSome = true → y.links.get? (asker.ends n).1 (asker.ends n).2 =
    (x.links.get? (asker.ends n).1 (asker.ends n).2).map ({ · with visible := true })
  unjoined : ∀ s d, (∀ n, x.nodes[n]?.isSome = true → (s, d) ≠ asker.ends n) → y.links.get? s d = x.links.get? s d
  -- The fetch that was under way goes on with one more asker, unless the node waited for it before.
  asked : ∀ n, x.borders asker n = true → x.nodes[n]? = none →
    y.failures[n]? = none ∧ ∃ fetch, y.pending[n]? = some fetch ∧ fetch.askers.count asker = 1 ∧
      fetch.askers = joinedBy (x.askers n) asker ∧ ∀ old, x.pending[n]? = some old → fetch.serial = old.serial
  books : ∀ id, (x.borders asker id = true → x.nodes[id]?.isSome = true) →
    y.pending[id]? = x.pending[id]? ∧ y.failures[id]? = x.failures[id]?
  issued : ∀ t, t ∈ tickets ↔
    y.Live t ∧ x.borders asker t.node = true ∧ x.nodes[t.node]? = none ∧ x.pending[t.node]? = none
  inOrder : (tickets.map Ticket.node).Pairwise fun a b => octets a < octets b
  told : ∃ neighbors : List String, neighbors.Pairwise (fun a b => octets a < octets b) ∧
    (∀ n, n ∈ neighbors ↔ x.borders asker n = true) ∧
    y.surface = (neighbors.flatMap (x.showings asker)).foldl Showing.tell x.surface
  untouched : Untouched x y

-- Every ticket that an expansion issues is new, so none of them was redeemed before.
theorem expand_live (x : Explorer α σ ε) (issued redeemed : List Ticket) (ledger : Ledger x issued redeemed)
    (id : String) (direction : Direction) (t : Ticket) (member : t ∈ (x.expand id direction).1) :
    (x.expand id direction).2.Live t := by
  have after := expand_ledger x id direction issued redeemed ledger
  refine (after.open_iff t).mpr ⟨List.mem_append_right issued member, ?_⟩
  intro back
  exact (List.nodup_append.mp after.distinct).2.2 t (ledger.genuine t back) t member rfl

theorem expand_issued (x : Explorer α σ ε) (issued redeemed : List Ticket) (ledger : Ledger x issued redeemed)
    (id : String) (direction : Direction) (shown : x.nodes.isVisible id = true) (t : Ticket) :
    t ∈ (x.expand id direction).1 ↔ (x.expand id direction).2.Live t ∧ x.borders ⟨id, direction⟩ t.node = true ∧
      x.nodes[t.node]? = none ∧ x.pending[t.node]? = none := by
  have nodes := expand_tickets x id direction shown
  have asked (n : String) : n ∈ (x.expand id direction).1.map Ticket.node ↔
      x.borders ⟨id, direction⟩ n = true ∧ x.nodes[n]? = none ∧ x.pending[n]? = none := by
    rw [nodes, List.mem_filter, borders_neighbors, unasked, Bool.and_eq_true, Option.isNone_iff_eq_none,
      Option.isNone_iff_eq_none]
  constructor
  · intro member
    exact ⟨expand_live x issued redeemed ledger id direction t member, (asked t.node).mp (List.mem_map_of_mem member)⟩
  · rintro ⟨live, unknown⟩
    obtain ⟨other, member, same⟩ := List.mem_map.mp ((asked t.node).mpr unknown)
    have otherLive := expand_live x issued redeemed ledger id direction other member
    rw [← live_unique _ other t same otherLive live]
    exact member

theorem expand_unfolds (x : Explorer α σ ε) (founded : Founded x) (issued redeemed : List Ticket)
    (ledger : Ledger x issued redeemed) (id : String) (direction : Direction) (shown : x.nodes.isVisible id = true) :
    Unfolds x ⟨id, direction⟩ (x.expand id direction).1 (x.expand id direction).2 := by
  have expanded := expand_shown x id direction shown
  have reached (s d : String) : reaches x.nodes ⟨id, direction⟩ (x.neighbors id direction) s d = true ↔
      ∃ n, x.borders ⟨id, direction⟩ n = true ∧ x.nodes[n]?.isSome = true ∧ (s, d) = Asker.ends ⟨id, direction⟩ n := by
    simp only [reaches, List.any_eq_true, Bool.and_eq_true, beq_iff_eq, borders_neighbors]
  refine ⟨?_, ?_, ?_, ?_, ?_, ?_, expand_issued x issued redeemed ledger id direction shown, ?_, ?_, ?_⟩
  · intro n member known
    have quiescent := expand_quiescent x id direction shown n ((borders_neighbors x _ n).mp member)
    refine quiescent.resolve_right ?_
    rintro ⟨fresh, _⟩
    rw [(expanded_unknown x _ _ _ expanded n).mp fresh] at known
    cases known
  · intro key
    rw [expanded.nodes]
    exact if_congr (borders_neighbors x ⟨id, direction⟩ key).symm rfl rfl
  · intro n known
    cases found : x.links.get? (Asker.ends ⟨id, direction⟩ n).1 (Asker.ends ⟨id, direction⟩ n).2 with
    | none => rw [expanded.links, found, Option.map_none, Option.map_none]
    | some link =>
        have member : x.borders ⟨id, direction⟩ n = true := by
          rw [borders, found]
          rfl
        have here := (reached (Asker.ends ⟨id, direction⟩ n).1 (Asker.ends ⟨id, direction⟩ n).2).mpr
          ⟨n, member, known, rfl⟩
        rw [expanded.links, found, Option.map_some, Option.map_some, Link.drawnIf, here, Bool.or_true]
  · intro s d other
    have elsewhere : reaches x.nodes ⟨id, direction⟩ (x.neighbors id direction) s d = false := by
      rw [Bool.eq_false_iff]
      intro here
      obtain ⟨n, _, known, same⟩ := (reached s d).mp here
      exact other n known same
    rw [expanded.links, elsewhere]
    exact (LinkTable.drawn_refl x.links s d).symm
  · intro n member fresh
    have listed := (borders_neighbors x ⟨id, direction⟩ n).mp member
    obtain ⟨fetch, found, waiting, serial⟩ := expanded.asked n listed fresh
    refine ⟨expanded.forgiven n listed fresh, fetch, found, ?_, waiting, serial⟩
    have distinct := joined_nodup _ ⟨id, direction⟩ (founded_askers x founded n).1
    rw [waiting]
    exact List.count_eq_one_of_mem distinct ((mem_joined _ _ _).mpr (.inr rfl))
  · intro key settled
    exact expanded.idle key fun member => settled ((borders_neighbors x ⟨id, direction⟩ key).mpr member)
  · rw [expand_tickets x id direction shown]
    exact (neighbors_ascending x id direction).filter _
  · refine ⟨x.neighbors id direction, neighbors_ascending x id direction, ?_, ?_⟩
    · intro n
      exact (borders_neighbors x ⟨id, direction⟩ n).symm
    · rw [expand, if_pos shown]
      exact reach_all_tells ⟨id, direction⟩ _ x shown (neighbors_distinct x id direction)
  · rw [expand, if_pos shown]
    exact reach_all_untouched ⟨id, direction⟩ _ x

variable [DecidableEq ε] {δ : Type} [Adjustable σ δ]

theorem expand_completes_and_repeats_idly (surface : σ) (settings : Settings α) (ops : List (Operation α ε δ))
    (id : String) (direction : Direction) :
    let x : Explorer α σ ε := (Explorer.new surface settings).run ops
    (x.nodes.isVisible id = false → x.expand id direction = ([], x)) ∧
      (x.nodes.isVisible id = true →
        Unfolds x ⟨id, direction⟩ (x.expand id direction).1 (x.expand id direction).2) ∧
      (x.expand id direction).2.expand id direction = ([], (x.expand id direction).2) := by
  intro x
  have ledger := run_ledger _ ops [] [] (new_ledger (ε := ε) surface settings)
  exact ⟨expand_hidden x id direction, expand_unfolds x (run_founded surface settings ops) _ _ ledger id direction,
    expand_twice x id direction⟩

-- The links of a: to itself, to b, which is closed, to c, for which d waits, and to e, of which nothing is known.
def surrounded : List (Operation Float Nat Empty) :=
  [.openRoot ⟨⟨"b", none⟩, []⟩, .collapse "b", .openRoot ⟨⟨"d", none⟩, [⟨"d", "c", "likes"⟩]⟩, .expand "d" .outbound,
    .openRoot ⟨⟨"a", none⟩, [⟨"a", "e", "knows"⟩, ⟨"a", "a", "sameAs"⟩, ⟨"a", "c", "knows"⟩, ⟨"a", "b", "knows"⟩]⟩]

theorem expand_completes_when_surrounded :
    (recorded surrounded).nodes.isVisible "c" = false ∧
      (recorded surrounded).expand "c" .outbound = ([], recorded surrounded) ∧
      (recorded surrounded).nodes.isVisible "a" = true ∧
      Unfolds (recorded surrounded) ⟨"a", .outbound⟩ ((recorded surrounded).expand "a" .outbound).1
        ((recorded surrounded).expand "a" .outbound).2 ∧
      ((recorded surrounded).expand "a" .outbound).2.expand "a" .outbound =
        ([], ((recorded surrounded).expand "a" .outbound).2) := by
  have hidden : (recorded surrounded).nodes.isVisible "c" = false := by decide +kernel
  have shown : (recorded surrounded).nodes.isVisible "a" = true := by decide +kernel
  obtain ⟨idle, _, _⟩ :=
    expand_completes_and_repeats_idly (CallLog.empty ⟨800, 600⟩ : CallLog Float) .standard surrounded "c" .outbound
  obtain ⟨_, unfolds, again⟩ :=
    expand_completes_and_repeats_idly (CallLog.empty ⟨800, 600⟩ : CallLog Float) .standard surrounded "a" .outbound
  exact ⟨hidden, idle hidden, shown, unfolds shown, again⟩

end Explorer

end GraphBrowser
