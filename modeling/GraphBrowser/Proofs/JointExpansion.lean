import GraphBrowser.Proofs.Unfolding

set_option autoImplicit false

namespace GraphBrowser

inductive Detail where
  | node (id : String)
  | link (source destination : String)
deriving DecidableEq

theorem flat_map_filter {β γ : Type} (list : List β) (kept : β → Bool) (f : β → List γ) :
    (list.flatMap fun b => if kept b then f b else []) = (list.filter kept).flatMap f := by
  induction list with
  | nil => rfl
  | cons head tail ih => cases here : kept head <;> simp [here, ih]

namespace Explorer

variable {α σ ε : Type} [Coordinate α]

-- What the surface is still to be told of a detail.
def due (x : Explorer α σ ε) : Detail → List (Showing ε)
  | .node id => x.unveiling id
  | .link s d => x.stroke s d

def details (x : Explorer α σ ε) (asker : Asker) : List Detail :=
  (x.neighbors asker.anchor asker.direction).flatMap fun n => [.node n, .link (asker.ends n).1 (asker.ends n).2]

def seeks (x : Explorer α σ ε) (asker : Asker) (id : String) : Bool := x.nodes[id]?.isNone && x.borders asker id

theorem seeks_iff (x : Explorer α σ ε) (asker : Asker) (id : String) : x.seeks asker id = true ↔
    id ∈ x.neighbors asker.anchor asker.direction ∧ x.nodes[id]? = none := by
  rw [seeks, ← borders_neighbors, Bool.and_eq_true, Option.isNone_iff_eq_none, and_comm]

def joins (x : Explorer α σ ε) (asker : Asker) (s d : String) : Bool :=
  reaches x.nodes asker (x.neighbors asker.anchor asker.direction) s d

theorem joins_iff (x : Explorer α σ ε) (asker : Asker) (s d : String) : x.joins asker s d = true ↔
    ∃ n, x.borders asker n = true ∧ x.nodes[n]?.isSome = true ∧ (s, d) = asker.ends n := by
  simp only [joins, reaches, List.any_eq_true, Bool.and_eq_true, beq_iff_eq, borders_neighbors]

theorem node_detail (x : Explorer α σ ε) (asker : Asker) (id : String) :
    .node id ∈ x.details asker ↔ x.borders asker id = true := by
  rw [details, borders_neighbors, List.mem_flatMap]
  simp

theorem link_detail (x : Explorer α σ ε) (asker : Asker) (s d : String) :
    .link s d ∈ x.details asker ↔ ∃ n, x.borders asker n = true ∧ (s, d) = asker.ends n := by
  rw [details, List.mem_flatMap]
  simp only [borders_neighbors, List.mem_cons, reduceCtorEq, Detail.link.injEq, List.not_mem_nil, or_false, false_or,
    Prod.ext_iff]

theorem details_distinct (x : Explorer α σ ε) (asker : Asker) : (x.details asker).Nodup := by
  rw [details, List.nodup_flatMap]
  refine ⟨fun n _ => by simp, (neighbors_distinct x asker.anchor asker.direction).imp ?_⟩
  intro m n apart
  have links : asker.ends n ≠ asker.ends m := fun same => apart ((asker.ends_neighbor n m).mp same).symm
  rw [ne_eq, Prod.ext_iff, not_and] at links
  simpa [Function.onFun, Ne.symm apart] using links

theorem details_due (x : Explorer α σ ε) (asker : Asker) :
    (x.details asker).flatMap x.due = (x.neighbors asker.anchor asker.direction).flatMap (x.showings asker) := by
  rw [details, List.flatMap_assoc]
  congr 1
  funext n
  simp [due, showings]

theorem request_counts (x : Explorer α σ ε) (asker : Asker) (neighbor : String) :
    (x.request asker neighbor).2.issued = x.issued + (x.request asker neighbor).1.toList.length := by
  cases found : x.pending[neighbor]? with
  | none => simp [request, found]
  | some fetch =>
      simp only [request, found]
      split <;> rfl

variable [Surface σ α ε]

theorem reach_counts (x : Explorer α σ ε) (asker : Asker) (neighbor : String) :
    (x.reach asker neighbor).2.issued = x.issued + (x.reach asker neighbor).1.toList.length := by
  cases found : x.nodes[neighbor]? with
  | none =>
      rw [reach_unknown x asker neighbor found]
      exact request_counts x asker neighbor
  | some node =>
      obtain ⟨y, _, _, books, reached⟩ := reach_known x asker neighbor node found
      have kept := (join_neighbor_books y asker neighbor).trans books
      rw [reached]
      exact (Prod.mk.inj (Prod.mk.inj kept).2).2

theorem reach_all_counts (asker : Asker) (neighbors : List String) (x : Explorer α σ ε) :
    (x.reachAll asker neighbors).2.issued = x.issued + (x.reachAll asker neighbors).1.length := by
  induction neighbors generalizing x with
  | nil => rfl
  | cons neighbor rest ih =>
      have later := ih (x.reach asker neighbor).2
      rw [reach_counts x asker neighbor] at later
      rw [reachAll, List.length_append]
      exact later.trans (Nat.add_assoc _ _ _)

-- What expanding these nodes does. It takes no order to say it.
structure Unfurled (x : Explorer α σ ε) (askers : List Asker) (tickets : List Ticket) (y : Explorer α σ ε) :
    Prop where
  nodes : ∀ id : String, y.nodes[id]? =
    if askers.any (x.borders · id) then x.nodes[id]?.map ({ · with visible := true }) else x.nodes[id]?
  links : x.links.Drawn y.links fun s d => askers.any (x.joins · s d)
  pending : ∀ id : String, y.pending[id]?.isSome = (x.pending[id]?.isSome || askers.any (x.seeks · id))
  waiting : ∀ id a, a ∈ y.askers id ↔ a ∈ x.askers id ∨ a ∈ askers ∧ x.seeks a id = true
  failures : ∀ id : String, y.failures[id]? = if askers.any (x.seeks · id) then none else x.failures[id]?
  once : (tickets.map Ticket.node).Nodup
  asked : ∀ id, id ∈ tickets.map Ticket.node ↔ askers.any (x.seeks · id) = true ∧ x.pending[id]? = none
  issued : y.issued = x.issued + tickets.length
  told : ∃ details : List Detail, details.Nodup ∧ (∀ detail, detail ∈ details ↔ ∃ a ∈ askers, detail ∈ x.details a) ∧
    y.surface = (details.flatMap x.due).foldl Showing.tell x.surface
  untouched : Untouched x y

theorem unfurled_nil (x : Explorer α σ ε) : Unfurled x [] [] x := by
  refine ⟨fun _ => rfl, ?_, ?_, ?_, fun _ => rfl, List.nodup_nil, ?_, rfl, ⟨[], List.nodup_nil, ?_, rfl⟩, ⟨rfl, rfl, rfl⟩⟩
  · exact LinkTable.drawn_refl x.links
  · simp
  · simp
  · simp
  · simp

theorem expand_unfurled (x : Explorer α σ ε) (asker : Asker) (shown : x.nodes.isVisible asker.anchor = true) :
    Unfurled x [asker] (x.expand asker.anchor asker.direction).1 (x.expand asker.anchor asker.direction).2 := by
  have expanded := expand_shown x asker.anchor asker.direction shown
  have tickets := expand_tickets x asker.anchor asker.direction shown
  have alone (f : Asker → Bool) : [asker].any f = f asker := by simp
  have books (id : String) := expanded_books x _ _ _ expanded id
  simp only [← seeks_iff] at books
  have counts : (x.expand asker.anchor asker.direction).2.issued =
      x.issued + (x.expand asker.anchor asker.direction).1.length := by
    rw [expand, if_pos shown]
    exact reach_all_counts asker _ x
  have told : (x.expand asker.anchor asker.direction).2.surface =
      ((x.details asker).flatMap x.due).foldl Showing.tell x.surface := by
    rw [expand, if_pos shown, details_due]
    exact reach_all_tells asker _ x shown (neighbors_distinct x asker.anchor asker.direction)
  have untouched : Untouched x (x.expand asker.anchor asker.direction).2 := by
    rw [expand, if_pos shown]
    exact reach_all_untouched asker _ x
  refine ⟨?_, ?_, ?_, ?_, ?_, ?_, ?_, counts, ⟨x.details asker, details_distinct x asker, by simp, told⟩, untouched⟩
  · intro id
    rw [expanded.nodes, alone]
    exact if_congr (borders_neighbors x asker id).symm rfl rfl
  · exact LinkTable.drawn_congr _ _ _ _ expanded.links fun s d => alone _
  · intro id
    rw [alone]
    rcases books id with ⟨sought, pending, _, _⟩ | ⟨settled, pending, _⟩
    · rw [pending, sought, Bool.or_true]
    · rw [pending, Bool.eq_false_of_not_eq_true settled, Bool.or_false]
  · intro id a
    rcases books id with ⟨sought, _, _, waiting⟩ | ⟨settled, pending, _⟩
    · rw [waiting, List.mem_singleton]
      exact or_congr_right ⟨fun same => ⟨same, same ▸ sought⟩, And.left⟩
    · rw [askers_congr x _ id pending, List.mem_singleton, or_iff_left]
      rintro ⟨rfl, sought⟩
      exact settled sought
  · intro id
    rw [alone]
    rcases books id with ⟨sought, _, failures, _⟩ | ⟨settled, _, failures⟩
    · rw [failures, if_pos sought]
    · rw [failures, if_neg settled]
  · rw [tickets]
    exact (neighbors_distinct x asker.anchor asker.direction).filter _
  · intro id
    rw [tickets, alone, seeks_iff, List.mem_filter, unasked, Bool.and_eq_true, Option.isNone_iff_eq_none,
      Option.isNone_iff_eq_none, and_assoc]

section Frame

variable (x y : Explorer α σ ε) (askers : List Asker) (tickets : List Ticket) (unfurled : Unfurled x askers tickets y)

include unfurled

theorem unfurled_known (id : String) : y.nodes[id]?.isSome = x.nodes[id]?.isSome := by
  rw [unfurled.nodes]
  split
  next => rw [Option.isSome_map]
  next => rfl

theorem unfurled_element (id : String) : y.element? id = x.element? id := by
  rw [element?, unfurled.nodes, element?]
  split
  next => rw [Option.map_map]; rfl
  next => rfl

theorem unfurled_borders (a : Asker) (id : String) : y.borders a id = x.borders a id :=
  LinkTable.drawn_known _ _ _ unfurled.links _ _

theorem unfurled_seeks (a : Asker) (id : String) : y.seeks a id = x.seeks a id := by
  rw [seeks, seeks, unfurled_borders x y askers tickets unfurled, ← Option.not_isSome, ← Option.not_isSome,
    unfurled_known x y askers tickets unfurled]

theorem unfurled_neighbors (a : Asker) : y.neighbors a.anchor a.direction = x.neighbors a.anchor a.direction :=
  neighbors_congr x y a.anchor a.direction (LinkTable.drawn_known _ _ _ unfurled.links)

theorem unfurled_details (a : Asker) : y.details a = x.details a := by
  rw [details, unfurled_neighbors x y askers tickets unfurled, details]

-- Once a detail was come by, nothing is due there. A link to an unknown node is not drawn anyhow.
theorem unfurled_due (detail : Detail) (met : ∃ a ∈ askers, detail ∈ x.details a) : y.due detail = [] := by
  obtain ⟨a, member, here⟩ := met
  cases detail with
  | node id =>
      have sought : askers.any (x.borders · id) = true :=
        List.any_eq_true.mpr ⟨a, member, (node_detail x a id).mp here⟩
      rw [due, unveiling, unfurled.nodes, if_pos sought]
      cases x.nodes[id]? <;> rfl
  | link s d =>
      obtain ⟨n, bordering, same⟩ := (link_detail x a s d).mp here
      cases found : x.nodes[n]? with
      | none =>
          have fresh : y.nodes[n]? = none := by
            rw [← Option.not_isSome_iff_eq_none, unfurled_known x y askers tickets unfurled, found]
            exact Bool.false_ne_true
          have silent := unknown_silent y a n fresh
          rw [showings, ← same] at silent
          exact (List.append_eq_nil_iff.mp silent).2
      | some node =>
          have reached : askers.any (x.joins · s d) = true := by
            refine List.any_eq_true.mpr ⟨a, member, (joins_iff x a s d).mpr ⟨n, bordering, ?_, same⟩⟩
            rw [found]
            rfl
          have drawn := unfurled.links s d
          simp only [reached] at drawn
          rw [due, stroke, drawn]
          cases x.links.get? s d with
          | none => cases y.element? s <;> cases y.element? d <;> rfl
          | some link => cases y.element? s <;> cases y.element? d <;> simp [Link.drawnIf]

theorem unfurled_undue (detail : Detail) (unmet : ¬ ∃ a ∈ askers, detail ∈ x.details a) : y.due detail = x.due detail := by
  cases detail with
  | node id =>
      have unsought : ¬ askers.any (x.borders · id) = true := by
        intro sought
        obtain ⟨a, member, bordering⟩ := List.any_eq_true.mp sought
        exact unmet ⟨a, member, (node_detail x a id).mpr bordering⟩
      rw [due, unveiling, unfurled.nodes, if_neg unsought]
      rfl
  | link s d =>
      have unreached : askers.any (x.joins · s d) = false := by
        rw [Bool.eq_false_iff]
        intro reached
        obtain ⟨a, member, drawn⟩ := List.any_eq_true.mp reached
        obtain ⟨n, bordering, _, same⟩ := (joins_iff x a s d).mp drawn
        exact unmet ⟨a, member, (link_detail x a s d).mpr ⟨n, bordering, same⟩⟩
      have drawn := unfurled.links s d
      simp only [unreached] at drawn
      have kept := drawn.trans (LinkTable.drawn_refl x.links s d).symm
      simp only [due, stroke, unfurled_element x y askers tickets unfurled, kept]

-- Of the details that are come by next, those that were come by before are passed over.
theorem unfurled_remaining (met others : List Detail)
    (listed : ∀ detail, detail ∈ met ↔ ∃ a ∈ askers, detail ∈ x.details a) :
    others.flatMap y.due = (others.filter fun detail => detail ∉ met).flatMap x.due := by
  have still (detail : Detail) : y.due detail = if decide (detail ∉ met) then x.due detail else [] := by
    simp only [decide_eq_true_eq]
    split
    next unmet => exact unfurled_undue x y askers tickets unfurled detail ((listed detail).not.mp unmet)
    next here => exact unfurled_due x y askers tickets unfurled detail ((listed detail).mp (not_not.mp here))
  rw [← flat_map_filter, ← funext still]

end Frame

theorem unfurled_append (x y z : Explorer α σ ε) (first second : List Asker) (earlier later : List Ticket)
    (before : Unfurled x first earlier y) (after : Unfurled y second later z) :
    Unfurled x (first ++ second) (earlier ++ later) z := by
  have borders := unfurled_borders x y first earlier before
  have seeks := unfurled_seeks x y first earlier before
  have details := unfurled_details x y first earlier before
  have pending (id : String) : y.pending[id]? = none ↔ x.pending[id]? = none ∧ first.any (x.seeks · id) = false := by
    simp only [← Option.not_isSome_iff_eq_none, before.pending, Bool.or_eq_true, not_or, Bool.not_eq_true]
  refine ⟨?_, ?_, ?_, ?_, ?_, ?_, ?_, ?_, ?_, ?_⟩
  · intro id
    rw [after.nodes, before.nodes, List.any_append]
    simp only [borders]
    cases first.any (x.borders · id) <;> cases second.any (x.borders · id) <;> simp [Function.comp_def]
  · refine LinkTable.drawn_congr _ _ _ _ (LinkTable.drawn_trans _ _ _ _ _ before.links after.links) ?_
    intro s d
    simp only [List.any_append, joins, reaches, unfurled_known x y first earlier before,
      unfurled_neighbors x y first earlier before]
  · intro id
    simp only [after.pending, before.pending, seeks, List.any_append, Bool.or_assoc]
  · intro id a
    rw [after.waiting, before.waiting, seeks, List.mem_append, or_and_right, or_assoc]
  · intro id
    rw [after.failures, before.failures, List.any_append]
    simp only [seeks]
    cases first.any (x.seeks · id) <;> cases second.any (x.seeks · id) <;> simp
  · rw [List.map_append, List.nodup_append]
    refine ⟨before.once, after.once, ?_⟩
    intro id old other new same
    have asked := ((before.asked id).mp old).1
    have idle := ((pending id).mp ((after.asked id).mp (same ▸ new)).2).2
    rw [asked] at idle
    cases idle
  · intro id
    rw [List.map_append, List.mem_append, before.asked, after.asked, pending, List.any_append]
    simp only [seeks]
    cases first.any (x.seeks · id) <;> cases second.any (x.seeks · id) <;> simp
  · rw [after.issued, before.issued, List.length_append, Nat.add_assoc]
  · obtain ⟨met, distinct, metIff, toldFirst⟩ := before.told
    obtain ⟨others, distinctLater, othersIff, toldLater⟩ := after.told
    have told := unfurled_remaining x y first earlier before met others metIff
    refine ⟨met ++ others.filter fun detail => detail ∉ met, ?_, ?_, ?_⟩
    · rw [List.nodup_append]
      refine ⟨distinct, distinctLater.filter _, ?_⟩
      intro detail old other new same
      have unmet := (List.mem_filter.mp new).2
      rw [← same] at unmet
      simp [old] at unmet
    · intro detail
      simp only [List.mem_append, List.mem_filter, othersIff, details, metIff, decide_eq_true_eq, or_and_right, exists_or]
      by_cases here : ∃ a ∈ first, detail ∈ x.details a <;> simp [here]
    · rw [toldLater, toldFirst, told, List.flatMap_append, List.foldl_append]
  · exact ⟨after.untouched.order.trans before.untouched.order, after.untouched.layout.trans before.untouched.layout,
      after.untouched.scatter.trans before.untouched.scatter⟩

def expandAll (x : Explorer α σ ε) : List Asker → List Ticket × Explorer α σ ε
  | [] => ([], x)
  | asker :: rest =>
      let (tickets, x) := x.expand asker.anchor asker.direction
      let (later, x) := x.expandAll rest
      (tickets ++ later, x)

theorem expand_all_unfurled (askers : List Asker) (x : Explorer α σ ε)
    (shown : ∀ a ∈ askers, x.nodes.isVisible a.anchor = true) :
    Unfurled x askers (x.expandAll askers).1 (x.expandAll askers).2 := by
  induction askers generalizing x with
  | nil => exact unfurled_nil x
  | cons asker rest ih =>
      have first := expand_unfurled x asker (shown asker List.mem_cons_self)
      have kept := acts_keeps x _ (expand_acts x asker.anchor asker.direction)
      have later := ih (x.expand asker.anchor asker.direction).2 fun a member =>
        kept.nodes a.anchor (shown a (List.mem_cons_of_mem asker member))
      exact unfurled_append x _ _ [asker] rest _ _ first later

end Explorer

end GraphBrowser
