import GraphBrowser.Proofs.Joining

set_option autoImplicit false

namespace GraphBrowser

namespace LinkTable

theorem mem_outbound (t : LinkTable) (id neighbor : String) :
    neighbor ∈ (t.outbound id).map Link.destination ↔ (t.get? id neighbor).isSome = true := by
  rw [List.mem_map, Option.isSome_iff_exists]
  constructor
  · intro ⟨l, listed, destination⟩
    rw [outbound, List.mem_mergeSort, List.mem_filter, beq_iff_eq] at listed
    exact ⟨l, (get_some_iff t id neighbor l).mpr ⟨listed.1, by rw [Link.ends, listed.2, destination]⟩⟩
  · intro ⟨l, found⟩
    obtain ⟨source, destination⟩ := get_ends t id neighbor l found
    have member := ((get_some_iff t id neighbor l).mp found).1
    refine ⟨l, ?_, destination⟩
    rw [outbound, List.mem_mergeSort, List.mem_filter, beq_iff_eq]
    exact ⟨member, source⟩

theorem mem_inbound (t : LinkTable) (id neighbor : String) :
    neighbor ∈ (t.inbound id).map Link.source ↔ (t.get? neighbor id).isSome = true := by
  rw [List.mem_map, Option.isSome_iff_exists]
  constructor
  · intro ⟨l, listed, source⟩
    rw [inbound, List.mem_mergeSort, List.mem_filter, beq_iff_eq] at listed
    exact ⟨l, (get_some_iff t neighbor id l).mpr ⟨listed.1, by rw [Link.ends, listed.2, source]⟩⟩
  · intro ⟨l, found⟩
    obtain ⟨source, destination⟩ := get_ends t neighbor id l found
    have member := ((get_some_iff t neighbor id l).mp found).1
    refine ⟨l, ?_, source⟩
    rw [inbound, List.mem_mergeSort, List.mem_filter, beq_iff_eq]
    exact ⟨member, destination⟩

end LinkTable

namespace Explorer

variable {α σ ε : Type} [Coordinate α]

theorem mem_neighbors (x : Explorer α σ ε) (asker : Asker) (neighbor : String) :
    neighbor ∈ x.neighbors asker.anchor asker.direction ↔
      (x.links.get? (asker.ends neighbor).1 (asker.ends neighbor).2).isSome = true := by
  cases asker with
  | mk anchor direction =>
      cases direction with
      | outbound => exact LinkTable.mem_outbound x.links anchor neighbor
      | inbound => exact LinkTable.mem_inbound x.links anchor neighbor

def joinedBy (askers : List Asker) (asker : Asker) : List Asker :=
  if asker ∈ askers then askers else askers ++ [asker]

theorem mem_joined (askers : List Asker) (asker a : Asker) : a ∈ joinedBy askers asker ↔ a ∈ askers ∨ a = asker := by
  unfold joinedBy
  split
  next waiting =>
    constructor
    · intro member
      exact .inl member
    · intro either
      cases either with
      | inl member => exact member
      | inr same => exact same ▸ waiting
  next => rw [List.mem_append, List.mem_singleton]

theorem joined_nodup (askers : List Asker) (asker : Asker) (distinct : askers.Nodup) :
    (joinedBy askers asker).Nodup := by
  unfold joinedBy
  split
  next => exact distinct
  next absent =>
    rw [List.nodup_append]
    refine ⟨distinct, List.nodup_singleton asker, ?_⟩
    intro a old b new same
    rw [List.mem_singleton] at new
    exact absent (new ▸ same ▸ old)

theorem joined_twice (askers : List Asker) (asker : Asker) :
    joinedBy (joinedBy askers asker) asker = joinedBy askers asker := by
  have waiting : asker ∈ joinedBy askers asker := (mem_joined askers asker asker).mpr (.inr rfl)
  rw [joinedBy, if_pos waiting]

def reaches (nodes : NodeTable ε) (asker : Asker) (neighbors : List String) (s d : String) : Bool :=
  neighbors.any fun n => nodes[n]?.isSome && (s, d) == asker.ends n

structure Expanded (x : Explorer α σ ε) (asker : Asker) (neighbors : List String) (y : Explorer α σ ε) : Prop where
  nodes : ∀ id : String, y.nodes[id]? =
    if id ∈ neighbors then x.nodes[id]?.map ({ · with visible := true }) else x.nodes[id]?
  links : x.links.Drawn y.links (reaches x.nodes asker neighbors)
  asked : ∀ id ∈ neighbors, x.nodes[id]? = none → ∃ fetch, y.pending[id]? = some fetch ∧
    fetch.askers = joinedBy (x.askers id) asker ∧ ∀ old, x.pending[id]? = some old → fetch.serial = old.serial
  forgiven : ∀ id ∈ neighbors, x.nodes[id]? = none → y.failures[id]? = none
  idle : ∀ id, (id ∈ neighbors → x.nodes[id]?.isSome = true) →
    y.pending[id]? = x.pending[id]? ∧ y.failures[id]? = x.failures[id]?

theorem expanded_known (x y : Explorer α σ ε) (asker : Asker) (neighbors : List String)
    (expanded : Expanded x asker neighbors y) (id : String) : y.nodes[id]?.isSome = x.nodes[id]?.isSome := by
  rw [expanded.nodes]
  split
  next => rw [Option.isSome_map]
  next => rfl

theorem expanded_unknown (x y : Explorer α σ ε) (asker : Asker) (neighbors : List String)
    (expanded : Expanded x asker neighbors y) (id : String) : y.nodes[id]? = none ↔ x.nodes[id]? = none := by
  rw [← Option.not_isSome_iff_eq_none, expanded_known x y asker neighbors expanded, Option.not_isSome_iff_eq_none]

theorem expanded_nil (x : Explorer α σ ε) (asker : Asker) : Expanded x asker [] x := by
  refine ⟨?_, LinkTable.drawn_refl x.links, ?_, ?_, fun _ _ => ⟨rfl, rfl⟩⟩
  · intro id
    simp
  · intro id member
    cases member
  · intro id member
    cases member

theorem expanded_append (x y z : Explorer α σ ε) (asker : Asker) (first second : List String)
    (before : Expanded x asker first y) (after : Expanded y asker second z) :
    Expanded x asker (first ++ second) z := by
  have unknown := expanded_unknown x y asker first before
  have known := expanded_known x y asker first before
  refine ⟨?_, ?_, ?_, ?_, ?_⟩
  · intro id
    rw [after.nodes, before.nodes]
    by_cases inFirst : id ∈ first
    · by_cases inSecond : id ∈ second <;> simp [inFirst, inSecond, Function.comp_def]
    · by_cases inSecond : id ∈ second <;> simp [inFirst, inSecond]
  · refine LinkTable.drawn_congr _ _ _ _ (LinkTable.drawn_trans _ _ _ _ _ before.links after.links) ?_
    intro s d
    simp only [reaches, List.any_append, known]
  · intro id member fresh
    by_cases inSecond : id ∈ second
    · obtain ⟨fetch, found, waiting, serial⟩ := after.asked id inSecond ((unknown id).mpr fresh)
      by_cases inFirst : id ∈ first
      · obtain ⟨earlier, foundEarlier, waitingEarlier, serialEarlier⟩ := before.asked id inFirst fresh
        refine ⟨fetch, found, ?_, ?_⟩
        · rw [waiting, askers_of_get y id earlier foundEarlier, waitingEarlier, joined_twice]
        · intro old foundOld
          rw [serial earlier foundEarlier, serialEarlier old foundOld]
      · obtain ⟨pending, _⟩ := before.idle id fun here => absurd here inFirst
        refine ⟨fetch, found, ?_, ?_⟩
        · rw [waiting, askers_congr x y id pending]
        · intro old foundOld
          exact serial old (pending.trans foundOld)
    · have inFirst : id ∈ first := (List.mem_append.mp member).resolve_right inSecond
      obtain ⟨pending, _⟩ := after.idle id fun here => absurd here inSecond
      rw [pending]
      exact before.asked id inFirst fresh
  · intro id member fresh
    by_cases inSecond : id ∈ second
    · exact after.forgiven id inSecond ((unknown id).mpr fresh)
    · have inFirst : id ∈ first := (List.mem_append.mp member).resolve_right inSecond
      obtain ⟨_, failures⟩ := after.idle id fun here => absurd here inSecond
      rw [failures, before.forgiven id inFirst fresh]
  · intro id settled
    obtain ⟨pending, failures⟩ := before.idle id fun here => settled (List.mem_append_left second here)
    obtain ⟨pendingLater, failuresLater⟩ := after.idle id fun here => by
      rw [known, settled (List.mem_append_right first here)]
    exact ⟨pendingLater.trans pending, failuresLater.trans failures⟩

theorem expanded_visible (x y : Explorer α σ ε) (asker : Asker) (neighbors : List String)
    (expanded : Expanded x asker neighbors y) (id : String) (shown : x.nodes.isVisible id = true) :
    y.nodes.isVisible id = true := by
  obtain ⟨node, found, visible⟩ := (NodeTable.visible_iff x.nodes id).mp shown
  rw [NodeTable.isVisible, expanded.nodes, found]
  split
  next => rfl
  next => simpa using visible

theorem expanded_neighbors (x y : Explorer α σ ε) (asker : Asker) (neighbors : List String)
    (expanded : Expanded x asker neighbors y) (a : Asker) (neighbor : String) :
    neighbor ∈ y.neighbors a.anchor a.direction ↔ neighbor ∈ x.neighbors a.anchor a.direction := by
  rw [mem_neighbors, mem_neighbors, LinkTable.drawn_known _ _ _ expanded.links]

theorem expanded_books (x y : Explorer α σ ε) (asker : Asker) (neighbors : List String)
    (expanded : Expanded x asker neighbors y) (id : String) :
    ((id ∈ neighbors ∧ x.nodes[id]? = none) ∧ y.pending[id]?.isSome = true ∧ y.failures[id]? = none ∧
        ∀ a, a ∈ y.askers id ↔ a ∈ x.askers id ∨ a = asker) ∨
      ¬ (id ∈ neighbors ∧ x.nodes[id]? = none) ∧ y.pending[id]? = x.pending[id]? ∧
        y.failures[id]? = x.failures[id]? := by
  by_cases asked : id ∈ neighbors ∧ x.nodes[id]? = none
  · obtain ⟨fetch, found, waiting, _⟩ := expanded.asked id asked.1 asked.2
    refine .inl ⟨asked, by rw [found]; rfl, expanded.forgiven id asked.1 asked.2, ?_⟩
    intro a
    rw [askers_of_get y id fetch found, waiting, mem_joined]
  · refine .inr ⟨asked, expanded.idle id ?_⟩
    intro member
    rw [Option.isSome_iff_ne_none]
    exact fun fresh => asked ⟨member, fresh⟩

theorem request_expanded (x : Explorer α σ ε) (asker : Asker) (neighbor : String) (fresh : x.nodes[neighbor]? = none) :
    Expanded x asker [neighbor] (x.request asker neighbor).2 := by
  have forgiven (id : String) : (x.failures.erase neighbor)[id]? = if id = neighbor then none else x.failures[id]? :=
    IdMap.erase_get x.failures neighbor id
  -- What the three branches of a request have in common.
  have common (pending : IdMap Pending) (issued : Nat) (fetch : Pending) (here : pending[neighbor]? = some fetch)
      (elsewhere : ∀ id, id ≠ neighbor → pending[id]? = x.pending[id]?)
      (waiting : fetch.askers = joinedBy (x.askers neighbor) asker)
      (serial : ∀ old, x.pending[neighbor]? = some old → fetch.serial = old.serial) :
      Expanded x asker [neighbor] { x with failures := x.failures.erase neighbor, pending, issued } := by
    refine ⟨?_, ?_, ?_, ?_, ?_⟩
    · intro id
      by_cases same : id = neighbor
      · subst same
        simp [fresh]
      · simp [same]
    · refine LinkTable.drawn_congr _ _ _ _ (LinkTable.drawn_refl x.links) ?_
      intro s d
      simp only [reaches, List.any_cons, List.any_nil, fresh, Option.isSome_none, Bool.false_and, Bool.or_false]
    · intro id member _
      rw [List.mem_singleton] at member
      subst member
      exact ⟨fetch, here, waiting, serial⟩
    · intro id member _
      rw [List.mem_singleton] at member
      exact (forgiven id).trans (if_pos member)
    · intro id settled
      have other : id ≠ neighbor := by
        intro same
        have known := settled (List.mem_singleton.mpr same)
        rw [same, fresh] at known
        cases known
      exact ⟨elsewhere id other, (forgiven id).trans (if_neg other)⟩
  cases found : x.pending[neighbor]? with
  | none =>
      have nobody : x.askers neighbor = [] := by
        rw [askers, found]
        rfl
      simp only [request, found]
      refine common _ _ ⟨x.issued + 1, [asker]⟩ ?_ ?_ ?_ ?_
      · rw [IdMap.insert_get, if_pos rfl]
      · intro id other
        rw [IdMap.insert_get, if_neg other]
      · rw [nobody]
        rfl
      · intro old foundOld
        rw [found] at foundOld
        cases foundOld
  | some fetch =>
      have waiting := askers_of_get x neighbor fetch found
      by_cases member : asker ∈ fetch.askers
      · simp only [request, found, if_pos member]
        refine common x.pending x.issued fetch found (fun _ _ => rfl) ?_ ?_
        · rw [waiting, joinedBy, if_pos member]
        · intro old foundOld
          rw [Option.some.inj (found.symm.trans foundOld)]
      · simp only [request, found, if_neg member]
        refine common _ x.issued { fetch with askers := fetch.askers ++ [asker] } ?_ ?_ ?_ ?_
        · rw [IdMap.insert_get, if_pos rfl]
        · intro id other
          rw [IdMap.insert_get, if_neg other]
        · rw [waiting, joinedBy, if_neg member]
        · intro old foundOld
          rw [Option.some.inj (found.symm.trans foundOld)]

variable [Surface σ α ε]

theorem reach_unknown (x : Explorer α σ ε) (asker : Asker) (neighbor : String) (fresh : x.nodes[neighbor]? = none) :
    x.reach asker neighbor = x.request asker neighbor := by
  simp only [reach, fresh]

-- A known neighbour is visible afterwards whether or not it was before.
theorem reach_known (x : Explorer α σ ε) (asker : Asker) (neighbor : String) (node : Node ε)
    (known : x.nodes[neighbor]? = some node) : ∃ y : Explorer α σ ε,
      y.nodes = x.nodes.setVisible neighbor true ∧ y.links = x.links ∧ y.books = x.books ∧
      x.reach asker neighbor = (none, (y.joinNeighbor asker neighbor).2) := by
  cases shown : node.visible with
  | true =>
      refine ⟨x, ?_, rfl, rfl, by simp [reach, known, shown]⟩
      have idle : x.nodes.changing? neighbor true = none := by simp [NodeTable.changing?, known, shown]
      rw [NodeTable.set_visible_idle x.nodes neighbor true idle]
  | false => exact ⟨x.reveal neighbor, reveal_nodes x neighbor, rfl, rfl, by simp [reach, known, shown]⟩

theorem reach_expanded (x : Explorer α σ ε) (asker : Asker) (neighbor : String)
    (shown : x.nodes.isVisible asker.anchor = true) : Expanded x asker [neighbor] (x.reach asker neighbor).2 := by
  cases found : x.nodes[neighbor]? with
  | none =>
      rw [reach_unknown x asker neighbor found]
      exact request_expanded x asker neighbor found
  | some node =>
      obtain ⟨y, nodes, links, books, reached⟩ := reach_known x asker neighbor node found
      have bothShown : (y.nodes.isVisible asker.anchor && y.nodes.isVisible neighbor) = true := by
        rw [nodes, NodeTable.set_visible_visible, NodeTable.set_visible_visible, if_pos rfl, found, shown]
        split
        next here => simp [here, found]
        next => rfl
      have after : (y.joinNeighbor asker neighbor).2.nodes = y.nodes := join_nodes y _ _
      have kept := (join_neighbor_books y asker neighbor).trans books
      obtain ⟨pending, rest⟩ := Prod.mk.inj kept
      obtain ⟨failures, _⟩ := Prod.mk.inj rest
      have known (id : String) (here : id ∈ [neighbor]) : x.nodes[id]? ≠ none := by
        rw [List.mem_singleton] at here
        rw [here, found]
        exact Option.some_ne_none node
      rw [reached]
      refine ⟨?_, ?_, ?_, ?_, ?_⟩
      · intro id
        rw [after, nodes, NodeTable.set_visible_get]
        simp only [List.mem_singleton]
      · have drawn := join_neighbor_drawn y asker neighbor
        rw [links] at drawn
        refine LinkTable.drawn_congr _ _ _ _ drawn ?_
        intro s d
        simp only [reaches, List.any_cons, List.any_nil, found, bothShown, Option.isSome_some, Bool.true_and,
          Bool.or_false]
      · intro id here fresh
        exact absurd fresh (known id here)
      · intro id here fresh
        exact absurd fresh (known id here)
      · intro id _
        exact ⟨by rw [pending], by rw [failures]⟩

theorem reach_all_expanded (asker : Asker) (neighbors : List String) (x : Explorer α σ ε)
    (shown : x.nodes.isVisible asker.anchor = true) : Expanded x asker neighbors (x.reachAll asker neighbors).2 := by
  induction neighbors generalizing x with
  | nil => exact expanded_nil x asker
  | cons neighbor rest ih =>
      have first := reach_expanded x asker neighbor shown
      have still : (x.reach asker neighbor).2.nodes.isVisible asker.anchor = true := by
        rw [NodeTable.isVisible, first.nodes]
        split
        next =>
          obtain ⟨node, found, _⟩ := (NodeTable.visible_iff x.nodes asker.anchor).mp shown
          simp [found]
        next => exact shown
      exact expanded_append x _ _ asker [neighbor] rest first (ih (x.reach asker neighbor).2 still)

theorem expand_hidden (x : Explorer α σ ε) (id : String) (direction : Direction)
    (hidden : x.nodes.isVisible id = false) : x.expand id direction = ([], x) := by
  simp [expand, hidden]

theorem expand_shown (x : Explorer α σ ε) (id : String) (direction : Direction)
    (shown : x.nodes.isVisible id = true) :
    Expanded x ⟨id, direction⟩ (x.neighbors id direction) (x.expand id direction).2 := by
  rw [expand, if_pos shown]
  exact reach_all_expanded ⟨id, direction⟩ _ x shown

end Explorer

end GraphBrowser
