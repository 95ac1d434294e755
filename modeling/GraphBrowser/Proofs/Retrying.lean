import GraphBrowser.Proofs.Keeping
import GraphBrowser.Proofs.Placement

set_option autoImplicit false

namespace GraphBrowser

namespace Explorer

variable {α σ ε : Type} [Coordinate α]

theorem neighbors_distinct (x : Explorer α σ ε) (id : String) (direction : Direction) :
    (x.neighbors id direction).Nodup := by
  cases direction with
  | outbound => exact LinkTable.outbound_distinct x.links id
  | inbound => exact LinkTable.inbound_distinct x.links id

def unasked (x : Explorer α σ ε) (id : String) : Bool := x.nodes[id]?.isNone && x.pending[id]?.isNone

theorem request_tickets (x : Explorer α σ ε) (asker : Asker) (neighbor : String) :
    (x.request asker neighbor).1.toList.map Ticket.node = if x.pending[neighbor]?.isNone then [neighbor] else [] := by
  cases found : x.pending[neighbor]? with
  | none => simp [request, found]
  | some fetch =>
      simp only [request, found]
      split <;> rfl

-- A fetch of the node is under way, or one has failed.
def Booked (x : Explorer α σ ε) (id : String) : Prop :=
  x.pending[id]?.isSome = true ∨ x.failures[id]?.isSome = true

theorem booked_congr (x y : Explorer α σ ε) (id : String) (pending : y.pending[id]? = x.pending[id]?)
    (failures : y.failures[id]? = x.failures[id]?) (booked : Booked y id) : Booked x id := by
  rw [Booked, pending, failures] at booked
  exact booked

variable [Surface σ α ε]

theorem reach_tickets (x : Explorer α σ ε) (asker : Asker) (neighbor : String) :
    (x.reach asker neighbor).1.toList.map Ticket.node = [neighbor].filter x.unasked := by
  cases found : x.nodes[neighbor]? with
  | none =>
      rw [reach_unknown x asker neighbor found, request_tickets]
      simp [unasked, found, List.filter_cons]
  | some node =>
      obtain ⟨y, _, _, _, reached⟩ := reach_known x asker neighbor node found
      simp [reached, unasked, found]

theorem reach_all_tickets (asker : Asker) (neighbors : List String) (x : Explorer α σ ε)
    (shown : x.nodes.isVisible asker.anchor = true) (distinct : neighbors.Nodup) :
    (x.reachAll asker neighbors).1.map Ticket.node = neighbors.filter x.unasked := by
  induction neighbors generalizing x with
  | nil => rfl
  | cons neighbor rest ih =>
      rw [List.nodup_cons] at distinct
      have reached := reach_expanded x asker neighbor shown
      have still := (acts_keeps x _ (reach_acts x asker neighbor)).nodes asker.anchor shown
      have others : rest.filter (x.reach asker neighbor).2.unasked = rest.filter x.unasked := by
        apply List.filter_congr
        intro other member
        obtain ⟨pending, _⟩ := reached.idle other fun here =>
          absurd (List.mem_singleton.mp here ▸ member) distinct.1
        have known := expanded_known x _ asker [neighbor] reached other
        simp only [unasked, pending, ← Option.not_isSome, known]
      rw [reachAll, List.map_append, reach_tickets, ih _ still distinct.2, others, ← List.filter_append,
        List.singleton_append]

theorem expand_tickets (x : Explorer α σ ε) (id : String) (direction : Direction)
    (shown : x.nodes.isVisible id = true) :
    (x.expand id direction).1.map Ticket.node = (x.neighbors id direction).filter x.unasked := by
  rw [expand, if_pos shown]
  exact reach_all_tickets ⟨id, direction⟩ _ x shown (neighbors_distinct x id direction)

-- Expanding any visible node next to it asks for the node once, and forgets the failure.
def Retriable (x : Explorer α σ ε) (id : String) : Prop :=
  ∀ anchor direction, x.nodes.isVisible anchor = true → id ∈ x.neighbors anchor direction →
    ((x.expand anchor direction).1.map Ticket.node).count id = 1 ∧ (x.expand anchor direction).2.failures[id]? = none

theorem unknown_retriable (x : Explorer α σ ε) (id : String) (unknown : x.nodes[id]? = none)
    (idle : x.pending[id]? = none) : Retriable x id := by
  intro anchor direction shown neighbor
  refine ⟨?_, (expand_shown x anchor direction shown).forgiven id neighbor unknown⟩
  have asked : x.unasked id = true := by rw [unasked, unknown, idle]; rfl
  rw [expand_tickets x anchor direction shown, List.count_filter asked]
  exact List.count_eq_one_of_mem (neighbors_distinct x anchor direction) neighbor

variable [DecidableEq ε]

-- An answer cannot make a node known and leave something booked for it: while the node was fetched no failure
-- was held against it.
theorem redeem_booked (x : Explorer α σ ε) (founded : Founded x) (ticket : Ticket) (result : FetchResult) (id : String)
    (apart : x.pending[id]? = none ∨ x.failures[id]? = none) (booked : Booked (x.redeem ticket result).2 id)
    (known : (x.redeem ticket result).2.nodes[id]?.isSome = true) : Booked x id ∧ x.nodes[id]?.isSome = true := by
  rcases redeem_cases x ticket result with stale | ⟨live, _, closed⟩
  · rw [stale] at booked known
    exact ⟨booked, known⟩
  · by_cases here : id = ticket.node
    · subst here
      obtain ⟨fetch, found, _⟩ := Option.map_eq_some_iff.mp live
      have under : x.pending[ticket.node]?.isSome = true := by
        rw [found]
        rfl
      refine ⟨.inl under, ?_⟩
      cases refused : refusal ticket.node result with
      | some failure =>
          rw [redeem_refused x ticket result failure live refused] at known
          exact known
      | none =>
          obtain ⟨f, rfl, matching⟩ := accepted_refusal ticket.node result refused
          obtain ⟨_, _, _, books⟩ := redeem_arrived x ticket f live matching fun a member =>
            ((founded_askers x founded ticket.node).2 a member).apart
          obtain ⟨pending, rest⟩ := Prod.mk.inj books
          have failures := (Prod.mk.inj rest).1
          have spared : x.failures[ticket.node]? = none := by
            rw [found] at apart
            exact apart.resolve_left (Option.some_ne_none fetch)
          rw [Booked, pending, failures, IdMap.erase_get, if_pos rfl, spared] at booked
          simp at booked
    · refine ⟨booked_congr x _ id ?_ (closed.failures id here) booked, ?_⟩
      · rw [closed.pending, IdMap.erase_get, if_neg here]
      · rcases redeem_arrives x founded ticket result with ⟨same, _⟩ | ⟨f, _, _, matching, _, arrived⟩
        · rwa [same] at known
        · rwa [arrived.others id (matching ▸ here)] at known

variable {δ : Type} [Adjustable σ δ]

theorem perform_booked (x : Explorer α σ ε) (founded : Founded x) (op : Operation α ε δ) (id : String)
    (apart : x.pending[id]? = none ∨ x.failures[id]? = none) (booked : Booked (x.perform op) id)
    (known : (x.perform op).nodes[id]?.isSome = true) :
    (∃ f, op = .openRoot f ∧ f.id = id) ∨ Booked x id ∧ x.nodes[id]?.isSome = true := by
  have silent (y : Explorer α σ ε) (books : y.books = x.books) (element : y.element? id = x.element? id)
      (bookedThen : Booked y id) (knownThen : y.nodes[id]?.isSome = true) :
      Booked x id ∧ x.nodes[id]?.isSome = true := by
    obtain ⟨pending, rest⟩ := Prod.mk.inj books
    refine ⟨booked_congr x y id (by rw [pending]) (by rw [(Prod.mk.inj rest).1]) bookedThen, ?_⟩
    rwa [known_element, element, ← known_element] at knownThen
  cases op with
  | openRoot f =>
      by_cases here : id = f.id
      · exact .inl ⟨f, rfl, here.symm⟩
      · have same := (open_root_get x f id).trans (if_neg here)
        exact .inr (silent _ (open_root_books x f) (congrArg (Option.map Node.element) same) booked known)
  | expand anchor direction =>
      right
      rw [perform] at booked known
      cases shown : x.nodes.isVisible anchor with
      | false =>
          rw [expand_hidden x anchor direction shown] at booked known
          exact ⟨booked, known⟩
      | true =>
          have expanded := expand_shown x anchor direction shown
          rw [expanded_known x _ _ _ expanded] at known
          obtain ⟨pending, failures⟩ := expanded.idle id fun _ => known
          exact ⟨booked_congr x _ id pending failures booked, known⟩
  | redeem ticket result => exact .inr (redeem_booked x founded ticket result id apart booked known)
  | collapse closed => exact .inr (silent _ (collapse_books x closed) (collapsed_element x closed id) booked known)
  | runLayout => exact .inr (silent _ rfl rfl booked known)
  | cancelLayout => exact .inr (silent _ rfl rfl booked known)
  | applyFrame frame =>
      exact .inr (silent _ (apply_placements_books frame.placements x)
        (acts_lasting Node.element element_lasting x _ (apply_placements_acts frame.placements x) id) booked known)
  | adjust change => exact .inr (silent _ rfl rfl booked known)

theorem run_booked (surface : σ) (settings : Settings α) (ops : List (Operation α ε δ)) (id : String)
    (booked : Booked ((Explorer.new surface settings : Explorer α σ ε).run ops) id)
    (known : ((Explorer.new surface settings : Explorer α σ ε).run ops).nodes[id]?.isSome = true) :
    ∃ f, .openRoot f ∈ ops ∧ f.id = id := by
  induction ops using List.reverseRecOn with
  | nil => simp [run, Explorer.new] at known
  | append_singleton ops op ih =>
      have ledger := run_ledger _ ops [] [] (new_ledger (ε := ε) surface settings)
      rw [run_snoc] at booked known
      rcases perform_booked _ (run_founded surface settings ops) op id (ledger.apart id) booked known with
        ⟨f, opened, node⟩ | ⟨before, knownBefore⟩
      · exact ⟨f, by simp [opened], node⟩
      · obtain ⟨f, member, node⟩ := ih before knownBefore
        exact ⟨f, List.mem_append_left [op] member, node⟩

theorem perform_spares (x : Explorer α σ ε) (op : Operation α ε δ) (id : String) (known : x.nodes[id]?.isSome = true)
    (idle : x.pending[id]? = none) :
    (x.perform op).failures[id]? = x.failures[id]? ∧ ∀ t ∈ x.issues op, t.node ≠ id := by
  have silent (y : Explorer α σ ε) (books : y.books = x.books) : y.failures[id]? = x.failures[id]? := by
    rw [(Prod.mk.inj (Prod.mk.inj books).2).1]
  have unissued (t : Ticket) (member : t ∈ ([] : List Ticket)) : t.node ≠ id := by cases member
  cases op with
  | openRoot f => exact ⟨silent _ (open_root_books x f), unissued⟩
  | expand anchor direction =>
      rw [perform, issues]
      cases shown : x.nodes.isVisible anchor with
      | false =>
          rw [expand_hidden x anchor direction shown]
          exact ⟨rfl, unissued⟩
      | true =>
          refine ⟨((expand_shown x anchor direction shown).idle id fun _ => known).2, ?_⟩
          rintro t member rfl
          have asked : t.node ∈ (x.expand anchor direction).1.map Ticket.node := List.mem_map_of_mem member
          rw [expand_tickets x anchor direction shown, List.mem_filter, unasked, Bool.and_eq_true,
            Option.isNone_iff_eq_none] at asked
          rw [asked.2.1] at known
          cases known
  | redeem ticket result =>
      refine ⟨?_, unissued⟩
      rw [perform]
      rcases redeem_cases x ticket result with stale | ⟨live, _, closed⟩
      · rw [stale]
      · apply closed.failures
        rintro rfl
        rw [Live, idle] at live
        cases live
  | collapse closed => exact ⟨silent _ (collapse_books x closed), unissued⟩
  | runLayout => exact ⟨rfl, unissued⟩
  | cancelLayout => exact ⟨rfl, unissued⟩
  | applyFrame frame => exact ⟨silent _ (apply_placements_books frame.placements x), unissued⟩
  | adjust change => exact ⟨rfl, unissued⟩

theorem run_spares (x : Explorer α σ ε) (ops : List (Operation α ε δ)) (id : String)
    (known : x.nodes[id]?.isSome = true) (idle : x.pending[id]? = none) :
    (x.run ops).failures[id]? = x.failures[id]? ∧ ∀ t ∈ x.gathered issues ops, t.node ≠ id := by
  induction ops generalizing x with
  | nil => exact ⟨rfl, fun t member => by cases member⟩
  | cons op rest ih =>
      obtain ⟨kept, unissued⟩ := perform_spares x op id known idle
      obtain ⟨keptLater, unissuedLater⟩ := ih (x.perform op) (perform_known x op id known)
        (run_idle x [op] id known idle)
      refine ⟨keptLater.trans kept, ?_⟩
      intro t member
      rcases List.mem_append.mp member with now | later
      · exact unissued t now
      · exact unissuedLater t later

-- Whatever is done, the failure is held for good, and the node is not asked for again.
def HeldForGood (x : Explorer α σ ε) (id : String) (failure : Failure) : Prop :=
  ∀ later : List (Operation α ε δ), (x.run later).failures[id]? = some failure ∧
    ∀ t ∈ x.gathered issues later, t.node ≠ id

theorem failure_clears_unless_opened (surface : σ) (settings : Settings α) (ops : List (Operation α ε δ)) (id : String)
    (failure : Failure)
    (held : ((Explorer.new surface settings : Explorer α σ ε).run ops).failures[id]? = some failure) :
    let x : Explorer α σ ε := (Explorer.new surface settings).run ops
    x.pending[id]? = none ∧
      (x.nodes[id]? = none ∧ Retriable x id ∨
        x.nodes[id]?.isSome = true ∧ (∃ f, .openRoot f ∈ ops ∧ f.id = id) ∧ HeldForGood (δ := δ) x id failure) := by
  intro x
  have ledger := run_ledger _ ops [] [] (new_ledger (ε := ε) surface settings)
  have idle : x.pending[id]? = none := by
    apply (ledger.apart id).resolve_right
    rw [held]
    exact Option.some_ne_none failure
  refine ⟨idle, ?_⟩
  cases known : x.nodes[id]? with
  | none => exact .inl ⟨rfl, unknown_retriable x id known idle⟩
  | some node =>
      have knownToo : x.nodes[id]?.isSome = true := by
        rw [known]
        rfl
      refine .inr ⟨rfl, run_booked surface settings ops id (.inr (by rw [held]; rfl)) knownToo, ?_⟩
      intro later
      obtain ⟨kept, unissued⟩ := run_spares x later id knownToo idle
      exact ⟨kept.trans held, unissued⟩

def unanswered : List (Operation Float Nat Empty) :=
  [.openRoot ⟨⟨"a", none⟩, [⟨"a", "b", "knows"⟩]⟩, .expand "a" .outbound, .redeem ⟨"b", 1⟩ (.error (.status 503))]

theorem unanswered_failure_clears :
    (recorded unanswered).failures["b"]? = some (.fetch "b" (.status 503)) ∧
      (recorded unanswered).pending["b"]? = none ∧
      ((recorded unanswered).nodes["b"]? = none ∧ Retriable (recorded unanswered) "b" ∨
        (recorded unanswered).nodes["b"]?.isSome = true ∧ (∃ f, .openRoot f ∈ unanswered ∧ f.id = "b") ∧
          HeldForGood (δ := Empty) (recorded unanswered) "b" (.fetch "b" (.status 503))) := by
  have held : (recorded unanswered).failures["b"]? = some (.fetch "b" (.status 503)) := by decide +kernel
  exact ⟨held, failure_clears_unless_opened (CallLog.empty ⟨800, 600⟩) .standard unanswered "b" _ held⟩

-- Afterwards b is opened by itself.
def outlived : List (Operation Float Nat Empty) := unanswered ++ [.openRoot ⟨⟨"b", none⟩, []⟩]

theorem opened_node_keeps_its_failure :
    (recorded outlived).failures["b"]? = some (.fetch "b" (.status 503)) ∧
      (recorded outlived).nodes["b"]?.isSome = true ∧ (recorded outlived).nodes.isVisible "a" = true ∧
      (recorded outlived).neighbors "a" .outbound = ["b"] ∧ ((recorded outlived).expand "a" .outbound).1 = [] ∧
      ((recorded outlived).expand "a" .outbound).2.failures["b"]? = some (.fetch "b" (.status 503)) ∧
      ¬ Retriable (recorded outlived) "b" := by
  have held : (recorded outlived).failures["b"]? = some (.fetch "b" (.status 503)) := by decide +kernel
  have known : (recorded outlived).nodes["b"]?.isSome = true := by decide +kernel
  have shown : (recorded outlived).nodes.isVisible "a" = true := by decide +kernel
  have neighbors : (recorded outlived).neighbors "a" .outbound = ["b"] := by decide +kernel
  have unasked : ((recorded outlived).expand "a" .outbound).1 = [] := by decide +kernel
  have still : ((recorded outlived).expand "a" .outbound).2.failures["b"]? = some (.fetch "b" (.status 503)) := by
    decide +kernel
  refine ⟨held, known, shown, neighbors, unasked, still, ?_⟩
  intro retriable
  have asked := (retriable "a" .outbound shown (by simp [neighbors])).1
  rw [unasked] at asked
  cases asked

end Explorer

end GraphBrowser
