import GraphBrowser.Proofs.Books
import GraphBrowser.Proofs.Session

set_option autoImplicit false

namespace GraphBrowser.Explorer

variable {α σ ε : Type} [Coordinate α]

-- The state of an explorer after it has issued and taken back these tickets, in the order of the lists.
structure Ledger (x : Explorer α σ ε) (issued redeemed : List Ticket) : Prop where
  serials : ∀ t ∈ issued, t.serial ≤ x.issued
  distinct : issued.Nodup
  once : redeemed.Nodup
  genuine : ∀ t ∈ redeemed, t ∈ issued
  open_iff : ∀ t, x.Live t ↔ t ∈ issued ∧ t ∉ redeemed
  apart : ∀ id : String, x.pending[id]? = none ∨ x.failures[id]? = none

theorem new_ledger (surface : σ) (settings : Settings α) :
    Ledger (Explorer.new surface settings : Explorer α σ ε) [] [] := by
  refine ⟨?_, List.nodup_nil, List.nodup_nil, ?_, ?_, ?_⟩
  · intro t member
    cases member
  · intro t member
    cases member
  · intro t
    simp [Explorer.new, Live]
  · intro id
    simp [Explorer.new]

theorem ledger_frame (x y : Explorer α σ ε) (issued redeemed : List Ticket) (ledger : Ledger x issued redeemed)
    (pending : ∀ id : String, y.pending[id]?.map Pending.serial = x.pending[id]?.map Pending.serial)
    (count : y.issued = x.issued) (apart : ∀ id : String, y.pending[id]? = none ∨ y.failures[id]? = none) :
    Ledger y issued redeemed := by
  refine ⟨?_, ledger.distinct, ledger.once, ledger.genuine, ?_, apart⟩
  · rw [count]
    exact ledger.serials
  · intro t
    rw [Live, pending]
    exact ledger.open_iff t

theorem ledger_of_books (x y : Explorer α σ ε) (same : y.books = x.books) (issued redeemed : List Ticket)
    (ledger : Ledger x issued redeemed) : Ledger y issued redeemed := by
  obtain ⟨pending, rest⟩ := Prod.mk.inj same
  obtain ⟨failures, count⟩ := Prod.mk.inj rest
  refine ledger_frame x y issued redeemed ledger ?_ count ?_
  · intro id
    rw [pending]
  · intro id
    rw [pending, failures]
    exact ledger.apart id

structure Accounted (x : Explorer α σ ε) (issued redeemed : List Ticket) : Prop where
  distinct : issued.Nodup
  once : ∀ t, redeemed.count t ≤ 1
  pending : ∀ id, id ∈ x.pending ↔ ∃! t, t ∈ issued ∧ t.node = id ∧ t ∉ redeemed
  others : ∀ id, id ∉ x.pending → ∀ t ∈ issued, t.node = id → t ∈ redeemed
  apart : ∀ id, ¬ (id ∈ x.pending ∧ id ∈ x.failures)

theorem ledger_accounted (x : Explorer α σ ε) (issued redeemed : List Ticket)
    (ledger : Ledger x issued redeemed) : Accounted x issued redeemed := by
  refine ⟨ledger.distinct, List.nodup_iff_count_le_one.mp ledger.once, ?_, ?_, ?_⟩
  · intro id
    rw [pending_iff]
    constructor
    · rintro ⟨t, node, live⟩
      obtain ⟨member, kept⟩ := (ledger.open_iff t).mp live
      refine ⟨t, ⟨member, node, kept⟩, ?_⟩
      rintro other ⟨otherMember, otherNode, otherKept⟩
      have otherLive := (ledger.open_iff other).mpr ⟨otherMember, otherKept⟩
      exact live_unique x other t (otherNode.trans node.symm) otherLive live
    · rintro ⟨t, ⟨member, node, kept⟩, _⟩
      exact ⟨t, node, (ledger.open_iff t).mpr ⟨member, kept⟩⟩
  · intro id idle t member node
    by_contra kept
    have live := (ledger.open_iff t).mpr ⟨member, kept⟩
    exact idle ((pending_iff x id).mpr ⟨t, node, live⟩)
  · rintro id ⟨pending, failed⟩
    obtain ⟨fetch, found⟩ := (IdMap.mem_iff x.pending id).mp pending
    obtain ⟨failure, held⟩ := (IdMap.mem_iff x.failures id).mp failed
    rcases ledger.apart id with idle | forgiven
    · simp [found] at idle
    · simp [held] at forgiven

-- Forgetting what was held against a node keeps pending and failed apart, whatever is pending for that node.
theorem forget_apart (x : Explorer α σ ε) (neighbor : String) (pending : IdMap Pending)
    (apart : ∀ id : String, x.pending[id]? = none ∨ x.failures[id]? = none)
    (elsewhere : ∀ id, id ≠ neighbor → pending[id]? = x.pending[id]?) (id : String) :
    pending[id]? = none ∨ (x.failures.erase neighbor)[id]? = none := by
  rw [IdMap.erase_get]
  by_cases here : id = neighbor
  · right
    rw [if_pos here]
  · rw [elsewhere id here, if_neg here]
    exact apart id

theorem issue_ledger (x : Explorer α σ ε) (asker : Asker) (neighbor : String) (issued redeemed : List Ticket)
    (ledger : Ledger x issued redeemed) (idle : x.pending[neighbor]? = none) :
    Ledger { x with
      failures := x.failures.erase neighbor
      pending := x.pending.insert neighbor ⟨x.issued + 1, [asker]⟩
      issued := x.issued + 1 } (issued ++ [⟨neighbor, x.issued + 1⟩]) redeemed := by
  have unissued (t : Ticket) (new : t.serial = x.issued + 1) : t ∉ issued := by
    intro old
    have bound := ledger.serials t old
    omega
  refine ⟨?_, ?_, ledger.once, ?_, ?_, forget_apart x neighbor _ ledger.apart ?_⟩
  · intro t member
    rcases List.mem_append.mp member with old | new
    · exact Nat.le_succ_of_le (ledger.serials t old)
    · obtain rfl := List.mem_singleton.mp new
      exact Nat.le_refl _
  · rw [List.nodup_append]
    refine ⟨ledger.distinct, List.nodup_singleton _, ?_⟩
    rintro t old other new rfl
    exact unissued t (by rw [List.mem_singleton.mp new]) old
  · intro t back
    exact List.mem_append_left _ (ledger.genuine t back)
  · intro t
    rw [Live, IdMap.insert_get, List.mem_append, List.mem_singleton]
    by_cases here : t.node = neighbor
    · have closed : ¬ (t ∈ issued ∧ t ∉ redeemed) := by
        rw [← ledger.open_iff, Live, here, idle]
        simp
      rw [if_pos here]
      constructor
      · intro serial
        have new : t.serial = x.issued + 1 := (Option.some.inj serial).symm
        have same : t = ⟨neighbor, x.issued + 1⟩ := by rw [← here, ← new]
        exact ⟨.inr same, fun back => unissued t new (ledger.genuine t back)⟩
      · rintro ⟨old | rfl, kept⟩
        · exact absurd ⟨old, kept⟩ closed
        · rfl
    · have other : t ≠ ⟨neighbor, x.issued + 1⟩ := by
        rintro rfl
        exact here rfl
      rw [if_neg here, ← Live, ledger.open_iff]
      simp only [other, or_false]
  · intro id other
    rw [IdMap.insert_get, if_neg other]

theorem request_ledger (x : Explorer α σ ε) (asker : Asker) (neighbor : String) (issued redeemed : List Ticket)
    (ledger : Ledger x issued redeemed) :
    Ledger (x.request asker neighbor).2 (issued ++ (x.request asker neighbor).1.toList) redeemed := by
  cases found : x.pending[neighbor]? with
  | none =>
      have asked : x.request asker neighbor = (some ⟨neighbor, x.issued + 1⟩, { x with
          failures := x.failures.erase neighbor
          pending := x.pending.insert neighbor ⟨x.issued + 1, [asker]⟩
          issued := x.issued + 1 }) := by
        simp only [request, found]
      rw [asked]
      exact issue_ledger x asker neighbor issued redeemed ledger found
  | some fetch =>
      by_cases waiting : asker ∈ fetch.askers
      · have asked : x.request asker neighbor = (none, { x with failures := x.failures.erase neighbor }) := by
          simp only [request, found, if_pos waiting]
        rw [asked, Option.toList_none, List.append_nil]
        refine ledger_frame x _ issued redeemed ledger (fun _ => rfl) rfl ?_
        exact forget_apart x neighbor x.pending ledger.apart (fun _ _ => rfl)
      · have asked : x.request asker neighbor = (none, { x with
            failures := x.failures.erase neighbor
            pending := x.pending.insert neighbor { fetch with askers := fetch.askers ++ [asker] } }) := by
          simp only [request, found, if_neg waiting]
        rw [asked, Option.toList_none, List.append_nil]
        refine ledger_frame x _ issued redeemed ledger ?_ rfl (forget_apart x neighbor _ ledger.apart ?_)
        · intro id
          rw [IdMap.insert_get]
          by_cases here : id = neighbor
          · simp [here, found]
          · simp [here]
        · intro id other
          rw [IdMap.insert_get, if_neg other]

-- Once a ticket is redeemed it is as if it had never been issued.
theorem ledger_settled (x : Explorer α σ ε) (before after : List Ticket) (ticket : Ticket)
    (ledger : Ledger x (before ++ ticket :: after) [ticket]) : Ledger x (before ++ after) [] := by
  have distinct := ledger.distinct
  rw [List.nodup_middle, List.nodup_cons] at distinct
  refine ⟨?_, distinct.2, List.nodup_nil, ?_, ?_, ledger.apart⟩
  · intro t member
    apply ledger.serials t
    rw [(List.perm_middle).mem_iff]
    exact List.mem_cons_of_mem ticket member
  · intro t back
    cases back
  · intro t
    rw [ledger.open_iff]
    constructor
    · intro ⟨member, other⟩
      refine ⟨?_, List.not_mem_nil⟩
      rw [(List.perm_middle).mem_iff] at member
      exact (List.mem_cons.mp member).resolve_left fun same => other (List.mem_singleton.mpr same)
    · intro ⟨member, _⟩
      refine ⟨?_, fun same => distinct.1 (List.mem_singleton.mp same ▸ member)⟩
      rw [(List.perm_middle).mem_iff]
      exact List.mem_cons_of_mem ticket member

variable [Surface σ α ε]

theorem reach_ledger (x : Explorer α σ ε) (asker : Asker) (neighbor : String) (issued redeemed : List Ticket)
    (ledger : Ledger x issued redeemed) :
    Ledger (x.reach asker neighbor).2 (issued ++ (x.reach asker neighbor).1.toList) redeemed := by
  cases found : x.nodes[neighbor]? with
  | none =>
      have asked : x.reach asker neighbor = x.request asker neighbor := by simp only [reach, found]
      rw [asked]
      exact request_ledger x asker neighbor issued redeemed ledger
  | some node =>
      have silent : (x.reach asker neighbor).1 = none := by simp only [reach, found]
      have books : (x.reach asker neighbor).2.books = x.books := by
        simp only [reach, found]
        refine (join_neighbor_books _ asker neighbor).trans ?_
        split <;> rfl
      rw [silent, Option.toList_none, List.append_nil]
      exact ledger_of_books x _ books issued redeemed ledger

theorem reach_all_ledger (asker : Asker) (neighbors : List String) (x : Explorer α σ ε)
    (issued redeemed : List Ticket) (ledger : Ledger x issued redeemed) :
    Ledger (x.reachAll asker neighbors).2 (issued ++ (x.reachAll asker neighbors).1) redeemed := by
  induction neighbors generalizing x issued with
  | nil =>
      rw [reachAll, List.append_nil]
      exact ledger
  | cons neighbor rest ih =>
      rw [reachAll, ← List.append_assoc]
      exact ih (x.reach asker neighbor).2 _ (reach_ledger x asker neighbor issued redeemed ledger)

theorem expand_ledger (x : Explorer α σ ε) (id : String) (direction : Direction) (issued redeemed : List Ticket)
    (ledger : Ledger x issued redeemed) :
    Ledger (x.expand id direction).2 (issued ++ (x.expand id direction).1) redeemed := by
  unfold expand
  split
  next => exact reach_all_ledger _ _ x issued redeemed ledger
  next =>
    rw [List.append_nil]
    exact ledger

variable [DecidableEq ε]

theorem redeem_ledger (x : Explorer α σ ε) (ticket : Ticket) (result : FetchResult) (issued redeemed : List Ticket)
    (ledger : Ledger x issued redeemed) :
    Ledger (x.redeem ticket result).2 issued
      (redeemed ++ if (x.redeem ticket result).1 = .stale then [] else [ticket]) := by
  rcases redeem_cases x ticket result with idle | ⟨live, answered, closed⟩
  · rw [idle, if_pos rfl, List.append_nil]
    exact ledger
  · obtain ⟨genuine, unused⟩ := (ledger.open_iff ticket).mp live
    rw [if_neg answered]
    refine ⟨?_, ledger.distinct, ?_, ?_, ?_, ?_⟩
    · rw [closed.issued]
      exact ledger.serials
    · rw [List.nodup_append]
      refine ⟨ledger.once, List.nodup_singleton _, ?_⟩
      rintro t old other new rfl
      exact unused (List.mem_singleton.mp new ▸ old)
    · intro t member
      rcases List.mem_append.mp member with old | new
      · exact ledger.genuine t old
      · rw [List.mem_singleton.mp new]
        exact genuine
    · intro t
      rw [Live, closed.pending, IdMap.erase_get, List.mem_append, List.mem_singleton, not_or]
      by_cases here : t.node = ticket.node
      · rw [if_pos here]
        constructor
        · intro never
          cases never
        · rintro ⟨member, kept, other⟩
          have openToo := (ledger.open_iff t).mpr ⟨member, kept⟩
          exact absurd (live_unique x t ticket here openToo live) other
      · have other : t ≠ ticket := by
          rintro rfl
          exact here rfl
        rw [if_neg here, ← Live, ledger.open_iff]
        simp only [other, not_false_eq_true, and_true]
    · intro id
      rw [closed.pending, IdMap.erase_get]
      by_cases here : id = ticket.node
      · left
        rw [if_pos here]
      · rw [if_neg here, closed.failures id here]
        exact ledger.apart id

theorem redeem_settled (x : Explorer α σ ε) (before after : List Ticket) (ticket : Ticket) (result : FetchResult)
    (ledger : Ledger x (before ++ ticket :: after) []) (answered : (x.redeem ticket result).1 ≠ .stale) :
    Ledger (x.redeem ticket result).2 (before ++ after) [] := by
  have redeemed := redeem_ledger x ticket result _ [] ledger
  rw [if_neg answered] at redeemed
  exact ledger_settled _ before after ticket redeemed

variable {δ : Type} [Adjustable σ δ]

def issues (x : Explorer α σ ε) : Operation α ε δ → List Ticket
  | .expand id direction => (x.expand id direction).1
  | _ => []

-- The ticket that an operation redeems. A stale ticket is not redeemed.
def redeems (x : Explorer α σ ε) : Operation α ε δ → List Ticket
  | .redeem ticket result => if (x.redeem ticket result).1 = .stale then [] else [ticket]
  | _ => []

def gathered (read : Explorer α σ ε → Operation α ε δ → List Ticket) (x : Explorer α σ ε) :
    List (Operation α ε δ) → List Ticket
  | [] => []
  | op :: rest => read x op ++ gathered read (x.perform op) rest

theorem perform_ledger (x : Explorer α σ ε) (op : Operation α ε δ) (issued redeemed : List Ticket)
    (ledger : Ledger x issued redeemed) :
    Ledger (x.perform op) (issued ++ x.issues op) (redeemed ++ x.redeems op) := by
  have silent (y : Explorer α σ ε) (books : y.books = x.books) : Ledger y (issued ++ []) (redeemed ++ []) := by
    rw [List.append_nil, List.append_nil]
    exact ledger_of_books x y books issued redeemed ledger
  cases op with
  | openRoot fragment => exact silent _ (open_root_books x fragment)
  | expand id direction =>
      have expanded := expand_ledger x id direction issued redeemed ledger
      rwa [← List.append_nil redeemed] at expanded
  | redeem ticket result =>
      have redeemedNow := redeem_ledger x ticket result issued redeemed ledger
      rwa [← List.append_nil issued] at redeemedNow
  | collapse id => exact silent _ (collapse_books x id)
  | runLayout => exact silent _ rfl
  | cancelLayout => exact silent _ rfl
  | applyFrame frame => exact silent _ (apply_placements_books frame.placements x)
  | adjust change => exact silent _ rfl

theorem run_ledger (x : Explorer α σ ε) (ops : List (Operation α ε δ)) (issued redeemed : List Ticket)
    (ledger : Ledger x issued redeemed) :
    Ledger (x.run ops) (issued ++ gathered issues x ops) (redeemed ++ gathered redeems x ops) := by
  induction ops generalizing x issued redeemed with
  | nil =>
      rw [gathered, gathered, List.append_nil, List.append_nil]
      exact ledger
  | cons op rest ih =>
      rw [gathered, gathered, ← List.append_assoc, ← List.append_assoc]
      exact ih (x.perform op) _ _ (perform_ledger x op issued redeemed ledger)

theorem tickets_accounted (surface : σ) (settings : Settings α) (ops : List (Operation α ε δ)) :
    let start : Explorer α σ ε := Explorer.new surface settings
    Accounted (start.run ops) (start.gathered issues ops) (start.gathered redeems ops) ∧
      ∀ ticket result, ((start.run ops).redeem ticket result).1 = .stale →
        ((start.run ops).redeem ticket result).2 = start.run ops := by
  intro start
  have ledger := run_ledger start ops [] [] (new_ledger surface settings)
  rw [List.nil_append, List.nil_append] at ledger
  exact ⟨ledger_accounted _ _ _ ledger, stale_keeps (start.run ops)⟩

end GraphBrowser.Explorer
