import GraphBrowser.Proofs.PageSession
import GraphBrowser.Proofs.Tickets

set_option autoImplicit false

namespace GraphBrowser

namespace Explorer

variable {α σ ε : Type} [Coordinate α] [Surface σ α ε] [DecidableEq ε]

theorem outstanding_redeemed (x : Explorer α σ ε) (outstanding : List Ticket) (ledger : Ledger x outstanding [])
    (ticket : Ticket) (member : ticket ∈ outstanding) (result : FetchResult) :
    (x.redeem ticket result).1 ≠ .stale ∧ Ledger (x.redeem ticket result).2 (outstanding.erase ticket) [] := by
  have live := (ledger.open_iff ticket).mpr ⟨member, List.not_mem_nil⟩
  have answered := live_answered x ticket result live
  obtain ⟨before, after, parts⟩ := List.append_of_mem member
  have distinct := ledger.distinct
  rw [parts, List.nodup_middle, List.nodup_cons] at distinct
  have absent : ticket ∉ before := fun here => distinct.1 (List.mem_append_left after here)
  rw [parts, List.erase_append_right _ absent, List.erase_cons_head]
  exact ⟨answered, redeem_settled x before after ticket result (parts ▸ ledger) answered⟩

omit [Surface σ α ε] [DecidableEq ε] in
theorem outstanding_pending (x : Explorer α σ ε) (outstanding : List Ticket) (ledger : Ledger x outstanding []) :
    (outstanding.map Ticket.node).Nodup ∧ ∀ id, id ∈ outstanding.map Ticket.node ↔ id ∈ x.pending := by
  have live (t : Ticket) : x.Live t ↔ t ∈ outstanding := by
    rw [ledger.open_iff]
    simp
  constructor
  · rw [List.nodup_map_iff_inj_on ledger.distinct]
    intro a first b second node
    exact live_unique x a b node ((live a).mpr first) ((live b).mpr second)
  · intro id
    rw [pending_iff, List.mem_map]
    constructor
    · intro ⟨t, member, node⟩
      exact ⟨t, node, (live t).mpr member⟩
    · intro ⟨t, node, current⟩
      exact ⟨t, (live t).mp current, node⟩

end Explorer

namespace Page

variable {α : Type} [Coordinate α]

-- The tickets that the explorer has issued and that were not redeemed are those of the fetches under way.
def Tracked (p : Page α) : Prop := p.explorer.Ledger p.fetches []

theorem mount_tracked (placing : Placing α) (environment : Environment α) (settings : Settings α) :
    Tracked (mount placing environment settings) := by
  have mounted := mount_mounted placing environment settings
  have fetches : (mount placing environment settings).fetches = [] := by
    rw [fetches, mounted.tasks]
    split <;> rfl
  have start := Explorer.new_ledger (ε := Nat) (blank placing environment settings).scene settings
  rw [Tracked, fetches]
  exact Explorer.ledger_of_books _ _ mounted.books [] [] start

theorem click_tracked (p : Page α) (id : String) (alt shift : Bool) (tracked : Tracked p) :
    Tracked (p.click id alt shift) := by
  cases alt with
  | true =>
      have fetches : (p.click id true shift).fetches = p.fetches := (spawn_fetches _ []).trans (List.append_nil _)
      rw [Tracked, fetches]
      exact Explorer.ledger_of_books p.explorer _ (Explorer.collapse_books p.explorer id) p.fetches [] tracked
  | false =>
      have fetches : (p.click id false shift).fetches =
          p.fetches ++ (p.explorer.expand id (if shift then .inbound else .outbound)).1 := spawn_fetches _ _
      rw [Tracked, fetches]
      exact Explorer.expand_ledger p.explorer id _ p.fetches [] tracked

theorem answer_tracked (p : Page α) (task : Task) (result : FetchResult) (spawned : task ∈ p.tasks)
    (tracked : Tracked p) : Tracked (p.answer task result) := by
  rw [Tracked, answer_fetches]
  cases task with
  | root id => exact Explorer.ledger_of_books p.explorer _ (answer_root_books p id result) p.fetches [] tracked
  | neighbor ticket =>
      rw [answer_explorer p ticket result spawned]
      exact (Explorer.outstanding_redeemed _ _ tracked ticket ((mem_fetches p ticket).mpr spawned) result).2

theorem handle_tracked (p : Page α) (e : Event α) (tracked : Tracked p) : Tracked (p.handle e) := by
  rcases handle_cases p e with quiet | ⟨id, alt, shift, _, clicked⟩ | ⟨task, result, _, spawned, answered⟩
  · rw [Tracked, fetches, quiet.tasks]
    exact Explorer.ledger_of_books p.explorer _ quiet.books p.fetches [] tracked
  · rw [clicked]
    exact click_tracked p.letGo id alt shift tracked
  · rw [answered]
    exact answer_tracked p task result spawned tracked

theorem visit_tracked (p : Page α) (events : List (Event α)) (tracked : Tracked p) : Tracked (p.visit events) :=
  visit_keeps Tracked handle_tracked p events tracked

def answers (order : List Ticket) (result : Ticket → FetchResult) : List (Event α) :=
  order.map fun ticket => .answer (.neighbor ticket) (result ticket)

theorem answers_fetches (p : Page α) (order : List Ticket) (result : Ticket → FetchResult)
    (all : order.Perm p.fetches) : (p.visit (answers order result)).fetches = [] := by
  induction order generalizing p with
  | nil => exact all.nil_eq.symm
  | cons ticket rest ih =>
      apply ih (p.answer (.neighbor ticket) (result ticket))
      rw [answer_fetches]
      exact (List.cons_perm_iff_perm_erase.mp all).2

structure Accountable (p : Page α) : Prop where
  distinct : (p.fetches.map Ticket.node).Nodup
  pending : ∀ id, id ∈ p.fetches.map Ticket.node ↔ id ∈ p.explorer.pending
  current : ∀ ticket, .neighbor ticket ∈ p.tasks → ∀ result, (p.explorer.redeem ticket result).1 ≠ .stale
  idle : p.fetches = [] → p.explorer.pending = ∅
  answered : ∀ (order : List Ticket) (result : Ticket → FetchResult), order.Perm p.fetches →
    (p.visit (answers order result)).explorer.pending = ∅

theorem tracked_idle (p : Page α) (tracked : Tracked p) (answered : p.fetches = []) : p.explorer.pending = ∅ := by
  obtain ⟨_, pending⟩ := Explorer.outstanding_pending p.explorer p.fetches tracked
  rw [Std.ExtTreeMap.eq_empty_iff_forall_not_mem]
  intro id waiting
  have fetched := (pending id).mpr waiting
  rw [answered] at fetched
  cases fetched

theorem fetches_match_pending (placing : Placing α) (environment : Environment α) (settings : Settings α)
    (events : List (Event α)) : Accountable ((mount placing environment settings).visit events) := by
  have tracked := visit_tracked _ events (mount_tracked placing environment settings)
  obtain ⟨distinct, pending⟩ := Explorer.outstanding_pending _ _ tracked
  constructor
  case distinct => exact distinct
  case pending => exact pending
  case current =>
    intro ticket spawned result
    exact (Explorer.outstanding_redeemed _ _ tracked ticket ((mem_fetches _ ticket).mpr spawned) result).1
  case idle => exact tracked_idle _ tracked
  case answered =>
    intro order result all
    exact tracked_idle _ (visit_tracked _ _ tracked) (answers_fetches _ order result all)

end Page

end GraphBrowser
