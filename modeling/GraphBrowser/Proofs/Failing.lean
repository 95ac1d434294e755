import GraphBrowser.Proofs.Askers

set_option autoImplicit false

namespace GraphBrowser.Explorer

variable {α σ ε : Type} [Coordinate α]

-- One fetch has moved from those under way to the failures. All that is known or shown is as it was.
structure FailsWith (x : Explorer α σ ε) (id : String) (failure : Failure) (outcome : Outcome)
    (y : Explorer α σ ε) : Prop where
  outcome : outcome = .failed
  under : x.pending[id]?.isSome = true
  settled : y.pending[id]? = none
  -- Nothing that was held before is overwritten.
  unheld : x.failures[id]? = none
  held : y.failures[id]? = some failure
  fetches : ∀ other, other ≠ id → y.pending[other]? = x.pending[other]?
  failures : ∀ other, other ≠ id → y.failures[other]? = x.failures[other]?
  nodes : y.nodes = x.nodes
  links : y.links = x.links
  surface : y.surface = x.surface
  layout : y.layout = x.layout
  scatter : y.scatter = x.scatter
  issued : y.issued = x.issued

variable [Surface σ α ε] [DecidableEq ε]

theorem refused_fails (x : Explorer α σ ε) (ticket : Ticket) (result : FetchResult) (failure : Failure)
    (live : x.Live ticket) (unheld : x.failures[ticket.node]? = none)
    (refused : refusal ticket.node result = some failure) :
    FailsWith x ticket.node failure (x.redeem ticket result).1 (x.redeem ticket result).2 := by
  obtain ⟨fetch, found, _⟩ := Option.map_eq_some_iff.mp live
  have under : x.pending[ticket.node]?.isSome = true := by
    rw [found]
    rfl
  rw [redeem_refused x ticket result failure live refused]
  refine ⟨rfl, under, ?_, unheld, ?_, ?_, ?_, rfl, rfl, rfl, rfl, rfl, rfl⟩
  · rw [IdMap.erase_get, if_pos rfl]
  · rw [IdMap.insert_get, if_pos rfl]
  · intro other apart
    rw [IdMap.erase_get, if_neg apart]
  · intro other apart
    rw [IdMap.insert_get, if_neg apart]

theorem matching_attached (x : Explorer α σ ε) (ticket : Ticket) (fragment : Fragment) (live : x.Live ticket)
    (founded : Founded x) (matching : fragment.id = ticket.node) :
    ∃ connected, (x.redeem ticket (.ok fragment)).1 = .attached connected := by
  obtain ⟨connected, outcome, _⟩ := redeem_arrived x ticket fragment live matching fun a member =>
    ((founded_askers x founded ticket.node).2 a member).apart
  exact ⟨connected, outcome⟩

variable {δ : Type} [Adjustable σ δ]

theorem failed_fetch_is_atomic (surface : σ) (settings : Settings α) (ops : List (Operation α ε δ)) (ticket : Ticket)
    (issued : ticket ∈ (Explorer.new surface settings : Explorer α σ ε).gathered issues ops)
    (unused : ticket ∉ (Explorer.new surface settings : Explorer α σ ε).gathered redeems ops) :
    let x : Explorer α σ ε := (Explorer.new surface settings).run ops
    (∀ cause, FailsWith x ticket.node (.fetch ticket.node cause) (x.redeem ticket (.error cause)).1
        (x.redeem ticket (.error cause)).2) ∧
      (∀ fragment : Fragment, fragment.id ≠ ticket.node →
        FailsWith x ticket.node (.mismatch ticket.node fragment.id) (x.redeem ticket (.ok fragment)).1
          (x.redeem ticket (.ok fragment)).2) ∧
      ∀ fragment : Fragment, fragment.id = ticket.node →
        ∃ connected, (x.redeem ticket (.ok fragment)).1 = .attached connected := by
  intro x
  have ledger := run_ledger _ ops [] [] (new_ledger (ε := ε) surface settings)
  have live : x.Live ticket := (ledger.open_iff ticket).mpr ⟨issued, unused⟩
  have unheld : x.failures[ticket.node]? = none := by
    obtain ⟨fetch, found, _⟩ := Option.map_eq_some_iff.mp live
    apply (ledger.apart ticket.node).resolve_left
    rw [found]
    exact Option.some_ne_none fetch
  refine ⟨?_, ?_, ?_⟩
  · intro cause
    exact refused_fails x ticket (.error cause) _ live unheld rfl
  · intro fragment other
    exact refused_fails x ticket (.ok fragment) _ live unheld (if_neg other)
  · intro fragment matching
    exact matching_attached x ticket fragment live (run_founded surface settings ops) matching

-- The fetches of b and c are under way, and b is awaited by both a and d. Then c comes when b is asked for.
def crossed : List (Operation Float Nat Empty) :=
  [.openRoot ⟨⟨"a", none⟩, [⟨"a", "b", "knows"⟩]⟩,
    .openRoot ⟨⟨"d", none⟩, [⟨"b", "d", "likes"⟩, ⟨"d", "c", "knows"⟩]⟩,
    .expand "a" .outbound, .expand "d" .inbound, .expand "d" .outbound]

def astray : Fragment := ⟨⟨"c", some "C"⟩, [⟨"c", "b", "next"⟩]⟩

theorem failed_fetch_is_atomic_when_crossed :
    (⟨"b", 1⟩ : Ticket) ∈ (recorded []).gathered issues crossed ∧
      (⟨"b", 1⟩ : Ticket) ∉ (recorded []).gathered redeems crossed ∧
      astray.id ≠ "b" ∧
      FailsWith (recorded crossed) "b" (.mismatch "b" "c") ((recorded crossed).redeem ⟨"b", 1⟩ (.ok astray)).1
        ((recorded crossed).redeem ⟨"b", 1⟩ (.ok astray)).2 ∧
      Fragment.id ⟨⟨"b", none⟩, []⟩ = "b" ∧
      ∃ connected, ((recorded crossed).redeem ⟨"b", 1⟩ (.ok ⟨⟨"b", none⟩, []⟩)).1 = .attached connected := by
  have issued : (⟨"b", 1⟩ : Ticket) ∈ (recorded []).gathered issues crossed := by decide +kernel
  have unused : (⟨"b", 1⟩ : Ticket) ∉ (recorded []).gathered redeems crossed := by decide +kernel
  have other : astray.id ≠ "b" := by decide
  obtain ⟨_, mismatched, matched⟩ :=
    failed_fetch_is_atomic (CallLog.empty ⟨800, 600⟩) .standard crossed ⟨"b", 1⟩ issued unused
  exact ⟨issued, unused, other, mismatched astray other, rfl, matched ⟨⟨"b", none⟩, []⟩ rfl⟩

end GraphBrowser.Explorer
