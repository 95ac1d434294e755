import GraphBrowser.Proofs.Effects

set_option autoImplicit false

namespace GraphBrowser.Explorer

variable {α σ ε : Type} [Coordinate α]

def books (x : Explorer α σ ε) : IdMap Pending × IdMap Failure × Nat := (x.pending, x.failures, x.issued)

def Live (x : Explorer α σ ε) (ticket : Ticket) : Prop :=
  x.pending[ticket.node]?.map Pending.serial = some ticket.serial

theorem live_unique (x : Explorer α σ ε) (a b : Ticket) (node : a.node = b.node) (first : x.Live a)
    (second : x.Live b) : a = b := by
  have serial : some a.serial = some b.serial :=
    calc some a.serial = x.pending[a.node]?.map Pending.serial := first.symm
      _ = x.pending[b.node]?.map Pending.serial := by rw [node]
      _ = some b.serial := second
  calc a = ⟨a.node, a.serial⟩ := rfl
    _ = ⟨b.node, b.serial⟩ := by rw [node, Option.some.inj serial]
    _ = b := rfl

theorem pending_iff (x : Explorer α σ ε) (id : String) : id ∈ x.pending ↔ ∃ t : Ticket, t.node = id ∧ x.Live t := by
  rw [IdMap.mem_iff]
  constructor
  · rintro ⟨fetch, found⟩
    exact ⟨⟨id, fetch.serial⟩, rfl, by rw [Live, found, Option.map_some]⟩
  · rintro ⟨t, rfl, live⟩
    obtain ⟨fetch, found, _⟩ := Option.map_eq_some_iff.mp live
    exact ⟨fetch, found⟩

structure Closed (x y : Explorer α σ ε) (id : String) : Prop where
  pending : y.pending = x.pending.erase id
  issued : y.issued = x.issued
  failures : ∀ other, other ≠ id → y.failures[other]? = x.failures[other]?

theorem fail_closed (x : Explorer α σ ε) (id : String) (failure : Failure) :
    Closed x (fail { x with pending := x.pending.erase id } id failure).2 id := by
  refine ⟨rfl, rfl, ?_⟩
  intro other apart
  exact (IdMap.insert_get x.failures id failure other).trans (if_neg apart)

variable [Surface σ α ε]

theorem join_books (x : Explorer α σ ε) (s d : String) : (x.join s d).2.books = x.books := by
  rcases join_cases x s d with idle | ⟨source, destination, link, _, _, _, _, _, _, joined⟩
  · rw [idle]
  · rw [joined]
    rfl

theorem join_neighbor_books (x : Explorer α σ ε) (asker : Asker) (neighbor : String) :
    (x.joinNeighbor asker neighbor).2.books = x.books := join_books x _ _

theorem join_all_books (neighbor : String) (askers : List Asker) (x : Explorer α σ ε) :
    (x.joinAll neighbor askers).2.books = x.books := by
  induction askers generalizing x with
  | nil => rfl
  | cons asker rest ih => exact (ih _).trans (join_neighbor_books x asker neighbor)

theorem apply_placements_told (placements : List (Layout.Placement α ε)) (x : Explorer α σ ε) :
    (x.applyPlacements placements).2 = { x with surface := (x.applyPlacements placements).2.surface } := by
  induction placements generalizing x with
  | nil => rfl
  | cons p rest ih =>
      unfold applyPlacements
      split
      next => exact ih (x.moveTo p.element p.offset)
      next => exact ih x

theorem apply_placements_books (placements : List (Layout.Placement α ε)) (x : Explorer α σ ε) :
    (x.applyPlacements placements).2.books = x.books := by
  rw [apply_placements_told]
  rfl

theorem collapse_books (x : Explorer α σ ε) (id : String) : (x.collapse id).2.books = x.books := by
  cases known : x.nodes[id]? with
  | none => rw [collapse_unknown x id known]
  | some node =>
      rw [collapse_known x id node known]
      rfl

theorem wire_books (x : Explorer α σ ε) (id : String) (element : ε) : (x.wire id element).books = x.books := by
  unfold wire
  split <;> rfl

variable [DecidableEq ε]

theorem provide_books (x : Explorer α σ ε) (summary : NodeSummary) : (x.provide summary).2.books = x.books := by
  cases found : x.nodes[summary.id]? with
  | none =>
      rw [provide_fresh x summary found]
      rfl
  | some node => rw [provide_known x summary node found]

theorem attach_books (x : Explorer α σ ε) (fragment : Fragment) : (x.attach fragment).2.books = x.books :=
  (wire_books _ fragment.id _).trans (provide_books x fragment.node)

theorem open_root_books (x : Explorer α σ ε) (fragment : Fragment) : (x.openRoot fragment).2.books = x.books :=
  attach_books x fragment

theorem receive_books (x : Explorer α σ ε) (fragment : Fragment) (askers : List Asker) :
    (x.receive fragment askers).2.books = x.books := by
  unfold receive
  dsimp only
  split
  next => split <;> exact attach_books x fragment
  next anchor _ =>
    refine (join_all_books fragment.id askers _).trans ?_
    split <;> exact attach_books x fragment

theorem receive_answers (x : Explorer α σ ε) (fragment : Fragment) (askers : List Asker) :
    (x.receive fragment askers).1 ≠ .stale := by
  unfold receive
  dsimp only
  split
  next => exact Outcome.noConfusion
  next => exact Outcome.noConfusion

theorem receive_closed (x : Explorer α σ ε) (id : String) (fragment : Fragment) (askers : List Asker) :
    Closed x (receive { x with pending := x.pending.erase id } fragment askers).2 id := by
  have books := receive_books { x with pending := x.pending.erase id } fragment askers
  obtain ⟨pending, rest⟩ := Prod.mk.inj books
  obtain ⟨failures, issued⟩ := Prod.mk.inj rest
  refine ⟨pending, issued, ?_⟩
  intro other _
  rw [failures]

theorem live_answered (x : Explorer α σ ε) (ticket : Ticket) (result : FetchResult) (live : x.Live ticket) :
    (x.redeem ticket result).1 ≠ .stale := by
  obtain ⟨fetch, found, serial⟩ := Option.map_eq_some_iff.mp live
  simp only [redeem, found, if_pos serial]
  cases result with
  | error cause => exact Outcome.noConfusion
  | ok fragment =>
      by_cases matching : fragment.id = ticket.node
      · simp only [if_pos matching]
        exact receive_answers _ fragment fetch.askers
      · simp only [if_neg matching]
        exact Outcome.noConfusion

-- A ticket that stands for no fetch under way changes nothing. Any other closes the fetch of its node.
theorem redeem_cases (x : Explorer α σ ε) (ticket : Ticket) (result : FetchResult) :
    x.redeem ticket result = (.stale, x) ∨
      x.Live ticket ∧ (x.redeem ticket result).1 ≠ .stale ∧ Closed x (x.redeem ticket result).2 ticket.node := by
  cases found : x.pending[ticket.node]? with
  | none =>
      left
      simp only [redeem, found]
  | some fetch =>
      by_cases good : fetch.serial = ticket.serial
      · right
        have live : x.Live ticket := by rw [Live, found, Option.map_some, good]
        refine ⟨live, live_answered x ticket result live, ?_⟩
        simp only [redeem, found, if_pos good]
        cases result with
        | error cause => exact fail_closed x ticket.node (.fetch ticket.node cause)
        | ok fragment =>
            by_cases matching : fragment.id = ticket.node
            · simp only [if_pos matching]
              exact receive_closed x ticket.node fragment fetch.askers
            · simp only [if_neg matching]
              exact fail_closed x ticket.node (.mismatch ticket.node fragment.id)
      · left
        simp only [redeem, found, if_neg good]

theorem stale_keeps (x : Explorer α σ ε) (ticket : Ticket) (result : FetchResult)
    (stale : (x.redeem ticket result).1 = .stale) : (x.redeem ticket result).2 = x := by
  rcases redeem_cases x ticket result with idle | ⟨_, live, _⟩
  · rw [idle]
  · exact absurd stale live

end GraphBrowser.Explorer
