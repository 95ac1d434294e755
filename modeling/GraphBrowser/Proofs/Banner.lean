import GraphBrowser.Proofs.Arrival
import GraphBrowser.Proofs.ByteOrder
import GraphBrowser.Proofs.PageSession
import Mathlib.Data.List.Induction

set_option autoImplicit false

namespace GraphBrowser

namespace Explorer

variable {α σ ε : Type} [Coordinate α]

theorem failures_of_books (x y : Explorer α σ ε) (same : y.books = x.books) : y.failures = x.failures :=
  (Prod.mk.inj (Prod.mk.inj same).2).1

theorem messages_of_books (x y : Explorer α σ ε) (same : y.books = x.books) :
    y.failureMessages = x.failureMessages := by
  rw [failureMessages, failures_of_books x y same, failureMessages]

variable [Surface σ α ε] [DecidableEq ε]

theorem redeem_failures (x : Explorer α σ ε) (ticket : Ticket) (result : FetchResult)
    (unfailed : (x.redeem ticket result).1 ≠ .failed) : (x.redeem ticket result).2.failures = x.failures := by
  rcases redeem_cases x ticket result with idle | ⟨live, _, _⟩
  · rw [idle]
  · cases refused : refusal ticket.node result with
    | some failure =>
        rw [redeem_refused x ticket result failure live refused] at unfailed
        exact absurd rfl unfailed
    | none =>
        obtain ⟨fragment, rfl, matching⟩ := accepted_refusal ticket.node result refused
        rw [redeem_matching x ticket fragment live matching]
        exact failures_of_books { x with pending := x.pending.erase ticket.node } _ (receive_books _ fragment _)

end Explorer

namespace Page

variable {α : Type} [Coordinate α]

def Fresh (p : Page α) : Prop := p.errors = p.explorer.failureMessages

theorem mount_fresh (placing : Placing α) (environment : Environment α) (settings : Settings α) :
    Fresh (mount placing environment settings) := by
  have mounted := mount_mounted placing environment settings
  have failures := Explorer.failures_of_books (blank placing environment settings).explorer _ mounted.books
  have unfailed : (blank placing environment settings).explorer.failures.values = [] := rfl
  rw [Fresh, mounted.errors, Explorer.failureMessages, failures, unfailed, List.map_nil, List.mergeSort_nil]

theorem answer_fresh (p : Page α) (task : Task) (result : FetchResult) (fresh : Fresh p) :
    Fresh (p.answer task result) := by
  by_cases spawned : task ∈ p.tasks
  · cases task with
    | root id =>
        have errors : (p.answer (.root id) result).errors = p.errors := by
          rw [answer, if_pos spawned]
          cases result <;> rfl
        rw [Fresh, errors, fresh, Explorer.messages_of_books _ _ (answer_root_books p id result)]
    | neighbor ticket =>
        by_cases failed : (p.explorer.redeem ticket result).1 = .failed
        · rw [answer, if_pos spawned]
          dsimp only
          rw [if_pos failed]
          rfl
        · have errors : (p.answer (.neighbor ticket) result).errors = p.errors := by
            rw [answer, if_pos spawned]
            dsimp only
            rw [if_neg failed]
          have failures := Explorer.redeem_failures p.explorer ticket result failed
          rw [Fresh, errors, fresh, answer_explorer p ticket result spawned, Explorer.failureMessages,
            Explorer.failureMessages, failures]
  · rw [answer, if_neg spawned]
    exact fresh

theorem handle_fresh (p : Page α) (e : Event α) (fresh : Fresh p) : Fresh (p.handle e) := by
  rcases handle_cases p e with quiet | ⟨id, alt, shift, _, clicked⟩ | ⟨task, result, _, _, answered⟩
  · rw [Fresh, quiet.errors, fresh, Explorer.messages_of_books _ _ quiet.books]
  · rw [clicked]
    rfl
  · rw [answered]
    exact answer_fresh p task result fresh

end Page

def Event.opening? {α : Type} (root : String) : Event α → Option FetchResult
  | .answer task result => if task = .root root then some result else none
  | _ => none

theorem Event.opening_eq {α : Type} (root : String) (e : Event α) (result : FetchResult) :
    e.opening? root = some result ↔ e = .answer (.root root) result := by
  cases e with
  | answer task given => by_cases asked : task = .root root <;> simp [opening?, asked]
  | _ => simp [opening?]

-- What was answered first. The page does not wait for another answer.
def firstOpening? {α : Type} (root : String) (events : List (Event α)) : Option FetchResult :=
  events.findSome? (Event.opening? root)

theorem first_opening_snoc {α : Type} (root : String) (events : List (Event α)) (e : Event α) :
    firstOpening? root (events ++ [e]) = (firstOpening? root events).or (e.opening? root) := by
  rw [firstOpening?, List.findSome?_append, firstOpening?, List.findSome?_singleton]

def openingError? (root : String) : FetchResult → Option String
  | .ok _ => none
  | .error cause => some ("could not open " ++ root ++ ": " ++ cause.message)

namespace Page

variable {α : Type} [Coordinate α]

-- Why the root could not be opened. It is fetched only if there is something to draw it on.
def rootError? (placing : Placing α) (environment : Environment α) (events : List (Event α)) : Option String :=
  if environment.isDrawable then (firstOpening? placing.root events).bind (openingError? placing.root) else none

theorem handle_unopening (p : Page α) (root : String) (only : ∀ id ∈ p.openings, id = root) (e : Event α)
    (other : e.opening? root = none) :
    (p.handle e).openings = p.openings ∧ (p.handle e).rootError = p.rootError := by
  rcases handle_cases p e with quiet | ⟨id, alt, shift, _, clicked⟩ | ⟨task, result, same, spawned, answered⟩
  · exact ⟨by rw [openings, quiet.tasks, openings], quiet.rootError⟩
  · rw [clicked]
    cases alt with
    | true => exact ⟨spawn_openings _ _, rfl⟩
    | false => exact ⟨spawn_openings _ _, rfl⟩
  · cases task with
    | root id =>
        have awaited := only id ((mem_openings p id).mpr spawned)
        simp [same, awaited, Event.opening?] at other
    | neighbor ticket =>
        rw [answered]
        refine ⟨answer_openings p (.neighbor ticket) result, ?_⟩
        rw [answer, if_pos spawned]
        dsimp only
        split <;> rfl

theorem root_answered (p : Page α) (root : String) (result : FetchResult) :
    (p.handle (.answer (.root root) result)).openings = p.openings.erase root ∧
      (p.handle (.answer (.root root) result)).rootError =
        if root ∈ p.openings then (openingError? root result).or p.rootError else p.rootError := by
  refine ⟨answer_openings p (.root root) result, ?_⟩
  by_cases awaited : .root root ∈ p.tasks
  · rw [handle, answer, if_pos awaited, if_pos ((mem_openings p root).mpr awaited)]
    cases result <;> rfl
  · rw [handle, answer, if_neg awaited, if_neg fun listed => awaited ((mem_openings p root).mp listed)]

structure Opening (placing : Placing α) (environment : Environment α) (events : List (Event α)) (p : Page α) :
    Prop where
  openings : p.openings =
    if environment.isDrawable && (firstOpening? placing.root events).isNone then [placing.root] else []
  rootError : p.rootError = rootError? placing environment events

theorem mount_opening (placing : Placing α) (environment : Environment α) (settings : Settings α) :
    Opening placing environment [] (mount placing environment settings) := by
  have mounted := mount_mounted placing environment settings
  constructor
  case openings =>
    rw [openings, mounted.tasks]
    cases environment.isDrawable <;> rfl
  case rootError =>
    rw [mounted.rootError, rootError?]
    cases environment.isDrawable <;> rfl

theorem handle_opening (placing : Placing α) (environment : Environment α) (events : List (Event α))
    (p : Page α) (opening : Opening placing environment events p) (e : Event α) :
    Opening placing environment (events ++ [e]) (p.handle e) := by
  have first := first_opening_snoc placing.root events e
  cases told : e.opening? placing.root with
  | none =>
      have only : ∀ id ∈ p.openings, id = placing.root := by
        intro id listed
        rw [opening.openings] at listed
        split at listed
        next => exact List.mem_singleton.mp listed
        next => cases listed
      obtain ⟨openings, rootError⟩ := handle_unopening p placing.root only e told
      rw [told, Option.or_none] at first
      constructor
      case openings => rw [openings, opening.openings, first]
      case rootError => rw [rootError, opening.rootError, rootError?, rootError?, first]
  | some result =>
      obtain rfl := (Event.opening_eq placing.root e result).mp told
      obtain ⟨openings, rootError⟩ := root_answered p placing.root result
      rw [told] at first
      rw [opening.openings] at openings rootError
      rw [opening.rootError] at rootError
      constructor
      case openings =>
        rw [openings, first]
        cases environment.isDrawable <;> cases firstOpening? placing.root events <;> simp
      case rootError =>
        rw [rootError, rootError?, rootError?, first]
        cases environment.isDrawable <;> cases firstOpening? placing.root events <;> simp

theorem visit_opening (placing : Placing α) (environment : Environment α) (settings : Settings α)
    (events : List (Event α)) :
    Opening placing environment events ((mount placing environment settings).visit events) := by
  induction events using List.reverseRecOn with
  | nil => exact mount_opening placing environment settings
  | append_singleton events e ih =>
      rw [visit_snoc]
      exact handle_opening placing environment events _ ih e

theorem banner_current (placing : Placing α) (environment : Environment α) (settings : Settings α)
    (events : List (Event α)) :
    ∃ lines, ((mount placing environment settings).visit events).banner =
        (rootError? placing environment events).toList ++ lines ∧
      lines.Perm (((mount placing environment settings).visit events).explorer.failures.values.map Failure.message) ∧
      lines.Pairwise fun a b => octets a ≤ octets b := by
  have fresh := visit_keeps Fresh handle_fresh _ events (mount_fresh placing environment settings)
  have opening := visit_opening placing environment settings events
  refine ⟨((mount placing environment settings).visit events).explorer.failureMessages, ?_, ?_, ?_⟩
  · rw [banner, opening.rootError, fresh]
  · exact List.mergeSort_perm _ _
  · apply (sorted_texts id _).imp
    intro a b below reversed
    exact absurd ((octets_lt b a).mp reversed) (not_lt.mpr below)

end Page

end GraphBrowser
