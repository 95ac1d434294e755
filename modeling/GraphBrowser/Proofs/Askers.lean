import GraphBrowser.Proofs.Arrival
import GraphBrowser.Proofs.Elements
import GraphBrowser.Proofs.Expansion
import GraphBrowser.Proofs.Tickets

set_option autoImplicit false

namespace GraphBrowser

namespace Explorer

variable {α σ ε : Type} [Coordinate α]

section Pending

variable [Surface σ α ε] [DecidableEq ε] {δ : Type} [Adjustable σ δ]

-- Only expanding a visible node adds fetches or askers; all else can only end a fetch.
theorem perform_pending (x : Explorer α σ ε) (op : Operation α ε δ) :
    (∃ asker : Asker, op = .expand asker.anchor asker.direction ∧ x.nodes.isVisible asker.anchor = true) ∨
      ∀ (id : String) (fetch : Pending), (x.perform op).pending[id]? = some fetch → x.pending[id]? = some fetch := by
  have silent (y : Explorer α σ ε) (books : y.books = x.books) (id : String) (fetch : Pending)
      (found : y.pending[id]? = some fetch) : x.pending[id]? = some fetch := by
    rw [← (Prod.mk.inj books).1, found]
  cases op with
  | openRoot fragment => exact .inr (silent _ (open_root_books x fragment))
  | expand id direction =>
      cases shown : x.nodes.isVisible id with
      | true => exact .inl ⟨⟨id, direction⟩, rfl, shown⟩
      | false =>
          right
          rw [perform, expand_hidden x id direction shown]
          intro _ _ found
          exact found
  | redeem ticket result =>
      right
      intro id fetch found
      cases redeem_cases x ticket result with
      | inl stale =>
          rw [perform, stale] at found
          exact found
      | inr live =>
          rw [perform, live.2.2.pending, IdMap.erase_get] at found
          split at found
          next => cases found
          next => exact found
  | collapse id => exact .inr (silent _ (collapse_books x id))
  | runLayout => exact .inr (silent _ rfl)
  | cancelLayout => exact .inr (silent _ rfl)
  | applyFrame frame => exact .inr (silent _ (apply_placements_books frame.placements x))
  | adjust change => exact .inr (silent _ rfl)

end Pending

structure Linked (x : Explorer α σ ε) (id : String) (a : Asker) : Prop where
  apart : a.anchor ≠ id
  anchor : x.nodes[a.anchor]?.isSome = true
  link : (x.links.get? (a.ends id).1 (a.ends id).2).isSome = true

def Founded (x : Explorer α σ ε) : Prop :=
  ∀ (id : String) (fetch : Pending), x.pending[id]? = some fetch →
    fetch.askers.Nodup ∧ ∀ a ∈ fetch.askers, Linked x id a

theorem new_founded (surface : σ) (settings : Settings α) :
    Founded (Explorer.new surface settings : Explorer α σ ε) := by
  intro id fetch found
  simp [Explorer.new] at found

theorem founded_askers (x : Explorer α σ ε) (founded : Founded x) (id : String) :
    (x.askers id).Nodup ∧ ∀ a ∈ x.askers id, Linked x id a := by
  cases found : x.pending[id]? with
  | none =>
      rw [askers, found]
      exact ⟨List.nodup_nil, fun a member => by cases member⟩
  | some fetch =>
      rw [askers_of_get x id fetch found]
      exact founded id fetch found

variable [Surface σ α ε]

-- A node that asks is visible, hence known, and what it asks for is not.
theorem expand_founded (x : Explorer α σ ε) (asker : Asker) (shown : x.nodes.isVisible asker.anchor = true)
    (founded : Founded x) (kept : ∀ id a, Linked x id a → Linked (x.expand asker.anchor asker.direction).2 id a) :
    Founded (x.expand asker.anchor asker.direction).2 := by
  have expanded := expand_shown x asker.anchor asker.direction shown
  have known := NodeTable.visible_known x.nodes asker.anchor shown
  intro id fetch found
  by_cases asked : id ∈ x.neighbors asker.anchor asker.direction ∧ x.nodes[id]? = none
  · obtain ⟨member, fresh⟩ := asked
    obtain ⟨made, foundMade, waiting, _⟩ := expanded.asked id member fresh
    have same : made = fetch := Option.some.inj (foundMade.symm.trans found)
    obtain ⟨distinct, linked⟩ := founded_askers x founded id
    rw [← same, waiting]
    refine ⟨joined_nodup _ _ distinct, ?_⟩
    intro a waits
    cases (mem_joined _ _ a).mp waits with
    | inl before => exact kept id a (linked a before)
    | inr now =>
        rw [now]
        refine kept id asker ⟨?_, known, (mem_neighbors x asker id).mp member⟩
        intro same
        rw [same, fresh] at known
        cases known
  · obtain ⟨pending, _⟩ := expanded.idle id fun member => by
      rw [Option.isSome_iff_ne_none]
      exact fun fresh => asked ⟨member, fresh⟩
    obtain ⟨distinct, linked⟩ := founded id fetch (pending.symm.trans found)
    exact ⟨distinct, fun a member => kept id a (linked a member)⟩

variable [DecidableEq ε] {δ : Type} [Adjustable σ δ]

theorem perform_linked (x : Explorer α σ ε) (op : Operation α ε δ) (id : String) (a : Asker)
    (linked : Linked x id a) : Linked (x.perform op) id a :=
  ⟨linked.apart, perform_known x op a.anchor linked.anchor,
    LinkTable.edits_known _ _ (perform_edits x op) _ _ linked.link⟩

theorem perform_founded (x : Explorer α σ ε) (op : Operation α ε δ) (founded : Founded x) :
    Founded (x.perform op) := by
  cases perform_pending x op with
  | inl expansion =>
      obtain ⟨asker, rfl, shown⟩ := expansion
      exact expand_founded x asker shown founded
        (perform_linked x (.expand asker.anchor asker.direction : Operation α ε δ))
  | inr fewer =>
      intro id fetch found
      obtain ⟨distinct, linked⟩ := founded id fetch (fewer id fetch found)
      exact ⟨distinct, fun a member => perform_linked x op id a (linked a member)⟩

theorem run_founded (surface : σ) (settings : Settings α) (ops : List (Operation α ε δ)) :
    Founded ((Explorer.new surface settings : Explorer α σ ε).run ops) :=
  run_keeps Founded perform_founded _ ops (new_founded surface settings)

end Explorer

end GraphBrowser
