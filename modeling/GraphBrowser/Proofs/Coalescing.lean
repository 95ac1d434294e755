import GraphBrowser.Proofs.Askers
import Mathlib.Data.List.Induction

set_option autoImplicit false

namespace GraphBrowser.Explorer

variable {α σ ε δ : Type} [Coordinate α] [Surface σ α ε] [DecidableEq ε] [Adjustable σ δ]

-- By this operation the asker, which is visible, is expanded towards a node that is not known.
def Asks (x : Explorer α σ ε) (op : Operation α ε δ) (id : String) (a : Asker) : Prop :=
  op = .expand a.anchor a.direction ∧ x.nodes.isVisible a.anchor = true ∧
    id ∈ x.neighbors a.anchor a.direction ∧ x.nodes[id]? = none

-- The asker has asked since the ticket was issued. The expansion that issued it counts.
def WaitsFor (x : Explorer α σ ε) (ops : List (Operation α ε δ)) (ticket : Ticket) (a : Asker) : Prop :=
  ∃ before op, before ++ [op] <+: ops ∧ ticket ∈ x.gathered issues (before ++ [op]) ∧
    Asks (x.run before) op ticket.node a

theorem perform_askers (x : Explorer α σ ε) (op : Operation α ε δ) (id : String)
    (under : (x.perform op).pending[id]?.isSome = true) (a : Asker) :
    a ∈ (x.perform op).askers id ↔ a ∈ x.askers id ∨ Asks x op id a := by
  obtain ⟨fetch, found⟩ := Option.isSome_iff_exists.mp under
  have unasked (same : (x.perform op).askers id = x.askers id) (silent : ¬ Asks x op id a) :
      a ∈ (x.perform op).askers id ↔ a ∈ x.askers id ∨ Asks x op id a := by
    rw [same]
    exact (or_iff_left silent).symm
  by_cases asking : ∃ asker : Asker, op = .expand asker.anchor asker.direction ∧ x.nodes.isVisible asker.anchor = true
  · obtain ⟨asker, rfl, shown⟩ := asking
    have expanded := expand_shown x asker.anchor asker.direction shown
    by_cases asked : id ∈ x.neighbors asker.anchor asker.direction ∧ x.nodes[id]? = none
    · obtain ⟨neighbor, fresh⟩ := asked
      obtain ⟨made, foundMade, waiting, _⟩ := expanded.asked id neighbor fresh
      have after : (x.perform (.expand asker.anchor asker.direction)).askers id = joinedBy (x.askers id) asker :=
        (askers_of_get _ id made foundMade).trans waiting
      rw [after, mem_joined]
      apply or_congr_right
      constructor
      · intro same
        rw [same]
        exact ⟨rfl, shown, neighbor, fresh⟩
      · intro asks
        obtain ⟨anchor, direction⟩ := Operation.expand.inj asks.1
        cases a
        cases asker
        simp_all
    · obtain ⟨pending, _⟩ := expanded.idle id fun member => by
        rw [Option.isSome_iff_ne_none]
        exact fun fresh => asked ⟨member, fresh⟩
      refine unasked (askers_congr _ _ id pending) ?_
      intro ⟨same, _, neighbor, fresh⟩
      obtain ⟨anchor, direction⟩ := Operation.expand.inj same
      exact asked ⟨by rw [anchor, direction]; exact neighbor, fresh⟩
  · have fewer := (perform_pending x op).resolve_left asking
    refine unasked (askers_congr _ _ id (found.trans (fewer id fetch found).symm)) ?_
    intro ⟨same, shown, _⟩
    exact asking ⟨a, same, shown⟩

-- The serial of a fetch never changes, so a ticket becomes live only when its fetch begins.
theorem perform_live (x : Explorer α σ ε) (op : Operation α ε δ) (ticket : Ticket)
    (live : (x.perform op).Live ticket) : x.Live ticket ∨ x.pending[ticket.node]? = none := by
  obtain ⟨fetch, found, serial⟩ := Option.map_eq_some_iff.mp live
  have live_of (old : Pending) (foundOld : x.pending[ticket.node]? = some old) (same : fetch.serial = old.serial) :
      x.Live ticket := by
    rw [Live, foundOld, Option.map_some, ← same, serial]
  cases perform_pending x op with
  | inr fewer => exact .inl (live_of fetch (fewer ticket.node fetch found) rfl)
  | inl expansion =>
      obtain ⟨asker, rfl, shown⟩ := expansion
      have expanded := expand_shown x asker.anchor asker.direction shown
      cases foundOld : x.pending[ticket.node]? with
      | none => exact .inr rfl
      | some old =>
          left
          by_cases asked : ticket.node ∈ x.neighbors asker.anchor asker.direction ∧ x.nodes[ticket.node]? = none
          · obtain ⟨made, foundMade, _, kept⟩ := expanded.asked ticket.node asked.1 asked.2
            have same : made = fetch := Option.some.inj (foundMade.symm.trans found)
            exact live_of old foundOld (same ▸ kept old foundOld)
          · obtain ⟨pending, _⟩ := expanded.idle ticket.node fun member => by
              rw [Option.isSome_iff_ne_none]
              exact fun fresh => asked ⟨member, fresh⟩
            exact live_of fetch (pending.symm.trans found) rfl

theorem gathered_append (read : Explorer α σ ε → Operation α ε δ → List Ticket) (x : Explorer α σ ε)
    (before after : List (Operation α ε δ)) :
    gathered read x (before ++ after) = gathered read x before ++ gathered read (x.run before) after := by
  induction before generalizing x with
  | nil => rfl
  | cons op rest ih =>
      rw [List.cons_append, gathered, ih, gathered, List.append_assoc]
      rfl

theorem waits_issued (x : Explorer α σ ε) (ops : List (Operation α ε δ)) (ticket : Ticket) (a : Asker)
    (waits : WaitsFor x ops ticket a) : ticket ∈ x.gathered issues ops := by
  obtain ⟨before, op, ⟨after, rfl⟩, issued, _⟩ := waits
  rw [gathered_append]
  exact List.mem_append_left _ issued

theorem waits_snoc (x : Explorer α σ ε) (ops : List (Operation α ε δ)) (op : Operation α ε δ) (ticket : Ticket)
    (issued : ticket ∈ x.gathered issues (ops ++ [op])) (a : Asker) :
    WaitsFor x (ops ++ [op]) ticket a ↔ WaitsFor x ops ticket a ∨ Asks (x.run ops) op ticket.node a := by
  constructor
  · intro ⟨before, last, started, issuedThen, asks⟩
    cases List.prefix_concat_iff.mp started with
    | inl whole =>
        obtain ⟨rfl, same⟩ := List.append_inj' whole rfl
        obtain rfl := List.singleton_inj.mp same
        exact .inr asks
    | inr sooner => exact .inl ⟨before, last, sooner, issuedThen, asks⟩
  · intro either
    cases either with
    | inl sooner =>
        obtain ⟨before, last, started, rest⟩ := sooner
        exact ⟨before, last, started.trans (List.prefix_append ops [op]), rest⟩
    | inr now => exact ⟨ops, op, List.prefix_rfl, issued, now⟩

theorem live_before (surface : σ) (settings : Settings α) (ops : List (Operation α ε δ)) (op : Operation α ε δ)
    (ticket : Ticket) (live : ((Explorer.new surface settings : Explorer α σ ε).run (ops ++ [op])).Live ticket)
    (issued : ticket ∈ (Explorer.new surface settings : Explorer α σ ε).gathered issues ops) :
    ((Explorer.new surface settings : Explorer α σ ε).run ops).Live ticket := by
  have now := run_ledger _ (ops ++ [op]) [] [] (new_ledger surface settings)
  have earlier := run_ledger _ ops [] [] (new_ledger surface settings)
  have kept := ((now.open_iff ticket).mp live).2
  refine (earlier.open_iff ticket).mpr ⟨issued, ?_⟩
  intro redeemed
  apply kept
  rw [gathered_append, ← List.append_assoc]
  exact List.mem_append_left _ redeemed

theorem run_askers (surface : σ) (settings : Settings α) (ops : List (Operation α ε δ)) (ticket : Ticket)
    (live : ((Explorer.new surface settings : Explorer α σ ε).run ops).Live ticket) (a : Asker) :
    a ∈ ((Explorer.new surface settings : Explorer α σ ε).run ops).askers ticket.node ↔
      WaitsFor (Explorer.new surface settings : Explorer α σ ε) ops ticket a := by
  induction ops using List.reverseRecOn with
  | nil => simp [Live, Explorer.new, run] at live
  | append_singleton ops op ih =>
      have issued := (((run_ledger _ (ops ++ [op]) [] [] (new_ledger surface settings)).open_iff ticket).mp live).1
      have earlier := live_before surface settings ops op ticket live
      rw [waits_snoc _ ops op ticket issued]
      rw [run_snoc] at live ⊢
      generalize (Explorer.new surface settings : Explorer α σ ε) = start at *
      have under : ((start.run ops).perform op).pending[ticket.node]?.isSome = true := by
        obtain ⟨fetch, found, _⟩ := Option.map_eq_some_iff.mp live
        rw [found]
        rfl
      rw [perform_askers _ op ticket.node under]
      apply or_congr_left
      cases perform_live (start.run ops) op ticket live with
      | inl still => exact ih still
      | inr idle =>
          -- The fetch begins by this operation: nobody waited for it, and no ticket was issued for it.
          have nobody : (start.run ops).askers ticket.node = [] := by
            rw [askers, idle]
            rfl
          rw [nobody]
          constructor
          · intro member
            cases member
          · intro waits
            have live := earlier (waits_issued start ops ticket a waits)
            rw [Live, idle] at live
            cases live

structure Delivered (x y : Explorer α σ ε) (id : String) (waits : Asker → Prop) (outcome : Outcome) : Prop where
  known : y.nodes[id]?.isSome = true
  settled : y.pending[id]? = none
  shown : (∃ a, waits a ∧ x.nodes.isVisible a.anchor = true) → y.nodes.isVisible id = true
  hidden : (∀ a, waits a → x.nodes.isVisible a.anchor = false) → x.nodes[id]? = none → y.nodes.isVisible id = false
  kept : (∀ a, waits a → x.nodes.isVisible a.anchor = false) → y.nodes.isVisible id = x.nodes.isVisible id
  others : ∀ other, other ≠ id → y.nodes[other]? = x.nodes[other]?
  links : ∀ s d, y.links.isVisible s d = true ↔ x.links.isVisible s d = true ∨
    ∃ a, waits a ∧ x.nodes.isVisible a.anchor = true ∧ (s, d) = a.ends id
  outcome : outcome = .attached (x.links.gained y.links)
  draws : ∀ draws : DrawCount σ, draws.count y.surface = draws.count x.surface + x.links.gained y.links

theorem redeem_delivered (x : Explorer α σ ε) (ticket : Ticket) (fragment : Fragment) (live : x.Live ticket)
    (matching : fragment.id = ticket.node) (founded : Founded x) :
    Delivered x (x.redeem ticket (.ok fragment)).2 ticket.node (· ∈ x.askers ticket.node)
      (x.redeem ticket (.ok fragment)).1 := by
  obtain ⟨_, linked⟩ := founded_askers x founded ticket.node
  obtain ⟨connected, outcome, arrived, books⟩ :=
    redeem_arrived x ticket fragment live matching fun a member => (linked a member).apart
  rw [outcome]
  generalize (x.redeem ticket (.ok fragment)).2 = y at arrived books ⊢
  have node := arrived.node
  rw [matching] at node
  have visible := NodeTable.visible_of_get y.nodes ticket.node _ node
  have unawaited (closed : ∀ a, a ∈ x.askers ticket.node → x.nodes.isVisible a.anchor = false) :
      awaited x.nodes (x.askers ticket.node) = false := by
    rw [awaited, List.any_eq_false]
    intro a member
    simp [closed a member]
  refine ⟨?_, ?_, ?_, ?_, ?_, ?_, ?_, ?_, ?_⟩
  · rw [node]
    rfl
  · rw [(Prod.mk.inj books).1, IdMap.erase_get, if_pos rfl]
  · rintro ⟨a, member, seen⟩
    have waiting : awaited x.nodes (x.askers ticket.node) = true := List.any_eq_true.mpr ⟨a, member, seen⟩
    rw [visible, waiting, Bool.true_or]
  · intro closed fresh
    rw [visible, unawaited closed, NodeTable.isVisible, fresh]
    rfl
  · intro closed
    rw [visible, unawaited closed, Bool.false_or]
  · intro other apart
    exact arrived.others other (matching ▸ apart)
  · intro s d
    rw [LinkTable.drawn_visible _ _ _ arrived.links, learned_visible, Bool.or_eq_true, Bool.and_eq_true]
    apply or_congr_right
    rw [drawsFor, matching, List.any_eq_true]
    constructor
    · rintro ⟨_, a, member, drawn⟩
      rw [Bool.and_eq_true, beq_iff_eq] at drawn
      exact ⟨a, member, drawn⟩
    · rintro ⟨a, member, drawn⟩
      -- The link that an asker asked along is known, so it can be drawn.
      have known := learned_known x.links fragment.links _ _ (linked a member).link
      rw [← drawn.2] at known
      exact ⟨known, a, member, by rw [Bool.and_eq_true, beq_iff_eq]; exact drawn⟩
  · rw [arrived.gained]
  · intro draws
    rw [arrived.gained, ← Nat.mul_one connected]
    cases new : places x fragment (x.askers ticket.node) with
    | false => exact arrived.still new draws.tally
    | true =>
        obtain ⟨_, _, moved⟩ := arrived.moved new
        exact moved draws.tally

theorem answer_reaches_all_waiters (surface : σ) (settings : Settings α) (ops : List (Operation α ε δ))
    (ticket : Ticket) (fragment : Fragment)
    (live : ((Explorer.new surface settings : Explorer α σ ε).run ops).Live ticket)
    (matching : fragment.id = ticket.node) :
    let start : Explorer α σ ε := Explorer.new surface settings
    Delivered (start.run ops) ((start.run ops).redeem ticket (.ok fragment)).2 ticket.node
      (WaitsFor start ops ticket) ((start.run ops).redeem ticket (.ok fragment)).1 := by
  intro start
  have waiters : (· ∈ (start.run ops).askers ticket.node) = WaitsFor start ops ticket := by
    funext a
    exact propext (run_askers surface settings ops ticket live a)
  rw [← waiters]
  exact redeem_delivered (start.run ops) ticket fragment live matching (run_founded surface settings ops)

-- a and c wait for b, and a is closed before b comes.
def coalesced : List (Operation Float Nat Empty) :=
  [.openRoot ⟨⟨"a", none⟩, [⟨"a", "b", "knows"⟩]⟩, .openRoot ⟨⟨"c", none⟩, [⟨"b", "c", "likes"⟩]⟩,
    .expand "a" .outbound, .expand "c" .inbound, .collapse "a"]

theorem answer_reaches_remaining_waiter :
    (recorded coalesced).Live ⟨"b", 1⟩ ∧ Fragment.id ⟨⟨"b", none⟩, []⟩ = "b" ∧
      Delivered (recorded coalesced) ((recorded coalesced).redeem ⟨"b", 1⟩ (.ok ⟨⟨"b", none⟩, []⟩)).2 "b"
        (WaitsFor (recorded []) coalesced ⟨"b", 1⟩)
        ((recorded coalesced).redeem ⟨"b", 1⟩ (.ok ⟨⟨"b", none⟩, []⟩)).1 := by
  have live : (recorded coalesced).Live ⟨"b", 1⟩ := by
    unfold Live
    decide +kernel
  exact ⟨live, rfl, answer_reaches_all_waiters (CallLog.empty ⟨800, 600⟩) .standard coalesced ⟨"b", 1⟩
    ⟨⟨"b", none⟩, []⟩ live rfl⟩

example : ((recorded coalesced).redeem ⟨"b", 1⟩ (.ok ⟨⟨"b", none⟩, []⟩)).1 = .attached 1 := by decide +kernel

end GraphBrowser.Explorer
