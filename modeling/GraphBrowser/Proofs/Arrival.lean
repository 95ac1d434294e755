import GraphBrowser.Proofs.Joining
import GraphBrowser.Proofs.LinkNames

set_option autoImplicit false

namespace GraphBrowser

namespace LinkTable

theorem edit_known (t u : LinkTable) (edit : Edit t u) (s d : String) (known : (t.get? s d).isSome = true) :
    (u.get? s d).isSome = true := by
  cases edit with
  | register source destination name =>
      rw [register_get]
      split
      next => rfl
      next => exact known
  | connect source destination => rw [drawn_known _ _ _ (connect_drawn t source destination), known]
  | disconnect id => rw [disconnect_get, Option.isSome_map, known]

theorem edits_known (t u : LinkTable) (edits : Edits t u) (s d : String) (known : (t.get? s d).isSome = true) :
    (u.get? s d).isSome = true := by
  induction edits with
  | refl => exact known
  | tail _ last ih => exact edit_known _ _ last s d ih

end LinkTable

namespace Explorer

theorem learned_known (t : LinkTable) (triples : List LinkTriple) (s d : String)
    (known : (t.get? s d).isSome = true) : ((learned t triples).get? s d).isSome = true :=
  LinkTable.edits_known t _ (learned_edits t triples) s d known

variable {α σ ε : Type} [Coordinate α]

def awaited (nodes : NodeTable ε) (askers : List Asker) : Bool := askers.any fun a => nodes.isVisible a.anchor

theorem awaited_congr (nodes other : NodeTable ε) (askers : List Asker)
    (same : ∀ a ∈ askers, other.isVisible a.anchor = nodes.isVisible a.anchor) :
    awaited other askers = awaited nodes askers := by
  rw [Bool.eq_iff_iff, awaited, awaited, List.any_eq_true, List.any_eq_true]
  constructor
  · rintro ⟨a, member, shown⟩
    exact ⟨a, member, (same a member).symm.trans shown⟩
  · rintro ⟨a, member, shown⟩
    exact ⟨a, member, (same a member).trans shown⟩

theorem draws_for_congr (nodes other : NodeTable ε) (neighbor : String) (askers : List Asker)
    (same : ∀ a ∈ askers, other.isVisible a.anchor = nodes.isVisible a.anchor) (s d : String) :
    drawsFor other neighbor askers s d = drawsFor nodes neighbor askers s d := by
  rw [Bool.eq_iff_iff, drawsFor, drawsFor, List.any_eq_true, List.any_eq_true]
  constructor
  · rintro ⟨a, member, drawn⟩
    exact ⟨a, member, by rw [← same a member, drawn]⟩
  · rintro ⟨a, member, drawn⟩
    exact ⟨a, member, by rw [same a member, drawn]⟩

theorem draws_for_unawaited (nodes : NodeTable ε) (neighbor : String) (askers : List Asker)
    (unawaited : awaited nodes askers = false) (s d : String) : drawsFor nodes neighbor askers s d = false := by
  rw [drawsFor, List.any_eq_false]
  intro a member
  have hidden := List.any_eq_false.mp unawaited a member
  simp [hidden]

theorem anchor_none_iff (x : Explorer α σ ε) (askers : List Asker) :
    x.anchor? askers = none ↔ awaited x.nodes askers = false := by
  rw [anchor?, List.findSome?_eq_none_iff, awaited, List.any_eq_false]
  constructor
  · intro unseen a member shown
    obtain ⟨node, found, visible⟩ := (NodeTable.visible_iff x.nodes a.anchor).mp shown
    have seen := unseen a member
    simp [found, visible] at seen
  · intro hidden a member
    cases found : x.nodes[a.anchor]? with
    | none => rfl
    | some node =>
        have invisible := hidden a member
        rw [NodeTable.visible_of_get x.nodes a.anchor node found] at invisible
        simp [invisible]

variable [Surface σ α ε]

theorem hide_tally (tally : Tally σ) (x : Explorer α σ ε) (id : String) :
    tally.count (x.hide id).surface = tally.count x.surface := by
  change tally.count (x.nodes.hide id x.surface).2.2 = tally.count x.surface
  unfold NodeTable.hide
  split
  next => rfl
  next element _ => exact tally.hide element x.surface

theorem reveal_tally (tally : Tally σ) (x : Explorer α σ ε) (id : String) :
    tally.count (x.reveal id).surface = tally.count x.surface := by
  change tally.count (x.nodes.reveal id x.surface).2.2 = tally.count x.surface
  unfold NodeTable.reveal
  split
  next => rfl
  next element _ => exact tally.reveal element x.surface

theorem move_tally (tally : Tally σ) (x : Explorer α σ ε) (element : ε) (offset : Point α) :
    tally.count (x.moveTo element offset).surface = tally.count x.surface + tally.perMove element offset :=
  (tally.repaint element _).trans (tally.setOffset element offset x.surface)

theorem attached_visible (x : Explorer α σ ε) (fragment : Fragment) :
    (x.attached fragment).visible = (x.nodes[fragment.id]?.isNone || x.nodes.isVisible fragment.id) := by
  unfold attached
  split
  next node known => simp [NodeTable.isVisible, known]
  next absent => simp [absent]

theorem learned_gained (t : LinkTable) (triples : List LinkTriple) : t.gained (learned t triples) = 0 := by
  apply LinkTable.gained_none
  intro s d shown
  rwa [learned_visible] at shown

variable [DecidableEq ε]

theorem attach_tally (tally : Tally σ) (x : Explorer α σ ε) (fragment : Fragment) :
    tally.count (x.attach fragment).2.surface = tally.count x.surface := by
  have provided : tally.count (x.provide fragment.node).2.surface = tally.count x.surface := by
    cases found : x.nodes[fragment.node.id]? with
    | none =>
        rw [provide_fresh x fragment.node found]
        exact tally.create fragment.node x.surface
    | some node => rw [provide_known x fragment.node node found]
  rw [← provided]
  unfold attach wire
  dsimp only
  split
  next => exact tally.bind _ _ _
  next => rfl

theorem attach_element (x : Explorer α σ ε) (fragment : Fragment) :
    (x.attach fragment).1 = (x.attached fragment).element := by
  change (x.provide fragment.node).1 = (x.attached fragment).element
  cases found : x.nodes[fragment.id]? with
  | none =>
      rw [provide_fresh x fragment.node found]
      simp only [attached, found]
  | some node => rw [provide_known x fragment.node node found, attached_known x fragment node found]

theorem attach_scatter (x : Explorer α σ ε) (fragment : Fragment) : (x.attach fragment).2.scatter = x.scatter := by
  have provided : (x.provide fragment.node).2.scatter = x.scatter := by
    simp only [provide]
    split <;> rfl
  rw [← provided]
  unfold attach wire
  dsimp only
  split <;> rfl

theorem anchor_some (x : Explorer α σ ε) (fragment : Fragment) (askers : List Asker)
    (apart : ∀ a ∈ askers, a.anchor ≠ fragment.id) (anchor : ε)
    (found : (x.attach fragment).2.anchor? askers = some anchor) :
    ∃ a ∈ askers, ∃ node, x.nodes[a.anchor]? = some node ∧ node.visible = true ∧ node.element = anchor := by
  obtain ⟨a, member, seen⟩ := List.exists_of_findSome?_eq_some found
  obtain ⟨node, filtered, element⟩ := Option.map_eq_some_iff.mp seen
  obtain ⟨known, visible⟩ := Option.filter_eq_some_iff.mp filtered
  rw [attach_get, if_neg (apart a member)] at known
  exact ⟨a, member, node, known, visible, element⟩

theorem attach_pending (x : Explorer α σ ε) (pending : IdMap Pending) (fragment : Fragment) :
    (attach { x with pending } fragment).2 = { (x.attach fragment).2 with pending } := by
  have provided : (provide { x with pending } fragment.node).2 = { (x.provide fragment.node).2 with pending } := by
    simp only [provide]
    split <;> rfl
  have element : (provide { x with pending } fragment.node).1 = (x.provide fragment.node).1 := by
    simp only [provide]
    split <;> rfl
  cases unwired : (x.provide fragment.node).2.nodes[fragment.id]?.any fun node => !node.wired <;>
    simp [attach, provided, element, learn, wire, unwired]

def Around (x : Explorer α σ ε) (fragment : Fragment) (askers : List Asker) (offset : Point α) : Prop :=
  ∃ a ∈ askers, ∃ node, x.nodes[a.anchor]? = some node ∧ node.visible = true ∧
    offset = (x.scatter.drop (Surface.offset (x.attach fragment).2.surface node.element)).1

-- A node is moved only when it is new and an asker is left to move it to.
def places (x : Explorer α σ ε) (fragment : Fragment) (askers : List Asker) : Bool :=
  x.nodes[fragment.id]?.isNone && awaited x.nodes askers

-- What a fetched node finds and leaves, when these askers wait for it.
structure Arrived (x y : Explorer α σ ε) (fragment : Fragment) (askers : List Asker) (connected : Nat) : Prop where
  node : y.nodes[fragment.id]? = some { x.attached fragment with
    visible := awaited x.nodes askers || x.nodes.isVisible fragment.id }
  others : ∀ id, id ≠ fragment.id → y.nodes[id]? = x.nodes[id]?
  links : (learned x.links fragment.links).Drawn y.links (drawsFor x.nodes fragment.id askers)
  gained : x.links.gained y.links = connected
  count : askers.Nodup →
    (∀ a ∈ askers, (x.links.get? (a.ends fragment.id).1 (a.ends fragment.id).2).isSome = true) →
    connected = askers.countP fun a => x.nodes.isVisible a.anchor &&
      !x.links.isVisible (a.ends fragment.id).1 (a.ends fragment.id).2
  still : places x fragment askers = false →
    ∀ tally : Tally σ, tally.count y.surface = tally.count x.surface + connected * tally.perDraw
  moved : places x fragment askers = true → ∃ offset, Around x fragment askers offset ∧ ∀ tally : Tally σ,
    tally.count y.surface = tally.count x.surface + connected * tally.perDraw +
      tally.perMove (x.attached fragment).element offset

theorem receive_unawaited (x : Explorer α σ ε) (fragment : Fragment) (askers : List Asker)
    (apart : ∀ a ∈ askers, a.anchor ≠ fragment.id) (unawaited : awaited x.nodes askers = false) :
    (x.receive fragment askers).1 = .attached 0 ∧ Arrived x (x.receive fragment askers).2 fragment askers 0 := by
  have nobody : (x.attach fragment).2.anchor? askers = none := by
    rw [anchor_none_iff, ← unawaited]
    exact awaited_congr _ _ _ fun a member => attach_visible_elsewhere x fragment a.anchor (apart a member)
  have left : x.receive fragment askers = (.attached 0,
      if x.nodes[fragment.id]?.isNone then (x.attach fragment).2.hide fragment.id else (x.attach fragment).2) := by
    simp only [receive, nobody]
  have undrawn : (learned x.links fragment.links).Drawn (x.attach fragment).2.links
      (drawsFor x.nodes fragment.id askers) := by
    rw [attach_links]
    exact LinkTable.drawn_congr _ _ _ _ (LinkTable.drawn_refl _)
      (draws_for_unawaited x.nodes fragment.id askers unawaited)
  have gained : x.links.gained (x.attach fragment).2.links = 0 := by rw [attach_links, learned_gained]
  have none_drawn : 0 = askers.countP fun a => x.nodes.isVisible a.anchor &&
      !x.links.isVisible (a.ends fragment.id).1 (a.ends fragment.id).2 := by
    symm
    apply List.countP_eq_zero.mpr
    intro a member
    have hidden := List.any_eq_false.mp unawaited a member
    simp [hidden]
  refine ⟨by rw [left], ?_⟩
  rw [left]
  cases fresh : x.nodes[fragment.id]?.isNone with
  | true =>
      refine ⟨?_, ?_, undrawn, gained, fun _ _ => none_drawn, ?_, ?_⟩
      · have hidden : x.nodes.isVisible fragment.id = false := by
          rw [NodeTable.isVisible, Option.isNone_iff_eq_none.mp fresh]
          rfl
        simp [hide_nodes, NodeTable.set_visible_get, attach_get, unawaited, hidden]
      · intro id other
        simp [hide_nodes, NodeTable.set_visible_get, attach_get, other]
      · intro _ tally
        simp [hide_tally, attach_tally]
      · intro moved
        simp [places, unawaited] at moved
  | false =>
      refine ⟨?_, ?_, undrawn, gained, fun _ _ => none_drawn, ?_, ?_⟩
      · have visible := attached_visible x fragment
        rw [fresh, Bool.false_or] at visible
        simp [attach_get, unawaited, ← visible]
      · intro id other
        simp [attach_get, other]
      · intro _ tally
        simp [attach_tally]
      · intro moved
        simp [places, unawaited] at moved

-- A node that is awaited is put beside the first visible asker if it is new, which changes neither nodes nor
-- links, and is then shown and joined.
theorem receive_placed (x : Explorer α σ ε) (fragment : Fragment) (askers : List Asker) (anchor : ε)
    (found : (x.attach fragment).2.anchor? askers = some anchor) : ∃ placed : Explorer α σ ε,
      placed.nodes = (x.attach fragment).2.nodes ∧ placed.links = (x.attach fragment).2.links ∧
      (x.nodes[fragment.id]?.isNone = false → ∀ tally : Tally σ, tally.count placed.surface = tally.count x.surface) ∧
      (x.nodes[fragment.id]?.isNone = true → ∀ tally : Tally σ, tally.count placed.surface = tally.count x.surface +
        tally.perMove (x.attached fragment).element
          (x.scatter.drop (Surface.offset (x.attach fragment).2.surface anchor)).1) ∧
      x.receive fragment askers =
        (.attached ((placed.reveal fragment.id).joinAll fragment.id askers).1,
          ((placed.reveal fragment.id).joinAll fragment.id askers).2) := by
  refine ⟨if x.nodes[fragment.id]?.isNone then (x.attach fragment).2.scatterAround (x.attach fragment).1 anchor
    else (x.attach fragment).2, ?_, ?_, ?_, ?_, ?_⟩
  · split <;> rfl
  · split <;> rfl
  · intro known tally
    rw [known]
    exact attach_tally tally x fragment
  · intro fresh tally
    rw [fresh, ← attach_element, ← attach_tally tally x fragment, ← attach_scatter x fragment]
    exact move_tally tally _ _ _
  · simp only [receive, found]

theorem receive_awaited (x : Explorer α σ ε) (fragment : Fragment) (askers : List Asker)
    (apart : ∀ a ∈ askers, a.anchor ≠ fragment.id) (waiting : awaited x.nodes askers = true) :
    ∃ connected, (x.receive fragment askers).1 = .attached connected ∧
      Arrived x (x.receive fragment askers).2 fragment askers connected := by
  have same : ∀ a ∈ askers, (x.attach fragment).2.nodes.isVisible a.anchor = x.nodes.isVisible a.anchor :=
    fun a member => attach_visible_elsewhere x fragment a.anchor (apart a member)
  cases found : (x.attach fragment).2.anchor? askers with
  | none =>
      rw [anchor_none_iff, awaited_congr _ _ _ same, waiting] at found
      cases found
  | some anchor =>
      obtain ⟨placed, nodes, links, still, moved, received⟩ := receive_placed x fragment askers anchor found
      have revealed : (placed.reveal fragment.id).nodes = (x.attach fragment).2.nodes.setVisible fragment.id true := by
        rw [reveal_nodes, nodes]
      have shown : (placed.reveal fragment.id).nodes.isVisible fragment.id = true := by
        rw [revealed, NodeTable.set_visible_visible, if_pos rfl, attach_get, if_pos rfl]
        rfl
      have anchors : ∀ a ∈ askers,
          (placed.reveal fragment.id).nodes.isVisible a.anchor = x.nodes.isVisible a.anchor := by
        intro a member
        rw [revealed, NodeTable.set_visible_visible, if_neg (apart a member), same a member]
      have table : (placed.reveal fragment.id).links = learned x.links fragment.links :=
        links.trans (attach_links x fragment)
      have fresh : places x fragment askers = x.nodes[fragment.id]?.isNone := by
        rw [places, waiting, Bool.and_true]
      refine ⟨_, by rw [received], ?_⟩
      rw [received]
      refine ⟨?_, ?_, ?_, ?_, ?_, ?_, ?_⟩
      · rw [join_all_nodes, revealed, NodeTable.set_visible_get, if_pos rfl, attach_get, if_pos rfl, waiting]
        rfl
      · intro id other
        rw [join_all_nodes, revealed, NodeTable.set_visible_get, if_neg other, attach_get, if_neg other]
      · have joined := join_all_drawn fragment.id askers (placed.reveal fragment.id) shown
        rw [table] at joined
        exact LinkTable.drawn_congr _ _ _ _ joined fun s d => (draws_for_congr _ _ fragment.id askers anchors s d).symm
      · have more := join_all_gained x.links fragment.id askers (placed.reveal fragment.id) (by
          intro s d before
          rw [table, learned_visible, before])
        rw [more, table, learned_gained, Nat.add_zero]
      · intro distinct known
        have count := join_all_count fragment.id askers (placed.reveal fragment.id) shown distinct apart (by
          intro a member
          rw [table]
          exact learned_known x.links fragment.links _ _ (known a member))
        rw [count]
        apply List.countP_congr
        intro a member
        rw [anchors a member, table, learned_visible]
      · intro kept tally
        rw [join_all_tally, reveal_tally, still (fresh ▸ kept), Nat.add_comm]
      · intro new
        obtain ⟨a, member, node, known, visible, element⟩ := anchor_some x fragment askers apart anchor found
        refine ⟨_, ⟨a, member, node, known, visible, rfl⟩, ?_⟩
        intro tally
        rw [join_all_tally, reveal_tally, moved (fresh ▸ new), element]
        omega

theorem receive_arrived (x : Explorer α σ ε) (fragment : Fragment) (askers : List Asker)
    (apart : ∀ a ∈ askers, a.anchor ≠ fragment.id) :
    ∃ connected, (x.receive fragment askers).1 = .attached connected ∧
      Arrived x (x.receive fragment askers).2 fragment askers connected := by
  cases waiting : awaited x.nodes askers with
  | false => exact ⟨0, receive_unawaited x fragment askers apart waiting⟩
  | true => exact receive_awaited x fragment askers apart waiting

theorem redeem_matching (x : Explorer α σ ε) (ticket : Ticket) (fragment : Fragment) (live : x.Live ticket)
    (matching : fragment.id = ticket.node) : x.redeem ticket (.ok fragment) =
      receive { x with pending := x.pending.erase ticket.node } fragment (x.askers ticket.node) := by
  obtain ⟨fetch, found, serial⟩ := Option.map_eq_some_iff.mp live
  simp only [redeem, found, if_pos serial, if_pos matching, askers, Option.map_some, Option.getD_some]

def refusal (id : String) : FetchResult → Option Failure
  | .error cause => some (.fetch id cause)
  | .ok fragment => if fragment.id = id then none else some (.mismatch id fragment.id)

theorem accepted_refusal (id : String) (result : FetchResult) (none_held : refusal id result = none) :
    ∃ f, result = .ok f ∧ f.id = id := by
  cases result with
  | error cause => cases none_held
  | ok f =>
      refine ⟨f, rfl, ?_⟩
      by_contra other
      simp [refusal, other] at none_held

theorem redeem_refused (x : Explorer α σ ε) (ticket : Ticket) (result : FetchResult) (failure : Failure)
    (live : x.Live ticket) (refused : refusal ticket.node result = some failure) :
    x.redeem ticket result = (.failed, { x with
      pending := x.pending.erase ticket.node, failures := x.failures.insert ticket.node failure }) := by
  obtain ⟨fetch, found, serial⟩ := Option.map_eq_some_iff.mp live
  cases result with
  | error cause =>
      obtain rfl := Option.some.inj refused
      simp only [redeem, found, if_pos serial, fail]
  | ok fragment =>
      by_cases matching : fragment.id = ticket.node
      · simp [refusal, matching] at refused
      · simp only [refusal, if_neg matching, Option.some.injEq] at refused
        simp only [redeem, found, if_pos serial, if_neg matching, fail, refused]

theorem redeem_arrived (x : Explorer α σ ε) (ticket : Ticket) (fragment : Fragment) (live : x.Live ticket)
    (matching : fragment.id = ticket.node) (apart : ∀ a ∈ x.askers ticket.node, a.anchor ≠ ticket.node) :
    ∃ connected, (x.redeem ticket (.ok fragment)).1 = .attached connected ∧
      Arrived x (x.redeem ticket (.ok fragment)).2 fragment (x.askers ticket.node) connected ∧
      (x.redeem ticket (.ok fragment)).2.books = (x.pending.erase ticket.node, x.failures, x.issued) := by
  have received := redeem_matching x ticket fragment live matching
  obtain ⟨connected, outcome, arrived⟩ := receive_arrived { x with pending := x.pending.erase ticket.node }
    fragment (x.askers ticket.node) (matching ▸ apart)
  rw [received]
  refine ⟨connected, outcome, { arrived with moved := ?_ }, receive_books _ fragment _⟩
  intro new
  obtain ⟨offset, ⟨a, member, node, known, visible, place⟩, moved⟩ := arrived.moved new
  rw [attach_pending] at place
  exact ⟨offset, ⟨a, member, node, known, visible, place⟩, moved⟩

end Explorer

end GraphBrowser
