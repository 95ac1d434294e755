import GraphBrowser.Proofs.Askers

set_option autoImplicit false

namespace GraphBrowser

-- Layout is left out, and so is what others do to the surface.
def Operation.explores {α ε δ : Type} : Operation α ε δ → Bool
  | .openRoot _ => true
  | .expand _ _ => true
  | .redeem _ _ => true
  | .collapse _ => true
  | _ => false

namespace Explorer

variable {α σ ε : Type} [Coordinate α] [Surface σ α ε]

def Moved (moves : MoveCount σ) (x y : Explorer α σ ε) (element : ε) (offset : Point α) : Prop :=
  ∀ counted, counted element offset = true → moves.count x.surface counted < moves.count y.surface counted

theorem moved_of_tally (moves : MoveCount σ) (x y : Explorer α σ ε) (element : ε) (offset : Point α)
    (more : ∀ counted, moves.count y.surface counted =
      moves.count x.surface counted + if counted element offset then 1 else 0) : Moved moves x y element offset := by
  intro counted counts
  rw [more, counts, if_pos rfl]
  omega

theorem reach_tally (tally : Tally σ) (x : Explorer α σ ε) (asker : Asker) (neighbor : String) :
    ∃ drawn, tally.count (x.reach asker neighbor).2.surface = tally.count x.surface + drawn * tally.perDraw := by
  have joined (y : Explorer α σ ε) (same : tally.count y.surface = tally.count x.surface) : ∃ drawn,
      tally.count (y.joinNeighbor asker neighbor).2.surface = tally.count x.surface + drawn * tally.perDraw := by
    refine ⟨(y.joinNeighbor asker neighbor).1.toNat, ?_⟩
    rw [← same, Nat.add_comm]
    exact join_tally tally y _ _
  cases found : x.nodes[neighbor]? with
  | none =>
      rw [reach_unknown x asker neighbor found]
      refine ⟨0, ?_⟩
      unfold request
      dsimp only
      split
      next => split <;> simp
      next => simp
  | some node =>
      simp only [reach, found]
      split
      next => exact joined x rfl
      next => exact joined (x.reveal neighbor) (reveal_tally tally x neighbor)

theorem expand_tally (tally : Tally σ) (x : Explorer α σ ε) (id : String) (direction : Direction) :
    ∃ drawn, tally.count (x.expand id direction).2.surface = tally.count x.surface + drawn * tally.perDraw := by
  have all (neighbors : List String) (y : Explorer α σ ε) : ∃ drawn,
      tally.count (y.reachAll ⟨id, direction⟩ neighbors).2.surface = tally.count y.surface + drawn * tally.perDraw := by
    induction neighbors generalizing y with
    | nil => exact ⟨0, by simp [reachAll]⟩
    | cons neighbor rest ih =>
        obtain ⟨first, drawnFirst⟩ := reach_tally tally y ⟨id, direction⟩ neighbor
        obtain ⟨later, drawnLater⟩ := ih (y.reach ⟨id, direction⟩ neighbor).2
        refine ⟨first + later, ?_⟩
        rw [reachAll, drawnLater, drawnFirst, Nat.add_mul, Nat.add_assoc]
  unfold expand
  split
  next => exact all _ x
  next => exact ⟨0, by simp⟩

theorem collapse_tally (tally : Tally σ) (x : Explorer α σ ε) (id : String) :
    tally.count (x.collapse id).2.surface = tally.count x.surface := by
  cases known : x.nodes[id]? with
  | none => rw [collapse_unknown x id known]
  | some node =>
      rw [collapse_known x id node known, hide_tally]
      exact tally.disconnect node.element x.surface

variable [DecidableEq ε]

-- The centre of the surface, once the root is on it.
def middle (x : Explorer α σ ε) (fragment : Fragment) : Point α :=
  (Surface.size ((x.attach fragment).2.reveal fragment.id).surface).center

theorem open_root_tally (tally : Tally σ) (x : Explorer α σ ε) (fragment : Fragment) :
    tally.count (x.openRoot fragment).2.surface = tally.count x.surface +
      tally.perMove (x.attached fragment).element (x.middle fragment) := by
  have moved := move_tally tally ((x.attach fragment).2.reveal fragment.id) (x.attach fragment).1 (x.middle fragment)
  rw [reveal_tally, attach_tally] at moved
  rw [← attach_element, ← moved]
  rfl

-- An answer changes nodes and surface only if it is the fragment that was asked for.
theorem redeem_arrives (x : Explorer α σ ε) (founded : Founded x) (ticket : Ticket) (result : FetchResult) :
    ((x.redeem ticket result).2.nodes = x.nodes ∧ (x.redeem ticket result).2.surface = x.surface) ∨
      ∃ f connected, result = .ok f ∧ f.id = ticket.node ∧ x.Live ticket ∧
        Arrived x (x.redeem ticket result).2 f (x.askers ticket.node) connected := by
  rcases redeem_cases x ticket result with stale | ⟨live, _, _⟩
  · left
    rw [stale]
    exact ⟨rfl, rfl⟩
  · cases refused : refusal ticket.node result with
    | some failure =>
        left
        rw [redeem_refused x ticket result failure live refused]
        exact ⟨rfl, rfl⟩
    | none =>
        right
        obtain ⟨f, rfl, matching⟩ := accepted_refusal ticket.node result refused
        obtain ⟨connected, _, arrived, _⟩ := redeem_arrived x ticket f live matching fun a member =>
          ((founded_askers x founded ticket.node).2 a member).apart
        exact ⟨f, connected, rfl, matching, live, arrived⟩

variable {δ : Type} [Adjustable σ δ]

theorem perform_moves (moves : MoveCount σ) (x : Explorer α σ ε) (founded : Founded x) (op : Operation α ε δ)
    (explores : op.explores = true) (counted : ε → Point α → Bool) :
    moves.count (x.perform op).surface counted = moves.count x.surface counted ∨
      ∃ id element offset, counted element offset = true ∧ (x.perform op).element? id = some element ∧
        (x.perform op).nodes.isVisible id = true := by
  have parted (y : Explorer α σ ε) (id : String) (node : Node ε) (offset : Point α) (known : y.nodes[id]? = some node)
      (shown : node.visible = true) (moved : moves.count y.surface counted = moves.count x.surface counted +
        if counted node.element offset then 1 else 0) :
      moves.count y.surface counted = moves.count x.surface counted ∨
        ∃ id element offset, counted element offset = true ∧ y.element? id = some element ∧
          y.nodes.isVisible id = true := by
    cases counts : counted node.element offset with
    | false =>
        rw [counts] at moved
        exact .inl moved
    | true => exact .inr ⟨id, node.element, offset, counts, element_of_get y id node known,
        (NodeTable.visible_of_get y.nodes id node known).trans shown⟩
  cases op with
  | openRoot f =>
      have node := open_root_get x f f.id
      rw [if_pos rfl] at node
      exact parted _ f.id _ (x.middle f) node rfl (open_root_tally (moves.tally counted) x f)
  | expand id direction =>
      obtain ⟨drawn, same⟩ := expand_tally (moves.tally counted) x id direction
      exact .inl same
  | redeem ticket result =>
      rw [perform]
      rcases redeem_arrives x founded ticket result with ⟨_, same⟩ | ⟨f, connected, rfl, matching, live, arrived⟩
      · rw [same]
        exact .inl rfl
      · cases placed : places x f (x.askers ticket.node) with
        | false => exact .inl (arrived.still placed (moves.tally counted))
        | true =>
            obtain ⟨offset, _, moved⟩ := arrived.moved placed
            rw [places, Bool.and_eq_true] at placed
            exact parted _ f.id _ offset arrived.node (by rw [placed.2]; rfl) (moved (moves.tally counted))
  | collapse id => exact .inl (collapse_tally (moves.tally counted) x id)
  | runLayout => cases explores
  | cancelLayout => cases explores
  | applyFrame frame => cases explores
  | adjust change => cases explores

end Explorer

end GraphBrowser
