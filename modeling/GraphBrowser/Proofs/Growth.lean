import GraphBrowser.Proofs.Effects
import Mathlib.Logic.Relation

set_option autoImplicit false

namespace GraphBrowser.Explorer

variable {α σ ε : Type} [Coordinate α] [Surface σ α ε]

-- What operations consist of, attaching and hiding apart. A note changes neither nodes nor links nor the
-- surface.
inductive Act : Explorer α σ ε → Explorer α σ ε → Prop where
  | reveal (x : Explorer α σ ε) (id : String) : Act x (x.reveal id)
  | join (x : Explorer α σ ε) (s d : String) : Act x (x.join s d).2
  | move (x : Explorer α σ ε) (element : ε) (offset : Point α) : Act x (x.moveTo element offset)
  | note (x : Explorer α σ ε) (layout : Layout.Engine α) (scatter : Scatter α) (pending : IdMap Pending)
      (failures : IdMap Failure) (issued : Nat) : Act x { x with layout, scatter, pending, failures, issued }

abbrev Acts : Explorer α σ ε → Explorer α σ ε → Prop := Relation.ReflTransGen Act

theorem acts_keep (P : Explorer α σ ε → Prop) (act : ∀ y z, Act y z → P y → P z)
    (x y : Explorer α σ ε) (acts : Acts x y) (start : P x) : P y := by
  induction acts with
  | refl => exact start
  | tail _ last ih => exact act _ _ last ih

theorem request_acts (x : Explorer α σ ε) (asker : Asker) (neighbor : String) :
    Acts x (x.request asker neighbor).2 := by
  unfold request
  dsimp only
  split
  next fetch found =>
    split
    next => exact .single (.note x _ _ _ _ _)
    next => exact .single (.note x _ _ _ _ _)
  next => exact .single (.note x _ _ _ _ _)

theorem join_neighbor_act (x : Explorer α σ ε) (asker : Asker) (neighbor : String) :
    Act x (x.joinNeighbor asker neighbor).2 := .join x _ _

theorem reach_acts (x : Explorer α σ ε) (asker : Asker) (neighbor : String) :
    Acts x (x.reach asker neighbor).2 := by
  unfold reach
  split
  next => exact request_acts x asker neighbor
  next node found =>
    split
    next => exact .single (join_neighbor_act x asker neighbor)
    next => exact .tail (.single (.reveal x neighbor)) (join_neighbor_act _ asker neighbor)

theorem reach_all_acts (asker : Asker) (neighbors : List String) (x : Explorer α σ ε) :
    Acts x (x.reachAll asker neighbors).2 := by
  induction neighbors generalizing x with
  | nil => exact .refl
  | cons neighbor rest ih => exact (reach_acts x asker neighbor).trans (ih (x.reach asker neighbor).2)

theorem expand_acts (x : Explorer α σ ε) (id : String) (direction : Direction) :
    Acts x (x.expand id direction).2 := by
  unfold expand
  split
  next => exact reach_all_acts _ _ x
  next => exact .refl

theorem join_all_acts (neighbor : String) (askers : List Asker) (x : Explorer α σ ε) :
    Acts x (x.joinAll neighbor askers).2 := by
  induction askers generalizing x with
  | nil => exact .refl
  | cons asker rest ih =>
      exact .head (join_neighbor_act x asker neighbor) (ih (x.joinNeighbor asker neighbor).2)

theorem scatter_around_acts (x : Explorer α σ ε) (element anchor : ε) :
    Acts x (x.scatterAround element anchor) :=
  .tail (.single (.note x _ _ _ _ _)) (.move _ element _)

theorem apply_placements_acts (placements : List (Layout.Placement α ε)) (x : Explorer α σ ε) :
    Acts x (x.applyPlacements placements).2 := by
  induction placements generalizing x with
  | nil => exact .refl
  | cons p rest ih =>
      unfold applyPlacements
      split
      next => exact .head (.move x p.element p.offset) (ih (x.moveTo p.element p.offset))
      next => exact ih x

theorem run_layout_acts (x : Explorer α σ ε) : Acts x x.runLayout.2 := .single (.note x _ _ _ _ _)

theorem cancel_layout_acts (x : Explorer α σ ε) : Acts x x.cancelLayout := .single (.note x _ _ _ _ _)

variable [DecidableEq ε]

-- What an operation other than collapsing does. It attaches at most one fragment, before it draws anything,
-- and the only nodes it hides are those that it has just made known.
inductive Growth (x : Explorer α σ ε) : Explorer α σ ε → Prop where
  | acts (y : Explorer α σ ε) (steps : Acts x y) : Growth x y
  | attach (pending : IdMap Pending) (fragment : Fragment) (y : Explorer α σ ε)
      (after : Acts (attach { x with pending } fragment).2 y) : Growth x y
  | hidden (pending : IdMap Pending) (fragment : Fragment) (fresh : x.nodes[fragment.id]? = none) :
      Growth x ((attach { x with pending } fragment).2.hide fragment.id)

theorem open_root_growth (x : Explorer α σ ε) (fragment : Fragment) : Growth x (x.openRoot fragment).2 :=
  .attach x.pending fragment _ (.tail (.single (.reveal _ fragment.id)) (.move _ _ _))

theorem receive_growth (x : Explorer α σ ε) (pending : IdMap Pending) (fragment : Fragment)
    (askers : List Asker) : Growth x (receive { x with pending } fragment askers).2 := by
  unfold receive
  dsimp only
  split
  next =>
    cases found : x.nodes[fragment.id]? with
    | none => exact .hidden pending fragment found
    | some node => exact .attach pending fragment _ .refl
  next anchor _ =>
    refine .attach pending fragment _ ?_
    have settled (placed : Explorer α σ ε) :
        Acts placed ((placed.reveal fragment.id).joinAll fragment.id askers).2 :=
      .head (.reveal placed fragment.id) (join_all_acts fragment.id askers _)
    cases found : x.nodes[fragment.id]? with
    | none => exact (scatter_around_acts _ _ anchor).trans (settled _)
    | some node => exact settled _

theorem redeem_growth (x : Explorer α σ ε) (ticket : Ticket) (result : FetchResult) :
    Growth x (x.redeem ticket result).2 := by
  unfold redeem
  split
  next => exact .acts x .refl
  next fetch found =>
    split
    next =>
      dsimp only
      split
      next => exact .acts _ (.single (.note x _ _ _ _ _))
      next fragment =>
        split
        next => exact receive_growth x _ fragment fetch.askers
        next => exact .acts _ (.single (.note x _ _ _ _ _))
    next => exact .acts x .refl

variable {δ : Type} [Adjustable σ δ]

theorem perform_cases (x : Explorer α σ ε) (op : Operation α ε δ) :
    Growth x (x.perform op) ∨ (∃ id, x.perform op = (x.collapse id).2) ∨
      ∃ change : δ, x.perform op = { x with surface := Adjustable.adjust change x.surface } := by
  cases op with
  | openRoot fragment => exact .inl (open_root_growth x fragment)
  | expand id direction => exact .inl (.acts _ (expand_acts x id direction))
  | redeem ticket result => exact .inl (redeem_growth x ticket result)
  | collapse id => exact .inr (.inl ⟨id, rfl⟩)
  | runLayout => exact .inl (.acts _ (run_layout_acts x))
  | cancelLayout => exact .inl (.acts _ (cancel_layout_acts x))
  | applyFrame frame => exact .inl (.acts _ (apply_placements_acts frame.placements x))
  | adjust change => exact .inr (.inr ⟨change, rfl⟩)

end GraphBrowser.Explorer
