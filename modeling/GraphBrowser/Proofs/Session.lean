import GraphBrowser.Explorer
import GraphBrowser.Surface.Scene

set_option autoImplicit false

namespace GraphBrowser

-- Where a history with one more step can be parted: at that step, or earlier.
theorem parted_snoc {β : Type} (history before after : List β) (last step : β) :
    history ++ [last] = before ++ step :: after ↔
      after = [] ∧ history = before ∧ last = step ∨
        ∃ earlier, after = earlier ++ [last] ∧ history = before ++ step :: earlier := by
  constructor
  · intro parts
    rcases List.eq_nil_or_concat after with rfl | ⟨earlier, final, rfl⟩
    · obtain ⟨same, lastSame⟩ := List.append_inj' parts rfl
      exact .inl ⟨rfl, same, List.singleton_inj.mp lastSame⟩
    · rw [List.concat_eq_append, ← List.cons_append, ← List.append_assoc] at parts
      obtain ⟨same, lastSame⟩ := List.append_inj' parts rfl
      exact .inr ⟨earlier, by rw [lastSame, List.concat_eq_append], same⟩
  · rintro (⟨rfl, rfl, rfl⟩ | ⟨earlier, rfl, rfl⟩)
    · rfl
    · simp

theorem snoc_get {β : Type} (history : List β) (last step : β) (n : Nat) :
    (history ++ [last])[n]? = some step ↔ history[n]? = some step ∨ n = history.length ∧ last = step := by
  grind

-- What may be done to a surface by others than the explorer that drives it.
class Adjustable (σ : Type) (δ : outParam Type) where
  adjust : δ → σ → σ

inductive Scene.Adjustment (α : Type) where
  | setOffset (element : Nat) (offset : Point α)
  | moveNode (element : Nat) (position : Point α)
  | resize (size : Size α)
  | setView (view : View α)
  | markDirty
  | takeDirty

def Scene.adjust {α : Type} [Scalar α] : Scene.Adjustment α → Scene α → Scene α
  | .setOffset element offset, s => Surface.setOffset element offset s
  | .moveNode element position, s => s.moveNode element position
  | .resize size, s => s.resize size
  | .setView view, s => s.withView view
  | .markDirty, s => s.markDirty
  | .takeDirty, s => s.takeDirty.2

instance {α : Type} [Scalar α] : Adjustable (Scene α) (Scene.Adjustment α) := ⟨Scene.adjust⟩

inductive Operation (α ε δ : Type) where
  | openRoot (fragment : Fragment)
  | expand (id : String) (direction : Direction)
  | redeem (ticket : Ticket) (result : FetchResult)
  | collapse (id : String)
  | runLayout
  | cancelLayout
  | applyFrame (frame : Layout.Frame α ε)
  | adjust (change : δ)

namespace Explorer

variable {α σ ε δ : Type} [Coordinate α] [DecidableEq ε] [Surface σ α ε] [Adjustable σ δ]

def perform (x : Explorer α σ ε) : Operation α ε δ → Explorer α σ ε
  | .openRoot fragment => (x.openRoot fragment).2
  | .expand id direction => (x.expand id direction).2
  | .redeem ticket result => (x.redeem ticket result).2
  | .collapse id => (x.collapse id).2
  | .runLayout => x.runLayout.2
  | .cancelLayout => x.cancelLayout
  | .applyFrame frame => (x.applyFrame frame).2
  | .adjust change => { x with surface := Adjustable.adjust change x.surface }

def run (x : Explorer α σ ε) (ops : List (Operation α ε δ)) : Explorer α σ ε := ops.foldl perform x

theorem run_append (x : Explorer α σ ε) (before after : List (Operation α ε δ)) :
    x.run (before ++ after) = (x.run before).run after := by
  simp only [run, List.foldl_append]

theorem run_snoc (x : Explorer α σ ε) (ops : List (Operation α ε δ)) (op : Operation α ε δ) :
    x.run (ops ++ [op]) = (x.run ops).perform op := by
  rw [run_append]
  rfl

theorem run_keeps (P : Explorer α σ ε → Prop)
    (step : ∀ (x : Explorer α σ ε) (op : Operation α ε δ), P x → P (x.perform op))
    (x : Explorer α σ ε) (ops : List (Operation α ε δ)) (start : P x) : P (x.run ops) := by
  induction ops generalizing x with
  | nil => exact start
  | cons op rest ih => exact ih (x.perform op) (step x op start)

abbrev session (ops : List (Operation Float Nat (Scene.Adjustment Float))) : Explorer Float (Scene Float) Nat :=
  (Explorer.new (Scene.empty ⟨800, 600⟩) .standard).run ops

end Explorer

end GraphBrowser
