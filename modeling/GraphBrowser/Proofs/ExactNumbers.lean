import Mathlib.Analysis.SpecialFunctions.Trigonometric.Basic
import GraphBrowser.Scalar

set_option autoImplicit false

namespace GraphBrowser

noncomputable instance : Scalar ℝ where
  beq x y := decide (x = y)
  decidableLT := inferInstance
  ofInt i := (i : ℝ)
  least := min
  greatest := max
  sqrt := Real.sqrt
  isFinite _ := true

noncomputable instance : Coordinate ℝ where
  Single := ℝ
  single := inferInstance
  narrow x := x
  widen x := x
  cos := Real.cos
  sin := Real.sin
  truncate x := ⌊x⌋₊

end GraphBrowser
