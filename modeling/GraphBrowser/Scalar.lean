set_option autoImplicit false

namespace GraphBrowser

-- What computes with positions is written once, for binary floating point and for exact numbers. `least` and
-- `greatest` pass over an operand that is not a number, and `<` is false beside one.
class Scalar (α : Type) extends Add α, Sub α, Mul α, Div α, Neg α, BEq α, LT α, OfScientific α where
  decidableLT : DecidableLT α
  ofInt : Int → α
  least : α → α → α
  greatest : α → α → α
  sqrt : α → α
  isFinite : α → Bool

attribute [reducible, instance] Scalar.decidableLT

-- Coordinates on a surface, with the coarser numbers in which a simulation computes. `truncate` drops
-- the fraction; a negative number and one that is not a number become zero.
class Coordinate (α : Type) extends Scalar α where
  Single : Type
  single : Scalar Single
  narrow : α → Single
  widen : Single → α
  cos : α → α
  sin : α → α
  truncate : α → Nat

attribute [reducible, instance] Coordinate.single

namespace Scalar

variable {α : Type} [Scalar α]

def clamp (low high x : α) : α :=
  let raised := if x < low then low else x
  if high < raised then high else raised

def length (dx dy : α) : α := sqrt (dx * dx + dy * dy)

def square (x : α) : α := x * x

def pi : α := 3.141592653589793

end Scalar

namespace Machine

def least (a b : Float) : Float := if a.isNaN then b else if b.isNaN then a else if b < a then b else a

def greatest (a b : Float) : Float :=
  if a.isNaN then b else if b.isNaN then a else if a < b then b else a

def leastSingle (a b : Float32) : Float32 :=
  if a.isNaN then b else if b.isNaN then a else if b < a then b else a

def greatestSingle (a b : Float32) : Float32 :=
  if a.isNaN then b else if b.isNaN then a else if a < b then b else a

end Machine

instance : Scalar Float32 where
  decidableLT := inferInstance
  ofInt := Float32.ofInt
  least := Machine.leastSingle
  greatest := Machine.greatestSingle
  sqrt := Float32.sqrt
  isFinite := Float32.isFinite

instance : Coordinate Float where
  decidableLT := inferInstance
  ofInt := Float.ofInt
  least := Machine.least
  greatest := Machine.greatest
  sqrt := Float.sqrt
  isFinite := Float.isFinite
  Single := Float32
  single := inferInstance
  narrow := Float.toFloat32
  widen := Float32.toFloat
  cos := Float.cos
  sin := Float.sin
  truncate x := x.toUInt64.toNat

end GraphBrowser
