import GraphBrowser.Geometry

set_option autoImplicit false

namespace GraphBrowser

structure Scatter (α : Type) where
  state : UInt64
  radius : α

namespace Scatter

-- The generator's states after its first draw are the numbers below this one.
def modulus : UInt64 := 233280

def advance (state : UInt64) : UInt64 := ((state + 1) * 9301 + 49297) % modulus

variable {α : Type} [Coordinate α]

def fraction (state : UInt64) : α := Scalar.ofInt state.toNat / 233280.0

def next (s : Scatter α) : Scatter α := { s with state := advance s.state }

def point (s : Scatter α) (anchor : Point α) : Point α :=
  let angle : α := fraction s.state * 2.0 * Scalar.pi
  ⟨anchor.x + s.radius * Coordinate.cos angle, anchor.y + s.radius * Coordinate.sin angle⟩

def drop (s : Scatter α) (anchor : Point α) : Point α × Scatter α :=
  (s.next.point anchor, s.next)

end Scatter

end GraphBrowser
