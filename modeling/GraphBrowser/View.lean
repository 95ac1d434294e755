import GraphBrowser.Geometry

set_option autoImplicit false

namespace GraphBrowser

-- A point `p` of the scene is seen at `p * k + (x, y)`.
structure View (α : Type) where
  x : α
  y : α
  k : α

namespace View

variable {α : Type} [Scalar α]

def plain : View α := ⟨0.0, 0.0, 1.0⟩

def toScene (v : View α) (p : Point α) : Point α := ⟨(p.x - v.x) / v.k, (p.y - v.y) / v.k⟩

def zoom (v : View α) (pointer : Point α) (factor : α) : View α :=
  let k := Scalar.clamp 0.1 10.0 (v.k * factor)
  let ratio := k / v.k
  ⟨pointer.x - (pointer.x - v.x) * ratio, pointer.y - (pointer.y - v.y) * ratio, k⟩

def moveTo (v : View α) (p : Point α) : View α := { v with x := p.x, y := p.y }

end View

-- A held node: where the pointer took it, where the node stood, and whether the pointer has travelled
-- far enough for this to be a drag and no click.
structure Drag (α : Type) where
  element : Nat
  pointer : Point α
  node : Point α
  moved : Bool

structure Pan (α : Type) where
  pointer : Point α
  view : Point α

variable {α : Type} [Scalar α]

namespace Drag

def threshold : α := 3.0

-- Once the pointer was further than the threshold from where it took the node, it stays a drag.
def follow (d : Drag α) (pointer : Point α) : Drag α :=
  if (threshold : α) < d.pointer.distance pointer then { d with moved := true } else d

def target (d : Drag α) (pointer : Point α) (k : α) : Point α :=
  ⟨d.node.x + (pointer.x - d.pointer.x) / k, d.node.y + (pointer.y - d.pointer.y) / k⟩

end Drag

def Pan.target (p : Pan α) (pointer : Point α) : Point α :=
  ⟨p.view.x + (pointer.x - p.pointer.x), p.view.y + (pointer.y - p.pointer.y)⟩

end GraphBrowser
