import GraphBrowser.Scalar

set_option autoImplicit false

namespace GraphBrowser

structure Point (α : Type) where
  x : α
  y : α

structure Size (α : Type) where
  width : α
  height : α

structure Box (α : Type) where
  left : α
  top : α
  right : α
  bottom : α

variable {α : Type} [Scalar α]

namespace Point

def origin : Point α := ⟨0.0, 0.0⟩

def isFinite (p : Point α) : Bool := Scalar.isFinite p.x && Scalar.isFinite p.y

def distance (p q : Point α) : α := Scalar.length (q.x - p.x) (q.y - p.y)

end Point

def Size.center (s : Size α) : Point α := ⟨s.width / 2.0, s.height / 2.0⟩

namespace Box

def ofPoint (p : Point α) : Box α := ⟨p.x, p.y, p.x, p.y⟩

def extend (b : Box α) (p : Point α) : Box α :=
  ⟨Scalar.least b.left p.x, Scalar.least b.top p.y,
    Scalar.greatest b.right p.x, Scalar.greatest b.bottom p.y⟩

def around? (ps : List (Point α)) : Option (Box α) :=
  match ps.filter Point.isFinite with
  | [] => none
  | p :: rest => some (rest.foldl extend (ofPoint p))

def step (fraction start goal : α) : α := start + (goal - start) * fraction

def ease (b goal : Box α) (fraction : α) : Box α :=
  ⟨step fraction b.left goal.left, step fraction b.top goal.top,
    step fraction b.right goal.right, step fraction b.bottom goal.bottom⟩

def center (b : Box α) : Point α := ⟨(b.left + b.right) / 2.0, (b.top + b.bottom) / 2.0⟩

end Box

structure Viewport (α : Type) where
  box : Box α
  size : Size α
  margin : α

namespace Viewport

-- One factor for both axes, so that proportions are kept. A box or a room narrower than one unit counts
-- as one unit wide.
def scale (v : Viewport α) : α :=
  let roomWide := Scalar.greatest (v.size.width - 2.0 * v.margin) 1.0
  let roomHigh := Scalar.greatest (v.size.height - 2.0 * v.margin) 1.0
  let wide := Scalar.greatest (v.box.right - v.box.left) 1.0
  let high := Scalar.greatest (v.box.bottom - v.box.top) 1.0
  Scalar.least (roomWide / wide) (roomHigh / high)

def place (v : Viewport α) (p : Point α) : Point α :=
  let middle := v.box.center
  ⟨v.size.width / 2.0 + (p.x - middle.x) * v.scale,
    v.size.height / 2.0 + (p.y - middle.y) * v.scale⟩

end Viewport

end GraphBrowser
