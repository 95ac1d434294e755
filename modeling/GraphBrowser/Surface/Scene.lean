import GraphBrowser.Surface
import GraphBrowser.View

set_option autoImplicit false

namespace GraphBrowser

structure SceneNode (α : Type) where
  id : String
  label : Option String
  position : Point α
  visible : Bool
  wired : Bool

namespace SceneNode

variable {α : Type}

def caption (n : SceneNode α) : String := n.label.getD n.id

def hitRadius [Scalar α] : α := 14.0

def isHit [Scalar α] (n : SceneNode α) (p : Point α) : Bool :=
  n.visible && n.wired && decide (p.distance n.position < hitRadius)

end SceneNode

structure Connector where
  source : Nat
  target : Nat
  label : String
deriving DecidableEq, Repr

-- An element is the place of its node among the nodes, which lie over each other in this order.
structure Scene (α : Type) where
  nodes : Array (SceneNode α)
  connectors : List Connector
  view : View α
  size : Size α
  -- Whether something may look different since the scene was last drawn.
  dirty : Bool

namespace Scene

variable {α : Type} [Scalar α]

def empty (size : Size α) : Scene α := ⟨#[], [], View.plain, size, true⟩

def palette : List String :=
  ["#1f77b4", "#ff7f0e", "#2ca02c", "#d62728", "#9467bd", "#8c564b", "#e377c2", "#7f7f7f",
    "#bcbd22", "#17becf"]

def color (element : Nat) : String := palette.getD (element % palette.length) ""

def markDirty (s : Scene α) : Scene α := { s with dirty := true }

def withView (s : Scene α) (view : View α) : Scene α := { s with view, dirty := true }

def resetView (s : Scene α) : Scene α := s.withView View.plain

def resize (s : Scene α) (size : Size α) : Scene α := { s with size, dirty := true }

def takeDirty (s : Scene α) : Bool × Scene α := (s.dirty, { s with dirty := false })

def change (s : Scene α) (element : Nat) (f : SceneNode α → SceneNode α) : Scene α :=
  if element < s.nodes.size then { s with nodes := s.nodes.modify element f, dirty := true } else s

def moveNode (s : Scene α) (element : Nat) (position : Point α) : Scene α :=
  s.change element ({ · with position })

def nodeAt? (s : Scene α) (pointer : Point α) : Option Nat :=
  let p := s.view.toScene pointer
  (s.nodes.toList.zipIdx.reverse.find? fun (n, _) => n.isHit p).map (·.2)

instance : Surface (Scene α) α Nat where
  create node s :=
    (s.nodes.size,
      { s with
        nodes := s.nodes.push
          { id := node.id, label := node.label, position := s.size.center, visible := true,
            wired := false }
        dirty := true })
  bind _ element s := { s with nodes := s.nodes.modify element ({ · with wired := true }) }
  reveal element s := s.change element ({ · with visible := true })
  hide element s := s.change element ({ · with visible := false })
  connect source target label s :=
    { s with connectors := s.connectors ++ [{ source, target, label }], dirty := true }
  disconnect element s :=
    { s with
      connectors := s.connectors.filter fun c => c.source != element && c.target != element
      dirty := true }
  offset s element := (s.nodes[element]?.map SceneNode.position).getD Point.origin
  setOffset element offset s := s.moveNode element offset
  repaint _ s := s.markDirty
  size s := s.size

end Scene

end GraphBrowser
