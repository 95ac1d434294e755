import GraphBrowser.IdMap
import GraphBrowser.Surface

set_option autoImplicit false

namespace GraphBrowser

structure Node (ε : Type) where
  element : ε
  visible : Bool
  -- Whether the surface has been told to let the element answer to the pointer.
  wired : Bool
  label : Option String
deriving DecidableEq

abbrev NodeTable (ε : Type) := IdMap (Node ε)

namespace NodeTable

variable {ε : Type}

def isVisible (nodes : NodeTable ε) (id : String) : Bool := (nodes[id]?.map Node.visible).getD false

-- Records the node as visible. It stays wired if it keeps its element.
def register [DecidableEq ε] (nodes : NodeTable ε) (id : String) (element : ε)
    (label : Option String) : NodeTable ε :=
  let wired := nodes[id]?.any fun known => known.wired && known.element = element
  nodes.insert id { element, visible := true, wired, label }

def markWired (nodes : NodeTable ε) (id : String) : NodeTable ε :=
  nodes.modify id fun node => { node with wired := true }

def changing? (nodes : NodeTable ε) (id : String) (visible : Bool) : Option ε :=
  (nodes[id]?.filter (·.visible != visible)).map Node.element

def setVisible (nodes : NodeTable ε) (id : String) (visible : Bool) : NodeTable ε :=
  nodes.modify id fun node => { node with visible }

variable {σ α : Type} [Surface σ α ε]

def reveal (nodes : NodeTable ε) (id : String) (surface : σ) : Bool × NodeTable ε × σ :=
  match nodes.changing? id true with
  | none => (false, nodes, surface)
  | some element => (true, nodes.setVisible id true, Surface.reveal element surface)

def hide (nodes : NodeTable ε) (id : String) (surface : σ) : Bool × NodeTable ε × σ :=
  match nodes.changing? id false with
  | none => (false, nodes, surface)
  | some element => (true, nodes.setVisible id false, Surface.hide element surface)

def shown (nodes : NodeTable ε) : List (String × Node ε) := nodes.toList.filter (·.2.visible)

end NodeTable

end GraphBrowser
