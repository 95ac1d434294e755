import GraphBrowser.Fragment
import GraphBrowser.Geometry

set_option autoImplicit false

namespace GraphBrowser

class Surface (σ : Type) (α ε : outParam Type) where
  create : NodeSummary → σ → ε × σ
  bind : String → ε → σ → σ
  reveal : ε → σ → σ
  hide : ε → σ → σ
  connect : ε → ε → String → σ → σ
  disconnect : ε → σ → σ
  offset : σ → ε → Point α
  setOffset : ε → Point α → σ → σ
  repaint : ε → σ → σ
  size : σ → Size α

end GraphBrowser
