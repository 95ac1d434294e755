import GraphBrowser.Decimal.Text
import GraphBrowser.Surface.Scene

set_option autoImplicit false

namespace GraphBrowser

inductive DrawCall (α : Type) where
  | fillStyle (color : String)
  | strokeStyle (color : String)
  | font (pixels : α)
  | textAlign (side : String)
  | lineWidth (width : α)
  | fillRect (corner : Point α) (size : Size α)
  | save
  | restore
  | translate (offset : Point α)
  | scale (kx ky : α)
  | beginPath
  | closePath
  | moveTo (p : Point α)
  | lineTo (p : Point α)
  | quadraticCurveTo (control goal : Point α)
  | arc (center : Point α) (radius start stop : α)
  | stroke
  | fill
  | fillText (text : String) (position : Point α)

namespace Drawing

variable {α : Type} [Scalar α]

def nodeRadius : α := 8.0

def labelAt : α := 0.7

-- Sideways bend of connectors, so that opposite directions do not overlap.
def bend : α := 0.2

def circle (center : Point α) : DrawCall α := .arc center nodeRadius 0.0 (2.0 * Scalar.pi)

def label (text : String) (p : Point α) (k : α) : List (DrawCall α) :=
  [.fillStyle "rgba(220, 230, 255, 0.85)", .font (10.0 / Scalar.greatest k 0.5),
    .textAlign "center", .fillText text p, .textAlign "start"]

def loop (node : Point α) (text : String) (k : α) : List (DrawCall α) :=
  let center : Point α := ⟨node.x, node.y - nodeRadius * 2.0⟩
  [.beginPath, circle center, .stroke] ++ label text ⟨center.x, center.y - nodeRadius - 4.0⟩ k

def arrowHead (control goal : Point α) (k : α) : List (DrawCall α) :=
  let size := 9.0 / k
  let tx := goal.x - control.x
  let ty := goal.y - control.y
  let reach := Scalar.greatest (Scalar.length tx ty) 0.001
  let ux := tx / reach
  let uy := ty / reach
  let tip : Point α := ⟨goal.x - ux * nodeRadius, goal.y - uy * nodeRadius⟩
  let back : Point α := ⟨tip.x - ux * size, tip.y - uy * size⟩
  let px := -uy * size * 0.45
  let py := ux * size * 0.45
  [.beginPath, .moveTo tip, .lineTo ⟨back.x + px, back.y + py⟩,
    .lineTo ⟨back.x - px, back.y - py⟩, .closePath, .fill]

def curvePoint (a q b : α) : α :=
  let t : α := labelAt
  Scalar.square (1.0 - t) * a + 2.0 * (1.0 - t) * t * q + t * t * b

-- A curved arrow. Nodes that all but coincide have none.
def arrow (start goal : Point α) (text : String) (k : α) : List (DrawCall α) :=
  let dx := goal.x - start.x
  let dy := goal.y - start.y
  let distance := Scalar.length dx dy
  if distance < 0.001 then []
  else
    let ux := dx / distance
    let uy := dy / distance
    let control : Point α :=
      ⟨(start.x + goal.x) / 2.0 - uy * distance * bend,
        (start.y + goal.y) / 2.0 + ux * distance * bend⟩
    [.beginPath, .moveTo start, .quadraticCurveTo control goal, .stroke] ++
      arrowHead control goal k ++
      label text
        ⟨curvePoint start.x control.x goal.x, curvePoint start.y control.y goal.y⟩ k

def connector (s : Scene α) (c : Connector) : List (DrawCall α) :=
  match s.nodes[c.source]?, s.nodes[c.target]? with
  | some source, some target =>
      if source.visible && target.visible then
        let k := s.view.k
        [.strokeStyle "rgba(100, 180, 255, 0.7)", .fillStyle "rgba(100, 180, 255, 0.9)",
          .lineWidth (2.0 / k)] ++
          if c.source = c.target then loop source.position c.label k
          else arrow source.position target.position c.label k
      else []
  | _, _ => []

def node (n : SceneNode α) (element : Nat) (k : α) : List (DrawCall α) :=
  if n.visible then
    [.beginPath, circle n.position, .fillStyle (Scene.color element), .fill, .fillStyle "white",
      .font (11.0 / Scalar.greatest k 0.5),
      .fillText n.caption ⟨n.position.x + nodeRadius + 3.0, n.position.y + 3.0⟩]
  else []

def fontText (pixels : Float) : String := NumberFormat.plain.write pixels ++ "px sans-serif"

def background (size : Size α) : List (DrawCall α) :=
  [.fillStyle "#1a1a2e", .fillRect Point.origin size]

end Drawing

def Scene.draw {α : Type} [Scalar α] (s : Scene α) : List (DrawCall α) :=
  Drawing.background s.size ++
    [.save, .translate ⟨s.view.x, s.view.y⟩, .scale s.view.k s.view.k] ++
    s.connectors.flatMap (Drawing.connector s) ++
    s.nodes.toList.zipIdx.flatMap (fun (n, element) => Drawing.node n element s.view.k) ++
    [.restore]

end GraphBrowser
