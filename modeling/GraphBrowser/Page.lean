import GraphBrowser.Explorer
import GraphBrowser.Surface.Drawing

set_option autoImplicit false

namespace GraphBrowser

-- What the page runs in. The window may have no numbers for its inner size, and the canvas no element
-- around it.
structure Environment (α : Type) where
  window : Bool
  canvas : Bool
  context : Bool
  inner : Option (Size α)
  around : Option (Size α)

structure Placing (α : Type) where
  root : String
  fullscreen : Bool
  width : Option α
  height : Option α

-- A handler spawns tasks; what answers them hands each answer in as one more event.
inductive Task where
  | root (id : String)
  | neighbor (ticket : Ticket)
deriving DecidableEq, Repr

def Task.id : Task → String
  | .root id => id
  | .neighbor ticket => ticket.node

-- A place in the window, and the corner of the canvas by then.
structure Pointer (α : Type) where
  x : Int
  y : Int
  corner : Point α

inductive Event (α : Type) where
  | press (pointer : Pointer α)
  | move (pointer : Pointer α)
  | release (alt shift : Bool)
  | leave
  | wheel (pointer : Pointer α) (delta : α)
  | layoutButton
  | windowResize (inner : Option (Size α))
  | animationFrame
  | answer (task : Task) (result : FetchResult)

structure Page (α : Type) [Coordinate α] where
  placing : Placing α
  environment : Environment α
  explorer : Explorer α (Scene α) Nat
  pixels : Nat × Nat
  drag : Option (Drag α)
  pan : Option (Pan α)
  run : Option (Layout.Run α Nat)
  tasks : List Task
  rootError : Option String
  errors : List String
  listening : Bool
  animating : Bool
  painted : List (DrawCall α)

namespace Page

variable {α : Type} [Coordinate α]

def scene (p : Page α) : Scene α := p.explorer.surface

def withScene (p : Page α) (scene : Scene α) : Page α :=
  { p with explorer := { p.explorer with surface := scene } }

def banner (p : Page α) : List String := p.rootError.toList ++ p.errors

def pixelCount (length : α) : Nat := min (Coordinate.truncate length) (UInt32.size - 1)

def pixelSize (size : Size α) : Nat × Nat := (pixelCount size.width, pixelCount size.height)

def standardSize : Size α := ⟨800.0, 600.0⟩

def startSize (placing : Placing α) (environment : Environment α) : Size α :=
  if placing.fullscreen then environment.inner.getD standardSize
  else
    let around := environment.around.getD standardSize
    ⟨placing.width.getD around.width, placing.height.getD around.height⟩

def blank (placing : Placing α) (environment : Environment α) (settings : Settings α) : Page α where
  placing
  environment
  explorer :=
    let size : Size α := standardSize
    .new (Scene.empty ⟨placing.width.getD size.width, placing.height.getD size.height⟩) settings
  pixels := (300, 150)
  drag := none
  pan := none
  run := none
  tasks := []
  rootError := none
  errors := []
  listening := false
  animating := false
  painted := []

def start (p : Page α) : Page α :=
  if p.environment.canvas && p.environment.window then
    let size := startSize p.placing p.environment
    let p := { p with pixels := pixelSize size }
    if p.environment.context then
      { p.withScene (p.scene.resize size) with
        tasks := [.root p.placing.root], listening := p.placing.fullscreen, animating := true }
    else p
  else p

def mount (placing : Placing α) (environment : Environment α) (settings : Settings α) : Page α :=
  (blank placing environment settings).start

def onCanvas? (p : Page α) (pointer : Pointer α) : Option (Point α) :=
  if p.environment.canvas then
    some ⟨Scalar.ofInt pointer.x - pointer.corner.x, Scalar.ofInt pointer.y - pointer.corner.y⟩
  else none

def press (p : Page α) (pointer : Point α) : Page α :=
  match p.scene.nodeAt? pointer with
  | some element =>
      let node := (p.scene.nodes[element]?.map SceneNode.position).getD Point.origin
      { p with drag := some { element, pointer, node, moved := false } }
  | none =>
      let view := p.scene.view
      { p with pan := some { pointer, view := ⟨view.x, view.y⟩ } }

-- A held node follows the pointer once it is dragged; else a held background does.
def moved (p : Page α) (pointer : Point α) : Page α :=
  match p.drag, p.pan with
  | some drag, _ =>
      let drag := drag.follow pointer
      let p := { p with drag := some drag }
      if drag.moved then
        p.withScene (p.scene.moveNode drag.element (drag.target pointer p.scene.view.k))
      else p
  | none, some pan => p.withScene (p.scene.withView (p.scene.view.moveTo (pan.target pointer)))
  | none, none => p

def letGo (p : Page α) : Page α := { p with drag := none, pan := none }

def clicked? (p : Page α) : Option String :=
  match p.drag with
  | some drag => if drag.moved then none else p.scene.nodes[drag.element]?.map SceneNode.id
  | none => none

def spawn (p : Page α) (tickets : List Ticket) : Page α :=
  { p with tasks := p.tasks ++ tickets.map .neighbor }

def refreshErrors (p : Page α) : Page α := { p with errors := p.explorer.failureMessages }

def click (p : Page α) (id : String) (alt shift : Bool) : Page α :=
  let (tickets, explorer) :=
    if alt then ([], (p.explorer.collapse id).2)
    else p.explorer.expand id (if shift then .inbound else .outbound)
  ({ p with explorer }.refreshErrors).spawn tickets

def release (p : Page α) (alt shift : Bool) : Page α :=
  match p.clicked? with
  | some id => p.letGo.click id alt shift
  | none => p.letGo

def zoomFactor (delta : α) : α := if (0.0 : α) < delta then 0.9 else 1.1

def wheel (p : Page α) (pointer : Point α) (delta : α) : Page α :=
  p.withScene (p.scene.withView (p.scene.view.zoom pointer (zoomFactor delta)))

def layoutButton (p : Page α) : Page α :=
  let (run, explorer) := (p.withScene p.scene.resetView).explorer.runLayout
  { p with explorer, run := some run }

def windowResize (p : Page α) (inner : Option (Size α)) : Page α :=
  let p := { p with environment := { p.environment with inner } }
  match p.listening, inner with
  | true, some size => { p.withScene (p.scene.resize size) with pixels := pixelSize size }
  | _, _ => p

def advanceRun (p : Page α) : Page α :=
  match p.run with
  | none => p
  | some run =>
      match run.next? p.explorer.layout with
      | none => { p with run := none }
      | some (frame, run) =>
          { p with explorer := (p.explorer.applyFrame frame).2, run := some run }

def paint (p : Page α) : List (DrawCall α) × Page α :=
  let (dirty, scene) := p.scene.takeDirty
  if dirty then
    let calls := scene.draw
    (calls, { p.withScene scene with painted := calls })
  else ([], p.withScene scene)

def animate (p : Page α) : List (DrawCall α) × Page α :=
  if p.animating then p.advanceRun.paint else ([], p)

def answer (p : Page α) (task : Task) (result : FetchResult) : Page α :=
  if task ∈ p.tasks then
    let p := { p with tasks := p.tasks.erase task }
    match task, result with
    | .root _, .ok fragment => { p with explorer := (p.explorer.openRoot fragment).2 }
    | .root id, .error e => { p with rootError := some ("could not open " ++ id ++ ": " ++ e.message) }
    | .neighbor ticket, result =>
        let (outcome, explorer) := p.explorer.redeem ticket result
        let p := { p with explorer }
        if outcome = .failed then p.refreshErrors else p
  else p

def handle (p : Page α) : Event α → Page α
  | .press pointer => ((p.onCanvas? pointer).map p.press).getD p
  | .move pointer => ((p.onCanvas? pointer).map p.moved).getD p
  | .release alt shift => p.release alt shift
  | .leave => p.letGo
  | .wheel pointer delta => ((p.onCanvas? pointer).map (p.wheel · delta)).getD p
  | .layoutButton => p.layoutButton
  | .windowResize inner => p.windowResize inner
  | .animationFrame => p.animate.2
  | .answer task result => p.answer task result

end Page

end GraphBrowser
