import GraphBrowser.Links
import GraphBrowser.Nodes
import GraphBrowser.Settings

set_option autoImplicit false

namespace GraphBrowser.Layout

structure Placement (α ε : Type) where
  id : String
  element : ε
  offset : Point α

structure Frame (α ε : Type) where
  iteration : Nat
  placements : List (Placement α ε)

def Frame.isIdle {α ε : Type} (f : Frame α ε) : Bool := f.placements.isEmpty

-- A run of an earlier generation has ended.
structure Engine (α : Type) [Coordinate α] where
  settings : LayoutSettings α
  generation : Nat

structure Run (α ε : Type) [Coordinate α] where
  settings : LayoutSettings α
  simulation : Simulation (Coordinate.Single α)
  members : List (String × ε)
  springs : Nat
  size : Size α
  -- The box that is shown; it follows the box of the bodies with a delay.
  displayed : Option (Box α)
  iteration : Nat
  generation : Nat

variable {α ε σ : Type} [Coordinate α]

-- A small shift, different for each `i`, so that no two nodes start in one place.
def jitter (i : Nat) : Point α :=
  let angle : α := Scalar.ofInt i * 2.399963
  ⟨Coordinate.cos angle, Coordinate.sin angle⟩

def startBody (mass : Coordinate.Single α) (offset shift : Point α) : Body (Coordinate.Single α) :=
  .still (Coordinate.narrow (offset.x + shift.x)) (Coordinate.narrow (offset.y + shift.y)) mass

def joints (ids : List String) (links : LinkTable) : List (Nat × Nat) :=
  (links.shown.filter fun l => !l.isLoop).filterMap fun l =>
    match ids.idxOf? l.source, ids.idxOf? l.destination with
    | some i, some j => some (i, j)
    | _, _ => none

namespace Engine

def new (settings : LayoutSettings α) : Engine α := ⟨settings, 0⟩

def cancel (e : Engine α) : Engine α := { e with generation := e.generation + 1 }

def run [Surface σ α ε] (e : Engine α) (nodes : NodeTable ε) (links : LinkTable) (surface : σ) :
    Run α ε × Engine α :=
  let e := e.cancel
  let visible := nodes.shown
  let bodies := visible.zipIdx.map fun ((_, node), i) =>
    startBody e.settings.mass (Surface.offset surface node.element) (jitter i)
  let joined := joints (visible.map (·.1)) links
  let simulation := joined.foldl (fun s (i, j) => s.addSpring i j)
    { Simulation.empty e.settings.forces with bodies := bodies.toArray }
  ({ settings := e.settings
     simulation
     members := visible.map fun (id, node) => (id, node.element)
     springs := joined.length
     size := Surface.size surface
     displayed := none
     iteration := 0
     generation := e.generation }, e)

end Engine

namespace Run

def isCancelled (r : Run α ε) (e : Engine α) : Bool := e.generation != r.generation

def isFinished (r : Run α ε) (e : Engine α) : Bool :=
  r.isCancelled e || decide (r.settings.maxIterations ≤ r.iteration)

def positions (simulation : Simulation (Coordinate.Single α)) : List (Point α) :=
  simulation.bodies.toList.map fun b => ⟨Coordinate.widen b.x, Coordinate.widen b.y⟩

-- The box to display after a tick: the box around the bodies at first, later one that has moved part of
-- the way toward it.
def display (ease : α) (shown : Option (Box α)) (positions : List (Point α)) : Option (Box α) :=
  match Box.around? positions with
  | none => shown
  | some goal => some ((shown.map fun box => box.ease goal ease).getD goal)

def placements (r : Run α ε) (displayed : Option (Box α)) (positions : List (Point α)) :
    List (Placement α ε) :=
  match displayed with
  | none => []
  | some box =>
      let viewport : Viewport α := { box, size := r.size, margin := r.settings.margin }
      ((r.members.zip positions).filter (·.2.isFinite)).map fun ((id, element), position) =>
        { id, element, offset := viewport.place position }

def paints (settings : LayoutSettings α) (iteration : Nat) : Bool :=
  iteration == settings.maxIterations || iteration % max settings.repaintEvery 1 == 0

def next? (r : Run α ε) (e : Engine α) : Option (Frame α ε × Run α ε) :=
  if r.isFinished e then none
  else
    let iteration := r.iteration + 1
    let simulation := r.settings.course.update iteration r.settings.timeStep r.simulation
    let positions := positions simulation
    let displayed := display r.settings.ease r.displayed positions
    let placements :=
      if paints r.settings iteration then r.placements displayed positions else []
    some ({ iteration, placements }, { r with simulation, displayed, iteration })

end Run

end GraphBrowser.Layout
