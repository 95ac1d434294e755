import GraphBrowser.Simulation

set_option autoImplicit false

namespace GraphBrowser

structure LayoutSettings (α : Type) [Coordinate α] where
  maxIterations : Nat
  ease : α
  repaintEvery : Nat
  timeStep : Coordinate.Single α
  margin : α
  forces : Forces (Coordinate.Single α)
  mass : Coordinate.Single α
  course : Course (Coordinate.Single α)

namespace LayoutSettings

variable {α : Type} [Coordinate α]

def standard : LayoutSettings α where
  maxIterations := 200
  ease := 0.1
  repaintEvery := 2
  timeStep := 0.016
  margin := 40.0
  forces := { charge := 150.0, spring := 0.05, cap := 100.0, speed := 3000.0, damping := 0.9 }
  mass := 10.0
  course := .forced

-- Overrides what is given. The fraction is brought between zero and one, and placements are carried by
-- every tick at the most.
def tune (s : LayoutSettings α) (maxIterations : Option Nat) (ease : Option α)
    (repaintEvery : Option Nat) : LayoutSettings α :=
  { s with
    maxIterations := maxIterations.getD s.maxIterations
    ease := (ease.map (Scalar.clamp 0.0 1.0)).getD s.ease
    repaintEvery := (repaintEvery.map (max 1)).getD s.repaintEvery }

end LayoutSettings

structure Settings (α : Type) [Coordinate α] where
  layout : LayoutSettings α
  placementRadius : α
  fetchBase : String
  seed : UInt64

def Settings.standard {α : Type} [Coordinate α] : Settings α where
  layout := .standard
  placementRadius := 180.0
  fetchBase := "/ui/dataset-browse-element"
  seed := 49297

end GraphBrowser
