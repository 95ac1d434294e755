import GraphBrowser.Scalar

set_option autoImplicit false

namespace GraphBrowser

structure Forces (β : Type) where
  charge : β
  spring : β
  cap : β
  speed : β
  damping : β

structure Body (β : Type) where
  x : β
  y : β
  mass : β
  vx : β
  vy : β
  ax : β
  ay : β

structure Force (β : Type) where
  fx : β
  fy : β

structure Simulation (β : Type) where
  forces : Forces β
  bodies : Array (Body β)
  -- Pairs of bodies, the newest first. No two bodies are joined twice.
  springs : List (Nat × Nat)

variable {β : Type} [Scalar β]

namespace Body

def still (x y mass : β) : Body β := ⟨x, y, mass, 0.0, 0.0, 0.0, 0.0⟩

-- Direction and distance from one body to another; bodies in one place count as one unit apart.
@[specialize]
def toward (a b : Body β) : β × β × β :=
  let dx := b.x - a.x
  let dy := b.y - a.y
  let distance := if dx == 0.0 && dy == 0.0 then 1.0 else Scalar.length dx dy
  (dx / distance, dy / distance, distance)

@[specialize]
def attraction (forces : Forces β) (a b : Body β) : Force β :=
  let (ux, uy, distance) := a.toward b
  let strength := forces.spring * distance * 0.5
  ⟨ux * strength, uy * strength⟩

@[specialize]
def repulsion (forces : Forces β) (a b : Body β) : Force β :=
  let (ux, uy, distance) := a.toward b
  let strength := -forces.charge * (a.mass * b.mass / (distance * distance))
  ⟨ux * strength, uy * strength⟩

@[specialize]
def capped (cap f : β) : β := Scalar.least (Scalar.greatest f (-cap)) cap

@[specialize]
def accelerate (forces : Forces β) (step : β) (f : Force β) (a : Body β) : Body β :=
  { a with
    ax := a.ax + capped forces.cap f.fx * step
    ay := a.ay + capped forces.cap f.fy * step }

@[specialize]
def move (forces : Forces β) (step : β) (a : Body β) : Body β :=
  let vx := (a.vx + a.ax * step * forces.speed) * forces.damping
  let vy := (a.vy + a.ay * step * forces.speed) * forces.damping
  { a with x := a.x + vx * step, y := a.y + vy * step, vx, vy, ax := 0.0, ay := 0.0 }

end Body

def Force.opposite (f : Force β) : Force β := ⟨-f.fx, -f.fy⟩

namespace Simulation

def empty (forces : Forces β) : Simulation β := ⟨forces, #[], []⟩

def addSpring (s : Simulation β) (i j : Nat) : Simulation β :=
  if (i, j) ∈ s.springs ∨ (j, i) ∈ s.springs then s else { s with springs := (i, j) :: s.springs }

-- The bodies that springs join to body `i`: those of springs added from `i`, then those of springs added
-- to `i`, the newest spring first.
def joined (s : Simulation β) (i : Nat) : List Nat :=
  (s.springs.filter (·.1 == i)).map (·.2) ++ (s.springs.filter (·.2 == i)).map (·.1)

@[specialize]
def attract (step : β) (i : Nat) (s : Simulation β) (j : Nat) : Simulation β :=
  match s.bodies[i]?, s.bodies[j]? with
  | some a, some b =>
      let f := a.attraction s.forces b
      { s with bodies := s.bodies.modify i (Body.accelerate s.forces step f) }
  | _, _ => s

@[specialize]
def repel (step : β) (i : Nat) (s : Simulation β) (j : Nat) : Simulation β :=
  match s.bodies[i]?, s.bodies[j]? with
  | some a, some b =>
      let f := a.repulsion s.forces b
      { s with
        bodies := (s.bodies.modify i (Body.accelerate s.forces step f)).modify j
          (Body.accelerate s.forces step f.opposite) }
  | _, _ => s

-- A body moves before the next one is visited, so later bodies see where it went.
@[specialize]
def visit (step : β) (s : Simulation β) (i : Nat) : Simulation β :=
  let pulled := (s.joined i).foldl (attract step i) s
  let later := List.range' (i + 1) (s.bodies.size - (i + 1))
  let pushed := later.foldl (repel step i) pulled
  { pushed with bodies := pushed.bodies.modify i (Body.move s.forces step) }

@[specialize]
def tick (s : Simulation β) (step : β) : Simulation β :=
  (List.range s.bodies.size).foldl (visit step) s

omit [Scalar β] in
theorem fold_size (f : Simulation β → Nat → Simulation β) (keeps : ∀ s i, (f s i).bodies.size = s.bodies.size)
    (places : List Nat) (s : Simulation β) : (places.foldl f s).bodies.size = s.bodies.size := by
  induction places generalizing s with
  | nil => rfl
  | cons i rest ih => rw [List.foldl_cons, ih, keeps]

theorem attract_size (step : β) (i : Nat) (s : Simulation β) (j : Nat) :
    (attract step i s j).bodies.size = s.bodies.size := by
  unfold attract
  split
  next => exact Array.size_modify
  next => rfl

theorem repel_size (step : β) (i : Nat) (s : Simulation β) (j : Nat) :
    (repel step i s j).bodies.size = s.bodies.size := by
  unfold repel
  split
  next => exact Array.size_modify.trans Array.size_modify
  next => rfl

theorem visit_size (step : β) (s : Simulation β) (i : Nat) : (visit step s i).bodies.size = s.bodies.size := by
  rw [visit, Array.size_modify, fold_size _ (repel_size step i), fold_size _ (attract_size step i)]

theorem tick_size (s : Simulation β) (step : β) : (s.tick step).bodies.size = s.bodies.size :=
  fold_size _ (visit_size step) _ s

end Simulation

-- What each tick does to the bodies, be it what forces do or anything else. No body is added and none is removed.
structure Course (β : Type) where
  update : Nat → β → Simulation β → Simulation β
  keeps : ∀ tick step s, (update tick step s).bodies.size = s.bodies.size

def Course.forced : Course β where
  update _ step s := s.tick step
  keeps _ step s := s.tick_size step

end GraphBrowser
