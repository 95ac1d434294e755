import GraphBrowser.Proofs.Frames
import GraphBrowser.Proofs.Snapshot

set_option autoImplicit false

namespace GraphBrowser

namespace Layout

namespace Run

variable {α ε : Type}

theorem zip_in_order (members : List (String × ε)) (positions : List (Point α))
    (inOrder : members.Pairwise fun a b => octets a.1 < octets b.1) :
    (members.zip positions).Pairwise fun a b => octets a.1.1 < octets b.1.1 := by
  induction members generalizing positions with
  | nil => exact List.Pairwise.nil
  | cons member rest ih =>
      cases positions with
      | nil => exact List.Pairwise.nil
      | cons point others =>
          obtain ⟨first, later⟩ := List.pairwise_cons.mp inOrder
          rw [List.zip_cons_cons, List.pairwise_cons]
          refine ⟨?_, ih others later⟩
          intro pair paired
          exact first pair.1 (List.of_mem_zip paired).1

variable [Coordinate α]

def viewport (r : Run α ε) (box : Box α) : Viewport α := { box, size := r.size, margin := r.settings.margin }

theorem positions_length (simulation : Simulation (Coordinate.Single α)) :
    (positions simulation : List (Point α)).length = simulation.bodies.size := by
  rw [positions, List.length_map, Array.length_toList]

theorem mem_placements (r : Run α ε) (box : Box α) (positions : List (Point α)) (p : Placement α ε) :
    p ∈ r.placements (some box) positions ↔ ∃ (i : Nat) (point : Point α), r.members[i]? = some (p.id, p.element) ∧
      positions[i]? = some point ∧ point.isFinite = true ∧ p.offset = (r.viewport box).place point := by
  have paired (owner : String × ε) (point : Point α) : (owner, point) ∈ r.members.zip positions ↔
      ∃ i : Nat, r.members[i]? = some owner ∧ positions[i]? = some point := by
    simp only [List.mem_iff_getElem?, List.getElem?_zip_eq_some]
  simp only [placements, List.mem_map, List.mem_filter]
  constructor
  · intro ⟨⟨owner, point⟩, ⟨member, finite⟩, same⟩
    obtain ⟨i, owned, position⟩ := (paired owner point).mp member
    subst same
    exact ⟨i, point, owned, position, finite, rfl⟩
  · intro ⟨i, point, owned, position, finite, offset⟩
    refine ⟨((p.id, p.element), point), ⟨(paired _ point).mpr ⟨i, owned, position⟩, finite⟩, ?_⟩
    cases p
    cases offset
    rfl

theorem placements_in_order (r : Run α ε) (displayed : Option (Box α)) (positions : List (Point α))
    (inOrder : r.members.Pairwise fun a b => octets a.1 < octets b.1) :
    (r.placements displayed positions).Pairwise fun a b => octets a.id < octets b.id := by
  cases displayed with
  | none => exact List.Pairwise.nil
  | some box => exact List.pairwise_map.mpr ((zip_in_order r.members positions inOrder).filter _)

theorem display_some (ease : α) (shown : Option (Box α)) (positions : List (Point α))
    (finite : ∃ point ∈ positions, point.isFinite = true) : ∃ box, display ease shown positions = some box := by
  unfold display
  split
  next none =>
    unfold Box.around? at none
    split at none
    next idle =>
      obtain ⟨point, member, finite⟩ := finite
      exact absurd finite (List.filter_eq_nil_iff.mp idle point member)
    next => cases none
  next => exact ⟨_, rfl⟩

theorem paints_iff (given : LayoutSettings α) (k : Nat) :
    paints given k = true ↔ k = given.maxIterations ∨ max 1 given.repaintEvery ∣ k := by
  rw [paints, Bool.or_eq_true, beq_iff_eq, beq_iff_eq, Nat.dvd_iff_mod_eq_zero, Nat.max_comm]

example : (List.range' 1 10).filter
    (paints { (.standard : LayoutSettings Float) with maxIterations := 10, repaintEvery := 3 }) = [3, 6, 9, 10] := by
  decide

-- One more tick that leads to these bodies, and the frame that it paints.
def movedTo (r : Run α ε) (simulation : Simulation (Coordinate.Single α)) : Run α ε :=
  { r with
    simulation
    displayed := display r.settings.ease r.displayed (positions simulation)
    iteration := r.iteration + 1 }

def paintedAt (r : Run α ε) (simulation : Simulation (Coordinate.Single α)) : Frame α ε where
  iteration := r.iteration + 1
  placements :=
    if paints r.settings (r.iteration + 1) then r.placements (r.movedTo simulation).displayed (positions simulation)
    else []

def nextAlong? (course : Course (Coordinate.Single α)) (e : Engine α) (r : Run α ε) : Option (Frame α ε × Run α ε) :=
  if r.isFinished e then none
  else
    let simulation := course.update (r.iteration + 1) r.settings.timeStep r.simulation
    some (r.paintedAt simulation, r.movedTo simulation)

theorem next_along_own (e : Engine α) (r : Run α ε) : r.next? e = r.nextAlong? r.settings.course e := rfl

def pulled (next : Run α ε → Option (Frame α ε × Run α ε)) (r : Run α ε) : Nat → Run α ε
  | 0 => r
  | k + 1 => ((next (pulled next r k)).map Prod.snd).getD (pulled next r k)

-- The frame of tick `k` of a run over these members, with the bodies then in these positions.
structure Scheduled (given : LayoutSettings α) (members : List (String × ε)) (k : Nat) (positions : List (Point α))
    (frame : Frame α ε) : Prop where
  number : frame.iteration = k
  owned : positions.length = members.length
  paints : frame.placements ≠ [] ↔
    (k = given.maxIterations ∨ max 1 given.repaintEvery ∣ k) ∧ ∃ point ∈ positions, point.isFinite = true
  places : frame.placements ≠ [] → ∀ id element, (∃ p ∈ frame.placements, p.id = id ∧ p.element = element) ↔
    ∃ (i : Nat) (point : Point α), members[i]? = some (id, element) ∧ positions[i]? = some point ∧
      point.isFinite = true
  inOrder : frame.placements.Pairwise fun a b => octets a.id < octets b.id

structure OnSchedule (run : Run α ε) (next : Run α ε → Option (Frame α ε × Run α ε)) : Prop where
  frame : ∀ k < run.settings.maxIterations, ∃ frame,
    next (pulled next run k) = some (frame, pulled next run (k + 1)) ∧
    Scheduled run.settings run.members (k + 1) (positions (pulled next run (k + 1)).simulation) frame
  ended : ∀ k, run.settings.maxIterations ≤ k → next (pulled next run k) = none

theorem placements_some (r : Run α ε) (box : Box α) (positions : List (Point α))
    (owned : positions.length = r.members.length) :
    r.placements (some box) positions ≠ [] ↔ ∃ point ∈ positions, point.isFinite = true := by
  constructor
  · intro shown
    obtain ⟨p, member⟩ := List.exists_mem_of_ne_nil _ shown
    obtain ⟨i, point, _, position, finite, _⟩ := (mem_placements r box positions p).mp member
    exact ⟨point, List.mem_of_getElem? position, finite⟩
  · intro ⟨point, member, finite⟩
    obtain ⟨i, below, position⟩ := List.mem_iff_getElem.mp member
    have owner := List.getElem?_eq_getElem (owned ▸ below : i < r.members.length)
    refine List.ne_nil_of_mem ((mem_placements r box positions ⟨_, _, _⟩).mpr ⟨i, point, owner, ?_, finite, rfl⟩)
    exact List.getElem?_eq_some_iff.mpr ⟨below, position⟩

theorem placements_displayed (r : Run α ε) (positions : List (Point α)) (owned : positions.length = r.members.length) :
    r.placements (display r.settings.ease r.displayed positions) positions ≠ [] ↔
      ∃ point ∈ positions, point.isFinite = true := by
  constructor
  · intro shown
    cases displayed : display r.settings.ease r.displayed positions with
    | none =>
        rw [displayed] at shown
        exact absurd rfl shown
    | some box => exact (placements_some r box positions owned).mp (displayed ▸ shown)
  · intro finite
    obtain ⟨box, displayed⟩ := display_some r.settings.ease r.displayed positions finite
    rw [displayed]
    exact (placements_some r box positions owned).mpr finite

theorem placements_places (r : Run α ε) (displayed : Option (Box α)) (positions : List (Point α))
    (shown : r.placements displayed positions ≠ []) (id : String) (element : ε) :
    (∃ p ∈ r.placements displayed positions, p.id = id ∧ p.element = element) ↔
      ∃ (i : Nat) (point : Point α), r.members[i]? = some (id, element) ∧ positions[i]? = some point ∧
        point.isFinite = true := by
  cases displayed with
  | none => exact absurd rfl shown
  | some box =>
      constructor
      · intro ⟨p, member, sameId, sameElement⟩
        obtain ⟨i, point, owned, position, finite, _⟩ := (mem_placements r box positions p).mp member
        exact ⟨i, point, sameId ▸ sameElement ▸ owned, position, finite⟩
      · intro ⟨i, point, owned, position, finite⟩
        have member := (mem_placements r box positions ⟨id, element, _⟩).mpr ⟨i, point, owned, position, finite, rfl⟩
        exact ⟨_, member, rfl, rfl⟩

theorem painted_at_in_order (r : Run α ε) (simulation : Simulation (Coordinate.Single α))
    (inOrder : r.members.Pairwise fun a b => octets a.1 < octets b.1) :
    (r.paintedAt simulation).placements.Pairwise fun a b => octets a.id < octets b.id := by
  dsimp only [paintedAt]
  split
  next => exact placements_in_order r _ _ inOrder
  next => exact List.Pairwise.nil

theorem painted_at_scheduled (r : Run α ε) (simulation : Simulation (Coordinate.Single α))
    (owned : simulation.bodies.size = r.members.length)
    (inOrder : r.members.Pairwise fun a b => octets a.1 < octets b.1) :
    Scheduled r.settings r.members (r.iteration + 1) (positions simulation) (r.paintedAt simulation) := by
  have count : (positions simulation).length = r.members.length := (positions_length simulation).trans owned
  have displayed := placements_displayed r (positions simulation) count
  have drawn : (r.paintedAt simulation).placements =
      if Run.paints r.settings (r.iteration + 1) then
        r.placements (display r.settings.ease r.displayed (positions simulation)) (positions simulation)
      else [] := rfl
  refine ⟨rfl, count, ?_, ?_, painted_at_in_order r simulation inOrder⟩
  · rw [drawn, ← paints_iff, ← displayed]
    split
    next paints => rw [and_iff_right paints]
    next idle => exact iff_of_false (fun shown => shown rfl) fun shown => idle shown.1
  · rw [drawn]
    split
    next => exact placements_places r _ _
    next => exact fun shown => absurd rfl shown

structure Pulled (run : Run α ε) (k : Nat) (r : Run α ε) : Prop where
  settings : r.settings = run.settings
  members : r.members = run.members
  size : r.size = run.size
  generation : r.generation = run.generation
  ticks : r.iteration = min k run.settings.maxIterations
  bodies : r.simulation.bodies.size = run.members.length

theorem moved_to_pulled (run r : Run α ε) (k : Nat) (kept : Pulled run k r) (early : k < run.settings.maxIterations)
    (simulation : Simulation (Coordinate.Single α)) (owned : simulation.bodies.size = run.members.length) :
    Pulled run (k + 1) (r.movedTo simulation) := by
  refine ⟨kept.settings, kept.members, kept.size, kept.generation, ?_, owned⟩
  have ticks := kept.ticks
  have one : (r.movedTo simulation).iteration = r.iteration + 1 := rfl
  omega

theorem pulled_finished (run r : Run α ε) (k : Nat) (kept : Pulled run k r) (e : Engine α)
    (current : run.generation = e.generation) : r.isFinished e = true ↔ run.settings.maxIterations ≤ k := by
  have ticks := kept.ticks
  rw [finished_iff, kept.generation, kept.settings]
  omega

variable (course : Course (Coordinate.Single α)) (e : Engine α) (run : Run α ε)

structure Fresh (e : Engine α) (run : Run α ε) : Prop where
  current : run.generation = e.generation
  unpulled : run.iteration = 0
  undisplayed : run.displayed = none
  owned : run.simulation.bodies.size = run.members.length

theorem next_along_pulled (fresh : Fresh e run) (r : Run α ε) (k : Nat) (here : pulled (nextAlong? course e) run k = r)
    (kept : Pulled run k r) (early : k < run.settings.maxIterations) :
    ∃ simulation, simulation.bodies.size = run.members.length ∧
      r.nextAlong? course e = some (r.paintedAt simulation, r.movedTo simulation) ∧
      pulled (nextAlong? course e) run (k + 1) = r.movedTo simulation := by
  have unfinished : ¬ r.isFinished e = true := by
    rw [pulled_finished run r k kept e fresh.current]
    omega
  have size := (course.keeps (r.iteration + 1) r.settings.timeStep r.simulation).trans kept.bodies
  have next : r.nextAlong? course e = some (r.paintedAt _, r.movedTo _) := if_neg unfinished
  refine ⟨_, size, next, ?_⟩
  rw [pulled, here, next]
  rfl

theorem pulled_kept (fresh : Fresh e run) (k : Nat) : Pulled run k (pulled (nextAlong? course e) run k) := by
  induction k with
  | zero => exact ⟨rfl, rfl, rfl, rfl, by rw [pulled, fresh.unpulled, Nat.zero_min], fresh.owned⟩
  | succ k ih =>
      by_cases early : k < run.settings.maxIterations
      · obtain ⟨simulation, size, _, after⟩ := next_along_pulled course e run fresh _ k rfl ih early
        rw [after]
        exact moved_to_pulled run _ k ih early simulation size
      · have finished := (pulled_finished run _ k ih e fresh.current).mpr (Nat.le_of_not_lt early)
        have still : pulled (nextAlong? course e) run (k + 1) = pulled (nextAlong? course e) run k := by
          rw [pulled, nextAlong?, if_pos finished]
          rfl
        have ticks := ih.ticks
        rw [still]
        exact ⟨ih.settings, ih.members, ih.size, ih.generation, by omega, ih.bodies⟩

theorem pulled_on_schedule (fresh : Fresh e run) (inOrder : run.members.Pairwise fun a b => octets a.1 < octets b.1) :
    OnSchedule run (nextAlong? course e) := by
  have kept := pulled_kept course e run fresh
  constructor
  · intro k early
    obtain ⟨simulation, size, next, after⟩ := next_along_pulled course e run fresh _ k rfl (kept k) early
    have painted := painted_at_scheduled (pulled (nextAlong? course e) run k) simulation
      (by rw [size, (kept k).members]) (by rwa [(kept k).members])
    rw [(kept k).settings, (kept k).members, (kept k).ticks, Nat.min_eq_left early.le] at painted
    rw [after]
    exact ⟨_, next, painted⟩
  · intro k late
    exact if_pos ((pulled_finished run _ k (kept k) e fresh.current).mpr late)

-- The settings stay, so a run follows the course that it set out on.
theorem next_own (fresh : Fresh e run) (k : Nat) :
    (pulled (nextAlong? run.settings.course e) run k).next? e =
      nextAlong? run.settings.course e (pulled (nextAlong? run.settings.course e) run k) := by
  rw [next_along_own, (pulled_kept run.settings.course e run fresh k).settings]

theorem pulled_own (fresh : Fresh e run) (k : Nat) :
    pulled (·.next? e) run k = pulled (nextAlong? run.settings.course e) run k := by
  induction k with
  | zero => rfl
  | succ k ih => rw [pulled, pulled, ih, next_own e run fresh]

theorem own_on_schedule (fresh : Fresh e run) (inOrder : run.members.Pairwise fun a b => octets a.1 < octets b.1) :
    OnSchedule run (·.next? e) := by
  have scheduled := pulled_on_schedule run.settings.course e run fresh inOrder
  constructor
  · intro k early
    rw [pulled_own e run fresh, pulled_own e run fresh, next_own e run fresh]
    exact scheduled.frame k early
  · intro k late
    rw [pulled_own e run fresh, next_own e run fresh]
    exact scheduled.ended k late

end Run

variable {α ε σ : Type} [Coordinate α] [Surface σ α ε]

theorem run_fresh (engine : Engine α) (nodes : NodeTable ε) (links : LinkTable) (surface : σ) :
    Run.Fresh (engine.run nodes links surface).2 (engine.run nodes links surface).1 :=
  ⟨rfl, rfl, rfl, (run_snapshot engine nodes links surface).bodies⟩

theorem frames_on_schedule (engine : Engine α) (nodes : NodeTable ε) (links : LinkTable) (surface : σ) :
    let (run, later) := engine.run nodes links surface
    Snapshot engine.settings nodes links surface run ∧ run.OnSchedule (·.next? later) ∧
      ∀ course, run.OnSchedule (Run.nextAlong? course later) := by
  have snapshot := run_snapshot engine nodes links surface
  have fresh := run_fresh engine nodes links surface
  exact ⟨snapshot, Run.own_on_schedule _ _ fresh snapshot.inOrder,
    fun course => Run.pulled_on_schedule course _ _ fresh snapshot.inOrder⟩

end Layout

end GraphBrowser
