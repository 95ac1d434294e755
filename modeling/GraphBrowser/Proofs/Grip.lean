import GraphBrowser.Proofs.Zoom
import GraphBrowser.Proofs.Gestures

set_option autoImplicit false

namespace GraphBrowser

theorem div_left_iff (a k l : ℝ) (first : k ≠ 0) (second : l ≠ 0) : a / k = a / l ↔ k = l ∨ a = 0 := by
  rw [div_eq_div_iff first second, mul_eq_mul_left_iff, eq_comm]

namespace View

-- The way from the pointer to where a point of the scene is seen, in the measure of the scene.
noncomputable def reach (v : View ℝ) (pointer p : Point ℝ) : Point ℝ :=
  ⟨((v.toScreen p).x - pointer.x) / v.k, ((v.toScreen p).y - pointer.y) / v.k⟩

theorem reach_eq (v : View ℝ) (pointer p : Point ℝ) (zoomed : v.k ≠ 0) :
    v.reach pointer p = ⟨p.x - (v.toScene pointer).x, p.y - (v.toScene pointer).y⟩ := by
  simp only [reach, toScreen, toScene, Point.mk.injEq]
  constructor
  · field_simp
    ring
  · field_simp
    ring

theorem pan_reads (v w : View ℝ) (start point : Point ℝ) :
    (w.moveTo (Pan.target ⟨start, ⟨v.x, v.y⟩⟩ point)).toScene point =
      ⟨(start.x - v.x) / w.k, (start.y - v.y) / w.k⟩ := by
  simp only [moveTo, Pan.target, toScene, Point.mk.injEq]
  constructor
  · congr 1
    ring
  · congr 1
    ring

theorem pan_iff (v w : View ℝ) (start : Point ℝ) (first : v.k ≠ 0) (second : w.k ≠ 0) :
    (⟨(start.x - v.x) / w.k, (start.y - v.y) / w.k⟩ : Point ℝ) = v.toScene start ↔
      w.k = v.k ∨ start = ⟨v.x, v.y⟩ := by
  have corner : start = ⟨v.x, v.y⟩ ↔ start.x - v.x = 0 ∧ start.y - v.y = 0 := by
    rw [sub_eq_zero, sub_eq_zero, ← Point.mk.injEq]
  rw [toScene, Point.mk.injEq, div_left_iff _ _ _ second first, div_left_iff _ _ _ second first, corner, or_and_left]

theorem drag_reads (w : View ℝ) (drag : Drag ℝ) (point : Point ℝ) (zoomed : w.k ≠ 0) :
    w.reach point (drag.target point w.k) =
      ⟨drag.node.x - (w.toScene drag.pointer).x, drag.node.y - (w.toScene drag.pointer).y⟩ := by
  rw [reach_eq w point _ zoomed]
  simp only [Drag.target, toScene, Point.mk.injEq]
  constructor
  · field_simp
    ring
  · field_simp
    ring

theorem drag_iff (v w : View ℝ) (drag : Drag ℝ) (point : Point ℝ) (first : v.k ≠ 0) (second : w.k ≠ 0) :
    w.reach point (drag.target point w.k) = v.reach drag.pointer drag.node ↔
      w.toScene drag.pointer = v.toScene drag.pointer := by
  rw [drag_reads w drag point second, reach_eq v _ _ first, Point.mk.injEq, sub_right_inj, sub_right_inj,
    ← Point.mk.injEq]

end View

namespace Event

variable {α : Type}

def isWheel : Event α → Bool
  | .wheel _ _ => true
  | _ => false

theorem gliding_holds (e : Event α) (gliding : (e.isMove || e.isWheel) = true) : e.isHolding = true := by
  cases e with
  | move pointer => rfl
  | wheel pointer delta => rfl
  | _ => cases gliding

end Event

namespace Page

section Moves

variable {α : Type} [Coordinate α]

theorem moved_background (p : Page α) (pan : Pan α) (point : Point α) (free : p.drag = none) (held : p.pan = some pan) :
    (p.moved point).scene.view = p.scene.view.moveTo (pan.target point) := by
  rw [moved, free, held]
  rfl

theorem moved_node (p : Page α) (drag : Drag α) (point : Point α) (held : (p.moved point).drag = some drag)
    (strayed : drag.moved = true) :
    (p.moved point).scene = p.scene.moveNode drag.element (drag.target point p.scene.view.k) := by
  rw [moved_drag] at held
  obtain ⟨before, had, rfl⟩ := Option.map_eq_some_iff.mp held
  rw [moved, had]
  simp only [strayed]
  rfl

theorem moved_view (p : Page α) (point : Point α) (held : p.drag.isSome = true) :
    (p.moved point).scene.view = p.scene.view := by
  obtain ⟨drag, had⟩ := Option.isSome_iff_exists.mp held
  rw [moved, had]
  dsimp only
  split
  next => exact Scene.change_view p.scene _ _
  next => rfl

theorem visit_pan (p : Page α) (events : List (Event α)) (holding : ∀ e ∈ events, e.isHolding = true) :
    (p.visit events).pan = p.pan :=
  visit_keeps_along Event.isHolding (fun q => q.pan = p.pan)
    (fun q e holding same => (handle_pan q e holding).trans same) p events holding rfl

theorem visit_zoom (p : Page α) (events : List (Event α)) (moves : ∀ e ∈ events, e.isMove = true) :
    (p.visit events).scene.view.k = p.scene.view.k := by
  refine visit_keeps_along Event.isMove (fun q => q.scene.view.k = p.scene.view.k) ?_ p events moves rfl
  intro q e move same
  cases e with
  | move pointer =>
      rw [handle]
      cases q.onCanvas? pointer with
      | none => exact same
      | some point => exact (moved_zoom q point).trans same
  | _ => cases move

-- While a node is held, moves leave the view alone.
theorem visit_view (p : Page α) (events : List (Event α)) (moves : ∀ e ∈ events, e.isMove = true)
    (held : p.drag.isSome = true) : (p.visit events).scene.view = p.scene.view := by
  refine (visit_keeps_along Event.isMove (fun q => q.drag.isSome = true ∧ q.scene.view = p.scene.view) ?_ p events
    moves ⟨held, rfl⟩).2
  intro q e move before
  cases e with
  | move pointer =>
      rw [handle]
      cases q.onCanvas? pointer with
      | none => exact before
      | some point =>
          have still : (q.moved point).drag.isSome = true := by rw [moved_drag, Option.isSome_map, before.1]
          exact ⟨still, (moved_view q point before.1).trans before.2⟩
  | _ => cases move

theorem move_reached (p q : Page α) (settled : Settled p q) (pointer : Pointer α) (point : Point α)
    (reached : p.onCanvas? pointer = some point) : q.handle (.move pointer) = q.moved point := by
  rw [handle, settled_on_canvas p q settled, reached]
  rfl

end Moves

-- What was pressed is still under the pointer: the point of the background, or the node as it was taken once it
-- is dragged.
structure Gripped (p now : Page ℝ) (start point : Point ℝ) : Prop where
  background : p.scene.nodeAt? start = none → now.scene.view.toScene point = p.scene.view.toScene start
  node : ∀ (element : Nat) (n : SceneNode ℝ), p.scene.nodeAt? start = some element →
    p.scene.nodes[element]? = some n → now.drag.any Drag.moved = true →
      ∃ m, now.scene.nodes[element]? = some m ∧
        now.scene.view.reach point m.position = p.scene.view.reach start n.position

-- The wheel has spared what was pressed: the zoom is as it was, or the background was pressed where it stays at any
-- zoom; and where a dragged node was pressed, the same place is seen.
structure Spared (p now : Page ℝ) (start : Point ℝ) : Prop where
  background : p.scene.nodeAt? start = none →
    now.scene.view.k = p.scene.view.k ∨ start = ⟨p.scene.view.x, p.scene.view.y⟩
  node : p.scene.nodeAt? start ≠ none → now.drag.any Drag.moved = true →
    now.scene.view.toScene start = p.scene.view.toScene start

section Press

variable (p : Page ℝ) (pointer q : Pointer ℝ) (start point : Point ℝ) (between : List (Event ℝ))

theorem press_arrived (reachedNow : p.onCanvas? q = some point) :
    ((p.handle (.press pointer)).visit between).handle (.move q) =
      ((p.handle (.press pointer)).visit between).moved point :=
  move_reached p _ (settled_trans p _ _ (handle_settled p (.press pointer)) (visit_settled _ between)) q point reachedNow

theorem press_zoomed (within : p.scene.view.Within) : ((p.handle (.press pointer)).visit between).scene.view.k ≠ 0 :=
  View.within_zoom _ (visit_within _ between (handle_within p _ within))

variable (reached : p.onCanvas? pointer = some start) (gliding : ∀ e ∈ between, (e.isMove || e.isWheel) = true)

include reached gliding

theorem press_pans (missed : p.scene.nodeAt? start = none) :
    ((p.handle (.press pointer)).visit between).pan = some ⟨start, ⟨p.scene.view.x, p.scene.view.y⟩⟩ := by
  rw [visit_pan _ between fun e member => e.gliding_holds (gliding e member), handle, reached, Option.map_some,
    Option.getD_some, press, missed]

theorem press_drags (element : Nat) (n : SceneNode ℝ) (hit : p.scene.nodeAt? start = some element)
    (placed : p.scene.nodes[element]? = some n) :
    let now := ((p.handle (.press pointer)).visit between).handle (.move q)
    now.drag.any Drag.moved = true → now.drag = some ⟨element, start, n.position, true⟩ := by
  intro now strayed
  have holding : ∀ e ∈ between ++ [.move q], e.isHolding = true :=
    List.forall_mem_append.mpr
      ⟨fun e member => e.gliding_holds (gliding e member), List.forall_mem_singleton.mpr rfl⟩
  have taken := hit_held p pointer start reached element n hit placed (between ++ [.move q]) holding
  rw [visit_snoc] at taken
  have far : now.drag.any Drag.moved = p.strays start (between ++ [.move q]) := by
    rw [taken]
    rfl
  rw [taken, ← far, strayed]

theorem background_gripped (within : p.scene.view.Within) (reachedNow : p.onCanvas? q = some point)
    (free : p.drag = none) (missed : p.scene.nodeAt? start = none) :
    let now := ((p.handle (.press pointer)).visit between).handle (.move q)
    now.scene.view.toScene point = p.scene.view.toScene start ↔
      now.scene.view.k = p.scene.view.k ∨ start = ⟨p.scene.view.x, p.scene.view.y⟩ := by
  intro now
  let held := (p.handle (.press pointer)).visit between
  have unheld : held.drag = none := by
    rw [visit_drag _ between fun e member => e.gliding_holds (gliding e member),
      press_missed p pointer start reached missed, free, Option.map_none]
  have panned := press_pans p pointer start between reached gliding missed
  have seen : now.scene.view = held.scene.view.moveTo (Pan.target ⟨start, ⟨p.scene.view.x, p.scene.view.y⟩⟩ point) := by
    rw [show now = held.moved point from press_arrived p pointer q point between reachedNow]
    exact moved_background held _ point unheld panned
  rw [seen, View.pan_reads]
  exact View.pan_iff p.scene.view held.scene.view start (View.within_zoom _ within)
    (press_zoomed p pointer between within)

theorem node_gripped (within : p.scene.view.Within) (reachedNow : p.onCanvas? q = some point) (element : Nat)
    (n : SceneNode ℝ) (hit : p.scene.nodeAt? start = some element) (placed : p.scene.nodes[element]? = some n) :
    let now := ((p.handle (.press pointer)).visit between).handle (.move q)
    now.drag.any Drag.moved = true → ∃ m, now.scene.nodes[element]? = some m ∧
      (now.scene.view.reach point m.position = p.scene.view.reach start n.position ↔
        now.scene.view.toScene start = p.scene.view.toScene start) := by
  intro now strayed
  let held := (p.handle (.press pointer)).visit between
  let drag : Drag ℝ := ⟨element, start, n.position, true⟩
  have arrived : now = held.moved point := press_arrived p pointer q point between reachedNow
  have dragged : now.drag = some drag := press_drags p pointer q start between reached gliding element n hit placed strayed
  have taken : now.scene = held.scene.moveNode element (drag.target point held.scene.view.k) := by
    rw [arrived] at dragged ⊢
    exact moved_node held drag point dragged rfl
  have seen : now.scene.view = held.scene.view := by
    rw [taken]
    exact Scene.change_view held.scene element _
  obtain ⟨m, kept, _⟩ := Option.map_eq_some_iff.mp (hit_kept p pointer start reached element n placed between)
  refine ⟨{ m with position := drag.target point held.scene.view.k }, ?_, ?_⟩
  · rw [taken, Scene.moveNode, Scene.change_nodes, Array.getElem?_modify, if_pos rfl, kept, Option.map_some]
  · rw [seen]
    exact View.drag_iff p.scene.view held.scene.view drag point (View.within_zoom _ within)
      (press_zoomed p pointer between within)

theorem gripped_iff (within : p.scene.view.Within) (reachedNow : p.onCanvas? q = some point) (free : p.drag = none) :
    let now := ((p.handle (.press pointer)).visit between).handle (.move q)
    Gripped p now start point ↔ Spared p now start := by
  intro now
  have background := background_gripped p pointer q start point between reached gliding within reachedNow free
  have node := node_gripped p pointer q start point between reached gliding within reachedNow
  constructor
  · intro gripped
    refine ⟨fun missed => (background missed).mp (gripped.background missed), ?_⟩
    intro some strayed
    obtain ⟨element, hit⟩ := Option.ne_none_iff_exists'.mp some
    obtain ⟨n, placed⟩ := Scene.hit_placed p.scene start element hit
    obtain ⟨m, now_placed, law⟩ := node element n hit placed strayed
    obtain ⟨other, same, kept⟩ := gripped.node element n hit placed strayed
    rw [now_placed] at same
    exact law.mp (Option.some.inj same ▸ kept)
  · intro spared
    refine ⟨fun missed => (background missed).mpr (spared.background missed), ?_⟩
    intro element n hit placed strayed
    obtain ⟨m, now_placed, law⟩ := node element n hit placed strayed
    exact ⟨m, now_placed, law.mpr (spared.node (by rw [hit]; exact Option.some_ne_none element) strayed)⟩

omit gliding in
theorem moves_spare (moves : ∀ e ∈ between, e.isMove = true) :
    Spared p (((p.handle (.press pointer)).visit between).handle (.move q)) start := by
  have all : ∀ e ∈ between ++ [.move q], e.isMove = true :=
    List.forall_mem_append.mpr ⟨moves, List.forall_mem_singleton.mpr rfl⟩
  rw [← visit_snoc]
  constructor
  · intro _
    left
    rw [visit_zoom _ _ all, press_same_scene p pointer start reached]
  · intro some _
    obtain ⟨element, hit⟩ := Option.ne_none_iff_exists'.mp some
    obtain ⟨n, placed⟩ := Scene.hit_placed p.scene start element hit
    rw [visit_view _ _ all (by rw [press_hit p pointer start reached element n hit placed]; rfl),
      press_same_scene p pointer start reached]

end Press

-- What is grabbed stays where it was grabbed as long as only the pointer moves. If the wheel turns meanwhile, this
-- holds just when the wheel has spared what was grabbed.
theorem grabbed_stays_unless_zoomed (p : Page ℝ) (pointer q : Pointer ℝ) (start point : Point ℝ)
    (between : List (Event ℝ)) (free : p.drag = none) (within : p.scene.view.Within)
    (reached : p.onCanvas? pointer = some start) (reachedNow : p.onCanvas? q = some point)
    (gliding : ∀ e ∈ between, (e.isMove || e.isWheel) = true) :
    let now := ((p.handle (.press pointer)).visit between).handle (.move q)
    (Gripped p now start point ↔ Spared p now start) ∧
      ((∀ e ∈ between, e.isWheel = false) → Gripped p now start point) := by
  intro now
  have exact := gripped_iff p pointer q start point between reached gliding within reachedNow free
  refine ⟨exact, ?_⟩
  intro unwheeled
  have moves : ∀ e ∈ between, e.isMove = true := by
    intro e member
    have either := gliding e member
    rwa [unwheeled e member, Bool.or_false] at either
  exact exact.mpr (moves_spare p pointer q start between reached moves)

-- The background is pressed, the wheel turns under the pointer, and the pointer moves on.
noncomputable def turned : Page ℝ :=
  (onDesk.handle (.press ⟨100, 100, .origin⟩)).visit [.wheel ⟨100, 100, .origin⟩ (-1)]

noncomputable def torn : Page ℝ := turned.handle (.move ⟨200, 100, .origin⟩)

theorem desk_pressed : (onDesk : Page ℝ).onCanvas? ⟨100, 100, .origin⟩ = some ⟨100, 100⟩ := by
  exact_mod_cast desk_reached 100 100

theorem desk_moved : (onDesk : Page ℝ).onCanvas? ⟨200, 100, .origin⟩ = some ⟨200, 100⟩ := by
  exact_mod_cast desk_reached 200 100

theorem desk_plain : (onDesk : Page ℝ).scene.view = View.plain := rfl

theorem desk_within : (onDesk : Page ℝ).scene.view.Within := View.plain_within

theorem torn_zoom : torn.scene.view.k = 1.1 := by
  have arrived : torn = turned.moved ⟨200, 100⟩ :=
    press_arrived onDesk ⟨100, 100, .origin⟩ ⟨200, 100, .origin⟩ ⟨200, 100⟩ _ desk_moved
  have zoomed : turned.scene.view.k = Scalar.clamp 0.1 10.0 (1.0 * zoomFactor (-1)) := rfl
  have inward : ¬ (0.0 : ℝ) < -1 := by norm_num
  rw [arrived, moved_zoom, zoomed, zoomFactor, if_neg inward, Scalar.clamp]
  norm_num

theorem grabbed_desk_stays_unless_zoomed :
    (onDesk : Page ℝ).scene.view.Within ∧ (onDesk : Page ℝ).onCanvas? ⟨100, 100, .origin⟩ = some ⟨100, 100⟩ ∧
      (onDesk : Page ℝ).onCanvas? ⟨200, 100, .origin⟩ = some ⟨200, 100⟩ ∧
      (Gripped onDesk torn ⟨100, 100⟩ ⟨200, 100⟩ ↔ Spared onDesk torn ⟨100, 100⟩) := by
  refine ⟨desk_within, desk_pressed, desk_moved, ?_⟩
  exact (grabbed_stays_unless_zoomed onDesk ⟨100, 100, .origin⟩ ⟨200, 100, .origin⟩ ⟨100, 100⟩ ⟨200, 100⟩
    [.wheel ⟨100, 100, .origin⟩ (-1)] rfl desk_within desk_pressed desk_moved (List.forall_mem_singleton.mpr rfl)).1

theorem torn_background_not_gripped : ¬ Gripped onDesk torn ⟨100, 100⟩ ⟨200, 100⟩ := by
  intro gripped
  have spared : Spared onDesk torn ⟨100, 100⟩ :=
    (gripped_iff onDesk ⟨100, 100, .origin⟩ ⟨200, 100, .origin⟩ ⟨100, 100⟩ ⟨200, 100⟩
      [.wheel ⟨100, 100, .origin⟩ (-1)] desk_pressed (List.forall_mem_singleton.mpr rfl) desk_within desk_moved rfl).mp
      gripped
  rcases spared.background rfl with zoom | corner
  · rw [torn_zoom, desk_plain] at zoom
    norm_num [View.plain] at zoom
  · have across := congrArg Point.x corner
    rw [desk_plain] at across
    norm_num [View.plain] at across

end Page

end GraphBrowser
