import Mathlib.Tactic.FieldSimp
import Mathlib.Tactic.Ring
import GraphBrowser.Proofs.ExactNumbers
import GraphBrowser.Proofs.Schedule
import GraphBrowser.Surface.Scene

set_option autoImplicit false

namespace GraphBrowser

namespace Box

def Proper (b : Box ℝ) : Prop := b.left ≤ b.right ∧ b.top ≤ b.bottom

def Encloses (b : Box ℝ) (p : Point ℝ) : Prop := b.left ≤ p.x ∧ b.top ≤ p.y ∧ p.x ≤ b.right ∧ p.y ≤ b.bottom

def Within (b outer : Box ℝ) : Prop :=
  outer.left ≤ b.left ∧ outer.top ≤ b.top ∧ b.right ≤ outer.right ∧ b.bottom ≤ outer.bottom

structure Smallest (b : Box ℝ) (ps : List (Point ℝ)) : Prop where
  encloses : ∀ p ∈ ps, b.Encloses p
  least : ∀ c : Box ℝ, (∀ p ∈ ps, c.Encloses p) → b.Within c

section Easing

variable (fraction : ℝ) (least : 0 ≤ fraction) (most : fraction ≤ 1)

include least most

end Easing

end Box

-- The room that a margin leaves along an axis; it is never less than one unit.
def room (extent margin : ℝ) : ℝ := max (extent - 2 * margin) 1

def InRoom (size : Size ℝ) (margin : ℝ) (p : Point ℝ) : Prop :=
  |p.x - size.width / 2| ≤ room size.width margin / 2 ∧ |p.y - size.height / 2| ≤ room size.height margin / 2

namespace Viewport

theorem scale_eq (v : Viewport ℝ) : v.scale = min
    (room v.size.width v.margin / max (v.box.right - v.box.left) 1)
    (room v.size.height v.margin / max (v.box.bottom - v.box.top) 1) := by
  have spelled : v.scale = min
      (max (v.size.width - 2.0 * v.margin) 1.0 / max (v.box.right - v.box.left) 1.0)
      (max (v.size.height - 2.0 * v.margin) 1.0 / max (v.box.bottom - v.box.top) 1.0) := rfl
  rw [spelled, room, room]
  norm_num

theorem place_eq (v : Viewport ℝ) (p : Point ℝ) : v.place p =
    ⟨v.size.width / 2 + (p.x - (v.box.left + v.box.right) / 2) * v.scale,
      v.size.height / 2 + (p.y - (v.box.top + v.box.bottom) / 2) * v.scale⟩ := by
  have spelled : v.place p =
      ⟨v.size.width / 2.0 + (p.x - (v.box.left + v.box.right) / 2.0) * v.scale,
        v.size.height / 2.0 + (p.y - (v.box.top + v.box.bottom) / 2.0) * v.scale⟩ := rfl
  rw [spelled]
  norm_num

theorem scale_positive (v : Viewport ℝ) : 0 < v.scale := by
  have positive (x : ℝ) : 0 < max x 1 := lt_max_of_lt_right one_pos
  rw [scale_eq]
  exact lt_min (div_pos (positive _) (positive _)) (div_pos (positive _) (positive _))

theorem place_proportional (v : Viewport ℝ) (p q : Point ℝ) :
    (v.place q).x - (v.place p).x = v.scale * (q.x - p.x) ∧ (v.place q).y - (v.place p).y = v.scale * (q.y - p.y) := by
  rw [place_eq, place_eq]
  constructor
  · ring
  · ring

-- Along one axis, a scale that fits the box into the room keeps what is inside the box inside the room.
theorem axis_fits (low high x scale extent room : ℝ) (above : low ≤ x) (below : x ≤ high) (positive : 0 < scale)
    (fits : scale ≤ room / max (high - low) 1) :
    |extent / 2 + (x - (low + high) / 2) * scale - extent / 2| ≤ room / 2 := by
  have wide : 0 < max (high - low) 1 := lt_max_of_lt_right one_pos
  have near : |x - (low + high) / 2| ≤ max (high - low) 1 / 2 := by
    have span : high - low ≤ max (high - low) 1 := le_max_left _ _
    rw [abs_le]
    constructor
    · linarith
    · linarith
  calc |extent / 2 + (x - (low + high) / 2) * scale - extent / 2|
      = |x - (low + high) / 2| * scale := by rw [add_sub_cancel_left, abs_mul, abs_of_pos positive]
    _ ≤ max (high - low) 1 / 2 * (room / max (high - low) 1) :=
        mul_le_mul near fits positive.le (half_pos wide).le
    _ = room / 2 := by field_simp

theorem place_in_room (v : Viewport ℝ) (p : Point ℝ) (inside : v.box.Encloses p) :
    InRoom v.size v.margin (v.place p) := by
  obtain ⟨left, top, right, bottom⟩ := inside
  have positive := scale_positive v
  have wide := (scale_eq v).le.trans (min_le_left _ _)
  have high := (scale_eq v).le.trans (min_le_right _ _)
  rw [place_eq]
  exact ⟨axis_fits _ _ _ _ _ _ left right positive wide, axis_fits _ _ _ _ _ _ top bottom positive high⟩

end Viewport

namespace Layout

namespace Run

variable {ε : Type}

def seen {α : Type} [Coordinate α] (next : Run α ε → Option (Frame α ε × Run α ε)) (run : Run α ε) :
    Nat → List (Point α)
  | 0 => []
  | k + 1 => seen next run k ++ positions (pulled next run (k + 1)).simulation

theorem positions_any (members : List (String × ε)) (any : members ≠ []) (simulation : Simulation (Coordinate.Single ℝ))
    (owned : simulation.bodies.size = members.length) : (positions simulation : List (Point ℝ)) ≠ [] := by
  rw [← List.length_pos_iff] at any ⊢
  rwa [positions_length, owned]

-- Exact positions are all finite, so every member is placed.
theorem placements_exact (r : Run ℝ ε) (box : Box ℝ) (points : List (Point ℝ)) :
    r.placements (some box) points =
      (r.members.zip points).map fun (owner, point) => ⟨owner.1, owner.2, (r.viewport box).place point⟩ := by
  have finite : (r.members.zip points).filter (fun pair => pair.2.isFinite) = r.members.zip points :=
    List.filter_eq_self.mpr fun _ _ => rfl
  rw [placements, finite]
  rfl

theorem placement_at (r : Run ℝ ε) (box : Box ℝ) (points : List (Point ℝ)) (i : Nat) (p : Placement ℝ ε)
    (point : Point ℝ) (placed : (r.placements (some box) points)[i]? = some p) (here : points[i]? = some point) :
    p.offset = (r.viewport box).place point := by
  rw [placements_exact, List.getElem?_map, Option.map_eq_some_iff] at placed
  obtain ⟨⟨owner, there⟩, paired, rfl⟩ := placed
  have same := (List.getElem?_zip_eq_some.mp paired).2
  rw [here, Option.some.injEq] at same
  rw [same]

structure Fitted (given : LayoutSettings ℝ) (size : Size ℝ) (members : List (String × ε)) (k : Nat)
    (points : List (Point ℝ)) (box : Box ℝ) (frame : Frame ℝ ε) : Prop where
  -- The placements go with the positions, one by one.
  owners : frame.placements.map (fun p => (p.id, p.element)) = if paints given k then members else []
  count : points.length = members.length
  proportional : ∃ scale : ℝ, 0 < scale ∧ ∀ (i j : Nat) (p q : Placement ℝ ε) (a b : Point ℝ),
    frame.placements[i]? = some p → points[i]? = some a → frame.placements[j]? = some q → points[j]? = some b →
      q.offset.x - p.offset.x = scale * (b.x - a.x) ∧ q.offset.y - p.offset.y = scale * (b.y - a.y)
  inside : ∀ (i : Nat) (p : Placement ℝ ε) (a : Point ℝ), frame.placements[i]? = some p → points[i]? = some a →
    box.Encloses a → InRoom size given.margin p.offset

theorem painted_at_fitted (r : Run ℝ ε) (simulation : Simulation (Coordinate.Single ℝ)) (box : Box ℝ)
    (owned : simulation.bodies.size = r.members.length) (displayed : (r.movedTo simulation).displayed = some box) :
    Fitted r.settings r.size r.members (r.iteration + 1) (positions simulation) box (r.paintedAt simulation) := by
  have count : (positions simulation).length = r.members.length := (positions_length simulation).trans owned
  have drawn : (r.paintedAt simulation).placements = if paints r.settings (r.iteration + 1) then
      r.placements (some box) (positions simulation) else [] := by
    rw [paintedAt, displayed]
  have placed (i : Nat) (p : Placement ℝ ε) (a : Point ℝ) (found : (r.paintedAt simulation).placements[i]? = some p)
      (here : (positions simulation)[i]? = some a) : p.offset = (r.viewport box).place a := by
    rw [drawn] at found
    split at found
    next => exact placement_at r box _ i p a found here
    next => cases found
  refine ⟨?_, count, ⟨(r.viewport box).scale, Viewport.scale_positive _, ?_⟩, ?_⟩
  · rw [drawn]
    split
    next =>
      rw [placements_exact, List.map_map]
      exact List.map_fst_zip count.ge
    next => rfl
  · intro i j p q a b first here second there
    rw [placed i p a first here, placed j q b second there]
    exact Viewport.place_proportional _ a b
  · intro i p a found here inside
    rw [placed i p a found here]
    exact Viewport.place_in_room (r.viewport box) a inside

theorem painted_owners (r : Run ℝ ε) (owned : r.simulation.bodies.size = r.members.length) (any : r.members ≠ [])
    (due : paints r.settings (r.iteration + 1) = true) :
    r.painted.placements.map (fun p => (p.id, p.element)) = r.members := by
  have ticked := (r.settings.course.keeps (r.iteration + 1) r.settings.timeStep r.simulation).trans owned
  obtain ⟨point, member⟩ := List.exists_mem_of_ne_nil _ (positions_any r.members any _ ticked)
  obtain ⟨box, displayed⟩ := display_some r.settings.ease r.displayed _ ⟨point, member, rfl⟩
  have owners := (painted_at_fitted r _ box ticked displayed).owners
  rwa [if_pos due] at owners

variable (course : Course (Coordinate.Single ℝ)) (e : Engine ℝ) (run : Run ℝ ε)

-- What pull `k`, counted from zero, yields and leaves displayed.
structure Fits (size : Size ℝ) (next : Run ℝ ε → Option (Frame ℝ ε × Run ℝ ε)) (run : Run ℝ ε) (k : Nat)
    (frame : Frame ℝ ε) (box : Box ℝ) : Prop where
  yielded : next (pulled next run k) = some (frame, pulled next run (k + 1))
  displayed : (pulled next run (k + 1)).displayed = some box
  proper : box.Proper
  within : ∃ hull : Box ℝ, hull.Smallest (seen next run (k + 1)) ∧ box.Within hull
  fitted : Fitted run.settings size run.members (k + 1) (positions (pulled next run (k + 1)).simulation) box frame
  whole : run.settings.ease = 1 ∨ k = 0 → ∀ p ∈ frame.placements, InRoom size run.settings.margin p.offset

end Run

variable {ε σ : Type} [Surface σ ℝ ε]

end Layout

end GraphBrowser
