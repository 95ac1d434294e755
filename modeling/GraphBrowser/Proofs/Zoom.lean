import Mathlib.Tactic.FieldSimp
import Mathlib.Tactic.Ring
import GraphBrowser.Proofs.ExactNumbers
import GraphBrowser.Proofs.Handling

set_option autoImplicit false

namespace GraphBrowser

theorem clamp_within (x : ℝ) : 0.1 ≤ Scalar.clamp 0.1 10.0 x ∧ Scalar.clamp 0.1 10.0 x ≤ 10.0 := by
  have apart : ¬ (10.0 : ℝ) < 0.1 := by norm_num
  rw [Scalar.clamp]
  by_cases low : x < 0.1
  · rw [if_pos low, if_neg apart]
    exact ⟨le_refl _, not_lt.mp apart⟩
  · rw [if_neg low]
    by_cases high : (10.0 : ℝ) < x
    · rw [if_pos high]
      exact ⟨not_lt.mp apart, le_refl _⟩
    · rw [if_neg high]
      exact ⟨not_lt.mp low, not_lt.mp high⟩

theorem Scene.change_view {α : Type} (s : Scene α) (element : Nat) (f : SceneNode α → SceneNode α) :
    (s.change element f).view = s.view := by
  rw [change]
  split
  next => rfl
  next => rfl

theorem Scene.view_follows {α : Type} [Scalar α] :
    Surface.Succession (α := α) fun s t : Scene α => t.view = s.view where
  refl _ := rfl
  trans _ _ _ first second := second.trans first
  create _ _ := rfl
  bind _ _ _ := rfl
  reveal element s := s.change_view element _
  hide element s := s.change_view element _
  connect _ _ _ _ := rfl
  disconnect _ _ := rfl
  setOffset element _ s := s.change_view element _
  repaint _ _ := rfl

namespace View

def Within (v : View ℝ) : Prop := 0.1 ≤ v.k ∧ v.k ≤ 10.0

theorem within_zoom (v : View ℝ) (within : v.Within) : v.k ≠ 0 := by
  have positive : (0 : ℝ) < 0.1 := by norm_num
  exact ne_of_gt (lt_of_lt_of_le positive within.1)

theorem plain_within : (plain : View ℝ).Within := by
  constructor
  · norm_num [plain]
  · norm_num [plain]

theorem zoom_within (v : View ℝ) (pointer : Point ℝ) (factor : ℝ) : (v.zoom pointer factor).Within :=
  clamp_within (v.k * factor)

noncomputable def toScreen (v : View ℝ) (p : Point ℝ) : Point ℝ := ⟨p.x * v.k + v.x, p.y * v.k + v.y⟩

theorem screen_scene (v : View ℝ) (p : Point ℝ) (zoomed : v.k ≠ 0) : v.toScreen (v.toScene p) = p := by
  simp only [toScreen, toScene, div_mul_cancel₀ _ zoomed, sub_add_cancel]

-- The ratio is that of the zooms before and after, so a zoom that is cut off at a limit keeps the pointer as well.
theorem zoom_anchored (v : View ℝ) (pointer : Point ℝ) (factor : ℝ) (within : v.Within) :
    (v.zoom pointer factor).toScene pointer = v.toScene pointer := by
  have before : v.k ≠ 0 := v.within_zoom within
  have after : Scalar.clamp 0.1 10.0 (v.k * factor) ≠ 0 := within_zoom _ (v.zoom_within pointer factor)
  simp only [toScene, zoom, Point.mk.injEq]
  constructor
  · field_simp
    ring
  · field_simp
    ring

end View

namespace Page

theorem moved_zoom {α : Type} [Coordinate α] (p : Page α) (point : Point α) :
    (p.moved point).scene.view.k = p.scene.view.k := by
  rw [moved]
  split
  next =>
    dsimp only
    split
    next => exact congrArg View.k (Scene.change_view p.scene _ _)
    next => rfl
  next => rfl
  next => rfl

-- Only the wheel sets the zoom, and the layout button sets it back.
theorem handle_within (p : Page ℝ) (e : Event ℝ) (within : p.scene.view.Within) :
    (p.handle e).scene.view.Within := by
  have kept (q : Page ℝ) (same : q.scene.view.k = p.scene.view.k) : q.scene.view.Within := by
    rw [View.Within, same]
    exact within
  cases e with
  | press pointer =>
      rw [handle]
      cases p.onCanvas? pointer with
      | none => exact within
      | some point => exact kept _ (congrArg (fun s : Scene ℝ => s.view.k) (p.press_scene point))
  | move pointer =>
      rw [handle]
      cases p.onCanvas? pointer with
      | none => exact within
      | some point => exact kept _ (p.moved_zoom point)
  | release alt shift => exact kept _ (congrArg View.k (release_succeeds Scene.view_follows p alt shift))
  | leave => exact within
  | wheel pointer delta =>
      rw [handle]
      cases p.onCanvas? pointer with
      | none => exact within
      | some point => exact p.scene.view.zoom_within point (zoomFactor delta)
  | layoutButton => exact View.plain_within
  | windowResize inner =>
      refine kept _ ?_
      rw [handle]
      unfold windowResize
      dsimp only
      split
      next => rfl
      next => rfl
  | animationFrame =>
      rw [handle]
      cases animating : p.animating with
      | false =>
          rw [animate, animating]
          exact within
      | true =>
          rw [animate_running p animating]
          refine kept _ ?_
          rw [paint_scene]
          exact congrArg View.k (advance_succeeds Scene.view_follows p)
  | answer task result => exact kept _ (congrArg View.k (answer_succeeds Scene.view_follows p task result))

theorem visit_within (p : Page ℝ) (events : List (Event ℝ)) (within : p.scene.view.Within) :
    (p.visit events).scene.view.Within :=
  visit_keeps (fun q => q.scene.view.Within) handle_within p events within

theorem mount_plain (placing : Placing ℝ) (environment : Environment ℝ) (settings : Settings ℝ) :
    (mount placing environment settings).scene.view = View.plain := by
  unfold mount start
  dsimp only
  split
  next =>
    split
    next => rfl
    next => rfl
  next => rfl

theorem wheel_reached (p : Page ℝ) (pointer : Pointer ℝ) (point : Point ℝ) (delta : ℝ)
    (reached : p.onCanvas? pointer = some point) :
    (p.handle (.wheel pointer delta)).scene.view = p.scene.view.zoom point (zoomFactor delta) := by
  rw [handle, reached]
  rfl

theorem zoom_bounded_and_anchored (placing : Placing ℝ) (environment : Environment ℝ) (settings : Settings ℝ)
    (events : List (Event ℝ)) :
    let view := ((mount placing environment settings).visit events).scene.view
    (view.Within ∧ view.k ≠ 0 ∧ Scalar.greatest view.k 0.5 ≠ 0 ∧ ∀ point, view.toScreen (view.toScene point) = point) ∧
      ∀ (p : Page ℝ) (pointer : Pointer ℝ) (point : Point ℝ) (delta : ℝ), p.scene.view.Within →
        p.onCanvas? pointer = some point →
          (p.handle (.wheel pointer delta)).scene.view.Within ∧
            (p.handle (.wheel pointer delta)).scene.view.toScene point = p.scene.view.toScene point := by
  intro view
  have within : view.Within := by
    refine visit_within _ events ?_
    rw [mount_plain]
    exact View.plain_within
  have zoomed : view.k ≠ 0 := view.within_zoom within
  have above : Scalar.greatest view.k 0.5 ≠ 0 := by
    have half : (0 : ℝ) < 0.5 := by norm_num
    exact ne_of_gt (lt_of_lt_of_le half (le_max_right view.k 0.5))
  refine ⟨⟨within, zoomed, above, fun point => view.screen_scene point zoomed⟩, ?_⟩
  intro p pointer point delta inside reached
  rw [wheel_reached p pointer point delta reached]
  exact ⟨p.scene.view.zoom_within point _, p.scene.view.zoom_anchored point _ inside⟩

theorem desk_reached (x y : Int) : (onDesk : Page ℝ).onCanvas? ⟨x, y, .origin⟩ = some ⟨x, y⟩ := by
  have here : (onDesk : Page ℝ).onCanvas? ⟨x, y, .origin⟩ = some ⟨(x : ℝ) - 0.0, (y : ℝ) - 0.0⟩ := rfl
  rw [here]
  norm_num

-- A view that is close to its upper limit, so that the wheel is cut off.
noncomputable def closeUp : Page ℝ := onDesk.withScene (onDesk.scene.withView ⟨30, -20, 9.5⟩)

theorem close_up_bounded_and_anchored :
    closeUp.scene.view.Within ∧ closeUp.onCanvas? ⟨100, 70, .origin⟩ = some ⟨(100 : Int), (70 : Int)⟩ ∧
      (closeUp.handle (.wheel ⟨100, 70, .origin⟩ (-1))).scene.view.Within ∧
      (closeUp.handle (.wheel ⟨100, 70, .origin⟩ (-1))).scene.view.toScene ⟨(100 : Int), (70 : Int)⟩ =
        closeUp.scene.view.toScene ⟨(100 : Int), (70 : Int)⟩ := by
  have within : closeUp.scene.view.Within := by
    show (0.1 : ℝ) ≤ 9.5 ∧ (9.5 : ℝ) ≤ 10.0
    norm_num
  have reached : closeUp.onCanvas? ⟨100, 70, .origin⟩ = some ⟨(100 : Int), (70 : Int)⟩ := desk_reached 100 70
  have turned := (zoom_bounded_and_anchored ⟨"a", false, none, none⟩ desk .standard []).2 closeUp ⟨100, 70, .origin⟩
    ⟨(100 : Int), (70 : Int)⟩ (-1) within reached
  exact ⟨within, reached, turned⟩

end Page

end GraphBrowser
