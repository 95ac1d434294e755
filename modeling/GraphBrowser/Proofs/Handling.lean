import GraphBrowser.Proofs.PageSession
import GraphBrowser.Proofs.Succession

set_option autoImplicit false

namespace GraphBrowser

structure Scene.Succession {α : Type} [Scalar α] (R : Scene α → Scene α → Prop) : Prop
    extends Surface.Succession R where
  view : ∀ s view, R s (s.withView view)
  resize : ∀ s size, R s (s.resize size)

namespace Page

variable {α : Type} [Coordinate α]

structure Settled (p q : Page α) : Prop where
  canvas : q.environment.canvas = p.environment.canvas
  animating : q.animating = p.animating

theorem settled_refl (p : Page α) : Settled p p := ⟨rfl, rfl⟩

theorem settled_trans (p q r : Page α) (first : Settled p q) (second : Settled q r) : Settled p r :=
  ⟨second.canvas.trans first.canvas, second.animating.trans first.animating⟩

theorem settled_on_canvas (p q : Page α) (settled : Settled p q) : q.onCanvas? = p.onCanvas? := by
  funext pointer
  simp only [onCanvas?, settled.canvas]

def desk : Environment α := ⟨true, true, true, none, none⟩

abbrev onDesk : Page α := mount ⟨"a", false, none, none⟩ desk .standard

-- The fields that each handler may write.
inductive Writes (p : Page α) : Event α → Page α → Prop where
  | press (pointer : Pointer α) (drag : Option (Drag α)) (pan : Option (Pan α)) :
      Writes p (.press pointer) { p with drag, pan }
  | move (pointer : Pointer α) (scene : Scene α) (drag : Option (Drag α)) :
      Writes p (.move pointer) { p.withScene scene with drag }
  | release (alt shift : Bool) (explorer : Explorer α (Scene α) Nat) (tasks : List Task) (errors : List String) :
      Writes p (.release alt shift) { p.letGo with explorer, tasks, errors }
  | leave : Writes p .leave p.letGo
  | wheel (pointer : Pointer α) (delta : α) (scene : Scene α) : Writes p (.wheel pointer delta) (p.withScene scene)
  | layoutButton (scene : Scene α) (layout : Layout.Engine α) (run : Option (Layout.Run α Nat)) :
      Writes p .layoutButton { p with explorer := { p.explorer with surface := scene, layout }, run }
  | windowResize (inner : Option (Size α)) (scene : Scene α) (pixels : Nat × Nat) :
      Writes p (.windowResize inner) { p.withScene scene with environment := { p.environment with inner }, pixels }
  | animationFrame (placements : List (Layout.Placement α Nat)) (scene : Scene α) (run : Option (Layout.Run α Nat))
      (painted : List (DrawCall α)) :
      Writes p .animationFrame
        { p with explorer := { (p.explorer.applyPlacements placements).2 with surface := scene }, run, painted }
  | answer (task : Task) (result : FetchResult) (explorer : Explorer α (Scene α) Nat) (tasks : List Task)
      (rootError : Option String) (errors : List String) :
      Writes p (.answer task result) { p with explorer, tasks, rootError, errors }

theorem press_writes (p : Page α) (pointer : Pointer α) (point : Point α) : Writes p (.press pointer) (p.press point) := by
  rw [press]
  split
  next => exact .press pointer _ p.pan
  next => exact .press pointer p.drag _

theorem moved_writes (p : Page α) (pointer : Pointer α) (point : Point α) : Writes p (.move pointer) (p.moved point) := by
  rw [moved]
  split
  next =>
    dsimp only
    split
    next => exact .move pointer _ _
    next => exact .move pointer p.scene _
  next pan _ _ => exact .move pointer (p.scene.withView (p.scene.view.moveTo (pan.target point))) p.drag
  next => exact .move pointer p.scene p.drag

theorem release_writes (p : Page α) (alt shift : Bool) : Writes p (.release alt shift) (p.release alt shift) := by
  rw [release]
  split
  next => exact .release alt shift _ _ _
  next => exact .release alt shift p.explorer p.tasks p.errors

theorem resize_writes (p : Page α) (inner : Option (Size α)) : Writes p (.windowResize inner) (p.windowResize inner) := by
  unfold windowResize
  dsimp only
  split
  next => exact .windowResize _ _ _
  next => exact .windowResize _ p.scene p.pixels

theorem advance_writes (p : Page α) : ∃ placements run,
    p.advanceRun = { p with explorer := (p.explorer.applyPlacements placements).2, run } := by
  rw [advanceRun]
  split
  next => exact ⟨[], p.run, rfl⟩
  next =>
    split
    next => exact ⟨[], none, rfl⟩
    next frame run _ => exact ⟨frame.placements, some run, rfl⟩

theorem animate_writes (p : Page α) : Writes p .animationFrame p.animate.2 := by
  rw [animate]
  split
  next =>
    obtain ⟨placements, run, advanced⟩ := advance_writes p
    rw [advanced, paint]
    dsimp only
    split
    next => exact .animationFrame placements _ run _
    next => exact .animationFrame placements _ run p.painted
  next => exact .animationFrame [] p.scene p.run p.painted

theorem answer_writes (p : Page α) (task : Task) (result : FetchResult) :
    Writes p (.answer task result) (p.answer task result) := by
  rw [answer]
  split
  next =>
    cases task with
    | root id =>
        cases result with
        | ok fragment => exact .answer _ _ _ _ p.rootError p.errors
        | error cause => exact .answer _ _ p.explorer _ _ p.errors
    | neighbor ticket =>
        dsimp only
        split
        next => exact .answer _ _ _ _ p.rootError _
        next => exact .answer _ _ _ _ p.rootError p.errors
  next => exact .answer task result p.explorer p.tasks p.rootError p.errors

theorem handle_writes (p : Page α) (e : Event α) : Writes p e (p.handle e) := by
  cases e with
  | press pointer =>
      rw [handle]
      cases p.onCanvas? pointer with
      | none => exact .press pointer p.drag p.pan
      | some point => exact press_writes p pointer point
  | move pointer =>
      rw [handle]
      cases p.onCanvas? pointer with
      | none => exact .move pointer p.scene p.drag
      | some point => exact moved_writes p pointer point
  | release alt shift => exact release_writes p alt shift
  | leave => exact .leave
  | wheel pointer delta =>
      rw [handle]
      cases p.onCanvas? pointer with
      | none => exact .wheel pointer delta p.scene
      | some point => exact .wheel pointer delta _
  | layoutButton => exact .layoutButton _ _ _
  | windowResize inner => exact resize_writes p inner
  | animationFrame => exact animate_writes p
  | answer task result => exact answer_writes p task result

theorem handle_settled (p : Page α) (e : Event α) : Settled p (p.handle e) := by
  have writes := handle_writes p e
  generalize p.handle e = q at writes ⊢
  cases writes <;> exact ⟨rfl, rfl⟩

theorem visit_settled (p : Page α) (events : List (Event α)) : Settled p (p.visit events) :=
  visit_keeps (Settled p) (fun q e settled => settled_trans p q _ settled (handle_settled q e)) p events
    (settled_refl p)

theorem visit_keeps_along (allowed : Event α → Bool) (P : Page α → Prop)
    (step : ∀ (p : Page α) (e : Event α), allowed e = true → P p → P (p.handle e)) (p : Page α)
    (events : List (Event α)) (all : ∀ e ∈ events, allowed e = true) (start : P p) : P (p.visit events) := by
  induction events generalizing p with
  | nil => exact start
  | cons e rest ih =>
      exact ih (p.handle e) (fun e member => all e (List.mem_cons_of_mem _ member))
        (step p e (all e List.mem_cons_self) start)

variable {R : Scene α → Scene α → Prop}

theorem press_scene (p : Page α) (pointer : Point α) : (p.press pointer).scene = p.scene := by
  rw [press]
  split
  next => rfl
  next => rfl

theorem moved_succeeds (follows : Scene.Succession R) (p : Page α) (pointer : Point α) :
    R p.scene (p.moved pointer).scene := by
  rw [moved]
  split
  next drag _ =>
    dsimp only
    split
    next => exact follows.setOffset (drag.follow pointer).element _ p.scene
    next => exact follows.refl p.scene
  next => exact follows.view p.scene _
  next => exact follows.refl p.scene

theorem click_succeeds (follows : Surface.Succession R) (p : Page α) (id : String) (alt shift : Bool) :
    R p.scene (p.click id alt shift).scene := by
  cases alt with
  | true => exact Explorer.collapse_succeeds follows p.explorer id
  | false => exact Explorer.acts_succeed follows p.explorer _ (Explorer.expand_acts p.explorer id _)

theorem release_succeeds (follows : Surface.Succession R) (p : Page α) (alt shift : Bool) :
    R p.scene (p.release alt shift).scene := by
  rw [release]
  split
  next id _ => exact click_succeeds follows p.letGo id alt shift
  next => exact follows.refl p.scene

theorem resize_succeeds (follows : Scene.Succession R) (p : Page α) (inner : Option (Size α)) :
    R p.scene (p.windowResize inner).scene := by
  unfold windowResize
  dsimp only
  split
  next => exact follows.resize p.scene _
  next => exact follows.refl p.scene

theorem advance_succeeds (follows : Surface.Succession R) (p : Page α) : R p.scene p.advanceRun.scene := by
  rw [advanceRun]
  split
  next => exact follows.refl p.scene
  next =>
    split
    next => exact follows.refl p.scene
    next frame _ _ =>
      exact Explorer.acts_succeed follows p.explorer _
        (Explorer.apply_placements_acts frame.placements p.explorer)

theorem answer_succeeds (follows : Surface.Succession R) (p : Page α) (task : Task) (result : FetchResult) :
    R p.scene (p.answer task result).scene := by
  have grown (y : Explorer α (Scene α) Nat) (growth : Explorer.Growth p.explorer y) : R p.scene y.surface :=
    Explorer.growth_succeeds follows p.explorer y growth
  by_cases spawned : task ∈ p.tasks
  · cases task with
    | root id =>
        rw [answer, if_pos spawned]
        cases result with
        | ok fragment => exact grown _ (Explorer.open_root_growth p.explorer fragment)
        | error cause => exact follows.refl p.scene
    | neighbor ticket =>
        have redeemed := grown _ (Explorer.redeem_growth p.explorer ticket result)
        rwa [← answer_explorer p ticket result spawned] at redeemed
  · rw [answer, if_neg spawned]
    exact follows.refl p.scene

theorem on_canvas_succeeds (follows : Scene.Succession R) (p : Page α) (pointer : Pointer α) (act : Point α → Page α)
    (after : ∀ point, R p.scene (act point).scene) : R p.scene (((p.onCanvas? pointer).map act).getD p).scene := by
  cases p.onCanvas? pointer with
  | none => exact follows.refl p.scene
  | some point => exact after point

-- Only an animation frame clears the mark of a scene, so it stands apart.
theorem handle_succeeds (follows : Scene.Succession R) (p : Page α) (e : Event α) (other : e ≠ .animationFrame) :
    R p.scene (p.handle e).scene := by
  cases e with
  | press pointer =>
      refine on_canvas_succeeds follows p pointer p.press fun point => ?_
      rw [press_scene]
      exact follows.refl p.scene
  | move pointer => exact on_canvas_succeeds follows p pointer p.moved (moved_succeeds follows p)
  | release alt shift => exact release_succeeds follows.toSuccession p alt shift
  | leave => exact follows.refl p.scene
  | wheel pointer delta =>
      exact on_canvas_succeeds follows p pointer (p.wheel · delta) fun _ => follows.view p.scene _
  | layoutButton => exact follows.view p.scene _
  | windowResize inner => exact resize_succeeds follows p inner
  | animationFrame => exact absurd rfl other
  | answer task result => exact answer_succeeds follows.toSuccession p task result

theorem paint_scene (p : Page α) : p.paint.2.scene = { p.scene with dirty := false } := by
  rw [paint]
  dsimp only [Scene.takeDirty]
  split
  next => rfl
  next => rfl

theorem animate_running (p : Page α) (animating : p.animating = true) : p.animate = p.advanceRun.paint := by
  rw [animate, if_pos animating]

theorem animate_succeeds (follows : Scene.Succession R) (clean : ∀ s, R s { s with dirty := false }) (p : Page α) :
    R p.scene p.animate.2.scene := by
  cases animating : p.animating with
  | true =>
      rw [animate_running p animating, paint_scene]
      exact follows.trans _ _ _ (advance_succeeds follows.toSuccession p) (clean p.advanceRun.scene)
  | false =>
      rw [animate, animating]
      exact follows.refl p.scene

theorem visit_succeeds (follows : Scene.Succession R) (clean : ∀ s, R s { s with dirty := false }) (p : Page α)
    (events : List (Event α)) : R p.scene (p.visit events).scene := by
  refine visit_keeps (fun q => R p.scene q.scene) ?_ p events (follows.refl p.scene)
  intro q e reached
  refine follows.trans _ _ _ reached ?_
  by_cases frame : e = .animationFrame
  · subst frame
    exact animate_succeeds follows clean q
  · exact handle_succeeds follows q e frame

end Page

end GraphBrowser
