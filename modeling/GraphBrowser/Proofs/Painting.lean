import GraphBrowser.Proofs.Handling
import Mathlib.Data.List.Induction

set_option autoImplicit false

namespace GraphBrowser

theorem wired_get {α : Type} (nodes : Array (SceneNode α)) (element i : Nat) :
    (nodes.modify element ({ · with wired := true }))[i]? =
      nodes[i]?.map fun n => { n with wired := n.wired || element == i } := by
  rw [Array.getElem?_modify]
  by_cases here : element = i
  · simp [here]
  · have apart : (element == i) = false := by simpa using here
    simp [here, apart]

namespace Scene

variable {α : Type} [Scalar α]

theorem wired_connector (s : Scene α) (id : String) (element : Nat) (c : Connector) :
    Drawing.connector (Surface.bind id element s) c = Drawing.connector s c := by
  simp only [Drawing.connector, Surface.bind, wired_get]
  cases s.nodes[c.source]? with
  | none => rfl
  | some source => cases s.nodes[c.target]? <;> rfl

-- Binding a node sets no mark, and it need not: a node looks the same whether it is wired or not.
theorem bind_draw (s : Scene α) (id : String) (element : Nat) : (Surface.bind id element s).draw = s.draw := by
  have connectors : Drawing.connector (Surface.bind id element s) = Drawing.connector s :=
    funext (wired_connector s id element)
  have nodes : (Surface.bind id element s).nodes.toList.zipIdx.map (fun item => Drawing.node item.1 item.2 s.view.k) =
      s.nodes.toList.zipIdx.map fun item => Drawing.node item.1 item.2 s.view.k := by
    apply List.ext_getElem?
    intro i
    simp only [Surface.bind, List.getElem?_map, List.getElem?_zipIdx, Array.getElem?_toList, wired_get]
    cases s.nodes[i]? <;> rfl
  have discs := congrArg List.flatten nodes
  rw [← List.flatMap_def, ← List.flatMap_def] at discs
  simp only [draw, connectors]
  exact congrArg (_ ++ · ++ _) discs

-- A scene that is not marked was not marked before either, and looks the same.
def Marks (s t : Scene α) : Prop := t.dirty = false → s.dirty = false ∧ t.draw = s.draw

theorem marks_of_dirty (s t : Scene α) (dirty : t.dirty = true) : Marks s t := by
  intro clean
  rw [dirty] at clean
  cases clean

theorem change_marks (s : Scene α) (element : Nat) (f : SceneNode α → SceneNode α) : Marks s (s.change element f) := by
  by_cases inside : element < s.nodes.size
  · rw [change, if_pos inside]
    exact marks_of_dirty s _ rfl
  · rw [change, if_neg inside]
    exact fun clean => ⟨clean, rfl⟩

theorem marks_follow : Succession (α := α) Marks where
  refl _ clean := ⟨clean, rfl⟩
  trans _ _ _ first second clean := by
    obtain ⟨between, later⟩ := second clean
    obtain ⟨before, earlier⟩ := first between
    exact ⟨before, later.trans earlier⟩
  create _ s := marks_of_dirty s _ rfl
  bind id element s clean := ⟨clean, bind_draw s id element⟩
  reveal element s := change_marks s element _
  hide element s := change_marks s element _
  connect _ _ _ s := marks_of_dirty s _ rfl
  disconnect _ s := marks_of_dirty s _ rfl
  setOffset element _ s := change_marks s element _
  repaint _ s := marks_of_dirty s _ rfl
  view s _ := marks_of_dirty s _ rfl
  resize s _ := marks_of_dirty s _ rfl

theorem draw_not_empty (s : Scene α) : s.draw.isEmpty = false := rfl

end Scene

namespace Page

variable {α : Type} [Coordinate α]

def paintings (p : Page α) : List (Event α) → List (List (DrawCall α))
  | [] => []
  | .animationFrame :: rest =>
      (if p.animate.1.isEmpty then [] else [p.animate.1]) ++ paintings p.animate.2 rest
  | e :: rest => paintings (p.handle e) rest

theorem paintings_append (p : Page α) (before after : List (Event α)) :
    p.paintings (before ++ after) = p.paintings before ++ (p.visit before).paintings after := by
  induction before generalizing p with
  | nil => rfl
  | cons e rest ih =>
      have later := ih (p.handle e)
      cases e with
      | animationFrame =>
          rw [List.cons_append, paintings, paintings, List.append_assoc]
          exact congrArg _ later
      | _ => exact later

theorem paint_calls (p : Page α) : p.paint.1 = if p.scene.dirty then p.scene.draw else [] := by
  rw [paint]
  dsimp only [Scene.takeDirty]
  cases p.scene.dirty <;> rfl

-- A scene without a mark was painted, and looks as it did then.
def Current (start : Page α) (events : List (Event α)) : Prop :=
  (start.visit events).scene.dirty = false →
    (start.paintings events).getLast? = some (start.visit events).scene.draw

theorem current_frame (start : Page α) (events : List (Event α)) (animating : (start.visit events).animating = true)
    (current : Current start events) :
    (start.paintings (events ++ [.animationFrame])).getLast? =
      some (start.visit (events ++ [.animationFrame])).scene.draw := by
  have running := animate_running (start.visit events) animating
  have shown : (start.visit (events ++ [.animationFrame])).scene.draw =
      (start.visit events).advanceRun.scene.draw := by
    rw [visit_snoc, handle, running, paint_scene]
    rfl
  rw [paintings_append, shown, paintings, running, paint_calls]
  cases dirty : (start.visit events).advanceRun.scene.dirty with
  | true => simp [paintings, Scene.draw_not_empty]
  | false =>
      obtain ⟨clean, same⟩ := advance_succeeds Scene.marks_follow.toSuccession (start.visit events) dirty
      simp [paintings, current clean, same]

theorem paintings_other (p : Page α) (e : Event α) (other : e ≠ .animationFrame) : p.paintings [e] = [] := by
  cases e with
  | animationFrame => exact absurd rfl other
  | _ => rfl

theorem handle_current (start : Page α) (events : List (Event α)) (e : Event α) (current : Current start events) :
    Current start (events ++ [e]) := by
  intro clean
  by_cases frame : e = .animationFrame
  · subst frame
    cases animating : (start.visit events).animating with
    | true => exact current_frame start events animating current
    | false =>
        have idle : (start.visit events).animate = ([], start.visit events) := by
          simp only [animate, animating, if_neg Bool.false_ne_true]
        have unpainted : (start.visit events).paintings [.animationFrame] = [] := by
          simp only [paintings, idle, List.isEmpty_nil, if_pos, List.append_nil]
        have still : start.visit (events ++ [.animationFrame]) = start.visit events :=
          (visit_snoc start events .animationFrame).trans (congrArg Prod.snd idle)
        rw [still] at clean ⊢
        rw [paintings_append, unpainted, List.append_nil, current clean]
  · rw [visit_snoc] at clean ⊢
    obtain ⟨before, same⟩ := handle_succeeds Scene.marks_follow (start.visit events) e frame clean
    rw [paintings_append, paintings_other _ e frame, List.append_nil, current before, same]

theorem mount_marked (placing : Placing α) (environment : Environment α) (settings : Settings α) :
    (mount placing environment settings).scene.dirty = true := by
  rw [mount, start]
  split
  next =>
    dsimp only
    split
    next => rfl
    next => rfl
  next => rfl

theorem mount_animating (placing : Placing α) (environment : Environment α) (settings : Settings α) :
    (mount placing environment settings).animating = environment.isDrawable := by
  have drawable : (blank placing environment settings).environment = environment := rfl
  rw [mount, start, drawable, Environment.isDrawable]
  dsimp only
  cases environment.canvas && environment.window with
  | false => rfl
  | true => cases environment.context <;> rfl

theorem visit_current (placing : Placing α) (environment : Environment α) (settings : Settings α)
    (events : List (Event α)) : Current (mount placing environment settings) events := by
  induction events using List.reverseRecOn with
  | nil =>
      intro clean
      have marked := mount_marked placing environment settings
      rw [visit, List.foldl_nil, marked] at clean
      cases clean
  | append_singleton events e ih => exact handle_current _ events e ih

theorem canvas_is_current (placing : Placing α) (environment : Environment α) (settings : Settings α)
    (events : List (Event α)) (drawable : environment.isDrawable = true) :
    let start := mount placing environment settings
    ((start.visit events).scene.dirty = false →
        (start.paintings events).getLast? = some (start.visit events).scene.draw) ∧
      (start.paintings (events ++ [.animationFrame])).getLast? =
        some (start.visit (events ++ [.animationFrame])).scene.draw := by
  intro start
  have current := visit_current placing environment settings events
  have animating : (start.visit events).animating = true :=
    (visit_settled start events).animating.trans ((mount_animating placing environment settings).trans drawable)
  exact ⟨current, current_frame start events animating current⟩

-- The root arrives between two frames, and the wheel turns between two others.
def zoomed : List (Event Float) :=
  [.animationFrame, .answer (.root "a") (.ok ⟨⟨"a", none⟩, [⟨"a", "b", "knows"⟩]⟩), .animationFrame,
    .wheel ⟨10, 20, .origin⟩ 1.0, .animationFrame, .press ⟨400, 300, .origin⟩]

theorem canvas_is_current_when_zoomed :
    (desk : Environment Float).isDrawable = true ∧ (onDesk.visit zoomed).scene.dirty = false ∧
      (onDesk.paintings zoomed).getLast? = some (onDesk.visit zoomed).scene.draw ∧
      (onDesk.paintings (zoomed ++ [.animationFrame])).getLast? =
        some (onDesk.visit (zoomed ++ [.animationFrame])).scene.draw := by
  have clean : (onDesk.visit zoomed).scene.dirty = false := by decide +kernel
  obtain ⟨last, next⟩ := canvas_is_current ⟨"a", false, none, none⟩ (desk : Environment Float) .standard zoomed rfl
  exact ⟨rfl, clean, last clean, next⟩

end Page

end GraphBrowser
