import GraphBrowser.Proofs.Growth

set_option autoImplicit false

namespace GraphBrowser

-- A relation that every call keeps. An explorer reaches its surface by these calls only.
structure Surface.Succession {σ α ε : Type} [Surface σ α ε] (R : σ → σ → Prop) : Prop where
  refl : ∀ s, R s s
  trans : ∀ s t u, R s t → R t u → R s u
  create : ∀ node s, R s (Surface.create node s).2
  bind : ∀ id element s, R s (Surface.bind id element s)
  reveal : ∀ element s, R s (Surface.reveal element s)
  hide : ∀ element s, R s (Surface.hide element s)
  connect : ∀ source target label s, R s (Surface.connect source target label s)
  disconnect : ∀ element s, R s (Surface.disconnect element s)
  setOffset : ∀ element offset s, R s (Surface.setOffset element offset s)
  repaint : ∀ element s, R s (Surface.repaint element s)

namespace Explorer

variable {α σ ε : Type} [Coordinate α] [Surface σ α ε] {R : σ → σ → Prop}

theorem reveal_succeeds (follows : Surface.Succession R) (x : Explorer α σ ε) (id : String) :
    R x.surface (x.reveal id).surface := by
  simp only [reveal, NodeTable.reveal]
  cases x.nodes.changing? id true with
  | none => exact follows.refl x.surface
  | some element => exact follows.reveal element x.surface

theorem hide_succeeds (follows : Surface.Succession R) (x : Explorer α σ ε) (id : String) :
    R x.surface (x.hide id).surface := by
  simp only [hide, NodeTable.hide]
  cases x.nodes.changing? id false with
  | none => exact follows.refl x.surface
  | some element => exact follows.hide element x.surface

theorem act_succeeds (follows : Surface.Succession R) (x y : Explorer α σ ε) (act : Act x y) :
    R x.surface y.surface := by
  cases act with
  | reveal id => exact reveal_succeeds follows x id
  | join s d =>
      rcases join_cases x s d with idle | ⟨source, destination, link, _, _, _, _, _, _, joined⟩
      · rw [idle]
        exact follows.refl x.surface
      · rw [joined]
        exact follows.connect source.element destination.element link.label x.surface
  | move element offset =>
      exact follows.trans _ _ _ (follows.setOffset element offset x.surface) (follows.repaint element _)
  | note layout scatter pending failures issued => exact follows.refl x.surface

theorem acts_succeed (follows : Surface.Succession R) (x y : Explorer α σ ε) (acts : Acts x y) :
    R x.surface y.surface :=
  acts_keep (fun z => R x.surface z.surface)
    (fun y z act reached => follows.trans _ _ _ reached (act_succeeds follows y z act)) x y acts
    (follows.refl x.surface)

theorem collapse_succeeds (follows : Surface.Succession R) (x : Explorer α σ ε) (id : String) :
    R x.surface (x.collapse id).2.surface := by
  cases known : x.nodes[id]? with
  | none =>
      rw [collapse_unknown x id known]
      exact follows.refl x.surface
  | some node =>
      have hidden := hide_succeeds follows { x with
        links := (x.links.disconnectAll id).2, surface := Surface.disconnect node.element x.surface } id
      rw [collapse_known x id node known]
      exact follows.trans _ _ _ (follows.disconnect node.element x.surface) hidden

theorem wire_succeeds (follows : Surface.Succession R) (x : Explorer α σ ε) (id : String) (element : ε) :
    R x.surface (x.wire id element).surface := by
  rw [wire]
  split
  next => exact follows.bind id element x.surface
  next => exact follows.refl x.surface

variable [DecidableEq ε]

theorem provide_succeeds (follows : Surface.Succession R) (x : Explorer α σ ε) (summary : NodeSummary) :
    R x.surface (x.provide summary).2.surface := by
  cases found : x.nodes[summary.id]? with
  | some node =>
      rw [provide_known x summary node found]
      exact follows.refl x.surface
  | none =>
      rw [provide_fresh x summary found]
      exact follows.create summary x.surface

theorem attach_succeeds (follows : Surface.Succession R) (x : Explorer α σ ε) (fragment : Fragment) :
    R x.surface (x.attach fragment).2.surface := by
  have wired := wire_succeeds follows ((x.provide fragment.node).2.learn fragment.links) fragment.id
    (x.provide fragment.node).1
  exact follows.trans _ _ _ (provide_succeeds follows x fragment.node) wired

theorem growth_succeeds (follows : Surface.Succession R) (x y : Explorer α σ ε) (growth : Growth x y) :
    R x.surface y.surface := by
  cases growth with
  | acts _ steps => exact acts_succeed follows x y steps
  | attach pending fragment _ after =>
      exact follows.trans _ _ _ (attach_succeeds follows { x with pending } fragment) (acts_succeed follows _ y after)
  | hidden pending fragment _ =>
      exact follows.trans _ _ _ (attach_succeeds follows { x with pending } fragment)
        (hide_succeeds follows _ fragment.id)

end Explorer

end GraphBrowser
