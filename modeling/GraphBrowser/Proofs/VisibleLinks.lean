import GraphBrowser.Proofs.Growth

set_option autoImplicit false

namespace GraphBrowser.Explorer

variable {α σ ε : Type} [Coordinate α]

def EndsShown (x : Explorer α σ ε) : Prop :=
  ∀ s d, x.links.isVisible s d = true → x.nodes.isVisible s = true ∧ x.nodes.isVisible d = true

theorem new_ends_shown (surface : σ) (settings : Settings α) :
    EndsShown (Explorer.new surface settings : Explorer α σ ε) := by
  intro s d visible
  cases visible

variable [Surface σ α ε]

theorem reveal_keeps_visible (x : Explorer α σ ε) (id key : String) (visible : x.nodes.isVisible key = true) :
    (x.reveal id).nodes.isVisible key = true := by
  rw [reveal_nodes, NodeTable.set_visible_visible]
  by_cases here : key = id
  · subst key
    obtain ⟨node, known, _⟩ := (NodeTable.visible_iff x.nodes id).mp visible
    simp [known]
  · rw [if_neg here, visible]

theorem join_ends_shown (x : Explorer α σ ε) (s d : String) (shown : EndsShown x) : EndsShown (x.join s d).2 := by
  rcases join_cases x s d with idle | ⟨source, destination, link, foundSource, sourceVisible,
    foundDestination, destinationVisible, _, _, joined⟩
  · rw [idle]
    exact shown
  · rw [joined]
    intro a b visible
    rw [LinkTable.connect_visible] at visible
    by_cases here : a = s ∧ b = d
    · obtain ⟨rfl, rfl⟩ := here
      exact ⟨(NodeTable.visible_iff x.nodes a).mpr ⟨source, foundSource, sourceVisible⟩,
        (NodeTable.visible_iff x.nodes b).mpr ⟨destination, foundDestination, destinationVisible⟩⟩
    · rw [if_neg here] at visible
      exact shown a b visible

theorem act_ends_shown (x y : Explorer α σ ε) (act : Act x y) (shown : EndsShown x) : EndsShown y := by
  cases act with
  | reveal id =>
      intro s d visible
      obtain ⟨source, destination⟩ := shown s d visible
      exact ⟨reveal_keeps_visible x id s source, reveal_keeps_visible x id d destination⟩
  | join s d => exact join_ends_shown x s d shown
  | move element offset => exact shown
  | note layout scatter pending failures issued => exact shown

theorem collapse_ends_shown (x : Explorer α σ ε) (id : String) (shown : EndsShown x) :
    EndsShown (x.collapse id).2 := by
  cases known : x.nodes[id]? with
  | none =>
      rw [collapse_unknown x id known]
      exact shown
  | some node =>
      intro s d visible
      rw [collapse_visible x id node known] at visible
      simp only [Bool.and_eq_true, Bool.not_eq_true', Bool.or_eq_false_iff, beq_eq_false_iff_ne] at visible
      obtain ⟨before, away⟩ := visible
      obtain ⟨source, destination⟩ := shown s d before
      rw [collapse_known x id node known, hide_nodes, NodeTable.set_visible_visible,
        NodeTable.set_visible_visible, if_neg away.1, if_neg away.2]
      exact ⟨source, destination⟩

variable [DecidableEq ε]

theorem attach_ends_shown (x : Explorer α σ ε) (fragment : Fragment) (shown : EndsShown x) :
    EndsShown (x.attach fragment).2 := by
  intro s d visible
  rw [attach_link_visible] at visible
  obtain ⟨source, destination⟩ := shown s d visible
  exact ⟨attach_keeps_visible x fragment s source, attach_keeps_visible x fragment d destination⟩

-- Hiding does not disconnect. It is safe here because a node that was not known when the fragment came
-- is no end of a visible link.
theorem attach_hidden_ends_shown (x : Explorer α σ ε) (fragment : Fragment)
    (fresh : x.nodes[fragment.id]? = none) (shown : EndsShown x) :
    EndsShown ((x.attach fragment).2.hide fragment.id) := by
  intro s d visible
  have before : x.links.isVisible s d = true := (attach_link_visible x fragment s d).symm.trans visible
  obtain ⟨source, destination⟩ := shown s d before
  have known (key : String) (seen : x.nodes.isVisible key = true) :
      ((x.attach fragment).2.hide fragment.id).nodes.isVisible key = true := by
    have elsewhere : key ≠ fragment.id := by
      rintro rfl
      obtain ⟨node, found, _⟩ := (NodeTable.visible_iff x.nodes fragment.id).mp seen
      simp [fresh] at found
    rw [hide_nodes, NodeTable.set_visible_visible, if_neg elsewhere,
      attach_visible_elsewhere x fragment key elsewhere, seen]
  exact ⟨known s source, known d destination⟩

theorem growth_ends_shown (x y : Explorer α σ ε) (growth : Growth x y) (shown : EndsShown x) : EndsShown y := by
  cases growth with
  | acts _ steps => exact acts_keep EndsShown act_ends_shown x y steps shown
  | attach pending fragment _ after =>
      exact acts_keep EndsShown act_ends_shown _ y after (attach_ends_shown { x with pending } fragment shown)
  | hidden pending fragment fresh => exact attach_hidden_ends_shown { x with pending } fragment fresh shown

variable {δ : Type} [Adjustable σ δ]

theorem perform_ends_shown (x : Explorer α σ ε) (op : Operation α ε δ) (shown : EndsShown x) :
    EndsShown (x.perform op) := by
  rcases perform_cases x op with growth | ⟨id, collapsed⟩ | ⟨change, adjusted⟩
  · exact growth_ends_shown x _ growth shown
  · rw [collapsed]
    exact collapse_ends_shown x id shown
  · rw [adjusted]
    exact shown

theorem run_ends_shown (surface : σ) (settings : Settings α) (ops : List (Operation α ε δ)) :
    EndsShown ((Explorer.new surface settings).run ops) :=
  run_keeps EndsShown perform_ends_shown _ ops (new_ends_shown surface settings)

theorem visible_links_join_visible_nodes (surface : σ) (settings : Settings α) (ops : List (Operation α ε δ))
    (link : Link) (known : link ∈ ((Explorer.new surface settings).run ops).links.toList)
    (visible : link.visible = true) :
    ∃ source destination, ((Explorer.new surface settings).run ops).nodes[link.source]? = some source ∧
      source.visible = true ∧
      ((Explorer.new surface settings).run ops).nodes[link.destination]? = some destination ∧
      destination.visible = true := by
  have drawn : ((Explorer.new surface settings).run ops).links.isVisible link.source link.destination = true := by
    rw [LinkTable.visible_of_get _ _ _ link (LinkTable.get_of_mem _ link known), visible]
  obtain ⟨sourceVisible, destinationVisible⟩ := run_ends_shown surface settings ops _ _ drawn
  obtain ⟨source, foundSource, sourceShown⟩ := (NodeTable.visible_iff _ _).mp sourceVisible
  obtain ⟨destination, foundDestination, destinationShown⟩ := (NodeTable.visible_iff _ _).mp destinationVisible
  exact ⟨source, destination, foundSource, sourceShown, foundDestination, destinationShown⟩

-- A fetch for b is under way when b is opened. It comes back after a was closed, and b stays visible.
def survivor : List (Operation Float Nat (Scene.Adjustment Float)) :=
  [.openRoot ⟨⟨"a", none⟩, [⟨"a", "b", "knows"⟩]⟩, .expand "a" .outbound,
    .openRoot ⟨⟨"b", none⟩, [⟨"b", "d", "next"⟩]⟩, .expand "b" .outbound,
    .redeem ⟨"d", 2⟩ (.ok ⟨⟨"d", none⟩, []⟩), .collapse "a", .redeem ⟨"b", 1⟩ (.ok ⟨⟨"b", none⟩, []⟩)]

theorem survivor_joins_visible_nodes :
    ⟨"b", "d", ["next"], true⟩ ∈ (session survivor).links.toList ∧
      ∃ source destination, (session survivor).nodes["b"]? = some source ∧ source.visible = true ∧
        (session survivor).nodes["d"]? = some destination ∧ destination.visible = true := by
  have known : ⟨"b", "d", ["next"], true⟩ ∈ (session survivor).links.toList := by decide +kernel
  exact ⟨known, visible_links_join_visible_nodes _ _ survivor ⟨"b", "d", ["next"], true⟩ known rfl⟩

end GraphBrowser.Explorer
