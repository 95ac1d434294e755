import GraphBrowser.Proofs.Arrival
import GraphBrowser.Proofs.Elements

set_option autoImplicit false

namespace GraphBrowser.Explorer

variable {α σ ε : Type} [Coordinate α]

structure Keeps (x y : Explorer α σ ε) : Prop where
  nodes : ∀ id, x.nodes.isVisible id = true → y.nodes.isVisible id = true
  links : ∀ s d, x.links.isVisible s d = true → y.links.isVisible s d = true

theorem keeps_refl (x : Explorer α σ ε) : Keeps x x := ⟨fun _ shown => shown, fun _ _ shown => shown⟩

theorem keeps_trans (x y z : Explorer α σ ε) (first : Keeps x y) (second : Keeps y z) : Keeps x z := by
  refine ⟨?_, ?_⟩
  · intro id shown
    exact second.nodes id (first.nodes id shown)
  · intro s d shown
    exact second.links s d (first.links s d shown)

variable [Surface σ α ε]

theorem act_keeps (x y : Explorer α σ ε) (act : Act x y) : Keeps x y := by
  cases act with
  | reveal id => exact ⟨reveal_keeps_visible x id, fun _ _ shown => shown⟩
  | join s d =>
      refine ⟨?_, ?_⟩
      · intro id shown
        rw [join_nodes, shown]
      · intro a b shown
        rw [LinkTable.drawn_visible _ _ _ (join_drawn x s d), shown, Bool.true_or]
  | move element offset => exact ⟨fun _ shown => shown, fun _ _ shown => shown⟩
  | note layout scatter pending failures issued => exact ⟨fun _ shown => shown, fun _ _ shown => shown⟩

theorem acts_keeps (x y : Explorer α σ ε) (acts : Acts x y) : Keeps x y :=
  acts_keep (Keeps x) (fun y z act kept => keeps_trans x y z kept (act_keeps y z act)) x y acts (keeps_refl x)

structure Closing (x : Explorer α σ ε) (id : String) (node : Node ε) (y : Explorer α σ ε) : Prop where
  closed : y.nodes[id]? = some { node with visible := false }
  others : ∀ other, other ≠ id → y.nodes[other]? = x.nodes[other]?
  links : y.links.toList = x.links.toList.map fun l =>
    if l.source = id ∨ l.destination = id then { l with visible := false } else l
  surface : y.surface =
    if node.visible then Surface.hide node.element (Surface.disconnect node.element x.surface)
    else Surface.disconnect node.element x.surface
  books : y.books = x.books
  scatter : y.scatter = x.scatter
  layout : y.layout = x.layout

theorem collapse_closing (x : Explorer α σ ε) (id : String) (node : Node ε) (known : x.nodes[id]? = some node) :
    (x.collapse id).1 = true ∧ Closing x id node (x.collapse id).2 := by
  refine ⟨by rw [collapse_known x id node known], ?_, ?_, ?_, ?_, collapse_books x id, ?_, ?_⟩
  · rw [collapse_known x id node known, hide_nodes, NodeTable.set_visible_get, if_pos rfl, known, Option.map_some]
  · intro other apart
    rw [collapse_known x id node known, hide_nodes, NodeTable.set_visible_get, if_neg apart]
  · rw [collapse_known x id node known]
    refine List.map_congr_left ?_
    intro l _
    simp only [Link.touches, Bool.or_eq_true, beq_iff_eq]
  · rw [collapse_known x id node known]
    exact NodeTable.hide_surface x.nodes id node known _
  · rw [collapse_known x id node known]
    rfl
  · rw [collapse_known x id node known]
    rfl

variable [DecidableEq ε]

theorem attach_keeps (x : Explorer α σ ε) (fragment : Fragment) : Keeps x (x.attach fragment).2 := by
  refine ⟨fun id => attach_keeps_visible x fragment id, ?_⟩
  intro s d shown
  rw [attach_link_visible, shown]

-- The node that is hidden was not known before, so it was not visible either.
theorem attach_hidden_keeps (x : Explorer α σ ε) (fragment : Fragment) (fresh : x.nodes[fragment.id]? = none) :
    Keeps x ((x.attach fragment).2.hide fragment.id) := by
  have attached := attach_keeps x fragment
  refine ⟨?_, attached.links⟩
  intro id shown
  have elsewhere : id ≠ fragment.id := by
    rintro rfl
    have known := NodeTable.visible_known x.nodes fragment.id shown
    rw [fresh] at known
    cases known
  rw [hide_nodes, NodeTable.set_visible_visible, if_neg elsewhere, attached.nodes id shown]

theorem growth_keeps (x y : Explorer α σ ε) (growth : Growth x y) : Keeps x y := by
  cases growth with
  | acts _ steps => exact acts_keeps x y steps
  | attach pending fragment _ after =>
      have attached := attach_keeps { x with pending } fragment
      exact keeps_trans x _ y ⟨attached.nodes, attached.links⟩ (acts_keeps _ y after)
  | hidden pending fragment fresh =>
      have attached := attach_hidden_keeps { x with pending } fragment fresh
      exact ⟨attached.nodes, attached.links⟩

variable {δ : Type} [Adjustable σ δ]

theorem perform_keeps (x : Explorer α σ ε) (op : Operation α ε δ) (kind : ∀ id, op ≠ .collapse id) :
    Keeps x (x.perform op) := by
  cases op with
  | openRoot fragment => exact growth_keeps x _ (open_root_growth x fragment)
  | expand id direction => exact acts_keeps x _ (expand_acts x id direction)
  | redeem ticket result => exact growth_keeps x _ (redeem_growth x ticket result)
  | collapse id => exact absurd rfl (kind id)
  | runLayout => exact acts_keeps x _ (run_layout_acts x)
  | cancelLayout => exact acts_keeps x _ (cancel_layout_acts x)
  | applyFrame frame => exact acts_keeps x _ (apply_placements_acts frame.placements x)
  | adjust change => exact ⟨fun _ shown => shown, fun _ _ shown => shown⟩

theorem only_collapse_hides (x : Explorer α σ ε) :
    (∀ op : Operation α ε δ, (∀ id, op ≠ .collapse id) → Keeps x (x.perform op)) ∧
      (∀ id node, x.nodes[id]? = some node → (x.collapse id).1 = true ∧ Closing x id node (x.collapse id).2) ∧
      ∀ id, x.nodes[id]? = none → x.collapse id = (false, x) :=
  ⟨perform_keeps x, collapse_closing x, collapse_unknown x⟩

-- Links of all kinds meet at a: from it, to it, and from it to itself.
def hub : List (Operation Float Nat Empty) :=
  [.openRoot ⟨⟨"a", none⟩, [⟨"a", "a", "sameAs"⟩]⟩, .expand "a" .outbound,
    .openRoot ⟨⟨"b", none⟩, [⟨"b", "a", "knows"⟩]⟩, .expand "b" .outbound,
    .openRoot ⟨⟨"c", none⟩, [⟨"a", "c", "likes"⟩, ⟨"c", "b", "next"⟩]⟩, .expand "c" .inbound, .expand "c" .outbound]

theorem only_collapse_hides_hub :
    (∀ id, (.expand "a" .outbound : Operation Float Nat Empty) ≠ .collapse id) ∧
      Keeps (recorded hub) ((recorded hub).perform (.expand "a" .outbound)) ∧
      (recorded hub).nodes["a"]? = some ⟨0, true, true, none⟩ ∧ ((recorded hub).collapse "a").1 = true ∧
      Closing (recorded hub) "a" ⟨0, true, true, none⟩ ((recorded hub).collapse "a").2 ∧
      (recorded hub).nodes["z"]? = none ∧ (recorded hub).collapse "z" = (false, recorded hub) := by
  have kind : ∀ id, (.expand "a" .outbound : Operation Float Nat Empty) ≠ .collapse id := by
    intro id same
    cases same
  have known : (recorded hub).nodes["a"]? = some ⟨0, true, true, none⟩ := by decide +kernel
  have unknown : (recorded hub).nodes["z"]? = none := by decide +kernel
  obtain ⟨keeps, closing, idle⟩ := only_collapse_hides (δ := Empty) (recorded hub)
  obtain ⟨answer, closed⟩ := closing "a" _ known
  exact ⟨kind, keeps _ kind, known, answer, closed, unknown, idle "z" unknown⟩

example : (recorded hub).links.toList.map Link.visible = [true, true, true, true] ∧
    ((recorded hub).collapse "a").2.links.toList.map Link.visible = [false, false, false, true] := by decide +kernel

structure Persists (x y : Explorer α σ ε) : Prop where
  nodes : ∀ (id : String) (node : Node ε), x.nodes[id]? = some node →
    ∃ later, y.nodes[id]? = some later ∧ later.element = node.element ∧ later.label = node.label
  links : ∀ s d link, x.links.get? s d = some link →
    ∃ later, y.links.get? s d = some later ∧ link.names <+: later.names

theorem perform_persists (x : Explorer α σ ε) (op : Operation α ε δ) : Persists x (x.perform op) := by
  have edits := perform_edits x op
  refine ⟨?_, ?_⟩
  · intro id node found
    have borne : (x.nodes[id]?).map (fun n => (n.element, n.label)) = some (node.element, node.label) := by
      rw [found, Option.map_some]
    have still := perform_lasting _ (fun _ _ _ => rfl) x op id _ borne
    obtain ⟨later, foundLater, same⟩ := Option.map_eq_some_iff.mp still
    obtain ⟨element, label⟩ := Prod.mk.inj same
    exact ⟨later, foundLater, element, label⟩
  · intro s d link found
    have known := LinkTable.edits_known _ _ edits s d (by rw [found]; rfl)
    obtain ⟨later, foundLater⟩ := Option.isSome_iff_exists.mp known
    have names := LinkTable.edits_names _ _ edits s d
    rw [LinkTable.names_of_get _ _ _ link found, LinkTable.names_of_get _ _ _ later foundLater] at names
    exact ⟨later, foundLater, names⟩

end GraphBrowser.Explorer
