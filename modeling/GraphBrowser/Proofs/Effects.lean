import GraphBrowser.Proofs.LinkLookup
import GraphBrowser.Proofs.NodeLookup
import GraphBrowser.Proofs.Session

set_option autoImplicit false

namespace GraphBrowser.Explorer

variable {α σ ε : Type} [Coordinate α] [Surface σ α ε]

theorem reveal_nodes (x : Explorer α σ ε) (id : String) : (x.reveal id).nodes = x.nodes.setVisible id true :=
  NodeTable.reveal_nodes x.nodes id x.surface

theorem hide_nodes (x : Explorer α σ ε) (id : String) : (x.hide id).nodes = x.nodes.setVisible id false :=
  NodeTable.hide_nodes x.nodes id x.surface

-- What can be read off a node and is changed neither by showing or hiding it nor by wiring it.
def Lasting {β : Type} (read : Node ε → β) : Prop :=
  ∀ (node : Node ε) (visible wired : Bool), read { node with visible, wired } = read node

theorem element_lasting : Lasting (Node.element : Node ε → ε) := fun _ _ _ => rfl

theorem set_visible_lasting {β : Type} (read : Node ε → β) (lasting : Lasting read) (nodes : NodeTable ε) (id : String)
    (visible : Bool) (key : String) : ((nodes.setVisible id visible)[key]?).map read = (nodes[key]?).map read := by
  rw [NodeTable.set_visible_get]
  by_cases here : key = id
  · rw [if_pos here, Option.map_map]
    congr 1
    funext node
    exact lasting node visible node.wired
  · rw [if_neg here]

theorem join_cases (x : Explorer α σ ε) (s d : String) :
    x.join s d = (false, x) ∨
      ∃ source destination link, x.nodes[s]? = some source ∧ source.visible = true ∧
        x.nodes[d]? = some destination ∧ destination.visible = true ∧
        x.links.get? s d = some link ∧ link.visible = false ∧
        x.join s d = (true, { x with
          links := (x.links.connect s d).2
          surface := Surface.connect source.element destination.element link.label x.surface }) := by
  unfold join
  split
  next source destination foundSource foundDestination =>
    by_cases shown : (source.visible && destination.visible) = true
    · rw [if_pos shown]
      simp only [Bool.and_eq_true] at shown
      cases fires : (x.links.connect s d).1 with
      | false =>
          left
          split
          next => rfl
          next links connected => simp [connected] at fires
      | true =>
          right
          obtain ⟨link, known, invisible⟩ := (LinkTable.connect_fires x.links s d).mp fires
          refine ⟨source, destination, link, foundSource, shown.1, foundDestination, shown.2, known, invisible, ?_⟩
          split
          next unconnected => simp [unconnected] at fires
          next links connected =>
            have label : ((links.get? s d).map Link.label).getD "" = link.label := by
              have same : links = (x.links.connect s d).2 := by rw [connected]
              rw [same, LinkTable.connect_get]
              simp [known, Link.label]
            rw [label, connected]
    · rw [if_neg shown]
      exact .inl rfl
  next => exact .inl rfl

theorem wire_get (x : Explorer α σ ε) (id : String) (element : ε) (key : String) :
    (x.wire id element).nodes[key]? =
      if key = id then x.nodes[key]?.map ({ · with wired := true }) else x.nodes[key]? := by
  unfold wire
  split
  next => exact NodeTable.mark_wired_get x.nodes id key
  next wired =>
    by_cases here : key = id
    · subst key
      cases found : x.nodes[id]? with
      | none => simp
      | some node =>
          have told : node.wired = true := by simpa [found] using wired
          simp [← told]
    · simp [here]

theorem wire_links (x : Explorer α σ ε) (id : String) (element : ε) : (x.wire id element).links = x.links := by
  unfold wire
  split <;> rfl

theorem collapse_unknown (x : Explorer α σ ε) (id : String) (unknown : x.nodes[id]? = none) :
    x.collapse id = (false, x) := by
  simp only [collapse, unknown]

theorem collapse_known (x : Explorer α σ ε) (id : String) (node : Node ε) (known : x.nodes[id]? = some node) :
    x.collapse id = (true, Explorer.hide { x with
      links := (x.links.disconnectAll id).2, surface := Surface.disconnect node.element x.surface } id) := by
  simp only [collapse, known]

theorem collapse_lasting {β : Type} (read : Node ε → β) (lasting : Lasting read) (x : Explorer α σ ε)
    (closed id : String) : ((x.collapse closed).2.nodes[id]?).map read = (x.nodes[id]?).map read := by
  cases known : x.nodes[closed]? with
  | none => rw [collapse_unknown x closed known]
  | some node => rw [collapse_known x closed node known, hide_nodes, set_visible_lasting read lasting]

theorem collapse_visible (x : Explorer α σ ε) (id : String) (node : Node ε) (known : x.nodes[id]? = some node)
    (s d : String) :
    (x.collapse id).2.links.isVisible s d = (x.links.isVisible s d && !(s == id || d == id)) := by
  rw [collapse_known x id node known]
  exact LinkTable.disconnect_visible x.links id s d

def learned (t : LinkTable) (triples : List LinkTriple) : LinkTable :=
  triples.foldl (fun t l => (t.register l.source l.destination l.name).2) t

def attached (x : Explorer α σ ε) (fragment : Fragment) : Node ε :=
  match x.nodes[fragment.id]? with
  | some node => { node with wired := true }
  | none => ⟨(Surface.create fragment.node x.surface).1, true, true, fragment.node.label⟩

theorem attached_known (x : Explorer α σ ε) (fragment : Fragment) (node : Node ε)
    (known : x.nodes[fragment.id]? = some node) : x.attached fragment = { node with wired := true } := by
  simp only [attached, known]

variable [DecidableEq ε]

theorem provide_known (x : Explorer α σ ε) (summary : NodeSummary) (node : Node ε)
    (known : x.nodes[summary.id]? = some node) : x.provide summary = (node.element, x) := by
  simp only [provide, known]

theorem provide_fresh (x : Explorer α σ ε) (summary : NodeSummary) (fresh : x.nodes[summary.id]? = none) :
    x.provide summary = ((Surface.create summary x.surface).1, { x with
      surface := (Surface.create summary x.surface).2
      nodes := x.nodes.register summary.id (Surface.create summary x.surface).1 summary.label }) := by
  simp only [provide, fresh]

theorem provide_links (x : Explorer α σ ε) (summary : NodeSummary) : (x.provide summary).2.links = x.links := by
  cases found : x.nodes[summary.id]? with
  | none => rw [provide_fresh x summary found]
  | some node => rw [provide_known x summary node found]

-- Attaching a node that is wired already adds to what is known of links, and does nothing else.
theorem attach_told (x : Explorer α σ ε) (fragment : Fragment) (node : Node ε)
    (known : x.nodes[fragment.id]? = some node) (told : node.wired = true) :
    (x.attach fragment).2 = x.learn fragment.links := by
  have kept : (x.attach fragment).2 = (x.learn fragment.links).wire fragment.id node.element := by
    rw [attach, provide_known x fragment.node node known]
  rw [kept]
  have idle : (x.nodes[fragment.id]?).any (!·.wired) = false := by simp [known, told]
  simp [wire, learn, idle]

theorem attach_fresh (x : Explorer α σ ε) (fragment : Fragment) (fresh : x.nodes[fragment.id]? = none) :
    (x.attach fragment).2 = { x with
      nodes := NodeTable.markWired (x.nodes.register fragment.id
        (Surface.create fragment.node x.surface).1 fragment.node.label) fragment.id
      links := learned x.links fragment.links
      surface := Surface.bind fragment.id (Surface.create fragment.node x.surface).1
        (Surface.create fragment.node x.surface).2 } := by
  rw [attach, provide_fresh x fragment.node fresh]
  have known : (x.nodes.register fragment.id (Surface.create fragment.node x.surface).1
      fragment.node.label)[fragment.id]? =
        some ⟨(Surface.create fragment.node x.surface).1, true, false, fragment.node.label⟩ := by
    simp [NodeTable.register, fresh]
  simp only [wire, learn, Fragment.id] at known ⊢
  simp [known, learned]

theorem attach_get (x : Explorer α σ ε) (fragment : Fragment) (key : String) :
    (x.attach fragment).2.nodes[key]? =
      if key = fragment.id then some (x.attached fragment) else x.nodes[key]? := by
  have wired : (x.attach fragment).2.nodes[key]? = if key = fragment.id
      then (x.provide fragment.node).2.nodes[key]?.map ({ · with wired := true })
      else (x.provide fragment.node).2.nodes[key]? :=
    wire_get _ fragment.id _ key
  rw [wired]
  cases found : x.nodes[fragment.id]? with
  | some node =>
      rw [provide_known x fragment.node node found]
      by_cases here : key = fragment.id
      · simp [here, found, attached]
      · simp [here]
  | none =>
      rw [provide_fresh x fragment.node found]
      simp only [NodeTable.register, IdMap.insert_get]
      by_cases here : key = fragment.id
      · have made : x.attached fragment =
            ⟨(Surface.create fragment.node x.surface).1, true, true, fragment.node.label⟩ := by
          simp only [attached, found]
        simp [here, made, Fragment.id]
      · have other : ¬ key = fragment.node.id := here
        simp [here, other]

theorem attach_visible_elsewhere (x : Explorer α σ ε) (fragment : Fragment) (key : String)
    (elsewhere : key ≠ fragment.id) : (x.attach fragment).2.nodes.isVisible key = x.nodes.isVisible key := by
  apply NodeTable.visible_congr
  rw [attach_get, if_neg elsewhere]

theorem attach_keeps_visible (x : Explorer α σ ε) (fragment : Fragment) (key : String)
    (visible : x.nodes.isVisible key = true) : (x.attach fragment).2.nodes.isVisible key = true := by
  by_cases here : key = fragment.id
  · subst here
    obtain ⟨node, known, shown⟩ := (NodeTable.visible_iff x.nodes fragment.id).mp visible
    refine (NodeTable.visible_iff _ fragment.id).mpr ⟨x.attached fragment, ?_, ?_⟩
    · rw [attach_get, if_pos rfl]
    · rw [attached_known x fragment node known]
      exact shown
  · rw [attach_visible_elsewhere x fragment key here, visible]

theorem attach_links (x : Explorer α σ ε) (fragment : Fragment) :
    (x.attach fragment).2.links = learned x.links fragment.links := by
  have wired : (x.attach fragment).2.links = ((x.provide fragment.node).2.learn fragment.links).links :=
    wire_links _ fragment.id _
  rw [wired, learn, provide_links]
  rfl

theorem learned_visible (t : LinkTable) (triples : List LinkTriple) (s d : String) :
    (learned t triples).isVisible s d = t.isVisible s d := by
  induction triples generalizing t with
  | nil => rfl
  | cons l rest ih =>
      exact (ih (t.register l.source l.destination l.name).2).trans
        (LinkTable.register_visible t l.source l.destination l.name s d)

theorem attach_link_visible (x : Explorer α σ ε) (fragment : Fragment) (s d : String) :
    (x.attach fragment).2.links.isVisible s d = x.links.isVisible s d := by
  rw [attach_links, learned_visible]

theorem open_root_get (x : Explorer α σ ε) (fragment : Fragment) (key : String) :
    (x.openRoot fragment).2.nodes[key]? =
      if key = fragment.id then some { x.attached fragment with visible := true } else x.nodes[key]? := by
  have revealed : (x.openRoot fragment).2.nodes = (x.attach fragment).2.nodes.setVisible fragment.id true :=
    reveal_nodes (x.attach fragment).2 fragment.id
  rw [revealed, NodeTable.set_visible_get, attach_get]
  by_cases here : key = fragment.id
  · simp only [if_pos here, Option.map_some]
  · simp only [if_neg here]

theorem open_root_links (x : Explorer α σ ε) (fragment : Fragment) :
    (x.openRoot fragment).2.links = learned x.links fragment.links := attach_links x fragment

end GraphBrowser.Explorer
