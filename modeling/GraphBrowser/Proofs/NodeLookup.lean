import GraphBrowser.Nodes

set_option autoImplicit false

namespace GraphBrowser

theorem id_compare (a b : String) : compare a b = .eq ↔ b = a := by
  rw [Std.LawfulEqCmp.compare_eq_iff_eq]
  exact eq_comm

namespace IdMap

variable {β : Type}

theorem insert_get (m : IdMap β) (id : String) (value : β) (key : String) :
    (m.insert id value)[key]? = if key = id then some value else m[key]? := by
  simp only [Std.ExtTreeMap.getElem?_insert, id_compare]

theorem erase_get (m : IdMap β) (id key : String) :
    (m.erase id)[key]? = if key = id then none else m[key]? := by
  simp only [Std.ExtTreeMap.getElem?_erase, id_compare]

theorem modify_get (m : IdMap β) (id : String) (f : β → β) (key : String) :
    (m.modify id f)[key]? = if key = id then m[key]?.map f else m[key]? := by
  simp only [Std.ExtTreeMap.getElem?_modify, id_compare]
  by_cases here : key = id
  · simp [here]
  · simp [here]

theorem mem_iff (m : IdMap β) (id : String) : id ∈ m ↔ ∃ value, m[id]? = some value := by
  rw [Std.ExtTreeMap.mem_iff_isSome_getElem?, Option.isSome_iff_exists]

theorem insert_fresh_size (m : IdMap β) (id : String) (value : β) (fresh : m[id]? = none) :
    (m.insert id value).size = m.size + 1 := by
  have absent : m.contains id = false := by
    rw [Std.ExtTreeMap.contains_eq_isSome_getElem?, fresh]
    rfl
  simp [Std.ExtTreeMap.size_insert, absent]

end IdMap

namespace NodeTable

variable {ε : Type}

theorem set_visible_get (nodes : NodeTable ε) (id : String) (visible : Bool) (key : String) :
    (nodes.setVisible id visible)[key]? =
      if key = id then nodes[key]?.map ({ · with visible }) else nodes[key]? :=
  IdMap.modify_get nodes id _ key

theorem mark_wired_get (nodes : NodeTable ε) (id key : String) :
    (nodes.markWired id)[key]? =
      if key = id then nodes[key]?.map ({ · with wired := true }) else nodes[key]? :=
  IdMap.modify_get nodes id _ key

theorem visible_iff (nodes : NodeTable ε) (id : String) :
    nodes.isVisible id = true ↔ ∃ node, nodes[id]? = some node ∧ node.visible = true := by
  cases found : nodes[id]? <;> simp [isVisible, found]

theorem visible_of_get (nodes : NodeTable ε) (id : String) (node : Node ε) (found : nodes[id]? = some node) :
    nodes.isVisible id = node.visible := by
  simp [isVisible, found]

theorem visible_known (nodes : NodeTable ε) (id : String) (shown : nodes.isVisible id = true) :
    nodes[id]?.isSome = true := by
  obtain ⟨node, found, _⟩ := (visible_iff nodes id).mp shown
  rw [found]
  rfl

theorem visible_congr (nodes other : NodeTable ε) (id : String) (same : other[id]? = nodes[id]?) :
    other.isVisible id = nodes.isVisible id := by
  simp only [isVisible, same]

theorem mem_shown (nodes : NodeTable ε) (id : String) (node : Node ε) :
    (id, node) ∈ nodes.shown ↔ nodes[id]? = some node ∧ node.visible = true := by
  rw [shown, List.mem_filter, Std.ExtTreeMap.mem_toList_iff_getElem?_eq_some]

theorem visible_iff_shown (nodes : NodeTable ε) (id : String) :
    nodes.isVisible id = true ↔ id ∈ nodes.shown.map Prod.fst := by
  rw [visible_iff, List.mem_map]
  constructor
  · intro ⟨node, found, visible⟩
    exact ⟨(id, node), (mem_shown nodes id node).mpr ⟨found, visible⟩, rfl⟩
  · intro ⟨⟨key, node⟩, member, same⟩
    exact ⟨node, same ▸ (mem_shown nodes key node).mp member⟩

theorem set_visible_visible (nodes : NodeTable ε) (id : String) (visible : Bool) (key : String) :
    (nodes.setVisible id visible).isVisible key =
      if key = id then nodes[key]?.isSome && visible else nodes.isVisible key := by
  rw [isVisible, set_visible_get]
  by_cases here : key = id
  · cases found : nodes[id]? <;> simp [here, found]
  · simp [here, isVisible]

theorem changing_some (nodes : NodeTable ε) (id : String) (visible : Bool) (element : ε)
    (changing : nodes.changing? id visible = some element) :
    ∃ node, nodes[id]? = some node ∧ node.element = element ∧ node.visible ≠ visible := by
  have changed : ∃ node, (nodes[id]? = some node ∧ ¬ node.visible = visible) ∧ node.element = element := by
    simpa [changing?] using changing
  obtain ⟨node, ⟨found, differs⟩, same⟩ := changed
  exact ⟨node, found, same, differs⟩

theorem changing_none (nodes : NodeTable ε) (id : String) (visible : Bool)
    (unchanging : nodes.changing? id visible = none) (node : Node ε) (found : nodes[id]? = some node) :
    node.visible = visible := by
  simpa [changing?, found] using unchanging

-- Setting the flag that a node has already is no change, so revealing and hiding are the same write
-- whether or not the surface is told.
theorem set_visible_idle (nodes : NodeTable ε) (id : String) (visible : Bool)
    (unchanging : nodes.changing? id visible = none) : nodes.setVisible id visible = nodes := by
  apply Std.ExtTreeMap.ext_getElem?
  intro key
  rw [set_visible_get]
  by_cases here : key = id
  · subst key
    cases found : nodes[id]? with
    | none => simp
    | some node =>
        have same := changing_none nodes id visible unchanging node found
        simp [← same]
  · simp [here]

theorem changing_of_get (nodes : NodeTable ε) (id : String) (visible : Bool) (node : Node ε)
    (found : nodes[id]? = some node) :
    nodes.changing? id visible = if node.visible = visible then none else some node.element := by
  rw [changing?, found]
  by_cases same : node.visible = visible
  · simp [same]
  · simp [Option.filter, same]

variable {σ α : Type} [Surface σ α ε]

theorem reveal_nodes (nodes : NodeTable ε) (id : String) (surface : σ) :
    (nodes.reveal id surface).2.1 = nodes.setVisible id true := by
  unfold reveal
  split
  next unchanging => exact (set_visible_idle nodes id true unchanging).symm
  next => rfl

theorem hide_nodes (nodes : NodeTable ε) (id : String) (surface : σ) :
    (nodes.hide id surface).2.1 = nodes.setVisible id false := by
  unfold hide
  split
  next unchanging => exact (set_visible_idle nodes id false unchanging).symm
  next => rfl

theorem hide_surface (nodes : NodeTable ε) (id : String) (node : Node ε) (found : nodes[id]? = some node) (surface : σ) :
    (nodes.hide id surface).2.2 = if node.visible then Surface.hide node.element surface else surface := by
  cases shown : node.visible <;> simp [hide, changing_of_get nodes id false node found, shown]

end NodeTable

end GraphBrowser
