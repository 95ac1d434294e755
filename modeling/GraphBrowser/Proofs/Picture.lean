import GraphBrowser.Proofs.NodeLookup
import GraphBrowser.Proofs.Session

set_option autoImplicit false

namespace GraphBrowser

variable {α : Type}

structure SceneNode.Shows (drawn : SceneNode α) (id : String) (node : Node Nat) : Prop where
  id : drawn.id = id
  label : drawn.label = node.label
  visible : drawn.visible = node.visible
  wired : drawn.wired = true

-- The table tells the element of a node; the scene node tells whose element it is. Nodes are wired from
-- the moment they are known, so that attaching one again never wires it twice.
structure Pictured (nodes : NodeTable Nat) (drawn : Array (SceneNode α)) : Prop where
  size : drawn.size = nodes.size
  shows : ∀ (id : String) (node : Node Nat), nodes[id]? = some node →
    ∃ shown, drawn[node.element]? = some shown ∧ shown.Shows id node
  owner : ∀ (element : Nat) (shown : SceneNode α), drawn[element]? = some shown →
    ∃ node, nodes[shown.id]? = some node ∧ node.element = element
  told : ∀ (id : String) (node : Node Nat), nodes[id]? = some node → node.wired = true

namespace Pictured

theorem empty : Pictured ∅ (#[] : Array (SceneNode α)) := by
  refine ⟨rfl, ?_, ?_, ?_⟩
  · intro id node found
    simp at found
  · intro element shown found
    simp at found
  · intro id node found
    simp at found

theorem owner_unique (nodes : NodeTable Nat) (drawn : Array (SceneNode α)) (pictured : Pictured nodes drawn)
    (a b : String) (first second : Node Nat) (foundFirst : nodes[a]? = some first)
    (foundSecond : nodes[b]? = some second) (same : first.element = second.element) : a = b := by
  obtain ⟨shown, read, shows⟩ := pictured.shows a first foundFirst
  obtain ⟨other, readOther, showsOther⟩ := pictured.shows b second foundSecond
  have equal : shown = other := by
    rw [same, readOther] at read
    exact (Option.some.inj read).symm
  rw [← shows.id, ← showsOther.id, equal]

theorem element_lt (nodes : NodeTable Nat) (drawn : Array (SceneNode α)) (pictured : Pictured nodes drawn)
    (id : String) (node : Node Nat) (found : nodes[id]? = some node) : node.element < drawn.size := by
  obtain ⟨shown, read, _⟩ := pictured.shows id node found
  exact (Array.getElem?_eq_some_iff.mp read).1

theorem modify_unseen (nodes : NodeTable Nat) (drawn : Array (SceneNode α)) (pictured : Pictured nodes drawn)
    (element : Nat) (f : SceneNode α → SceneNode α)
    (keeps : ∀ (shown : SceneNode α) (id : String) (node : Node Nat), shown.Shows id node → (f shown).Shows id node)
    (named : ∀ shown : SceneNode α, (f shown).id = shown.id) : Pictured nodes (drawn.modify element f) := by
  refine ⟨by rw [Array.size_modify, pictured.size], ?_, ?_, pictured.told⟩
  · intro id node found
    obtain ⟨shown, read, shows⟩ := pictured.shows id node found
    rw [Array.getElem?_modify, read]
    by_cases here : element = node.element
    · exact ⟨f shown, by simp [here], keeps shown id node shows⟩
    · exact ⟨shown, by simp [here], shows⟩
  · intro other shown read
    rw [Array.getElem?_modify] at read
    by_cases here : element = other
    · rw [if_pos here] at read
      obtain ⟨old, readOld, rfl⟩ := Option.map_eq_some_iff.mp read
      rw [named]
      exact pictured.owner other old readOld
    · rw [if_neg here] at read
      exact pictured.owner other shown read

theorem set_visible (nodes : NodeTable Nat) (drawn : Array (SceneNode α)) (pictured : Pictured nodes drawn)
    (id : String) (node : Node Nat) (found : nodes[id]? = some node) (visible : Bool) :
    Pictured (nodes.setVisible id visible) (drawn.modify node.element ({ · with visible })) := by
  refine ⟨?_, ?_, ?_, ?_⟩
  · rw [Array.size_modify, pictured.size, NodeTable.setVisible, Std.ExtTreeMap.size_modify]
  · intro key other foundOther
    rw [NodeTable.set_visible_get] at foundOther
    rw [Array.getElem?_modify]
    by_cases here : key = id
    · subst key
      obtain ⟨shown, read, shows⟩ := pictured.shows id node found
      rw [if_pos rfl, found] at foundOther
      cases foundOther
      exact ⟨{ shown with visible }, by simp [read], ⟨shows.id, shows.label, rfl, shows.wired⟩⟩
    · rw [if_neg here] at foundOther
      obtain ⟨shown, read, shows⟩ := pictured.shows key other foundOther
      have apart : ¬ node.element = other.element := fun same =>
        here (owner_unique nodes drawn pictured id key node other found foundOther same).symm
      exact ⟨shown, by rw [if_neg apart, read], shows⟩
  · intro element shown read
    have owned : ∃ old, nodes[shown.id]? = some old ∧ old.element = element := by
      rw [Array.getElem?_modify] at read
      by_cases here : node.element = element
      · rw [if_pos here] at read
        obtain ⟨old, readOld, rfl⟩ := Option.map_eq_some_iff.mp read
        exact pictured.owner element old readOld
      · rw [if_neg here] at read
        exact pictured.owner element shown read
    obtain ⟨old, foundOld, place⟩ := owned
    rw [NodeTable.set_visible_get, foundOld]
    by_cases here : shown.id = id
    · exact ⟨{ old with visible }, by simp [here], place⟩
    · exact ⟨old, by simp [here], place⟩
  · intro key other foundOther
    rw [NodeTable.set_visible_get] at foundOther
    by_cases here : key = id
    · rw [if_pos here] at foundOther
      obtain ⟨old, foundOld, rfl⟩ := Option.map_eq_some_iff.mp foundOther
      exact pictured.told key old foundOld
    · rw [if_neg here] at foundOther
      exact pictured.told key other foundOther

theorem add (nodes next : NodeTable Nat) (drawn grown : Array (SceneNode α)) (pictured : Pictured nodes drawn)
    (id : String) (node : Node Nat) (shown : SceneNode α) (fresh : nodes[id]? = none)
    (nextSize : next.size = nodes.size + 1)
    (nextGet : ∀ key : String, next[key]? = if key = id then some node else nodes[key]?)
    (grownSize : grown.size = drawn.size + 1)
    (grownGet : ∀ element : Nat, grown[element]? = if element = drawn.size then some shown else drawn[element]?)
    (place : node.element = drawn.size) (wired : node.wired = true) (shows : shown.Shows id node) :
    Pictured next grown := by
  refine ⟨by rw [grownSize, nextSize, pictured.size], ?_, ?_, ?_⟩
  · intro key other found
    rw [nextGet] at found
    rw [grownGet]
    by_cases here : key = id
    · rw [if_pos here] at found
      cases found
      exact ⟨shown, by rw [if_pos place], here ▸ shows⟩
    · rw [if_neg here] at found
      obtain ⟨old, read, showsOld⟩ := pictured.shows key other found
      have below := element_lt nodes drawn pictured key other found
      exact ⟨old, by rw [if_neg (Nat.ne_of_lt below), read], showsOld⟩
  · intro element other read
    rw [grownGet] at read
    by_cases here : element = drawn.size
    · rw [if_pos here] at read
      cases read
      exact ⟨node, by rw [nextGet, if_pos shows.id], place.trans here.symm⟩
    · rw [if_neg here] at read
      obtain ⟨old, found, placeOld⟩ := pictured.owner element other read
      have known : ¬ other.id = id := by
        intro same
        rw [same, fresh] at found
        cases found
      exact ⟨old, by rw [nextGet, if_neg known, found], placeOld⟩
  · intro key other found
    rw [nextGet] at found
    by_cases here : key = id
    · rw [if_pos here] at found
      cases found
      exact wired
    · rw [if_neg here] at found
      exact pictured.told key other found

end Pictured

namespace Scene

theorem change_nodes (s : Scene α) (element : Nat) (f : SceneNode α → SceneNode α) :
    (s.change element f).nodes = s.nodes.modify element f := by
  unfold change
  split
  next => rfl
  next outside =>
    apply Array.ext_getElem?
    intro i
    rw [Array.getElem?_modify]
    by_cases here : element = i
    · have absent : s.nodes[i]? = none := Array.getElem?_eq_none (by omega)
      simp [absent]
    · rw [if_neg here]

theorem change_connectors (s : Scene α) (element : Nat) (f : SceneNode α → SceneNode α) :
    (s.change element f).connectors = s.connectors := by
  unfold change
  split <;> rfl

theorem moved_pictured (s : Scene α) (nodes : NodeTable Nat) (pictured : Pictured nodes s.nodes)
    (element : Nat) (position : Point α) : Pictured nodes (s.moveNode element position).nodes := by
  rw [moveNode, change_nodes]
  apply Pictured.modify_unseen nodes s.nodes pictured
  · intro shown id node shows
    exact ⟨shows.id, shows.label, shows.visible, shows.wired⟩
  · intro shown
    rfl

theorem toggled_pictured (s : Scene α) (nodes : NodeTable Nat) (pictured : Pictured nodes s.nodes) (id : String)
    (visible : Bool) (element : Nat) (changing : nodes.changing? id visible = some element) :
    Pictured (nodes.setVisible id visible) (s.change element ({ · with visible })).nodes := by
  obtain ⟨node, found, rfl, _⟩ := NodeTable.changing_some nodes id visible element changing
  rw [change_nodes]
  exact Pictured.set_visible nodes s.nodes pictured id node found visible

variable [Scalar α]

theorem create_size (s : Scene α) (summary : NodeSummary) :
    (Surface.bind summary.id s.nodes.size (Surface.create summary s).2).nodes.size = s.nodes.size + 1 := by
  simp [Surface.bind, Surface.create]

theorem create_get (s : Scene α) (summary : NodeSummary) (element : Nat) :
    (Surface.bind summary.id s.nodes.size (Surface.create summary s).2).nodes[element]? =
      if element = s.nodes.size then some ⟨summary.id, summary.label, s.size.center, true, true⟩
      else s.nodes[element]? := by
  simp only [Surface.bind, Surface.create, Array.getElem?_modify, Array.getElem?_push]
  by_cases here : element = s.nodes.size
  · simp [here]
  · simp [here, Ne.symm here]

theorem adjusted_pictured (s : Scene α) (nodes : NodeTable Nat) (pictured : Pictured nodes s.nodes)
    (change : Adjustment α) : Pictured nodes (s.adjust change).nodes := by
  cases change with
  | setOffset element offset => exact moved_pictured s nodes pictured element offset
  | moveNode element position => exact moved_pictured s nodes pictured element position
  | resize size => exact pictured
  | setView view => exact pictured
  | markDirty => exact pictured
  | takeDirty => exact pictured

theorem revealed_pictured (s : Scene α) (nodes : NodeTable Nat) (pictured : Pictured nodes s.nodes) (id : String) :
    Pictured (nodes.reveal id s).2.1 (nodes.reveal id s).2.2.nodes := by
  unfold NodeTable.reveal
  split
  next => exact pictured
  next element changing => exact toggled_pictured s nodes pictured id true element changing

theorem hidden_pictured (s : Scene α) (nodes : NodeTable Nat) (pictured : Pictured nodes s.nodes) (id : String) :
    Pictured (nodes.hide id s).2.1 (nodes.hide id s).2.2.nodes := by
  unfold NodeTable.hide
  split
  next => exact pictured
  next element changing => exact toggled_pictured s nodes pictured id false element changing

theorem revealed_connectors (s : Scene α) (nodes : NodeTable Nat) (id : String) :
    (nodes.reveal id s).2.2.connectors = s.connectors := by
  unfold NodeTable.reveal
  split
  next => rfl
  next element _ => exact change_connectors s element _

theorem hidden_connectors (s : Scene α) (nodes : NodeTable Nat) (id : String) :
    (nodes.hide id s).2.2.connectors = s.connectors := by
  unfold NodeTable.hide
  split
  next => rfl
  next element _ => exact change_connectors s element _

theorem adjusted_connectors (s : Scene α) (change : Adjustment α) : (s.adjust change).connectors = s.connectors := by
  cases change with
  | setOffset element offset => exact change_connectors s element _
  | moveNode element position => exact change_connectors s element _
  | resize size => rfl
  | setView view => rfl
  | markDirty => rfl
  | takeDirty => rfl

end Scene

end GraphBrowser
