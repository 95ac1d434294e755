import GraphBrowser.Proofs.Picture
import GraphBrowser.Proofs.VisibleLinks

set_option autoImplicit false

namespace GraphBrowser

def Scene.joining {α : Type} (s : Scene α) (source target : Nat) : List Connector :=
  s.connectors.filter fun c => c.source == source && c.target == target

namespace Explorer

variable {α : Type} [Coordinate α]

def element? {σ ε : Type} (x : Explorer α σ ε) (id : String) : Option ε := (x.nodes[id]?).map Node.element

theorem element_of_get {σ ε : Type} (x : Explorer α σ ε) (id : String) (node : Node ε)
    (found : x.nodes[id]? = some node) : x.element? id = some node.element := by
  rw [element?, found, Option.map_some]

def between (x : Explorer α (Scene α) Nat) (s d : String) : List Connector :=
  x.surface.connectors.filter fun c => x.element? s == some c.source && x.element? d == some c.target

structure Mirror (x : Explorer α (Scene α) Nat) : Prop where
  pictured : Pictured x.nodes x.surface.nodes
  ends : EndsShown x
  drawn : ∀ s d, (x.between s d).length = if x.links.isVisible s d then 1 else 0
  linked : ∀ c ∈ x.surface.connectors, ∃ s d, x.links.isVisible s d = true ∧
    x.element? s = some c.source ∧ x.element? d = some c.target

theorem new_mirror (size : Size α) (settings : Settings α) :
    Mirror (Explorer.new (Scene.empty size) settings : Explorer α (Scene α) Nat) := by
  refine ⟨Pictured.empty, new_ends_shown _ settings, ?_, ?_⟩
  · intro s d
    rfl
  · intro c member
    cases member

theorem element_unique (x : Explorer α (Scene α) Nat) (mirror : Mirror x) (a b : String) (element : Nat)
    (first : x.element? a = some element) (second : x.element? b = some element) : a = b := by
  obtain ⟨m, foundFirst, placeFirst⟩ := Option.map_eq_some_iff.mp first
  obtain ⟨n, foundSecond, placeSecond⟩ := Option.map_eq_some_iff.mp second
  exact Pictured.owner_unique x.nodes x.surface.nodes mirror.pictured a b m n foundFirst foundSecond
    (placeFirst.trans placeSecond.symm)

theorem element_below (x : Explorer α (Scene α) Nat) (mirror : Mirror x) (id : String) (element : Nat)
    (found : x.element? id = some element) : element < x.surface.nodes.size := by
  obtain ⟨node, known, rfl⟩ := Option.map_eq_some_iff.mp found
  exact Pictured.element_lt x.nodes x.surface.nodes mirror.pictured id node known

theorem between_congr (x y : Explorer α (Scene α) Nat) (elements : ∀ id, y.element? id = x.element? id)
    (connectors : y.surface.connectors = x.surface.connectors) (s d : String) :
    y.between s d = x.between s d := by
  simp only [between, elements, connectors]

theorem mirror_frame (x y : Explorer α (Scene α) Nat) (mirror : Mirror x)
    (pictured : Pictured y.nodes y.surface.nodes) (ends : EndsShown y)
    (elements : ∀ id, y.element? id = x.element? id)
    (connectors : y.surface.connectors = x.surface.connectors)
    (visible : ∀ s d, y.links.isVisible s d = x.links.isVisible s d) : Mirror y := by
  refine ⟨pictured, ends, ?_, ?_⟩
  · intro s d
    rw [between_congr x y elements connectors, visible]
    exact mirror.drawn s d
  · intro c member
    rw [connectors] at member
    obtain ⟨s, d, shown, source, target⟩ := mirror.linked c member
    exact ⟨s, d, by rw [visible, shown], by rw [elements, source], by rw [elements, target]⟩

theorem set_visible_element {σ ε : Type} (x y : Explorer α σ ε) (id : String) (visible : Bool)
    (set : y.nodes = x.nodes.setVisible id visible) (key : String) : y.element? key = x.element? key := by
  rw [element?, set]
  exact set_visible_lasting Node.element element_lasting x.nodes id visible key

theorem reveal_mirror (x : Explorer α (Scene α) Nat) (id : String) (mirror : Mirror x) : Mirror (x.reveal id) :=
  mirror_frame x (x.reveal id) mirror (Scene.revealed_pictured x.surface x.nodes mirror.pictured id)
    (act_ends_shown x _ (.reveal x id) mirror.ends)
    (set_visible_element x (x.reveal id) id true (reveal_nodes x id))
    (Scene.revealed_connectors x.surface x.nodes id) (fun _ _ => rfl)

theorem move_mirror (x : Explorer α (Scene α) Nat) (element : Nat) (offset : Point α) (mirror : Mirror x) :
    Mirror (x.moveTo element offset) :=
  mirror_frame x (x.moveTo element offset) mirror
    (Scene.moved_pictured x.surface x.nodes mirror.pictured element offset) mirror.ends (fun _ => rfl)
    (Scene.change_connectors x.surface element _) (fun _ _ => rfl)

theorem adjust_mirror (x : Explorer α (Scene α) Nat) (change : Scene.Adjustment α) (mirror : Mirror x) :
    Mirror { x with surface := Adjustable.adjust change x.surface } :=
  mirror_frame x _ mirror (Scene.adjusted_pictured x.surface x.nodes mirror.pictured change) mirror.ends
    (fun _ => rfl) (Scene.adjusted_connectors x.surface change) (fun _ _ => rfl)

theorem joined_between (x : Explorer α (Scene α) Nat) (mirror : Mirror x) (s d : String) (source destination : Nat)
    (label : String) (links : LinkTable) (foundSource : x.element? s = some source)
    (foundDestination : x.element? d = some destination) (a b : String) :
    between { x with links, surface := Surface.connect source destination label x.surface } a b =
      if a = s ∧ b = d then x.between a b ++ [⟨source, destination, label⟩] else x.between a b := by
  have appended : between { x with links, surface := Surface.connect source destination label x.surface } a b =
      x.between a b ++ [⟨source, destination, label⟩].filter fun c =>
        x.element? a == some c.source && x.element? b == some c.target := by
    exact List.filter_append ..
  rw [appended]
  by_cases here : a = s ∧ b = d
  · obtain ⟨rfl, rfl⟩ := here
    simp [foundSource, foundDestination]
  · have apart : ¬ (x.element? a = some source ∧ x.element? b = some destination) := by
      rintro ⟨sameSource, sameDestination⟩
      exact here ⟨element_unique x mirror a s source sameSource foundSource,
        element_unique x mirror b d destination sameDestination foundDestination⟩
    simp [here, apart]

theorem join_mirror (x : Explorer α (Scene α) Nat) (s d : String) (mirror : Mirror x) : Mirror (x.join s d).2 := by
  have ends := join_ends_shown x s d mirror.ends
  rcases join_cases x s d with idle | ⟨source, destination, link, foundSource, _, foundDestination, _,
    known, invisible, joined⟩
  · rw [idle]
    exact mirror
  · rw [joined] at ends ⊢
    have sourceElement := element_of_get x s source foundSource
    have destinationElement := element_of_get x d destination foundDestination
    have visible (a b : String) : (x.links.connect s d).2.isVisible a b =
        if a = s ∧ b = d then true else x.links.isVisible a b := by
      rw [LinkTable.connect_visible]
      by_cases here : a = s ∧ b = d
      · simp [here, known]
      · simp [here]
    refine ⟨mirror.pictured, ends, ?_, ?_⟩
    · intro a b
      have none : (x.between s d).length = 0 := by
        rw [mirror.drawn, LinkTable.visible_of_get x.links s d link known, invisible]
        rfl
      rw [joined_between x mirror s d source.element destination.element link.label _
        sourceElement destinationElement, visible]
      by_cases here : a = s ∧ b = d
      · obtain ⟨rfl, rfl⟩ := here
        simp [none]
      · simp only [if_neg here]
        exact mirror.drawn a b
    · intro c member
      rcases List.mem_append.mp member with old | new
      · obtain ⟨a, b, shown, sourceFound, targetFound⟩ := mirror.linked c old
        refine ⟨a, b, ?_, sourceFound, targetFound⟩
        rw [visible, shown]
        simp
      · rw [List.mem_singleton.mp new]
        exact ⟨s, d, by rw [visible, if_pos ⟨rfl, rfl⟩], sourceElement, destinationElement⟩

theorem act_mirror (x y : Explorer α (Scene α) Nat) (act : Act x y) (mirror : Mirror x) : Mirror y := by
  cases act with
  | reveal id => exact reveal_mirror x id mirror
  | join s d => exact join_mirror x s d mirror
  | move element offset => exact move_mirror x element offset mirror
  | note layout scatter pending failures issued =>
      exact mirror_frame x _ mirror mirror.pictured mirror.ends (fun _ => rfl) rfl (fun _ _ => rfl)

theorem collapsed_element {σ ε : Type} [Surface σ α ε] (x : Explorer α σ ε) (id key : String) :
    (x.collapse id).2.element? key = x.element? key :=
  collapse_lasting Node.element element_lasting x id key

theorem collapsed_connectors (x : Explorer α (Scene α) Nat) (id : String) (node : Node Nat)
    (known : x.nodes[id]? = some node) : (x.collapse id).2.surface.connectors =
      x.surface.connectors.filter fun c => c.source != node.element && c.target != node.element := by
  rw [collapse_known x id node known]
  exact Scene.hidden_connectors _ _ id

-- No other node has the element of this one, so the connectors that go are those at this node.
theorem collapsed_between (x : Explorer α (Scene α) Nat) (mirror : Mirror x) (id : String) (node : Node Nat)
    (known : x.nodes[id]? = some node) (s d : String) :
    (x.collapse id).2.between s d = if s = id ∨ d = id then [] else x.between s d := by
  have owned := element_of_get x id node known
  simp only [between, collapsed_element, collapsed_connectors x id node known, List.filter_filter]
  by_cases touched : s = id ∨ d = id
  · rw [if_pos touched, List.filter_eq_nil_iff]
    intro c _ kept
    simp only [Bool.and_eq_true, beq_iff_eq, bne_iff_ne] at kept
    rcases touched with rfl | rfl
    · exact kept.2.1 (Option.some.inj (kept.1.1.symm.trans owned))
    · exact kept.2.2 (Option.some.inj (kept.1.2.symm.trans owned))
  · rw [if_neg touched]
    apply List.filter_congr
    intro c _
    have away (key : String) (element : Nat) (other : key ≠ id) (found : x.element? key = some element) :
        element ≠ node.element := by
      rintro rfl
      exact other (element_unique x mirror key id _ found owned)
    by_cases source : x.element? s = some c.source
    · by_cases target : x.element? d = some c.target
      · have sourceAway := away s c.source (fun same => touched (.inl same)) source
        have targetAway := away d c.target (fun same => touched (.inr same)) target
        simp [source, target, sourceAway, targetAway]
      · simp [target]
    · simp [source]

theorem collapse_mirror (x : Explorer α (Scene α) Nat) (id : String) (mirror : Mirror x) :
    Mirror (x.collapse id).2 := by
  cases known : x.nodes[id]? with
  | none =>
      rw [collapse_unknown x id known]
      exact mirror
  | some node =>
      have owned := element_of_get x id node known
      refine ⟨?_, collapse_ends_shown x id mirror.ends, ?_, ?_⟩
      · rw [collapse_known x id node known]
        exact Scene.hidden_pictured (Surface.disconnect node.element x.surface) x.nodes mirror.pictured id
      · intro s d
        rw [collapsed_between x mirror id node known, collapse_visible x id node known]
        by_cases touched : s = id ∨ d = id
        · rcases touched with rfl | rfl <;> simp
        · rw [if_neg touched, mirror.drawn]
          obtain ⟨source, destination⟩ := not_or.mp touched
          simp [source, destination]
      · intro c member
        rw [collapsed_connectors x id node known, List.mem_filter] at member
        obtain ⟨old, kept⟩ := member
        obtain ⟨sourceAway, targetAway⟩ : c.source ≠ node.element ∧ c.target ≠ node.element := by simpa using kept
        obtain ⟨s, d, shown, source, target⟩ := mirror.linked c old
        have sourceOther : s ≠ id := by
          rintro rfl
          exact sourceAway (Option.some.inj (source.symm.trans owned))
        have targetOther : d ≠ id := by
          rintro rfl
          exact targetAway (Option.some.inj (target.symm.trans owned))
        have visible : (x.collapse id).2.links.isVisible s d = true := by
          rw [collapse_visible x id node known, shown]
          simp [sourceOther, targetOther]
        exact ⟨s, d, visible, by rw [collapsed_element, source], by rw [collapsed_element, target]⟩

theorem attached_element (x : Explorer α (Scene α) Nat) (fragment : Fragment)
    (fresh : x.nodes[fragment.id]? = none) (key : String) :
    (x.attach fragment).2.element? key =
      if key = fragment.id then some x.surface.nodes.size else x.element? key := by
  rw [element?, attach_get]
  by_cases here : key = fragment.id
  · simp only [if_pos here, attached, fresh]
    rfl
  · simp only [if_neg here, element?]

-- The element of a new node is new as well, and no connector ends there.
theorem attached_between (x : Explorer α (Scene α) Nat) (mirror : Mirror x) (fragment : Fragment) (s d : String) :
    (x.attach fragment).2.between s d = x.between s d := by
  cases found : x.nodes[fragment.id]? with
  | some node =>
      rw [attach_told x fragment node found (mirror.pictured.told fragment.id node found)]
      rfl
  | none =>
      have connectors : (x.attach fragment).2.surface.connectors = x.surface.connectors := by
        rw [attach_fresh x fragment found]
        rfl
      simp only [between, connectors, attached_element x fragment found]
      apply List.filter_congr
      intro c member
      obtain ⟨a, b, _, source, target⟩ := mirror.linked c member
      have unmet (key : String) (element : Nat) (below : element < x.surface.nodes.size) :
          ((if key = fragment.id then some x.surface.nodes.size else x.element? key) == some element) =
            (x.element? key == some element) := by
        by_cases here : key = fragment.id
        · subst key
          have unknown : x.element? fragment.id = none := by simp [element?, found]
          simp [unknown, Nat.ne_of_gt below]
        · rw [if_neg here]
      rw [unmet s c.source (element_below x mirror a c.source source),
        unmet d c.target (element_below x mirror b c.target target)]

theorem attach_mirror (x : Explorer α (Scene α) Nat) (fragment : Fragment) (mirror : Mirror x) :
    Mirror (x.attach fragment).2 := by
  have ends := attach_ends_shown x fragment mirror.ends
  cases found : x.nodes[fragment.id]? with
  | some node =>
      rw [attach_told x fragment node found (mirror.pictured.told fragment.id node found)] at ends ⊢
      exact mirror_frame x _ mirror mirror.pictured ends (fun _ => rfl) rfl
        (learned_visible x.links fragment.links)
  | none =>
      have elements := attached_element x fragment found
      refine ⟨?_, ends, ?_, ?_⟩
      · have nodesGet := attach_get x fragment
        have made : x.attached fragment = ⟨x.surface.nodes.size, true, true, fragment.node.label⟩ := by
          simp only [attached, found]
          rfl
        have size : (x.attach fragment).2.nodes.size = x.nodes.size + 1 := by
          rw [attach_fresh x fragment found]
          simp only [NodeTable.markWired, Std.ExtTreeMap.size_modify, NodeTable.register]
          exact IdMap.insert_fresh_size x.nodes fragment.id _ found
        have surface : (x.attach fragment).2.surface = Surface.bind fragment.id x.surface.nodes.size
            (Surface.create fragment.node x.surface).2 := by
          rw [attach_fresh x fragment found]
          rfl
        rw [made] at nodesGet
        rw [surface]
        exact Pictured.add x.nodes _ x.surface.nodes _ mirror.pictured fragment.id _ _ found size nodesGet
          (Scene.create_size x.surface fragment.node) (Scene.create_get x.surface fragment.node) rfl rfl
          ⟨rfl, rfl, rfl, rfl⟩
      · intro s d
        rw [attached_between x mirror, attach_link_visible]
        exact mirror.drawn s d
      · intro c member
        have old : c ∈ x.surface.connectors := by
          rw [attach_fresh x fragment found] at member
          exact member
        obtain ⟨s, d, shown, source, target⟩ := mirror.linked c old
        have known (key : String) (element : Nat) (owned : x.element? key = some element) :
            (x.attach fragment).2.element? key = some element := by
          have other : key ≠ fragment.id := by
            rintro rfl
            simp [element?, found] at owned
          rw [elements, if_neg other, owned]
        exact ⟨s, d, by rw [attach_link_visible, shown], known s c.source source, known d c.target target⟩

theorem attach_hidden_mirror (x : Explorer α (Scene α) Nat) (fragment : Fragment)
    (fresh : x.nodes[fragment.id]? = none) (mirror : Mirror x) :
    Mirror ((x.attach fragment).2.hide fragment.id) := by
  have attached := attach_mirror x fragment mirror
  exact mirror_frame (x.attach fragment).2 _ attached
    (Scene.hidden_pictured _ _ attached.pictured fragment.id)
    (attach_hidden_ends_shown x fragment fresh mirror.ends)
    (set_visible_element _ _ fragment.id false (hide_nodes _ fragment.id))
    (Scene.hidden_connectors _ _ fragment.id) (fun _ _ => rfl)

theorem pending_mirror (x : Explorer α (Scene α) Nat) (pending : IdMap Pending) (mirror : Mirror x) :
    Mirror { x with pending } :=
  act_mirror x _ (.note x x.layout x.scatter pending x.failures x.issued) mirror

theorem growth_mirror (x y : Explorer α (Scene α) Nat) (growth : Growth x y) (mirror : Mirror x) : Mirror y := by
  cases growth with
  | acts _ steps => exact acts_keep Mirror act_mirror x y steps mirror
  | attach pending fragment _ after =>
      exact acts_keep Mirror act_mirror _ y after (attach_mirror _ fragment (pending_mirror x pending mirror))
  | hidden pending fragment fresh =>
      exact attach_hidden_mirror { x with pending } fragment fresh (pending_mirror x pending mirror)

theorem perform_mirror (x : Explorer α (Scene α) Nat) (op : Operation α Nat (Scene.Adjustment α))
    (mirror : Mirror x) : Mirror (x.perform op) := by
  rcases perform_cases x op with growth | ⟨id, collapsed⟩ | ⟨change, adjusted⟩
  · exact growth_mirror x _ growth mirror
  · rw [collapsed]
    exact collapse_mirror x id mirror
  · rw [adjusted]
    exact adjust_mirror x change mirror

theorem run_mirror (size : Size α) (settings : Settings α) (ops : List (Operation α Nat (Scene.Adjustment α))) :
    Mirror ((Explorer.new (Scene.empty size) settings).run ops) :=
  run_keeps Mirror perform_mirror _ ops (new_mirror size settings)

structure Mirrored (x : Explorer α (Scene α) Nat) : Prop where
  size : x.surface.nodes.size = x.nodes.size
  node : ∀ (id : String) (node : Node Nat), x.nodes[id]? = some node →
    ∃ shown, x.surface.nodes[node.element]? = some shown ∧ shown.id = id ∧ shown.label = node.label ∧
      shown.visible = node.visible ∧ shown.wired = true
  owner : ∀ element < x.surface.nodes.size, ∃! id, x.element? id = some element
  visible : ∀ link ∈ x.links.toList, link.visible = true → ∃ source target,
    x.element? link.source = some source ∧ x.element? link.destination = some target ∧
      (x.surface.joining source target).length = 1
  invisible : ∀ link ∈ x.links.toList, link.visible = false → ∀ source target,
    x.element? link.source = some source → x.element? link.destination = some target →
      x.surface.joining source target = []
  only : ∀ c ∈ x.surface.connectors, ∃! link, link ∈ x.links.toList ∧ link.visible = true ∧
    x.element? link.source = some c.source ∧ x.element? link.destination = some c.target

theorem between_joining (x : Explorer α (Scene α) Nat) (s d : String) (source target : Nat)
    (foundSource : x.element? s = some source) (foundTarget : x.element? d = some target) :
    x.between s d = x.surface.joining source target := by
  simp only [between, Scene.joining, foundSource, foundTarget]
  apply List.filter_congr
  intro c _
  simp only [Option.some_beq_some, Bool.beq_comm]

theorem visible_elements (x : Explorer α (Scene α) Nat) (mirror : Mirror x) (s d : String)
    (shown : x.links.isVisible s d = true) :
    ∃ source target, x.element? s = some source ∧ x.element? d = some target := by
  obtain ⟨sourceShown, targetShown⟩ := mirror.ends s d shown
  obtain ⟨source, foundSource, _⟩ := (NodeTable.visible_iff x.nodes s).mp sourceShown
  obtain ⟨target, foundTarget, _⟩ := (NodeTable.visible_iff x.nodes d).mp targetShown
  exact ⟨source.element, target.element, element_of_get x s source foundSource,
    element_of_get x d target foundTarget⟩

theorem connector_link (x : Explorer α (Scene α) Nat) (mirror : Mirror x) (c : Connector)
    (drawn : c ∈ x.surface.connectors) :
    ∃! link, link ∈ x.links.toList ∧ link.visible = true ∧
      x.element? link.source = some c.source ∧ x.element? link.destination = some c.target := by
  obtain ⟨s, d, shown, source, target⟩ := mirror.linked c drawn
  obtain ⟨link, found, visible⟩ := (LinkTable.visible_iff x.links s d).mp shown
  obtain ⟨rfl, rfl⟩ := LinkTable.get_ends x.links s d link found
  have known := ((LinkTable.get_some_iff x.links _ _ link).mp found).1
  refine ⟨link, ⟨known, visible, source, target⟩, ?_⟩
  rintro other ⟨otherKnown, _, otherSource, otherTarget⟩
  have same := LinkTable.get_of_mem x.links other otherKnown
  rw [element_unique x mirror _ _ c.source otherSource source,
    element_unique x mirror _ _ c.target otherTarget target, found] at same
  exact (Option.some.inj same).symm

theorem mirror_mirrored (x : Explorer α (Scene α) Nat) (mirror : Mirror x) : Mirrored x := by
  have drawn (link : Link) (known : link ∈ x.links.toList) :
      (x.between link.source link.destination).length = if link.visible then 1 else 0 := by
    rw [mirror.drawn, LinkTable.visible_of_get x.links _ _ link (LinkTable.get_of_mem x.links link known)]
  refine ⟨mirror.pictured.size, ?_, ?_, ?_, ?_, connector_link x mirror⟩
  · intro id node found
    obtain ⟨shown, read, shows⟩ := mirror.pictured.shows id node found
    exact ⟨shown, read, shows.id, shows.label, shows.visible, shows.wired⟩
  · intro element below
    obtain ⟨node, found, place⟩ := mirror.pictured.owner element x.surface.nodes[element]
      (Array.getElem?_eq_getElem below)
    have owned : x.element? x.surface.nodes[element].id = some element := by simp [element?, found, place]
    exact ⟨_, owned, fun other claims => element_unique x mirror other _ element claims owned⟩
  · intro link known visible
    have shown : x.links.isVisible link.source link.destination = true := by
      rw [LinkTable.visible_of_get x.links _ _ link (LinkTable.get_of_mem x.links link known), visible]
    obtain ⟨source, target, foundSource, foundTarget⟩ := visible_elements x mirror _ _ shown
    refine ⟨source, target, foundSource, foundTarget, ?_⟩
    rw [← between_joining x _ _ source target foundSource foundTarget, drawn link known, visible]
    rfl
  · intro link known invisible source target foundSource foundTarget
    rw [← between_joining x _ _ source target foundSource foundTarget]
    apply List.eq_nil_of_length_eq_zero
    rw [drawn link known, invisible]
    rfl

theorem scene_mirrors_tables (size : Size α) (settings : Settings α)
    (ops : List (Operation α Nat (Scene.Adjustment α))) :
    Mirrored ((Explorer.new (Scene.empty size) settings).run ops) :=
  mirror_mirrored _ (run_mirror size settings ops)

end Explorer

end GraphBrowser
