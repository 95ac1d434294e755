import GraphBrowser.Proofs.Marks
import GraphBrowser.Proofs.Matching
import GraphBrowser.Proofs.Standing

set_option autoImplicit false

namespace GraphBrowser

namespace Explorer

variable {α : Type} [Coordinate α]

def place (x : Explorer α (Scene α) Nat) (id : String) : Point α :=
  ((x.element? id).map (Surface.offset x.surface)).getD Point.origin

def isShort (x : Explorer α (Scene α) Nat) (l : Link) : Bool :=
  !l.isLoop && decide ((x.place l.source).distance (x.place l.destination) < 0.001)

def nodeMarks (x : Explorer α (Scene α) Nat) (entry : String × Node Nat) : List (Mark α) :=
  let p := x.place entry.1
  [.area [Drawing.circle p],
    .text (entry.2.label.getD entry.1) ⟨p.x + Drawing.nodeRadius + 3.0, p.y + 3.0⟩]

structure Bears (x : Explorer α (Scene α) Nat) (entry : String × Node Nat) (item : SceneNode α × Nat) : Prop where
  known : x.nodes[entry.1]? = some entry.2
  element : entry.2.element = item.2
  placed : x.surface.nodes[item.2]? = some item.1
  shows : item.1.Shows entry.1 entry.2

structure Joins (x : Explorer α (Scene α) Nat) (l : Link) (c : Connector) : Prop where
  drawn : c ∈ x.surface.connectors
  known : l ∈ x.links.toList
  visible : l.visible = true
  source : x.element? l.source = some c.source
  target : x.element? l.destination = some c.target

theorem bears_place (x : Explorer α (Scene α) Nat) (entry : String × Node Nat) (item : SceneNode α × Nat)
    (bears : Bears x entry item) : x.place entry.1 = item.1.position := by
  rw [place, element_of_get x entry.1 entry.2 bears.known, bears.element]
  simp [Surface.offset, bears.placed]

theorem bears_marks (x : Explorer α (Scene α) Nat) (entry : String × Node Nat) (item : SceneNode α × Nat)
    (bears : Bears x entry item) : Drawing.discMarks item.1 = x.nodeMarks entry := by
  rw [Drawing.discMarks, nodeMarks, bears_place x entry item bears, SceneNode.caption, bears.shows.label,
    bears.shows.id]

theorem shown_borne (x : Explorer α (Scene α) Nat) (mirror : Mirror x) :
    ∃ entries, List.Forall₂ x.Bears entries (Drawing.shown x.surface) := by
  apply exists_matching
  intro item member
  obtain ⟨n, element⟩ := item
  have placed : x.surface.nodes[element]? = some n := by
    have listed := List.mem_zipIdx_iff_getElem?.mp (List.mem_filter.mp member).1
    rwa [Array.getElem?_toList] at listed
  obtain ⟨node, known, rfl⟩ := mirror.pictured.owner element n placed
  obtain ⟨shown, read, shows⟩ := mirror.pictured.shows n.id node known
  rw [placed] at read
  obtain rfl := Option.some.inj read
  exact ⟨(n.id, node), known, rfl, placed, shows⟩

theorem borne_shown (x : Explorer α (Scene α) Nat) (mirror : Mirror x) (entries : List (String × Node Nat))
    (borne : List.Forall₂ x.Bears entries (Drawing.shown x.surface)) : entries.Perm x.nodes.shown := by
  have ascending : entries.Pairwise fun a b => a.2.element < b.2.element :=
    matching_pairwise borne (Drawing.shown_ascending x.surface) fun a b c d first second less => by
      rwa [first.element, second.element]
  have distinct : entries.Nodup := by
    refine ascending.imp ?_
    intro a b less same
    rw [same] at less
    exact Nat.lt_irrefl _ less
  have shownDistinct : x.nodes.shown.Nodup := by
    apply List.Nodup.filter
    refine (Std.ExtTreeMap.distinct_keys_toList (t := x.nodes)).imp ?_
    intro a b apart same
    exact apart ((id_compare a.1 b.1).mpr (same ▸ rfl))
  rw [List.perm_ext_iff_of_nodup distinct shownDistinct]
  intro entry
  obtain ⟨id, node⟩ := entry
  rw [NodeTable.mem_shown]
  constructor
  · intro member
    obtain ⟨item, shown, bears⟩ := matching_left borne _ member
    have visible := (List.mem_filter.mp shown).2
    exact ⟨bears.known, bears.shows.visible.symm.trans visible⟩
  · intro found
    obtain ⟨known, visible⟩ := found
    obtain ⟨n, placed, shows⟩ := mirror.pictured.shows id node known
    have listed : (n, node.element) ∈ Drawing.shown x.surface := by
      refine List.mem_filter.mpr ⟨?_, shows.visible.trans visible⟩
      rw [List.mem_zipIdx_iff_getElem?, Array.getElem?_toList, placed]
    obtain ⟨entry, member, bears⟩ := matching_right borne _ listed
    have same : entry.1 = id := bears.shows.id.symm.trans shows.id
    have record := bears.known
    rw [same, known] at record
    have pair : entry = (id, node) := Prod.ext same (Option.some.inj record).symm
    rwa [pair] at member

theorem borne_marks (x : Explorer α (Scene α) Nat) (entries : List (String × Node Nat))
    (items : List (SceneNode α × Nat)) (borne : List.Forall₂ x.Bears entries items) :
    (items.flatMap fun item => Drawing.discMarks item.1) = entries.flatMap x.nodeMarks := by
  induction borne with
  | nil => rfl
  | cons first _ ih => rw [List.flatMap_cons, List.flatMap_cons, bears_marks x _ _ first, ih]

theorem drawn_joined (x : Explorer α (Scene α) Nat) (mirror : Mirror x) :
    ∃ links, List.Forall₂ x.Joins links x.surface.connectors := by
  apply exists_matching
  intro c drawn
  obtain ⟨l, ⟨known, visible, source, target⟩, _⟩ := connector_link x mirror c drawn
  exact ⟨l, drawn, known, visible, source, target⟩

theorem joined_unique (x : Explorer α (Scene α) Nat) (mirror : Mirror x) (l m : Link) (c d : Connector)
    (first : x.Joins l c) (second : x.Joins m d) (ends : c.ends = d.ends) : l = m := by
  obtain ⟨source, target⟩ := Prod.mk.inj ends
  have sources := element_unique x mirror l.source m.source c.source first.source (source ▸ second.source)
  have targets := element_unique x mirror l.destination m.destination c.target first.target (target ▸ second.target)
  have found := LinkTable.get_of_mem x.links l first.known
  rw [sources, targets, LinkTable.get_of_mem x.links m second.known] at found
  exact (Option.some.inj found).symm

theorem joined_shown (x : Explorer α (Scene α) Nat) (mirror : Mirror x) (links : List Link)
    (joined : List.Forall₂ x.Joins links x.surface.connectors) : links.Perm x.links.shown := by
  have distinct : links.Nodup := by
    refine matching_pairwise joined (List.pairwise_map.mp (connectors_distinct x mirror)) ?_
    rintro l m c d first second apart rfl
    apply apart
    rw [Connector.ends, Connector.ends, Option.some.inj (first.source.symm.trans second.source),
      Option.some.inj (first.target.symm.trans second.target)]
  have shownDistinct : x.links.shown.Nodup := (List.Nodup.of_map _ x.links.distinct).filter _
  rw [List.perm_ext_iff_of_nodup distinct shownDistinct]
  intro l
  rw [LinkTable.shown, List.mem_filter]
  constructor
  · intro member
    obtain ⟨c, _, joins⟩ := matching_left joined l member
    exact ⟨joins.known, joins.visible⟩
  · intro found
    obtain ⟨known, visible⟩ := found
    obtain ⟨first, second, source, target, single⟩ := (mirror_mirrored x mirror).visible l known visible
    obtain ⟨c, met⟩ := List.exists_mem_of_length_pos (single ▸ Nat.zero_lt_one)
    obtain ⟨drawn, ends⟩ := List.mem_filter.mp met
    simp only [Bool.and_eq_true, beq_iff_eq] at ends
    obtain ⟨m, member, joins⟩ := matching_right joined c drawn
    have here : x.Joins l c := ⟨drawn, known, visible, ends.1 ▸ source, ends.2 ▸ target⟩
    have same : m = l := joined_unique x mirror m l c c joins here rfl
    rwa [← same]

-- What a visible link leaves: one line between the places of its ends and one text, or nothing if it is short.
def Leaves (x : Explorer α (Scene α) Nat) (l : Link) (line : List (Mark α)) : Prop :=
  ∃ c, x.Joins l c ∧ Drawing.Line (x.place l.source) (x.place l.destination) c.label l.isLoop line

theorem visible_placed (x : Explorer α (Scene α) Nat) (mirror : Mirror x) (id : String) (element : Nat)
    (visible : x.nodes.isVisible id = true) (owned : x.element? id = some element) :
    ∃ n, x.surface.nodes[element]? = some n ∧ n.visible = true ∧ x.place id = n.position := by
  obtain ⟨node, known, shown⟩ := (NodeTable.visible_iff x.nodes id).mp visible
  obtain ⟨n, placed, shows⟩ := mirror.pictured.shows id node known
  have same := Option.some.inj ((element_of_get x id node known).symm.trans owned)
  rw [same] at placed
  exact ⟨n, placed, shows.visible.trans shown, bears_place x (id, node) (n, element) ⟨known, same, placed, shows⟩⟩

theorem joins_leaves (x : Explorer α (Scene α) Nat) (mirror : Mirror x) (l : Link) (c : Connector)
    (joins : x.Joins l c) :
    x.Leaves l (DrawCall.marks [] (Drawing.connector x.surface c)) := by
  have shown : x.links.isVisible l.source l.destination = true := by
    rw [LinkTable.visible_of_get x.links _ _ l (LinkTable.get_of_mem x.links l joins.known), joins.visible]
  obtain ⟨sourceShown, targetShown⟩ := mirror.ends _ _ shown
  obtain ⟨source, foundSource, sourceVisible, sourcePlace⟩ :=
    visible_placed x mirror l.source c.source sourceShown joins.source
  obtain ⟨target, foundTarget, targetVisible, targetPlace⟩ :=
    visible_placed x mirror l.destination c.target targetShown joins.target
  obtain ⟨line, drawnLine, marks⟩ :=
    Drawing.connector_line x.surface c source target foundSource foundTarget sourceVisible targetVisible
  have loop : (c.source == c.target) = l.isLoop := by
    rw [Bool.eq_iff_iff, beq_iff_eq, Link.isLoop, beq_iff_eq]
    constructor
    · intro same
      exact element_unique x mirror _ _ c.source joins.source (same ▸ joins.target)
    · intro same
      exact Option.some.inj (joins.source.symm.trans (same ▸ joins.target))
  rw [loop, ← sourcePlace, ← targetPlace] at drawnLine
  rw [marks]
  exact ⟨c, joins, drawnLine⟩

theorem leaves_texts (x : Explorer α (Scene α) Nat) (l : Link) (line : List (Mark α)) (leaves : x.Leaves l line) :
    line.countP Mark.isText = if x.isShort l then 0 else 1 := by
  obtain ⟨c, _, drawn⟩ := leaves
  rw [Drawing.line_texts _ _ _ _ _ drawn, isShort]
  simp

theorem lines_texts (x : Explorer α (Scene α) Nat) (links : List Link) (lines : List (List (Mark α)))
    (left : List.Forall₂ x.Leaves links lines) :
    lines.flatten.countP Mark.isText = links.countP (!x.isShort ·) := by
  induction left with
  | nil => rfl
  | cons first _ ih =>
      rw [List.flatten_cons, List.countP_append, ih, leaves_texts x _ _ first, List.countP_cons, Nat.add_comm]
      cases x.isShort _ <;> rfl

theorem nodes_texts (x : Explorer α (Scene α) Nat) (entries : List (String × Node Nat)) :
    (entries.flatMap x.nodeMarks).countP Mark.isText = entries.length := by
  induction entries with
  | nil => rfl
  | cons entry rest ih =>
      rw [List.flatMap_cons, List.countP_append, ih, List.length_cons, Nat.add_comm]
      rfl

-- These links and then these nodes, in this order, are what the calls show, all with the view of the scene in
-- place, between the only save and the only restore.
structure Depicts (x : Explorer α (Scene α) Nat) (links : List Link) (entries : List (String × Node Nat))
    (calls : List (DrawCall α)) : Prop where
  pictured : ∃ body lines, calls = Drawing.background x.surface.size ++
      [.save, .translate ⟨x.surface.view.x, x.surface.view.y⟩, .scale x.surface.view.k x.surface.view.k] ++ body ++
      [.restore] ∧
    (∀ call ∈ Drawing.background x.surface.size ++ body, call.isBracket = false) ∧
    List.Forall₂ x.Leaves links lines ∧ DrawCall.marks [] body = lines.flatten ++ entries.flatMap x.nodeMarks
  joined : List.Forall₂ x.Joins links x.surface.connectors
  visibleLinks : links.Perm x.links.shown
  visibleNodes : entries.Perm x.nodes.shown
  ascending : entries.Pairwise fun a b => a.2.element < b.2.element
  texts : calls.countP DrawCall.isText = x.nodes.shown.length + x.links.shown.countP (!x.isShort ·)

theorem mirror_depicts (x : Explorer α (Scene α) Nat) (mirror : Mirror x) (links : List Link)
    (joined : List.Forall₂ x.Joins links x.surface.connectors) : ∃ entries, Depicts x links entries x.surface.draw := by
  obtain ⟨entries, borne⟩ := shown_borne x mirror
  have shownLinks := joined_shown x mirror links joined
  have shownNodes := borne_shown x mirror entries borne
  let lines := x.surface.connectors.map fun c => DrawCall.marks [] (Drawing.connector x.surface c)
  have left : List.Forall₂ x.Leaves links lines :=
    List.forall₂_map_right_iff.mpr (joined.imp fun l c joins => joins_leaves x mirror l c joins)
  have marks : DrawCall.marks [] (Drawing.body x.surface) = lines.flatten ++ entries.flatMap x.nodeMarks := by
    rw [Drawing.body_marks, List.flatMap_def, borne_marks x entries _ borne]
  refine ⟨entries, ⟨Drawing.body x.surface, lines, Drawing.draw_framed x.surface, ?_, left, marks⟩, joined,
    shownLinks, shownNodes, ?_, ?_⟩
  · intro call member
    rcases List.mem_append.mp member with behind | drawn
    · simp only [Drawing.background, List.mem_cons, List.not_mem_nil, or_false] at behind
      rcases behind with rfl | rfl <;> rfl
    · exact Drawing.body_unbracketed x.surface call drawn
  · exact matching_pairwise borne (Drawing.shown_ascending x.surface) fun a b c d first second less => by
      rwa [first.element, second.element]
  · rw [Drawing.draw_texts, ← DrawCall.marks_texts [], marks, List.countP_append, lines_texts x links lines left,
      nodes_texts, shownNodes.length_eq, shownLinks.countP_eq, Nat.add_comm]

-- Whatever was done to an explorer and its scene, the picture is that of its visible nodes and links. A link
-- that has been visible for longer is drawn first.
theorem picture_is_visible_subgraph (size : Size α) (settings : Settings α)
    (ops : List (Operation α Nat (Scene.Adjustment α))) :
    let start : Explorer α (Scene α) Nat := .new (Scene.empty size) settings
    let x := start.run ops
    ∃ links entries, Depicts x links entries x.surface.draw ∧ links.Pairwise fun l m =>
      ∀ before after, ops = before ++ after → VisibleSince (start.run before) after m →
        VisibleSince (start.run before) after l := by
  intro start x
  have begun : Mirror start := new_mirror size settings
  have mirror : Mirror x := run_mirror size settings ops
  obtain ⟨links, joined⟩ := drawn_joined x mirror
  obtain ⟨entries, depicts⟩ := mirror_depicts x mirror links joined
  refine ⟨links, entries, depicts, ?_⟩
  exact matching_pairwise joined (connectors_outlast start begun ops) fun l m c d first second outlasts =>
    outlasts_visible start begun ops l m c d first.source first.target second.source second.target outlasts

end Explorer

end GraphBrowser
