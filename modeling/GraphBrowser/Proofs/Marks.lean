import GraphBrowser.Surface.Drawing

set_option autoImplicit false

namespace GraphBrowser

variable {α : Type}

inductive Mark (α : Type) where
  | outline (path : List (DrawCall α))
  | area (path : List (DrawCall α))
  | text (words : String) (position : Point α)
  | rectangle (corner : Point α) (size : Size α)

def Mark.isText : Mark α → Bool
  | .text _ _ => true
  | _ => false

namespace DrawCall

def isText : DrawCall α → Bool
  | .fillText _ _ => true
  | _ => false

def isArc : DrawCall α → Bool
  | .arc _ _ _ _ => true
  | _ => false

def isBracket : DrawCall α → Bool
  | .save => true
  | .restore => true
  | _ => false

def extension : DrawCall α → List (DrawCall α)
  | .closePath => [.closePath]
  | .moveTo p => [.moveTo p]
  | .lineTo p => [.lineTo p]
  | .quadraticCurveTo control goal => [.quadraticCurveTo control goal]
  | .arc center radius start stop => [.arc center radius start stop]
  | _ => []

-- What appears when the path so far is this one.
def mark (path : List (DrawCall α)) : DrawCall α → List (Mark α)
  | .stroke => [.outline path]
  | .fill => [.area path]
  | .fillText words position => [.text words position]
  | .fillRect corner size => [.rectangle corner size]
  | _ => []

def extend (path : List (DrawCall α)) : DrawCall α → List (DrawCall α)
  | .beginPath => []
  | call => path ++ call.extension

def marks (path : List (DrawCall α)) : List (DrawCall α) → List (Mark α)
  | [] => []
  | call :: rest => call.mark path ++ marks (call.extend path) rest

-- No path that was built before shows in the marks of these calls.
def Fresh (calls : List (DrawCall α)) : Prop := ∀ path, marks path calls = marks [] calls

theorem marks_append (path : List (DrawCall α)) (calls rest : List (DrawCall α)) (fresh : Fresh rest) :
    marks path (calls ++ rest) = marks path calls ++ marks [] rest := by
  induction calls generalizing path with
  | nil => exact fresh path
  | cons call calls ih => rw [List.cons_append, marks, marks, ih, List.append_assoc]

theorem fresh_append (calls rest : List (DrawCall α)) (first : Fresh calls) (second : Fresh rest) :
    Fresh (calls ++ rest) := by
  intro path
  rw [marks_append path calls rest second, marks_append [] calls rest second, first path]

theorem fresh_flat {β : Type} (draw : β → List (DrawCall α)) (items : List β) (fresh : ∀ item, Fresh (draw item)) :
    Fresh (items.flatMap draw) := by
  induction items with
  | nil => exact fun _ => rfl
  | cons item rest ih => exact fresh_append (draw item) (rest.flatMap draw) (fresh item) ih

theorem marks_flat {β : Type} (draw : β → List (DrawCall α)) (items : List β) (fresh : ∀ item, Fresh (draw item)) :
    marks [] (items.flatMap draw) = items.flatMap fun item => marks [] (draw item) := by
  induction items with
  | nil => rfl
  | cons item rest ih =>
      rw [List.flatMap_cons, marks_append [] _ _ (fresh_flat draw rest fresh), ih, List.flatMap_cons]

theorem mark_texts (path : List (DrawCall α)) (call : DrawCall α) :
    (call.mark path).countP Mark.isText = [call].countP isText := by
  cases call <;> rfl

theorem marks_texts (path : List (DrawCall α)) (calls : List (DrawCall α)) :
    (marks path calls).countP Mark.isText = calls.countP isText := by
  induction calls generalizing path with
  | nil => rfl
  | cons call calls ih =>
      rw [marks, List.countP_append, ih, mark_texts, ← List.countP_append, List.singleton_append]

end DrawCall

namespace Drawing

variable [Scalar α]

def discMarks (n : SceneNode α) : List (Mark α) :=
  [.area [circle n.position], .text n.caption ⟨n.position.x + nodeRadius + 3.0, n.position.y + 3.0⟩]

theorem node_fresh (n : SceneNode α) (element : Nat) (k : α) : DrawCall.Fresh (node n element k) := by
  intro path
  rw [node]
  split
  next => rfl
  next => rfl

theorem node_marks (n : SceneNode α) (element : Nat) (k : α) :
    DrawCall.marks [] (node n element k) = if n.visible then discMarks n else [] := by
  rw [node]
  split
  next => rfl
  next => rfl

theorem arrow_near (start goal : Point α) (words : String) (k : α) (near : start.distance goal < 0.001) :
    arrow start goal words k = [] := if_pos near

theorem arrow_far (start goal : Point α) (words : String) (k : α) (far : ¬ start.distance goal < 0.001) :
    ∃ control head place, (∀ call ∈ head, call.isArc = false) ∧ ∀ path, DrawCall.marks path (arrow start goal words k) =
      [.outline [.moveTo start, .quadraticCurveTo control goal], .area head, .text words place] := by
  have reach : ¬ Scalar.length (goal.x - start.x) (goal.y - start.y) < 0.001 := far
  rw [arrow]
  dsimp only
  rw [if_neg reach]
  refine ⟨_, _, _, ?_, fun _ => rfl⟩
  simp [DrawCall.extension, DrawCall.isArc]

theorem connector_marks (s : Scene α) (c : Connector) (source target : SceneNode α)
    (foundSource : s.nodes[c.source]? = some source) (foundTarget : s.nodes[c.target]? = some target)
    (sourceShown : source.visible = true) (targetShown : target.visible = true) (path : List (DrawCall α)) :
    DrawCall.marks path (connector s c) = DrawCall.marks (path ++ [] ++ [] ++ [])
      (if c.source = c.target then loop source.position c.label s.view.k
        else arrow source.position target.position c.label s.view.k) := by
  simp only [connector, foundSource, foundTarget, sourceShown, targetShown]
  rfl

theorem connector_hidden (s : Scene α) (c : Connector)
    (hidden : ¬ ((s.nodes[c.source]?).any SceneNode.visible = true ∧ (s.nodes[c.target]?).any SceneNode.visible = true)) :
    connector s c = [] := by
  rw [connector]
  split
  next source target foundSource foundTarget =>
    rw [if_neg]
    simpa [foundSource, foundTarget] using hidden
  next => rfl

-- What a line from one place to another leaves: a circle above a node that is linked to itself, a curve
-- with an arrow head between places that are apart, or nothing.
inductive Line (start goal : Point α) (words : String) : Bool → List (Mark α) → Prop where
  | loop (place : Point α) : Line start goal words true
      [.outline [circle ⟨start.x, start.y - nodeRadius * 2.0⟩], .text words place]
  | curve (control : Point α) (head : List (DrawCall α)) (place : Point α) (far : ¬ start.distance goal < 0.001)
      (arcless : ∀ call ∈ head, call.isArc = false) : Line start goal words false
      [.outline [.moveTo start, .quadraticCurveTo control goal], .area head, .text words place]
  | none (near : start.distance goal < 0.001) : Line start goal words false []

theorem connector_line (s : Scene α) (c : Connector) (source target : SceneNode α)
    (foundSource : s.nodes[c.source]? = some source) (foundTarget : s.nodes[c.target]? = some target)
    (sourceShown : source.visible = true) (targetShown : target.visible = true) :
    ∃ line, Line source.position target.position c.label (c.source == c.target) line ∧
      ∀ path, DrawCall.marks path (connector s c) = line := by
  have marks := connector_marks s c source target foundSource foundTarget sourceShown targetShown
  by_cases same : c.source = c.target
  · rw [beq_iff_eq.mpr same]
    simp only [if_pos same] at marks
    exact ⟨_, .loop _, marks⟩
  · rw [beq_eq_false_iff_ne.mpr same]
    simp only [if_neg same] at marks
    by_cases near : source.position.distance target.position < 0.001
    · simp only [arrow_near _ _ _ _ near] at marks
      exact ⟨[], .none near, marks⟩
    · obtain ⟨control, head, place, arcless, curve⟩ :=
        arrow_far source.position target.position c.label s.view.k near
      exact ⟨_, .curve control head place near arcless, fun path => (marks path).trans (curve _)⟩

theorem connector_fresh (s : Scene α) (c : Connector) : DrawCall.Fresh (connector s c) := by
  intro path
  by_cases shown : (s.nodes[c.source]?).any SceneNode.visible = true ∧ (s.nodes[c.target]?).any SceneNode.visible = true
  · obtain ⟨source, foundSource, sourceShown⟩ := (Option.any_eq_true _ _).mp shown.1
    obtain ⟨target, foundTarget, targetShown⟩ := (Option.any_eq_true _ _).mp shown.2
    obtain ⟨line, _, marks⟩ := connector_line s c source target foundSource foundTarget sourceShown targetShown
    rw [marks path, marks []]
  · rw [connector_hidden s c shown]
    rfl

theorem line_texts (start goal : Point α) (words : String) (loop : Bool) (line : List (Mark α))
    (drawn : Line start goal words loop line) :
    line.countP Mark.isText = if loop = false ∧ start.distance goal < 0.001 then 0 else 1 := by
  cases drawn with
  | loop place => rfl
  | curve control head place far arcless => rw [if_neg (fun near => far near.2)]; rfl
  | none near => rw [if_pos ⟨rfl, near⟩]; rfl

theorem arrow_unbracketed (start goal : Point α) (words : String) (k : α) :
    (arrow start goal words k).all (!·.isBracket) = true := by
  rw [arrow]
  dsimp only
  split
  next => rfl
  next => rfl

theorem connector_unbracketed (s : Scene α) (c : Connector) : (connector s c).all (!·.isBracket) = true := by
  rw [connector]
  split
  next source target _ _ =>
    split
    next =>
      dsimp only
      by_cases same : c.source = c.target
      · rw [if_pos same]
        rfl
      · rw [if_neg same]
        exact arrow_unbracketed source.position target.position c.label s.view.k
    next => rfl
  next => rfl

theorem node_unbracketed (n : SceneNode α) (element : Nat) (k : α) : (node n element k).all (!·.isBracket) = true := by
  rw [node]
  split
  next => rfl
  next => rfl

def shown {α : Type} (s : Scene α) : List (SceneNode α × Nat) := s.nodes.toList.zipIdx.filter (·.1.visible)

theorem shown_ascending {α : Type} (s : Scene α) : (shown s).Pairwise fun a b => a.2 < b.2 := by
  apply List.Pairwise.filter
  have indices : s.nodes.toList.zipIdx.map Prod.snd = List.range' 0 s.nodes.toList.length := List.zipIdx_map_snd 0 _
  exact List.pairwise_map.mp (indices ▸ List.pairwise_lt_range')

theorem nodes_marks (s : Scene α) :
    DrawCall.marks [] (s.nodes.toList.zipIdx.flatMap fun (n, element) => node n element s.view.k) =
      (shown s).flatMap fun item => discMarks item.1 := by
  rw [DrawCall.marks_flat _ _ fun (n, element) => node_fresh n element s.view.k, shown]
  induction s.nodes.toList.zipIdx with
  | nil => rfl
  | cons item rest ih =>
      rw [List.flatMap_cons, ih, node_marks, List.filter_cons]
      split
      next => rfl
      next => rfl

def body (s : Scene α) : List (DrawCall α) :=
  s.connectors.flatMap (connector s) ++ s.nodes.toList.zipIdx.flatMap fun (n, element) => node n element s.view.k

def opening (s : Scene α) : List (DrawCall α) :=
  background s.size ++ [.save, .translate ⟨s.view.x, s.view.y⟩, .scale s.view.k s.view.k]

theorem draw_framed (s : Scene α) : s.draw = opening s ++ body s ++ [.restore] := by
  rw [Scene.draw, body, opening, List.append_assoc _ _ (List.flatMap _ _)]

theorem body_unbracketed (s : Scene α) : ∀ call ∈ body s, call.isBracket = false := by
  intro call member
  rcases List.mem_append.mp member with line | disc
  · obtain ⟨c, _, drawn⟩ := List.mem_flatMap.mp line
    simpa using List.all_eq_true.mp (connector_unbracketed s c) call drawn
  · obtain ⟨⟨n, element⟩, _, drawn⟩ := List.mem_flatMap.mp disc
    simpa using List.all_eq_true.mp (node_unbracketed n element s.view.k) call drawn

theorem body_marks (s : Scene α) : DrawCall.marks [] (body s) =
    (s.connectors.flatMap fun c => DrawCall.marks [] (connector s c)) ++
      (shown s).flatMap fun item => discMarks item.1 := by
  have nodesFresh : DrawCall.Fresh (s.nodes.toList.zipIdx.flatMap fun (n, element) => node n element s.view.k) :=
    DrawCall.fresh_flat _ _ fun (n, element) => node_fresh n element s.view.k
  rw [body, DrawCall.marks_append [] _ _ nodesFresh, DrawCall.marks_flat _ _ (connector_fresh s), nodes_marks]

theorem draw_texts (s : Scene α) : s.draw.countP DrawCall.isText = (body s).countP DrawCall.isText := by
  have quiet : (opening s).countP DrawCall.isText = 0 := rfl
  have last : ([.restore] : List (DrawCall α)).countP DrawCall.isText = 0 := rfl
  rw [draw_framed, List.countP_append, List.countP_append, quiet, last, Nat.zero_add, Nat.add_zero]

end Drawing

end GraphBrowser
