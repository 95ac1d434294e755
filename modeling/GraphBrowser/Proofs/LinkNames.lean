import GraphBrowser.Proofs.Growth

set_option autoImplicit false

namespace GraphBrowser

namespace LinkTable

def names (t : LinkTable) (s d : String) : List String := ((t.get? s d).map Link.names).getD []

theorem names_of_get (t : LinkTable) (s d : String) (l : Link) (found : t.get? s d = some l) :
    t.names s d = l.names := by
  simp [names, found]

theorem register_names (t : LinkTable) (source destination name : String) (s d : String) :
    (t.register source destination name).2.names s d =
      if (s = source ∧ d = destination) ∧ name ∉ t.names s d then t.names s d ++ [name] else t.names s d := by
  rw [names, register_get]
  by_cases here : s = source ∧ d = destination
  · obtain ⟨rfl, rfl⟩ := here
    cases found : t.get? s d with
    | none => simp [named, names, found]
    | some l =>
        by_cases known : name ∈ l.names
        · simp [named, names, found, known]
        · simp [named, names, found, known, Link.addName]
  · simp [here, names]

theorem connect_names (t : LinkTable) (source destination : String) (s d : String) :
    (t.connect source destination).2.names s d = t.names s d := by
  rw [names, connect_get]
  by_cases here : s = source ∧ d = destination
  · simp [here, names, Function.comp_def]
  · simp [here, names]

theorem disconnect_names (t : LinkTable) (id s d : String) :
    (t.disconnectAll id).2.names s d = t.names s d := by
  rw [names, disconnect_get, names]
  cases found : t.get? s d with
  | none => rfl
  | some l => by_cases touched : s = id ∨ d = id <;> simp [touched]

inductive Edit : LinkTable → LinkTable → Prop where
  | register (t : LinkTable) (source destination name : String) : Edit t (t.register source destination name).2
  | connect (t : LinkTable) (source destination : String) : Edit t (t.connect source destination).2
  | disconnect (t : LinkTable) (id : String) : Edit t (t.disconnectAll id).2

abbrev Edits : LinkTable → LinkTable → Prop := Relation.ReflTransGen Edit

theorem edit_names (t u : LinkTable) (edit : Edit t u) (s d : String) : t.names s d <+: u.names s d := by
  cases edit with
  | register source destination name =>
      rw [register_names]
      split
      next => exact List.prefix_append _ [name]
      next => exact List.prefix_refl _
  | connect source destination =>
      simp only [connect_names, List.prefix_refl]
  | disconnect id =>
      simp only [disconnect_names, List.prefix_refl]

theorem edits_names (t u : LinkTable) (edits : Edits t u) (s d : String) : t.names s d <+: u.names s d := by
  induction edits with
  | refl => exact List.prefix_refl _
  | tail _ last ih => exact ih.trans (edit_names _ _ last s d)

def Named (t : LinkTable) : Prop := ∀ s d l, t.get? s d = some l → l.names ≠ []

theorem named_names (name source destination : String) (old : Option Link)
    (worded : ∀ l, old = some l → l.names ≠ []) : (named name source destination old).names ≠ [] := by
  cases old with
  | none => exact List.cons_ne_nil name []
  | some l =>
      by_cases known : name ∈ l.names
      · simpa only [named, if_pos known] using worded l rfl
      · simp [named, known, Link.addName]

theorem edit_named (t u : LinkTable) (edit : Edit t u) (worded : Named t) : Named u := by
  intro s d l found
  cases edit with
  | register source destination name =>
      rw [register_get] at found
      split at found
      next =>
        cases found
        exact named_names name source destination _ (worded source destination)
      next => exact worded s d l found
  | connect source destination =>
      rw [connect_get] at found
      split at found
      next =>
        obtain ⟨before, old, rfl⟩ := Option.map_eq_some_iff.mp found
        exact worded s d before old
      next => exact worded s d l found
  | disconnect id =>
      rw [disconnect_get] at found
      obtain ⟨before, old, rfl⟩ := Option.map_eq_some_iff.mp found
      split
      next => exact worded s d before old
      next => exact worded s d before old

theorem edits_named (t u : LinkTable) (edits : Edits t u) (worded : Named t) : Named u := by
  induction edits with
  | refl => exact worded
  | tail _ last ih => exact edit_named _ _ last ih

end LinkTable

-- A longer list of names makes a longer text, so the text tells whether names came in addition.
theorem text_inj (old new : List String) (worded : old ≠ []) (grown : old <+: new)
    (same : ",".intercalate old = ",".intercalate new) : old = new := by
  obtain ⟨more, rfl⟩ := grown
  cases more with
  | nil => exact (List.append_nil old).symm
  | cons name rest =>
      rw [String.intercalate_append_of_ne_nil worded (List.cons_ne_nil name rest)] at same
      have lengths := congrArg String.length same
      simp only [String.length_append] at lengths
      have comma : ",".length = 1 := rfl
      omega

namespace Explorer

variable {α σ ε : Type} [Coordinate α] [Surface σ α ε]

theorem act_edits (x y : Explorer α σ ε) (act : Act x y) : LinkTable.Edits x.links y.links := by
  cases act with
  | reveal id => exact .refl
  | join s d =>
      rcases join_cases x s d with idle | ⟨source, destination, link, _, _, _, _, _, _, joined⟩
      · rw [idle]
      · rw [joined]
        exact .single (.connect x.links s d)
  | move element offset => exact .refl
  | note layout scatter pending failures issued => exact .refl

theorem acts_edits (x y : Explorer α σ ε) (acts : Acts x y) : LinkTable.Edits x.links y.links := by
  induction acts with
  | refl => exact .refl
  | tail _ last ih => exact ih.trans (act_edits _ _ last)

theorem learned_edits (t : LinkTable) (triples : List LinkTriple) : LinkTable.Edits t (learned t triples) := by
  induction triples generalizing t with
  | nil => exact .refl
  | cons l rest ih => exact .head (.register t l.source l.destination l.name) (ih _)

theorem collapse_edits (x : Explorer α σ ε) (id : String) : LinkTable.Edits x.links (x.collapse id).2.links := by
  cases known : x.nodes[id]? with
  | none => rw [collapse_unknown x id known]
  | some node =>
      rw [collapse_known x id node known]
      exact .single (.disconnect x.links id)

variable [DecidableEq ε]

theorem attach_edits (x : Explorer α σ ε) (fragment : Fragment) :
    LinkTable.Edits x.links (x.attach fragment).2.links := by
  rw [attach_links]
  exact learned_edits x.links fragment.links

theorem growth_edits (x y : Explorer α σ ε) (growth : Growth x y) : LinkTable.Edits x.links y.links := by
  cases growth with
  | acts _ steps => exact acts_edits x y steps
  | attach pending fragment _ after => exact (attach_edits { x with pending } fragment).trans (acts_edits _ y after)
  | hidden pending fragment fresh => exact attach_edits { x with pending } fragment

variable {δ : Type} [Adjustable σ δ]

theorem perform_edits (x : Explorer α σ ε) (op : Operation α ε δ) :
    LinkTable.Edits x.links (x.perform op).links := by
  rcases perform_cases x op with growth | ⟨id, collapsed⟩ | ⟨change, adjusted⟩
  · exact growth_edits x _ growth
  · rw [collapsed]
    exact collapse_edits x id
  · rw [adjusted]

theorem run_edits (x : Explorer α σ ε) (ops : List (Operation α ε δ)) :
    LinkTable.Edits x.links (x.run ops).links := by
  induction ops generalizing x with
  | nil => exact .refl
  | cons op rest ih => exact (perform_edits x op).trans (ih (x.perform op))

theorem run_named (surface : σ) (settings : Settings α) (ops : List (Operation α ε δ)) :
    ((Explorer.new surface settings : Explorer α σ ε).run ops).links.Named := by
  refine LinkTable.edits_named _ _ (run_edits _ ops) ?_
  intro s d l found
  cases found

end Explorer

end GraphBrowser
