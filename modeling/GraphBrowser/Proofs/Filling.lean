import GraphBrowser.Fragment.Reader

set_option autoImplicit false

namespace GraphBrowser

-- Whatever has been read of a draft stays read, and what it belongs to stays the same.
inductive Draft.Grown : Draft → Draft → Prop where
  | fragment (d e : FragmentDraft) (form : e.form = d.form) (node : d.node.isSome → e.node.isSome)
      (links : d.links.isSome → e.links.isSome) : Grown (.fragment d) (.fragment e)
  | node (d e : NodeDraft) (form : e.form = d.form) (up : e.up = d.up) (id : d.id.isSome → e.id.isSome)
      (label : d.label.isSome → e.label.isSome) : Grown (.node d) (.node e)
  | links (d e : LinksDraft) (up : e.up = d.up) : Grown (.links d) (.links e)
  | link (d e : LinkDraft) (form : e.form = d.form) (up : e.up = d.up) (source : d.source.isSome → e.source.isSome)
      (destination : d.destination.isSome → e.destination.isSome) (name : d.name.isSome → e.name.isSome) :
      Grown (.link d) (.link e)

namespace Draft

theorem grown_self (d : Draft) : d.Grown d := by
  cases d with
  | fragment d => exact .fragment d d rfl id id
  | node d => exact .node d d rfl rfl id id
  | links d => exact .links d d rfl
  | link d => exact .link d d rfl rfl id id id

theorem Grown.trans (d e f : Draft) (first : d.Grown e) (second : e.Grown f) : d.Grown f := by
  cases first with
  | fragment d e form node links =>
      cases second with | fragment _ f form' node' links' =>
      exact .fragment d f (form'.trans form) (node' ∘ node) (links' ∘ links)
  | node d e form up id label =>
      cases second with | node _ f form' up' id' label' =>
      exact .node d f (form'.trans form) (up'.trans up) (id' ∘ id) (label' ∘ label)
  | links d e up =>
      cases second with | links _ f up' =>
      exact .links d f (up'.trans up)
  | link d e form up source destination name =>
      cases second with | link _ f form' up' source' destination' name' =>
      exact .link d f (form'.trans form) (up'.trans up) (source' ∘ source) (destination' ∘ destination) (name' ∘ name)

theorem Grown.form (d e : Draft) (grown : d.Grown e) : e.form = d.form := by
  cases grown <;> first | assumption | rfl

def keys : Draft → List String
  | .fragment _ => ["node", "links"]
  | .node _ => ["id", "label"]
  | .links _ => []
  | .link _ => ["source", "destination", "name"]

theorem Grown.keys (d e : Draft) (grown : d.Grown e) : e.keys = d.keys := by cases grown <;> rfl

-- The key is that of a field which has been read, unless it is of no field.
def Knows (d : Draft) (k : String) : Prop := k ∈ d.keys → d.key? k = none

theorem key_kept {β : Type} (same : Prop) [Decidable same] (old new : Option β) (before after : Spot)
    (rest others : Option Spot) (kept : old.isSome → new.isSome) (later : rest = none → others = none)
    (read : (if same then unread old before else rest) = none) : (if same then unread new after else others) = none := by
  by_cases here : same
  · rw [if_pos here] at read ⊢
    cases old with
    | none => cases read
    | some value => rw [unread, if_pos (kept rfl)]
  · rw [if_neg here] at read ⊢
    exact later read

theorem Grown.knows (d e : Draft) (k : String) (grown : d.Grown e) (knows : d.Knows k) : e.Knows k := by
  intro known
  rw [grown.keys] at known
  have read := knows known
  have no_field (up : Draft) : some (Spot.ignored up) = none → some (Spot.ignored e) = none := by
    intro unknown
    cases unknown
  cases grown with
  | fragment d e form node links =>
      have later := key_kept (k = "links") d.links e.links (.links d) (.links e) _ _ links (no_field (.fragment d))
      exact key_kept _ _ _ _ _ _ _ node later read
  | node d e form up id label =>
      have later := key_kept (k = "label") d.label e.label (.label d) (.label e) _ _ label (no_field (.node d))
      exact key_kept _ _ _ _ _ _ _ id later read
  | links d e up => cases known
  | link d e form up source destination name =>
      have last := key_kept (k = "name") d.name e.name (.name d) (.name e) _ _ name (no_field (.link d))
      have later := key_kept (k = "destination") d.destination e.destination (.destination d) (.destination e) _ _
        destination last
      exact key_kept _ _ _ _ _ _ _ source later read

end Draft

namespace Spot

def Filled : Spot → Draft → Prop
  | .fragment, _ => False
  | .node up, next => ∃ n, next = .fragment { up with node := some n }
  | .links up, next => ∃ links, next = .fragment { up with links := some links }
  | .link up, next => ∃ l, next = .links { up with read := l :: up.read }
  | .id up, next => ∃ s, next = .node { up with id := some s }
  | .label up, next => ∃ s, next = .node { up with label := some s }
  | .source up, next => ∃ s, next = .link { up with source := some s }
  | .destination up, next => ∃ s, next = .link { up with destination := some s }
  | .name up, next => ∃ s, next = .link { up with name := some s }
  | .ignored up, next => next = up

def Behind (spot : Spot) (next : Reader) : Prop :=
  (spot = .fragment ∧ ∃ f, next = .done f) ∨ ∃ d, spot.Filled d ∧ next = .after d

theorem filled_text (spot : Spot) (s : String) (d : Draft) (puts : spot.putText s = .ok d) : spot.Filled d := by
  cases spot <;> cases puts <;> exact ⟨_, rfl⟩

theorem enter_form (spot : Spot) (form : Form) (d : Draft) (enters : spot.enter form = .ok d) : d.form = form := by
  cases spot <;> cases form <;> cases enters <;> rfl

theorem behind_closed (spot : Spot) (form : Form) (d e : Draft) (next : Reader) (enters : spot.enter form = .ok d)
    (grown : d.Grown e) (closes : Reader.closed e = .ok next) : spot.Behind next := by
  cases spot with
  | fragment =>
      cases enters
      cases grown with | fragment _ e =>
      obtain ⟨form, _ | n, links⟩ := e
      · cases form <;> cases closes
      · cases closes
        exact .inl ⟨rfl, _, rfl⟩
  | node up =>
      cases enters
      cases grown with | node _ e _ same =>
      obtain ⟨form, _ | id, label, up⟩ := e
      · cases form <;> cases closes
      · cases same
        cases closes
        exact .inr ⟨_, ⟨_, rfl⟩, rfl⟩
  | links up =>
      cases form with
      | object => cases enters
      | array =>
          cases enters
          cases grown with | links _ e same =>
          obtain ⟨read, up⟩ := e
          cases same
          cases closes
          exact .inr ⟨_, ⟨_, rfl⟩, rfl⟩
  | link up =>
      cases enters
      cases grown with | link _ e _ same =>
      obtain ⟨form, _ | source, _ | destination, _ | name, up⟩ := e
      case some.some.some =>
        cases same
        cases closes
        exact .inr ⟨_, ⟨_, rfl⟩, rfl⟩
      all_goals cases form <;> cases closes
  | id | label | source | destination | name | ignored => cases form <;> cases enters

def field? : Spot → Option (Draft × String)
  | .node up => some (.fragment up, "node")
  | .links up => some (.fragment up, "links")
  | .id up => some (.node up, "id")
  | .label up => some (.node up, "label")
  | .source up => some (.link up, "source")
  | .destination up => some (.link up, "destination")
  | .name up => some (.link up, "name")
  | .fragment | .link _ | .ignored _ => none

theorem field_behind (spot : Spot) (d : Draft) (k : String) (next : Reader) (field : spot.field? = some (d, k))
    (behind : spot.Behind next) : ∃ e, d.Grown e ∧ e.Knows k ∧ next = .after e := by
  rcases behind with ⟨rfl, _⟩ | ⟨e, filled, rfl⟩
  · cases field
  · refine ⟨e, ?_, ?_, rfl⟩
    · cases spot <;> cases field <;> obtain ⟨value, rfl⟩ := filled <;> constructor <;> simp
    · intro _
      cases spot <;> cases field <;> obtain ⟨value, rfl⟩ := filled <;> rfl

end Spot

namespace Draft

theorem unread_some {β : Type} (field : Option β) (made spot : Spot) (found : unread field made = some spot) :
    spot = made := by
  cases field with
  | none =>
      cases found
      rfl
  | some value => cases found

theorem key_cases {β : Type} (k name : String) (field : Option β) (made spot : Spot) (rest : Option Spot)
    (found : (if k = name then unread field made else rest) = some spot) :
    k = name ∧ spot = made ∨ k ≠ name ∧ rest = some spot := by
  by_cases same : k = name
  · rw [if_pos same] at found
    exact .inl ⟨same, unread_some field made spot found⟩
  · rw [if_neg same] at found
    exact .inr ⟨same, found⟩

theorem key_field (d : Draft) (k : String) (spot : Spot) (found : d.key? k = some spot) :
    spot.field? = some (d, k) ∨ spot = .ignored d ∧ k ∉ d.keys := by
  cases d with
  | fragment f =>
      rcases key_cases k "node" f.node _ spot _ found with ⟨rfl, rfl⟩ | ⟨node, found⟩
      · exact .inl rfl
      rcases key_cases k "links" f.links _ spot _ found with ⟨rfl, rfl⟩ | ⟨links, found⟩
      · exact .inl rfl
      cases found
      exact .inr ⟨rfl, by simp [keys, node, links]⟩
  | node n =>
      rcases key_cases k "id" n.id _ spot _ found with ⟨rfl, rfl⟩ | ⟨id, found⟩
      · exact .inl rfl
      rcases key_cases k "label" n.label _ spot _ found with ⟨rfl, rfl⟩ | ⟨label, found⟩
      · exact .inl rfl
      cases found
      exact .inr ⟨rfl, by simp [keys, id, label]⟩
  | links d =>
      cases found
      exact .inr ⟨rfl, List.not_mem_nil⟩
  | link l =>
      rcases key_cases k "source" l.source _ spot _ found with ⟨rfl, rfl⟩ | ⟨source, found⟩
      · exact .inl rfl
      rcases key_cases k "destination" l.destination _ spot _ found with ⟨rfl, rfl⟩ | ⟨destination, found⟩
      · exact .inl rfl
      rcases key_cases k "name" l.name _ spot _ found with ⟨rfl, rfl⟩ | ⟨name, found⟩
      · exact .inl rfl
      cases found
      exact .inr ⟨rfl, by simp [keys, source, destination, name]⟩

theorem element_field (d : Draft) (spot : Spot) (found : d.element? = some spot) :
    (∃ k, spot.field? = some (d, k) ∧ (k = "node" ∨ d.Knows "node")) ∨ ∃ up, spot = .link up ∧ d = .links up := by
  cases d with
  | fragment f =>
      rw [element?] at found
      cases node : f.node with
      | none =>
          rw [node, if_pos Option.isNone_none] at found
          cases found
          exact .inl ⟨"node", rfl, .inl rfl⟩
      | some n =>
          rw [node, if_neg (by simp)] at found
          split at found
          next =>
            cases found
            refine .inl ⟨"links", rfl, .inr fun _ => ?_⟩
            rw [key?, if_pos rfl, node]
            rfl
          next => cases found
  | node n =>
      have other : "node" ∉ (Draft.node n).keys := by simp [keys]
      rw [element?] at found
      split at found
      next =>
        cases found
        exact .inl ⟨"id", rfl, .inr fun known => absurd known other⟩
      split at found
      next =>
        cases found
        exact .inl ⟨"label", rfl, .inr fun known => absurd known other⟩
      next => cases found
  | links d =>
      cases found
      exact .inr ⟨d, rfl, rfl⟩
  | link l =>
      have other : "node" ∉ (Draft.link l).keys := by simp [keys]
      rw [element?] at found
      split at found
      next =>
        cases found
        exact .inl ⟨"source", rfl, .inr fun known => absurd known other⟩
      split at found
      next =>
        cases found
        exact .inl ⟨"destination", rfl, .inr fun known => absurd known other⟩
      split at found
      next =>
        cases found
        exact .inl ⟨"name", rfl, .inr fun known => absurd known other⟩
      next => cases found

theorem key_grown (d : Draft) (k : String) (spot : Spot) (next : Reader) (found : d.key? k = some spot)
    (behind : spot.Behind next) : ∃ e, d.Grown e ∧ e.Knows k ∧ next = .after e := by
  rcases d.key_field k spot found with field | ⟨rfl, unknown⟩
  · exact spot.field_behind d k next field behind
  · rcases behind with ⟨other, _⟩ | ⟨_, rfl, rfl⟩
    · cases other
    · exact ⟨_, grown_self _, fun known => absurd known unknown, rfl⟩

theorem element_grown (d : Draft) (spot : Spot) (next : Reader) (found : d.element? = some spot)
    (behind : spot.Behind next) : ∃ e, d.Grown e ∧ e.Knows "node" ∧ next = .after e := by
  rcases d.element_field spot found with ⟨k, field, first⟩ | ⟨up, rfl, rfl⟩
  · obtain ⟨e, grown, knows, rfl⟩ := spot.field_behind d k next field behind
    rcases first with rfl | before
    · exact ⟨e, grown, knows, rfl⟩
    · exact ⟨e, grown, grown.knows d e "node" before, rfl⟩
  · rcases behind with ⟨other, _⟩ | ⟨_, ⟨l, rfl⟩, rfl⟩
    · cases other
    · exact ⟨.links { up with read := l :: up.read }, .links up _ rfl, nofun, rfl⟩

end Draft

end GraphBrowser
