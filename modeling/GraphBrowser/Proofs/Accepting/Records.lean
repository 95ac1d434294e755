import GraphBrowser.Proofs.Accepting.Skipped
import GraphBrowser.Proofs.Filling
import GraphBrowser.Proofs.Records

set_option autoImplicit false

namespace GraphBrowser

open Json

namespace Json

-- A field of a record that is being read, with the texts that spell what was read for it.
abbrev Status := String × Option (List Char → Prop)

def HoldsMembers (fields : List Status) (items : List (List Char)) : Prop :=
  ∃ members : List (String × List Char), List.Forall₂ Named members items ∧
    (∀ m ∈ members, m.1 ∉ fields.map Prod.fst → Wellformed m.2) ∧
    (∀ f ∈ fields, f.2 = none → f.1 ∉ members.map Prod.fst) ∧
    ∀ f ∈ fields, ∀ P, f.2 = some P → (members.map Prod.fst).count f.1 = 1 ∧ ∀ m ∈ members, m.1 = f.1 → P m.2

def HoldsValues (fields : List Status) (items : List (List Char)) : Prop :=
  ∃ read unread, fields = read ++ unread ∧ List.Forall₂ (fun (f : Status) v => ∃ P, f.2 = some P ∧ P v) read items ∧
    ∀ f ∈ unread, f.2 = none

section Next

variable {before behind : List Status} {k : String} {P : List Char → Prop} {v item : List Char}
variable {items : List (List Char)}

theorem members_known (apart : ∀ f ∈ before ++ behind, f.1 ≠ k)
    (holds : HoldsMembers (before ++ (k, none) :: behind) items) (spelled : P v) (named : Named (k, v) item) :
    HoldsMembers (before ++ (k, some P) :: behind) (items ++ [item]) := by
  obtain ⟨members, written, unknown, unread, read⟩ := holds
  have absent : k ∉ members.map Prod.fst := unread (k, none) (by simp) rfl
  have other (f : Status) (member : f ∈ before ++ behind) : f ∈ before ++ (k, none) :: behind := by
    rcases List.mem_append.mp member with earlier | later
    · exact List.mem_append_left _ earlier
    · exact List.mem_append_right _ (List.mem_cons_of_mem _ later)
  have split (f : Status) (member : f ∈ before ++ (k, some P) :: behind) : f = (k, some P) ∨ f ∈ before ++ behind := by
    simp only [List.mem_append, List.mem_cons] at member ⊢
    tauto
  refine ⟨members ++ [(k, v)], List.rel_append written (.cons named .nil), ?_, ?_, ?_⟩
  · refine List.forall_mem_append.mpr ⟨fun m member => ?_, List.forall_mem_singleton.mpr fun other => absurd ?_ other⟩
    · simpa using unknown m member
    · simp
  · intro f member missing
    rcases split f member with rfl | member
    · cases missing
    · have before := unread f (other f member) missing
      simpa [apart f member] using before
  · intro f member Q given
    rcases split f member with rfl | member
    · obtain rfl := Option.some.inj given
      refine ⟨by simp [List.count_eq_zero.mpr absent], List.forall_mem_append.mpr ⟨fun m member same => ?_, ?_⟩⟩
      · exact absurd (List.mem_map.mpr ⟨m, member, same⟩) absent
      · exact List.forall_mem_singleton.mpr fun _ => spelled
    · obtain ⟨once, spelled⟩ := read f (other f member) Q given
      refine ⟨?_, List.forall_mem_append.mpr ⟨spelled, List.forall_mem_singleton.mpr fun same => ?_⟩⟩
      · simpa [(apart f member).symm] using once
      · exact absurd same.symm (apart f member)

theorem members_unknown (fields : List Status) (holds : HoldsMembers fields items) (other : k ∉ fields.map Prod.fst)
    (wellformed : Wellformed v) (named : Named (k, v) item) : HoldsMembers fields (items ++ [item]) := by
  obtain ⟨members, written, unknown, unread, read⟩ := holds
  have apart (f : Status) (member : f ∈ fields) : f.1 ≠ k := by
    rintro rfl
    exact other (List.mem_map_of_mem member)
  refine ⟨members ++ [(k, v)], List.rel_append written (.cons named .nil), ?_, ?_, ?_⟩
  · exact List.forall_mem_append.mpr ⟨unknown, List.forall_mem_singleton.mpr fun _ => wellformed⟩
  · intro f member missing
    simpa [apart f member] using unread f member missing
  · intro f member P given
    obtain ⟨once, spelled⟩ := read f member P given
    refine ⟨?_, List.forall_mem_append.mpr ⟨spelled, List.forall_mem_singleton.mpr fun same => ?_⟩⟩
    · simpa [(apart f member).symm] using once
    · exact absurd same.symm (apart f member)

theorem values_next (holds : HoldsValues (before ++ (k, none) :: behind) items) (full : ∀ f ∈ before, f.2 ≠ none)
    (spelled : P v) : HoldsValues (before ++ (k, some P) :: behind) (items ++ [v]) := by
  obtain ⟨read, unread, same, written, empty⟩ := holds
  have given (f : Status) (member : f ∈ read) : f.2 ≠ none := by
    obtain ⟨_, _, P, same, _⟩ := matching_left written f member
    simp [same]
  -- What has been read ends right before the field.
  have here : before = read ∧ (k, none) :: behind = unread := by
    rcases List.append_eq_append_iff.mp same with ⟨more, rfl, rest⟩ | ⟨more, rfl, rest⟩
    · cases more with
      | nil => exact ⟨by simp, by simpa using rest⟩
      | cons f more =>
          obtain rfl : (k, none) = f := (List.cons.inj rest).1
          exact absurd rfl (given (k, none) (by simp))
    · cases more with
      | nil => exact ⟨by simp, by simpa using rest.symm⟩
      | cons f more => exact absurd (empty f (by simp [rest])) (full f (by simp))
  obtain ⟨rfl, rfl⟩ := here
  refine ⟨before ++ [(k, some P)], behind, by simp, List.rel_append written (.cons ⟨P, rfl, spelled⟩ .nil), ?_⟩
  exact fun f member => empty f (List.mem_cons_of_mem _ member)

end Next

-- The fields of a record, as they were read: those that are missing can be left out.
def Closes (fields : List Status) (record : List Field) : Prop :=
  List.Forall₂ (fun (s : Status) (f : Field) =>
    s.1 = f.key ∧ (s.2 = none → f.Optional) ∧ ∀ P, s.2 = some P → P = f.Spells) fields record

theorem members_record (fields : List Status) (record : List Field) (items : List (List Char)) (inner : List Char)
    (closes : Closes fields record) (holds : HoldsMembers fields items) (listed : Listed items inner) :
    Record record ('{' :: inner ++ ['}']) := by
  obtain ⟨members, written, unknown, unread, read⟩ := holds
  have once (s : Status) (member : s ∈ fields) : (members.map Prod.fst).count s.1 ≤ 1 := by
    cases status : s.2 with
    | none => simp [List.count_eq_zero.mpr (unread s member status)]
    | some P => exact Nat.le_of_eq (read s member P status).1
  refine .object members items inner ?_ ?_ ?_ ?_ written listed
  · intro f member
    obtain ⟨s, found, same, _⟩ := matching_right closes f member
    rw [← same]
    exact once s found
  · intro f member
    obtain ⟨s, found, same, missing, _⟩ := matching_right closes f member
    cases status : s.2 with
    | none => exact .inl (missing status)
    | some P =>
        have single := (read s found P status).1
        exact .inr (by rw [← same]; exact List.count_pos_iff.mp (by omega))
  · intro m listed f member named
    obtain ⟨s, found, same, _, spells⟩ := matching_right closes f member
    cases status : s.2 with
    | none => exact absurd (List.mem_map.mpr ⟨m, listed, named.trans same.symm⟩) (unread s found status)
    | some P =>
        rw [← spells P status]
        exact (read s found P status).2 m listed (named.trans same.symm)
  · intro m listed other
    refine unknown m listed fun known => other ?_
    obtain ⟨s, found, same⟩ := List.mem_map.mp known
    obtain ⟨f, member, named, _⟩ := matching_left closes s found
    exact List.mem_map.mpr ⟨f, member, named.symm.trans same⟩

theorem values_record (fields : List Status) (record : List Field) (items : List (List Char)) (inner : List Char)
    (closes : Closes fields record) (holds : HoldsValues fields items) (listed : Listed items inner) :
    Record record ('[' :: inner ++ [']']) := by
  obtain ⟨read, unread, rfl, written, empty⟩ := holds
  obtain ⟨given, missing, rfl, present, absent⟩ := matching_split read unread record closes
  have spelled : List.Forall₂ Field.Spells given items := by
    clear closes listed
    induction present generalizing items with
    | nil =>
        cases written
        exact .nil
    | cons status _ ih =>
        cases written with | cons first written =>
        obtain ⟨P, same, spelled⟩ := first
        rw [status.2.2 P same] at spelled
        exact .cons spelled (ih _ written)
  refine .array given missing items inner rfl spelled ?_ listed
  intro f member
  obtain ⟨s, found, _, optional, _⟩ := matching_right absent f member
  exact optional (empty s found)

end Json

namespace Draft

def fields : Draft → List Status
  | .fragment d => [("node", d.node.map fun n => Record n.fields), ("links", d.links.map Fragment.SpellsLinks)]
  | .node d => [("id", d.id.map Json.Spells), ("label", d.label.map NodeSummary.SpellsLabel)]
  | .links _ => []
  | .link d =>
      [("source", d.source.map Json.Spells), ("destination", d.destination.map Json.Spells),
        ("name", d.name.map Json.Spells)]

def spot : Draft → Spot
  | .fragment _ => .fragment
  | .node d => .node d.up
  | .links d => .links d.up
  | .link d => .link d.up

def Holds (d : Draft) (items : List (List Char)) : Prop :=
  match d with
  | .links d => List.Forall₂ (fun (l : LinkTriple) v => Record l.fields v) d.read.reverse items
  | d => (d.form = .object → HoldsMembers d.fields items) ∧ (d.form = .array → HoldsValues d.fields items)

theorem keys_fields (d : Draft) : d.fields.map Prod.fst = d.keys := by cases d <;> rfl

end Draft

def Spot.Fits : Spot → List Char → Draft → Prop
  | .fragment, _, _ => False
  | .node up, v, next => ∃ n : NodeSummary, Record n.fields v ∧ next = .fragment { up with node := some n }
  | .links up, v, next => ∃ links, Fragment.SpellsLinks links v ∧ next = .fragment { up with links := some links }
  | .link up, v, next => ∃ l : LinkTriple, Record l.fields v ∧ next = .links { up with read := l :: up.read }
  | .id up, v, next => ∃ s, Json.Spells s v ∧ next = .node { up with id := some s }
  | .label up, v, next => ∃ s, NodeSummary.SpellsLabel s v ∧ next = .node { up with label := some s }
  | .source up, v, next => ∃ s, Json.Spells s v ∧ next = .link { up with source := some s }
  | .destination up, v, next => ∃ s, Json.Spells s v ∧ next = .link { up with destination := some s }
  | .name up, v, next => ∃ s, Json.Spells s v ∧ next = .link { up with name := some s }
  | .ignored up, v, next => Wellformed v ∧ next = up

namespace Draft

def earlier (d : Draft) (k : String) : List Status := d.fields.takeWhile (·.1 ≠ k)

structure Fills (d : Draft) (k : String) (v : List Char) (e : Draft) : Prop where
  form : e.form = d.form
  spot : e.spot = d.spot
  fields : ∃ behind P, d.fields = d.earlier k ++ (k, none) :: behind ∧ e.fields = d.earlier k ++ (k, some P) :: behind ∧
    (∀ f ∈ d.earlier k ++ behind, f.1 ≠ k) ∧ P v

theorem key_fills (d e : Draft) (k : String) (spot : Spot) (v : List Char) (found : d.key? k = some spot)
    (known : k ∈ d.keys) (fits : spot.Fits v e) : d.Fills k v e := by
  cases d with
  | fragment d =>
      obtain ⟨form, node, links⟩ := d
      simp only [keys, List.mem_cons, List.not_mem_nil, or_false] at known
      rcases known with rfl | rfl
      · cases node <;> cases found
        obtain ⟨n, spelled, rfl⟩ := fits
        exact ⟨rfl, rfl, _, Record n.fields, rfl, rfl, by simp [earlier, fields], spelled⟩
      · cases links <;> cases found
        obtain ⟨links, spelled, rfl⟩ := fits
        exact ⟨rfl, rfl, _, Fragment.SpellsLinks links, rfl, rfl, by simp [earlier, fields], spelled⟩
  | node d =>
      obtain ⟨form, id, label, up⟩ := d
      simp only [keys, List.mem_cons, List.not_mem_nil, or_false] at known
      rcases known with rfl | rfl
      · cases id <;> cases found
        obtain ⟨s, spelled, rfl⟩ := fits
        exact ⟨rfl, rfl, _, Json.Spells s, rfl, rfl, by simp [earlier, fields], spelled⟩
      · cases label <;> cases found
        obtain ⟨s, spelled, rfl⟩ := fits
        exact ⟨rfl, rfl, _, NodeSummary.SpellsLabel s, rfl, rfl, by simp [earlier, fields], spelled⟩
  | links d => cases known
  | link d =>
      obtain ⟨form, source, destination, name, up⟩ := d
      simp only [keys, List.mem_cons, List.not_mem_nil, or_false] at known
      rcases known with rfl | rfl | rfl
      · cases source <;> cases found
        obtain ⟨s, spelled, rfl⟩ := fits
        exact ⟨rfl, rfl, _, Json.Spells s, rfl, rfl, by simp [earlier, fields], spelled⟩
      · cases destination <;> cases found
        obtain ⟨s, spelled, rfl⟩ := fits
        exact ⟨rfl, rfl, _, Json.Spells s, rfl, rfl, by simp [earlier, fields], spelled⟩
      · cases name <;> cases found
        obtain ⟨s, spelled, rfl⟩ := fits
        exact ⟨rfl, rfl, _, Json.Spells s, rfl, rfl, by simp [earlier, fields], spelled⟩

theorem element_key (d : Draft) (spot : Spot) (found : d.element? = some spot) :
    (∃ k ∈ d.keys, d.key? k = some spot ∧ ∀ f ∈ d.earlier k, f.2 ≠ none) ∨ ∃ l, d = .links l ∧ spot = .link l := by
  cases d with
  | fragment d =>
      obtain ⟨form, _ | n, _ | links⟩ := d <;> cases found
      · exact .inl ⟨"node", by simp [keys], rfl, by simp [earlier, fields]⟩
      · exact .inl ⟨"node", by simp [keys], rfl, by simp [earlier, fields]⟩
      · exact .inl ⟨"links", by simp [keys], rfl, by simp [earlier, fields]⟩
  | node d =>
      obtain ⟨form, _ | id, _ | label, up⟩ := d <;> cases found
      · exact .inl ⟨"id", by simp [keys], rfl, by simp [earlier, fields]⟩
      · exact .inl ⟨"id", by simp [keys], rfl, by simp [earlier, fields]⟩
      · exact .inl ⟨"label", by simp [keys], rfl, by simp [earlier, fields]⟩
  | links d =>
      cases found
      exact .inr ⟨d, rfl, rfl⟩
  | link d =>
      obtain ⟨form, source, destination, name, up⟩ := d
      cases source with
      | none =>
          cases found
          exact .inl ⟨"source", by simp [keys], rfl, by simp [earlier, fields]⟩
      | some source =>
          cases destination with
          | none =>
              cases found
              exact .inl ⟨"destination", by simp [keys], rfl, by simp [earlier, fields]⟩
          | some destination =>
              cases name <;> cases found
              exact .inl ⟨"name", by simp [keys], rfl, by simp [earlier, fields]⟩

theorem holds_object (d : Draft) (items : List (List Char)) (form : d.form = .object) :
    d.Holds items ↔ HoldsMembers d.fields items := by
  cases d with
  | links d => cases form
  | _ => simp [Holds, form]

theorem holds_array (d : Draft) (items : List (List Char)) (form : d.form = .array) (other : ∀ l, d ≠ .links l) :
    d.Holds items ↔ HoldsValues d.fields items := by
  cases d with
  | links d => exact absurd rfl (other d)
  | _ => simp [Holds, form]

theorem holds_member (d e : Draft) (k : String) (spot : Spot) (v item : List Char) (items : List (List Char))
    (form : d.form = .object) (holds : d.Holds items) (found : d.key? k = some spot) (fits : spot.Fits v e)
    (named : Named (k, v) item) : e.Holds (items ++ [item]) ∧ e.form = d.form ∧ e.spot = d.spot := by
  rw [holds_object d items form] at holds
  by_cases known : k ∈ d.keys
  · obtain ⟨sameForm, sameSpot, behind, P, before, filled, apart, spelled⟩ := d.key_fills e k spot v found known fits
    rw [before] at holds
    refine ⟨(holds_object e _ (sameForm.trans form)).mpr ?_, sameForm, sameSpot⟩
    rw [filled]
    exact members_known apart holds spelled named
  · obtain ⟨wellformed, rfl⟩ : Wellformed v ∧ e = d := by
      rcases d.key_field k spot found with field | ⟨rfl, _⟩
      · cases spot <;> cases field <;> simp [keys] at known
      · exact fits
    rw [← keys_fields] at known
    exact ⟨(holds_object _ _ form).mpr (members_unknown _ holds known wellformed named), rfl, rfl⟩

theorem holds_element (d e : Draft) (spot : Spot) (v : List Char) (items : List (List Char)) (form : d.form = .array)
    (holds : d.Holds items) (found : d.element? = some spot) (fits : spot.Fits v e) :
    e.Holds (items ++ [v]) ∧ e.form = d.form ∧ e.spot = d.spot := by
  rcases d.element_key spot found with ⟨k, known, read, full⟩ | ⟨l, rfl, rfl⟩
  · obtain ⟨sameForm, sameSpot, behind, P, before, filled, apart, spelled⟩ := d.key_fills e k spot v read known fits
    have other (l : LinksDraft) : d ≠ .links l := by
      rintro rfl
      cases known
    have others (l : LinksDraft) : e ≠ .links l := by
      rintro rfl
      exact List.append_ne_nil_of_right_ne_nil _ (List.cons_ne_nil _ _) filled.symm
    rw [holds_array d items form other, before] at holds
    refine ⟨(holds_array e _ (sameForm.trans form) others).mpr ?_, sameForm, sameSpot⟩
    rw [filled]
    exact values_next holds full spelled
  · obtain ⟨t, record, rfl⟩ := fits
    refine ⟨?_, rfl, rfl⟩
    show List.Forall₂ (fun (l : LinkTriple) v => Record l.fields v) (t :: l.read).reverse (items ++ [v])
    rw [List.reverse_cons]
    exact List.rel_append holds (.cons record .nil)

theorem holds_nothing (d : Draft) (empty : ∀ f ∈ d.fields, f.2 = none) (fresh : ∀ l, d = .links l → l.read = []) :
    d.Holds [] := by
  have members : HoldsMembers d.fields [] :=
    ⟨[], .nil, nofun, fun _ _ _ => List.not_mem_nil, fun f member P given => by simp [empty f member] at given⟩
  have values : HoldsValues d.fields [] := ⟨[], d.fields, rfl, .nil, empty⟩
  cases d with
  | links l =>
      show List.Forall₂ _ l.read.reverse []
      rw [fresh l rfl]
      exact .nil
  | fragment | node | link => exact ⟨fun _ => members, fun _ => values⟩

def bracket (d : Draft) : Bracket :=
  match d.form with
  | .object => .curly
  | .array => .square

theorem closed_record (d : Draft) (record : List Field) (items : List (List Char)) (inner : List Char)
    (other : ∀ l, d ≠ .links l) (closes : Closes d.fields record) (holds : d.Holds items)
    (listed : Listed items inner) : Record record (d.bracket.opener :: inner ++ [d.bracket.closer]) := by
  cases form : d.form with
  | object =>
      rw [bracket, form]
      exact members_record _ record items inner closes ((holds_object d items form).mp holds) listed
  | array =>
      rw [bracket, form]
      exact values_record _ record items inner closes ((holds_array d items form other).mp holds) listed

end Draft

namespace Spot

def Leads (spot : Spot) (text : List Char) (next : Reader) : Prop :=
  (spot = .fragment ∧ ∃ f : Fragment, Record f.fields text ∧ next = .done f) ∨
    ∃ d, spot.Fits text d ∧ next = .after d

theorem enter_fresh (spot : Spot) (form : Form) (d : Draft) (enters : spot.enter form = .ok d) :
    d.form = form ∧ d.spot = spot ∧ d.Holds [] := by
  refine ⟨spot.enter_form form d enters, ?_, d.holds_nothing ?_ ?_⟩
  · cases spot <;> cases form <;> cases enters <;> rfl
  · cases spot <;> cases form <;> cases enters <;> simp [Draft.fields]
  · rintro l rfl
    cases spot <;> cases form <;> cases enters
    rfl

theorem text_fits (spot : Spot) (s : String) (v : List Char) (d : Draft) (puts : spot.putText s = .ok d)
    (spelled : Json.Spells s v) : spot.Fits v d := by
  cases spot with
  | label up =>
      cases puts
      exact ⟨some s, spelled, rfl⟩
  | id | source | destination | name =>
      cases puts
      exact ⟨s, spelled, rfl⟩
  | fragment | node | links | link | ignored => cases puts

theorem null_fits (spot : Spot) (d : Draft) (puts : spot.putNull = .ok d) : spot.Fits null d := by
  cases spot <;> cases puts
  exact ⟨none, rfl, rfl⟩

end Spot

namespace Draft

theorem closed_leads (d : Draft) (next : Reader) (items : List (List Char)) (inner : List Char) (holds : d.Holds items)
    (listed : Listed items inner) (closes : Reader.closed d = .ok next) :
    d.spot.Leads (d.bracket.opener :: inner ++ [d.bracket.closer]) next := by
  cases d with
  | fragment d =>
      obtain ⟨form, _ | n, links⟩ := d
      · cases form <;> cases closes
      · cases closes
        refine .inl ⟨rfl, _, closed_record _ _ items inner nofun ?_ holds listed, rfl⟩
        exact .cons (by simp) (.cons (by cases links <;> simp) .nil)
  | node d =>
      obtain ⟨form, _ | id, label, up⟩ := d
      · cases form <;> cases closes
      · cases closes
        refine .inr ⟨_, ⟨⟨id, label.getD none⟩, closed_record _ _ items inner nofun ?_ holds listed, rfl⟩, rfl⟩
        exact .cons (by simp) (.cons (by cases label <;> simp) .nil)
  | links d =>
      cases closes
      exact .inr ⟨_, ⟨d.read.reverse, ⟨items, inner, holds, listed, rfl⟩, rfl⟩, rfl⟩
  | link d =>
      obtain ⟨form, _ | source, _ | destination, _ | name, up⟩ := d
      case some.some.some =>
        cases closes
        refine .inr ⟨_, ⟨⟨source, destination, name⟩, closed_record _ _ items inner nofun ?_ holds listed, rfl⟩, rfl⟩
        exact .cons (by simp) (.cons (by simp) (.cons (by simp) .nil))
      all_goals cases form <;> cases closes

end Draft

end GraphBrowser
