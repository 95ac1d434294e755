import GraphBrowser.Proofs.Skipping
import GraphBrowser.Proofs.Spelling

set_option autoImplicit false

namespace GraphBrowser

open Json

def Form.closer : Form → Char
  | .object => '}'
  | .array => ']'

namespace Reader

theorem value_patient (spot : Spot) : (Reader.value spot).Patient := fun c space => by simp [step, space]

theorem colon_patient (spot : Spot) : (Reader.colon spot).Patient := fun c space => by simp [step, space]

def listing : Series Draft where
  opened := .opened
  comma := .comma
  after := .after
  opened_patient _ c space := by simp [step, space]
  comma_patient _ c space := by simp [step, space]
  after_patient _ c space := by simp [step, stepAfter, space]

structure Leads (spot : Spot) (text : List Char) (next : Draft) : Prop where
  begins : Begins text
  run : ∀ rest, Delimited rest → (Reader.value spot).run (text ++ rest) = (Reader.after next).run rest

theorem leads_ignored (text : List Char) (d : Draft) (wellformed : Wellformed text) : Leads (.ignored d) text d :=
  ⟨wellformed_begins text wellformed, fun rest delimited => ignored_value text rest d wellformed delimited⟩

theorem leads_text (spot : Spot) (s : String) (text : List Char) (next : Draft) (spells : Json.Spells s text)
    (opens : (Reader.value spot).step '"' = .ok (.text (.start true) spot)) (puts : spot.putText s = .ok next) :
    Leads spot text next := by
  have reads := spells.read
  refine ⟨quoted_begins true text s reads, fun rest _ => ?_⟩
  refine run_quoted (fun q => .text q spot) _ _ true text rest s reads opens ?_ ?_
  · intro q c more stepped
    simp only [step, stepped]
  · intro q closed
    simp only [step, closed, puts, Except.map]

theorem takes_element (d next : Draft) (spot : Spot) (text : List Char) (form : d.form = .array)
    (element : d.element? = some spot) (leads : Leads spot text next) : listing.Takes d text next := by
  obtain ⟨c, text, rfl, space, other⟩ := leads.begins
  refine ⟨?_, fun rest delimited => ?_, fun rest delimited => ?_⟩
  · show stepAfter d ',' = .ok (.comma d)
    simp [stepAfter, isSpace, form, element]
  · refine Eq.trans (run_congr _ _ c (text ++ rest) ?_) (leads.run rest delimited)
    simp [listing, step, space, form, other, beginElement, element]
  · refine Eq.trans (run_congr _ _ c (text ++ rest) ?_) (leads.run rest delimited)
    simp [listing, step, space, form, other, beginElement, element]

theorem takes_member (d next : Draft) (k : String) (spot : Spot) (key value text : List Char) (form : d.form = .object)
    (found : d.key? k = some spot) (spells : Json.Spells k key) (member : Member key value text)
    (leads : Leads spot value next) : listing.Takes d text next := by
  obtain ⟨w, v, blankBefore, blankBehind, rfl⟩ := member
  have divides : (Reader.colon spot).step ':' = .ok (.value spot) := rfl
  have taken (before : Reader) (opens : before.step '"' = .ok (.key (.start true) d)) (rest : List Char)
      (delimited : Delimited rest) :
      before.run ((key ++ (w ++ ':' :: (v ++ value))) ++ rest) = (Reader.after next).run rest := by
    have named (tail : List Char) : before.run (key ++ tail) = (Reader.colon spot).run tail := by
      refine run_quoted (fun q => .key q d) _ _ true key tail k spells.read opens ?_ ?_
      · intro q c more stepped
        simp only [step, stepped]
      · intro q closed
        simp only [step, closed, found, Option.map_some, Option.getD_some]
    simp only [List.append_assoc, List.cons_append]
    rw [named, run_blank _ w _ (colon_patient spot) blankBefore, run_cons _ _ _ _ divides,
      run_blank _ v _ (value_patient spot) blankBehind, leads.run rest delimited]
  refine ⟨?_, taken _ ?_, taken _ ?_⟩
  · show stepAfter d ',' = .ok (.comma d)
    simp [stepAfter, isSpace, form]
  · simp [listing, step, isSpace, form]
  · simp [listing, step, isSpace, form]

-- Where the value of a field is due, by its key in an object and by its position in an array.
structure Placed (draft : Form → List String → Draft) (fields : List Field) (i : Nat) (f : Field)
    (spot : Form → List String → Spot) : Prop where
  keyed : ∀ keys, f.key ∉ keys → (draft .object keys).key? f.key = some (spot .object keys)
  next : ∀ keys, keys = (fields.take i).map Field.key → (draft .array keys).element? = some (spot .array keys)
  leads : ∀ form keys text, f.Spells text → Leads (spot form keys) text (draft form (keys ++ [f.key]))

theorem placed_text {draft : Form → List String → Draft} {fields : List Field} {i : Nat} {key s : String}
    {Optional : Prop} {spot : Form → List String → Spot}
    (keyed : ∀ keys, key ∉ keys → (draft .object keys).key? key = some (spot .object keys))
    (next : ∀ keys, keys = (fields.take i).map Field.key → (draft .array keys).element? = some (spot .array keys))
    (opens : ∀ form keys, (Reader.value (spot form keys)).step '"' = .ok (.text (.start true) (spot form keys)))
    (puts : ∀ form keys, (spot form keys).putText s = .ok (draft form (keys ++ [key]))) :
    Placed draft fields i ⟨key, Optional, Json.Spells s⟩ spot :=
  ⟨keyed, next, fun form keys text spells => leads_text _ s text _ spells (opens form keys) (puts form keys)⟩

-- How a record is read: a draft goes with the keys of the fields that have been read, and the result is the
-- state behind the record.
structure Drafting (fields : List Field) (spot : Spot) (result : Reader) where
  draft : Form → List String → Draft
  opens_object : (Reader.value spot).step '{' = .ok (.opened (draft .object []))
  opens_array : (Reader.value spot).step '[' = .ok (.opened (draft .array []))
  form : ∀ form keys, (draft form keys).form = form
  ignores : ∀ keys key, key ∉ fields.map Field.key → (draft .object keys).key? key = some (.ignored (draft .object keys))
  forgets : ∀ keys key, key ∉ fields.map Field.key → draft .object (keys ++ [key]) = draft .object keys
  places : ∀ i f, fields[i]? = some f → ∃ spot, Placed draft fields i f spot
  closes : ∀ form keys, (∀ f ∈ fields, f.Optional ∨ f.key ∈ keys) → closed (draft form keys) = .ok result

namespace Drafting

variable {fields : List Field} {spot : Spot} {result : Reader} (drafting : Drafting fields spot result)

theorem takes_keyed (keys : List String) (k : String) (key value text : List Char) (spells : Json.Spells k key)
    (member : Member key value text) (known : ∀ f ∈ fields, k = f.key → k ∉ keys ∧ f.Spells value)
    (unknown : k ∉ fields.map Field.key → Wellformed value) :
    listing.Takes (drafting.draft .object keys) text (drafting.draft .object (keys ++ [k])) := by
  by_cases here : k ∈ fields.map Field.key
  · obtain ⟨f, listed, rfl⟩ := List.mem_map.mp here
    obtain ⟨unread, spelled⟩ := known f listed rfl
    obtain ⟨i, position⟩ := List.getElem?_of_mem listed
    obtain ⟨spot, placed⟩ := drafting.places i f position
    exact takes_member _ _ f.key _ key value text (drafting.form _ _) (placed.keyed keys unread) spells member
      (placed.leads .object keys value spelled)
  · rw [drafting.forgets keys k here]
    exact takes_member _ _ k _ key value text (drafting.form _ _) (drafting.ignores keys k here) spells member
      (leads_ignored value _ (unknown here))

-- By induction on the members: the keys that have been read and those still to come are the same all along.
theorem path_members (members : List (String × List Char)) (texts : List (List Char)) (keys : List String)
    (once : ∀ f ∈ fields, (keys ++ members.map Prod.fst).count f.key ≤ 1)
    (known : ∀ m ∈ members, ∀ f ∈ fields, m.1 = f.key → f.Spells m.2)
    (unknown : ∀ m ∈ members, m.1 ∉ fields.map Field.key → Wellformed m.2)
    (written : List.Forall₂ (fun m text => ∃ key, Json.Spells m.1 key ∧ Member key m.2 text) members texts) :
    listing.Path (drafting.draft .object keys) texts (drafting.draft .object (keys ++ members.map Prod.fst)) := by
  induction written generalizing keys with
  | nil =>
      rw [List.map_nil, List.append_nil]
      exact .nil _
  | @cons m text members texts spelled _ ih =>
      obtain ⟨key, spells, member⟩ := spelled
      rw [List.map_cons, List.append_cons] at once ⊢
      have unread (f : Field) (listed : f ∈ fields) (same : m.1 = f.key) : m.1 ∉ keys := by
        have single := once f listed
        rw [List.count_append, List.count_append, same, List.count_singleton_self] at single
        rw [← List.count_eq_zero, same]
        omega
      have takes := drafting.takes_keyed keys m.1 key m.2 text spells member
        (fun f listed same => ⟨unread f listed same, known m List.mem_cons_self f listed same⟩)
        (unknown m List.mem_cons_self)
      exact .cons _ _ _ text texts takes (ih (keys ++ [m.1]) once
        (fun n listed => known n (List.mem_cons_of_mem _ listed)) fun n listed => unknown n (List.mem_cons_of_mem _ listed))

-- By induction on the values; what has been given before them is the beginning of the fields.
theorem path_values (before given missing : List Field) (values : List (List Char))
    (split : fields = before ++ given ++ missing) (written : List.Forall₂ Field.Spells given values) :
    listing.Path (drafting.draft .array (before.map Field.key)) values
      (drafting.draft .array ((before ++ given).map Field.key)) := by
  induction written generalizing before with
  | nil =>
      rw [List.append_nil]
      exact .nil _
  | @cons f text given values spelled _ ih =>
      have here : fields = before ++ f :: (given ++ missing) := by rw [split, List.append_assoc, List.cons_append]
      obtain ⟨spot, placed⟩ := drafting.places before.length f (by simp [here])
      have next := placed.next (before.map Field.key) (by simp [here])
      have takes := takes_element _ _ _ text (drafting.form _ _) next (placed.leads .array _ text spelled)
      have path := ih (before ++ [f]) (by rw [here, List.append_assoc, List.append_assoc]; rfl)
      rw [List.map_append] at path
      rw [List.append_cons]
      exact .cons _ _ _ text values takes path

theorem run_opened (form : Form) (keys : List String) (items : List (List Char)) (inner rest : List Char)
    (complete : ∀ f ∈ fields, f.Optional ∨ f.key ∈ keys) (listed : Listed items inner)
    (path : listing.Path (drafting.draft form []) items (drafting.draft form keys)) :
    (Reader.opened (drafting.draft form [])).run (inner ++ form.closer :: rest) = result.run rest := by
  have ends : Ends form.closer := by cases form <;> simp [Ends, Form.closer]
  have alike : (Reader.opened (drafting.draft form [])).step form.closer =
      (Reader.after (drafting.draft form [])).step form.closer := by
    cases form <;> simp [step, stepAfter, isSpace, drafting.form, Form.closer]
  have closed : (Reader.after (drafting.draft form keys)).step form.closer = .ok result := by
    cases form <;> simp [step, stepAfter, isSpace, drafting.form, Form.closer, drafting.closes _ keys complete]
  have inside := listing.run_listed _ _ items inner form.closer rest ends alike listed path
  exact inside.trans (run_cons _ _ _ rest closed)

include drafting in
theorem run (text : List Char) (record : Record fields text) (rest : List Char) :
    (Reader.value spot).run (text ++ rest) = result.run rest := by
  cases record with
  | object members texts inner once complete known unknown written listed =>
      have path := drafting.path_members members texts [] once known unknown written
      rw [List.append_assoc, List.cons_append, run_cons _ _ _ _ drafting.opens_object]
      exact drafting.run_opened .object _ texts inner rest complete listed path
  | array given missing values inner split written optional listed =>
      have path := drafting.path_values [] given missing values split written
      have complete : ∀ f ∈ fields, f.Optional ∨ f.key ∈ given.map Field.key := by
        intro f member
        rw [split] at member
        rcases List.mem_append.mp member with present | absent
        · exact .inr (List.mem_map_of_mem present)
        · exact .inl (optional f absent)
      rw [List.append_assoc, List.cons_append, run_cons _ _ _ _ drafting.opens_array]
      exact drafting.run_opened .array _ values inner rest complete listed path

end Drafting

theorem record_begins (fields : List Field) (text : List Char) (record : Record fields text) : Begins text := by
  cases record <;> exact ⟨_, _, rfl, rfl, by decide⟩

theorem leads_record (fields : List Field) (spot : Spot) (next : Draft) (drafting : Drafting fields spot (.after next))
    (text : List Char) (record : Record fields text) : Leads spot text next :=
  ⟨record_begins fields text record, fun rest _ => drafting.run text record rest⟩

end Reader

end GraphBrowser
