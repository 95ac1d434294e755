import GraphBrowser.Proofs.Accepting.Records
import GraphBrowser.Proofs.Refusing

set_option autoImplicit false

namespace GraphBrowser

open Json

inductive Due : Spot → List Char → Prop where
  | fragment (w : List Char) (blank : Blank w) : Due .fragment w
  | member (d : Draft) (spot : Spot) (items : List (List Char)) (k : String) (pre inner key w v : List Char)
      (outer : Due d.spot pre) (form : d.form = .object) (holds : d.Holds items) (leading : Leading items inner)
      (found : d.key? k = some spot) (spelled : Json.Spells k key) (before : Blank w) (behind : Blank v) :
      Due spot (pre ++ '{' :: (inner ++ (key ++ (w ++ ':' :: v))))
  | element (d : Draft) (spot : Spot) (items : List (List Char)) (pre inner : List Char)
      (outer : Due d.spot pre) (form : d.form = .array) (holds : d.Holds items) (leading : Leading items inner)
      (found : d.element? = some spot) : Due spot (pre ++ '[' :: inner)

namespace Draft

def Open (d : Draft) (text : List Char) : Prop :=
  ∃ pre items inner, Due d.spot pre ∧ d.Holds items ∧ Leading items inner ∧
    text = pre ++ d.bracket.opener :: inner

def After (d : Draft) (text : List Char) : Prop :=
  ∃ pre items inner, Due d.spot pre ∧ items ≠ [] ∧ d.Holds items ∧ Listed items inner ∧
    text = pre ++ d.bracket.opener :: inner

end Draft

def Reader.Stands : Reader → List Char → Prop
  | .value spot, seen => Due spot seen
  | .opened d, seen => ∃ pre w, Due d.spot pre ∧ d.Holds [] ∧ Blank w ∧ seen = pre ++ d.bracket.opener :: w
  | .comma d, seen => d.Open seen
  | .colon spot, seen => ∃ (d : Draft) (k : String) (pre key w : List Char), d.form = .object ∧ d.Open pre ∧
      d.key? k = some spot ∧ Json.Spells k key ∧ Blank w ∧ seen = pre ++ (key ++ w)
  | .after d, seen => d.After seen
  | .key q d, seen => ∃ pre body, d.form = .object ∧ d.Open pre ∧ q.checked = true ∧ q.Stands body ∧
      seen = pre ++ '"' :: body
  | .text q spot, seen => ∃ pre body, Due spot pre ∧ q.checked = true ∧ q.Stands body ∧ seen = pre ++ '"' :: body
  | .literal first rest spot, seen => ∃ pre read, Due spot pre ∧ literal? first = some (read ++ rest) ∧
      seen = pre ++ first :: read
  | .skip s d, seen => ∃ pre value, Due (.ignored d) pre ∧ s.Stands value ∧ seen = pre ++ value
  | .done f, seen => ∃ record, Record f.fields record ∧ Padded record seen
  -- None of these can end well.
  | .surplus, _ | .repeated _, _ | .numeral .., _ => True

theorem due_blank (spot : Spot) (pre w : List Char) (due : Due spot pre) (blank : Blank w) : Due spot (pre ++ w) := by
  cases due with
  | fragment u before => exact .fragment (pre ++ w) (List.forall_mem_append.mpr ⟨before, blank⟩)
  | member d spot items k pre inner key u v outer form holds leading found spelled before behind =>
      have longer := Due.member d spot items k pre inner key u (v ++ w) outer form holds leading found spelled before
        (List.forall_mem_append.mpr ⟨behind, blank⟩)
      simpa using longer
  | element d spot items pre inner outer form holds leading found =>
      rw [List.append_assoc, List.cons_append]
      exact .element d spot items pre _ outer form holds (leading_blank items inner w leading blank) found

theorem due_fits (spot : Spot) (pre v : List Char) (e : Draft) (due : Due spot pre) (fits : spot.Fits v e) :
    e.After (pre ++ v) := by
  cases due with
  | fragment => cases fits
  | member d spot items k pre inner key w u outer form holds leading found spelled before behind =>
      have named : Named (k, v) (key ++ (w ++ ':' :: (u ++ v))) := ⟨key, spelled, member_between key w u v before behind⟩
      obtain ⟨holds, sameForm, sameSpot⟩ := d.holds_member e k spot v _ items form holds found fits named
      refine ⟨pre, _, _, by rwa [sameSpot], by simp, holds, listed_last items _ inner leading, ?_⟩
      simp [Draft.bracket, sameForm, form, Bracket.opener]
  | element d spot items pre inner outer form holds leading found =>
      obtain ⟨holds, sameForm, sameSpot⟩ := d.holds_element e spot v items form holds found fits
      refine ⟨pre, _, _, by rwa [sameSpot], by simp, holds, listed_last items v inner leading, ?_⟩
      simp [Draft.bracket, sameForm, form, Bracket.opener]

theorem due_fragment (pre : List Char) (due : Due .fragment pre) : Blank pre := by
  cases due with
  | fragment _ blank => exact blank
  | member d _ _ k _ _ _ _ _ _ _ _ _ found =>
      rcases d.key_field k .fragment found with field | ⟨other, _⟩
      · cases field
      · cases other
  | element d _ _ _ _ _ _ _ _ found =>
      rcases d.element_field .fragment found with ⟨k, field, _⟩ | ⟨up, other, _⟩
      · cases field
      · cases other

theorem due_leads (spot : Spot) (pre v : List Char) (next : Reader) (due : Due spot pre) (leads : spot.Leads v next) :
    next.Stands (pre ++ v) := by
  rcases leads with ⟨rfl, f, record, rfl⟩ | ⟨d, fits, rfl⟩
  · exact ⟨v, record, pre, [], due_fragment pre due, blank_nil, by simp⟩
  · exact due_fits spot pre v d due fits

namespace Reader

theorem closed_stands (d : Draft) (next : Reader) (pre inner : List Char) (items : List (List Char)) (c : Char)
    (due : Due d.spot pre) (holds : d.Holds items) (listed : Listed items inner) (closer : c = d.bracket.closer)
    (closes : closed d = .ok next) : next.Stands (pre ++ d.bracket.opener :: inner ++ [c]) := by
  have stands := due_leads d.spot pre _ next due (d.closed_leads next items inner holds listed closes)
  simpa [closer] using stands

theorem map_ok {ε β γ : Type} (x : Except ε β) (f : β → γ) (y : γ) (mapped : x.map f = .ok y) :
    ∃ b, x = .ok b ∧ f b = y := by
  cases x with
  | error e => cases mapped
  | ok b => exact ⟨b, rfl, Except.ok.inj mapped⟩

theorem skip_begun (c : Char) (stack : List Bracket) (next : Skip.Next) (begun : Skip.begin c stack = .ok next) :
    ∃ s, next = .more s := by
  rw [Skip.begin] at begun
  split at begun
  next => exact ⟨_, (Except.ok.inj begun).symm⟩
  split at begun
  next => exact ⟨_, (Except.ok.inj begun).symm⟩
  split at begun
  next => exact ⟨_, (Except.ok.inj begun).symm⟩
  split at begun
  next => exact ⟨_, (Except.ok.inj begun).symm⟩
  next => exact ⟨_, (Except.ok.inj begun).symm⟩
  next => cases begun

theorem begin_stands (spot : Spot) (pre : List Char) (c : Char) (next : Reader) (due : Due spot pre)
    (begun : begin spot c = .ok next) : next.Stands (pre ++ [c]) := by
  by_cases ignored : ∃ d, spot = .ignored d
  · obtain ⟨d, rfl⟩ := ignored
    obtain ⟨skipped, first, rfl⟩ := map_ok _ _ _ begun
    have stands := Skip.begin_stands [] [] c skipped .root first
    obtain ⟨s, rfl⟩ := skip_begun c [] skipped first
    exact ⟨pre, [c], due, stands, rfl⟩
  · have entered (form : Form) (opens : (spot.enter form).map opened = .ok next) :
        ∃ d, next = .opened d ∧ d.form = form ∧ d.spot = spot ∧ d.Holds [] := by
      obtain ⟨d, enters, rfl⟩ := map_ok _ _ _ opens
      exact ⟨d, rfl, spot.enter_fresh form d enters⟩
    rw [begin_typed spot c fun d same => ignored ⟨d, same⟩] at begun
    split at begun
    next quote =>
      cases begun
      subst quote
      exact ⟨pre, [], due, rfl, Quote.stands_start true, rfl⟩
    next =>
      split at begun
      next square =>
        obtain ⟨d, rfl, form, rfl, holds⟩ := entered .array begun
        exact ⟨pre, [], due, holds, blank_nil, by simp [square, Draft.bracket, form, Bracket.opener]⟩
      next =>
        split at begun
        next curly =>
          obtain ⟨d, rfl, form, rfl, holds⟩ := entered .object begun
          exact ⟨pre, [], due, holds, blank_nil, by simp [curly, Draft.bracket, form, Bracket.opener]⟩
        next =>
          split at begun
          next =>
            cases begun
            trivial
          next rest literal _ =>
            cases begun
            exact ⟨pre, [], due, literal, rfl⟩
          next => cases begun

theorem key_stands (d : Draft) (pre : List Char) (form : d.form = .object) (due : d.Open pre) :
    (Reader.key (.start true) d).Stands (pre ++ ['"']) := ⟨pre, [], form, due, rfl, Quote.stands_start true, rfl⟩

theorem element_stands (d : Draft) (pre : List Char) (c : Char) (next : Reader) (form : d.form = .array)
    (due : d.Open pre) (begun : beginElement d c = .ok next) : next.Stands (pre ++ [c]) := by
  rw [beginElement] at begun
  split at begun
  next spot found =>
    obtain ⟨pre, items, inner, outer, holds, leading, rfl⟩ := due
    refine begin_stands spot _ c next ?_ begun
    have element := Due.element d spot items pre inner outer form holds leading found
    simpa [Draft.bracket, form, Bracket.opener] using element
  next => cases begun

theorem comma_stands (d : Draft) (text : List Char) (after : d.After text) : d.Open (text ++ [',']) := by
  obtain ⟨pre, items, inner, due, some, holds, listed, rfl⟩ := after
  exact ⟨pre, items, _, due, holds, leading_comma items inner some listed, by simp⟩

theorem after_stands (d : Draft) (text : List Char) (c : Char) (next : Reader) (after : d.After text)
    (stepped : stepAfter d c = .ok next) : next.Stands (text ++ [c]) := by
  have closes (closer : c = d.bracket.closer) (closes : closed d = .ok next) : next.Stands (text ++ [c]) := by
    obtain ⟨pre, items, inner, due, _, holds, listed, rfl⟩ := after
    exact closed_stands d next pre inner items c due holds listed closer closes
  rw [stepAfter] at stepped
  split at stepped
  next space =>
    cases stepped
    obtain ⟨pre, items, inner, due, some, holds, listed, rfl⟩ := after
    have listed := listed_blank items inner [c] listed (space_blank c space)
    exact ⟨pre, items, inner ++ [c], due, some, holds, listed, by simp⟩
  next =>
    cases form : d.form with
    | object =>
        simp only [form] at stepped
        split at stepped
        next closer => exact closes (by simp [closer, Draft.bracket, form, Bracket.closer]) stepped
        next =>
          split at stepped
          next comma =>
            cases stepped
            rw [comma]
            exact comma_stands d text after
          next => cases stepped
    | array =>
        simp only [form] at stepped
        split at stepped
        next closer => exact closes (by simp [closer, Draft.bracket, form, Bracket.closer]) stepped
        next =>
          split at stepped <;> split at stepped
          next comma =>
            cases stepped
            rw [comma]
            exact comma_stands d text after
          next => cases stepped
          next =>
            cases stepped
            trivial
          next => cases stepped

theorem opened_open (d : Draft) (text : List Char) (stands : (Reader.opened d).Stands text) : d.Open text := by
  obtain ⟨pre, w, due, holds, blank, rfl⟩ := stands
  exact ⟨pre, [], w, due, holds, .start w blank, rfl⟩

theorem opened_stands (d : Draft) (next : Reader) (text : List Char) (c : Char) (stands : (Reader.opened d).Stands text)
    (stepped : (Reader.opened d).step c = .ok next) : next.Stands (text ++ [c]) := by
  have due := opened_open d text stands
  obtain ⟨pre, w, outer, holds, blank, rfl⟩ := stands
  have closes (closer : c = d.bracket.closer) (closes : closed d = .ok next) :=
    closed_stands d next pre w [] c outer holds (.empty w blank) closer closes
  rw [step] at stepped
  split at stepped
  next space =>
    cases stepped
    exact ⟨pre, w ++ [c], outer, holds, List.forall_mem_append.mpr ⟨blank, space_blank c space⟩, by simp⟩
  next =>
    cases form : d.form with
    | object =>
        simp only [form] at stepped
        split at stepped
        next closer => exact closes (by simp [closer, Draft.bracket, form, Bracket.closer]) stepped
        next =>
          split at stepped
          next quote =>
            cases stepped
            rw [quote]
            exact key_stands d _ form due
          next => cases stepped
    | array =>
        simp only [form] at stepped
        split at stepped
        next closer => exact closes (by simp [closer, Draft.bracket, form, Bracket.closer]) stepped
        next => exact element_stands d _ c next form due stepped

theorem open_blank (d : Draft) (text w : List Char) (due : d.Open text) (blank : Blank w) : d.Open (text ++ w) := by
  obtain ⟨pre, items, inner, outer, holds, leading, rfl⟩ := due
  exact ⟨pre, items, inner ++ w, outer, holds, leading_blank items inner w leading blank, by simp⟩

theorem behind_comma_stands (d : Draft) (next : Reader) (text : List Char) (c : Char) (due : d.Open text)
    (stepped : (Reader.comma d).step c = .ok next) : next.Stands (text ++ [c]) := by
  rw [step] at stepped
  split at stepped
  next space =>
    cases stepped
    exact open_blank d text [c] due (space_blank c space)
  next =>
    cases form : d.form with
    | object =>
        simp only [form] at stepped
        split at stepped
        next quote =>
          cases stepped
          rw [quote]
          exact key_stands d _ form due
        next => split at stepped <;> cases stepped
    | array =>
        simp only [form] at stepped
        split at stepped
        next => cases stepped
        next => exact element_stands d _ c next form due stepped

theorem colon_stands (spot : Spot) (next : Reader) (text : List Char) (c : Char)
    (stands : (Reader.colon spot).Stands text) (stepped : (Reader.colon spot).step c = .ok next) :
    next.Stands (text ++ [c]) := by
  obtain ⟨d, k, pre, key, w, form, due, found, spelled, blank, rfl⟩ := stands
  rw [step] at stepped
  split at stepped
  next space =>
    cases stepped
    exact ⟨d, k, pre, key, w ++ [c], form, due, found, spelled,
      List.forall_mem_append.mpr ⟨blank, space_blank c space⟩, by simp⟩
  next =>
    split at stepped
    next colon =>
      cases stepped
      obtain ⟨pre, items, inner, outer, holds, leading, rfl⟩ := due
      have member := Due.member d spot items k pre inner key w [] outer form holds leading found spelled blank blank_nil
      show Due spot _
      simpa [colon, Draft.bracket, form, Bracket.opener] using member
    next => cases stepped

theorem in_key_stands (q : Quote) (d : Draft) (next : Reader) (text : List Char) (c : Char)
    (stands : (Reader.key q d).Stands text) (stepped : (Reader.key q d).step c = .ok next) :
    next.Stands (text ++ [c]) := by
  obtain ⟨pre, body, form, due, checked, stands, rfl⟩ := stands
  rw [step] at stepped
  split at stepped
  next => cases stepped
  next more moved =>
    cases stepped
    have checked := (q.checked_step more c moved).trans checked
    exact ⟨pre, body ++ [c], form, due, checked, q.stands_step more body c stands moved, by simp⟩
  next k closed =>
    cases stepped
    obtain ⟨rfl, spelled, _⟩ := q.stands_closed body c k stands closed
    cases found : d.key? k with
    | none => trivial
    | some spot => exact ⟨d, k, pre, _, [], form, due, found, spelled checked, blank_nil, by simp⟩

theorem in_text_stands (q : Quote) (spot : Spot) (next : Reader) (text : List Char) (c : Char)
    (stands : (Reader.text q spot).Stands text) (stepped : (Reader.text q spot).step c = .ok next) :
    next.Stands (text ++ [c]) := by
  obtain ⟨pre, body, due, checked, stands, rfl⟩ := stands
  rw [step] at stepped
  split at stepped
  next => cases stepped
  next more moved =>
    cases stepped
    have checked := (q.checked_step more c moved).trans checked
    exact ⟨pre, body ++ [c], due, checked, q.stands_step more body c stands moved, by simp⟩
  next s closed =>
    obtain ⟨rfl, spelled, _⟩ := q.stands_closed body c s stands closed
    obtain ⟨d, puts, rfl⟩ := map_ok _ _ _ stepped
    have after := due_fits spot pre _ d due (spot.text_fits s _ d puts (spelled checked))
    show d.After _
    simpa using after

-- No literal but null is a value of any field.
theorem literal_put (spot : Spot) (first : Char) (text rest : List Char) (next : Reader) (due : Due spot text)
    (literal : literal? first = some rest) (puts : putLiteral spot first = .ok next) :
    next.Stands (text ++ first :: rest) := by
  rw [putLiteral] at puts
  split at puts
  next initial =>
    obtain ⟨d, put, rfl⟩ := map_ok _ _ _ puts
    subst initial
    cases literal
    exact due_fits spot text null d due (spot.null_fits d put)
  next => cases puts

theorem in_literal_stands (first : Char) (rest : List Char) (spot : Spot) (next : Reader) (text : List Char) (c : Char)
    (stands : (Reader.literal first rest spot).Stands text)
    (stepped : (Reader.literal first rest spot).step c = .ok next) : next.Stands (text ++ [c]) := by
  obtain ⟨pre, read, due, literal, rfl⟩ := stands
  cases rest with
  | nil => cases stepped
  | cons d rest =>
      rw [step.eq_def] at stepped
      simp only at stepped
      split at stepped
      next => cases stepped
      next same =>
        obtain rfl := of_not_not same
        split at stepped
        next last =>
          obtain rfl := List.isEmpty_iff.mp last
          have after := literal_put spot first pre _ next due literal stepped
          simpa using after
        next =>
          cases stepped
          exact ⟨pre, read ++ [c], due, by simpa using literal, by simp⟩

theorem skip_stands (s : Skip) (d : Draft) (next : Reader) (text : List Char) (c : Char)
    (stands : (Reader.skip s d).Stands text) (stepped : (Reader.skip s d).step c = .ok next) :
    next.Stands (text ++ [c]) := by
  obtain ⟨pre, value, due, stands, rfl⟩ := stands
  rw [step] at stepped
  split at stepped
  next => cases stepped
  next passed =>
    have wellformed : Wellformed value := s.stands_step value c _ stands passed
    exact after_stands d _ c next (due_fits (.ignored d) pre value d due ⟨wellformed, rfl⟩) stepped
  next skipped proper passed =>
    cases stepped
    have reached := s.stands_step value c skipped stands passed
    rw [List.append_assoc]
    cases skipped with
    | more s => exact ⟨pre, _, due, reached, rfl⟩
    | ended => exact due_fits (.ignored d) pre _ d due ⟨reached, rfl⟩
    | endedBefore => exact absurd rfl proper

theorem stands_step (r next : Reader) (text : List Char) (c : Char) (stands : r.Stands text)
    (stepped : r.step c = .ok next) : next.Stands (text ++ [c]) := by
  cases r with
  | value spot =>
      rw [step] at stepped
      split at stepped
      next space =>
        cases stepped
        exact due_blank spot text [c] stands (space_blank c space)
      next => exact begin_stands spot text c next stands stepped
  | opened d => exact opened_stands d next text c stands stepped
  | comma d => exact behind_comma_stands d next text c stands stepped
  | surplus =>
      rw [step] at stepped
      split at stepped
      next =>
        cases stepped
        trivial
      split at stepped
      next => cases stepped
      next => cases stepped
  | repeated k =>
      rw [step] at stepped
      split at stepped
      next =>
        cases stepped
        trivial
      next => cases stepped
  | colon spot => exact colon_stands spot next text c stands stepped
  | after d => exact after_stands d text c next stands stepped
  | key q d => exact in_key_stands q d next text c stands stepped
  | text q spot => exact in_text_stands q spot next text c stands stepped
  | numeral phase chars spot =>
      rw [step] at stepped
      split at stepped
      next =>
        cases stepped
        trivial
      next => cases stepped
      next =>
        obtain ⟨e, fails⟩ := put_numeral_fails (β := Reader) spot chars
        rw [fails] at stepped
        cases stepped
  | literal first rest spot => exact in_literal_stands first rest spot next text c stands stepped
  | skip s d => exact skip_stands s d next text c stands stepped
  | done f =>
      obtain ⟨record, spelled, padded⟩ := stands
      rw [step] at stepped
      split at stepped
      next space =>
        cases stepped
        exact ⟨record, spelled, padded_blank record text [c] padded (space_blank c space)⟩
      next => cases stepped

theorem run_stands (text before : List Char) (r next : Reader) (stands : r.Stands before)
    (ran : r.run text = .ok next) : next.Stands (before ++ text) := by
  induction text generalizing r before with
  | nil =>
      cases ran
      rwa [List.append_nil]
  | cons c text ih =>
      cases stepped : r.step c with
      | error e =>
          rw [run_stopped r c text e stepped] at ran
          cases ran
      | ok more =>
          rw [run_cons r more c text stepped] at ran
          rw [List.append_cons]
          exact ih (before ++ [c]) more (r.stands_step more before c stands stepped) ran

theorem run_spells (text : List Char) (f : Fragment) (ran : (Reader.value .fragment).run text = .ok (.done f)) :
    ∃ record, Record f.fields record ∧ Padded record text :=
  run_stands text [] (.value .fragment) (.done f) (.fragment [] blank_nil) ran

end Reader

end GraphBrowser
