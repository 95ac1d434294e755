import GraphBrowser.Proofs.Breaking
import GraphBrowser.Proofs.Filling
import GraphBrowser.Proofs.Insertion
import GraphBrowser.Proofs.Matching
import GraphBrowser.Proofs.Records

set_option autoImplicit false

namespace GraphBrowser

open Json

namespace Reader

def Meets (r : Reader) (text rest : List Char) (P : Reader → Prop) : Prop :=
  (∃ e, r.run (text ++ rest) = .error e) ∨ ∃ next, P next ∧ r.run (text ++ rest) = next.run rest

theorem run_stopped (r : Reader) (c : Char) (rest : List Char) (e : DecodeError) (stopped : r.step c = .error e) :
    r.run (c :: rest) = .error e := by
  rw [run, List.foldlM_cons, stopped]
  rfl

section

variable {P Q : Reader → Prop}

theorem meets_append (r : Reader) (first second rest : List Char) (meets : r.Meets first (second ++ rest) P)
    (further : ∀ next, P next → next.Meets second rest Q) : r.Meets (first ++ second) rest Q := by
  rw [Meets, List.append_assoc]
  rcases meets with refused | ⟨next, holds, passed⟩
  · exact .inl refused
  · rw [passed]
    exact further next holds

theorem meets_imp (r : Reader) (text rest : List Char) (weaker : ∀ next, P next → Q next)
    (meets : r.Meets text rest P) : r.Meets text rest Q := by
  rcases meets with refused | ⟨next, holds, passed⟩
  · exact .inl refused
  · exact .inr ⟨next, weaker next holds, passed⟩

theorem meets_cons (r : Reader) (c : Char) (text rest : List Char)
    (further : ∀ next, r.step c = .ok next → next.Meets text rest P) : r.Meets (c :: text) rest P := by
  cases stepped : r.step c with
  | error e => exact .inl ⟨e, r.run_stopped c _ e stepped⟩
  | ok next =>
      rw [Meets, List.cons_append, run_cons r next c _ stepped]
      exact further next stepped

theorem meets_stopped (r : Reader) (c : Char) (text rest : List Char) (e : DecodeError) (stopped : r.step c = .error e) :
    r.Meets (c :: text) rest P := .inl ⟨e, r.run_stopped c (text ++ rest) e stopped⟩

theorem meets_blank (r : Reader) (w text rest : List Char) (patient : r.Patient) (blank : Blank w)
    (meets : r.Meets text rest P) : r.Meets (w ++ text) rest P := by
  rwa [Meets, List.append_assoc, r.run_blank w _ patient blank]

theorem meets_still (r : Reader) (w rest : List Char) (patient : r.Patient) (blank : Blank w) (holds : P r) :
    r.Meets w rest P := .inr ⟨r, holds, r.run_blank w rest patient blank⟩

end

theorem run_broken (host : Quote → Reader) (before : Reader) (text rest : List Char) (breaks : Quote.Breaks text)
    (opens : before.step '"' = .ok (host (.start true)))
    (hosts : ∀ q c next, q.step c = .ok (.more next) → (host q).step c = .ok (host next))
    (stops : ∀ q c e, q.step c = .error e → (host q).step c = .error e) : ∃ e, before.run (text ++ rest) = .error e := by
  obtain ⟨body, c, behind, last, e, rfl, through, broken⟩ := breaks
  refine ⟨e, ?_⟩
  rw [List.cons_append, List.append_assoc, run_cons _ _ _ _ opens,
    run_hosted Quote.more? host (fun q c next more => hosts q c next (q.more_step next c more)) _ _ body _ through]
  exact run_stopped _ c _ e (stops last c e broken)

theorem put_numeral_fails {β : Type} (spot : Spot) (chars : List Char) :
    ∃ e, (putNumeral spot chars : Except DecodeError β) = .error e := by
  rw [putNumeral]
  cases (Numeral.parts chars.reverse).value <;> exact ⟨_, rfl⟩

theorem begin_typed (spot : Spot) (c : Char) (typed : ∀ d, spot ≠ .ignored d) :
    begin spot c =
      if c = '"' then .ok (.text (.start true) spot)
      else if c = '[' then (spot.enter .array).map .opened
      else if c = '{' then (spot.enter .object).map .opened
      else
        match NumeralPhase.first? c, literal? c with
        | some phase, _ => .ok (.numeral phase [c] spot)
        | _, some rest => .ok (.literal c rest spot)
        | none, none => .error .expectedValue := by
  cases spot with
  | ignored d => exact absurd rfl (typed d)
  | _ => rfl

theorem run_numeral (phase last : NumeralPhase) (chars text rest : List Char) (spot : Spot)
    (through : text.foldlM NumeralPhase.more? phase = some last) :
    ∃ read, (Reader.numeral phase chars spot).run (text ++ rest) = (Reader.numeral last read spot).run rest := by
  induction text generalizing phase chars with
  | nil =>
      obtain rfl : phase = last := Option.some.inj through
      exact ⟨chars, rfl⟩
  | cons c text ih =>
      rw [List.foldlM_cons] at through
      obtain ⟨next, more, through⟩ := Option.bind_eq_some_iff.mp through
      have stepped : (Reader.numeral phase chars spot).step c = .ok (.numeral next (c :: chars) spot) := by
        simp only [step, phase.more_step next c more]
      rw [List.cons_append, run_cons _ _ c _ stepped]
      exact ih next (c :: chars) through

section

variable (spot : Spot) (typed : ∀ d, spot ≠ .ignored d)

include typed

theorem literal_met (text rest : List Char) (literal : text ∈ [null, "true".toList, "false".toList]) :
    (Reader.value spot).Meets text rest spot.Behind := by
  simp only [List.mem_cons, List.not_mem_nil, or_false] at literal
  cases spot with
  | ignored d => exact absurd rfl (typed d)
  | label up =>
      rcases literal with rfl | rfl | rfl
      · exact .inr ⟨.after (.node { up with label := some none }), .inr ⟨_, ⟨none, rfl⟩, rfl⟩, rfl⟩
      · exact .inl ⟨_, rfl⟩
      · exact .inl ⟨_, rfl⟩
  | _ => rcases literal with rfl | rfl | rfl <;> exact .inl ⟨_, rfl⟩

theorem number_met (text rest : List Char) (number : Number text) (delimited : Delimited rest) :
    (Reader.value spot).Meets text rest spot.Behind := by
  obtain ⟨c, digits, phase, last, rfl, begins, through, complete⟩ := number.read
  obtain ⟨e, rest, rfl, ends⟩ := delimited
  obtain ⟨space, _, quote, square, curly⟩ := number_begins c phase begins
  have opens : (Reader.value spot).step c = .ok (.numeral phase [c] spot) := by
    simp [step, space, begin_typed spot c typed, quote, square, curly, begins]
  obtain ⟨read, passed⟩ := run_numeral phase last [c] digits (e :: rest) spot through
  obtain ⟨cause, fails⟩ := put_numeral_fails (β := Reader) spot read
  have stopped : (Reader.numeral last read spot).step e = .error cause := by
    simp only [step, complete_ends last e complete ends, fails]
  exact .inl ⟨cause, by rw [List.cons_append, run_cons _ _ _ _ opens, passed, run_stopped _ _ _ _ stopped]⟩

theorem string_met (text rest : List Char) (quoted : Quoted text) :
    (Reader.value spot).Meets text rest spot.Behind := by
  have opens : (Reader.value spot).step '"' = .ok (.text (.start true) spot) := by
    simp [step, isSpace, begin_typed spot '"' typed]
  have hosts (q : Quote) (c : Char) (next : Quote) (stepped : q.step c = .ok (.more next)) :
      (Reader.text q spot).step c = .ok (.text next spot) := by simp only [step, stepped]
  rcases quoted.reads_or_breaks with ⟨s, reads⟩ | breaks
  · cases puts : spot.putText s with
    | ok d =>
        refine .inr ⟨.after d, .inr ⟨d, spot.filled_text s d puts, rfl⟩, ?_⟩
        refine run_quoted (fun q => .text q spot) _ _ true text rest s reads opens hosts fun q closed => ?_
        simp only [step, closed, puts, Except.map]
    | error e =>
        obtain ⟨body, last, rfl, through, closed⟩ := reads
        have stopped : (Reader.text last spot).step '"' = .error e := by simp only [step, closed, puts, Except.map]
        refine .inl ⟨e, ?_⟩
        rw [List.cons_append, List.cons_append, run_cons _ _ _ _ opens, List.append_assoc,
          run_hosted Quote.more? (fun q => .text q spot) (fun q c next more => hosts q c next (q.more_step next c more)) _ _
            body _ through]
        exact run_stopped _ '"' _ e stopped
  · refine .inl (run_broken (fun q => .text q spot) _ text rest breaks opens hosts fun q c e broken => ?_)
    simp only [step, broken]

end

def Ready (d : Draft) (r : Reader) : Prop := r = .opened d ∨ (Reader.after d).step ',' = .ok r

theorem ready_cases (d : Draft) (r : Reader) (ready : Ready d r) :
    r = .opened d ∨ r = .comma d ∨ r = .surplus ∧ d.form = .array ∧ d.element? = none := by
  rcases ready with rfl | separated
  · exact .inl rfl
  · right
    cases form : d.form with
    | object =>
        simp only [step, stepAfter, isSpace, form] at separated
        cases separated
        exact .inl rfl
    | array =>
        cases element : d.element? with
        | none =>
            simp only [step, stepAfter, isSpace, form, element] at separated
            cases separated
            exact .inr ⟨rfl, rfl, rfl⟩
        | some spot =>
            simp only [step, stepAfter, isSpace, form, element] at separated
            cases separated
            exact .inl rfl

theorem ready_patient (d : Draft) (r : Reader) (ready : Ready d r) : r.Patient := by
  rcases ready_cases d r ready with rfl | rfl | ⟨rfl, _⟩ <;> exact fun c space => by simp [step, space]

-- An item of drafts in this form, behind which they know the key.
def Taken (form : Form) (item : List Char) (k : String) : Prop :=
  ∀ d r rest, d.form = form → Ready d r → Delimited rest →
    r.Meets item rest fun next => ∃ e, d.Grown e ∧ e.Knows k ∧ next = .after e

theorem padded_met (form : Form) (item text : List Char) (k : String) (c : Char) (rest : List Char) (d : Draft)
    (r : Reader) (taken : Taken form item k) (padded : Padded item text) (ends : Ends c) (same : d.form = form)
    (ready : Ready d r) : r.Meets text (c :: rest) fun next => ∃ e, d.Grown e ∧ e.Knows k ∧ next = .after e := by
  obtain ⟨w, v, before, behind, rfl⟩ := padded
  refine meets_blank r w _ _ (ready_patient d r ready) before ?_
  refine meets_append r item v _ (taken d r _ same ready (blank_delimits v rest c behind ends)) ?_
  rintro _ ⟨e, grown, knows, rfl⟩
  exact meets_still _ v _ (listing.after_patient e) behind ⟨e, grown, knows, rfl⟩

-- By induction on the items; what is known behind one is known behind all that follow.
theorem leading_met (form : Form) (items : List (List Char)) (ks : List String) (text rest : List Char)
    (taken : List.Forall₂ (Taken form) items ks) (leading : Leading items text) (d : Draft) (r : Reader)
    (same : d.form = form) (ready : Ready d r) :
    r.Meets text rest fun next => ∃ e, d.Grown e ∧ Ready e next ∧ ∀ k ∈ ks, e.Knows k := by
  induction taken generalizing text d r with
  | nil =>
      cases leading with | start _ blank =>
      exact meets_still r text rest (ready_patient d r ready) blank ⟨d, d.grown_self, ready, nofun⟩
  | @cons item k items ks first _ ih =>
      cases leading with | more _ text _ others padded leading =>
      refine meets_append r text _ _ (padded_met form item text k ',' _ d r first padded (by simp [Ends]) same ready) ?_
      rintro _ ⟨e, grown, knows, rfl⟩
      refine meets_cons _ ',' others rest fun next separated => ?_
      refine meets_imp _ _ _ ?_ (ih others leading e next (grown.form.trans same) (.inr separated))
      rintro _ ⟨f, further, ready, known⟩
      exact ⟨f, grown.trans d e f further, ready, List.forall_mem_cons.mpr ⟨further.knows e f k knows, known⟩⟩

theorem closer_closes (d : Draft) :
    (Reader.after d).step d.form.closer = closed d ∧ (Reader.opened d).step d.form.closer = closed d := by
  cases form : d.form <;> simp [step, stepAfter, isSpace, form, Form.closer]

theorem closer_met (d e : Draft) (r : Reader) (rest : List Char) (grown : d.Grown e)
    (closes : r.step e.form.closer = closed e) :
    r.Meets [e.form.closer] rest fun next => ∃ e, d.Grown e ∧ closed e = .ok next := by
  refine meets_cons r _ [] rest fun next stepped => ?_
  exact .inr ⟨next, ⟨e, grown, closes.symm.trans stepped⟩, rfl⟩

theorem listed_met (items : List (List Char)) (inner rest : List Char) (listed : Listed items inner) (d e : Draft)
    (r : Reader) (taken : ∀ item ∈ items, ∃ k, Taken d.form item k) (grown : d.Grown e) (ready : Ready e r)
    (closes : items = [] → r.step e.form.closer = closed e) :
    r.Meets (inner ++ [d.form.closer]) rest fun next => ∃ e, d.Grown e ∧ closed e = .ok next := by
  have form := grown.form
  induction listed generalizing e r with
  | empty w blank =>
      rw [← form]
      exact meets_blank r w _ rest (ready_patient e r ready) blank (closer_met d e r rest grown (closes rfl))
  | last item text padded =>
      obtain ⟨k, taken⟩ := taken item (List.mem_singleton_self item)
      have ends : Ends d.form.closer := by cases d.form <;> simp [Ends, Form.closer]
      refine meets_append r text _ rest (padded_met d.form item text k _ rest e r taken padded ends form ready) ?_
      rintro _ ⟨f, further, _, rfl⟩
      have grown := grown.trans d e f further
      rw [← grown.form]
      exact closer_met d f _ rest grown (closer_closes f).1
  | more item text second items others padded _ ih =>
      obtain ⟨k, first⟩ := taken item List.mem_cons_self
      rw [List.append_assoc]
      refine meets_append r text _ rest (padded_met d.form item text k ',' _ e r first padded (by simp [Ends]) form ready) ?_
      rintro _ ⟨f, further, _, rfl⟩
      refine meets_cons _ ',' _ rest fun next separated => ?_
      have grown := grown.trans d e f further
      exact ih f next (fun item member => taken item (List.mem_cons_of_mem _ member)) grown (.inr separated)
        (fun none => absurd none (List.cons_ne_nil second items)) grown.form

def Read (text : List Char) : Prop :=
  ∀ spot rest, Delimited rest → (Reader.value spot).Meets text rest spot.Behind

theorem element_taken (text : List Char) (wellformed : Wellformed text) (read : Read text) :
    Taken .array text "node" := by
  intro d r rest form ready delimited
  obtain ⟨c, text, rfl, space, other⟩ := wellformed_begins text wellformed
  cases element : d.element? with
  | none =>
      have stopped : r.step c = .error .trailingCharacters := by
        rcases ready_cases d r ready with rfl | rfl | ⟨rfl, _⟩ <;> simp [step, space, form, other, beginElement, element]
      exact .inl ⟨_, run_stopped r c _ _ stopped⟩
  | some spot =>
      have same : r.step c = (Reader.value spot).step c := by
        rcases ready_cases d r ready with rfl | rfl | ⟨_, _, full⟩
        · simp [step, space, form, other, beginElement, element]
        · simp [step, space, form, other, beginElement, element]
        · rw [element] at full
          cases full
      have met := meets_imp _ _ _ (d.element_grown spot · element) (read spot rest delimited)
      rwa [Meets, List.cons_append, run_congr r _ c _ same]

theorem ready_key (d : Draft) (r : Reader) (form : d.form = .object) (ready : Ready d r) :
    r.step '"' = .ok (.key (.start true) d) := by
  rcases ready_cases d r ready with rfl | rfl | ⟨_, array, _⟩
  · simp [step, isSpace, form]
  · simp [step, isSpace, form]
  · rw [form] at array
    cases array

theorem run_key (d : Draft) (r : Reader) (k : String) (key rest : List Char) (form : d.form = .object) (ready : Ready d r)
    (reads : Quote.Reads true key k) :
    r.run (key ++ rest) = (((d.key? k).map Reader.colon).getD (.repeated k)).run rest := by
  refine run_quoted (fun q => .key q d) _ _ true key rest k reads (ready_key d r form ready) ?_ ?_
  · intro q c more stepped
    simp only [step, stepped]
  · intro q closed
    simp only [step, closed]

theorem repeated_refused (d : Draft) (r : Reader) (k : String) (key value text rest : List Char) (form : d.form = .object)
    (ready : Ready d r) (reads : Quote.Reads true key k) (member : Member key value text) (known : d.key? k = none) :
    ∃ e, r.run (text ++ rest) = .error e := by
  obtain ⟨w, v, before, _, rfl⟩ := member
  have patient : (Reader.repeated k).Patient := fun c space => by simp [step, space]
  refine ⟨.duplicateField k, ?_⟩
  rw [List.append_assoc, run_key d r k key _ form ready reads, known, List.append_assoc]
  exact (run_blank _ w _ patient before).trans (run_stopped _ ':' _ _ rfl)

theorem member_taken (k : String) (key value text : List Char) (reads : Quote.Reads true key k)
    (member : Member key value text) (read : Read value) : Taken .object text k := by
  intro d r rest form ready delimited
  cases found : d.key? k with
  | none => exact .inl (repeated_refused d r k key value text rest form ready reads member found)
  | some spot =>
      obtain ⟨w, v, before, behind, rfl⟩ := member
      have named (tail : List Char) : r.run (key ++ tail) = (Reader.colon spot).run tail := by
        rw [run_key d r k key tail form ready reads, found]
        rfl
      have divides : (Reader.colon spot).step ':' = .ok (.value spot) := rfl
      have met := meets_imp _ _ _ (d.key_grown k spot · found) (read spot rest delimited)
      rw [Meets, List.append_assoc, named, List.append_assoc, run_blank _ w _ (colon_patient spot) before,
        List.cons_append, run_cons _ _ _ _ divides, List.append_assoc, run_blank _ v _ (value_patient spot) behind]
      exact met

theorem broken_taken (k : String) (key value text : List Char) (breaks : Quote.Breaks key)
    (member : Member key value text) : Taken .object text k := by
  intro d r rest form ready _
  obtain ⟨w, v, _, _, rfl⟩ := member
  rw [Meets, List.append_assoc]
  refine .inl (run_broken (fun q => .key q d) r key _ breaks (ready_key d r form ready) ?_ ?_)
  · intro q c more stepped
    simp only [step, stepped]
  · intro q c e broken
    simp only [step, broken]

theorem entered_met (spot : Spot) (form : Form) (items : List (List Char)) (inner rest : List Char)
    (listed : Listed items inner) (taken : ∀ item ∈ items, ∃ k, Taken form item k) (r : Reader) (c : Char)
    (opens : r.step c = (spot.enter form).map .opened) :
    r.Meets (c :: inner ++ [form.closer]) rest spot.Behind := by
  refine meets_cons r c _ rest fun next stepped => ?_
  rw [opens] at stepped
  cases enters : spot.enter form with
  | error e =>
      rw [enters] at stepped
      cases stepped
  | ok d =>
      rw [enters] at stepped
      cases stepped
      obtain rfl := spot.enter_form form d enters
      refine meets_imp _ _ _ ?_ (listed_met items inner rest listed d d _ taken d.grown_self (.inl rfl)
        fun _ => (closer_closes d).2)
      rintro next ⟨e, grown, closes⟩
      exact spot.behind_closed d.form d e next enters grown closes

-- By induction on the value.
theorem wellformed_read (text : List Char) (wellformed : Wellformed text) : Read text := by
  have anywhere (text : List Char) (wellformed : Wellformed text)
      (read : ∀ spot, (∀ d, spot ≠ .ignored d) → ∀ rest, Delimited rest → (Reader.value spot).Meets text rest spot.Behind) :
      Read text := by
    intro spot rest delimited
    by_cases ignored : ∃ d, spot = .ignored d
    · obtain ⟨d, rfl⟩ := ignored
      exact .inr ⟨.after d, .inr ⟨d, rfl, rfl⟩, ignored_value text rest d wellformed delimited⟩
    · exact read spot (fun d same => ignored ⟨d, same⟩) rest delimited
  induction wellformed with
  | null => exact anywhere _ .null fun spot typed rest _ => literal_met spot typed _ rest (by decide)
  | true => exact anywhere _ .true fun spot typed rest _ => literal_met spot typed _ rest (by decide)
  | false => exact anywhere _ .false fun spot typed rest _ => literal_met spot typed _ rest (by decide)
  | number text number =>
      exact anywhere text (.number text number) fun spot typed rest => number_met spot typed text rest number
  | string text quoted =>
      exact anywhere text (.string text quoted) fun spot typed rest _ => string_met spot typed text rest quoted
  | array values inner wellformed listed ih =>
      refine anywhere _ (.array values inner wellformed listed) fun spot typed rest _ => ?_
      refine entered_met spot .array values inner rest listed ?_ _ '[' (by simp [step, isSpace, begin_typed spot '[' typed])
      exact fun v member => ⟨"node", element_taken v (wellformed v member) (ih v member)⟩
  | object members texts inner keys wellformed written listed ih =>
      refine anywhere _ (.object members texts inner keys wellformed written listed) fun spot typed rest _ => ?_
      refine entered_met spot .object texts inner rest listed ?_ _ '{' (by simp [step, isSpace, begin_typed spot '{' typed])
      intro text member
      obtain ⟨m, present, member⟩ := matching_right written text member
      rcases (keys m present).reads_or_breaks with ⟨k, reads⟩ | breaks
      · exact ⟨k, member_taken k m.1 m.2 text reads member (ih m present)⟩
      · exact ⟨"", broken_taken "" m.1 m.2 text breaks member⟩

end Reader

end GraphBrowser
