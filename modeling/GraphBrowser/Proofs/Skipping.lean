import GraphBrowser.Proofs.Reading

set_option autoImplicit false

namespace GraphBrowser

open Json

namespace Json

def NumeralPhase.more? (phase : NumeralPhase) (c : Char) : Option NumeralPhase :=
  match phase.step c with
  | .more next => some next
  | _ => none

theorem NumeralPhase.more_step (phase next : NumeralPhase) (c : Char) (more : phase.more? c = some next) :
    phase.step c = .more next := by
  rw [NumeralPhase.more?] at more
  split at more
  next stepped => rw [stepped, Option.some.inj more]
  next => cases more

theorem more_digits_stay (phase : NumeralPhase) (text : List Char)
    (stays : ∀ c, c.isDigit = true → phase.more? c = some phase) (digits : ∀ c ∈ text, c.isDigit = true) :
    text.foldlM NumeralPhase.more? phase = some phase := by
  induction text with
  | nil => rfl
  | cons c text ih =>
      rw [List.foldlM_cons, stays c (digits c List.mem_cons_self)]
      exact ih fun d member => digits d (List.mem_cons_of_mem _ member)

theorem more_counted (phase inside : NumeralPhase) (text : List Char) (digits : Digits text)
    (enters : ∀ c, c.isDigit = true → phase.more? c = some inside)
    (stays : ∀ c, c.isDigit = true → inside.more? c = some inside) :
    text.foldlM NumeralPhase.more? phase = some inside := by
  cases text with
  | nil => exact absurd rfl digits.1
  | cons c text =>
      rw [List.foldlM_cons, enters c (digits.2 c List.mem_cons_self)]
      exact more_digits_stay inside text stays fun d member => digits.2 d (List.mem_cons_of_mem _ member)

theorem more_whole (text : List Char) (whole : Whole text) :
    ∃ c rest phase last, text = c :: rest ∧ NumeralPhase.first? c = some phase ∧ NumeralPhase.minus.more? c = some phase ∧
      rest.foldlM NumeralPhase.more? phase = some last ∧ last ∈ [NumeralPhase.zero, .whole] := by
  cases whole with
  | zero => exact ⟨'0', [], .zero, .zero, rfl, rfl, rfl, rfl, by decide⟩
  | counted _ digits leading =>
      cases text with
      | nil => exact absurd rfl digits.1
      | cons c text =>
          have digit : c.isDigit = true := digits.2 c List.mem_cons_self
          have zero : c ≠ '0' := fun same => leading (by rw [same]; rfl)
          have minus : c ≠ '-' := by
            rintro rfl
            exact absurd digit (by decide)
          refine ⟨c, text, .whole, .whole, rfl, ?_, ?_, ?_, by decide⟩
          · rw [NumeralPhase.first?, if_neg minus, if_neg zero, if_pos digit]
          · rw [NumeralPhase.more?, NumeralPhase.step, if_neg zero, if_pos digit]
          · refine more_digits_stay .whole text ?_ fun d member => digits.2 d (List.mem_cons_of_mem _ member)
            intro d digit
            simp [NumeralPhase.more?, NumeralPhase.step, digit]

theorem more_fraction (phase : NumeralPhase) (text : List Char) (fraction : Fraction text)
    (start : phase ∈ [NumeralPhase.zero, .whole]) :
    ∃ last, text.foldlM NumeralPhase.more? phase = some last ∧ last ∈ [NumeralPhase.zero, .whole, .fraction] := by
  cases fraction with
  | none => exact ⟨phase, rfl, List.mem_append_left [NumeralPhase.fraction] start⟩
  | some text digits =>
      have point : phase.more? '.' = some .point := by
        have table : ∀ phase ∈ [NumeralPhase.zero, .whole], phase.more? '.' = some .point := by decide
        exact table phase start
      have counted : text.foldlM NumeralPhase.more? .point = some .fraction := by
        refine more_counted .point .fraction text digits ?_ ?_ <;> intro c digit <;>
          simp [NumeralPhase.more?, NumeralPhase.step, digit]
      refine ⟨.fraction, ?_, by decide⟩
      rw [List.foldlM_cons, point]
      exact counted

theorem more_exponent (phase : NumeralPhase) (text : List Char) (exponent : Exponent text)
    (start : phase ∈ [NumeralPhase.zero, .whole, .fraction]) :
    ∃ last, text.foldlM NumeralPhase.more? phase = some last ∧ last.isComplete = true := by
  cases exponent with
  | none =>
      have table : ∀ phase ∈ [NumeralPhase.zero, .whole, .fraction], phase.isComplete = true := by decide
      exact ⟨phase, rfl, table phase start⟩
  | some mark sign text marks signs digits =>
      have marked : phase.more? mark = some .exponent := by
        have table : ∀ phase ∈ [NumeralPhase.zero, .whole, .fraction],
            phase.more? 'e' = some .exponent ∧ phase.more? 'E' = some .exponent := by decide
        rcases List.mem_pair.mp marks with rfl | rfl
        · exact (table phase start).1
        · exact (table phase start).2
      have signed : ∃ next, sign.foldlM NumeralPhase.more? .exponent = some next ∧
          next ∈ [NumeralPhase.exponent, .exponentSign] := by
        have table : ∀ sign ∈ [[], ['+'], ['-']], ∃ next ∈ [NumeralPhase.exponent, .exponentSign],
            sign.foldlM NumeralPhase.more? .exponent = some next := by decide
        obtain ⟨next, phases, passed⟩ := table sign signs
        exact ⟨next, passed, phases⟩
      obtain ⟨next, passed, phases⟩ := signed
      have counted : text.foldlM NumeralPhase.more? next = some .exponentDigits := by
        refine more_counted next .exponentDigits text digits ?_ ?_
        · intro c digit
          rcases List.mem_pair.mp phases with rfl | rfl <;> simp [NumeralPhase.more?, NumeralPhase.step, digit]
        · intro c digit
          simp [NumeralPhase.more?, NumeralPhase.step, digit]
      refine ⟨.exponentDigits, ?_, rfl⟩
      simp only [List.foldlM_cons, List.cons_append, List.foldlM_append, marked, passed, counted,
        Option.bind_eq_bind, Option.bind_some]

theorem Number.read (text : List Char) (number : Number text) :
    ∃ c rest phase last, text = c :: rest ∧ NumeralPhase.first? c = some phase ∧
      rest.foldlM NumeralPhase.more? phase = some last ∧ last.isComplete = true := by
  obtain ⟨sign, whole, fraction, exponent, signs, wholeSpelled, fractionSpelled, exponentSpelled, rfl⟩ := number
  obtain ⟨c, rest, phase, middle, rfl, begins, behindMinus, passed, inWhole⟩ := more_whole whole wholeSpelled
  obtain ⟨later, passedFraction, inFraction⟩ := more_fraction middle fraction fractionSpelled inWhole
  obtain ⟨last, passedExponent, complete⟩ := more_exponent later exponent exponentSpelled inFraction
  have through : (rest ++ (fraction ++ exponent)).foldlM NumeralPhase.more? phase = some last := by
    simp only [List.foldlM_append, passed, passedFraction, passedExponent, Option.bind_eq_bind, Option.bind_some]
  rcases List.mem_pair.mp signs with rfl | rfl
  · exact ⟨c, _, phase, last, rfl, begins, through, complete⟩
  · refine ⟨'-', c :: (rest ++ (fraction ++ exponent)), .minus, last, rfl, rfl, ?_, complete⟩
    rw [List.foldlM_cons, behindMinus]
    exact through

theorem complete_ends (phase : NumeralPhase) (c : Char) (complete : phase.isComplete = true) (ends : Ends c) :
    phase.step c = .ended := by
  have outside : c.isDigit = false ∧ c ≠ '.' ∧ NumeralPhase.isExponentMark c = false := by
    simp only [Ends, blanks, List.mem_cons, List.not_mem_nil, or_false, or_assoc] at ends
    rcases ends with rfl | rfl | rfl | rfl | rfl | rfl | rfl <;> decide
  cases phase with
  | zero | whole | fraction | exponentDigits => simp [NumeralPhase.step, outside]
  | minus | point | exponent | exponentSign => cases complete

-- How a value begins, so that a reader takes none for a blank or for the end of the list.
def Begins (text : List Char) : Prop := ∃ c rest, text = c :: rest ∧ isSpace c = false ∧ c ≠ ']'

theorem quoted_begins (checked : Bool) (text : List Char) (s : String) (reads : Quote.Reads checked text s) :
    Begins text := by
  obtain ⟨body, _, rfl, _⟩ := reads
  exact ⟨'"', _, rfl, rfl, by decide⟩

theorem number_begins (c : Char) (phase : NumeralPhase) (begins : NumeralPhase.first? c = some phase) :
    isSpace c = false ∧ c ≠ ']' ∧ c ≠ '"' ∧ c ≠ '[' ∧ c ≠ '{' := by
  have other (d : Char) (never : NumeralPhase.first? d = none) : c ≠ d := by
    rintro rfl
    rw [never] at begins
    cases begins
  refine ⟨?_, other ']' rfl, other '"' rfl, other '[' rfl, other '{' rfl⟩
  simp [isSpace, other ' ' rfl, other '\n' rfl, other '\t' rfl, other '\r' rfl]

theorem wellformed_begins (text : List Char) (wellformed : Wellformed text) : Begins text := by
  cases wellformed with
  | null | true | false => exact ⟨_, _, rfl, rfl, by decide⟩
  | number _ number =>
      obtain ⟨c, rest, phase, _, rfl, begins, _⟩ := number.read
      have other := number_begins c phase begins
      exact ⟨c, rest, rfl, other.1, other.2.1⟩
  | string _ quoted =>
      obtain ⟨s, reads⟩ := quoted.read
      exact quoted_begins false text s reads
  | array | object => exact ⟨_, _, rfl, rfl, by decide⟩

end Json

namespace Reader

def behind (stack : List Bracket) (d : Draft) : Reader :=
  match stack with
  | [] => .after d
  | bracket :: stack => .skip (.after bracket stack) d

theorem skip_blank (s : Skip) (d : Draft) (stays : ∀ c, isSpace c = true → s.step c = .ok (.more s)) :
    (Reader.skip s d).Patient := by
  intro c space
  rw [step, stays c space]
  rfl

def passing (bracket : Bracket) (stack : List Bracket) (d : Draft) : Series Unit where
  opened _ := .skip (.opened bracket stack) d
  comma _ :=
    match bracket with
    | .square => .skip (.value (.square :: stack)) d
    | .curly => .skip (.key (.curly :: stack)) d
  after _ := .skip (.after bracket stack) d
  opened_patient _ := skip_blank _ d fun c space => by simp [Skip.step, space]
  comma_patient _ := by
    cases bracket <;> exact skip_blank _ d fun c space => by simp [Skip.step, space]
  after_patient _ := skip_blank _ d fun c space => by simp [Skip.step, Skip.stepAfter, space]

theorem skip_string (text rest : List Char) (stack : List Bracket) (d : Draft) (quoted : Quoted text) :
    (Reader.skip (.value stack) d).run (text ++ rest) = (behind stack d).run rest := by
  obtain ⟨s, reads⟩ := quoted.read
  refine run_quoted (fun q => .skip (.quote q false stack) d) _ _ false text rest s reads rfl ?_ ?_
  · intro q c next stepped
    simp only [step, Skip.step, stepped, afterSkip]
  · intro q closed
    simp only [step, Skip.step, closed]
    cases stack <;> rfl

theorem skip_key (before : Reader) (text rest : List Char) (stack : List Bracket) (d : Draft) (quoted : Quoted text)
    (opens : before.step '"' = .ok (.skip (.quote (.start false) true stack) d)) :
    before.run (text ++ rest) = (Reader.skip (.colon stack) d).run rest := by
  obtain ⟨s, reads⟩ := quoted.read
  refine run_quoted (fun q => .skip (.quote q true stack) d) _ _ false text rest s reads opens ?_ ?_
  · intro q c next stepped
    simp only [step, Skip.step, stepped, afterSkip]
  · intro q closed
    simp only [step, Skip.step, closed, if_true, afterSkip]

theorem skip_number (text rest : List Char) (stack : List Bracket) (d : Draft) (number : Number text)
    (delimited : Delimited rest) : (Reader.skip (.value stack) d).run (text ++ rest) = (behind stack d).run rest := by
  obtain ⟨c, digits, phase, last, rfl, begins, through, complete⟩ := number.read
  obtain ⟨e, rest, rfl, ends⟩ := delimited
  obtain ⟨space, _, quote, square, curly⟩ := number_begins c phase begins
  have opens : (Reader.skip (.value stack) d).step c = .ok (.skip (.numeral phase stack) d) := by
    simp [step, Skip.step, Skip.begin, space, quote, square, curly, begins, afterSkip]
  have hosts (phase : NumeralPhase) (c : Char) (next : NumeralPhase) (more : phase.more? c = some next) :
      (Reader.skip (.numeral phase stack) d).step c = .ok (.skip (.numeral next stack) d) := by
    simp only [step, Skip.step, phase.more_step next c more, afterSkip]
  have leaves : (Reader.skip (.numeral last stack) d).step e = (behind stack d).step e := by
    cases stack <;> simp only [step, Skip.step, complete_ends last e complete ends, behind]
  rw [List.cons_append, run_cons _ _ c _ opens,
    run_hosted NumeralPhase.more? (fun phase => .skip (.numeral phase stack) d) hosts phase last digits _ through]
  exact run_congr _ _ e rest leaves

theorem skip_opened_value (text rest : List Char) (stack : List Bracket) (d : Draft) (begins : Begins text) :
    (Reader.skip (.opened .square stack) d).run (text ++ rest) =
      (Reader.skip (.value (.square :: stack)) d).run (text ++ rest) := by
  obtain ⟨c, text, rfl, space, other⟩ := begins
  refine run_congr _ _ c (text ++ rest) ?_
  simp [step, Skip.step, space, Bracket.closer, other]

theorem skip_member (before : Reader) (key value text rest : List Char) (stack : List Bracket) (d : Draft)
    (quoted : Quoted key) (member : Member key value text)
    (opens : before.step '"' = .ok (.skip (.quote (.start false) true stack) d))
    (takes : (Reader.skip (.value stack) d).run (value ++ rest) = (behind stack d).run rest) :
    before.run (text ++ rest) = (behind stack d).run rest := by
  obtain ⟨w, v, blankBefore, blankBehind, rfl⟩ := member
  have colon : (Reader.skip (.colon stack) d).Patient := skip_blank _ d fun c space => by simp [Skip.step, space]
  have still : (Reader.skip (.value stack) d).Patient := skip_blank _ d fun c space => by simp [Skip.step, space]
  have divides : (Reader.skip (.colon stack) d).step ':' = .ok (.skip (.value stack) d) := rfl
  simp only [List.append_assoc, List.cons_append]
  rw [skip_key before key _ stack d quoted opens, run_blank _ w _ colon blankBefore, run_cons _ _ _ _ divides,
    run_blank _ v _ still blankBehind, takes]

theorem run_passing (bracket : Bracket) (stack : List Bracket) (d : Draft) (items : List (List Char))
    (inner rest : List Char) (listed : Listed items inner) (path : (passing bracket stack d).Path () items ()) :
    (Reader.skip (.opened bracket stack) d).run (inner ++ bracket.closer :: rest) = (behind stack d).run rest := by
  have ends : Ends bracket.closer := by cases bracket <;> simp [Ends, Bracket.closer]
  have empty : (Reader.skip (.opened bracket stack) d).step bracket.closer = .ok (behind stack d) := by
    cases bracket <;> cases stack <;> rfl
  have closed : (Reader.skip (.after bracket stack) d).step bracket.closer = .ok (behind stack d) := by
    cases bracket <;> cases stack <;> rfl
  have inside := (passing bracket stack d).run_listed () () items inner bracket.closer rest ends
    (empty.trans closed.symm) listed path
  exact inside.trans (run_cons _ _ _ _ closed)

-- By induction on the value; the stack grows with every bracket, so it stands for any depth.
theorem skip_value (text : List Char) (wellformed : Wellformed text) (stack : List Bracket) (d : Draft)
    (rest : List Char) (delimited : Delimited rest) :
    (Reader.skip (.value stack) d).run (text ++ rest) = (behind stack d).run rest := by
  induction wellformed generalizing stack rest with
  | null | true | false => cases stack <;> rfl
  | number text number => exact skip_number text rest stack d number delimited
  | string text quoted => exact skip_string text rest stack d quoted
  | array values inner wellformed listed ih =>
      have takes (v : List Char) (member : v ∈ values) : (passing .square stack d).Takes () v () := by
        have later (rest : List Char) (delimited : Delimited rest) :
            (Reader.skip (.value (.square :: stack)) d).run (v ++ rest) =
              (Reader.skip (.after .square stack) d).run rest := ih v member (.square :: stack) rest delimited
        have begins := wellformed_begins v (wellformed v member)
        exact ⟨rfl, fun rest delimited => (skip_opened_value v rest stack d begins).trans (later rest delimited), later⟩
      have path := Series.path_still (passing .square stack d) () values values (List.forall₂_same.mpr takes)
      rw [List.append_assoc, List.cons_append, run_cons _ (.skip (.opened .square stack) d) '[' _ rfl]
      exact run_passing .square stack d values inner rest listed path
  | object members texts inner keys wellformed written listed ih =>
      have takes (m : List Char × List Char) (text : List Char)
          (facts : (m ∈ members) ∧ Member m.1 m.2 text) : (passing .curly stack d).Takes () text () := by
        obtain ⟨listed, member⟩ := facts
        have taken (before : Reader)
            (opens : before.step '"' = .ok (.skip (.quote (.start false) true (.curly :: stack)) d))
            (rest : List Char) (delimited : Delimited rest) :
            before.run (text ++ rest) = (Reader.skip (.after .curly stack) d).run rest :=
          skip_member before m.1 m.2 text rest (.curly :: stack) d (keys m listed) member opens
            (ih m listed (.curly :: stack) rest delimited)
        exact ⟨rfl, taken _ rfl, taken _ rfl⟩
      have path := Series.path_still (passing .curly stack d) () members texts
        (((List.forall₂_and_left members texts).mpr ⟨fun _ listed => listed, written⟩).imp takes)
      rw [List.append_assoc, List.cons_append, run_cons _ (.skip (.opened .curly stack) d) '{' _ rfl]
      exact run_passing .curly stack d texts inner rest listed path

theorem begin_goes_on (c : Char) (stack : List Bracket) : Skip.begin c stack ≠ .ok .endedBefore := by
  fun_cases Skip.begin c stack <;> simp

theorem ignored_value (text rest : List Char) (d : Draft) (wellformed : Wellformed text) (delimited : Delimited rest) :
    (Reader.value (.ignored d)).run (text ++ rest) = (Reader.after d).run rest := by
  refine Eq.trans ?_ (skip_value text wellformed [] d rest delimited)
  obtain ⟨c, text, rfl, space, _⟩ := wellformed_begins text wellformed
  refine run_congr _ _ c (text ++ rest) ?_
  have same : (Skip.value []).step c = Skip.begin c [] := by simp [Skip.step, space]
  simp only [step, begin, same, space, Bool.false_eq_true, if_false]
  cases begun : Skip.begin c [] with
  | error e => rfl
  | ok next =>
      cases next with
      | more | ended => rfl
      | endedBefore => exact absurd begun (begin_goes_on c [])

end Reader

end GraphBrowser
