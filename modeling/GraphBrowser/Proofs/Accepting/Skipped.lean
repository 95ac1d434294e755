import GraphBrowser.Proofs.Accepting.Strings
import GraphBrowser.Proofs.Insertion
import GraphBrowser.Proofs.Matching
import GraphBrowser.Proofs.Skipping

set_option autoImplicit false

namespace GraphBrowser.Json

namespace NumeralPhase

def Unsigned : NumeralPhase → List Char → Prop
  | .minus, text => text = []
  | .zero, text => text = ['0']
  | .whole, text => Digits text ∧ text.head? ≠ some '0'
  | .point, text => ∃ whole, Whole whole ∧ text = whole ++ ['.']
  | .fraction, text => ∃ whole digits, Whole whole ∧ Digits digits ∧ text = whole ++ '.' :: digits
  | .exponent, text => ∃ whole fraction mark, Whole whole ∧ Fraction fraction ∧ mark ∈ ['e', 'E'] ∧
      text = whole ++ (fraction ++ [mark])
  | .exponentSign, text => ∃ whole fraction mark sign, Whole whole ∧ Fraction fraction ∧ mark ∈ ['e', 'E'] ∧
      sign ∈ [[], ['+'], ['-']] ∧ text = whole ++ (fraction ++ mark :: sign)
  | .exponentDigits, text => ∃ whole fraction mark sign digits, Whole whole ∧ Fraction fraction ∧ mark ∈ ['e', 'E'] ∧
      sign ∈ [[], ['+'], ['-']] ∧ Digits digits ∧ text = whole ++ (fraction ++ (mark :: sign ++ digits))

def Stands (phase : NumeralPhase) (text : List Char) : Prop :=
  ∃ sign unsigned, sign ∈ [[], ['-']] ∧ phase.Unsigned unsigned ∧ text = sign ++ unsigned

theorem digits_single (c : Char) (digit : c.isDigit = true) : Digits [c] :=
  ⟨List.cons_ne_nil c [], List.forall_mem_singleton.mpr digit⟩

theorem digits_more (text : List Char) (c : Char) (digits : Digits text) (digit : c.isDigit = true) :
    Digits (text ++ [c]) :=
  ⟨List.append_ne_nil_of_left_ne_nil digits.1 [c],
    List.forall_mem_append.mpr ⟨digits.2, List.forall_mem_singleton.mpr digit⟩⟩

theorem stands_first (c : Char) (phase : NumeralPhase) (begins : first? c = some phase) : phase.Stands [c] := by
  rw [first?] at begins
  split at begins
  next minus =>
    cases begins
    exact ⟨['-'], [], by decide, rfl, by rw [minus]; rfl⟩
  next =>
    split at begins
    next zero =>
      cases begins
      exact ⟨[], ['0'], by decide, rfl, by rw [zero]; rfl⟩
    next zero =>
      split at begins
      next digit =>
        cases begins
        exact ⟨[], [c], by decide, ⟨digits_single c digit, by simpa using zero⟩, rfl⟩
      next => cases begins

theorem mark_listed (c : Char) (mark : isExponentMark c = true) : c ∈ ['e', 'E'] := by
  simpa [isExponentMark] using mark

theorem unsigned_step (phase next : NumeralPhase) (text : List Char) (c : Char) (unsigned : phase.Unsigned text)
    (stepped : phase.step c = .more next) : next.Unsigned (text ++ [c]) := by
  cases phase with
  | minus =>
      obtain rfl := unsigned
      rw [step] at stepped
      split at stepped
      next zero =>
        cases stepped
        rw [zero]
        rfl
      next zero =>
        split at stepped
        next digit =>
          cases stepped
          exact ⟨digits_single c digit, by simpa using zero⟩
        next => cases stepped
  | zero =>
      obtain rfl := unsigned
      rw [step] at stepped
      split at stepped
      next => cases stepped
      split at stepped
      next point =>
        cases stepped
        exact ⟨['0'], .zero, by rw [point]⟩
      next =>
        split at stepped
        next mark =>
          cases stepped
          exact ⟨['0'], [], c, .zero, .none, mark_listed c mark, rfl⟩
        next => cases stepped
  | whole =>
      obtain ⟨digits, leading⟩ := unsigned
      rw [step] at stepped
      split at stepped
      next digit =>
        cases stepped
        refine ⟨digits_more text c digits digit, ?_⟩
        rwa [List.head?_append_of_ne_nil text digits.1]
      next =>
        split at stepped
        next point =>
          cases stepped
          exact ⟨text, .counted text digits leading, by rw [point]⟩
        next =>
          split at stepped
          next mark =>
            cases stepped
            exact ⟨text, [], c, .counted text digits leading, .none, mark_listed c mark, rfl⟩
          next => cases stepped
  | point =>
      obtain ⟨whole, spelled, rfl⟩ := unsigned
      rw [step] at stepped
      split at stepped
      next digit =>
        cases stepped
        exact ⟨whole, [c], spelled, digits_single c digit, by simp⟩
      next => cases stepped
  | fraction =>
      obtain ⟨whole, digits, spelled, counted, rfl⟩ := unsigned
      rw [step] at stepped
      split at stepped
      next digit =>
        cases stepped
        exact ⟨whole, digits ++ [c], spelled, digits_more digits c counted digit, by simp⟩
      next =>
        split at stepped
        next mark =>
          cases stepped
          exact ⟨whole, '.' :: digits, c, spelled, .some digits counted, mark_listed c mark, by simp⟩
        next => cases stepped
  | exponent =>
      obtain ⟨whole, fraction, mark, spelled, broken, marks, rfl⟩ := unsigned
      rw [step] at stepped
      split at stepped
      next digit =>
        cases stepped
        exact ⟨whole, fraction, mark, [], [c], spelled, broken, marks, by decide, digits_single c digit, by simp⟩
      next =>
        split at stepped
        next sign =>
          cases stepped
          exact ⟨whole, fraction, mark, [c], spelled, broken, marks, by simpa using sign, by simp⟩
        next => cases stepped
  | exponentSign =>
      obtain ⟨whole, fraction, mark, sign, spelled, broken, marks, signs, rfl⟩ := unsigned
      rw [step] at stepped
      split at stepped
      next digit =>
        cases stepped
        exact ⟨whole, fraction, mark, sign, [c], spelled, broken, marks, signs, digits_single c digit, by simp⟩
      next => cases stepped
  | exponentDigits =>
      obtain ⟨whole, fraction, mark, sign, digits, spelled, broken, marks, signs, counted, rfl⟩ := unsigned
      rw [step] at stepped
      split at stepped
      next digit =>
        cases stepped
        exact ⟨whole, fraction, mark, sign, digits ++ [c], spelled, broken, marks, signs, digits_more digits c counted digit,
          by simp⟩
      next => cases stepped

theorem stands_step (phase next : NumeralPhase) (text : List Char) (c : Char) (stands : phase.Stands text)
    (stepped : phase.step c = .more next) : next.Stands (text ++ [c]) := by
  obtain ⟨sign, unsigned, signs, before, rfl⟩ := stands
  exact ⟨sign, unsigned ++ [c], signs, unsigned_step phase next unsigned c before stepped, List.append_assoc _ _ _⟩

theorem stands_ended (phase : NumeralPhase) (text : List Char) (c : Char) (stands : phase.Stands text)
    (ended : phase.step c = .ended) : Number text := by
  obtain ⟨sign, unsigned, signs, before, rfl⟩ := stands
  cases phase with
  | zero =>
      obtain rfl := before
      exact ⟨sign, ['0'], [], [], signs, .zero, .none, .none, rfl⟩
  | whole => exact ⟨sign, unsigned, [], [], signs, .counted unsigned before.1 before.2, .none, .none, by simp⟩
  | fraction =>
      obtain ⟨whole, digits, spelled, counted, rfl⟩ := before
      exact ⟨sign, whole, '.' :: digits, [], signs, spelled, .some digits counted, .none, by simp⟩
  | exponentDigits =>
      obtain ⟨whole, fraction, mark, sign', digits, spelled, broken, marks, signs', counted, rfl⟩ := before
      exact ⟨sign, whole, fraction, _, signs, spelled, broken, .some mark sign' digits marks signs' counted, rfl⟩
  | minus =>
      rw [step] at ended
      split at ended
      next => cases ended
      split at ended
      next => cases ended
      next => cases ended
  | exponent =>
      rw [step] at ended
      split at ended
      next => cases ended
      split at ended
      next => cases ended
      next => cases ended
  | point | exponentSign =>
      rw [step] at ended
      split at ended
      next => cases ended
      next => cases ended

end NumeralPhase

theorem blank_nil : Blank [] := List.forall_mem_nil _

theorem space_blank (c : Char) (space : isSpace c = true) : Blank [c] :=
  List.forall_mem_singleton.mpr ((space_iff_blank c).mp space)

theorem leading_blank (items : List (List Char)) (text w : List Char) (leading : Leading items text) (blank : Blank w) :
    Leading items (text ++ w) := by
  induction leading with
  | start v first => exact .start (v ++ w) (List.forall_mem_append.mpr ⟨first, blank⟩)
  | more item text items rest padded _ ih =>
      rw [List.append_assoc]
      exact .more item text items (rest ++ w) padded ih

theorem listed_last (items : List (List Char)) (item text : List Char) (leading : Leading items text) :
    Listed (items ++ [item]) (text ++ item) := by
  induction leading with
  | start w blank => exact .last item _ ⟨w, [], blank, blank_nil, by simp⟩
  | more first text items rest padded _ ih =>
      rw [List.append_assoc, List.cons_append, List.cons_append]
      cases items with
      | nil => exact .more first text item [] _ padded ih
      | cons second items => exact .more first text second _ _ padded ih

theorem padded_blank (item text w : List Char) (padded : Padded item text) (blank : Blank w) :
    Padded item (text ++ w) := by
  obtain ⟨u, v, before, behind, rfl⟩ := padded
  exact ⟨u, v ++ w, before, List.forall_mem_append.mpr ⟨behind, blank⟩, by simp⟩

theorem listed_blank (items : List (List Char)) (text w : List Char) (listed : Listed items text) (blank : Blank w) :
    Listed items (text ++ w) := by
  induction listed with
  | empty v first => exact .empty (v ++ w) (List.forall_mem_append.mpr ⟨first, blank⟩)
  | last item text padded => exact .last item _ (padded_blank item text w padded blank)
  | more item text next items rest padded _ ih =>
      rw [List.append_assoc, List.cons_append]
      exact .more item text next items (rest ++ w) padded ih

theorem leading_comma (items : List (List Char)) (text : List Char) (some : items ≠ []) (listed : Listed items text) :
    Leading items (text ++ [',']) := by
  induction listed with
  | empty => exact absurd rfl some
  | last item text padded => exact .more item text [] [] padded (.start [] blank_nil)
  | more item text next items rest padded _ ih =>
      rw [List.append_assoc, List.cons_append]
      exact .more item text (next :: items) _ padded (ih (List.cons_ne_nil next items))

def Bracket.opener : Bracket → Char
  | .square => '['
  | .curly => '{'

def Bracket.Item : Bracket → List Char → Prop
  | .square, text => Wellformed text
  | .curly, text => ∃ key value, Quoted key ∧ Wellformed value ∧ Member key value text

theorem bracketed_wellformed (b : Bracket) (items : List (List Char)) (inner : List Char)
    (valid : ∀ item ∈ items, b.Item item) (listed : Listed items inner) :
    Wellformed (b.opener :: (inner ++ [b.closer])) := by
  cases b with
  | square => exact .array items inner valid listed
  | curly =>
      obtain ⟨members, matched⟩ := exists_matching
        (fun (m : List Char × List Char) text => Quoted m.1 ∧ Wellformed m.2 ∧ Member m.1 m.2 text) items (by
          intro item member
          obtain ⟨key, value, quoted, wellformed, member⟩ := valid item member
          exact ⟨(key, value), quoted, wellformed, member⟩)
      have each (m : List Char × List Char) (member : m ∈ members) : Quoted m.1 ∧ Wellformed m.2 := by
        obtain ⟨_, _, quoted, wellformed, _⟩ := matching_left matched m member
        exact ⟨quoted, wellformed⟩
      exact .object members items inner (fun m member => (each m member).1) (fun m member => (each m member).2)
        (matched.imp fun _ _ facts => facts.2.2) listed

-- The text before a value, inside brackets that are still open.
inductive Hole : List Bracket → List Char → Prop where
  | root : Hole [] []
  | element (stack : List Bracket) (pre : List Char) (items : List (List Char)) (text : List Char) (outer : Hole stack pre)
      (valid : ∀ item ∈ items, Bracket.Item .square item) (leading : Leading items text) :
      Hole (.square :: stack) (pre ++ '[' :: text)
  | member (stack : List Bracket) (pre : List Char) (items : List (List Char)) (text key w v : List Char)
      (outer : Hole stack pre) (valid : ∀ item ∈ items, Bracket.Item .curly item) (leading : Leading items text)
      (quoted : Quoted key) (before : Blank w) (behind : Blank v) :
      Hole (.curly :: stack) (pre ++ '{' :: (text ++ (key ++ (w ++ ':' :: v))))

def After (b : Bracket) (stack : List Bracket) (text : List Char) : Prop :=
  ∃ pre items inner, Hole stack pre ∧ items ≠ [] ∧ (∀ item ∈ items, b.Item item) ∧ Listed items inner ∧
    text = pre ++ b.opener :: inner

def Filled : List Bracket → List Char → Prop
  | [], text => Wellformed text
  | b :: stack, text => After b stack text

theorem hole_filled (stack : List Bracket) (pre value : List Char) (hole : Hole stack pre)
    (wellformed : Wellformed value) : Filled stack (pre ++ value) := by
  cases hole with
  | root => exact wellformed
  | element stack pre items text outer valid leading =>
      refine ⟨pre, items ++ [value], text ++ value, outer, by simp, ?_, listed_last items value text leading,
        by simp [Bracket.opener]⟩
      exact List.forall_mem_append.mpr ⟨valid, List.forall_mem_singleton.mpr wellformed⟩
  | member stack pre items text key w v outer valid leading quoted before behind =>
      have item : Bracket.Item .curly (key ++ (w ++ ':' :: (v ++ value))) :=
        ⟨key, value, quoted, wellformed, member_between key w v value before behind⟩
      refine ⟨pre, items ++ [key ++ (w ++ ':' :: (v ++ value))], _, outer, by simp, ?_, listed_last items _ text leading,
        by simp [Bracket.opener]⟩
      exact List.forall_mem_append.mpr ⟨valid, List.forall_mem_singleton.mpr item⟩

theorem hole_blank (b : Bracket) (stack : List Bracket) (pre w : List Char) (hole : Hole (b :: stack) pre)
    (blank : Blank w) : Hole (b :: stack) (pre ++ w) := by
  cases hole with
  | element stack pre items text outer valid leading =>
      rw [List.append_assoc, List.cons_append]
      exact .element stack pre items (text ++ w) outer valid (leading_blank items text w leading blank)
  | member stack pre items text key u v outer valid leading quoted before behind =>
      have longer := Hole.member stack pre items text key u (v ++ w) outer valid leading quoted before
        (List.forall_mem_append.mpr ⟨behind, blank⟩)
      simpa using longer

namespace Skip

def KeyDue (stack : List Bracket) (text : List Char) : Prop :=
  ∃ outer pre items inner, stack = .curly :: outer ∧ Hole outer pre ∧ (∀ item ∈ items, Bracket.Item .curly item) ∧
    Leading items inner ∧ text = pre ++ '{' :: inner

def Stands : Skip → List Char → Prop
  | .value stack, text => stack ≠ [] ∧ Hole stack text
  | .opened b stack, text => ∃ pre w, Hole stack pre ∧ Blank w ∧ text = pre ++ b.opener :: w
  | .key stack, text => KeyDue stack text
  | .colon stack, text => ∃ pre key w, KeyDue stack pre ∧ Quoted key ∧ Blank w ∧ text = pre ++ (key ++ w)
  | .after b stack, text => After b stack text
  | .quote q isKey stack, text => ∃ pre body, (if isKey then KeyDue stack pre else Hole stack pre) ∧ q.checked = false ∧
      q.Stands body ∧ text = pre ++ '"' :: body
  | .numeral phase stack, text => ∃ pre number, Hole stack pre ∧ phase.Stands number ∧ text = pre ++ number
  | .literal rest stack, text => ∃ pre read, Hole stack pre ∧ Wellformed (read ++ rest) ∧ text = pre ++ read

def Next.Stands (next : Next) (text : List Char) (c : Char) : Prop :=
  match next with
  | .more s => s.Stands (text ++ [c])
  | .ended => Wellformed (text ++ [c])
  | .endedBefore => Wellformed text

theorem close_stands (stack : List Bracket) (pre value text : List Char) (c : Char) (hole : Hole stack pre)
    (wellformed : Wellformed value) (same : text ++ [c] = pre ++ value) : (close stack).Stands text c := by
  have filled := hole_filled stack pre value hole wellformed
  rw [← same] at filled
  cases stack with
  | nil => exact filled
  | cons b stack => exact filled

theorem literal_wellformed (c : Char) (rest : List Char) (literal : literal? c = some rest) : Wellformed (c :: rest) := by
  unfold literal? at literal
  split at literal <;> cases literal
  · exact .null
  · exact .true
  · exact .false

theorem begin_stands (stack : List Bracket) (pre : List Char) (c : Char) (next : Next) (hole : Hole stack pre)
    (begun : begin c stack = .ok next) : next.Stands pre c := by
  rw [begin] at begun
  split at begun
  next quote =>
    cases begun
    subst quote
    exact ⟨pre, [], hole, rfl, Quote.stands_start false, rfl⟩
  next =>
    split at begun
    next square =>
      cases begun
      subst square
      exact ⟨pre, [], hole, blank_nil, rfl⟩
    next =>
      split at begun
      next curly =>
        cases begun
        subst curly
        exact ⟨pre, [], hole, blank_nil, rfl⟩
      next =>
        split at begun
        next phase begins =>
          cases begun
          exact ⟨pre, [c], hole, NumeralPhase.stands_first c phase begins, rfl⟩
        next rest literal _ =>
          cases begun
          exact ⟨pre, [c], hole, literal_wellformed c rest literal, rfl⟩
        next => cases begun

theorem key_stands (stack : List Bracket) (pre : List Char) (c : Char) (next : Next) (due : KeyDue stack pre)
    (begun : beginKey c stack = .ok next) : next.Stands pre c := by
  rw [beginKey] at begun
  split at begun
  next quote =>
    cases begun
    subst quote
    exact ⟨pre, [], due, rfl, Quote.stands_start false, rfl⟩
  next => cases begun

theorem comma_stands (b : Bracket) (stack : List Bracket) (text : List Char) (after : After b stack text) :
    match b with
    | .square => Hole (.square :: stack) (text ++ [','])
    | .curly => KeyDue (.curly :: stack) (text ++ [',']) := by
  obtain ⟨pre, items, inner, hole, some, valid, listed, rfl⟩ := after
  have leading := leading_comma items inner some listed
  rw [List.append_assoc]
  cases b with
  | square => exact .element stack pre items _ hole valid leading
  | curly => exact ⟨stack, pre, items, _, rfl, hole, valid, leading, rfl⟩

theorem after_stands (b : Bracket) (stack : List Bracket) (text : List Char) (c : Char) (next : Next)
    (after : After b stack text) (stepped : stepAfter b stack c = .ok next) : next.Stands text c := by
  rw [stepAfter.eq_def] at stepped
  split at stepped
  next space =>
    cases stepped
    obtain ⟨pre, items, inner, hole, some, valid, listed, rfl⟩ := after
    have listed := listed_blank items inner [c] listed (space_blank c space)
    exact ⟨pre, items, inner ++ [c], hole, some, valid, listed, by simp⟩
  next =>
    split at stepped
    next closer =>
      cases stepped
      obtain ⟨pre, items, inner, hole, some, valid, listed, rfl⟩ := after
      exact close_stands stack pre _ _ c hole (bracketed_wellformed b items inner valid listed) (by simp [closer])
    next =>
      split at stepped
      next comma =>
        have leading := comma_stands b stack text after
        subst comma
        cases b with
        | square =>
            cases stepped
            exact ⟨List.cons_ne_nil _ _, leading⟩
        | curly =>
            cases stepped
            exact leading
      next => cases stepped

theorem opened_stands (b : Bracket) (stack : List Bracket) (text : List Char) (c : Char) (next : Next)
    (stands : (opened b stack).Stands text) (stepped : (opened b stack).step c = .ok next) : next.Stands text c := by
  obtain ⟨pre, w, hole, blank, rfl⟩ := stands
  rw [step.eq_def] at stepped
  simp only at stepped
  split at stepped
  next space =>
    cases stepped
    exact ⟨pre, w ++ [c], hole, List.forall_mem_append.mpr ⟨blank, space_blank c space⟩, by simp⟩
  next =>
    split at stepped
    next closer =>
      cases stepped
      have empty := bracketed_wellformed b [] w (List.forall_mem_nil _) (.empty w blank)
      exact close_stands stack pre _ _ c hole empty (by simp [closer])
    next =>
      have none : ∀ item ∈ [], b.Item item := List.forall_mem_nil _
      cases b with
      | square => exact begin_stands _ _ c next (.element stack pre [] w hole none (.start w blank)) stepped
      | curly => exact key_stands _ _ c next ⟨stack, pre, [], w, rfl, hole, none, .start w blank, rfl⟩ stepped

theorem due_blank (stack : List Bracket) (text w : List Char) (due : KeyDue stack text) (blank : Blank w) :
    KeyDue stack (text ++ w) := by
  obtain ⟨outer, pre, items, inner, rfl, hole, valid, leading, rfl⟩ := due
  exact ⟨outer, pre, items, inner ++ w, rfl, hole, valid, leading_blank items inner w leading blank, by simp⟩

theorem colon_stands (stack : List Bracket) (text : List Char) (c : Char) (next : Next)
    (stands : (colon stack).Stands text) (stepped : (colon stack).step c = .ok next) : next.Stands text c := by
  obtain ⟨pre, key, w, due, quoted, blank, rfl⟩ := stands
  rw [step] at stepped
  split at stepped
  next space =>
    cases stepped
    exact ⟨pre, key, w ++ [c], due, quoted, List.forall_mem_append.mpr ⟨blank, space_blank c space⟩, by simp⟩
  next =>
    split at stepped
    next colon =>
      cases stepped
      subst colon
      obtain ⟨outer, pre, items, inner, rfl, hole, valid, leading, rfl⟩ := due
      have longer := Hole.member outer pre items inner key w [] hole valid leading quoted blank blank_nil
      exact ⟨List.cons_ne_nil _ _, by simpa using longer⟩
    next => cases stepped

theorem quote_stands (q : Quote) (isKey : Bool) (stack : List Bracket) (text : List Char) (c : Char) (next : Next)
    (stands : (quote q isKey stack).Stands text) (stepped : (quote q isKey stack).step c = .ok next) :
    next.Stands text c := by
  obtain ⟨pre, body, due, unchecked, stands, rfl⟩ := stands
  rw [step] at stepped
  split at stepped
  next => cases stepped
  next more moved =>
    cases stepped
    have unchecked := (q.checked_step more c moved).trans unchecked
    exact ⟨pre, body ++ [c], due, unchecked, q.stands_step more body c stands moved, by simp⟩
  next s closed =>
    cases stepped
    obtain ⟨rfl, _, quoted⟩ := q.stands_closed body c s stands closed
    cases isKey with
    | true => exact ⟨pre, _, [], due, quoted unchecked, blank_nil, by simp⟩
    | false => exact close_stands stack pre _ _ _ due (.string _ (quoted unchecked)) (by simp)

theorem numeral_stands (phase : NumeralPhase) (stack : List Bracket) (text : List Char) (c : Char) (next : Next)
    (stands : (numeral phase stack).Stands text) (stepped : (numeral phase stack).step c = .ok next) :
    next.Stands text c := by
  obtain ⟨pre, number, hole, stands, rfl⟩ := stands
  rw [step.eq_def] at stepped
  simp only at stepped
  split at stepped
  next more moved =>
    cases stepped
    exact ⟨pre, number ++ [c], hole, phase.stands_step more number c stands moved, by simp⟩
  next => cases stepped
  next ended =>
    have wellformed := Wellformed.number number (phase.stands_ended number c stands ended)
    have filled := hole_filled stack pre number hole wellformed
    cases stack with
    | nil =>
        cases stepped
        exact filled
    | cons b stack => exact after_stands b stack _ c next filled stepped

theorem in_literal_stands (rest : List Char) (stack : List Bracket) (text : List Char) (c : Char) (next : Next)
    (stands : (literal rest stack).Stands text) (stepped : (literal rest stack).step c = .ok next) :
    next.Stands text c := by
  obtain ⟨pre, read, hole, wellformed, rfl⟩ := stands
  cases rest with
  | nil => cases stepped
  | cons d rest =>
      rw [step.eq_def] at stepped
      simp only at stepped
      split at stepped
      next => cases stepped
      next same =>
        obtain rfl := of_not_not same
        split at stepped
        next last =>
          cases stepped
          obtain rfl := List.isEmpty_iff.mp last
          exact close_stands stack pre _ _ c hole wellformed (by simp)
        next =>
          cases stepped
          exact ⟨pre, read ++ [c], hole, by simpa using wellformed, by simp⟩

theorem stands_step (s : Skip) (text : List Char) (c : Char) (next : Next) (stands : s.Stands text)
    (stepped : s.step c = .ok next) : next.Stands text c := by
  cases s with
  | value stack =>
      obtain ⟨some, hole⟩ := stands
      rw [step] at stepped
      split at stepped
      next space =>
        cases stepped
        cases stack with
        | nil => exact absurd rfl some
        | cons b stack => exact ⟨some, hole_blank b stack text [c] hole (space_blank c space)⟩
      next => exact begin_stands stack text c next hole stepped
  | opened b stack => exact opened_stands b stack text c next stands stepped
  | key stack =>
      rw [step] at stepped
      split at stepped
      next space =>
        cases stepped
        exact due_blank stack text [c] stands (space_blank c space)
      next => exact key_stands stack text c next stands stepped
  | colon stack => exact colon_stands stack text c next stands stepped
  | after b stack => exact after_stands b stack text c next stands stepped
  | quote q isKey stack => exact quote_stands q isKey stack text c next stands stepped
  | numeral phase stack => exact numeral_stands phase stack text c next stands stepped
  | literal rest stack => exact in_literal_stands rest stack text c next stands stepped

end Skip

end GraphBrowser.Json
