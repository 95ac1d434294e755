import GraphBrowser.Proofs.Breaking

set_option autoImplicit false

namespace GraphBrowser.Json

theorem hex_value_digit (n : Nat) (c : Char) (value : hexValue? c = some n) : HexDigit n c ∧ c.utf8Size = 1 := by
  have below : c.toNat < 128 := by
    have bound (high : Char) (below : c ≤ high) : c.toNat ≤ high.toNat := below
    have nine : '9'.toNat = 57 := rfl
    have upper : 'F'.toNat = 70 := rfl
    have lower : 'f'.toNat = 102 := rfl
    rw [hexValue?] at value
    split at value
    next inside =>
      have := bound '9' inside.2
      omega
    next =>
      split at value
      next inside =>
        have := bound 'f' inside.2
        omega
      next =>
        split at value
        next inside =>
          have := bound 'F' inside.2
          omega
        next => cases value
  have table : ∀ n < 128, ∀ v ∈ hexValue? (Char.ofNat n), HexDigit v (Char.ofNat n) ∧ (Char.ofNat n).utf8Size = 1 := by
    decide
  have digit := table c.toNat below n
  rw [Char.ofNat_toNat] at digit
  exact digit value

theorem gathered_more (digits more : List Char) (c : Char) (gathered : gather digits c = .ok (.inl more)) :
    more = digits ++ [c] ∧ byteLength more < 4 := by
  rw [gather] at gathered
  split at gathered
  next short =>
    cases gathered
    exact ⟨rfl, short⟩
  next => split at gathered <;> cases gathered

theorem simple_escape_listed (e c : Char) (simple : simpleEscape? e = some c) : (e, c) ∈ shortEscapes := by
  unfold simpleEscape? at simple
  split at simple <;> cases simple <;> decide

theorem hex_number_digits (digits : List Char) (n : Nat) (number : hexNumber? digits = some n) :
    ∀ c ∈ digits, ∃ v, hexValue? c = some v := by
  rw [hexNumber?] at number
  generalize some 0 = start at number
  induction digits generalizing start with
  | nil => exact List.forall_mem_nil _
  | cons c digits ih =>
      rw [List.foldl_cons] at number
      cases value : hexValue? c with
      | some v => exact List.forall_mem_cons.mpr ⟨⟨v, value⟩, ih _ number⟩
      | none =>
          have lost : digits.foldl (fun n? c => n?.bind fun n => (hexValue? c).map (16 * n + ·)) none = none := by
            clear ih number
            induction digits with
            | nil => rfl
            | cons d digits ih => exact ih
          rw [value] at number
          cases start <;> simp [lost] at number

theorem byte_length_least (chars : List Char) : chars.length ≤ byteLength chars := by
  induction chars with
  | nil => exact Nat.le_refl 0
  | cons c chars ih =>
      have positive := c.utf8Size_pos
      simp only [byteLength, List.foldr_cons, List.length_cons] at ih ⊢
      omega

theorem byte_length_hex (chars : List Char) (hex : ∀ c ∈ chars, ∃ v, hexValue? c = some v) :
    byteLength chars = chars.length := by
  induction chars with
  | nil => rfl
  | cons c chars ih =>
      obtain ⟨⟨v, value⟩, others⟩ := List.forall_mem_cons.mp hex
      have rest := ih others
      simp only [byteLength, List.foldr_cons, List.length_cons, (hex_value_digit v c value).2] at rest ⊢
      omega

theorem gathered_unit (digits : List Char) (c : Char) (n : Nat) (short : byteLength digits < 4)
    (gathered : gather digits c = .ok (.inr n)) : HexUnit n (digits ++ [c]) := by
  have complete : 4 ≤ byteLength (digits ++ [c]) ∧ hexNumber? (digits ++ [c]) = some n := by
    rw [gather] at gathered
    split at gathered
    next => cases gathered
    next long =>
      split at gathered
      next m number =>
        cases gathered
        exact ⟨Nat.le_of_not_lt long, number⟩
      next => cases gathered
  obtain ⟨long, number⟩ := complete
  have hex := hex_number_digits _ n number
  rw [byte_length_hex _ hex, List.length_append, List.length_singleton] at long
  have four : digits.length = 3 := by
    have least := byte_length_least digits
    omega
  obtain ⟨x, y, z, rfl⟩ := List.length_eq_three.mp four
  simp only [List.cons_append, List.nil_append, List.forall_mem_cons] at hex
  obtain ⟨⟨a, first⟩, ⟨b, second⟩, ⟨d, third⟩, ⟨e, fourth⟩, _⟩ := hex
  simp only [hexNumber?, List.cons_append, List.nil_append, List.foldl, first, second, third, fourth, Option.bind_some,
    Option.map_some, Option.some.injEq] at number
  have digitA := (hex_value_digit a x first).1
  have digitB := (hex_value_digit b y second).1
  have digitD := (hex_value_digit d z third).1
  have digitE := (hex_value_digit e c fourth).1
  have bounds := And.intro digitA.1 (And.intro digitB.1 (And.intro digitD.1 digitE.1))
  obtain ⟨rfl, rfl, rfl, rfl⟩ : a = n / 0x1000 ∧ b = n / 0x100 % 0x10 ∧ d = n / 0x10 % 0x10 ∧ e = n % 0x10 := by omega
  exact .cons digitA (.cons digitB (.cons digitD (.cons digitE .nil)))

theorem unit_char (n : Nat) (digits : List Char) (spelled : HexUnit n digits) (notLower : isLowerSurrogate n = false)
    (notUpper : isUpperSurrogate n = false) : (Char.ofNat n).toNat = n := by
  have below : n / 0x1000 < 16 := by
    cases spelled with | cons first _ =>
    exact first.1
  simp only [isLowerSurrogate, isUpperSurrogate, Bool.and_eq_false_iff, decide_eq_false_iff_not] at notLower notUpper
  have valid : n.isValidChar := by
    rw [Nat.isValidChar]
    omega
  rw [Char.ofNat, dif_pos valid]
  rfl

theorem pair_letter (n m : Nat) (first second : List Char) (isUpper : isUpperSurrogate n = true)
    (isLower : isLowerSurrogate m = true) (spelled : HexUnit n first) (other : HexUnit m second) :
    Letter (surrogatePair n m) ('\\' :: 'u' :: (first ++ '\\' :: 'u' :: second)) := by
  simp only [isLowerSurrogate, isUpperSurrogate, Bool.and_eq_true, decide_eq_true_eq] at isUpper isLower
  have valid : (0x10000 + (n - 0xD800) * 0x400 + (m - 0xDC00)).isValidChar := by
    rw [Nat.isValidChar]
    omega
  have number : (surrogatePair n m).toNat = 0x10000 + (n - 0xD800) * 0x400 + (m - 0xDC00) := by
    rw [surrogatePair, Char.ofNat, dif_pos valid]
    rfl
  have upper : 0xD800 + ((surrogatePair n m).toNat - 0x10000) / 0x400 = n := by omega
  have lower : 0xDC00 + ((surrogatePair n m).toNat - 0x10000) % 0x400 = m := by omega
  exact .pair _ first second (by omega) (by rwa [upper]) (by rwa [lower])

namespace Quote

-- An escape that has begun. Only a reader that checks surrogates waits for the second of a pair.
def Begun (q : Quote) (text : List Char) : Prop :=
  match q.phase with
  | .plain => text = []
  | .escape => text = ['\\']
  | .unit digits => byteLength digits < 4 ∧ text = '\\' :: 'u' :: digits
  | .upper n => q.checked = true ∧ isUpperSurrogate n = true ∧ ∃ first, HexUnit n first ∧ text = '\\' :: 'u' :: first
  | .upperEscape n =>
      q.checked = true ∧ isUpperSurrogate n = true ∧ ∃ first, HexUnit n first ∧ text = '\\' :: 'u' :: (first ++ ['\\'])
  | .lower n digits =>
      q.checked = true ∧ isUpperSurrogate n = true ∧ byteLength digits < 4 ∧
        ∃ first, HexUnit n first ∧ text = '\\' :: 'u' :: (first ++ '\\' :: 'u' :: digits)

def Letters (q : Quote) (letters : List (List Char)) : Prop :=
  if q.checked then List.Forall₂ Letter q.chars.reverse letters else ∀ p ∈ letters, Piece p

def Stands (q : Quote) (text : List Char) : Prop :=
  ∃ letters begun, q.Letters letters ∧ q.Begun begun ∧ text = letters.flatten ++ begun

theorem stands_begun (q : Quote) (phase : QuotePhase) (letters : List (List Char)) (begun text : List Char)
    (before : q.Letters letters) (later : Begun { q with phase } begun) (same : text = letters.flatten ++ begun) :
    Stands { q with phase } text := ⟨letters, begun, before, later, same⟩

theorem stands_push (q : Quote) (letters : List (List Char)) (c : Char) (piece text : List Char)
    (before : q.Letters letters) (letter : Letter c piece) (plain : q.checked = false → Piece piece)
    (same : text = letters.flatten ++ piece) : (q.push c).Stands text := by
  refine ⟨letters ++ [piece], [], ?_, rfl, by simp [same]⟩
  rw [Letters] at before ⊢
  cases checked : q.checked with
  | true =>
      rw [checked, if_pos rfl] at before
      rw [push, checked, if_pos rfl, List.reverse_cons]
      exact List.rel_append before (.cons letter .nil)
  | false =>
      rw [checked, if_neg Bool.false_ne_true] at before
      rw [push, checked, if_neg Bool.false_ne_true]
      exact List.forall_mem_append.mpr ⟨before, List.forall_mem_singleton.mpr (plain checked)⟩

-- Where surrogates are not checked, a unit is passed over as it is.
theorem stands_passed (q : Quote) (letters : List (List Char)) (piece text : List Char) (unchecked : q.checked = false)
    (before : q.Letters letters) (valid : Piece piece) (same : text = letters.flatten ++ piece) :
    Stands { q with phase := .plain } text := by
  refine ⟨letters ++ [piece], [], ?_, rfl, by simp [same]⟩
  rw [Letters, unchecked, if_neg Bool.false_ne_true] at before ⊢
  exact List.forall_mem_append.mpr ⟨before, List.forall_mem_singleton.mpr valid⟩

theorem stands_start (checked : Bool) : (start checked).Stands [] := by
  refine ⟨[], [], ?_, rfl, rfl⟩
  cases checked
  · exact nofun
  · exact .nil

-- By the phase: what the character adds to the escape that has begun.
theorem stands_step (q next : Quote) (text : List Char) (c : Char) (stands : q.Stands text)
    (stepped : q.step c = .ok (.more next)) : next.Stands (text ++ [c]) := by
  obtain ⟨letters, begun, before, escape, rfl⟩ := stands
  rw [Begun] at escape
  rw [List.append_assoc]
  cases phase : q.phase with
  | plain =>
      simp only [phase] at escape
      subst escape
      obtain ⟨quote, ⟨rfl, rfl⟩ | ⟨slash, printable, rfl⟩⟩ := plain_step q next c phase stepped
      · exact q.stands_begun .escape letters _ _ before rfl rfl
      · have plain : Plain c := ⟨Nat.le_of_not_lt printable, quote, slash⟩
        exact q.stands_push letters c [c] _ before (.plain c plain) (fun _ => .plain c plain) rfl
  | escape =>
      simp only [phase] at escape
      subst escape
      obtain ⟨rfl, rfl⟩ | ⟨_, e, simple, rfl⟩ := escape_step q next c phase stepped
      · exact q.stands_begun (.unit []) letters _ _ before ⟨by decide, rfl⟩ rfl
      · have listed := simple_escape_listed c e simple
        exact q.stands_push letters e ['\\', c] _ before (.short c e listed) (fun _ => .short c e listed) rfl
  | unit digits =>
      simp only [phase] at escape
      obtain ⟨short, rfl⟩ := escape
      obtain ⟨more, gathered, rfl⟩ | ⟨n, gathered, whole⟩ := unit_step q next digits c phase stepped
      · obtain ⟨rfl, short⟩ := gathered_more digits more c gathered
        exact q.stands_begun (.unit (digits ++ [c])) letters _ _ before ⟨short, rfl⟩ rfl
      · have spelled := gathered_unit digits c n short gathered
        obtain ⟨unchecked, rfl⟩ | ⟨checked, notLower, ⟨isUpper, rfl⟩ | ⟨notUpper, rfl⟩⟩ := whole
        · exact q.stands_passed letters _ _ unchecked before (.unit n _ spelled) rfl
        · exact q.stands_begun (.upper n) letters _ _ before ⟨checked, isUpper, _, spelled, rfl⟩ rfl
        · have same := unit_char n _ spelled notLower notUpper
          rw [← same] at spelled
          exact q.stands_push letters _ _ _ before (.unit _ _ spelled) (by simp [checked]) rfl
  | upper n =>
      simp only [phase] at escape
      obtain ⟨checked, isUpper, first, spelled, rfl⟩ := escape
      obtain ⟨rfl, rfl⟩ := upper_step q next n c phase stepped
      exact q.stands_begun (.upperEscape n) letters _ _ before ⟨checked, isUpper, first, spelled, rfl⟩ rfl
  | upperEscape n =>
      simp only [phase] at escape
      obtain ⟨checked, isUpper, first, spelled, rfl⟩ := escape
      obtain ⟨rfl, rfl⟩ := upper_escape_step q next n c phase stepped
      exact q.stands_begun (.lower n []) letters _ _ before ⟨checked, isUpper, by decide, first, spelled, rfl⟩ (by simp)
  | lower n digits =>
      simp only [phase] at escape
      obtain ⟨checked, isUpper, short, first, spelled, rfl⟩ := escape
      obtain ⟨more, gathered, rfl⟩ | ⟨m, gathered, isLower, rfl⟩ := lower_step q next n digits c phase stepped
      · obtain ⟨rfl, short⟩ := gathered_more digits more c gathered
        exact q.stands_begun (.lower n (digits ++ [c])) letters _ _ before
          ⟨checked, isUpper, short, first, spelled, rfl⟩ (by simp)
      · have letter := pair_letter n m first _ isUpper isLower spelled (gathered_unit digits c m short gathered)
        exact q.stands_push letters _ _ _ before letter (by simp [checked]) (by simp)

theorem stands_closed (q : Quote) (text : List Char) (c : Char) (s : String) (stands : q.Stands text)
    (closed : q.step c = .ok (.closed s)) :
    c = '"' ∧ (q.checked = true → Spells s ('"' :: text ++ ['"'])) ∧
      (q.checked = false → Quoted ('"' :: text ++ ['"'])) := by
  obtain ⟨phase, rfl, rfl⟩ := closed_step q c s closed
  obtain ⟨letters, begun, before, escape, rfl⟩ := stands
  simp only [Begun, phase] at escape
  subst escape
  rw [List.append_nil]
  rw [Letters] at before
  refine ⟨rfl, fun checked => ?_, fun unchecked => ?_⟩
  · rw [checked, if_pos rfl] at before
    exact ⟨letters, by rwa [String.toList_ofList], rfl⟩
  · rw [unchecked, if_neg Bool.false_ne_true] at before
    exact ⟨letters, before, rfl⟩

end Quote

end GraphBrowser.Json
