import GraphBrowser.Json.Quote
import GraphBrowser.Proofs.Grammar

set_option autoImplicit false

namespace GraphBrowser.Json

def Quote.more? (q : Quote) (c : Char) : Option Quote :=
  match q.step c with
  | .ok (.more next) => some next
  | _ => none

theorem Quote.more_step (q next : Quote) (c : Char) (more : q.more? c = some next) : q.step c = .ok (.more next) := by
  rw [Quote.more?] at more
  split at more
  next stepped => rw [stepped, Option.some.inj more]
  next => cases more

theorem hex_digit_value (n : Nat) (c : Char) (digit : HexDigit n c) : hexValue? c = some n ∧ c.utf8Size = 1 := by
  have table : ∀ n : Fin 16, (hexValue? n.val.digitChar = some n.val ∧ n.val.digitChar.utf8Size = 1) ∧
      hexValue? n.val.digitChar.toUpper = some n.val ∧ n.val.digitChar.toUpper.utf8Size = 1 := by decide
  obtain ⟨below, rfl | rfl⟩ := digit
  · exact (table ⟨n, below⟩).1
  · exact (table ⟨n, below⟩).2

theorem gather_unit (n : Nat) (digits : List Char) (spelled : HexUnit n digits) :
    ∃ a b c d, digits = [a, b, c, d] ∧ gather [] a = .ok (.inl [a]) ∧ gather [a] b = .ok (.inl [a, b]) ∧
      gather [a, b] c = .ok (.inl [a, b, c]) ∧ gather [a, b, c] d = .ok (.inr n) := by
  cases spelled with | @cons _ a _ _ first spelled =>
  cases spelled with | @cons _ b _ _ second spelled =>
  cases spelled with | @cons _ c _ _ third spelled =>
  cases spelled with | @cons _ d _ _ fourth spelled =>
  cases spelled
  obtain ⟨valueA, sizeA⟩ := hex_digit_value _ a first
  obtain ⟨valueB, sizeB⟩ := hex_digit_value _ b second
  obtain ⟨valueC, sizeC⟩ := hex_digit_value _ c third
  obtain ⟨valueD, sizeD⟩ := hex_digit_value _ d fourth
  have number : hexNumber? [a, b, c, d] = some n := by
    simp only [hexNumber?, List.foldl, valueA, valueB, valueC, valueD, Option.bind_some, Option.map_some]
    congr 1
    omega
  refine ⟨a, b, c, d, rfl, ?_, ?_, ?_, ?_⟩
  · simp [gather, byteLength, sizeA]
  · simp [gather, byteLength, sizeA, sizeB]
  · simp [gather, byteLength, sizeA, sizeB, sizeC]
  · simp [gather, byteLength, sizeA, sizeB, sizeC, sizeD, number]

-- Four digits behind an escape, in a phase that keeps those before the last.
theorem more_digits (hold : List Char → QuotePhase) (q next : Quote) (n : Nat) (digits : List Char)
    (spelled : HexUnit n digits)
    (kept : ∀ digits c more, gather digits c = .ok (.inl more) →
      Quote.more? { q with phase := hold digits } c = some { q with phase := hold more })
    (done : ∀ digits c, gather digits c = .ok (.inr n) → Quote.more? { q with phase := hold digits } c = some next) :
    digits.foldlM Quote.more? { q with phase := hold [] } = some next := by
  obtain ⟨a, b, c, d, rfl, first, second, third, fourth⟩ := gather_unit n digits spelled
  simp only [List.foldlM_cons, List.foldlM_nil, kept _ _ _ first, kept _ _ _ second, kept _ _ _ third,
    done _ _ fourth, Option.bind_eq_bind, Option.bind_some, Option.pure_def]

theorem more_plain (q : Quote) (c : Char) (start : q.phase = .plain) (plain : Plain c) :
    q.more? c = some (q.push c) := by
  have printable : ¬ c.toNat < 0x20 := Nat.not_lt.mpr plain.1
  simp only [Quote.more?, Quote.step, start, if_neg plain.2.1, if_neg plain.2.2, if_neg printable, Quote.pushed]

theorem more_short (q : Quote) (e c : Char) (start : q.phase = .plain) (listed : (e, c) ∈ shortEscapes) :
    ['\\', e].foldlM Quote.more? q = some (q.push c) := by
  have simple : e ≠ 'u' ∧ simpleEscape? e = some c := by
    have table : ∀ entry ∈ shortEscapes, entry.1 ≠ 'u' ∧ simpleEscape? entry.1 = some entry.2 := by decide
    exact table (e, c) listed
  simp [Quote.more?, Quote.step, start, Quote.stay, simple.1, simple.2, Quote.pushed, Quote.push]

theorem char_unit (c : Char) : isLowerSurrogate c.toNat = false ∧ isUpperSurrogate c.toNat = false := by
  have valid : c.toNat < 0xD800 ∨ 0xDFFF < c.toNat ∧ c.toNat < 0x110000 := c.valid
  simp only [isLowerSurrogate, isUpperSurrogate, Bool.and_eq_false_iff, decide_eq_false_iff_not]
  omega

theorem more_escape (q : Quote) (start : q.phase = .plain) :
    ['\\', 'u'].foldlM Quote.more? q = some { q with phase := .unit [] } := by
  simp [Quote.more?, Quote.step, Quote.stay, start]

theorem char_pair (c : Char) (beyond : 0x10000 ≤ c.toNat) :
    ∃ upper lower, upper = 0xD800 + (c.toNat - 0x10000) / 0x400 ∧ lower = 0xDC00 + (c.toNat - 0x10000) % 0x400 ∧
      isLowerSurrogate upper = false ∧ isUpperSurrogate upper = true ∧ isLowerSurrogate lower = true ∧
      surrogatePair upper lower = c := by
  have valid : c.toNat < 0xD800 ∨ 0xDFFF < c.toNat ∧ c.toNat < 0x110000 := c.valid
  refine ⟨_, _, rfl, rfl, ?_, ?_, ?_, ?_⟩
  · simp only [isLowerSurrogate, Bool.and_eq_false_iff, decide_eq_false_iff_not]
    omega
  · simp only [isUpperSurrogate, Bool.and_eq_true, decide_eq_true_eq]
    omega
  · simp only [isLowerSurrogate, Bool.and_eq_true, decide_eq_true_eq]
    omega
  · have whole : 0x10000 + (0xD800 + (c.toNat - 0x10000) / 0x400 - 0xD800) * 0x400 +
        (0xDC00 + (c.toNat - 0x10000) % 0x400 - 0xDC00) = c.toNat := by omega
    rw [surrogatePair, whole, Char.ofNat_toNat]

theorem more_letter (q : Quote) (c : Char) (text : List Char) (start : q.phase = .plain) (checked : q.checked = true)
    (letter : Letter c text) : text.foldlM Quote.more? q = some (q.push c) := by
  cases letter with
  | plain _ plain => simp [more_plain q c start plain]
  | short e _ listed => exact more_short q e c start listed
  | unit _ digits spelled =>
      show (['\\', 'u'] ++ digits).foldlM Quote.more? q = _
      rw [List.foldlM_append, more_escape q start]
      refine more_digits .unit q _ c.toNat digits spelled ?_ ?_
      · intro digits c more gathered
        simp [Quote.more?, Quote.step, gathered, Quote.stay]
      · intro digits d gathered
        simp [Quote.more?, Quote.step, gathered, checked, char_unit, Quote.pushed, Quote.push]
  | pair _ upperDigits lowerDigits beyond first second =>
      obtain ⟨upper, lower, upperEq, lowerEq, notLower, isUpper, isLower, together⟩ := char_pair c beyond
      rw [← upperEq] at first
      rw [← lowerEq] at second
      have half : upperDigits.foldlM Quote.more? { q with phase := .unit [] } = some { q with phase := .upper upper } := by
        refine more_digits .unit q _ upper upperDigits first ?_ ?_
        · intro digits c more gathered
          simp [Quote.more?, Quote.step, gathered, Quote.stay]
        · intro digits d gathered
          simp [Quote.more?, Quote.step, gathered, checked, notLower, isUpper, Quote.stay]
      have escape : ['\\', 'u'].foldlM Quote.more? { q with phase := .upper upper } =
          some { q with phase := .lower upper [] } := by
        simp [Quote.more?, Quote.step, Quote.stay]
      have other : lowerDigits.foldlM Quote.more? { q with phase := .lower upper [] } = some (q.push c) := by
        refine more_digits (.lower upper) q _ lower lowerDigits second ?_ ?_
        · intro digits c more gathered
          simp [Quote.more?, Quote.step, gathered, Quote.stay]
        · intro digits d gathered
          simp [Quote.more?, Quote.step, gathered, isLower, together, Quote.pushed, Quote.push]
      show (['\\', 'u'] ++ (upperDigits ++ (['\\', 'u'] ++ lowerDigits))).foldlM Quote.more? q = _
      simp only [List.foldlM_append, more_escape q start, half, escape, other, Option.bind_eq_bind, Option.bind_some]

theorem more_piece (q : Quote) (text : List Char) (start : q.phase = .plain) (checked : q.checked = false)
    (piece : Piece text) :
    ∃ next : Quote, text.foldlM Quote.more? q = some next ∧ next.phase = .plain ∧ next.checked = false := by
  cases piece with
  | plain c plain => exact ⟨q.push c, by simp [more_plain q c start plain], rfl, checked⟩
  | short e c listed => exact ⟨q.push c, more_short q e c start listed, rfl, checked⟩
  | unit n digits spelled =>
      refine ⟨{ q with phase := .plain }, ?_, rfl, checked⟩
      show (['\\', 'u'] ++ digits).foldlM Quote.more? q = _
      rw [List.foldlM_append, more_escape q start]
      refine more_digits .unit q _ n digits spelled ?_ ?_
      · intro digits c more gathered
        simp [Quote.more?, Quote.step, gathered, Quote.stay]
      · intro digits d gathered
        simp [Quote.more?, Quote.step, gathered, checked, Quote.stay]

def Quote.Reads (checked : Bool) (text : List Char) (s : String) : Prop :=
  ∃ body last, text = '"' :: body ++ ['"'] ∧ body.foldlM Quote.more? (.start checked) = some last ∧
    last.step '"' = .ok (.closed s)

theorem Spells.read (s : String) (text : List Char) (spells : Spells s text) : Quote.Reads true text s := by
  obtain ⟨letters, spelled, rfl⟩ := spells
  have through (q : Quote) (start : q.phase = .plain) (checked : q.checked = true) (cs : List Char)
      (letters : List (List Char)) (spelled : List.Forall₂ Letter cs letters) :
      letters.flatten.foldlM Quote.more? q = some ⟨true, .plain, cs.reverse ++ q.chars⟩ := by
    induction spelled generalizing q with
    | nil => simp [← start, ← checked]
    | @cons c text cs letters letter _ ih =>
        rw [List.flatten_cons, List.foldlM_append, more_letter q c text start checked letter]
        simpa [Quote.push] using ih (q.push c) rfl checked
  refine ⟨letters.flatten, ⟨true, .plain, s.toList.reverse⟩, rfl, ?_, ?_⟩
  · simpa [Quote.start] using through (.start true) rfl rfl s.toList letters spelled
  · simp [Quote.step]

theorem Quoted.read (text : List Char) (quoted : Quoted text) : ∃ s, Quote.Reads false text s := by
  obtain ⟨pieces, valid, rfl⟩ := quoted
  have through (q : Quote) (start : q.phase = .plain) (checked : q.checked = false) (pieces : List (List Char))
      (valid : ∀ p ∈ pieces, Piece p) :
      ∃ next : Quote, pieces.flatten.foldlM Quote.more? q = some next ∧ next.phase = .plain := by
    induction pieces generalizing q with
    | nil => exact ⟨q, rfl, start⟩
    | cons piece pieces ih =>
        obtain ⟨next, passed, plain, unchecked⟩ := more_piece q piece start checked (valid piece List.mem_cons_self)
        rw [List.flatten_cons, List.foldlM_append, passed]
        exact ih next plain unchecked fun p member => valid p (List.mem_cons_of_mem _ member)
  obtain ⟨last, passed, plain⟩ := through (.start false) rfl rfl pieces valid
  exact ⟨_, pieces.flatten, last, rfl, passed, by rw [Quote.step, plain, if_pos rfl]⟩

end GraphBrowser.Json
