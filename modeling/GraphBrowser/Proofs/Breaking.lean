import GraphBrowser.Proofs.Quoting

set_option autoImplicit false

namespace GraphBrowser

namespace Json

-- Where a string stands for a reader that checks surrogates and for one that does not.
inductive Quote.Abreast : Quote → Quote → Prop where
  | plain (read passed : List Char) : Abreast ⟨true, .plain, read⟩ ⟨false, .plain, passed⟩
  | escape (read passed : List Char) : Abreast ⟨true, .escape, read⟩ ⟨false, .escape, passed⟩
  | unit (digits read passed : List Char) : Abreast ⟨true, .unit digits, read⟩ ⟨false, .unit digits, passed⟩
  | upper (n : Nat) (read passed : List Char) : Abreast ⟨true, .upper n, read⟩ ⟨false, .plain, passed⟩
  | upperEscape (n : Nat) (read passed : List Char) : Abreast ⟨true, .upperEscape n, read⟩ ⟨false, .escape, passed⟩
  | lower (n : Nat) (digits read passed : List Char) :
      Abreast ⟨true, .lower n digits, read⟩ ⟨false, .unit digits, passed⟩

namespace Quote

theorem stay_step (q next : Quote) (phase : QuotePhase) (stepped : q.stay phase = .ok (.more next)) :
    next = { q with phase } := by
  cases stepped
  rfl

theorem pushed_step (q next : Quote) (c : Char) (stepped : q.pushed c = .ok (.more next)) : next = q.push c := by
  cases stepped
  rfl

theorem plain_step (q next : Quote) (c : Char) (start : q.phase = .plain) (stepped : q.step c = .ok (.more next)) :
    c ≠ '"' ∧ (c = '\\' ∧ next = { q with phase := .escape } ∨ c ≠ '\\' ∧ ¬ c.toNat < 0x20 ∧ next = q.push c) := by
  simp only [step, start] at stepped
  by_cases quote : c = '"'
  · rw [if_pos quote] at stepped
    cases stepped
  · rw [if_neg quote] at stepped
    refine ⟨quote, ?_⟩
    by_cases slash : c = '\\'
    · rw [if_pos slash] at stepped
      exact .inl ⟨slash, q.stay_step next .escape stepped⟩
    · rw [if_neg slash] at stepped
      by_cases control : c.toNat < 0x20
      · rw [if_pos control] at stepped
        cases stepped
      · rw [if_neg control] at stepped
        exact .inr ⟨slash, control, q.pushed_step next c stepped⟩

theorem escape_step (q next : Quote) (c : Char) (start : q.phase = .escape) (stepped : q.step c = .ok (.more next)) :
    c = 'u' ∧ next = { q with phase := .unit [] } ∨ c ≠ 'u' ∧ ∃ e, simpleEscape? c = some e ∧ next = q.push e := by
  simp only [step, start] at stepped
  by_cases unit : c = 'u'
  · rw [if_pos unit] at stepped
    exact .inl ⟨unit, q.stay_step next (.unit []) stepped⟩
  · rw [if_neg unit] at stepped
    cases simple : simpleEscape? c with
    | none =>
        rw [simple] at stepped
        cases stepped
    | some e =>
        rw [simple] at stepped
        exact .inr ⟨unit, e, rfl, q.pushed_step next e stepped⟩

theorem unit_step (q next : Quote) (digits : List Char) (c : Char) (start : q.phase = .unit digits)
    (stepped : q.step c = .ok (.more next)) :
    (∃ more, gather digits c = .ok (.inl more) ∧ next = { q with phase := .unit more }) ∨
      ∃ n, gather digits c = .ok (.inr n) ∧
        (q.checked = false ∧ next = { q with phase := .plain } ∨
          q.checked = true ∧ isLowerSurrogate n = false ∧
            (isUpperSurrogate n = true ∧ next = { q with phase := .upper n } ∨
              isUpperSurrogate n = false ∧ next = q.push (Char.ofNat n))) := by
  simp only [step, start] at stepped
  rcases gathered : gather digits c with e | more | n
  · rw [gathered] at stepped
    cases stepped
  · rw [gathered] at stepped
    exact .inl ⟨more, rfl, q.stay_step next (.unit more) stepped⟩
  · simp only [gathered] at stepped
    refine .inr ⟨n, rfl, ?_⟩
    by_cases checked : q.checked = true
    · rw [if_pos checked] at stepped
      by_cases lower : isLowerSurrogate n = true
      · rw [if_pos lower] at stepped
        cases stepped
      · rw [if_neg lower] at stepped
        refine .inr ⟨checked, Bool.eq_false_iff.mpr lower, ?_⟩
        by_cases upper : isUpperSurrogate n = true
        · rw [if_pos upper] at stepped
          exact .inl ⟨upper, q.stay_step next (.upper n) stepped⟩
        · rw [if_neg upper] at stepped
          exact .inr ⟨Bool.eq_false_iff.mpr upper, q.pushed_step next _ stepped⟩
    · rw [if_neg checked] at stepped
      exact .inl ⟨Bool.eq_false_iff.mpr checked, q.stay_step next .plain stepped⟩

theorem upper_step (q next : Quote) (n : Nat) (c : Char) (start : q.phase = .upper n)
    (stepped : q.step c = .ok (.more next)) : c = '\\' ∧ next = { q with phase := .upperEscape n } := by
  simp only [step, start] at stepped
  by_cases slash : c = '\\'
  · rw [if_pos slash] at stepped
    exact ⟨slash, q.stay_step next (.upperEscape n) stepped⟩
  · rw [if_neg slash] at stepped
    cases stepped

theorem upper_escape_step (q next : Quote) (n : Nat) (c : Char) (start : q.phase = .upperEscape n)
    (stepped : q.step c = .ok (.more next)) : c = 'u' ∧ next = { q with phase := .lower n [] } := by
  simp only [step, start] at stepped
  by_cases unit : c = 'u'
  · rw [if_pos unit] at stepped
    exact ⟨unit, q.stay_step next (.lower n []) stepped⟩
  · rw [if_neg unit] at stepped
    cases stepped

theorem lower_step (q next : Quote) (n : Nat) (digits : List Char) (c : Char) (start : q.phase = .lower n digits)
    (stepped : q.step c = .ok (.more next)) :
    (∃ more, gather digits c = .ok (.inl more) ∧ next = { q with phase := .lower n more }) ∨
      ∃ m, gather digits c = .ok (.inr m) ∧ isLowerSurrogate m = true ∧ next = q.push (surrogatePair n m) := by
  simp only [step, start] at stepped
  rcases gathered : gather digits c with e | more | m
  · rw [gathered] at stepped
    cases stepped
  · rw [gathered] at stepped
    exact .inl ⟨more, rfl, q.stay_step next (.lower n more) stepped⟩
  · simp only [gathered] at stepped
    by_cases lower : isLowerSurrogate m = true
    · rw [if_pos lower] at stepped
      exact .inr ⟨m, rfl, lower, q.pushed_step next _ stepped⟩
    · rw [if_neg lower] at stepped
      cases stepped

theorem checked_step (q next : Quote) (c : Char) (stepped : q.step c = .ok (.more next)) : next.checked = q.checked := by
  cases phase : q.phase with
  | plain =>
      obtain ⟨_, ⟨_, rfl⟩ | ⟨_, _, rfl⟩⟩ := q.plain_step next c phase stepped
      · rfl
      · rfl
  | escape =>
      obtain ⟨_, rfl⟩ | ⟨_, _, _, rfl⟩ := q.escape_step next c phase stepped
      · rfl
      · rfl
  | unit digits =>
      obtain ⟨_, _, rfl⟩ | ⟨_, _, ⟨_, rfl⟩ | ⟨_, _, ⟨_, rfl⟩ | ⟨_, rfl⟩⟩⟩ := q.unit_step next digits c phase stepped
      · rfl
      · rfl
      · rfl
      · rfl
  | upper n =>
      obtain ⟨_, rfl⟩ := q.upper_step next n c phase stepped
      rfl
  | upperEscape n =>
      obtain ⟨_, rfl⟩ := q.upper_escape_step next n c phase stepped
      rfl
  | lower n digits =>
      obtain ⟨_, _, rfl⟩ | ⟨_, _, _, rfl⟩ := q.lower_step next n digits c phase stepped
      · rfl
      · rfl

theorem closed_step (q : Quote) (c : Char) (s : String) (closed : q.step c = .ok (.closed s)) :
    q.phase = .plain ∧ c = '"' ∧ s = String.ofList q.chars.reverse := by
  cases phase : q.phase with
  | plain =>
      simp only [step, phase] at closed
      by_cases quote : c = '"'
      · rw [if_pos quote] at closed
        cases closed
        exact ⟨rfl, quote, rfl⟩
      · rw [if_neg quote] at closed
        split at closed
        next => cases closed
        split at closed
        next => cases closed
        next => cases closed
  -- No other phase has a character that closes.
  | escape =>
      simp only [step, phase] at closed
      split at closed
      next => cases closed
      split at closed
      next => cases closed
      next => cases closed
  | unit digits =>
      simp only [step, phase] at closed
      split at closed
      next => cases closed
      next => cases closed
      split at closed
      next =>
        split at closed
        next => cases closed
        split at closed
        next => cases closed
        next => cases closed
      next => cases closed
  | upper n =>
      simp only [step, phase] at closed
      split at closed
      next => cases closed
      next => cases closed
  | upperEscape n =>
      simp only [step, phase] at closed
      split at closed
      next => cases closed
      next => cases closed
  | lower n digits =>
      simp only [step, phase] at closed
      split at closed
      next => cases closed
      next => cases closed
      split at closed
      next => cases closed
      next => cases closed

end Quote

theorem step_abreast (q u next : Quote) (c : Char) (abreast : Quote.Abreast q u)
    (stepped : u.step c = .ok (.more next)) :
    (∃ e, q.step c = .error e) ∨ ∃ ahead, q.step c = .ok (.more ahead) ∧ Quote.Abreast ahead next := by
  cases abreast with
  | plain read passed =>
      obtain ⟨quote, ⟨rfl, rfl⟩ | ⟨slash, printable, rfl⟩⟩ := Quote.plain_step _ next c rfl stepped
      · exact .inr ⟨_, rfl, .escape read passed⟩
      · refine .inr ⟨_, ?_, .plain (c :: read) (c :: passed)⟩
        simp [Quote.step, quote, slash, printable, Quote.pushed, Quote.push]
  | escape read passed =>
      obtain ⟨rfl, rfl⟩ | ⟨other, e, simple, rfl⟩ := Quote.escape_step _ next c rfl stepped
      · exact .inr ⟨_, rfl, .unit [] read passed⟩
      · refine .inr ⟨_, ?_, .plain (e :: read) (e :: passed)⟩
        simp [Quote.step, other, simple, Quote.pushed, Quote.push]
  | unit digits read passed =>
      obtain ⟨more, gathered, rfl⟩ | ⟨n, gathered, ⟨_, rfl⟩ | ⟨checked, _⟩⟩ := Quote.unit_step _ next digits c rfl stepped
      · exact .inr ⟨_, by simp only [Quote.step, gathered]; rfl, .unit more read passed⟩
      · simp only [Quote.step, gathered, if_true]
        split
        next => exact .inl ⟨_, rfl⟩
        split
        next => exact .inr ⟨_, rfl, .upper n read passed⟩
        next => exact .inr ⟨_, rfl, .plain _ passed⟩
      · cases checked
  -- Behind the first unit of a pair nothing but the second will do.
  | upper n read passed =>
      obtain ⟨-, ⟨rfl, rfl⟩ | ⟨slash, -, -⟩⟩ := Quote.plain_step _ next c rfl stepped
      · exact .inr ⟨_, rfl, .upperEscape n read passed⟩
      · exact .inl ⟨.unexpectedEndOfHex, by simp [Quote.step, slash]⟩
  | upperEscape n read passed =>
      obtain ⟨rfl, rfl⟩ | ⟨other, -⟩ := Quote.escape_step _ next c rfl stepped
      · exact .inr ⟨_, rfl, .lower n [] read passed⟩
      · exact .inl ⟨.unexpectedEndOfHex, by simp [Quote.step, other]⟩
  | lower n digits read passed =>
      obtain ⟨more, gathered, rfl⟩ | ⟨m, gathered, ⟨_, rfl⟩ | ⟨checked, _⟩⟩ := Quote.unit_step _ next digits c rfl stepped
      · exact .inr ⟨_, by simp only [Quote.step, gathered]; rfl, .lower n more read passed⟩
      · simp only [Quote.step, gathered]
        split
        next => exact .inr ⟨_, rfl, .plain _ passed⟩
        next => exact .inl ⟨_, rfl⟩
      · cases checked

def Quote.Breaks (text : List Char) : Prop :=
  ∃ body c behind last e, text = '"' :: (body ++ c :: behind) ∧ body.foldlM Quote.more? (.start true) = some last ∧
    last.step c = .error e

theorem more_of_step (q next : Quote) (c : Char) (stepped : q.step c = .ok (.more next)) : q.more? c = some next := by
  rw [Quote.more?, stepped]

-- By induction on the text: as long as it does not break, both are abreast.
theorem through_abreast (text : List Char) (q u last : Quote) (abreast : Quote.Abreast q u)
    (through : text.foldlM Quote.more? u = some last) :
    (∃ body c behind ahead e, text = body ++ c :: behind ∧ body.foldlM Quote.more? q = some ahead ∧
      ahead.step c = .error e) ∨
      ∃ ahead, text.foldlM Quote.more? q = some ahead ∧ Quote.Abreast ahead last := by
  induction text generalizing q u with
  | nil =>
      obtain rfl : u = last := Option.some.inj through
      exact .inr ⟨q, rfl, abreast⟩
  | cons c text ih =>
      rw [List.foldlM_cons] at through
      obtain ⟨next, more, through⟩ := Option.bind_eq_some_iff.mp through
      rcases step_abreast q u next c abreast (u.more_step next c more) with ⟨e, stopped⟩ | ⟨ahead, stepped, abreast⟩
      · exact .inl ⟨[], c, text, q, e, rfl, rfl, stopped⟩
      · have passed := more_of_step q ahead c stepped
        rcases ih ahead next abreast through with ⟨body, d, behind, far, e, rfl, read, stopped⟩ | ⟨far, read, abreast⟩
        · exact .inl ⟨c :: body, d, behind, far, e, rfl, by rw [List.foldlM_cons, passed]; exact read, stopped⟩
        · exact .inr ⟨far, by rw [List.foldlM_cons, passed]; exact read, abreast⟩

theorem Quoted.reads_or_breaks (text : List Char) (quoted : Quoted text) :
    (∃ s, Quote.Reads true text s) ∨ Quote.Breaks text := by
  obtain ⟨s, body, last, rfl, through, closed⟩ := quoted.read
  rcases through_abreast body _ _ last (.plain [] []) through with
    ⟨part, c, behind, ahead, e, rfl, read, stopped⟩ | ⟨ahead, read, abreast⟩
  · exact .inr ⟨part, c, behind ++ ['"'], ahead, e, by simp, read, stopped⟩
  · have ended := (last.closed_step '"' s closed).1
    cases abreast with
    | plain chars passed => exact .inl ⟨_, body, _, rfl, read, rfl⟩
    | upper n chars passed => exact .inr ⟨body, '"', [], _, .unexpectedEndOfHex, by simp, read, rfl⟩
    | upperEscape n chars passed => exact .inr ⟨body, '"', [], _, .unexpectedEndOfHex, by simp, read, rfl⟩
    | escape | unit | lower => cases ended

end Json

end GraphBrowser
