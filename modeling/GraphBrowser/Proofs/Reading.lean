import GraphBrowser.Fragment.Reader
import GraphBrowser.Proofs.Quoting

set_option autoImplicit false

namespace GraphBrowser

open Json

-- What may follow a value. A number ends only there.
def Json.Ends (c : Char) : Prop := c ∈ blanks ∨ c = ',' ∨ c = ']' ∨ c = '}'

def Json.Delimited (text : List Char) : Prop := ∃ c rest, text = c :: rest ∧ Ends c

theorem Json.blank_delimits (w rest : List Char) (c : Char) (blank : Blank w) (ends : Ends c) :
    Delimited (w ++ c :: rest) := by
  cases w with
  | nil => exact ⟨c, rest, rfl, ends⟩
  | cons space w => exact ⟨space, w ++ c :: rest, rfl, .inl (blank space List.mem_cons_self)⟩

theorem Json.space_iff_blank (c : Char) : isSpace c = true ↔ c ∈ blanks := by
  simp [isSpace, blanks, or_assoc, or_comm, or_left_comm]

namespace Reader

theorem run_cons (r next : Reader) (c : Char) (rest : List Char) (stepped : r.step c = .ok next) :
    r.run (c :: rest) = next.run rest := by
  rw [run, List.foldlM_cons, stepped]
  rfl

theorem run_congr (r other : Reader) (c : Char) (rest : List Char) (same : r.step c = other.step c) :
    r.run (c :: rest) = other.run (c :: rest) := by
  rw [run, run, List.foldlM_cons, List.foldlM_cons, same]

def Patient (r : Reader) : Prop := ∀ c, isSpace c = true → r.step c = .ok r

theorem run_blank (r : Reader) (w rest : List Char) (patient : r.Patient) (blank : Blank w) :
    r.run (w ++ rest) = r.run rest := by
  induction w with
  | nil => rfl
  | cons c w ih =>
      have space := (space_iff_blank c).mpr (blank c List.mem_cons_self)
      rw [List.cons_append, run_cons r r c _ (patient c space)]
      exact ih fun d member => blank d (List.mem_cons_of_mem _ member)

-- A part of the reader that takes a stretch of text on its own moves the reader along.
theorem run_hosted {σ : Type} (more? : σ → Char → Option σ) (host : σ → Reader)
    (hosts : ∀ s c next, more? s c = some next → (host s).step c = .ok (host next)) (s last : σ)
    (text rest : List Char) (through : text.foldlM more? s = some last) :
    (host s).run (text ++ rest) = (host last).run rest := by
  induction text generalizing s with
  | nil =>
      obtain rfl : s = last := Option.some.inj through
      rfl
  | cons c text ih =>
      rw [List.foldlM_cons] at through
      obtain ⟨next, stepped, through⟩ := Option.bind_eq_some_iff.mp through
      rw [List.cons_append, run_cons _ _ c _ (hosts s c next stepped)]
      exact ih next through

theorem run_quoted (host : Quote → Reader) (before after : Reader) (checked : Bool) (text rest : List Char) (s : String)
    (reads : Quote.Reads checked text s) (opens : before.step '"' = .ok (host (.start checked)))
    (hosts : ∀ q c next, q.step c = .ok (.more next) → (host q).step c = .ok (host next))
    (closes : ∀ q, q.step '"' = .ok (.closed s) → (host q).step '"' = .ok after) :
    before.run (text ++ rest) = after.run rest := by
  obtain ⟨body, last, rfl, through, closed⟩ := reads
  rw [List.cons_append, List.cons_append, run_cons _ _ _ _ opens, List.append_assoc,
    run_hosted Quote.more? host (fun q c next more => hosts q c next (q.more_step next c more)) _ _ _ _ through]
  exact run_cons _ _ _ _ (closes last closed)

end Reader

-- The states of a reader around the items between two brackets: behind the opening bracket, behind a comma
-- and behind an item.
structure Series (δ : Type) where
  opened : δ → Reader
  comma : δ → Reader
  after : δ → Reader
  opened_patient : ∀ d, (opened d).Patient
  comma_patient : ∀ d, (comma d).Patient
  after_patient : ∀ d, (after d).Patient

namespace Series

variable {δ : Type} (s : Series δ)

structure Takes (d : δ) (item : List Char) (next : δ) : Prop where
  separates : (s.after d).step ',' = .ok (s.comma d)
  first : ∀ rest, Delimited rest → (s.opened d).run (item ++ rest) = (s.after next).run rest
  later : ∀ rest, Delimited rest → (s.comma d).run (item ++ rest) = (s.after next).run rest

inductive Path : δ → List (List Char) → δ → Prop where
  | nil (d : δ) : Path d [] d
  | cons (d next last : δ) (item : List Char) (items : List (List Char)) (takes : s.Takes d item next)
      (path : Path next items last) : Path d (item :: items) last

theorem path_still {β : Type} (d : δ) (sources : List β) (items : List (List Char))
    (takes : List.Forall₂ (fun _ item => s.Takes d item d) sources items) : s.Path d items d := by
  induction takes with
  | nil => exact .nil d
  | cons taken _ ih => exact .cons d d d _ _ taken ih

theorem run_padded (r : Reader) (next : δ) (item text : List Char) (c : Char) (rest : List Char) (ends : Ends c)
    (patient : r.Patient) (padded : Padded item text)
    (takes : ∀ rest, Delimited rest → r.run (item ++ rest) = (s.after next).run rest) :
    r.run (text ++ c :: rest) = (s.after next).run (c :: rest) := by
  obtain ⟨w, v, before, behind, rfl⟩ := padded
  rw [List.append_assoc, List.append_assoc, r.run_blank w _ patient before,
    takes _ (blank_delimits v rest c behind ends), (s.after next).run_blank v _ (s.after_patient next) behind]

theorem run_more (r : Reader) (next last : δ) (item text : List Char) (items : List (List Char)) (c : Char)
    (rest : List Char) (ends : Ends c) (patient : r.Patient) (listed : Listed (item :: items) text)
    (takes : ∀ rest, Delimited rest → r.run (item ++ rest) = (s.after next).run rest) (path : s.Path next items last) :
    r.run (text ++ c :: rest) = (s.after last).run (c :: rest) := by
  induction items generalizing r next item text with
  | nil =>
      cases path with | nil =>
      cases listed with | last _ _ padded =>
      exact s.run_padded r _ item text c rest ends patient padded takes
  | cons second items ih =>
      cases listed with | more _ text _ _ others padded listed =>
      cases path with | cons _ beyond _ _ _ secondTakes path =>
      have comma : Ends ',' := by simp [Ends]
      rw [List.append_assoc, List.cons_append, s.run_padded r next item text ',' _ comma patient padded takes,
        Reader.run_cons _ _ _ _ secondTakes.separates]
      exact ih (s.comma next) beyond second others (s.comma_patient next) listed secondTakes.later path

theorem run_listed (d last : δ) (items : List (List Char)) (text : List Char) (c : Char) (rest : List Char)
    (ends : Ends c) (closes : (s.opened d).step c = (s.after d).step c) (listed : Listed items text)
    (path : s.Path d items last) : (s.opened d).run (text ++ c :: rest) = (s.after last).run (c :: rest) := by
  cases path with
  | nil =>
      cases listed with | empty _ blank =>
      rw [(s.opened d).run_blank text _ (s.opened_patient d) blank]
      exact Reader.run_congr _ _ c rest closes
  | cons _ next _ item items takes path =>
      exact s.run_more (s.opened d) next last item text items c rest ends (s.opened_patient d) listed takes.first path

end Series

end GraphBrowser
