import GraphBrowser.Proofs.Accepting
import GraphBrowser.Proofs.Decoding
import GraphBrowser.Proofs.Repeating
import Mathlib.Data.List.DropRight

set_option autoImplicit false

namespace GraphBrowser

open Json

namespace Reader

theorem run_append (r : Reader) (first second : List Char) :
    r.run (first ++ second) = (r.run first).bind (·.run second) := List.foldlM_append

theorem blank_cons (c : Char) (text : List Char) : Blank (c :: text) ↔ isSpace c = true ∧ Blank text := by
  rw [Blank, List.forall_mem_cons, space_iff_blank, Blank]

theorem run_done (f : Fragment) (text : List Char) (r : Reader) :
    (Reader.done f).run text = .ok r ↔ Blank text ∧ r = .done f := by
  induction text with
  | nil =>
      have ended : (Reader.done f).run [] = .ok (.done f) := rfl
      rw [ended, Except.ok.injEq, eq_comm]
      exact ⟨fun same => ⟨nofun, same⟩, fun both => both.2⟩
  | cons c text ih =>
      by_cases space : isSpace c = true
      · have stays : (Reader.done f).step c = .ok (.done f) := by simp [step, space]
        rw [run_cons _ _ c text stays, ih, blank_cons]
        simp only [space, true_and]
      · have stops : (Reader.done f).step c = .error .trailingCharacters := by simp [step, space]
        rw [run_stopped _ c text _ stops, blank_cons]
        simp only [space, false_and, reduceCtorEq]

theorem finish_ok_iff (r : Reader) (f : Fragment) : r.finish = .ok f ↔ r = .done f := by
  constructor
  · intro finished
    cases r with
    | done g => rw [finish, Except.ok.injEq] at finished; rw [finished]
    | numeral phase chars spot =>
        obtain ⟨e, fails⟩ := put_numeral_fails (β := Fragment) spot chars
        rw [finish, fails] at finished
        split at finished <;> cases finished
    | skip s d =>
        cases s with
        | numeral phase stack => cases stack <;> cases finished
        | _ => cases finished
    | _ => cases finished
  · rintro rfl
    rfl

end Reader

namespace Fragment

theorem decode_ok_iff (t : String) (f : Fragment) :
    decode t = .ok f ↔ (Reader.value .fragment).run t.toList = .ok (.done f) := by
  have read : decode t = .ok f ↔ ((Reader.value .fragment).run t.toList).bind Reader.finish = .ok f := by
    show (ofJson t).mapError _ = .ok f ↔ ofJson t = .ok f
    cases ofJson t <;> simp [Except.mapError]
  rw [read]
  cases (Reader.value .fragment).run t.toList with
  | error e => simp [Except.bind]
  | ok r => rw [Except.ok.injEq, ← r.finish_ok_iff f]; rfl

theorem decode_iff_spells (t : String) (f : Fragment) : decode t = .ok f ↔ f.Spells t := by
  refine ⟨fun accepted => ?_, f.spelling_is_decoded t⟩
  exact Reader.run_spells t.toList f ((decode_ok_iff t f).mp accepted)

def trimmed (text : List Char) : List Char := (text.dropWhile blanks.contains).rdropWhile blanks.contains

theorem trimmed_between (text : List Char) : ∃ w v, Blank w ∧ Blank v ∧ text = w ++ (trimmed text ++ v) := by
  refine ⟨text.takeWhile blanks.contains, (text.dropWhile blanks.contains).rtakeWhile blanks.contains, ?_, ?_, ?_⟩
  · exact fun c member => List.contains_iff_mem.mp (List.mem_takeWhile_imp member)
  · exact fun c member => List.contains_iff_mem.mp (List.mem_rtakeWhile_imp member)
  · rw [trimmed, List.rdropWhile_append_rtakeWhile, List.takeWhile_append_dropWhile]

theorem trimmed_end (text kept cut : List Char) (split : trimmed text = kept ++ cut) (blank : Blank cut) : cut = [] := by
  by_contra some
  have ends : ∀ whole : trimmed text ≠ [], ¬ blanks.contains ((trimmed text).getLast whole) :=
    List.rdropWhile_last_not blanks.contains (text.dropWhile blanks.contains)
  rw [split] at ends
  have last := ends (List.append_ne_nil_of_right_ne_nil kept some)
  rw [List.getLast_append_of_ne_nil _ some, List.contains_iff_mem] at last
  exact last (blank _ (List.getLast_mem some))

theorem followed_decoded_iff (t s : String) (f g : Fragment) (accepted : decode t = .ok f) :
    decode (t ++ s) = .ok g ↔ Blank s.toList ∧ f = g := by
  rw [decode_ok_iff] at accepted
  rw [decode_ok_iff, String.toList_append, Reader.run_append, accepted]
  show (Reader.done f).run s.toList = .ok (.done g) ↔ _
  rw [Reader.run_done, Reader.done.injEq, eq_comm (a := g)]

theorem preceded_decoded_iff (t s : String) (f : Fragment) (blank : Blank s.toList) :
    decode (s ++ t) = .ok f ↔ decode t = .ok f := by
  rw [decode_ok_iff, decode_ok_iff, String.toList_append, Reader.run_blank _ _ _ (Reader.value_patient .fragment) blank]

theorem prefix_refused (t : String) (f g : Fragment) (kept : List Char) (accepted : decode t = .ok f)
    (before : kept <+: trimmed t.toList) (proper : kept ≠ trimmed t.toList) : decode (String.ofList kept) ≠ .ok g := by
  intro early
  obtain ⟨cut, split⟩ := before
  obtain ⟨w, v, outside, behind, whole⟩ := trimmed_between t.toList
  have shorter : decode (String.ofList w ++ String.ofList kept) = .ok g :=
    (preceded_decoded_iff _ _ g (by rwa [String.toList_ofList])).mpr early
  have longer : t = (String.ofList w ++ String.ofList kept) ++ String.ofList (cut ++ v) := by
    rw [← String.toList_inj]
    rw [← split] at whole
    rw [whole]
    simp only [String.toList_append, String.toList_ofList, List.append_assoc]
  rw [longer, followed_decoded_iff _ _ g f shorter, String.toList_ofList] at accepted
  have blank : Blank cut := fun c member => accepted.1 c (List.mem_append_left v member)
  have nothing := trimmed_end t.toList kept cut split.symm blank
  exact proper (by rw [← split, nothing, List.append_nil])

theorem decoding_consumes_whole_text (t : String) (f : Fragment) (accepted : decode t = .ok f) :
    f.Spells t ∧ (∀ s, ((∃ g, decode (t ++ s) = .ok g) ↔ Blank s.toList) ∧
      (Blank s.toList → decode (t ++ s) = .ok f ∧ decode (s ++ t) = .ok f)) ∧
      (∀ p, p <+: trimmed t.toList → p ≠ trimmed t.toList → ∀ g, decode (String.ofList p) ≠ .ok g) ∧
      ∀ keys before object behind longer, Place keys before → t.toList = before ++ (object ++ behind) →
        Doubled keys object longer → ∀ g, decode (String.ofList (before ++ (longer ++ behind))) ≠ .ok g := by
  refine ⟨(decode_iff_spells t f).mp accepted, fun s => ⟨⟨?_, ?_⟩, ?_⟩, ?_, ?_⟩
  · rintro ⟨g, decoded⟩
    exact ((followed_decoded_iff t s f g accepted).mp decoded).1
  · exact fun blank => ⟨f, (followed_decoded_iff t s f f accepted).mpr ⟨blank, rfl⟩⟩
  · intro blank
    have followed := (followed_decoded_iff t s f f accepted).mpr ⟨blank, rfl⟩
    exact ⟨followed, (preceded_decoded_iff t s f blank).mpr accepted⟩
  · exact fun kept before proper g => prefix_refused t f g kept accepted before proper
  · intro keys before object behind longer place _ doubled g decoded
    obtain ⟨e, refused⟩ := Reader.place_refused keys before object longer behind place doubled
    rw [decode_ok_iff, String.toList_ofList, refused] at decoded
    cases decoded

def pair : Fragment := ⟨⟨"a", none⟩, [⟨"a", "b", "c"⟩]⟩

def pairMembers : List (String × List Char) :=
  [("source", "\"a\"".toList), ("destination", "\"b\"".toList), ("name", "\"c\"".toList)]

def pairFront : List Char := "[[\"a\"],[".toList

def pairLink : List Char := '{' :: "\"source\":\"a\",\"destination\":\"b\",\"name\":\"c\"".toList ++ ['}']

def pairText : String := String.ofList (pairFront ++ (pairLink ++ "]]".toList))

def pairTwice : List Char :=
  '{' :: "\"source\":\"a\",\"destination\":\"b\",\"name\":\"c\", \"name\":null".toList ++ ['}']

theorem letter_wellformed (c : Char) (plain : Plain c) : Wellformed ['"', c, '"'] :=
  .string _ ⟨[[c]], List.forall_mem_singleton.mpr (.plain c plain), rfl⟩

theorem pair_place : Place ["source", "destination", "name"] pairFront := by
  have node : Wellformed "[\"a\"]".toList :=
    .array [['"', 'a', '"']] _ (List.forall_mem_singleton.mpr (letter_wellformed 'a' (by decide)))
      (.last _ _ (padded_self _))
  have site : Site "links" 1 "[[\"a\"],".toList :=
    .element ["[\"a\"]".toList] [] _ (by decide) (List.forall_mem_singleton.mpr node)
      (.more _ _ [] [] (padded_self _) (.start [] (by decide))) rfl
  exact .link [] _ [] site nofun (.start [] (by decide))

theorem pair_doubled : Doubled ["source", "destination", "name"] pairLink pairTwice := by
  have named (k : String) (v : List Char) : Named (k, v) (string k ++ ([] ++ ':' :: ([] ++ v))) :=
    ⟨string k, string_spells k, member_between _ [] [] v nofun nofun⟩
  have wellformed : ∀ m ∈ pairMembers, Wellformed m.2 := by
    simp only [pairMembers, List.forall_mem_cons]
    exact ⟨letter_wellformed 'a' (by decide), letter_wellformed 'b' (by decide), letter_wellformed 'c' (by decide), nofun⟩
  have longer : ∀ m ∈ pairMembers ++ [("name", null)], Wellformed m.2 :=
    List.forall_mem_append.mpr ⟨wellformed, List.forall_mem_singleton.mpr .null⟩
  exact .member pairMembers [] "name" null _ _ _ _
    ⟨wellformed, .cons (named _ _) (.cons (named _ _) (.cons (named _ _) .nil))⟩
    (.more _ _ _ _ _ (padded_self _) (.more _ _ _ _ _ (padded_self _) (.last _ _ (padded_self _))))
    (by simp) (by decide)
    ⟨longer, .cons (named _ _) (.cons (named _ _) (.cons (named _ _) (.cons (named _ _) .nil)))⟩
    (.more _ _ _ _ _ (padded_self _) (.more _ _ _ _ _ (padded_self _) (.more _ _ _ _ _ (padded_self _)
      (.last _ _ (padded_between [' '] _ [] (by decide) (by decide))))))

theorem pair_consumes_whole_text :
    decode pairText = .ok pair ∧ pair.Spells pairText ∧ decode (pairText ++ "\r\n") = .ok pair ∧
      (∀ g, decode (pairText ++ ",") ≠ .ok g) ∧ (∀ g, decode (String.ofList "[[\"a\"]".toList) ≠ .ok g) ∧
      ∀ g, decode (String.ofList (pairFront ++ (pairTwice ++ "]]".toList))) ≠ .ok g := by
  have accepted : decode pairText = .ok pair := (decode_ok_iff _ _).mpr rfl
  obtain ⟨spelled, followed, shortened, doubled⟩ := decoding_consumes_whole_text pairText pair accepted
  refine ⟨accepted, spelled, ((followed "\r\n").2 (by decide)).1, ?_, ?_, ?_⟩
  · intro g decoded
    exact absurd ((followed ",").1.mp ⟨g, decoded⟩) (by decide)
  · exact shortened _ (by decide) (by decide)
  · exact doubled _ _ pairLink _ _ pair_place rfl pair_doubled

end Fragment

end GraphBrowser
