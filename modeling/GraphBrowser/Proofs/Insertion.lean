import GraphBrowser.Proofs.Spelling

set_option autoImplicit false

namespace GraphBrowser

namespace Json

inductive Leading : List (List Char) → List Char → Prop where
  | start (w : List Char) (blank : Blank w) : Leading [] w
  | more (item text : List Char) (items : List (List Char)) (rest : List Char) (padded : Padded item text)
      (leading : Leading items rest) : Leading (item :: items) (text ++ ',' :: rest)

theorem listed_split (items others : List (List Char)) (item inner : List Char)
    (listed : Listed (items ++ item :: others) inner) :
    ∃ before behind, Leading items before ∧ inner = before ++ (item ++ behind) := by
  induction items generalizing inner with
  | nil =>
      cases listed with
      | last _ _ padded =>
          obtain ⟨w, v, blank, _, rfl⟩ := padded
          exact ⟨w, v, .start w blank, rfl⟩
      | more _ _ _ _ rest padded _ =>
          obtain ⟨w, v, blank, _, rfl⟩ := padded
          exact ⟨w, v ++ ',' :: rest, .start w blank, by simp only [List.append_assoc]⟩
  | cons first items ih =>
      obtain ⟨next, more, shape⟩ : ∃ next more, items ++ item :: others = next :: more := by
        cases items <;> exact ⟨_, _, rfl⟩
      rw [List.cons_append, shape] at listed
      cases listed with | more _ text _ _ rest padded listed =>
      rw [← shape] at listed
      obtain ⟨before, behind, leading, rfl⟩ := ih rest listed
      exact ⟨text ++ ',' :: before, behind, .more first text items before padded leading, by simp⟩

def Named (m : String × List Char) (text : List Char) : Prop := ∃ key, Spells m.1 key ∧ Member key m.2 text

def Members (members : List (String × List Char)) (texts : List (List Char)) : Prop :=
  (∀ m ∈ members, Wellformed m.2) ∧ List.Forall₂ Named members texts

-- An object, and the same with one more member, which stands anywhere and has a key of these that is there before.
inductive Doubled (keys : List String) : List Char → List Char → Prop where
  | member (before behind : List (String × List Char)) (k : String) (v : List Char)
      (texts longer : List (List Char)) (inner extended : List Char)
      (written : Members (before ++ behind) texts) (listed : Listed texts inner)
      (known : k ∈ keys) (present : k ∈ (before ++ behind).map Prod.fst)
      (rewritten : Members (before ++ (k, v) :: behind) longer) (relisted : Listed longer extended) :
      Doubled keys ('{' :: inner ++ ['}']) ('{' :: extended ++ ['}'])

theorem twice_present (before behind : List (String × List Char)) (k : String) (v : List Char)
    (present : k ∈ (before ++ behind).map Prod.fst) :
    ∃ xs ys zs v₁ v₂, before ++ (k, v) :: behind = (xs ++ (k, v₁) :: ys) ++ (k, v₂) :: zs := by
  obtain ⟨⟨name, other⟩, listed, rfl⟩ := List.mem_map.mp present
  rcases List.mem_append.mp listed with earlier | later
  · obtain ⟨xs, ys, rfl⟩ := List.append_of_mem earlier
    exact ⟨xs, ys, behind, other, v, rfl⟩
  · obtain ⟨ys, zs, rfl⟩ := List.append_of_mem later
    exact ⟨before, ys, zs, v, other, by simp⟩

end Json

open Json

namespace Fragment

-- What stands before the value of a field, in a record that is written as an object or as an array.
inductive Site (key : String) (position : Nat) : List Char → Prop where
  | member (members : List (String × List Char)) (texts : List (List Char)) (w before name x y : List Char)
      (outside : Blank w) (written : Members members texts) (leading : Leading texts before)
      (spelled : Json.Spells key name) (beforeColon : Blank x) (behindColon : Blank y) :
      Site key position (w ++ '{' :: (before ++ (name ++ (x ++ ':' :: y))))
  | element (values : List (List Char)) (w before : List Char) (outside : Blank w)
      (wellformed : ∀ v ∈ values, Wellformed v) (leading : Leading values before)
      (here : values.length = position) : Site key position (w ++ '[' :: before)

-- What stands before a fragment, before its node and before one of its links, with the keys of each.
inductive Place : List String → List Char → Prop where
  | fragment (w : List Char) (blank : Blank w) : Place ["node", "links"] w
  | node (before : List Char) (site : Site "node" 0 before) : Place ["id", "label"] before
  | link (values : List (List Char)) (outside before : List Char) (site : Site "links" 1 outside)
      (wellformed : ∀ v ∈ values, Wellformed v) (leading : Leading values before) :
      Place ["source", "destination", "name"] (outside ++ '[' :: before)

end Fragment

end GraphBrowser
