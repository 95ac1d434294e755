import GraphBrowser.Proofs.Spelling
import Mathlib.Data.List.Nodup

set_option autoImplicit false

namespace GraphBrowser

open Json

namespace Json

def letter (c : Char) : List Char :=
  match c with
  | '"' => ['\\', '"']
  | '\\' => ['\\', '\\']
  | '\x08' => ['\\', 'b']
  | '\x0c' => ['\\', 'f']
  | '\n' => ['\\', 'n']
  | '\r' => ['\\', 'r']
  | '\t' => ['\\', 't']
  | c => if 0x20 ≤ c.toNat then [c] else ['\\', 'u', '0', '0', (c.toNat / 0x10).digitChar, (c.toNat % 0x10).digitChar]

def string (s : String) : List Char := '"' :: s.toList.flatMap letter ++ ['"']

def array (values : List (List Char)) : List Char := '[' :: [','].intercalate values ++ [']']

def object (members : List (String × List Char)) : List Char :=
  '{' :: [','].intercalate (members.map fun m => string m.1 ++ ':' :: m.2) ++ ['}']

end Json

def LinkTriple.json (l : LinkTriple) : List Char :=
  object [("source", string l.source), ("destination", string l.destination), ("name", string l.name)]

def NodeSummary.json (n : NodeSummary) : List Char :=
  object [("id", string n.id), ("label", (n.label.map string).getD null)]

def Fragment.toJson (f : Fragment) : String :=
  String.ofList (object [("node", f.node.json), ("links", array (f.links.map LinkTriple.json))])

example : Fragment.toJson ⟨⟨"a\n", none⟩, []⟩ =
    "\x7b\"node\":\x7b\"id\":\"a\\n\",\"label\":null\x7d,\"links\":[]\x7d" := by decide

namespace Json

theorem hex_digit_lower (n : Nat) (below : n < 16) : HexDigit n n.digitChar := ⟨below, .inl rfl⟩

theorem unit_below (c : Char) (below : c.toNat < 0x20) :
    HexUnit c.toNat ['0', '0', (c.toNat / 0x10).digitChar, (c.toNat % 0x10).digitChar] := by
  have high : c.toNat / 0x1000 = 0 := by omega
  have middle : c.toNat / 0x100 % 0x10 = 0 := by omega
  have low : c.toNat / 0x10 % 0x10 = c.toNat / 0x10 := by omega
  rw [HexUnit, high, middle, low]
  exact .cons (hex_digit_lower 0 (by omega)) (.cons (hex_digit_lower 0 (by omega))
    (.cons (hex_digit_lower _ (by omega)) (.cons (hex_digit_lower _ (by omega)) .nil)))

theorem letter_spells (c : Char) : Letter c (letter c) := by
  rw [letter.eq_def]
  split
  all_goals try exact .short _ _ (by decide)
  next quote backslash _ _ _ _ _ =>
    split
    next printable => exact .plain c ⟨printable, quote, backslash⟩
    next control => exact .unit c _ (unit_below c (Nat.not_le.mp control))

theorem string_spells (s : String) : Spells s (string s) := by
  refine ⟨s.toList.map letter, ?_, ?_⟩
  · exact List.forall₂_map_right_iff.mpr (List.forall₂_same.mpr fun c _ => letter_spells c)
  · rw [string, List.flatMap_def]

theorem listed_commas (items : List (List Char)) : Listed items ([','].intercalate items) := by
  induction items with
  | nil => exact .empty [] nofun
  | cons item items ih =>
      cases items with
      | nil => simpa using Listed.last item item (padded_self item)
      | cons next items => simpa [List.intercalate_cons_cons] using Listed.more item item next items _ (padded_self item) ih

theorem record_printed (fields : List Field) (members : List (String × List Char))
    (keys : members.map Prod.fst = fields.map Field.key) (distinct : (fields.map Field.key).Nodup)
    (known : ∀ m ∈ members, ∀ f ∈ fields, m.1 = f.key → f.Spells m.2) : Record fields (object members) := by
  have once : ∀ f ∈ fields, (members.map Prod.fst).count f.key ≤ 1 := by
    intro f _
    rw [keys]
    exact List.nodup_iff_count_le_one.mp distinct f.key
  have complete : ∀ f ∈ fields, f.Optional ∨ f.key ∈ members.map Prod.fst := by
    intro f member
    rw [keys]
    exact .inr (List.mem_map_of_mem member)
  have unknown : ∀ m ∈ members, m.1 ∉ fields.map Field.key → Wellformed m.2 := by
    intro m member absent
    rw [← keys] at absent
    exact absurd (List.mem_map_of_mem member) absent
  refine .object members _ _ once complete known unknown ?_ (listed_commas _)
  refine List.forall₂_map_right_iff.mpr (List.forall₂_same.mpr fun m _ => ?_)
  exact ⟨string m.1, string_spells m.1, member_between (string m.1) [] [] m.2 nofun nofun⟩

end Json

theorem LinkTriple.json_spells (l : LinkTriple) : Record l.fields l.json := by
  refine record_printed _ _ rfl (by simp [fields]) ?_
  simp [fields, string_spells]

theorem NodeSummary.json_spells (n : NodeSummary) : Record n.fields n.json := by
  have label : SpellsLabel n.label ((n.label.map string).getD null) := by
    cases n.label with
    | none => rfl
    | some s => exact string_spells s
  refine record_printed _ _ rfl (by simp [fields]) ?_
  simp [fields, string_spells, label]

theorem Fragment.to_json_spells (f : Fragment) : f.Spells f.toJson := by
  have links : SpellsLinks f.links (array (f.links.map LinkTriple.json)) := by
    refine ⟨f.links.map LinkTriple.json, _, ?_, listed_commas _, rfl⟩
    exact List.forall₂_map_right_iff.mpr (List.forall₂_same.mpr fun l _ => l.json_spells)
  have record : Record f.fields (object [("node", f.node.json), ("links", array (f.links.map LinkTriple.json))]) := by
    refine record_printed _ _ rfl (by simp [fields]) ?_
    simp [fields, NodeSummary.json_spells, links]
  refine ⟨_, record, ?_⟩
  rw [toJson, String.toList_ofList]
  exact padded_self _

end GraphBrowser
