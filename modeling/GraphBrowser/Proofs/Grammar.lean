import Mathlib.Data.List.Forall2

set_option autoImplicit false

namespace GraphBrowser.Json

def blanks : List Char := [' ', '\t', '\n', '\r']

def Blank (w : List Char) : Prop := ∀ c ∈ w, c ∈ blanks

instance (w : List Char) : Decidable (Blank w) := List.decidableBAll (· ∈ blanks) w

def shortEscapes : List (Char × Char) :=
  [('"', '"'), ('\\', '\\'), ('/', '/'), ('b', '\x08'), ('f', '\x0c'), ('n', '\n'), ('r', '\r'), ('t', '\t')]

def HexDigit (n : Nat) (c : Char) : Prop := n < 16 ∧ (c = n.digitChar ∨ c = n.digitChar.toUpper)
deriving Decidable

-- Four digits, of which the first bounds the number.
def HexUnit (n : Nat) (digits : List Char) : Prop :=
  List.Forall₂ HexDigit [n / 0x1000, n / 0x100 % 0x10, n / 0x10 % 0x10, n % 0x10] digits
deriving Decidable

def Plain (c : Char) : Prop := 0x20 ≤ c.toNat ∧ c ≠ '"' ∧ c ≠ '\\'
deriving Decidable

-- The ways to write a character between quotes. A character that takes two units of UTF-16 is escaped
-- as the pair of them.
inductive Letter : Char → List Char → Prop where
  | plain (c : Char) (plain : Plain c) : Letter c [c]
  | short (e c : Char) (listed : (e, c) ∈ shortEscapes) : Letter c ['\\', e]
  | unit (c : Char) (digits : List Char) (spelled : HexUnit c.toNat digits) : Letter c ('\\' :: 'u' :: digits)
  | pair (c : Char) (upper lower : List Char) (beyond : 0x10000 ≤ c.toNat)
      (first : HexUnit (0xD800 + (c.toNat - 0x10000) / 0x400) upper)
      (second : HexUnit (0xDC00 + (c.toNat - 0x10000) % 0x400) lower) :
      Letter c ('\\' :: 'u' :: upper ++ '\\' :: 'u' :: lower)

def Spells (s : String) (text : List Char) : Prop :=
  ∃ letters, List.Forall₂ Letter s.toList letters ∧ text = '"' :: letters.flatten ++ ['"']

-- What may stand between quotes by the grammar alone, which does not ask that surrogates be paired.
inductive Piece : List Char → Prop where
  | plain (c : Char) (plain : Plain c) : Piece [c]
  | short (e c : Char) (listed : (e, c) ∈ shortEscapes) : Piece ['\\', e]
  | unit (n : Nat) (digits : List Char) (spelled : HexUnit n digits) : Piece ('\\' :: 'u' :: digits)

def Quoted (text : List Char) : Prop :=
  ∃ pieces : List (List Char), (∀ p ∈ pieces, Piece p) ∧ text = '"' :: pieces.flatten ++ ['"']

def Digits (text : List Char) : Prop := text ≠ [] ∧ ∀ c ∈ text, c.isDigit = true

instance (text : List Char) : Decidable (Digits text) :=
  haveI := List.decidableBAll (fun c : Char => c.isDigit = true) text
  inferInstanceAs (Decidable (_ ∧ _))

inductive Whole : List Char → Prop where
  | zero : Whole ['0']
  | counted (text : List Char) (digits : Digits text) (leading : text.head? ≠ some '0') : Whole text

inductive Fraction : List Char → Prop where
  | none : Fraction []
  | some (text : List Char) (digits : Digits text) : Fraction ('.' :: text)

inductive Exponent : List Char → Prop where
  | none : Exponent []
  | some (mark : Char) (sign text : List Char) (marks : mark ∈ ['e', 'E']) (signs : sign ∈ [[], ['+'], ['-']])
      (digits : Digits text) : Exponent (mark :: sign ++ text)

def Number (text : List Char) : Prop :=
  ∃ sign whole fraction exponent, sign ∈ [[], ['-']] ∧ Whole whole ∧ Fraction fraction ∧ Exponent exponent ∧
    text = sign ++ (whole ++ (fraction ++ exponent))

def Padded (item text : List Char) : Prop := ∃ w v, Blank w ∧ Blank v ∧ text = w ++ (item ++ v)

theorem padded_between (w item v : List Char) (before : Blank w) (behind : Blank v) : Padded item (w ++ (item ++ v)) :=
  ⟨w, v, before, behind, rfl⟩

theorem padded_self (item : List Char) : Padded item item := ⟨[], [], nofun, nofun, by simp⟩

inductive Listed : List (List Char) → List Char → Prop where
  | empty (w : List Char) (blank : Blank w) : Listed [] w
  | last (item text : List Char) (padded : Padded item text) : Listed [item] text
  | more (item text next : List Char) (items : List (List Char)) (rest : List Char) (padded : Padded item text)
      (listed : Listed (next :: items) rest) : Listed (item :: next :: items) (text ++ ',' :: rest)

def Member (key value text : List Char) : Prop :=
  ∃ w v, Blank w ∧ Blank v ∧ text = key ++ (w ++ ':' :: (v ++ value))

theorem member_between (key w v value : List Char) (before : Blank w) (behind : Blank v) :
    Member key value (key ++ (w ++ ':' :: (v ++ value))) := ⟨w, v, before, behind, rfl⟩

inductive Wellformed : List Char → Prop where
  | null : Wellformed ['n', 'u', 'l', 'l']
  | true : Wellformed ['t', 'r', 'u', 'e']
  | false : Wellformed ['f', 'a', 'l', 's', 'e']
  | number (text : List Char) (number : Number text) : Wellformed text
  | string (text : List Char) (quoted : Quoted text) : Wellformed text
  | array (values : List (List Char)) (inner : List Char) (wellformed : ∀ v ∈ values, Wellformed v)
      (listed : Listed values inner) : Wellformed ('[' :: inner ++ [']'])
  | object (members : List (List Char × List Char)) (texts : List (List Char)) (inner : List Char)
      (keys : ∀ m ∈ members, Quoted m.1) (wellformed : ∀ m ∈ members, Wellformed m.2)
      (written : List.Forall₂ (fun m text => Member m.1 m.2 text) members texts)
      (listed : Listed texts inner) : Wellformed ('{' :: inner ++ ['}'])

end GraphBrowser.Json
