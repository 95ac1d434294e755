import GraphBrowser.Json.Quote
import GraphBrowser.Proofs.ByteOrder
import GraphBrowser.Text.Percent

set_option autoImplicit false

namespace GraphBrowser.Text

def marks : List Char := ['-', '_', '.', '!', '~', '*', '\'', '(', ')']

def Unescaped (c : Char) : Prop :=
  'a' ≤ c ∧ c ≤ 'z' ∨ 'A' ≤ c ∧ c ≤ 'Z' ∨ '0' ≤ c ∧ c ≤ '9' ∨ c ∈ marks
deriving Decidable

def IsHex (c : Char) : Prop := '0' ≤ c ∧ c ≤ '9' ∨ 'A' ≤ c ∧ c ≤ 'F' ∨ 'a' ≤ c ∧ c ≤ 'f'
deriving Decidable

inductive Escaped : List Char → Prop where
  | nil : Escaped []
  | plain (c : Char) (rest : List Char) (plain : Unescaped c) (escaped : Escaped rest) : Escaped (c :: rest)
  | byte (high low : Char) (rest : List Char) (first : IsHex high) (second : IsHex low) (escaped : Escaped rest) :
      Escaped ('%' :: high :: low :: rest)

-- The bytes that a text stands for, unless it has a character that is not ASCII or a percent sign without two digits.
def percentBytes? : List Char → Option (List UInt8)
  | [] => some []
  | '%' :: high :: low :: rest =>
      match Json.hexValue? high, Json.hexValue? low with
      | some h, some l => (percentBytes? rest).map (UInt8.ofNat (16 * h + l) :: ·)
      | _, _ => none
  | c :: rest => if c = '%' ∨ 0x7F < c.toNat then none else (percentBytes? rest).map (UInt8.ofNat c.toNat :: ·)

def percentDecode? (text : String) : Option String :=
  (percentBytes? text.toList).bind fun bytes => String.fromUTF8? bytes.toByteArray

example : percentDecode? "%C3%A9-%c3%a9" = some "é-é" := by decide +kernel

theorem hex_digit_read (n : Nat) (below : n < 16) : IsHex (hexDigit n) ∧ Json.hexValue? (hexDigit n) = some n := by
  have table : ∀ n < 16, IsHex (hexDigit n) ∧ Json.hexValue? (hexDigit n) = some n := by decide
  exact table n below

theorem nibbles_below (b : UInt8) : b.toNat / 16 < 16 ∧ b.toNat % 16 < 16 := by
  have below := b.toNat_lt
  omega

theorem byte_escaped (b : UInt8) (rest : List Char) (escaped : Escaped rest) : Escaped (percentByte b ++ rest) := by
  obtain ⟨high, low⟩ := nibbles_below b
  exact .byte _ _ rest (hex_digit_read _ high).1 (hex_digit_read _ low).1 escaped

theorem byte_read (b : UInt8) (rest : List Char) :
    percentBytes? (percentByte b ++ rest) = (percentBytes? rest).map (b :: ·) := by
  obtain ⟨high, low⟩ := nibbles_below b
  have joined : UInt8.ofNat (16 * (b.toNat / 16) + b.toNat % 16) = b := by rw [Nat.div_add_mod, UInt8.ofNat_toNat]
  simp only [percentByte, List.cons_append, List.nil_append, percentBytes?, (hex_digit_read _ high).2,
    (hex_digit_read _ low).2, joined]

theorem unreserved_unescaped (c : Char) (unreserved : isUnreserved c = true) : Unescaped c := by
  rcases (Bool.or_eq_true _ _).mp unreserved with known | mark
  · rcases (Bool.or_eq_true _ _).mp known with letter | digit
    · rcases (Bool.or_eq_true _ _).mp letter with upper | lower
      · exact .inr (.inl (of_decide_eq_true upper))
      · obtain ⟨above, below⟩ := (Bool.and_eq_true _ _).mp lower
        exact .inl ⟨of_decide_eq_true above, of_decide_eq_true below⟩
    · obtain ⟨above, below⟩ := (Bool.and_eq_true _ _).mp digit
      exact .inr (.inr (.inl ⟨of_decide_eq_true above, of_decide_eq_true below⟩))
  · exact .inr (.inr (.inr (List.contains_iff_mem.mp mark)))

theorem unescaped_ascii (c : Char) (plain : Unescaped c) : c ≠ '%' ∧ c.toNat ≤ 0x7F := by
  have bound (high : Char) (below : c ≤ high) : c.toNat ≤ high.toNat := below
  refine ⟨?_, ?_⟩
  · rintro rfl
    exact absurd plain (by decide)
  · rcases plain with ⟨_, below⟩ | ⟨_, below⟩ | ⟨_, below⟩ | mark
    · exact Nat.le_trans (bound 'z' below) (by decide)
    · exact Nat.le_trans (bound 'Z' below) (by decide)
    · exact Nat.le_trans (bound '9' below) (by decide)
    · have table : marks.all (·.toNat ≤ 0x7F) = true := rfl
      exact of_decide_eq_true (List.all_eq_true.mp table c mark)

theorem char_escaped (c : Char) (rest : List Char) (escaped : Escaped rest) : Escaped (percentChar c ++ rest) := by
  rw [percentChar]
  split
  next unreserved => exact .plain c rest (unreserved_unescaped c unreserved) escaped
  next =>
    induction String.utf8EncodeChar c with
    | nil => exact escaped
    | cons b bytes ih =>
        rw [List.flatMap_cons, List.append_assoc]
        exact byte_escaped b _ ih

theorem char_read (c : Char) (rest : List Char) :
    percentBytes? (percentChar c ++ rest) = (percentBytes? rest).map (String.utf8EncodeChar c ++ ·) := by
  rw [percentChar]
  split
  next unreserved =>
    obtain ⟨plain, ascii⟩ := unescaped_ascii c (unreserved_unescaped c unreserved)
    have bytes : String.utf8EncodeChar c = [.ofNat c.toNat] := by
      rcases char_octets c c.toNat rfl with ⟨_, one⟩ | ⟨more, _⟩ | ⟨more, _⟩ | ⟨more, _⟩
      · exact one
      all_goals omega
    have single : ¬ (c = '%' ∨ 0x7F < c.toNat) := by
      rintro (sign | beyond)
      · exact plain sign
      · omega
    rw [bytes, List.cons_append, List.nil_append, percentBytes?.eq_3 c rest (fun _ _ _ sign _ => plain sign), if_neg single]
    rfl
  next =>
    induction String.utf8EncodeChar c with
    | nil => simp
    | cons b bytes ih =>
        rw [List.flatMap_cons, List.append_assoc, byte_read, ih, Option.map_map]
        rfl

theorem chars_escaped (chars : List Char) : Escaped (chars.flatMap percentChar) := by
  induction chars with
  | nil => exact .nil
  | cons c chars ih => exact char_escaped c _ ih

theorem chars_read (chars : List Char) :
    percentBytes? (chars.flatMap percentChar) = some (chars.flatMap String.utf8EncodeChar) := by
  induction chars with
  | nil => rfl
  | cons c chars ih => rw [List.flatMap_cons, char_read, ih, List.flatMap_cons, Option.map_some]

theorem percent_encode_escaped (s : String) : Escaped (percentEncode s).toList := by
  rw [percentEncode, String.toList_ofList]
  exact chars_escaped s.toList

theorem percent_decode_encode (s : String) : percentDecode? (percentEncode s) = some s := by
  have bytes : (s.toList.flatMap String.utf8EncodeChar).toByteArray = s.toByteArray := String.utf8Encode_toList
  rw [percentDecode?, percentEncode, String.toList_ofList, chars_read, Option.bind_some, bytes, String.fromUTF8?,
    dif_pos s.isValidUTF8]
  rfl

theorem percent_encode_inj (s t : String) : percentEncode s = percentEncode t ↔ s = t := by
  constructor
  · intro same
    have read := percent_decode_encode s
    rw [same, percent_decode_encode] at read
    exact (Option.some.inj read).symm
  · intro same
    rw [same]

end GraphBrowser.Text
