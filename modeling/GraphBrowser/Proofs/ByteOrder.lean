import Mathlib.Data.String.Basic

set_option autoImplicit false

namespace GraphBrowser

def octets (text : String) : List UInt8 := text.toUTF8.data.toList

theorem octets_eq (text : String) : octets text = text.toList.flatMap String.utf8EncodeChar := by
  rw [octets, String.toUTF8, ← String.utf8Encode_toList, List.utf8Encode, List.toList_data_toByteArray]

theorem char_octets (c : Char) (n : Nat) (number : c.val.toNat = n) :
    n ≤ 127 ∧ String.utf8EncodeChar c = [.ofNat n] ∨
      127 < n ∧ n ≤ 2047 ∧ String.utf8EncodeChar c = [.ofNat (n / 64 % 32 + 192), .ofNat (n % 64 + 128)] ∨
      2047 < n ∧ n ≤ 65535 ∧ String.utf8EncodeChar c =
        [.ofNat (n / 64 / 64 % 16 + 224), .ofNat (n / 64 % 64 + 128), .ofNat (n % 64 + 128)] ∨
      65535 < n ∧ n < 1114112 ∧ String.utf8EncodeChar c =
        [.ofNat (n / 64 / 64 / 64 % 8 + 240), .ofNat (n / 64 / 64 % 64 + 128), .ofNat (n / 64 % 64 + 128),
          .ofNat (n % 64 + 128)] := by
  have valid := c.valid
  simp only [UInt32.isValidChar, Nat.isValidChar, number] at valid
  simp only [String.utf8EncodeChar, number, Nat.div_div_eq_div_mul]
  split
  next one => exact .inl ⟨one, rfl⟩
  next =>
    split
    next two => exact .inr (.inl ⟨by omega, two, rfl⟩)
    next =>
      split
      next three => exact .inr (.inr (.inl ⟨by omega, three, rfl⟩))
      next => exact .inr (.inr (.inr ⟨by omega, by omega, rfl⟩))

theorem byte_lt (m n : Nat) (first : m < 256) (second : n < 256) : UInt8.ofNat m < UInt8.ofNat n ↔ m < n := by
  rw [UInt8.lt_iff_toNat_lt, UInt8.toNat_ofNat_of_lt' first, UInt8.toNat_ofNat_of_lt' second]

theorem byte_inj (m n : Nat) (first : m < 256) (second : n < 256) : UInt8.ofNat m = UInt8.ofNat n ↔ m = n := by
  rw [← UInt8.toNat_inj, UInt8.toNat_ofNat_of_lt' first, UInt8.toNat_ofNat_of_lt' second]

-- More bytes begin with a greater one, and equally many are compared digit by digit.
theorem char_octets_lt (a b : Char) (less : a < b) (s t : List UInt8) :
    String.utf8EncodeChar a ++ s < String.utf8EncodeChar b ++ t := by
  have below : a.val.toNat < b.val.toNat := less
  generalize numberA : a.val.toNat = m at below
  generalize numberB : b.val.toNat = n at below
  rcases char_octets a m numberA with ⟨_, bytesA⟩ | ⟨_, _, bytesA⟩ | ⟨_, _, bytesA⟩ | ⟨_, _, bytesA⟩
  all_goals
    rcases char_octets b n numberB with ⟨_, bytesB⟩ | ⟨_, _, bytesB⟩ | ⟨_, _, bytesB⟩ | ⟨_, _, bytesB⟩
    all_goals
      rw [bytesA, bytesB]
      simp (disch := omega) only [List.cons_append, List.nil_append, List.cons_lt_cons_iff, byte_lt, byte_inj]
      omega

theorem chars_octets_lt (a b : List Char) (less : a < b) :
    a.flatMap String.utf8EncodeChar < b.flatMap String.utf8EncodeChar := by
  induction less with
  | nil =>
      rename_i c rest
      obtain ⟨byte, bytes, same⟩ := List.exists_cons_of_ne_nil (@String.utf8EncodeChar_ne_nil c)
      rw [List.flatMap_cons, same]
      exact .nil
  | rel first =>
      rw [List.flatMap_cons, List.flatMap_cons]
      exact char_octets_lt _ _ first _ _
  | cons _ ih =>
      rw [List.flatMap_cons, List.flatMap_cons]
      exact List.append_left_lt ih

theorem octets_lt (a b : String) : octets a < octets b ↔ a < b := by
  have mono (a b : String) (less : a < b) : octets a < octets b := by
    rw [octets_eq, octets_eq]
    exact chars_octets_lt _ _ (String.lt_iff_toList_lt.mp less)
  constructor
  · intro bytes
    rcases lt_trichotomy a b with less | same | greater
    · exact less
    · rw [same] at bytes
      exact absurd bytes (List.lt_irrefl _)
    · exact absurd (mono b a greater) (List.lt_asymm bytes)
  · exact mono a b

theorem sorted_texts {β : Type} (text : β → String) (entries : List β) :
    (entries.mergeSort fun a b => decide (text a ≤ text b)).Pairwise fun a b => text a ≤ text b := by
  have trans (a b c : β) (first : decide (text a ≤ text b) = true) (second : decide (text b ≤ text c) = true) :
      decide (text a ≤ text c) = true :=
    decide_eq_true ((of_decide_eq_true first).trans (of_decide_eq_true second))
  have total (a b : β) : (decide (text a ≤ text b) || decide (text b ≤ text a)) = true := by
    rw [Bool.or_eq_true, decide_eq_true_eq, decide_eq_true_eq]
    exact le_total (text a) (text b)
  exact (List.pairwise_mergeSort trans total entries).imp of_decide_eq_true

end GraphBrowser
