import Mathlib.Algebra.Ring.GeomSum
import Mathlib.Data.Set.Card
import Mathlib.Data.ZMod.Basic
import Mathlib.GroupTheory.OrderOfElement
import Mathlib.Tactic.ReduceModChar
import GraphBrowser.Scatter

set_option autoImplicit false

namespace GraphBrowser.Scatter

open Finset (range)

theorem advance_below (state : UInt64) : (advance state).toNat < 233280 := by
  rw [advance, UInt64.toNat_mod]
  exact Nat.mod_lt _ (by decide)

-- Only a seed is large enough to wrap.
theorem advance_linear (state : UInt64) (below : state.toNat < 233280) :
    (advance state).toNat = (9301 * state.toNat + 58598) % 233280 := by
  have next : state.toNat + 1 < 2 ^ 64 := by omega
  have times : (state.toNat + 1) * 9301 < 2 ^ 64 := by omega
  have whole : (state.toNat + 1) * 9301 + 49297 = 9301 * state.toNat + 58598 := by ring
  have plus : (state.toNat + 1) * 9301 + 49297 < 2 ^ 64 := by
    rw [whole]
    omega
  simp only [advance, modulus, UInt64.toNat_mod, UInt64.toNat_add, UInt64.toNat_mul, UInt64.reduceToNat]
  rw [Nat.mod_eq_of_lt next, Nat.mod_eq_of_lt times, Nat.mod_eq_of_lt plus, whole]

theorem iterate_below (state : UInt64) (below : state.toNat < 233280) (n : Nat) :
    (advance^[n] state).toNat < 233280 := by
  cases n with
  | zero => exact below
  | succ n =>
      rw [Function.iterate_succ_apply']
      exact advance_below _

theorem iterate_linear (state : UInt64) (below : state.toNat < 233280) (n : Nat) :
    (advance^[n] state).toNat ≡
      state.toNat + (9300 * state.toNat + 58598) * ∑ i ∈ range n, 9301 ^ i [MOD 233280] := by
  induction n with
  | zero => exact Nat.ModEq.refl _
  | succ n ih =>
      rw [Function.iterate_succ_apply', advance_linear _ (iterate_below state below n)]
      calc (9301 * (advance^[n] state).toNat + 58598) % 233280
          ≡ 9301 * (advance^[n] state).toNat + 58598 [MOD 233280] := Nat.mod_modEq _ _
        _ ≡ 9301 * (state.toNat + (9300 * state.toNat + 58598) * ∑ i ∈ range n, 9301 ^ i) + 58598 [MOD 233280] :=
            (ih.mul_left 9301).add_right 58598
        _ = state.toNat + (9300 * state.toNat + 58598) * ∑ i ∈ range (n + 1), 9301 ^ i := by
            rw [geom_sum_succ]
            ring

-- The primes of the modulus are 2, 3 and 5, and none of them divides half of a stride.
theorem half_stride_coprime (x : Nat) : Nat.Coprime 116640 (4650 * x + 29299) := by
  have small : Nat.Coprime 30 (4650 * x + 29299) := by
    have split : 4650 * x + 29299 = 30 * (155 * x) + 29299 := by ring
    rw [split, Nat.coprime_mul_left_add_right]
    decide
  exact (small.pow_left 6).coprime_dvd_left (by norm_num)

theorem prime_of_modulus (p : Nat) (prime : p.Prime) (divides : p ∣ 116640) : p = 2 ∨ p = 3 ∨ p = 5 := by
  have factored : p ∣ 2 ^ 5 * 3 ^ 6 * 5 := divides
  rcases prime.dvd_mul.mp factored with powers | five
  · rcases prime.dvd_mul.mp powers with two | three
    · exact .inl ((Nat.prime_dvd_prime_iff_eq prime Nat.prime_two).mp (prime.dvd_of_dvd_pow two))
    · exact .inr (.inl ((Nat.prime_dvd_prime_iff_eq prime Nat.prime_three).mp (prime.dvd_of_dvd_pow three)))
  · exact .inr (.inr ((Nat.prime_dvd_prime_iff_eq prime Nat.prime_five).mp five))

theorem multiplier_order : orderOf (9301 : ZMod 1084752000) = 116640 := by
  refine orderOf_eq_of_pow_and_pow_div_prime (by decide) (by reduce_mod_char) ?_
  intro p prime divides
  rcases prime_of_modulus p prime divides with rfl | rfl | rfl
  · show (9301 : ZMod 1084752000) ^ 58320 ≠ 1
    reduce_mod_char
    decide
  · show (9301 : ZMod 1084752000) ^ 38880 ≠ 1
    reduce_mod_char
    decide
  · show (9301 : ZMod 1084752000) ^ 23328 ≠ 1
    reduce_mod_char
    decide

-- Times one less than the multiplier the sum is a power of the multiplier, up to one.
theorem sum_divisible_iff (n : Nat) : 116640 ∣ ∑ i ∈ range n, 9301 ^ i ↔ 116640 ∣ n := by
  have power : (∑ i ∈ range n, 9301 ^ i) * 9300 + 1 = 9301 ^ n := geom_sum_mul_add 9300 n
  calc 116640 ∣ ∑ i ∈ range n, 9301 ^ i
      ↔ 1084752000 ∣ (∑ i ∈ range n, 9301 ^ i) * 9300 := (Nat.mul_dvd_mul_iff_right (by norm_num : 0 < 9300)).symm
    _ ↔ (((∑ i ∈ range n, 9301 ^ i) * 9300 : Nat) : ZMod 1084752000) = 0 := (ZMod.natCast_eq_zero_iff _ _).symm
    _ ↔ (((∑ i ∈ range n, 9301 ^ i) * 9300 + 1 : Nat) : ZMod 1084752000) = 1 := by
        rw [Nat.cast_add, Nat.cast_one, add_eq_right]
    _ ↔ (9301 : ZMod 1084752000) ^ n = 1 := by rw [power, Nat.cast_pow, Nat.cast_ofNat]
    _ ↔ 116640 ∣ n := by rw [← orderOf_dvd_iff_pow_eq_one, multiplier_order]

theorem returns_iff (state : UInt64) (below : state.toNat < 233280) (n : Nat) :
    advance^[n] state = state ↔ 116640 ∣ n := by
  have moved := iterate_linear state below n
  have doubled : (9300 * state.toNat + 58598) * ∑ i ∈ range n, 9301 ^ i =
      2 * ((4650 * state.toNat + 29299) * ∑ i ∈ range n, 9301 ^ i) := by ring
  calc advance^[n] state = state
      ↔ (advance^[n] state).toNat = state.toNat := UInt64.toNat_inj.symm
    _ ↔ (advance^[n] state).toNat ≡ state.toNat [MOD 233280] :=
        ⟨fun same => same ▸ Nat.ModEq.refl _,
          fun same => same.eq_of_lt_of_lt (iterate_below state below n) below⟩
    _ ↔ state.toNat + (9300 * state.toNat + 58598) * ∑ i ∈ range n, 9301 ^ i ≡ state.toNat [MOD 233280] :=
        ⟨fun same => moved.symm.trans same, fun same => moved.trans same⟩
    _ ↔ 2 * 116640 ∣ 2 * ((4650 * state.toNat + 29299) * ∑ i ∈ range n, 9301 ^ i) := by
        rw [Nat.add_modEq_left_iff, doubled]
    _ ↔ 116640 ∣ ∑ i ∈ range n, 9301 ^ i := by
        rw [Nat.mul_dvd_mul_iff_left (by norm_num), (half_stride_coprime _).dvd_mul_left]
    _ ↔ 116640 ∣ n := sum_divisible_iff n

theorem draws_equal_iff (seed : UInt64) (i j : Nat) :
    advance^[i + 1] seed = advance^[j + 1] seed ↔ i ≡ j [MOD 116640] := by
  wlog ordered : j ≤ i generalizing i j
  · rw [eq_comm, this j i (Nat.le_of_not_le ordered)]
    exact ⟨Nat.ModEq.symm, Nat.ModEq.symm⟩
  obtain ⟨n, rfl⟩ := Nat.exists_eq_add_of_le ordered
  have below : (advance^[j + 1] seed).toNat < 233280 := by
    rw [Function.iterate_succ_apply']
    exact advance_below _
  rw [show j + n + 1 = n + (j + 1) by omega, Function.iterate_add_apply, returns_iff _ below, Nat.add_modEq_left_iff]

variable {α : Type} [Coordinate α]

def drawn (s : Scatter α) (anchors : Nat → Point α) : Nat → Scatter α
  | 0 => s
  | n + 1 => ((s.drawn anchors n).drop (anchors n)).2

theorem drawn_state (s : Scatter α) (anchors : Nat → Point α) (n : Nat) :
    (s.drawn anchors n).state = advance^[n] s.state := by
  induction n with
  | zero => rfl
  | succ n ih =>
      rw [Function.iterate_succ_apply', ← ih]
      rfl

theorem residues_drawn (seed : UInt64) :
    {x | ∃ i, 1 ≤ i ∧ (advance^[i] seed).toNat = x} =
      ((range 116640).image fun i => (advance^[i + 1] seed).toNat : Finset Nat) := by
  ext x
  simp only [Set.mem_ofPred_eq, Finset.coe_image, Finset.coe_range, Set.mem_image, Set.mem_Iio]
  constructor
  · rintro ⟨i, positive, rfl⟩
    obtain ⟨i, rfl⟩ := Nat.exists_eq_add_of_le' positive
    refine ⟨i % 116640, Nat.mod_lt i (by decide), ?_⟩
    rw [(draws_equal_iff seed (i % 116640) i).mpr (Nat.mod_modEq i 116640)]
  · rintro ⟨i, _, rfl⟩
    exact ⟨i + 1, Nat.le_add_left 1 i, rfl⟩

theorem cycle_size (seed : UInt64) : {x | ∃ i, 1 ≤ i ∧ (advance^[i] seed).toNat = x}.ncard = 116640 := by
  have distinct : Set.InjOn (fun i => (advance^[i + 1] seed).toNat) (range 116640 : Set Nat) := by
    intro i first j second same
    rw [Finset.coe_range, Set.mem_Iio] at first second
    exact ((draws_equal_iff seed i j).mp (UInt64.toNat_inj.mp same)).eq_of_lt_of_lt first second
  rw [residues_drawn, Set.ncard_coe_finset, Finset.card_image_of_injOn distinct, Finset.card_range]

-- The increment shares a factor with the modulus, so half of the states are never drawn, whatever the seed is.
theorem draws_cycle (s : Scatter α) (anchors : Nat → Point α) :
    let state (i : Nat) : Nat := (s.drawn anchors i).state.toNat
    (∀ i, 1 ≤ i → state i < 233280) ∧
      (∀ i j, 1 ≤ i → 1 ≤ j → (state i = state j ↔ i ≡ j [MOD 116640])) ∧
      (∀ i, 1 ≤ i → state (i + 1) ≠ state i) ∧
      (∀ i j, 1 ≤ i → i < j → j < i + 116640 → state i ≠ state j) ∧
      2 * {x | ∃ i, 1 ≤ i ∧ state i = x}.ncard = 233280 := by
  intro state
  have states (i : Nat) : state i = (advance^[i] s.state).toNat := by rw [← drawn_state s anchors i]
  have equal (i j : Nat) (first : 1 ≤ i) (second : 1 ≤ j) : state i = state j ↔ i ≡ j [MOD 116640] := by
    obtain ⟨i, rfl⟩ := Nat.exists_eq_add_of_le' first
    obtain ⟨j, rfl⟩ := Nat.exists_eq_add_of_le' second
    rw [states, states, UInt64.toNat_inj, draws_equal_iff]
    exact ⟨fun same => same.add_right 1, fun same => same.add_right_cancel' 1⟩
  have apart (i j : Nat) (first : 1 ≤ i) (later : i < j) (near : j < i + 116640) : state i ≠ state j := by
    intro same
    have congruent := (equal i j first (Nat.le_trans first (Nat.le_of_lt later))).mp same
    rw [Nat.modEq_iff_dvd' (Nat.le_of_lt later)] at congruent
    exact absurd (Nat.le_of_dvd (by omega) congruent) (by omega)
  refine ⟨?_, equal, ?_, apart, ?_⟩
  · intro i positive
    obtain ⟨i, rfl⟩ := Nat.exists_eq_add_of_le' positive
    rw [states, Function.iterate_succ_apply']
    exact advance_below _
  · intro i positive
    exact (apart i (i + 1) positive (Nat.lt_succ_self i) (by omega)).symm
  · simp only [states, cycle_size]

-- The greatest seed, with which the first step begins by wrapping round.
theorem draws_cycle_from_last_seed :
    let state (i : Nat) : Nat := (drawn (⟨18446744073709551615, 180.0⟩ : Scatter Float) (fun _ => Point.origin) i).state.toNat
    state 1 < 233280 ∧ state 1 = state 116641 ∧ state 2 ≠ state 1 ∧ state 1 ≠ state 116640 := by
  intro state
  obtain ⟨below, equal, consecutive, apart, _⟩ :=
    draws_cycle (⟨18446744073709551615, 180.0⟩ : Scatter Float) (fun _ => Point.origin)
  have congruent : 1 ≡ 116641 [MOD 116640] := by decide
  exact ⟨below 1 (by decide), (equal 1 116641 (by decide) (by decide)).mpr congruent, consecutive 1 (by decide),
    apart 1 116640 (by decide) (by decide) (by decide)⟩

end GraphBrowser.Scatter
