import Mathlib.Data.Int.Log
import Mathlib.Data.Rat.Floor
import Mathlib.Tactic.Linarith
import Mathlib.Tactic.Positivity
import Sluice.Number.Literal

/-!
# Numerals in single precision

Which numerals are at most zero once they are rounded to single precision. `Single.nearest` rounds as
the format has it: 24 binary digits, none beyond the 149th place behind the point, ties to the even
neighbour. `Literal.atMostZeroInSingle_iff` says that it is decided rightly without rounding anything:
half the least positive number is the greatest that becomes zero.
-/

namespace Sluice.Number

/-! ## Rounding -/

/-- The whole number nearest to a number, the even one of two that are equally near. -/
def roundEven (v : ℚ) : ℤ :=
  if Int.fract v < 1 / 2 then ⌊v⌋
  else if 1 / 2 < Int.fract v then ⌊v⌋ + 1
  else if Even ⌊v⌋ then ⌊v⌋ else ⌊v⌋ + 1

/-- A number of single precision; zero has one sign here, since nothing is asked of it. -/
inductive Single where
  | nan
  | infinite (negative : Bool)
  | finite (value : ℚ)

namespace Single

/-- How far the numbers of single precision are apart around a number. -/
def spacing (v : ℚ) : ℚ :=
  2 ^ max (Int.log 2 |v| - 23) (-149)

/-- The nearest multiple of that distance. -/
def rounded (v : ℚ) : ℚ :=
  roundEven (v / spacing v) * spacing v

/-- The nearest number of single precision; what is rounded past the greatest one is infinite. -/
def nearest (v : ℚ) : Single :=
  if 2 ^ 128 ≤ |rounded v| then .infinite (decide (rounded v < 0)) else .finite (rounded v)

/-- Whether a number is zero or less. -/
def AtMostZero : Single → Prop
  | .nan => False
  | .infinite negative => negative = true
  | .finite value => value ≤ 0

end Single

/-- The number of single precision that a numeral stands for. -/
def Literal.toSingle : Literal → Single
  | .nan => .nan
  | .infinite negative => .infinite negative
  | .decimal negative significand exponent =>
    .nearest ((if negative then -1 else 1) * significand * 10 ^ exponent)

/-- What is at most a half is rounded to zero or less. -/
theorem roundEven_le_zero_iff (v : ℚ) : roundEven v ≤ 0 ↔ v ≤ 1 / 2 := by
  have parts : (⌊v⌋ : ℚ) + Int.fract v = v := Int.floor_add_fract v
  have fraction : 0 ≤ Int.fract v := Int.fract_nonneg v
  have below : Int.fract v < 1 := Int.fract_lt_one v
  rcases lt_trichotomy ⌊v⌋ 0 with negative | zero | positive
  · have floor : (⌊v⌋ : ℚ) ≤ -1 := by exact_mod_cast Int.le_sub_one_of_lt negative
    refine iff_of_true ?_ (by linarith)
    unfold roundEven
    split_ifs <;> omega
  · rw [zero, Int.cast_zero, zero_add] at parts
    unfold roundEven
    rw [zero, parts]
    split_ifs with less greater even
    · exact iff_of_true le_rfl less.le
    · exact iff_of_false (by decide) (not_le.mpr greater)
    · exact iff_of_true le_rfl (not_lt.mp greater)
    · exact absurd Even.zero even
  · have floor : (1 : ℚ) ≤ ⌊v⌋ := by exact_mod_cast positive
    refine iff_of_false ?_ (by linarith)
    unfold roundEven
    split_ifs <;> omega

namespace Single

theorem spacing_pos (v : ℚ) : 0 < spacing v :=
  zpow_pos two_pos _

/-- A number is rounded to zero or less exactly if it is at most half the distance. -/
theorem rounded_le_zero_iff_le_half (v : ℚ) : rounded v ≤ 0 ↔ v ≤ spacing v / 2 := by
  have positive := spacing_pos v
  calc rounded v ≤ 0
      ↔ (roundEven (v / spacing v) : ℚ) ≤ 0 := by
        rw [rounded, ← not_lt, mul_pos_iff_of_pos_right positive, not_lt]
    _ ↔ roundEven (v / spacing v) ≤ 0 := Int.cast_nonpos
    _ ↔ v / spacing v ≤ 1 / 2 := roundEven_le_zero_iff _
    _ ↔ v ≤ spacing v / 2 := by rw [div_le_iff₀ positive, one_div_mul_eq_div]

/-- Half the least positive number is the greatest that is rounded to zero or less. -/
theorem rounded_le_zero_iff (v : ℚ) : rounded v ≤ 0 ↔ v ≤ 2 ^ (-150 : ℤ) := by
  have half (power : ℤ) : (2 : ℚ) ^ power / 2 = 2 ^ (power - 1) := by
    rw [zpow_sub_one₀ two_ne_zero, div_eq_mul_inv]
  rw [rounded_le_zero_iff_le_half, spacing, half]
  rcases le_or_gt (Int.log 2 |v| - 23) (-149) with least | coarse
  · rw [max_eq_right least]
    rfl
  · rw [max_eq_left coarse.le]
    constructor
    · intro within
      by_contra exceeds
      have positive : 0 < v := lt_trans (by positivity) (not_le.mp exceeds)
      -- The distance is far smaller than the number unless it is the least one.
      have leading := Int.zpow_log_le_self (b := 2) one_lt_two positive
      rw [abs_of_pos positive] at within
      have smaller : (2 : ℚ) ^ (Int.log 2 v - 23 - 1) < 2 ^ Int.log 2 v :=
        zpow_lt_zpow_right₀ one_lt_two (by omega)
      exact absurd (leading.trans within) (not_le.mpr smaller)
    · intro within
      exact within.trans (zpow_le_zpow_right₀ one_le_two (by omega))

/-- The nearest number is at most zero exactly if it was rounded there. -/
theorem atMostZero_nearest_iff (v : ℚ) : (nearest v).AtMostZero ↔ v ≤ 2 ^ (-150 : ℤ) := by
  rw [← rounded_le_zero_iff, nearest]
  split
  · next huge =>
    have nonzero : rounded v ≠ 0 := by
      intro zero
      rw [zero, abs_zero] at huge
      exact absurd huge (by norm_num)
    simp only [AtMostZero, decide_eq_true_eq, lt_iff_le_and_ne, ne_eq, nonzero, not_false_eq_true,
      and_true]
  · rfl

end Single

/-! ## Deciding it -/

namespace Literal

/-- What is far below the bound by its size alone is below it: a power of ten exceeds the power of two
with 3.321 times the exponent. -/
theorem significand_le_of_size {significand places : Nat}
    (small : 1000 * (Nat.log2 significand + 1) + 151000 < 3321 * places) :
    significand * 2 ^ 150 ≤ 10 ^ places := by
  have size : significand * 2 ^ 150 < 2 ^ (Nat.log2 significand + 151) := by
    have digits : significand < 2 ^ (Nat.log2 significand + 1) := Nat.lt_log2_self
    calc significand * 2 ^ 150
        < 2 ^ (Nat.log2 significand + 1) * 2 ^ 150 := by omega
      _ = 2 ^ (Nat.log2 significand + 151) := by rw [← Nat.pow_add]
  refine (size.trans_le ?_).le
  refine (Nat.pow_le_pow_iff_left (n := 28) (by decide)).mp ?_
  have bases : 2 ^ 93 ≤ 10 ^ 28 := by decide
  calc (2 ^ (Nat.log2 significand + 151)) ^ 28
      = 2 ^ ((Nat.log2 significand + 151) * 28) := (Nat.pow_mul ..).symm
    _ ≤ 2 ^ (93 * places) := Nat.pow_le_pow_right (by decide) (by omega)
    _ = (2 ^ 93) ^ places := Nat.pow_mul ..
    _ ≤ (10 ^ 28) ^ places := Nat.pow_le_pow_left bases places
    _ = (10 ^ places) ^ 28 := Nat.pow_right_comm ..

/-- A significand with a negative power of ten is compared with the bound in whole numbers. -/
theorem scaled_le_iff (significand places : Nat) :
    (significand : ℚ) * 10 ^ (-places : ℤ) ≤ 2 ^ (-150 : ℤ) ↔
      significand * 2 ^ 150 ≤ 10 ^ places := by
  have ten : (0 : ℚ) < 10 ^ places := by positivity
  have two : (0 : ℚ) < 2 ^ 150 := by positivity
  have bound : (2 : ℚ) ^ (-150 : ℤ) = 1 / 2 ^ 150 := by
    rw [zpow_neg, one_div]
    rfl
  rw [bound, zpow_neg, zpow_natCast, ← div_eq_mul_inv, div_le_div_iff₀ ten two, one_mul]
  exact_mod_cast Iff.rfl

/-- A significand that is not zero is one at least, and so is its product with a power of ten. -/
theorem bound_lt_scaled {significand : Nat} (nonzero : significand ≠ 0) {exponent : Int}
    (whole : 0 ≤ exponent) : (2 : ℚ) ^ (-150 : ℤ) < significand * 10 ^ exponent := by
  have one : (1 : ℚ) ≤ significand := by exact_mod_cast Nat.one_le_iff_ne_zero.mpr nonzero
  have power : (1 : ℚ) ≤ 10 ^ exponent := one_le_zpow₀ (by norm_num) whole
  calc (2 : ℚ) ^ (-150 : ℤ)
      < 1 := zpow_lt_one_of_neg₀ one_lt_two (by decide)
    _ ≤ significand * 10 ^ exponent := one_le_mul_of_one_le_of_one_le one power

/-- What is decided of a numeral is whether its nearest number of single precision is at most zero. -/
theorem atMostZeroInSingle_iff (literal : Literal) :
    literal.atMostZeroInSingle = true ↔ literal.toSingle.AtMostZero := by
  cases literal with
  | nan => simp [atMostZeroInSingle, toSingle, Single.AtMostZero]
  | infinite negative => rfl
  | decimal negative significand exponent =>
    rw [toSingle, Single.atMostZero_nearest_iff, atMostZeroInSingle]
    have small : (0 : ℚ) < 2 ^ (-150 : ℤ) := zpow_pos two_pos _
    have magnitude : (0 : ℚ) ≤ significand * 10 ^ exponent :=
      mul_nonneg significand.cast_nonneg (zpow_nonneg (by norm_num) _)
    cases negative with
    | true => exact iff_of_true rfl (by rw [if_pos rfl]; linarith)
    | false =>
      rw [if_neg Bool.false_ne_true, one_mul, Bool.false_or, Bool.or_eq_true, beq_iff_eq]
      by_cases zero : significand = 0
      · subst zero
        exact iff_of_true (.inl rfl) (by rw [Nat.cast_zero, zero_mul]; exact small.le)
      · rw [or_iff_right zero]
        by_cases whole : 0 ≤ exponent
        · rw [if_pos whole]
          exact iff_of_false Bool.false_ne_true (not_le.mpr (bound_lt_scaled zero whole))
        · obtain ⟨places, rfl⟩ : ∃ places : Nat, exponent = -places :=
            ⟨exponent.natAbs, by omega⟩
          rw [if_neg whole, scaled_le_iff, Int.neg_neg, Int.toNat_natCast]
          split
          · next tiny => exact iff_of_true rfl (significand_le_of_size (by omega))
          · rw [decide_eq_true_eq]
            rfl

end Literal

end Sluice.Number
