import ClauseFilter.Binary64.Basic
import Mathlib.Algebra.Order.Field.Power
import Mathlib.Algebra.Order.Field.Rat
import Mathlib.Tactic.Linarith
import Mathlib.Tactic.NormNum
import Mathlib.Tactic.Positivity
import Mathlib.Tactic.Ring

/-!
# Values of floats and rounding

The exact values of floats are rational numbers. A fraction that is not below a power of two is not
rounded to less than it (`two_zpow_le_size_of_nearest?`).
-/

namespace ClauseFilter.Binary64

/-! ## Powers of two -/

theorem two_pow_toNat (k : ℤ) : (2 : ℚ) ^ k.toNat = 2 ^ k * 2 ^ (-k).toNat := by
  rw [← zpow_natCast, ← zpow_natCast, ← zpow_add₀ two_ne_zero]
  congr 1
  omega

/-- Fractions are compared with powers of two by shifting. -/
theorem shiftLeft_le_shiftLeft_iff {num den : ℕ} {k : ℤ} :
    den <<< k.toNat ≤ num <<< (-k).toNat ↔ 2 ^ k * (den : ℚ) ≤ num := by
  have hpower : (0 : ℚ) < 2 ^ (-k).toNat := by positivity
  have hscaled : (den : ℚ) * 2 ^ k.toNat = 2 ^ k * den * 2 ^ (-k).toNat := by
    rw [two_pow_toNat]
    ring
  rw [Nat.shiftLeft_eq, Nat.shiftLeft_eq, ← @Nat.cast_le ℚ]
  push_cast
  rw [hscaled]
  exact mul_le_mul_iff_left₀ hpower

/-! ## Exact values -/

/-- The value of a float without its sign. -/
def size (x : Binary64) : ℚ :=
  x.significand * 2 ^ x.exponent

/-- The exact value of a float. -/
def toRat (x : Binary64) : ℚ :=
  if x.negative then -x.size else x.size

variable {x : Binary64}

theorem size_nonneg (x : Binary64) : 0 ≤ x.size := by
  unfold size
  positivity

theorem toRat_eq_size (h : 0 < x.toRat) : x.toRat = x.size := by
  have hsize := x.size_nonneg
  unfold toRat at h ⊢
  split at h
  · linarith
  · next hpositive => rw [if_neg hpositive]

theorem size_eq_zero_iff : x.size = 0 ↔ x.significand = 0 := by
  have hpower : (2 : ℚ) ^ x.exponent ≠ 0 := by positivity
  simp [size, hpower]

theorem toRat_eq_zero_iff : x.toRat = 0 ↔ x.significand = 0 := by
  rw [← size_eq_zero_iff, toRat]
  split
  · exact neg_eq_zero
  · exact Iff.rfl

theorem numerator_eq (x : Binary64) : (x.numerator : ℚ) = x.size * x.denominator := by
  simp only [numerator, denominator, size, Nat.shiftLeft_eq, one_mul]
  push_cast
  rw [two_pow_toNat]
  ring

/-- The size of a float tells its exponent, unless it is below all floats of full precision. -/
theorem exponent_eq {k : ℤ} (hk : -1022 ≤ k) (hlow : 2 ^ k ≤ x.size)
    (hhigh : x.size < 2 ^ (k + 1)) : x.exponent = k - 52 := by
  obtain ⟨hsignificand, hleast, -, hfull⟩ := x.canonical
  have hpower : (0 : ℚ) < 2 ^ x.exponent := by positivity
  have hupper : x.size < 2 ^ (53 + x.exponent) := by
    have hlt : (x.significand : ℚ) < 2 ^ 53 := by exact_mod_cast hsignificand
    rw [zpow_add₀ two_ne_zero]
    exact mul_lt_mul_of_pos_right (by exact_mod_cast hlt) hpower
  have hbelow : k < 53 + x.exponent :=
    (zpow_lt_zpow_iff_right₀ one_lt_two).1 (hlow.trans_lt hupper)
  rcases hfull with hfull | hfull
  · have hlower : 2 ^ (52 + x.exponent) ≤ x.size := by
      have hle : (2 ^ 52 : ℚ) ≤ x.significand := by exact_mod_cast hfull
      rw [zpow_add₀ two_ne_zero]
      exact mul_le_mul_of_nonneg_right (by exact_mod_cast hle) hpower.le
    have habove : 52 + x.exponent < k + 1 :=
      (zpow_lt_zpow_iff_right₀ one_lt_two).1 (hlower.trans_lt hhigh)
    omega
  · omega

/-! ## Rounding -/

variable {num den : ℕ}

theorem floorLog2_le (hnum : num ≠ 0) : 2 ^ floorLog2 num den * (den : ℚ) ≤ num := by
  dsimp only [floorLog2]
  split
  · next h => exact shiftLeft_le_shiftLeft_iff.1 h
  · have hlow : (2 : ℚ) ^ num.log2 ≤ num := by exact_mod_cast Nat.log2_self_le hnum
    have hhigh : (den : ℚ) ≤ 2 ^ (den.log2 + 1) := by exact_mod_cast Nat.lt_log2_self.le
    have hpower : (0 : ℚ) ≤ 2 ^ ((num.log2 : ℤ) - den.log2 - 1) := by positivity
    calc (2 : ℚ) ^ ((num.log2 : ℤ) - den.log2 - 1) * den
        ≤ 2 ^ ((num.log2 : ℤ) - den.log2 - 1) * 2 ^ (den.log2 + 1) :=
          mul_le_mul_of_nonneg_left hhigh hpower
      _ = 2 ^ num.log2 := by
          rw [← zpow_natCast, ← zpow_natCast, ← zpow_add₀ two_ne_zero]
          congr 1
          push_cast
          ring
      _ ≤ num := hlow

theorem lt_floorLog2_succ (hden : den ≠ 0) :
    (num : ℚ) < 2 ^ (floorLog2 num den + 1) * den := by
  dsimp only [floorLog2]
  split
  · have hlow : (2 : ℚ) ^ den.log2 ≤ den := by exact_mod_cast Nat.log2_self_le hden
    have hhigh : (num : ℚ) < 2 ^ (num.log2 + 1) := by exact_mod_cast Nat.lt_log2_self
    have hpower : (0 : ℚ) ≤ 2 ^ ((num.log2 : ℤ) - den.log2 + 1) := by positivity
    calc (num : ℚ) < 2 ^ (num.log2 + 1) := hhigh
      _ = 2 ^ ((num.log2 : ℤ) - den.log2 + 1) * 2 ^ den.log2 := by
          rw [← zpow_natCast, ← zpow_natCast, ← zpow_add₀ two_ne_zero]
          congr 1
          push_cast
          ring
      _ ≤ 2 ^ ((num.log2 : ℤ) - den.log2 + 1) * den := mul_le_mul_of_nonneg_left hlow hpower
  · next h =>
    rw [shiftLeft_le_shiftLeft_iff, not_le] at h
    rwa [sub_add_cancel]

theorem div_le_roundHalfEven (num den : ℕ) : num / den ≤ roundHalfEven num den := by
  dsimp only [roundHalfEven]
  split
  · exact Nat.le_refl _
  · split
    · exact Nat.le_succ _
    · exact Nat.le_add_right _ _

theorem ofParts?_eq_some {negative : Bool} {significand : ℕ} {exponent : ℤ}
    (h : ofParts? negative significand exponent = some x) :
    x.size = significand * 2 ^ exponent := by
  unfold ofParts? at h
  split at h
  · cases h
    rfl
  · contradiction

/-- A fraction that is not below a power of two is not rounded to less than it. -/
theorem two_zpow_le_size_of_nearest? {negative : Bool} {k : ℤ} (hk : -1074 ≤ k) (hden : den ≠ 0)
    (h : 2 ^ k * (den : ℚ) ≤ num) (hx : nearest? negative num den = some x) : 2 ^ k ≤ x.size := by
  have hdenominator : (0 : ℚ) < den := by exact_mod_cast Nat.pos_of_ne_zero hden
  have hnum : num ≠ 0 := by
    rintro rfl
    have : (0 : ℚ) < 2 ^ k * den := by positivity
    rw [Nat.cast_zero] at h
    linarith
  unfold nearest? at hx
  rw [if_neg hnum] at hx
  extract_lets exponent significand at hx
  have hbelow : k ≤ floorLog2 num den := by
    have hlt : (2 : ℚ) ^ k < 2 ^ (floorLog2 num den + 1) :=
      lt_of_mul_lt_mul_right (h.trans_lt (lt_floorLog2_succ hden)) hdenominator.le
    have := (zpow_lt_zpow_iff_right₀ one_lt_two).1 hlt
    omega
  -- The fraction is taken in units of `2 ^ exponent`, in which `2 ^ k` need not be whole, but the
  -- power of two below the fraction is.
  obtain ⟨units, hunits⟩ : ∃ units : ℕ, floorLog2 num den = units + exponent :=
    ⟨(floorLog2 num den - exponent).toNat, by omega⟩
  have hsignificand : 2 ^ units ≤ significand := by
    refine le_trans ?_ (div_le_roundHalfEven _ _)
    have hfloor : 2 ^ floorLog2 num den * (den : ℚ) ≤ num := floorLog2_le hnum
    rw [hunits, zpow_add₀ two_ne_zero, zpow_natCast] at hfloor
    have hshifted : (2 ^ units * den) <<< exponent.toNat ≤ num <<< (-exponent).toNat := by
      rw [shiftLeft_le_shiftLeft_iff]
      push_cast
      linarith
    rw [Nat.le_div_iff_mul_le (by rw [Nat.shiftLeft_eq]; positivity)]
    rw [Nat.shiftLeft_eq, mul_assoc, ← Nat.shiftLeft_eq] at hshifted
    exact hshifted
  have hsize : significand * 2 ^ exponent = x.size := by
    split at hx
    · next hcarry =>
      have hdouble : ((1 <<< 53 : ℕ) : ℚ) = (1 <<< 52 : ℕ) * 2 := by norm_num [Nat.shiftLeft_eq]
      rw [ofParts?_eq_some hx, hcarry, hdouble, zpow_add₀ two_ne_zero, zpow_one]
      ring
    · exact (ofParts?_eq_some hx).symm
  calc (2 : ℚ) ^ k ≤ 2 ^ floorLog2 num den := zpow_le_zpow_right₀ one_le_two hbelow
    _ = 2 ^ units * 2 ^ exponent := by rw [hunits, zpow_add₀ two_ne_zero, zpow_natCast]
    _ ≤ significand * 2 ^ exponent :=
        mul_le_mul_of_nonneg_right (by exact_mod_cast hsignificand) (by positivity)
    _ = x.size := hsize

end ClauseFilter.Binary64
