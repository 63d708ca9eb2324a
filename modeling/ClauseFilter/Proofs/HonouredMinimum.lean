import ClauseFilter.Proofs.MinimumInEffect
import ClauseFilter.Proofs.Rounding

/-!
# Minimums that are honoured

A minimum is honoured for the exact value of its reading. The float that counts as 0 has the value
0, but two floats count as 1: below 1 the floats lie twice as close to each other as above, so the
one before 1 also differs from it by less than the distance that is allowed (`toRat_near_one_iff`).
It makes no difference that a difference of floats is rounded (`isNearOne_iff_distance`).
-/

namespace ClauseFilter

namespace Binary64

variable {x : Binary64}

/-! ## Floats near 1 -/

theorem shiftLeft_sub_lt_iff {a b d : ℕ} (hd : 0 < d) :
    (a - b) <<< 52 < d ↔ (a : ℚ) - b < d * 2 ^ (-52 : ℤ) := by
  have hpower : (2 : ℚ) ^ (-52 : ℤ) * 2 ^ 52 = 1 := by norm_num
  have hd' : (0 : ℚ) < d := by exact_mod_cast hd
  rw [Nat.shiftLeft_eq]
  rcases Nat.le_total a b with hle | hle
  · have hcast : (a : ℚ) ≤ b := by exact_mod_cast hle
    rw [Nat.sub_eq_zero_of_le hle, zero_mul]
    exact iff_of_true hd (by nlinarith)
  · rw [← @Nat.cast_lt ℚ]
    push_cast [Nat.cast_sub hle]
    constructor
    · intro h
      nlinarith
    · intro h
      nlinarith

theorem isNearOne_iff : x.isNearOne = true ↔ |x.toRat - 1| < 2 ^ (-52 : ℤ) := by
  have hsize := x.size_nonneg
  unfold isNearOne toRat
  cases hnegative : x.negative with
  | true =>
    have hsmall : (2 : ℚ) ^ (-52 : ℤ) < 1 := by norm_num
    simp only [Bool.not_true, Bool.false_and, Bool.false_eq_true, if_true, false_iff, not_lt]
    rw [abs_of_nonpos (by linarith)]
    linarith
  | false =>
    have hd : (0 : ℚ) < x.denominator := by exact_mod_cast x.denominator_pos
    have hupper : x.size - 1 < 2 ^ (-52 : ℤ) ↔
        (x.numerator : ℚ) - x.denominator < x.denominator * 2 ^ (-52 : ℤ) := by
      rw [x.numerator_eq, ← mul_lt_mul_iff_right₀ hd]
      constructor <;> intro h <;> linarith
    have hlower : 1 - x.size < 2 ^ (-52 : ℤ) ↔
        (x.denominator : ℚ) - x.numerator < x.denominator * 2 ^ (-52 : ℤ) := by
      rw [x.numerator_eq, ← mul_lt_mul_iff_right₀ hd]
      constructor <;> intro h <;> linarith
    have habs : |x.size - 1| < 2 ^ (-52 : ℤ) ↔
        x.size - 1 < 2 ^ (-52 : ℤ) ∧ 1 - x.size < 2 ^ (-52 : ℤ) := by
      rw [abs_lt]
      constructor <;> rintro ⟨h, h'⟩ <;> constructor <;> linarith
    simp only [Bool.not_false, Bool.true_and, Bool.and_eq_true, decide_eq_true_eq,
      Bool.false_eq_true, if_false]
    rw [habs, hupper, hlower, shiftLeft_sub_lt_iff x.denominator_pos,
      shiftLeft_sub_lt_iff x.denominator_pos]

theorem size_eq_one (hlow : 1 ≤ x.size) (hhigh : x.size < 1 + 2 ^ (-52 : ℤ)) : x.size = 1 := by
  have hunit : (2 : ℚ) ^ (-52 : ℤ) = 1 / 2 ^ 52 := by norm_num
  have hexponent : x.exponent = -52 := by
    refine exponent_eq (k := 0) (by norm_num) (by simpa using hlow) (hhigh.trans ?_)
    norm_num
  have hsize : x.size = x.significand * (1 / 2 ^ 52) := by rw [size, hexponent, hunit]
  rw [hsize] at hlow hhigh
  rw [hunit] at hhigh
  have hleast : ((2 ^ 52 : ℕ) : ℚ) ≤ x.significand := by
    push_cast
    linarith
  have hmost : (x.significand : ℚ) < ((2 ^ 52 + 1 : ℕ) : ℚ) := by
    push_cast
    linarith
  have hsignificand : x.significand = 2 ^ 52 := by
    rw [Nat.cast_le] at hleast
    rw [Nat.cast_lt] at hmost
    omega
  rw [hsize, hsignificand]
  norm_num

theorem size_eq_before_one (hlow : 1 - 2 ^ (-52 : ℤ) < x.size) (hhigh : x.size < 1) :
    x.size = 1 - 2 ^ (-53 : ℤ) := by
  have hunit : (2 : ℚ) ^ (-53 : ℤ) = 1 / 2 ^ 53 := by norm_num
  have hexponent : x.exponent = -53 := by
    refine exponent_eq (k := -1) (by norm_num) (le_trans ?_ hlow.le) (by simpa using hhigh)
    norm_num
  have hsize : x.size = x.significand * (1 / 2 ^ 53) := by rw [size, hexponent, hunit]
  have hleast : ((2 ^ 53 - 2 : ℕ) : ℚ) < x.significand := by
    have hcast : ((2 ^ 53 - 2 : ℕ) : ℚ) = 2 ^ 53 - 2 := by norm_num
    have hdistance : (2 : ℚ) ^ (-52 : ℤ) = 2 / 2 ^ 53 := by norm_num
    rw [hsize, hdistance] at hlow
    rw [hcast]
    linarith
  have hmost : x.significand < 2 ^ 53 := by
    rw [← Nat.one_shiftLeft]
    exact x.canonical.1
  have hsignificand : x.significand = 2 ^ 53 - 1 := by
    rw [Nat.cast_lt] at hleast
    omega
  rw [hsize, hsignificand]
  norm_num

/-- The floats that differ from 1 by less than the distance to the next float are 1 itself and the
float before it. -/
theorem toRat_near_one_iff :
    |x.toRat - 1| < 2 ^ (-52 : ℤ) ↔ x.toRat = 1 ∨ x.toRat = 1 - 2 ^ (-53 : ℤ) := by
  constructor
  · intro h
    obtain ⟨hlow, hhigh⟩ := abs_lt.1 h
    have hpositive : 0 < x.toRat := by
      have : (2 : ℚ) ^ (-52 : ℤ) < 1 := by norm_num
      linarith
    rw [toRat_eq_size hpositive] at hlow hhigh ⊢
    rcases le_or_gt 1 x.size with hone | hone
    · exact .inl (size_eq_one hone (by linarith))
    · exact .inr (size_eq_before_one (by linarith) hone)
  · rintro (h | h)
    all_goals
      rw [h]
      norm_num

/-! ## Rounded distances from 1 -/

/-- The distance of a float from 1, times the denominator of the float. -/
def distanceNumerator (x : Binary64) : ℕ :=
  if x.negative then x.numerator + x.denominator
  else (x.numerator - x.denominator) + (x.denominator - x.numerator)

/-- The float nearest to the distance of a float from 1. -/
def distanceFromOne? (x : Binary64) : Option Binary64 :=
  nearest? false x.distanceNumerator x.denominator

theorem distanceNumerator_eq (x : Binary64) :
    (x.distanceNumerator : ℚ) = |x.toRat - 1| * x.denominator := by
  have hsize := x.size_nonneg
  have hnumerator := x.numerator_eq
  have hd : (0 : ℚ) < x.denominator := by exact_mod_cast x.denominator_pos
  unfold distanceNumerator toRat
  split
  · rw [abs_of_nonpos (by linarith)]
    push_cast
    linarith
  · rcases Nat.le_total x.numerator x.denominator with hle | hle
    · have hcast : (x.numerator : ℚ) ≤ x.denominator := by exact_mod_cast hle
      have hsmall : x.size ≤ 1 := by
        rw [hnumerator] at hcast
        nlinarith
      rw [Nat.sub_eq_zero_of_le hle, zero_add, Nat.cast_sub hle, abs_of_nonpos (by linarith)]
      linarith
    · have hcast : (x.denominator : ℚ) ≤ x.numerator := by exact_mod_cast hle
      have hgreat : 1 ≤ x.size := by
        rw [hnumerator] at hcast
        nlinarith
      rw [Nat.sub_eq_zero_of_le hle, add_zero, Nat.cast_sub hle, abs_of_nonneg (by linarith)]
      linarith

theorem distanceFromOne?_one (h : x.toRat = 1) : x.distanceFromOne? = some (zero false) := by
  have hdistance := x.distanceNumerator_eq
  rw [h, sub_self, abs_zero, zero_mul, Nat.cast_eq_zero] at hdistance
  rw [distanceFromOne?, hdistance, nearest?, if_pos rfl]

theorem distanceFromOne?_before_one (h : x.toRat = 1 - 2 ^ (-53 : ℤ)) :
    ∃ d, x.distanceFromOne? = some d ∧ d.size = 2 ^ (-53 : ℤ) := by
  have hsize : x.size = 1 - 2 ^ (-53 : ℤ) := by
    rw [← toRat_eq_size, h]
    rw [h]
    norm_num
  have hexponent : x.exponent = -53 := by
    refine exponent_eq (k := -1) (by norm_num) ?_ ?_
    all_goals
      rw [hsize]
      norm_num
  have hdenominator : x.denominator = 2 ^ 53 := by
    rw [denominator, hexponent]
    rfl
  have hdistance := x.distanceNumerator_eq
  rw [h, hdenominator] at hdistance
  norm_num at hdistance
  rw [distanceFromOne?, hdistance, hdenominator]
  refine ⟨⟨false, 2 ^ 52, -105, by decide⟩, by decide +kernel, ?_⟩
  norm_num [size]

/-- A float is near 1 just when its rounded distance from 1 is small. -/
theorem isNearOne_iff_distance :
    x.isNearOne = true ↔ ∃ d, x.distanceFromOne? = some d ∧ d.size < 2 ^ (-52 : ℤ) := by
  rw [isNearOne_iff]
  constructor
  · intro h
    rcases toRat_near_one_iff.1 h with hone | hbefore
    · exact ⟨_, distanceFromOne?_one hone, by norm_num [size, zero]⟩
    · obtain ⟨d, hd, hsize⟩ := distanceFromOne?_before_one hbefore
      exact ⟨d, hd, by norm_num [hsize]⟩
  · rintro ⟨d, hd, hsmall⟩
    by_contra hfar
    rw [not_lt] at hfar
    have hpositive : (0 : ℚ) < x.denominator := by exact_mod_cast x.denominator_pos
    have hleast := mul_le_mul_of_nonneg_right hfar hpositive.le
    rw [← distanceNumerator_eq] at hleast
    have hrounded := two_zpow_le_size_of_nearest? (by norm_num) x.denominator_pos.ne' hleast hd
    linarith

end Binary64

/-! ## Honoured minimums -/

namespace Minimum

variable {value : Json} {x : Binary64}

theorem honoured?_finite (h : value.reading? = some (.finite x)) :
    honoured? value =
      if x.toRat = 0 then some zero
      else if |x.toRat - 1| < 2 ^ (-52 : ℤ) then some one else none := by
  have hzero : x.significand = 0 ↔ x.toRat = 0 := Binary64.toRat_eq_zero_iff.symm
  rw [honoured?, h]
  simp only [hzero, Binary64.isNearOne_iff]

theorem exists_finite_of_honoured? {minimum : Minimum} (h : honoured? value = some minimum) :
    ∃ x, value.reading? = some (.finite x) := by
  unfold honoured? at h
  split at h
  · next x hreading => exact ⟨x, hreading⟩
  · contradiction

theorem honoured?_eq_zero_iff :
    honoured? value = some zero ↔ ∃ x, value.reading? = some (.finite x) ∧ x.toRat = 0 := by
  constructor
  · intro h
    obtain ⟨x, hreading⟩ := exists_finite_of_honoured? h
    refine ⟨x, hreading, ?_⟩
    rw [honoured?_finite hreading] at h
    by_contra hne
    rw [if_neg hne] at h
    split at h <;> contradiction
  · rintro ⟨x, hreading, hzero⟩
    rw [honoured?_finite hreading, if_pos hzero]

theorem honoured?_eq_one_iff :
    honoured? value = some one ↔
      ∃ x, value.reading? = some (.finite x) ∧ (x.toRat = 1 ∨ x.toRat = 1 - 2 ^ (-53 : ℤ)) := by
  constructor
  · intro h
    obtain ⟨x, hreading⟩ := exists_finite_of_honoured? h
    rw [honoured?_finite hreading] at h
    split at h
    · contradiction
    · split at h
      · next hnear => exact ⟨x, hreading, Binary64.toRat_near_one_iff.1 hnear⟩
      · contradiction
  · rintro ⟨x, hreading, hnear⟩
    have hne : x.toRat ≠ 0 := by
      rcases hnear with h | h
      all_goals
        rw [h]
        norm_num
    rw [honoured?_finite hreading, if_neg hne, if_pos (Binary64.toRat_near_one_iff.2 hnear)]

end Minimum

namespace BoolClause

variable {inner : Json → Traced Predicate} {members : Json.Members} {value : Json}

/-- A minimum that is not honoured leaves the result that the minimum 1 has, with one more note and
without the flag. -/
theorem translate_demoted (hvalue : members.get? "minimum_should_match" = some value)
    (h : Minimum.honoured? value = none) :
    let result := (translate inner (.obj members)).outcome
    let resultOfOne := (translate inner (.obj (withMinimum members .one))).outcome
    (∀ fault, result = .error fault ↔ resultOfOne = .error fault) ∧
    ∀ p, resultOfOne = .ok p → ∃ before after, p.notes = before ++ after ∧
      result = .ok ⟨p.expression, false, before ++ ignoredNote value :: after⟩ := by
  obtain ⟨hgiven, hone⟩ := translate_of_not_honoured inner hvalue h
  dsimp only
  rw [hgiven, hone]
  cases hg : gathered inner members with
  | mk events outcome =>
    cases outcome with
    | error fault => exact ⟨fun _ => .rfl, nofun⟩
    | ok g =>
      obtain ⟨required, should, mustNot⟩ := g
      refine ⟨fun _ => ⟨nofun, nofun⟩, ?_⟩
      rintro _ ⟨⟩
      exact ⟨_, _, whole_notes_eq required should mustNot,
        congrArg Except.ok (combine_some_eq required should mustNot value)⟩

/-- The minimum 0 is honoured just where the reading is 0, and the minimum 1 where it is 1 or the
float before 1. A clause that gives any other value is demoted: it has the faults that it has with
the minimum 1, and the same expression, but it is not translatable and has one more note. -/
theorem translate_reading (value : Json) :
    (Minimum.honoured? value = some .zero ↔
      ∃ x, value.reading? = some (.finite x) ∧ x.toRat = 0) ∧
    (Minimum.honoured? value = some .one ↔
      ∃ x, value.reading? = some (.finite x) ∧ (x.toRat = 1 ∨ x.toRat = 1 - 2 ^ (-53 : ℤ))) ∧
    ∀ (env : Env) (members : Json.Members), members.get? "minimum_should_match" = some value →
      Minimum.honoured? value = none →
      let result := (translate (translateClause env) (.obj members)).outcome
      let resultOfOne := (translate (translateClause env) (.obj (withMinimum members .one))).outcome
      (∀ fault, result = .error fault ↔ resultOfOne = .error fault) ∧
      ∀ p, resultOfOne = .ok p → ∃ before after, p.notes = before ++ after ∧
        result = .ok {
          expression := p.expression
          translatable := false
          notes := before ++
            ("skipping minimum_should_match " ++ value.render ++ ", assuming 1") :: after } :=
  ⟨Minimum.honoured?_eq_zero_iff, Minimum.honoured?_eq_one_iff,
    fun _ _ hvalue h => translate_demoted hvalue h⟩

/-- The float after 1 is not honoured. -/
theorem translate_reading_afterOne :
    let value : Json := .num (.float ⟨false, 2 ^ 52 + 1, -52, by decide⟩)
    let members := [("minimum_should_match", value)]
    Json.Members.get? members "minimum_should_match" = some value ∧
      Minimum.honoured? value = none ∧
      ∃ before after, [] = before ++ after ∧
        (translate (translateClause (.top 1)) (.obj members)).outcome = .ok ⟨"*", false, before ++
          ("skipping minimum_should_match " ++ value.render ++ ", assuming 1") :: after⟩ := by
  intro value members
  have hvalue : Json.Members.get? members "minimum_should_match" = some value := rfl
  have hhonoured : Minimum.honoured? value = none := by decide +kernel
  have hone : (translate (translateClause (.top 1)) (.obj (withMinimum members .one))).outcome =
      .ok (.translated "*") := by decide
  obtain ⟨-, -, hdemoted⟩ := translate_reading value
  exact ⟨hvalue, hhonoured, (hdemoted (.top 1) members hvalue hhonoured).2 _ hone⟩

/-- The float before 1 is honoured as 1 is, for instance where a text holds it. -/
theorem not_translate_reading :
    ¬ ∀ value : Json, Minimum.honoured? value = some .one ↔
      ∃ x, value.reading? = some (.finite x) ∧ x.toRat = 1 := by
  intro h
  let value : Json := .str "0.9999999999999999"
  let x : Binary64 := ⟨false, 2 ^ 53 - 1, -53, by decide⟩
  have hhonoured : Minimum.honoured? value = some .one := by decide +kernel
  have hx : value.reading? = some (.finite x) := by decide +kernel
  obtain ⟨y, hreading, hone⟩ := (h value).1 hhonoured
  obtain rfl : x = y := Reading.finite.inj (Option.some.inj (hx.symm.trans hreading))
  have hvalue : x.toRat = 1 - 2 ^ (-53 : ℤ) := by
    norm_num [Binary64.toRat, Binary64.size, x]
  rw [hvalue] at hone
  norm_num at hone

end BoolClause

end ClauseFilter
