/-!
# Finite 64-bit floats

A finite float is kept as its exact value, a sign and a significand times a power of two, in the one
form that the format allows. Rounding is to the nearest float, a tie going to the even significand,
and is done on fractions of natural numbers, so nothing here depends on the arithmetic of a machine.
-/

namespace ClauseFilter

/-- The pairs of a significand and an exponent that stand for a finite float: 53 bits, of which the
first is set unless the exponent is the least one. -/
def Binary64.Canonical (significand : Nat) (exponent : Int) : Prop :=
  significand < 1 <<< 53 ∧ -1074 ≤ exponent ∧ exponent ≤ 971 ∧
    (1 <<< 52 ≤ significand ∨ exponent = -1074)

instance (significand : Nat) (exponent : Int) :
    Decidable (Binary64.Canonical significand exponent) :=
  inferInstanceAs (Decidable (_ ∧ _ ∧ _ ∧ _))

/-- A finite 64-bit float, the value `± significand * 2 ^ exponent`. The two zeros differ. -/
structure Binary64 where
  negative : Bool
  significand : Nat
  exponent : Int
  canonical : Binary64.Canonical significand exponent
deriving DecidableEq

namespace Binary64

def zero (negative : Bool) : Binary64 :=
  ⟨negative, 0, -1074, by decide⟩

def ofParts? (negative : Bool) (significand : Nat) (exponent : Int) : Option Binary64 :=
  if h : Canonical significand exponent then some ⟨negative, significand, exponent, h⟩ else none

/-- The size of a float, without its sign, as the fraction `numerator / denominator`. -/
def numerator (x : Binary64) : Nat :=
  x.significand <<< x.exponent.toNat

def denominator (x : Binary64) : Nat :=
  1 <<< (-x.exponent).toNat

theorem denominator_pos (x : Binary64) : 0 < x.denominator := by
  rw [denominator, Nat.one_shiftLeft]
  exact Nat.two_pow_pos _

/-! ## Rounding -/

/-- The whole number nearest to a fraction, the even one of two that are equally near. -/
def roundHalfEven (num den : Nat) : Nat :=
  let quotient := num / den
  let remainder := num % den
  if 2 * remainder < den then quotient
  else if den < 2 * remainder then quotient + 1
  else quotient + quotient % 2

/-- The greatest `k` with `2 ^ k ≤ num / den`. -/
def floorLog2 (num den : Nat) : Int :=
  let k : Int := (num.log2 : Int) - den.log2
  if den <<< k.toNat ≤ num <<< (-k).toNat then k else k - 1

/-- The float nearest to `± num / den`, or `none` when that lies past the greatest float. -/
def nearest? (negative : Bool) (num den : Nat) : Option Binary64 :=
  if num = 0 then some (zero negative)
  else
    let exponent := max (floorLog2 num den - 52) (-1074)
    let significand := roundHalfEven (num <<< (-exponent).toNat) (den <<< exponent.toNat)
    if significand = 1 <<< 53 then ofParts? negative (1 <<< 52) (exponent + 1)
    else ofParts? negative significand exponent

/-- The float nearest to `± digits * 10 ^ exponent`. Decimals that are far too great or far too
small to matter are answered without writing out the power of ten. -/
def ofDecimal? (negative : Bool) (digits : Nat) (exponent : Int) : Option Binary64 :=
  if digits = 0 then some (zero negative)
  else if 400 < exponent then none
  else if exponent < -400 - digits.log2 then some (zero negative)
  else nearest? negative (digits * Nat.pow 10 exponent.toNat) (Nat.pow 10 (-exponent).toNat)

/-- The float nearest to a whole number. -/
def ofInt? (n : Int) : Option Binary64 :=
  nearest? (n < 0) n.natAbs 1

end Binary64

end ClauseFilter
