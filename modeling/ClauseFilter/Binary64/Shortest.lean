import ClauseFilter.Binary64.Basic

/-!
# The shortest decimal that reads back

Every real number between the midpoints to a float's two neighbours rounds to that float, the
midpoints themselves when its significand is even. Among the decimals in this interval we take one
with the fewest digits, and of those the nearest to the float.
-/

namespace ClauseFilter

/-- A positive decimal `digits * 10 ^ exponent`. -/
structure Decimal where
  digits : Nat
  exponent : Int
deriving DecidableEq

namespace Binary64

/-- A float and the ends of its rounding interval, as fractions over one denominator. -/
structure Rounding where
  low : Nat
  value : Nat
  high : Nat
  denominator : Nat
  /-- Whether the ends round to the float. -/
  closed : Bool

/-- The interval of a float's size. Below a power of two the floats lie twice as close. -/
def rounding (x : Binary64) : Rounding :=
  let gap := if x.significand = 1 <<< 52 ∧ -1074 < x.exponent then 1 else 2
  { low := (4 * x.significand - gap) <<< (x.exponent - 2).toNat
    value := (4 * x.significand) <<< (x.exponent - 2).toNat
    high := (4 * x.significand + 2) <<< (x.exponent - 2).toNat
    denominator := 1 <<< (2 - x.exponent).toNat
    closed := x.significand % 2 = 0 }

namespace Rounding

/-- Whether `n / r.denominator` rounds to the float. -/
def holds (r : Rounding) (n : Nat) : Bool :=
  if r.closed then r.low ≤ n && n ≤ r.high else r.low < n && n < r.high

/-- The same interval with every end, and the value, divided by `10 ^ k`. -/
def divTen (r : Rounding) (k : Int) : Rounding :=
  let up := Nat.pow 10 (-k).toNat
  { low := r.low * up
    value := r.value * up
    high := r.high * up
    denominator := r.denominator * Nat.pow 10 k.toNat
    closed := r.closed }

/-- The whole number in the interval that is nearest to the value, the even one of two that are
equally near. Only the two neighbours of the value need a look. -/
def whole? (r : Rounding) : Option Nat :=
  let below := r.value / r.denominator
  let rest := r.value % r.denominator
  match r.holds (below * r.denominator), r.holds ((below + 1) * r.denominator) with
  | true, true =>
    if 2 * rest < r.denominator then some below
    else if r.denominator < 2 * rest then some (below + 1)
    else some (below + below % 2)
  | true, false => some below
  | false, true => some (below + 1)
  | false, false => none

/-- The exponent of the first digit of the value. -/
def firstExponent (r : Rounding) : Int :=
  if r.denominator ≤ r.value then
    ((Nat.toDigits 10 (r.value / r.denominator)).length : Int) - 1
  else
    let places := (Nat.toDigits 10 (r.denominator / r.value)).length
    if r.denominator = r.value * Nat.pow 10 (places - 1) then 1 - (places : Int)
    else -(places : Int)

end Rounding

/-- The shortest decimal that rounds to a float's size, 17 digits being always enough. -/
def shortest (x : Binary64) : Decimal :=
  let r := x.rounding
  let first := r.firstExponent
  let found := (List.range 17).findSome? fun (n : Nat) =>
    let exponent := first - n
    (r.divTen exponent).whole?.map fun digits => (⟨digits, exponent⟩ : Decimal)
  found.getD ⟨0, 0⟩

end Binary64

end ClauseFilter
