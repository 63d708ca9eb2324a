import ClauseFilter.Binary64.Shortest

/-!
# The text of a float

A float is written with the shortest digits that read back. From `10 ^ -5` up to below `10 ^ 16` it
is written out in place, always with a fraction; outside that range one digit stands before the
point and the exponent, with its sign, follows an `e`.
-/

namespace ClauseFilter.Binary64

/-- The digits of a decimal without the zeros at their end, and the exponent of the first one. -/
def leadingDigits (d : Decimal) : List Char × Int :=
  let digits := Nat.toDigits 10 d.digits
  ((digits.reverse.dropWhile (· == '0')).reverse, d.exponent + digits.length - 1)

/-- Digits written out in place, the first of them standing for `10 ^ exponent`. -/
def positional (digits : List Char) (exponent : Int) : List Char :=
  if exponent < 0 then
    ['0', '.'] ++ List.replicate (-exponent - 1).toNat '0' ++ digits
  else
    let whole := exponent.toNat + 1
    let padded := digits ++ List.replicate (whole - digits.length) '0'
    let fraction := padded.drop whole
    padded.take whole ++ '.' :: (if fraction.isEmpty then ['0'] else fraction)

/-- Digits written with one of them before the point, and then the exponent. -/
def scientific (digits : List Char) (exponent : Int) : List Char :=
  let fraction := digits.drop 1
  digits.take 1 ++ (if fraction.isEmpty then [] else '.' :: fraction) ++
    ['e', if exponent < 0 then '-' else '+'] ++ Nat.toDigits 10 exponent.natAbs

/-- The text of a float's size. -/
def magnitude (x : Binary64) : List Char :=
  if x.significand = 0 then ['0', '.', '0']
  else
    let (digits, exponent) := leadingDigits x.shortest
    if -5 ≤ exponent ∧ exponent ≤ 15 then positional digits exponent
    else scientific digits exponent

/-- The text of a float. -/
def text (x : Binary64) : String :=
  String.ofList (if x.negative then '-' :: x.magnitude else x.magnitude)

end ClauseFilter.Binary64
