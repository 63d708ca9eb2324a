import ClauseFilter.Binary64.Reading
import ClauseFilter.Json.Basic

/-!
# How many `should` clauses must hold

The filter language has no counting, so the minimum is reduced to two cases: 0, where the `should`
clauses only bear on scoring and are left out, and 1, where at least one of them must hold. A given
minimum is honoured when it is 0 or 1, as a number or as a text that holds one.
-/

namespace ClauseFilter

/-- The numeric reading of a JSON value. -/
def Json.reading? : Json → Option Reading
  | .num n => n.nearest?.map .finite
  | .str s => Reading.ofText? s
  | _ => none

/-- Whether a float differs from 1 by less than the distance from 1 to the next float. -/
def Binary64.isNearOne (x : Binary64) : Bool :=
  !x.negative && (x.numerator - x.denominator) <<< 52 < x.denominator &&
    (x.denominator - x.numerator) <<< 52 < x.denominator

inductive Minimum where
  | zero
  | one
deriving DecidableEq

namespace Minimum

/-- The minimum that a value asks for, if it is honoured. -/
def honoured? (value : Json) : Option Minimum :=
  match value.reading? with
  | some (.finite x) =>
    if x.significand = 0 then some zero else if x.isNearOne then some one else none
  | _ => none

/-- The minimum in effect, and the value that is ignored in its favour. Without a value several
required clauses turn the `should` clauses into hints for scoring. -/
def effective (given : Option Json) (required : Nat) : Minimum × Option Json :=
  match given with
  | none => (if 1 < required then zero else one, none)
  | some value =>
    match honoured? value with
    | some minimum => (minimum, none)
    | none => (one, some value)

end Minimum

end ClauseFilter
