import ClauseFilter.Binary64.Basic
import ClauseFilter.Text.Numeric

/-!
# Numbers written in a text

A text may hold a number: a sign, digits with an optional point, an optional exponent; or one of the
words for infinity and for no number, in letters of either case. Blanks around it do not count. The
number read is the nearest float, or an infinity when the decimal lies past the greatest one.
-/

namespace ClauseFilter

/-- What a text that holds a number stands for. -/
inductive Reading where
  | finite (x : Binary64)
  | infinite (negative : Bool)
  | notANumber
deriving DecidableEq

namespace Reading

/-- The exponent that ends a number. Nothing at all stands for the exponent 0. -/
def exponent? : List Char → Option Int
  | [] => some 0
  | mark :: rest =>
    if mark ≠ 'e' ∧ mark ≠ 'E' then none
    else
      let (negative, digits) :=
        match rest with
        | '-' :: digits => (true, digits)
        | '+' :: digits => (false, digits)
        | digits => (false, digits)
      if digits.isEmpty || !digits.all Char.isDigit then none
      else
        let size : Int := Text.digitsValue digits
        some (if negative then -size else size)

/-- The digits of an unsigned decimal and the power of ten that they are multiplied by. -/
def decimal? (text : List Char) : Option (Nat × Int) := do
  let (whole, afterWhole) := Text.takeDigits text
  let (fraction, afterFraction) :=
    match afterWhole with
    | '.' :: rest => Text.takeDigits rest
    | rest => ([], rest)
  if whole.isEmpty && fraction.isEmpty then none
  else
    let exponent ← exponent? afterFraction
    some (Text.digitsValue (whole ++ fraction), exponent - fraction.length)

/-- Reads an unsigned number, `negative` being the sign that stood before it. -/
def unsigned? (negative : Bool) (text : List Char) : Option Reading :=
  let word := text.map Char.toLower
  if word = "inf".toList ∨ word = "infinity".toList then some (.infinite negative)
  else if word = "nan".toList then some .notANumber
  else
    (decimal? text).map fun (digits, exponent) =>
      match Binary64.ofDecimal? negative digits exponent with
      | some x => .finite x
      | none => .infinite negative

/-- Reads the number that a text holds between blanks, if it holds one. -/
def ofText? (text : String) : Option Reading :=
  match Text.trim text.toList with
  | '-' :: rest => unsigned? true rest
  | '+' :: rest => unsigned? false rest
  | rest => unsigned? false rest

end Reading

end ClauseFilter
