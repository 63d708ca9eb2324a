import ClauseFilter.Text.Extending
import ClauseFilter.Text.Unprintable

/-!
# Texts quoted for a message

A text shown in a message stands between quotes. Quotes, backslashes and the usual controls have
short escapes; a character that could not be seen there, being unprintable or drawn onto its
neighbour, is written as its code point in hexadecimal.
-/

namespace ClauseFilter.Text

/-- The digits of a number in base sixteen, in lower case and without leading zeros. -/
def hexDigits (n : Nat) : List Char :=
  Nat.toDigits 16 n

/-- How one character is shown in a message. -/
def visible (c : Char) : List Char :=
  match c with
  | '\x00' => ['\\', '0']
  | '\t' => ['\\', 't']
  | '\r' => ['\\', 'r']
  | '\n' => ['\\', 'n']
  | '"' => ['\\', '"']
  | '\\' => ['\\', '\\']
  | _ =>
    if isExtending c || !isPrintable c then
      ['\\', 'u', '{'] ++ hexDigits c.toNat ++ ['}']
    else [c]

/-- A text between quotes, as a message shows it. -/
def quoted (text : String) : String :=
  String.ofList ('"' :: text.toList.flatMap visible ++ ['"'])

end ClauseFilter.Text
