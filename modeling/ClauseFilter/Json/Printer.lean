import ClauseFilter.Binary64.Text
import ClauseFilter.Json.Basic
import ClauseFilter.Text.Quoted

/-!
# JSON as text

A value has a compact form without blanks and a pretty form with an indentation of two spaces a
level. Both write the members in their order. In a string only the quote, the backslash and the
controls below `U+0020` are escaped.
-/

namespace ClauseFilter.Json

/-- How one character is written within a string. -/
def escaped (c : Char) : List Char :=
  match c with
  | '"' => ['\\', '"']
  | '\\' => ['\\', '\\']
  | '\x08' => ['\\', 'b']
  | '\x0c' => ['\\', 'f']
  | '\n' => ['\\', 'n']
  | '\r' => ['\\', 'r']
  | '\t' => ['\\', 't']
  | _ =>
    if c.toNat < 0x10 then ['\\', 'u', '0', '0', '0'] ++ Text.hexDigits c.toNat
    else if c.toNat < 0x20 then ['\\', 'u', '0', '0'] ++ Text.hexDigits c.toNat
    else [c]

/-- A string as JSON text. -/
def quoted (s : String) : String :=
  "\"" ++ String.ofList (s.toList.flatMap escaped) ++ "\""

/-- The text of a whole number. -/
def intText (n : Int) : String :=
  String.ofList ((if n < 0 then ['-'] else []) ++ Nat.toDigits 10 n.natAbs)

def Number.text : Number → String
  | int n _ => intText n
  | float x => x.text

mutual

/-- The compact form of a value. -/
def compact : Json → String
  | null => "null"
  | bool true => "true"
  | bool false => "false"
  | num n => n.text
  | str s => quoted s
  | arr items => "[" ++ compactItems items ++ "]"
  | obj members => "\x7b" ++ compactMembers members ++ "\x7d"

/-- The items of an array, with commas between them. -/
def compactItems : List Json → String
  | [] => ""
  | [item] => compact item
  | item :: rest => compact item ++ "," ++ compactItems rest

/-- The members of an object, with commas between them. -/
def compactMembers : Members → String
  | [] => ""
  | [(key, value)] => quoted key ++ ":" ++ compact value
  | (key, value) :: rest => quoted key ++ ":" ++ compact value ++ "," ++ compactMembers rest

end

/-- A new line, indented by a number of levels. -/
def newLine (level : Nat) : String :=
  "\n" ++ String.ofList (List.replicate (2 * level) ' ')

mutual

/-- The pretty form of a value that stands at a level of indentation. -/
def prettyAt (level : Nat) : Json → String
  | null => "null"
  | bool true => "true"
  | bool false => "false"
  | num n => n.text
  | str s => quoted s
  | arr [] => "[]"
  | arr items => "[" ++ prettyItems (level + 1) items ++ newLine level ++ "]"
  | obj [] => "\x7b\x7d"
  | obj members => "\x7b" ++ prettyMembers (level + 1) members ++ newLine level ++ "\x7d"

/-- The items of an array, each on lines of its own. -/
def prettyItems (level : Nat) : List Json → String
  | [] => ""
  | [item] => newLine level ++ prettyAt level item
  | item :: rest => newLine level ++ prettyAt level item ++ "," ++ prettyItems level rest

/-- The members of an object, each on lines of its own. -/
def prettyMembers (level : Nat) : Members → String
  | [] => ""
  | [(key, value)] => newLine level ++ quoted key ++ ": " ++ prettyAt level value
  | (key, value) :: rest =>
    newLine level ++ quoted key ++ ": " ++ prettyAt level value ++ "," ++ prettyMembers level rest

end

/-- The pretty form of a value. -/
def pretty (value : Json) : String :=
  prettyAt 0 value

/-- A value as part of a filter text: a string as it is, everything else in its compact form. -/
def render : Json → String
  | str s => s
  | value => value.compact

end ClauseFilter.Json
