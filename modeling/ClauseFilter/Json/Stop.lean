import ClauseFilter.Binary64.Text
import ClauseFilter.Text.Quoted

/-!
# Why and where reading a JSON text stops

A reader that cannot go on names a cause and how many bytes of the text it has not taken into
account. The position of a stop counts lines from 1 and, within its line, the bytes before it.
-/

namespace ClauseFilter.Json

/-- What a typed reader met in place of the value it was to read. -/
inductive Found where
  | null
  | boolean (b : Bool)
  | integer (n : Int)
  | float (x : Binary64)
  | string (s : String)
  | sequence
  | map
deriving DecidableEq

def Found.phrase : Found → String
  | null => "null"
  | boolean true => "boolean `true`"
  | boolean false => "boolean `false`"
  | integer n => "integer `" ++ toString n ++ "`"
  | float x => "floating point `" ++ x.text ++ "`"
  | string s => "string " ++ Text.quoted s
  | sequence => "sequence"
  | map => "map"

/-- What a text that ends too early was in the middle of. -/
inductive Inside where
  | value
  | string
  | list
  | object
deriving DecidableEq

def Inside.phrase : Inside → String
  | value => "a value"
  | string => "a string"
  | list => "a list"
  | object => "an object"

/-- Why reading stops. -/
inductive Cause where
  | endOfText (inside : Inside)
  /-- A colon, the end of an item, the end of a member, a letter of a word, a value or a key had to
  come next. -/
  | colonDue
  | itemEndDue
  | memberEndDue
  | letterDue
  | valueDue
  | keyDue
  | trailingComma
  | trailingCharacters
  | invalidNumber
  | numberOutOfRange
  | invalidEscape
  | controlCharacter
  /-- A surrogate without its partner, and a first surrogate that no escape follows. -/
  | loneSurrogate
  | unfinishedSurrogate
  /-- A value of another type than expected, an integer that the expected type cannot hold. -/
  | unexpectedType (found : Found) (expected : String)
  | unexpectedInteger (n : Int) (expected : String)
  | missingField (name : String)
  | duplicateField (name : String)
  | unexpectedLength (length : Nat) (expected : String)
deriving DecidableEq

def Cause.message : Cause → String
  | endOfText inside => "EOF while parsing " ++ inside.phrase
  | colonDue => "expected `:`"
  | itemEndDue => "expected `,` or `]`"
  | memberEndDue => "expected `,` or `\x7d`"
  | letterDue => "expected ident"
  | valueDue => "expected value"
  | keyDue => "key must be a string"
  | trailingComma => "trailing comma"
  | trailingCharacters => "trailing characters"
  | invalidNumber => "invalid number"
  | numberOutOfRange => "number out of range"
  | invalidEscape => "invalid escape"
  | controlCharacter => "control character (\\u0000-\\u001F) found while parsing a string"
  | loneSurrogate => "lone leading surrogate in hex escape"
  | unfinishedSurrogate => "unexpected end of hex escape"
  | unexpectedType found expected => "invalid type: " ++ found.phrase ++ ", expected " ++ expected
  | unexpectedInteger n expected =>
    "invalid value: " ++ (Found.integer n).phrase ++ ", expected " ++ expected
  | missingField name => "missing field `" ++ name ++ "`"
  | duplicateField name => "duplicate field `" ++ name ++ "`"
  | unexpectedLength length expected =>
    "invalid length " ++ toString length ++ ", expected " ++ expected

/-- Where reading stops and why: the number of bytes at the end of the text that had no part in the
decision. -/
structure Stop where
  cause : Cause
  unread : Nat
deriving DecidableEq

/-- The number of bytes of a text. -/
def byteCount : List Char → Nat
  | [] => 0
  | c :: rest => c.utf8Size + byteCount rest

/-- A place in a text: its line, from 1, and the number of bytes before it in that line. -/
structure Position where
  line : Nat
  column : Nat
deriving DecidableEq

/-- The place a number of bytes further on in the text, which may lie within a character. -/
def Position.advance (p : Position) : List Char → Nat → Position
  | [], _ => p
  | c :: rest, bytes =>
    if bytes < c.utf8Size then { p with column := p.column + bytes }
    else if c = '\n' then Position.advance ⟨p.line + 1, 0⟩ rest (bytes - c.utf8Size)
    else Position.advance { p with column := p.column + c.utf8Size } rest (bytes - c.utf8Size)

/-- Why a text could not be read, and the place in it. -/
structure ReadError where
  cause : Cause
  position : Position
deriving DecidableEq

/-- The error of a reader that stopped in a text. -/
def ReadError.ofStop (text : List Char) (stop : Stop) : ReadError :=
  ⟨stop.cause, Position.advance ⟨1, 0⟩ text (byteCount text - stop.unread)⟩

def ReadError.message (e : ReadError) : String :=
  e.cause.message ++ " at line " ++ toString e.position.line ++ " column " ++
    toString e.position.column

end ClauseFilter.Json
