import ClauseFilter.Json.Reader

/-!
# Reading typed values

Readers of texts, booleans, bounded numbers, lists and records. A record is written as an object
with its fields in any order, among members that do not matter, or as an array of its fields in
their order; no field may come twice and no required one may be missing. The first problem in
reading order wins, so a value of the wrong type stops the reader before a later slip of grammar.
-/

namespace ClauseFilter.Json.Reader

variable {α σ : Type}

def foundNumber : Number → Found
  | .int n _ => .integer n
  | .float x => .float x

/-- Stops at the value that is next because it is not of the expected type. A scalar is read first,
an array or object is not entered. -/
def unexpected (expected : String) : Reader α := do
  match ← next? with
  | none => stop (.endOfText .value)
  | some 'n' =>
    word "null".toList
    stop (.unexpectedType .null expected)
  | some 't' =>
    word "true".toList
    stop (.unexpectedType (.boolean true) expected)
  | some 'f' =>
    word "false".toList
    stop (.unexpectedType (.boolean false) expected)
  | some '"' =>
    let s ← string
    stop (.unexpectedType (.string s) expected)
  | some '[' => stop (.unexpectedType .sequence expected)
  | some '{' => stop (.unexpectedType .map expected)
  | some c =>
    if c = '-' || c.isDigit then
      let n ← number
      stop (.unexpectedType (foundNumber n) expected)
    else stopAtNext .valueDue

/-- Reads a text. -/
def text (expected : String) : Reader String := do
  match ← next? with
  | some '"' => string
  | _ => unexpected expected

def boolean : Reader Bool := do
  match ← next? with
  | some 't' =>
    word "true".toList
    pure true
  | some 'f' =>
    word "false".toList
    pure false
  | _ => unexpected "a boolean"

/-- Reads a whole number from 0 up to below a bound. -/
def natural (bound : Nat) (expected : String) : Reader Nat := do
  match ← next? with
  | some c =>
    if c = '-' || c.isDigit then
      match ← number with
      | .int n _ =>
        if 0 ≤ n ∧ n < bound then pure n.toNat else stop (.unexpectedInteger n expected)
      | .float x => stop (.unexpectedType (.float x) expected)
    else unexpected expected
  | none => unexpected expected

/-- Reads `null` as nothing, and everything else with the reader. -/
def optional (reader : Reader α) : Reader (Option α) := do
  match ← next? with
  | some 'n' =>
    word "null".toList
    pure none
  | _ => return some (← reader)

def list (item : Reader α) : Reader (List α) := do
  match ← next? with
  | some '[' => items .use (fun read => do return read ++ [← item]) []
  | _ => unexpected "a sequence"

/-- A field of a record that is built up in `σ`. -/
structure Field (σ : Type) where
  name : String
  required : Bool
  /-- Reads the field's value and sets it. -/
  read : σ → Reader σ

/-- The fields of a record, in order, and what messages call it. -/
structure Shape (σ : Type) where
  title : String
  fields : List (Field σ)

namespace Shape

/-- Stops after the spacing that is next, and after the closing bracket if one follows it. -/
def stopSettled (cause : Cause) (closing : Char) : Reader α :=
  fun text =>
    let rest := text.dropWhile isSpacing
    .error ⟨cause, byteCount (if rest.head? = some closing then rest.tail else rest)⟩

/-- Reads one member of an object. The state holds the names of the fields read so far. -/
def member (shape : Shape σ) (state : σ × List String) : Reader (σ × List String) := do
  let key ← string
  match shape.fields.find? (fun field => field.name == key) with
  | none =>
    colon
    skip
    pure state
  | some field =>
    if state.2.contains key then stopSettled (.duplicateField key) '}'
    else
      colon
      return (← field.read state.1, key :: state.2)

/-- Reads a record written as an object. -/
def readObject (shape : Shape σ) (start : σ) : Reader σ := do
  let (record, seen) ← members .use shape.member (start, [])
  match shape.fields.find? (fun field => field.required && !seen.contains field.name) with
  | some field => stop (.missingField field.name)
  | none => pure record

/-- Takes the closing bracket of an array that has had an item for every field. -/
def closeArray : Reader Unit := do
  match ← next? with
  | none => stop (.endOfText .list)
  | some ']' => advance
  | some ',' =>
    advance
    if (← next?) = some ']' then stopAtNext .trailingComma else stopAtNext .trailingCharacters
  | some _ => stopAtNext .trailingCharacters

/-- Reads the fields that are left of a record written as an array, after `count` of them. -/
def readItems (shape : Shape σ) : List (Field σ) → Nat → σ → Reader σ
  | [], _, record => do
    closeArray
    pure record
  | field :: fields, count, record => do
    if ← nextItem .use (count == 0) then
      readItems shape fields (count + 1) (← field.read record)
    else
      advance
      match (field :: fields).findIdx? Field.required with
      | none => pure record
      | some more =>
        stop (.unexpectedLength (count + more)
          (shape.title ++ " with " ++ toString shape.fields.length ++ " elements"))

/-- Reads a record, `start` being the record with no field set. -/
def read (shape : Shape σ) (start : σ) : Reader σ := do
  match ← next? with
  | some '[' =>
    advance
    shape.readItems shape.fields 0 start
  | some '{' => shape.readObject start
  | _ => unexpected shape.title

end Shape

end ClauseFilter.Json.Reader
