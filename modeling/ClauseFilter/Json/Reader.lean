import ClauseFilter.Json.Basic
import ClauseFilter.Json.Stop
import ClauseFilter.Text.Numeric

/-!
# Reading JSON text

A reader takes characters from the front of a text and gives a result and the rest, or stops. Here
are the readers of the parts that values are made of: words, strings, numbers, and the brackets and
commas of arrays and objects. Each of them is read to be used or to be skipped; what is skipped is
held to the grammar, but a skipped number may be of any size and a skipped string may hold
surrogates without a partner.
-/

namespace ClauseFilter.Json

/-- Takes a result from the front of a text, or stops. -/
abbrev Reader := StateT (List Char) (Except Stop)

/-- Whether what is read will be used. -/
inductive Purpose where
  | use
  | skip
deriving DecidableEq

namespace Reader

variable {α σ : Type}

/-- Stops at what has been read. -/
def stop (cause : Cause) : Reader α :=
  fun text => .error ⟨cause, byteCount text⟩

/-- Stops because of the next byte, which is then counted as read. -/
def stopAtNext (cause : Cause) : Reader α :=
  fun text => .error ⟨cause, byteCount text - 1⟩

def peek : Reader (Option Char) :=
  fun text => .ok (text.head?, text)

def advance : Reader Unit :=
  fun text => .ok ((), text.tail)

/-- Whether a character may stand between the parts of a JSON text. -/
def isSpacing (c : Char) : Bool :=
  c == ' ' || c == '\n' || c == '\t' || c == '\r'

/-- The next character that is not spacing, which stays in the text. -/
def next? : Reader (Option Char) :=
  fun text =>
    let rest := text.dropWhile isSpacing
    .ok (rest.head?, rest)

/-- The number of characters that are left. -/
def remaining : Reader Nat :=
  fun text => .ok (text.length, text)

/-- Takes the letters of a word. -/
def word : List Char → Reader Unit
  | [], text => .ok ((), text)
  | _ :: _, [] => .error ⟨.endOfText .value, 0⟩
  | letter :: letters, c :: rest =>
    if c = letter then word letters rest else .error ⟨.letterDue, byteCount (c :: rest) - 1⟩

/-! ## Strings -/

def hexValue? (c : Char) : Option Nat :=
  if c.isDigit then some (c.toNat - '0'.toNat)
  else if 'a' ≤ c ∧ c ≤ 'f' then some (c.toNat - 'a'.toNat + 10)
  else if 'A' ≤ c ∧ c ≤ 'F' then some (c.toNat - 'A'.toNat + 10)
  else none

/-- The number that the first four characters of a text stand for in base sixteen. -/
def hexQuad (text : List Char) : Except Stop Nat :=
  match (text.take 4).mapM hexValue? with
  | some [a, b, c, d] => .ok (((a * 16 + b) * 16 + c) * 16 + d)
  | _ =>
    if byteCount text < 4 then .error ⟨.endOfText .string, 0⟩
    else .error ⟨.invalidEscape, byteCount text - 4⟩

def isFirstSurrogate (n : Nat) : Bool :=
  0xD800 ≤ n && n ≤ 0xDBFF

def isSecondSurrogate (n : Nat) : Bool :=
  0xDC00 ≤ n && n ≤ 0xDFFF

/-- The second half of a pair of escaped surrogates, given the text after the first half: the
character of both. -/
def surrogatePair (first : Nat) : List Char → Except Stop Char
  | [] => .error ⟨.endOfText .string, 0⟩
  | '\\' :: [] => .error ⟨.endOfText .string, 0⟩
  | '\\' :: 'u' :: rest => do
    let second ← hexQuad rest
    if isSecondSurrogate second then
      .ok (Char.ofNat ((first - 0xD800) * 0x400 + (second - 0xDC00) + 0x10000))
    else .error ⟨.loneSurrogate, byteCount (rest.drop 4)⟩
  | '\\' :: rest => .error ⟨.unfinishedSurrogate, byteCount rest - 1⟩
  | rest => .error ⟨.unfinishedSurrogate, byteCount rest - 1⟩

/-- The character that an escape stands for and the length of the escape, given the text after its
backslash. -/
def escape : List Char → Except Stop (Char × Nat)
  | [] => .error ⟨.endOfText .string, 0⟩
  | '"' :: _ => .ok ('"', 1)
  | '\\' :: _ => .ok ('\\', 1)
  | '/' :: _ => .ok ('/', 1)
  | 'b' :: _ => .ok ('\x08', 1)
  | 'f' :: _ => .ok ('\x0c', 1)
  | 'n' :: _ => .ok ('\n', 1)
  | 'r' :: _ => .ok ('\r', 1)
  | 't' :: _ => .ok ('\t', 1)
  | 'u' :: rest => do
    let code ← hexQuad rest
    if isSecondSurrogate code then .error ⟨.loneSurrogate, byteCount (rest.drop 4)⟩
    else if isFirstSurrogate code then
      let c ← surrogatePair code (rest.drop 4)
      .ok (c, 11)
    else .ok (Char.ofNat code, 5)
  | text => .error ⟨.invalidEscape, byteCount text - 1⟩

/-- The length of an escape that is skipped. -/
def escapeLength : List Char → Except Stop Nat
  | 'u' :: rest => do
    let _ ← hexQuad rest
    .ok 5
  | text => (escape text).map Prod.snd

/-- The characters of a string up to its closing quote. The first `n` characters of the text belong
to an escape that has been read. -/
def stringRest : Nat → List Char → Except Stop (List Char × List Char)
  | _, [] => .error ⟨.endOfText .string, 0⟩
  | n + 1, _ :: rest => stringRest n rest
  | 0, c :: rest =>
    if c = '"' then .ok ([], rest)
    else if c = '\\' then do
      let (decoded, length) ← escape rest
      let (chars, after) ← stringRest length rest
      .ok (decoded :: chars, after)
    else if c.toNat < 0x20 then .error ⟨.controlCharacter, byteCount rest⟩
    else do
      let (chars, after) ← stringRest 0 rest
      .ok (c :: chars, after)

/-- The text after a string that is skipped up to its closing quote. -/
def skipStringRest : Nat → List Char → Except Stop (List Char)
  | _, [] => .error ⟨.endOfText .string, 0⟩
  | n + 1, _ :: rest => skipStringRest n rest
  | 0, c :: rest =>
    if c = '"' then .ok rest
    else if c = '\\' then do
      let length ← escapeLength rest
      skipStringRest length rest
    else if c.toNat < 0x20 then .error ⟨.controlCharacter, byteCount (c :: rest)⟩
    else skipStringRest 0 rest

/-- Reads a string from its opening quote on. -/
def string : Reader String :=
  fun text => do
    let (chars, rest) ← stringRest 0 text.tail
    .ok (String.ofList chars, rest)

/-- Skips a string from its opening quote on. -/
def skipString : Reader Unit :=
  fun text => do
    let rest ← skipStringRest 0 text.tail
    .ok ((), rest)

/-! ## Numbers -/

/-- The parts of a written number. -/
structure Numeral where
  negative : Bool
  whole : List Char
  fraction : Option (List Char)
  /-- The sign and the digits of the exponent. -/
  exponent : Option (Bool × List Char)

/-- Takes at least one digit. -/
def digits (purpose : Purpose) : Reader (List Char) :=
  fun text =>
    match Text.takeDigits text with
    | ([], []) =>
      .error ⟨if purpose = .use then .endOfText .value else .invalidNumber, 0⟩
    | ([], _) => .error ⟨.invalidNumber, byteCount text - 1⟩
    | (run, rest) => .ok (run, rest)

/-- Takes the digits before the point, among which a leading zero stands alone. -/
def wholeDigits (purpose : Purpose) : Reader (List Char) := do
  if (← peek) = some '0' then
    advance
    match ← peek with
    | some c => if c.isDigit then stopAtNext .invalidNumber else pure ['0']
    | none => pure ['0']
  else digits purpose

/-- Takes a minus sign, if one is next, and tells whether there was one. -/
def minus : Reader Bool := do
  if (← peek) = some '-' then
    advance
    pure true
  else pure false

/-- Takes a point and the digits after it, if a point is next. -/
def fraction (purpose : Purpose) : Reader (Option (List Char)) := do
  if (← peek) = some '.' then
    advance
    return some (← digits purpose)
  else pure none

/-- Takes the sign of an exponent, and tells whether it is a minus. -/
def exponentSign : Reader Bool := do
  if (← peek) = some '+' then
    advance
    pure false
  else minus

/-- Takes the mark, the sign and the digits of an exponent, if the mark is next. -/
def exponent (purpose : Purpose) : Reader (Option (Bool × List Char)) := do
  let mark ← peek
  if mark = some 'e' ∨ mark = some 'E' then
    advance
    let negative ← exponentSign
    return some (negative, ← digits purpose)
  else pure none

/-- Takes a number, from its sign or first digit on. -/
def numeral (purpose : Purpose) : Reader Numeral := do
  return {
    negative := ← minus
    whole := ← wholeDigits purpose
    fraction := ← fraction purpose
    exponent := ← exponent purpose }

/-- The number of digits after the one with which the value of the digits passes a limit. -/
def digitsPast (limit : Nat) : Nat → List Char → Nat
  | _, [] => 0
  | value, c :: rest =>
    let value := 10 * value + (c.toNat - '0'.toNat)
    if limit < value then rest.length else digitsPast limit value rest

namespace Numeral

/-- The exponent of the last digit. -/
def power (n : Numeral) : Int :=
  let written : Int :=
    match n.exponent with
    | none => 0
    | some (true, digits) => -(Text.digitsValue digits : Int)
    | some (false, digits) => Text.digitsValue digits
  written - (n.fraction.getD []).length

/-- The float nearest to a number, or `none` past the greatest float. Here the rounding is always
correct, while a JSON reader may promise no more than a float near the number and then read the
number `0.9999999999999999` as 1. What is proved does not depend on which of the floats near a
number is read. -/
def float? (n : Numeral) : Option Number :=
  (Binary64.ofDecimal? n.negative (Text.digitsValue (n.whole ++ n.fraction.getD [])) n.power).map
    Number.float

/-- The value of a number: exact when it is written as a whole number that fits into 64 bits, the
sign of a negative one included, and the nearest float otherwise. A negative zero is a float. -/
def value? (n : Numeral) : Option Number :=
  if n.fraction.isSome || n.exponent.isSome then n.float?
  else
    let size := Text.digitsValue n.whole
    if n.negative then
      if h : 0 < size ∧ size ≤ 1 <<< 63 then some (.int (-size) (by omega)) else n.float?
    else if h : size < 1 <<< 64 then some (.int size (by omega))
    else n.float?

/-- How many of the exponent's digits come after the one that decides that it is out of range. -/
def overrun (n : Numeral) : Nat :=
  match n.exponent with
  | some (_, digits) => digitsPast ((1 <<< 31) - 1) 0 digits
  | none => 0

end Numeral

/-- Reads a number, from its sign or first digit on. -/
def number : Reader Number := do
  let n ← numeral .use
  match n.value? with
  | some value => pure value
  | none => fun text => .error ⟨.numberOutOfRange, byteCount text + n.overrun⟩

/-! ## Arrays and objects -/

/-- Whether an array has an item, or another one. Its closing bracket stays in the text. -/
def nextItem (purpose : Purpose) (first : Bool) : Reader Bool := do
  match ← next? with
  | none => stop (.endOfText .list)
  | some ']' => pure false
  | some c =>
    if first then pure true
    else if c = ',' then
      advance
      match purpose with
      | .skip => pure true
      | .use =>
        match ← next? with
        | none => stop (.endOfText .value)
        | some ']' => stopAtNext .trailingComma
        | some _ => pure true
    else stopAtNext .itemEndDue

/-- Whether an object has a member, or another one. Its closing bracket, or the opening quote of the
member's key, stays in the text. -/
def nextMember (purpose : Purpose) (first : Bool) : Reader Bool := do
  match ← next? with
  | none => stop (.endOfText .object)
  | some '}' => pure false
  | some c =>
    if first then
      if c = '"' then pure true else stopAtNext .keyDue
    else if c = ',' then
      advance
      match ← next? with
      | none => stop (.endOfText (if purpose = .use then .value else .object))
      | some '"' => pure true
      | some '}' => stopAtNext (if purpose = .use then .trailingComma else .keyDue)
      | some _ => stopAtNext .keyDue
    else stopAtNext .memberEndDue

/-- Takes the colon after a key. -/
def colon : Reader Unit := do
  match ← next? with
  | none => stop (.endOfText .object)
  | some ':' => advance
  | some _ => stopAtNext .colonDue

/-- Reads the items of an array up to its closing bracket, at most `n - 1` of them. -/
def itemsWithin (purpose : Purpose) (item : σ → Reader σ) : Nat → Bool → σ → Reader σ
  | 0, _, _ => stop (.endOfText .list)
  | n + 1, first, acc => do
    if ← nextItem purpose first then
      itemsWithin purpose item n false (← item acc)
    else
      advance
      pure acc

/-- Reads an array from its opening bracket on. Every item takes at least one character, so the text
bounds their number. -/
def items (purpose : Purpose) (item : σ → Reader σ) (start : σ) : Reader σ := do
  advance
  itemsWithin purpose item ((← remaining) + 1) true start

/-- Reads the members of an object up to its closing bracket, at most `n - 1` of them. Each is read
from its key on. -/
def membersWithin (purpose : Purpose) (member : σ → Reader σ) : Nat → Bool → σ → Reader σ
  | 0, _, _ => stop (.endOfText .object)
  | n + 1, first, acc => do
    if ← nextMember purpose first then
      membersWithin purpose member n false (← member acc)
    else
      advance
      pure acc

/-- Reads an object from its opening bracket on. -/
def members (purpose : Purpose) (member : σ → Reader σ) (start : σ) : Reader σ := do
  advance
  membersWithin purpose member ((← remaining) + 1) true start

/-! ## Whole values -/

/-- Skips a value whose brackets are nested less than `n` deep. -/
def skipWithin : Nat → Reader Unit
  | 0 => stop (.endOfText .value)
  | n + 1 => do
    match ← next? with
    | none => stop (.endOfText .value)
    | some 'n' => word "null".toList
    | some 't' => word "true".toList
    | some 'f' => word "false".toList
    | some '"' => skipString
    | some '[' => items .skip (fun _ => skipWithin n) ()
    | some '{' =>
      members .skip (fun _ => do
        skipString
        colon
        skipWithin n) ()
    | some c =>
      if c = '-' || c.isDigit then discard (numeral .skip) else stopAtNext .valueDue

/-- Skips a value. -/
def skip : Reader Unit := do
  skipWithin ((← remaining) + 1)

/-- Reads a value whose brackets are nested less than `n` deep. -/
def valueWithin : Nat → Reader Json
  | 0 => stop (.endOfText .value)
  | n + 1 => do
    match ← next? with
    | none => stop (.endOfText .value)
    | some 'n' =>
      word "null".toList
      pure .null
    | some 't' =>
      word "true".toList
      pure (.bool true)
    | some 'f' =>
      word "false".toList
      pure (.bool false)
    | some '"' => return .str (← string)
    | some '[' => return .arr (← items .use (fun read => do return read ++ [← valueWithin n]) [])
    | some '{' =>
      return .obj (← members .use (fun read => do
        let key ← string
        colon
        return Members.insert read key (← valueWithin n)) [])
    | some c =>
      if c = '-' || c.isDigit then return .num (← number) else stopAtNext .valueDue

/-- Reads a value. -/
def value : Reader Json := do
  valueWithin ((← remaining) + 1)

/-- Reads a text that holds what the reader reads and nothing else but spacing. -/
def run (reader : Reader α) (text : String) : Except ReadError α :=
  let whole := do
    let result ← reader
    match ← next? with
    | none => pure result
    | some _ => stopAtNext .trailingCharacters
  match whole text.toList with
  | .ok (result, _) => .ok result
  | .error e => .error (.ofStop text.toList e)

end Reader

/-- Reads a JSON text. -/
def parse (text : String) : Except ReadError Json :=
  Reader.value.run text

end ClauseFilter.Json
