import ClauseFilter.Json.Basic

/-!
# Structural faults

A fault is a document whose shape breaks an assumption that its clauses make. A clause that is well
formed but not supported is no fault: it has an untranslatable predicate. Here are the faults, the
ways to look into a document that may end in one, and what a result says of the steps that led to
it.
-/

namespace ClauseFilter

/-- What a clause may ask of the value under one of its keys. -/
inductive Expected where
  | text
  | list
  | clauses
deriving DecidableEq

def Expected.phrase : Expected → String
  | text => "a string"
  | list => "an array"
  | clauses => "a clause or a list of clauses"

inductive Fault where
  | notAnObject (context : String) (found : Json.Kind)
  | missingKey (clause key : String)
  | unexpectedType (clause key : String) (expected : Expected) (found : Json.Kind)
deriving DecidableEq

def Fault.message : Fault → String
  | notAnObject context found => context ++ " must be an object, got " ++ found.phrase
  | missingKey clause key => clause ++ " is missing '" ++ key ++ "'"
  | unexpectedType clause key expected found =>
    "'" ++ key ++ "' of " ++ clause ++ " must be " ++ expected.phrase ++ ", got " ++ found.phrase

namespace Json

/-- The members of an object that is called `context`. -/
def asObject (context : String) : Json → Except Fault Members
  | .obj members => .ok members
  | value => .error (.notAnObject context value.kind)

/-- The string under a key of a clause. -/
def asText (clause key : String) : Json → Except Fault String
  | .str s => .ok s
  | value => .error (.unexpectedType clause key .text value.kind)

/-- The items of the array under a key of a clause. -/
def asList (clause key : String) : Json → Except Fault (List Json)
  | .arr items => .ok items
  | value => .error (.unexpectedType clause key .list value.kind)

/-- The clauses under a key of a clause, one document standing for a list of itself. -/
def asClauses (clause key : String) : Json → Except Fault (List Json)
  | .arr items => .ok items
  | .obj members => .ok [.obj members]
  | value => .error (.unexpectedType clause key .clauses value.kind)

/-- The value of a key that a clause cannot do without. -/
def Members.required (members : Members) (clause key : String) : Except Fault Json :=
  match members.get? key with
  | some value => .ok value
  | none => .error (.missingKey clause key)

end Json

/-! ## Steps that may fail -/

/-- A step that is taken after another has a result when both have one. -/
theorem ok_of_bind {ε α β : Type} {x : Except ε α} {f : α → Except ε β} {b : β}
    (h : (x >>= f) = .ok b) : ∃ a, x = .ok a ∧ f a = .ok b := by
  cases x with
  | error e => contradiction
  | ok a => exact ⟨a, rfl, h⟩

end ClauseFilter
