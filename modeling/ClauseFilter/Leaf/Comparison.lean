import ClauseFilter.Clause
import ClauseFilter.Fault
import ClauseFilter.Predicate

/-!
# Comparisons of one field

The clauses that compare a single field with an operand: `term`, `terms`, `match` and
`match_phrase`. The operand stands under the field, or in an object there that holds it under a key
of its own. Such an object may also hold a `boost`, which only bears on scoring; any other option
makes the clause untranslatable.
-/

namespace ClauseFilter

/-- A way to compare a field. -/
structure Comparison where
  clause : String
  /-- The key that holds the operand in the long form. -/
  operandKey : String
  /-- What stands between the field and the operand in the filter text. -/
  relation : String
  /-- What is said of a body that does not have exactly one field. -/
  oneField : String

namespace Comparison

def term : Comparison := ⟨"term", "value", "=", "term len should be 1"⟩

def terms : Comparison := ⟨"terms", "value", "=", "terms len should be 1"⟩

def matching : Comparison := ⟨"match", "query", "matches", "match len supported = 1"⟩

def matchPhrase : Comparison :=
  ⟨"match_phrase", "query", "match_phrases", "match_phrase len supported = 1"⟩

/-- The operand under a field, unless there are options that are not understood. -/
def operand? (c : Comparison) : Json → Option Json
  | .obj options =>
    if (Json.Members.keys options).all fun option => option == c.operandKey || option == "boost" then
      Json.Members.get? options c.operandKey
    else none
  | value => some value

/-- What the note on a comparison that cannot be translated says. -/
def invalid (c : Comparison) : String :=
  "Invalid " ++ c.clause

def translate (c : Comparison) (body : Json) : Except Fault Predicate := do
  let members ← body.asObject c.clause
  match members.single? with
  | none => return .untranslatable c.oneField c.invalid
  | some (field, value) =>
    match c.operand? value with
    | none => return .untranslatable (c.clause ++ " options not supported") c.invalid
    | some operand =>
      return .translated (field ++ " " ++ c.relation ++ " " ++ operand.render)

end Comparison

end ClauseFilter
