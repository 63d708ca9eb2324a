import ClauseFilter.Fault
import ClauseFilter.Predicate
import ClauseFilter.Text.Alphabetic

/-!
# Patterns

The `wildcard` and `prefix` clauses become `like` expressions. Of the wildcard patterns only those
translate whose single star stands at the end, and only on fields with plain names. The pattern
stands under the field, or in an object there under `value`.
-/

namespace ClauseFilter.Pattern

/-- The pattern under a field. -/
def patternOf (clause field : String) : Json → Except Fault String
  | .obj options => do
    let value ← Json.Members.required options clause "value"
    value.asText clause "value"
  | value => value.asText clause field

/-- Whether a field's name is made of letters and dots. -/
def isPlainName (field : String) : Bool :=
  field.toList ≠ [] && field.toList.all fun c => Text.isAlphabetic c || c == '.'

/-- What stands before the star that ends a pattern. -/
def beforeStar? (pattern : String) : Option String :=
  if pattern.toList.getLast? = some '*' then some (String.ofList pattern.toList.dropLast) else none

/-- A field that is like anything that begins with a text. -/
def like (field start : String) : Predicate :=
  .translated (field ++ " like " ++ start ++ "%")

def translateWildcard (body : Json) : Except Fault Predicate := do
  let members ← body.asObject "wildcard"
  match members.single? with
  | none => return .untranslatable "wildcard len supported = 1" "Invalid wildcard len"
  | some (field, value) =>
    let pattern ← patternOf "wildcard" field value
    if !isPlainName field then
      return .untranslatable "Too hard key for \"wildcard\"" "Invalid wildcard, too hard key"
    else if 1 < pattern.toList.count '*' then
      return .untranslatable "Too hard query_str for \"wildcard\""
        "Invalid wildcard, too hard query_str"
    else
      match beforeStar? pattern with
      | some start => return like field start
      | none =>
        return .untranslatable "easy * should be in the end of wildcard"
          "Invalid wildcard, easy * should be in the end of wildcard"

/-- Whether the value of a `prefix` clause is in one of its two forms. -/
def hasPrefixForm : Json → Bool
  | .obj options => options.length == 1 && Json.Members.has options "value"
  | _ => true

def translatePrefix (body : Json) : Except Fault Predicate := do
  let members ← body.asObject "prefix"
  match members.single? with
  | none => return .untranslatable "prefix len supported = 1" "Invalid prefix len"
  | some (field, value) =>
    if hasPrefixForm value then
      return like field (← patternOf "prefix" field value)
    else return .untranslatable "Invalid prefix" "Invalid prefix"

end ClauseFilter.Pattern
