import ClauseFilter.Fault
import ClauseFilter.Predicate
import ClauseFilter.Text.Alphabetic
import ClauseFilter.Text.Numeric

/-!
# Searches for words

The clauses that search fields for words: `multi_match`, `query_string` and `simple_query_string`.
Of the last only the easy ones translate: a single plain field, or every field, searched for plain
words.
-/

namespace ClauseFilter.Search

/-- Only the default type of a `multi_match` is supported. -/
def translateMultiMatch (body : Json) : Except Fault Predicate := do
  let members ← body.asObject "multi_match"
  let supported :=
    match members.get? "type" with
    | none => true
    | some (.str type) => type == "best_fields"
    | some _ => false
  if supported then
    let query ← members.required "multi_match" "query"
    return .translated ("any_field contains " ++ query.render)
  else return .untranslatable "Not implemented" "Invalid multi_match"

def translateQueryString (body : Json) : Except Fault Predicate := do
  let members ← body.asObject "query_string"
  let field := ((members.get? "default_field").map Json.render).getD "*"
  let query ← members.required "query_string" "query"
  return .translated (field ++ " queries " ++ query.render)

/-! ## Simple query strings -/

/-- Whether a field's name is made of letters, hyphens, dots and underscores. -/
def isPlainField (field : String) : Bool :=
  field.toList.all fun c => Text.isAlphabetic c || c == '-' || c == '.' || c == '_'

/-- Whether a query is made of letters, numbers, underscores, spaces and hyphens. -/
def isPlainQuery (query : String) : Bool :=
  query.toList.all fun c =>
    Text.isAlphabetic c || Text.isNumeric c || c == '_' || c == ' ' || c == '-'

/-- The keys without which a simple query string cannot be read. -/
def requiredKeys : List String :=
  ["query", "fields", "default_operator"]

/-- The predicate of a simple query string that is rejected for a reason. -/
def rejected (reason : String) : Predicate :=
  .untranslatable reason "Invalid simple_query_string"

/-- The predicate of a query and the fields that are searched for it. Being lenient is only
understood when every field is searched. -/
def easy (query : String) (fields : List String) (lenient : Bool) : Predicate :=
  let all := Predicate.translated ("all_fields " ++ query)
  let hard := Predicate.untranslatable "\"hard\" simple_query_string not supported"
    "\"Hard\" simple_query_string"
  match fields with
  | [] => all
  | [field] =>
    if (lenient || isPlainField field) && isPlainQuery query then
      .translated (field ++ " queries " ++ query)
    else if field = "*" then all
    else hard
  | _ => hard

/-- Translates the members of a simple query string that has all required keys. -/
def translateKeyed (members : Json.Members) : Except Fault Predicate := do
  let query ← (← members.required "simple_query_string" "query").asText
    "simple_query_string" "query"
  let items ← (← members.required "simple_query_string" "fields").asList
    "simple_query_string" "fields"
  let fields ← items.mapM (Json.asText "simple_query_string" "fields")
  if members.length = 4 then
    if !members.has "lenient" then return rejected "simple_query_string lack of lenient"
    else if fields.head? ≠ some "*" then return rejected "lenient + hard simple_query_string"
    else return easy query fields true
  else return easy query fields false

def translateSimple (body : Json) : Except Fault Predicate := do
  let members ← body.asObject "simple_query_string"
  if members.length ≠ 3 ∧ members.length ≠ 4 then
    return rejected "simple_query_string len supported = 3 or 4"
  else
    match requiredKeys.find? fun key => !members.has key with
    | some key => return rejected ("simple_query_string lack of " ++ key)
    | none => translateKeyed members

end ClauseFilter.Search
