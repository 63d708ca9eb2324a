import ClauseFilter.Fault
import ClauseFilter.Predicate

/-!
# Ranges

A `range` clause bounds one field. Its bounds become comparisons in a fixed order, joined by `AND`;
a `format` annotates them and bounds nothing itself.
-/

namespace ClauseFilter.Range

/-- The keys of the bounds and their comparison signs, in the order they are written. -/
def bounds : List (String × String) :=
  [("gte", ">="), ("gt", ">"), ("lt", "<"), ("lte", "<=")]

/-- The comparisons of a field with the bounds that are given. -/
def comparisons (field : String) (given : Json.Members) : List String :=
  bounds.filterMap fun (key, sign) =>
    (given.get? key).map fun bound => field ++ " " ++ sign ++ " " ++ bound.render

/-- The filter text of a bounded field, or `none` when there is nothing to say of it. -/
def expression? (field : String) (given : Json.Members) : Option String :=
  let compared := comparisons field given
  match compared.isEmpty, given.get? "format" with
  | true, none => none
  | true, some format => some (field ++ " in format " ++ format.render)
  | false, none => some (" AND ".intercalate compared)
  | false, some format => some (" AND ".intercalate compared ++ " in format " ++ format.render)

def translate (body : Json) : Except Fault Predicate := do
  let members ← body.asObject "range"
  match members with
  | [] => return .untranslatable "Invalid" "Invalid range, lack of key"
  | [(field, value)] =>
    let given ← value.asObject "range bounds"
    match expression? field given with
    | none => return .untranslatable (field ++ " without bounds") "Invalid range, lack of bound"
    | some expression => return .translated ("(" ++ expression ++ ")")
  | _ => return .untranslatable "range len supported = 1" "Invalid range len"

end ClauseFilter.Range
