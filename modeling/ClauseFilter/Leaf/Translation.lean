import ClauseFilter.Leaf.Comparison
import ClauseFilter.Leaf.Pattern
import ClauseFilter.Leaf.Range
import ClauseFilter.Leaf.Search

/-!
# Translation of leaf clauses

Every leaf clause translates by itself: to a predicate, or to a fault in its body.
-/

namespace ClauseFilter.Leaf

def translateExistence (body : Json) : Except Fault Predicate := do
  let members ← body.asObject "exists"
  if members.length = 1 then
    let field ← members.required "exists" "field"
    return .translated ("exists " ++ field.render)
  else return .untranslatable "exists len supported = 1" "Invalid exists"

def translateMatchAll (body : Json) : Except Fault Predicate := do
  let members ← body.asObject "match_all"
  if members.isEmpty then return .translated "match_all"
  else return .untranslatable "match_all len supported = 0" "Invalid match_all"

/-- The predicate of a leaf clause with a body. -/
def translate : Leaf → Json → Except Fault Predicate
  | multiMatch => Search.translateMultiMatch
  | range => Range.translate
  | term => Comparison.term.translate
  | terms => Comparison.terms.translate
  | matching => Comparison.matching.translate
  | matchPhrase => Comparison.matchPhrase.translate
  | existence => translateExistence
  | simpleQueryString => Search.translateSimple
  | matchAll => translateMatchAll
  | wildcard => Pattern.translateWildcard
  | beginning => Pattern.translatePrefix
  | queryString => Search.translateQueryString

end ClauseFilter.Leaf
