import ClauseFilter.Compound.Minimum
import ClauseFilter.Predicate
import ClauseFilter.Trace

/-!
# Boolean combinations

A `bool` clause asks for all of its `must` and `filter` clauses, for some of its `should` clauses if
the minimum in effect is 1 and there are any, and for none of its `must_not` clauses. How the
clauses within it translate is a parameter here.
-/

namespace ClauseFilter

namespace Predicate

/-- The condition that one of the predicates holds, if there are any. -/
def someOf : List Predicate → List Predicate
  | [] => []
  | ps => [disj ps]

/-- The condition that none of the predicates holds, if there are any. -/
def noneOf : List Predicate → List Predicate
  | [] => []
  | ps => [neg (disj ps)]

/-- The predicate marked as not faithful, by a note put among its notes. -/
def demoted (p : Predicate) (position : Nat) (note : String) : Predicate :=
  { p with translatable := false, notes := p.notes.insertIdx position note }

end Predicate

namespace BoolClause

variable (inner : Json → Traced Predicate)

/-- Translates the clauses under a key of a `bool` clause. A missing key holds none. -/
def clausesAt (members : Json.Members) (key : String) : Traced (List Predicate) :=
  match members.get? key with
  | none => pure []
  | some value => do
    let documents ← value.asClauses "bool" key
    Traced.each inner documents

/-- The note on a minimum that is not honoured. -/
def ignoredNote (value : Json) : String :=
  "skipping minimum_should_match " ++ value.render ++ ", assuming 1"

/-- The number of notes of all predicates together. -/
def noteCount (ps : List Predicate) : Nat :=
  (ps.flatMap Predicate.notes).length

/-- Puts the translated clauses together. The note on an ignored minimum comes after those of the
required clauses. -/
def combine (required should mustNot : List Predicate) (ignored : Option Json) : Predicate :=
  let whole := Predicate.conj (required ++ Predicate.someOf should ++ Predicate.noneOf mustNot)
  match ignored with
  | none => whole
  | some value => whole.demoted (noteCount required) (ignoredNote value)

def translate (body : Json) : Traced Predicate := do
  let members ← body.asObject "bool"
  let must ← clausesAt inner members "must"
  let filter ← clausesAt inner members "filter"
  let required := must ++ filter
  let (minimum, ignored) :=
    Minimum.effective (members.get? "minimum_should_match") required.length
  let should ← if minimum = .one then clausesAt inner members "should" else pure []
  let mustNot ← clausesAt inner members "must_not"
  return combine required should mustNot ignored

end BoolClause

end ClauseFilter
