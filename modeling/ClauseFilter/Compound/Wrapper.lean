import ClauseFilter.Predicate
import ClauseFilter.Trace

/-!
# Clauses around other clauses

Scoring has no place in a filter, so the clauses that wrap others for its sake reduce to what they
wrap, with a note on what is left out. How the wrapped clauses translate is a parameter here.
-/

namespace ClauseFilter

/-- A clause that wraps one other clause for the sake of scoring. -/
structure Wrapper where
  clause : String
  /-- The key that holds the wrapped clause. -/
  key : String
  /-- The note on what is left out. -/
  note : String

namespace Wrapper

/-- Keeps the positive clause and leaves the negative one out. -/
def boosting : Wrapper := ⟨"boosting", "positive", "skipping boosting"⟩

def constantScore : Wrapper := ⟨"constant_score", "filter", "skipping constant score"⟩

variable (inner : Json → Traced Predicate)

def translate (w : Wrapper) (body : Json) : Traced Predicate := do
  let members ← body.asObject w.clause
  let wrapped ← members.required w.clause w.key
  let p ← inner wrapped
  return p.withNote w.note

/-- A `query` clause is what it wraps, and must be the only key of its document. -/
def translateQuery (wrapped : Json) (alone : Bool) : Traced Predicate :=
  if alone then inner wrapped
  else return .untranslatable "Need only 1 query" "Invalid query"

/-- A `nested` clause is what it wraps, and holds a path and nothing else besides. -/
def translateNested (body : Json) : Traced Predicate := do
  let members ← body.asObject "nested"
  match members.length == 2 && members.has "path", members.get? "query" with
  | true, some wrapped => inner wrapped
  | _, _ => return .untranslatable "not supported nested" "Invalid nested"

/-- A `dis_max` clause asks for one of its queries, however ties are broken. -/
def translateDisMax (body : Json) : Traced Predicate := do
  let members ← body.asObject "dis_max"
  let queries ← members.required "dis_max" "queries"
  let documents ← queries.asList "dis_max" "queries"
  let ps ← Traced.each inner documents
  if ps.isEmpty then return .untranslatable "dis_max without queries" "Invalid dis_max"
  else return (Predicate.disj ps).withNote "skipping dis_max"

end Wrapper

end ClauseFilter
