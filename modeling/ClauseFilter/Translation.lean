import ClauseFilter.Compound.BoolClause
import ClauseFilter.Compound.Wrapper
import ClauseFilter.Leaf.Translation

/-!
# Translation of clause documents

A clause document translates to a predicate, by way of the clauses within it down to a maximum
depth. Clauses below that depth are not looked at. A fault in any clause that is reached ends the
translation, and the whole document then has an untranslatable predicate that tells of the fault.
-/

namespace ClauseFilter

/-- How deep clauses may be nested, and how deep a translation is in its document. -/
structure Env where
  maxDepth : Nat
  depth : Nat
deriving DecidableEq

namespace Env

/-- The environment at the top of a document. -/
def top (maxDepth : Nat) : Env :=
  ⟨maxDepth, 0⟩

/-- The environment one clause further down. -/
def descend (env : Env) : Env :=
  { env with depth := env.depth + 1 }

/-- How many clauses further down may be translated. -/
def remaining (env : Env) : Nat :=
  env.maxDepth - env.depth

end Env

/-- The predicate of a clause below the maximum depth. -/
def tooDeep (maxDepth : Nat) : Predicate :=
  .untranslatable "nesting too deep"
    ("Invalid query, nesting depth exceeds " ++ toString maxDepth)

/-- The predicate of a document with no known key. -/
def notImplemented (keys : List String) : Predicate :=
  .untranslatable "Not implemented yet" ("Invalid query " ++ ",".intercalate keys)

/-- The predicate of a classified clause, given how the clauses within it translate. -/
def Clause.translate (inner : Json → Traced Predicate) : Clause → Traced Predicate
  | .known .bool body _ => BoolClause.translate inner body
  | .known .query body alone => Wrapper.translateQuery inner body alone
  | .known .boosting body _ => Wrapper.boosting.translate inner body
  | .known .constantScore body _ => Wrapper.constantScore.translate inner body
  | .known .disMax body _ => Wrapper.translateDisMax inner body
  | .known .nested body _ => Wrapper.translateNested inner body
  | .known (.leaf l) body _ => Traced.ofExcept (l.translate body)
  | .unknown keys => pure (notImplemented keys)

/-- Translates a clause document when a number of levels are left below the environment. -/
def translateWithin : Nat → Env → Json → Traced Predicate
  | 0, env, _ => do
    Traced.emit (.depthExceeded env.maxDepth)
    return tooDeep env.maxDepth
  | levels + 1, env, document => do
    let members ← document.asObject "clause"
    let clause := Clause.classify members
    Traced.emit (.clause clause.kind? env.descend.depth)
    clause.translate (translateWithin levels env.descend)

/-- Translates a clause document that is held by a clause at the environment's depth. -/
def translateClause (env : Env) (document : Json) : Traced Predicate :=
  translateWithin env.remaining env document

/-- A document is cut off at the maximum depth, and translated by its clause above it. -/
theorem translateClause_eq (env : Env) (document : Json) :
    translateClause env document =
      if env.maxDepth < env.descend.depth then (do
        Traced.emit (.depthExceeded env.maxDepth)
        return tooDeep env.maxDepth)
      else (do
        let members ← document.asObject "clause"
        let clause := Clause.classify members
        Traced.emit (.clause clause.kind? env.descend.depth)
        clause.translate (translateClause env.descend)) := by
  unfold translateClause
  split
  · next h =>
    have : env.remaining = 0 := by simp only [Env.descend, Env.remaining] at *; omega
    rw [this, translateWithin]
  · next h =>
    have : env.remaining = env.descend.remaining + 1 := by
      simp only [Env.descend, Env.remaining] at *; omega
    rw [this, translateWithin]

/-- The maximum depth where none is set. -/
def defaultMaxDepth : Nat :=
  64

/-- A predicate and the events of its translation. -/
structure Translation where
  predicate : Predicate
  events : List Event

/-- Translates a document, a fault in it being told by the predicate. -/
def translate (maxDepth : Nat) (document : Json) : Translation :=
  let traced := translateClause (Env.top maxDepth) document
  match traced.outcome with
  | .ok p => ⟨p, traced.events⟩
  | .error fault =>
    ⟨.untranslatable ("Invalid " ++ fault.message) "Invalid query",
      traced.events ++ [.failed fault document]⟩

end ClauseFilter
