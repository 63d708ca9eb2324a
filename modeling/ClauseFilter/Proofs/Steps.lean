import ClauseFilter.Proofs.Parts

/-!
# Steps of a translation

A translation takes one step after the other: it looks at a value of the document, which may be
faulty, or it tells an event. Here the steps of a document are listed in the order in which they
are taken (`Json.steps`), without regard to the faults among them. Only the steps up to the first
fault are reached.
-/

namespace ClauseFilter

/-! ## Steps -/

namespace Json

/-- What leads from a value to one that it holds. -/
inductive Access where
  | member (key : String)
  | item (index : Nat)
deriving DecidableEq

/-- What leads from a document to a value in it. -/
abbrev Pointer := List Access

end Json

inductive Step where
  /-- A look at the value to which a pointer leads, and what is faulty about it. -/
  | look (pointer : Json.Pointer) (fault : Option Fault)
  | tell (event : Event)

namespace Step

def fault? : Step → Option Fault
  | look _ fault => fault
  | tell _ => none

def event? : Step → Option Event
  | look _ _ => none
  | tell e => some e

/-- The step in a document that holds the value in which it is a step. -/
def under (access : Json.Access) : Step → Step
  | look pointer fault => look (access :: pointer) fault
  | tell e => tell e

/-- The first fault among steps. -/
def firstFault (steps : List Step) : Option Fault :=
  steps.findSome? fault?

/-- The steps up to the first that finds a fault. -/
def reached : List Step → List Step
  | [] => []
  | s :: rest => if s.fault?.isSome then [s] else s :: reached rest

/-- The steps into the value under a key, if there is one. -/
def within (key : String) (into : Json → List Step) (body : Json) : List Step :=
  match body.members.get? key with
  | none => []
  | some value => (into value).map (under (.member key))

/-- The steps into the value of the only member, if there is only one. -/
def withinOnly (into : String → Json → List Step) (body : Json) : List Step :=
  match body.members.single? with
  | none => []
  | some (key, value) => (into key value).map (under (.member key))

/-- The steps into items, one after the other. -/
def through (into : Json → List Step) : Nat → List Json → List Step
  | _, [] => []
  | index, value :: rest => (into value).map (under (.item index)) ++ through into (index + 1) rest

end Step

/-! ## Faults of single values -/

/-- The kinds of values that are as expected. -/
def Expected.kinds : Expected → List Json.Kind
  | text => [.string]
  | list => [.array]
  | clauses => [.array, .object]

namespace Json

/-- The items of an array. No other value has any. -/
def items : Json → List Json
  | .arr items => items
  | _ => []

def objectFault (context : String) (value : Json) : Option Fault :=
  if value.kind = .object then none else some (.notAnObject context value.kind)

def keyFault (clause key : String) (body : Json) : Option Fault :=
  if body.members.has key then none else some (.missingKey clause key)

def typeFault (clause key : String) (expected : Expected) (value : Json) : Option Fault :=
  if value.kind ∈ expected.kinds then none
  else some (.unexpectedType clause key expected value.kind)

/-- The single step that looks whether a value is a text. -/
def textSteps (clause key : String) (value : Json) : List Step :=
  [.look [] (value.typeFault clause key .text)]

/-- The single step that looks at a value, which may be any. -/
def freeSteps (_ : Json) : List Step :=
  [.look [] none]

end Json

/-! ## Steps of leaf clauses -/

open Step Json

/-- Whether a `multi_match` clause has the type that is supported. -/
def Search.hasDefaultType (body : Json) : Bool :=
  match body.members.get? "type" with
  | none => true
  | some (.str type) => type == "best_fields"
  | some _ => false

def Search.multiMatchSteps (body : Json) : List Step :=
  within "type" freeSteps body ++
    if hasDefaultType body then [.look [] (body.keyFault "multi_match" "query")] else []

def Search.queryStringSteps (body : Json) : List Step :=
  [.look [] (body.keyFault "query_string" "query")]

/-- Whether a simple query string has the keys without which it cannot be read. -/
def Search.IsKeyed (body : Json) : Prop :=
  (body.members.length = 3 ∨ body.members.length = 4) ∧
    ∀ key ∈ requiredKeys, body.members.has key = true

instance (body : Json) : Decidable (Search.IsKeyed body) :=
  inferInstanceAs (Decidable (_ ∧ _))

/-- The names of the searched fields are looked at one after the other. -/
def Search.fieldsSteps (value : Json) : List Step :=
  .look [] (value.typeFault "simple_query_string" "fields" .list) ::
    through (textSteps "simple_query_string" "fields") 0 value.items

def Search.simpleSteps (body : Json) : List Step :=
  if IsKeyed body then
    within "query" (textSteps "simple_query_string" "query") body ++
      within "fields" fieldsSteps body
  else []

def Range.steps (body : Json) : List Step :=
  withinOnly (fun _ value => [.look [] (value.objectFault "range bounds")]) body

/-- What is faulty about the value under a field, which is a pattern or an object with one. -/
def Pattern.fault (clause field : String) (value : Json) : Option Fault :=
  if value.kind = .object then value.keyFault clause "value"
  else value.typeFault clause field .text

def Pattern.steps (clause field : String) (value : Json) : List Step :=
  .look [] (fault clause field value) :: within "value" (textSteps clause "value") value

def Pattern.wildcardSteps (body : Json) : List Step :=
  withinOnly (steps "wildcard") body

/-- A value of neither form is not looked into. -/
def Pattern.prefixSteps (body : Json) : List Step :=
  withinOnly (fun field value =>
    .look [] none :: if hasPrefixForm value then steps "prefix" field value else []) body

def Leaf.existenceSteps (body : Json) : List Step :=
  if body.members.length = 1 then [.look [] (body.keyFault "exists" "field")] else []

/-- The steps in the body of a leaf clause, which is an object. -/
def Leaf.steps : Leaf → Json → List Step
  | multiMatch => Search.multiMatchSteps
  | queryString => Search.queryStringSteps
  | simpleQueryString => Search.simpleSteps
  | range => Range.steps
  | existence => existenceSteps
  | wildcard => Pattern.wildcardSteps
  | beginning => Pattern.prefixSteps
  | term | terms | matching | matchPhrase | matchAll => fun _ => []

/-! ## Steps of documents -/

variable (inner : Json → List Step)

/-- The type of a list of clauses is looked at before the clauses are. -/
def BoolClause.listSteps (key : String) (value : Json) : List Step :=
  .look [] (value.typeFault "bool" key .clauses) ::
    match value.kind with
    | .array => through inner 0 value.items
    | .object => inner value
    | _ => []

/-- The required clauses come first and the `should` clauses, if they are not dropped, before those
that must not hold. -/
def BoolClause.steps (body : Json) : List Step :=
  within "must" (listSteps inner "must") body ++
    within "filter" (listSteps inner "filter") body ++
    within "minimum_should_match" freeSteps body ++
    (if (minimum body).1 = .one then within "should" (listSteps inner "should") body else []) ++
    within "must_not" (listSteps inner "must_not") body

def Wrapper.disMaxSteps (value : Json) : List Step :=
  .look [] (value.typeFault "dis_max" "queries" .list) :: through inner 0 value.items

/-- The steps in the body of a clause, which is an object. -/
def Clause.Kind.steps : Clause.Kind → Json → List Step
  | bool, body => BoolClause.steps inner body
  | boosting, body => .look [] (body.keyFault "boosting" "positive") :: within "positive" inner body
  | constantScore, body =>
    .look [] (body.keyFault "constant_score" "filter") :: within "filter" inner body
  | disMax, body =>
    .look [] (body.keyFault "dis_max" "queries") ::
      within "queries" (Wrapper.disMaxSteps inner) body
  | nested, body =>
    if body.members.length = 2 ∧ body.members.has "path" then within "query" inner body else []
  | leaf l, body => l.steps body
  | query, _ => []

/-- The steps in a clause document of a kind. The body of a `query` clause is a clause document; of
all others it is an object. -/
def Clause.steps : Option Clause.Kind → Json → List Step
  | none, _ => []
  | some .query, document =>
    if document.members.length = 1 then within "query" inner document else []
  | some kind, document =>
    within kind.key (fun body => .look [] (body.objectFault kind.key) :: kind.steps inner body)
      document

/-- The steps of the translation of a document down to a number of levels. Nothing is looked at when
there are no levels left. -/
def Json.steps : Nat → Env → Json → List Step
  | 0, env, _ => [.tell (.depthExceeded env.maxDepth)]
  | levels + 1, env, document =>
    let kind := (Clause.classify document.members).kind?
    .look [] (document.objectFault "clause") :: .tell (.clause kind env.descend.depth) ::
      Clause.steps (Json.steps levels env.descend) kind document

/-! ## The steps up to the first fault -/

namespace Step

variable (s t : List Step)

theorem firstFault_cons (step : Step) :
    firstFault (step :: s) = step.fault?.or (firstFault s) := by
  rw [firstFault, List.findSome?_cons]
  cases step.fault? <;> rfl

theorem firstFault_append : firstFault (s ++ t) = (firstFault s).or (firstFault t) :=
  List.findSome?_append

theorem firstFault_map_under (access : Access) :
    firstFault (s.map (under access)) = firstFault s := by
  rw [firstFault, List.findSome?_map, firstFault]
  congr
  funext step
  cases step <;> rfl

theorem reached_append :
    reached (s ++ t) = reached s ++ if firstFault s = none then reached t else [] := by
  induction s with
  | nil => rfl
  | cons step rest ih =>
    rw [List.cons_append, reached, reached, ih, firstFault_cons]
    cases step.fault? <;> rfl

theorem reached_map_under (access : Access) :
    reached (s.map (under access)) = (reached s).map (under access) := by
  induction s with
  | nil => rfl
  | cons step rest ih =>
    rw [List.map_cons, reached, reached, ih]
    cases step with
    | tell e => rfl
    | look pointer fault => cases fault <;> rfl

end Step

end ClauseFilter
