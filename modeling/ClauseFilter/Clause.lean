import ClauseFilter.Json.Basic

/-!
# Clauses

A clause document is a JSON object that names its kind by a key and holds its body under that key.
When several known keys are present the first in a fixed ranking decides.
-/

namespace ClauseFilter

/-- The kinds of clauses that test documents by themselves. -/
inductive Leaf where
  | multiMatch
  | range
  | term
  | terms
  | matching
  | matchPhrase
  | existence
  | simpleQueryString
  | matchAll
  | wildcard
  | beginning
  | queryString
deriving DecidableEq

/-- The key of a leaf clause. -/
def Leaf.key : Leaf → String
  | multiMatch => "multi_match"
  | range => "range"
  | term => "term"
  | terms => "terms"
  | matching => "match"
  | matchPhrase => "match_phrase"
  | existence => "exists"
  | simpleQueryString => "simple_query_string"
  | matchAll => "match_all"
  | wildcard => "wildcard"
  | beginning => "prefix"
  | queryString => "query_string"

/-- The kinds of clauses: those that hold other clauses, and the leaves. -/
inductive Clause.Kind where
  | bool
  | query
  | boosting
  | constantScore
  | disMax
  | nested
  | leaf (l : Leaf)
deriving DecidableEq

namespace Clause.Kind

/-- The key that a clause of this kind is recognized by. -/
def key : Clause.Kind → String
  | bool => "bool"
  | query => "query"
  | boosting => "boosting"
  | constantScore => "constant_score"
  | disMax => "dis_max"
  | nested => "nested"
  | leaf l => l.key

/-- All kinds, those that win over others first. -/
def ranked : List Clause.Kind := [
  bool, query, boosting, constantScore, disMax, leaf .multiMatch, leaf .range, leaf .term,
  leaf .terms, leaf .matching, leaf .matchPhrase, leaf .existence, leaf .simpleQueryString,
  leaf .matchAll, leaf .wildcard, leaf .beginning, nested, leaf .queryString]

end Clause.Kind

/-- A clause document, sorted by the key that decides. -/
inductive Clause where
  /-- The body under the key, and whether this key is the document's only one. -/
  | known (kind : Clause.Kind) (body : Json) (alone : Bool)
  /-- A document without any known key. -/
  | unknown (keys : List String)

namespace Clause

def classify (members : Json.Members) : Clause :=
  let found := Kind.ranked.findSome? fun kind => (members.get? kind.key).map fun body => (kind, body)
  match found with
  | some (kind, body) => known kind body (members.length == 1)
  | none => unknown members.keys

def kind? : Clause → Option Kind
  | known kind _ _ => some kind
  | unknown _ => none

/-- What an event calls a clause of a kind, or one of no known kind. -/
def label : Option Kind → String
  | some kind => kind.key
  | none => "unrecognized"

end Clause

end ClauseFilter
