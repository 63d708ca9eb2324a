import ClauseFilter.Proofs.Parts
import Mathlib.Data.List.Forall2

/-!
# Parts that do not matter

A translation only looks at some parts of a document. Two documents are alike down to a number of
levels when they have the same keys throughout and agree on what is looked at (`Json.Alike`); what
is dropped, and every clause below these levels, may differ in any way. Documents that are alike
down to the maximum depth have the same predicate and the same events (`translate_eq_of_alike`).
-/

namespace ClauseFilter

open Traced

/-! ## Documents that are alike -/

namespace Json

/-- The values under a key, where both objects have one, are related. -/
def Members.AlikeAt (key : String) (rel : Json → Json → Prop) (members members' : Members) : Prop :=
  ∀ value value', members.get? key = some value → members'.get? key = some value' →
    rel value value'

/-- Arrays with related items, related objects in the place of arrays, or the same value. -/
inductive ClausesAlike (rel : Json → Json → Prop) : Json → Json → Prop
  | same (value : Json) : ClausesAlike rel value value
  | items {documents documents' : List Json} (h : List.Forall₂ rel documents documents') :
    ClausesAlike rel (arr documents) (arr documents')
  | single {members members' : Members} (h : rel (obj members) (obj members')) :
    ClausesAlike rel (obj members) (obj members')

end Json

/-- Bodies of `bool` clauses that have the same keys and agree on the values that are looked at. The
`should` clauses are not looked at when the minimum in effect is 0. -/
structure BoolClause.Alike (rel : Json → Json → Prop) (members members' : Json.Members) : Prop where
  keys_eq : members.keys = members'.keys
  must : members.AlikeAt "must" (Json.ClausesAlike rel) members'
  filter : members.AlikeAt "filter" (Json.ClausesAlike rel) members'
  minimum_eq : members.AlikeAt "minimum_should_match" Eq members'
  should : (BoolClause.minimum (.obj members)).1 = .one →
    members.AlikeAt "should" (Json.ClausesAlike rel) members'
  mustNot : members.AlikeAt "must_not" (Json.ClausesAlike rel) members'

/-- Bodies of clauses of a kind that have the same keys and agree on what the clause looks at, `rel`
relating the clause documents in them. -/
inductive Clause.BodyAlike (rel : Json → Json → Prop) : Clause.Kind → Bool → Json → Json → Prop
  | same (kind : Clause.Kind) (alone : Bool) (body : Json) : BodyAlike rel kind alone body body
  | bool {alone : Bool} {members members' : Json.Members}
    (h : BoolClause.Alike rel members members') :
    BodyAlike rel .bool alone (.obj members) (.obj members')
  | query {body body' : Json} (h : rel body body') : BodyAlike rel .query true body body'
  | crowdedQuery (body body' : Json) : BodyAlike rel .query false body body'
  | boosting {alone : Bool} {members members' : Json.Members}
    (keys_eq : members.keys = members'.keys) (h : members.AlikeAt "positive" rel members') :
    BodyAlike rel .boosting alone (.obj members) (.obj members')
  | constantScore {alone : Bool} {members members' : Json.Members}
    (keys_eq : members.keys = members'.keys) (h : members.AlikeAt "filter" rel members') :
    BodyAlike rel .constantScore alone (.obj members) (.obj members')
  | disMax {alone : Bool} {members members' : Json.Members}
    (keys_eq : members.keys = members'.keys)
    (h : members.AlikeAt "queries" (Json.ClausesAlike rel) members') :
    BodyAlike rel .disMax alone (.obj members) (.obj members')
  | nested {alone : Bool} {members members' : Json.Members}
    (keys_eq : members.keys = members'.keys) (h : members.AlikeAt "query" rel members') :
    BodyAlike rel .nested alone (.obj members) (.obj members')

/-- Clause documents that agree on everything that is looked at down to a number of levels. Of a
clause document only the value of the key that decides its kind is looked at, and nothing at all
when there are no levels left. -/
def Json.Alike : Nat → Json → Json → Prop
  | 0, _, _ => True
  | levels + 1, document, document' =>
    document = document' ∨
      ∃ members members' : Members, document = .obj members ∧ document' = .obj members' ∧
        members.keys = members'.keys ∧
        ∀ kind body alone, Clause.classify members = .known kind body alone →
          members.AlikeAt kind.key (Clause.BodyAlike (Json.Alike levels) kind alone) members'

/-! ## Keys decide -/

namespace Json.Members

variable {members members' : Members} {key : String}

theorem length_eq_of_keys_eq (h : members.keys = members'.keys) :
    members.length = members'.length := by
  simpa [keys] using congrArg List.length h

/-- Where the keys are the same, both objects lack a key or both have a value under it. -/
theorem AlikeAt.get?_rel {rel : Json → Json → Prop} (h : members.AlikeAt key rel members')
    (keys_eq : members.keys = members'.keys) :
    Option.Rel rel (members.get? key) (members'.get? key) := by
  have hsome : (members.get? key).isSome ↔ (members'.get? key).isSome := by
    rw [get?_isSome_iff, get?_isSome_iff, keys_eq]
  cases hv : members.get? key with
  | none =>
    cases hv' : members'.get? key with
    | none => exact .none
    | some value' => simp [hv, hv'] at hsome
  | some value =>
    cases hv' : members'.get? key with
    | none => simp [hv, hv'] at hsome
    | some value' => exact .some (h value value' hv hv')

theorem eq_of_rel_eq {given given' : Option Json} (h : Option.Rel Eq given given') :
    given = given' := by
  cases h with
  | none => rfl
  | some h => rw [h]

end Json.Members

namespace Clause

open Json

/-- The keys of a document decide what kind of clause it is. -/
theorem classify_eq (members : Members) :
    classify members =
      match Kind.ranked.find? (fun kind => members.has kind.key) with
      | some kind => known kind ((members.get? kind.key).getD .null) (members.length == 1)
      | none => unknown members.keys := by
  unfold classify
  induction Kind.ranked with
  | nil => rfl
  | cons kind rest ih =>
    rw [List.findSome?_cons, List.find?_cons, Members.has]
    cases hbody : members.get? kind.key with
    | none => exact ih
    | some body => simp [hbody]

variable {members members' : Members}

theorem classify_of_keys_eq (h : members.keys = members'.keys) :
    (∃ kind alone, classify members =
        known kind ((members.get? kind.key).getD .null) alone ∧
      classify members' = known kind ((members'.get? kind.key).getD .null) alone ∧
      kind.key ∈ members.keys) ∨
    (∃ keys, classify members = unknown keys ∧ classify members' = unknown keys) := by
  have hhas : (fun kind : Kind => members'.has kind.key) = fun kind => members.has kind.key := by
    funext kind
    rw [Members.has_eq, Members.has_eq, h]
  rw [classify_eq, classify_eq, hhas, ← Members.length_eq_of_keys_eq h, ← h]
  cases hfind : Kind.ranked.find? (fun kind => members.has kind.key) with
  | none => exact .inr ⟨members.keys, rfl, rfl⟩
  | some kind =>
    refine .inl ⟨kind, _, rfl, rfl, ?_⟩
    have hkind := List.find?_some hfind
    rwa [Members.has_eq, decide_eq_true_iff] at hkind

end Clause

/-! ## Translations of documents that are alike -/

namespace Traced

theorem Congruence.eq : Congruence fun ⦃_⦄ x y => x = y where
  lift _ _ := rfl
  bind _ _ x _ f g h hf := by
    subst h
    obtain ⟨events, outcome⟩ := x
    cases outcome with
    | error fault => rfl
    | ok a => rw [ok_bind, ok_bind, hf a rfl]

theorem each_eq_of_forall₂ {α β : Type} {f : α → Traced β} {as as' : List α}
    (h : List.Forall₂ (fun a a' => f a = f a') as as') : each f as = each f as' := by
  induction h with
  | nil => rfl
  | cons ha hrest ih => rw [each, each, ha, ih]

end Traced

section Translations

variable {inner : Json → Traced Predicate} {rel : Json → Json → Prop}
  {members members' : Json.Members}

namespace BoolClause

theorem clausesAt_eq_of_rel {key : String} (hrel : ∀ d d', rel d d' → inner d = inner d')
    (h : Option.Rel (Json.ClausesAlike rel) (members.get? key) (members'.get? key)) :
    clausesAt inner members key = clausesAt inner members' key := by
  unfold clausesAt
  generalize members.get? key = given, members'.get? key = given' at h
  cases h with
  | none => rfl
  | some hvalues =>
    cases hvalues with
    | same value => rfl
    | items hitems => exact each_eq_of_forall₂ (hitems.imp hrel)
    | single hsingle => exact each_eq_of_forall₂ (.cons (hrel _ _ hsingle) .nil)

/-- A `bool` clause is determined by its four lists and its minimum. The `should` clauses do not
matter when the minimum in effect is 0. -/
theorem translate_eq_of_clausesAt_eq
    (hmust : clausesAt inner members "must" = clausesAt inner members' "must")
    (hfilter : clausesAt inner members "filter" = clausesAt inner members' "filter")
    (hminimum : members.get? "minimum_should_match" = members'.get? "minimum_should_match")
    (hshould : (minimum (.obj members)).1 = .one →
      clausesAt inner members "should" = clausesAt inner members' "should")
    (hnot : clausesAt inner members "must_not" = clausesAt inner members' "must_not") :
    BoolClause.translate inner (.obj members) = BoolClause.translate inner (.obj members') := by
  rw [BoolClause.translate_eq, BoolClause.translate_eq]
  simp only [Json.asObject, lift_ok, pure_bind]
  refine Congruence.eq.bind hmust fun must hm => Congruence.eq.bind hfilter fun filter hf => ?_
  have hgiven : shouldGiven inner members (required (.obj members)).length =
      shouldGiven inner members' (required (.obj members)).length := by
    unfold shouldGiven
    rw [← hminimum]
    split
    · next hone => exact hshould hone
    · rfl
  rw [length_required hm hf, hgiven, hminimum, hnot]

theorem Alike.translate_eq (hrel : ∀ d d', rel d d' → inner d = inner d')
    (h : Alike rel members members') :
    BoolClause.translate inner (.obj members) = BoolClause.translate inner (.obj members') := by
  have hminimum := Json.Members.eq_of_rel_eq (h.minimum_eq.get?_rel h.keys_eq)
  exact translate_eq_of_clausesAt_eq (clausesAt_eq_of_rel hrel (h.must.get?_rel h.keys_eq))
    (clausesAt_eq_of_rel hrel (h.filter.get?_rel h.keys_eq)) hminimum
    (fun hone => clausesAt_eq_of_rel hrel ((h.should hone).get?_rel h.keys_eq))
    (clausesAt_eq_of_rel hrel (h.mustNot.get?_rel h.keys_eq))

end BoolClause

namespace Wrapper

variable (hrel : ∀ d d', rel d d' → inner d = inner d')
include hrel

theorem translate_eq_of_rel (w : Wrapper)
    (h : Option.Rel rel (members.get? w.key) (members'.get? w.key)) :
    w.translate inner (.obj members) = w.translate inner (.obj members') := by
  unfold translate
  simp only [Json.asObject, lift_ok, pure_bind, Json.Members.required]
  generalize members.get? w.key = given, members'.get? w.key = given' at h
  cases h with
  | none => rfl
  | some hvalues =>
    simp only [lift_ok, pure_bind]
    rw [hrel _ _ hvalues]

theorem translateDisMax_eq_of_rel
    (h : Option.Rel (Json.ClausesAlike rel) (members.get? "queries") (members'.get? "queries")) :
    translateDisMax inner (.obj members) = translateDisMax inner (.obj members') := by
  unfold translateDisMax
  simp only [Json.asObject, lift_ok, pure_bind, Json.Members.required]
  generalize members.get? "queries" = given, members'.get? "queries" = given' at h
  cases h with
  | none => rfl
  | some hvalues =>
    cases hvalues with
    | same value => rfl
    | items hitems =>
      simp only [Json.asList, lift_ok, pure_bind]
      rw [each_eq_of_forall₂ (hitems.imp hrel)]
    | single hsingle => rfl

theorem translateNested_eq_of_rel (hlength : members.length = members'.length)
    (hpath : members.has "path" = members'.has "path")
    (h : Option.Rel rel (members.get? "query") (members'.get? "query")) :
    translateNested inner (.obj members) = translateNested inner (.obj members') := by
  unfold translateNested
  simp only [Json.asObject, lift_ok, pure_bind, hlength, hpath]
  generalize members.get? "query" = given, members'.get? "query" = given' at h
  cases h with
  | none => rfl
  | some hvalues =>
    cases members'.length == 2 && members'.has "path" with
    | true => exact hrel _ _ hvalues
    | false => rfl

end Wrapper

/-- Clauses with bodies that are alike have the same translation. -/
theorem Clause.translate_eq_of_bodyAlike {kind : Clause.Kind} {alone : Bool} {body body' : Json}
    (hrel : ∀ d d', rel d d' → inner d = inner d')
    (h : Clause.BodyAlike rel kind alone body body') :
    (Clause.known kind body alone).translate inner =
      (Clause.known kind body' alone).translate inner := by
  cases h with
  | same => rfl
  | bool hbool => exact hbool.translate_eq hrel
  | query hquery => exact hrel body body' hquery
  | crowdedQuery => rfl
  | boosting keys_eq hpositive =>
    exact Wrapper.translate_eq_of_rel hrel .boosting (hpositive.get?_rel keys_eq)
  | constantScore keys_eq hfilter =>
    exact Wrapper.translate_eq_of_rel hrel .constantScore (hfilter.get?_rel keys_eq)
  | disMax keys_eq hqueries =>
    exact Wrapper.translateDisMax_eq_of_rel hrel (hqueries.get?_rel keys_eq)
  | nested keys_eq hquery =>
    refine Wrapper.translateNested_eq_of_rel hrel (Json.Members.length_eq_of_keys_eq keys_eq) ?_
      (hquery.get?_rel keys_eq)
    rw [Json.Members.has_eq, Json.Members.has_eq, keys_eq]

end Translations

/-- Clause documents that are alike down to a number of levels are told apart neither by the
predicate or the fault nor by the events when they are translated down to these levels. -/
theorem translateWithin_eq_of_alike {levels : Nat} {document document' : Json} (env : Env)
    (h : document.Alike levels document') :
    translateWithin levels env document = translateWithin levels env document' := by
  induction levels generalizing env document document' with
  | zero => rfl
  | succ levels ih =>
    obtain rfl | ⟨members, members', rfl, rfl, keys_eq, hbody⟩ := h
    · rfl
    rw [translateWithin, translateWithin]
    simp only [Json.asObject, lift_ok, pure_bind]
    have hrel : ∀ d d', Json.Alike levels d d' →
        translateWithin levels env.descend d = translateWithin levels env.descend d' :=
      fun d d' hd => ih env.descend hd
    obtain ⟨kind, alone, hc, hc', hkey⟩ | ⟨keys, hc, hc'⟩ := Clause.classify_of_keys_eq keys_eq
    · have hbodies := (hbody kind _ alone hc).get?_rel keys_eq
      have hsome := Json.Members.get?_isSome_iff.2 hkey
      rw [hc, hc']
      generalize members.get? kind.key = given, members'.get? kind.key = given' at hbodies hsome
      cases hbodies with
      | none => contradiction
      | some hbodies =>
        rw [Option.getD_some, Option.getD_some, Clause.translate_eq_of_bodyAlike hrel hbodies]
        rfl
    · rw [hc, hc']

/-! ## Whole documents -/

/-- An event without the document that it shows. -/
def Event.withoutDocument : Event → Event
  | .failed fault _ => .failed fault .null
  | e => e

/-- What is dropped from a document has no influence on its translation: documents that are alike
down to the maximum depth have the same predicate, and the same events but for the document that is
shown when there is a fault. -/
theorem translate_eq_of_alike {maxDepth : Nat} {document document' : Json}
    (h : document.Alike maxDepth document') :
    (translate maxDepth document).predicate = (translate maxDepth document').predicate ∧
      (translate maxDepth document).events.map Event.withoutDocument =
        (translate maxDepth document').events.map Event.withoutDocument := by
  have hsame : translateClause (.top maxDepth) document =
      translateClause (.top maxDepth) document' :=
    translateWithin_eq_of_alike (.top maxDepth) h
  dsimp only [translate]
  rw [hsame]
  cases (translateClause (.top maxDepth) document').outcome with
  | ok p => exact ⟨rfl, rfl⟩
  | error fault =>
    refine ⟨rfl, ?_⟩
    rw [List.map_append, List.map_append]
    rfl

/-- Two required clauses turn the `should` clauses into hints, the maximum depth hides the clause
that is wrapped by the second, and neither of a foreign key nor of a negative clause anything is
seen. -/
theorem translate_eq_of_alike_droppedParts :
    let everyDocument := Json.obj [("match_all", .obj [])]
    let document := fun hint wrapped left foreign => Json.obj [
      ("bool", .obj [
        ("must", .arr [everyDocument,
          .obj [("boosting", .obj [("positive", wrapped), ("negative", left)])]]),
        ("should", hint)]),
      ("script", foreign)]
    let one := document (.arr [everyDocument]) everyDocument everyDocument .null
    let other := document (.str "no clause") .null (.bool true) everyDocument
    one.Alike 2 other ∧ (translate 2 one).predicate = (translate 2 other).predicate ∧
      (translate 2 one).events.map Event.withoutDocument =
        (translate 2 other).events.map Event.withoutDocument := by
  intro everyDocument document one other
  have hwrapper : Json.Alike 1
      (.obj [("boosting", .obj [("positive", everyDocument), ("negative", everyDocument)])])
      (.obj [("boosting", .obj [("positive", .null), ("negative", .bool true)])]) := by
    refine .inr ⟨_, _, rfl, rfl, rfl, ?_⟩
    rintro _ _ _ ⟨⟩ _ _ ⟨⟩ ⟨⟩
    exact .boosting rfl fun _ _ _ _ => trivial
  have halike : one.Alike 2 other := by
    refine .inr ⟨_, _, rfl, rfl, rfl, ?_⟩
    rintro _ _ _ ⟨⟩ _ _ ⟨⟩ ⟨⟩
    refine .bool ⟨rfl, ?_, ?_, ?_, ?_, ?_⟩
    · rintro _ _ ⟨⟩ ⟨⟩
      exact .items (.cons (.inl rfl) (.cons hwrapper .nil))
    · rintro _ _ ⟨⟩
    · rintro _ _ ⟨⟩
    · intro hone
      contradiction
    · rintro _ _ ⟨⟩
  exact ⟨halike, translate_eq_of_alike halike⟩

end ClauseFilter
