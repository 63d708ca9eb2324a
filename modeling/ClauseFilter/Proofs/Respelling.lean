import ClauseFilter.Proofs.MinimumInEffect
import Mathlib.Logic.Relation

/-!
# Other spellings of a boolean combination

The clauses of a `bool` clause can be written down in several ways that all say the same. Those that
must hold may stand under `must` or under `filter`, a clause may stand for a list of itself, and a
list without any clauses may be left out. A clause is respelled by any number of such changes, and
has the same translation then. A `dis_max` clause asks for what a `bool` clause asks for by its
`should` clauses alone (`translate_respelled`).
-/

namespace ClauseFilter

open Traced

namespace Traced

/-- What is done with two lists one after the other is done with the list of both. -/
theorem each_append {α β : Type} (f : α → Traced β) (as bs : List α) :
    each f (as ++ bs) = do
      let xs ← each f as
      let ys ← each f bs
      return xs ++ ys := by
  induction as with
  | nil => simp [each]
  | cons a rest ih => simp [each, ih]

end Traced

/-- Objects with the same values under all keys but some. -/
def Json.Members.AgreeExcept (keys : List String) (members members' : Json.Members) : Prop :=
  ∀ key, key ∉ keys → members.get? key = members'.get? key

namespace BoolClause

/-- The keys of a `bool` clause that hold clauses. -/
def clauseKeys : List String :=
  ["must", "filter", "should", "must_not"]

/-- Bodies of `bool` clauses of which the second is spelled in another way than the first. -/
inductive Respelling (members members' : Json.Members) : Prop
  /-- Clauses that must hold stand under the other of the two keys for them. -/
  | moved {must filter must' filter' : List Json}
    (hmust : members.get? "must" = some (.arr must))
    (hfilter : members.get? "filter" = some (.arr filter))
    (hmust' : members'.get? "must" = some (.arr must'))
    (hfilter' : members'.get? "filter" = some (.arr filter'))
    (same : must ++ filter = must' ++ filter')
    (rest : members.AgreeExcept ["must", "filter"] members')
  /-- The only clause of a list stands in the place of the list. -/
  | unwrapped {key : String} {clause : Json.Members} (hkey : key ∈ clauseKeys)
    (hlist : members.get? key = some (.arr [.obj clause]))
    (hsingle : members'.get? key = some (.obj clause))
    (rest : members.AgreeExcept [key] members')
  /-- An empty list is left out. -/
  | dropped {key : String} (hkey : key ∈ clauseKeys)
    (hempty : members.get? key = some (.arr []))
    (habsent : members'.get? key = none)
    (rest : members.AgreeExcept [key] members')

/-- Bodies of `bool` clauses of which each is a respelling of the other, by any number of changes in
either direction. -/
def Respelled : Json.Members → Json.Members → Prop :=
  Relation.EqvGen Respelling

variable {inner : Json → Traced Predicate} {members members' : Json.Members}

/-! ## The clauses of a respelled body -/

/-- The translated clauses that must all hold, wherever they stand. -/
def requiredClauses (inner : Json → Traced Predicate) (members : Json.Members) :
    Traced (List Predicate) := do
  let must ← clausesAt inner members "must"
  let filter ← clausesAt inner members "filter"
  return must ++ filter

theorem translate_eq_requiredClauses (inner : Json → Traced Predicate) (members : Json.Members) :
    translate inner (.obj members) = (do
      let required ← requiredClauses inner members
      let should ← shouldGiven inner members required.length
      let mustNot ← clausesAt inner members "must_not"
      return combine required should mustNot
        (Minimum.effective (members.get? "minimum_should_match") required.length).2) := by
  rw [translate_obj_eq, requiredClauses]
  simp only [bind_assoc, pure_bind]

/-- A `bool` clause is determined by its required clauses together, its other two lists and its
minimum. -/
theorem translate_eq_of_requiredClauses_eq
    (hrequired : requiredClauses inner members = requiredClauses inner members')
    (hshould : clausesAt inner members "should" = clausesAt inner members' "should")
    (hnot : clausesAt inner members "must_not" = clausesAt inner members' "must_not")
    (hminimum : members.get? "minimum_should_match" = members'.get? "minimum_should_match") :
    translate inner (.obj members) = translate inner (.obj members') := by
  rw [translate_eq_requiredClauses, translate_eq_requiredClauses]
  simp only [shouldGiven, hrequired, hshould, hnot, hminimum]

theorem clausesAt_eq_of_get?_eq {key : String} (h : members.get? key = members'.get? key) :
    clausesAt inner members key = clausesAt inner members' key := by
  rw [clausesAt, clausesAt, h]

theorem clausesAt_arr {key : String} {documents : List Json}
    (h : members.get? key = some (.arr documents)) :
    clausesAt inner members key = each inner documents := by
  simp only [clausesAt, h, Json.asClauses, lift_ok, pure_bind]

theorem clausesAt_obj {key : String} {clause : Json.Members}
    (h : members.get? key = some (.obj clause)) :
    clausesAt inner members key = each inner [.obj clause] := by
  simp only [clausesAt, h, Json.asClauses, lift_ok, pure_bind]

theorem clausesAt_none {key : String} (h : members.get? key = none) :
    clausesAt inner members key = each inner [] := by
  rw [clausesAt, h]
  rfl

theorem requiredClauses_eq_each {must filter : List Json}
    (hmust : clausesAt inner members "must" = each inner must)
    (hfilter : clausesAt inner members "filter" = each inner filter) :
    requiredClauses inner members = each inner (must ++ filter) := by
  rw [requiredClauses, hmust, hfilter, each_append]

/-- Where the lists under one key alone are spelled in different ways, all four lists have the same
clauses. -/
theorem clausesAt_eq_of_agreeExcept {key : String}
    (hsame : clausesAt inner members key = clausesAt inner members' key)
    (rest : members.AgreeExcept [key] members') (key' : String) :
    clausesAt inner members key' = clausesAt inner members' key' := by
  by_cases hkey : key' = key
  · rw [hkey, hsame]
  · exact clausesAt_eq_of_get?_eq (rest key' (by simpa using hkey))

theorem translate_eq_of_clausesAt {key : String} (hkey : key ∈ clauseKeys)
    (hsame : clausesAt inner members key = clausesAt inner members' key)
    (rest : members.AgreeExcept [key] members') :
    translate inner (.obj members) = translate inner (.obj members') := by
  have hclauses := clausesAt_eq_of_agreeExcept hsame rest
  have hne : "minimum_should_match" ≠ key := by
    rintro rfl
    exact absurd hkey (by decide)
  exact translate_eq_of_clausesAt_eq (hclauses "must") (hclauses "filter")
    (rest _ (by simpa using hne)) (fun _ => hclauses "should") (hclauses "must_not")

/-- One change of the spelling leaves the translation as it is. -/
theorem Respelling.translate_eq (h : Respelling members members') :
    translate inner (.obj members) = translate inner (.obj members') := by
  cases h with
  | moved hmust hfilter hmust' hfilter' same rest =>
    refine translate_eq_of_requiredClauses_eq ?_ (clausesAt_eq_of_get?_eq (rest _ (by decide)))
      (clausesAt_eq_of_get?_eq (rest _ (by decide))) (rest _ (by decide))
    rw [requiredClauses_eq_each (clausesAt_arr hmust) (clausesAt_arr hfilter),
      requiredClauses_eq_each (clausesAt_arr hmust') (clausesAt_arr hfilter'), same]
  | unwrapped hkey hlist hsingle rest =>
    refine translate_eq_of_clausesAt hkey ?_ rest
    rw [clausesAt_arr hlist, clausesAt_obj hsingle]
  | dropped hkey hempty habsent rest =>
    refine translate_eq_of_clausesAt hkey ?_ rest
    rw [clausesAt_arr hempty, clausesAt_none habsent]

theorem Respelled.translate_eq (h : Respelled members members') :
    translate inner (.obj members) = translate inner (.obj members') := by
  induction h with
  | rel _ _ h => exact h.translate_eq
  | refl => rfl
  | symm _ _ _ ih => exact ih.symm
  | trans _ _ _ _ _ ih ih' => exact ih.trans ih'

/-! ## A disjunction of queries -/

theorem ne_nil_of_each {queries : List Json} {ps : List Predicate} (hne : queries ≠ [])
    (h : (each inner queries).outcome = .ok ps) : ps ≠ [] := by
  obtain ⟨-, rfl, -⟩ := each_eq_ok_iff.1 (Traced.ext rfl h)
  exact List.map_eq_nil_iff.not.2 hne

theorem combine_should {should : List Predicate} (hne : should ≠ []) :
    combine [] should [] none = Predicate.disj should := by
  cases should with
  | nil => contradiction
  | cons p rest => rfl

/-- Alone, the `should` clauses become a disjunction. -/
theorem translate_should (inner : Json → Traced Predicate) {queries : List Json}
    (hne : queries ≠ []) :
    translate inner (.obj [("should", .arr queries)]) = Predicate.disj <$> each inner queries := by
  have hgiven : shouldGiven inner [("should", .arr queries)] 0 = each inner queries :=
    (if_pos rfl).trans (clausesAt_arr rfl)
  have htranslate : translate inner (.obj [("should", .arr queries)]) = (do
      let should ← shouldGiven inner [("should", .arr queries)] 0
      return combine [] should [] none) := by
    rw [translate_obj_eq, clausesAt_none rfl, clausesAt_none rfl, clausesAt_none rfl]
    simp only [each, pure_bind]
    rfl
  rw [htranslate, hgiven, map_eq_pure_bind]
  refine Congruence.eq.bind rfl fun should hs => ?_
  rw [combine_should (ne_nil_of_each hne hs)]

/-- A disjunction of queries is that of `should` clauses, with a note. -/
theorem translateDisMax_eq (inner : Json → Traced Predicate) {queries : List Json}
    (hne : queries ≠ []) :
    Wrapper.translateDisMax inner (.obj [("queries", .arr queries)]) =
      (fun p => p.withNote "skipping dis_max") <$>
        translate inner (.obj [("should", .arr queries)]) := by
  have hqueries : Wrapper.translateDisMax inner (.obj [("queries", .arr queries)]) = (do
      let ps ← each inner queries
      if ps.isEmpty then return .untranslatable "dis_max without queries" "Invalid dis_max"
      else return (Predicate.disj ps).withNote "skipping dis_max") := rfl
  rw [hqueries, translate_should inner hne, map_eq_pure_bind, map_eq_pure_bind, bind_assoc]
  refine Congruence.eq.bind rfl fun ps hps => ?_
  rw [pure_bind, if_neg (List.isEmpty_iff.not.2 (ne_nil_of_each hne hps))]

/-- Respelling a `bool` clause changes neither its predicate or its fault nor the events. With at
least one query a `dis_max` clause has the faults and the events of a `bool` clause whose `should`
clauses are the queries; it has the same expression and the same flag, and the same notes with one
more behind them. -/
theorem translate_respelled (env : Env) :
    let translateBool := fun members => translate (translateClause env) (.obj members)
    (∀ members members', Respelled members members' →
      translateBool members = translateBool members') ∧
    ∀ queries : List Json, queries ≠ [] →
      let disMax := Wrapper.translateDisMax (translateClause env) (.obj [("queries", .arr queries)])
      let should := translateBool [("should", .arr queries)]
      disMax.events = should.events ∧
      (∀ fault, disMax.outcome = .error fault ↔ should.outcome = .error fault) ∧
      ∀ p, should.outcome = .ok p →
        disMax.outcome = .ok ⟨p.expression, p.translatable, p.notes ++ ["skipping dis_max"]⟩ := by
  intro translateBool
  refine ⟨fun members members' h => h.translate_eq, fun queries hne => ?_⟩
  intro disMax should
  have heq : disMax = (fun p => p.withNote "skipping dis_max") <$> should :=
    translateDisMax_eq (translateClause env) hne
  rw [heq, map_eq_pure_bind]
  obtain ⟨events, outcome⟩ := should
  cases outcome with
  | error fault => exact ⟨rfl, fun _ => .rfl, nofun⟩
  | ok p =>
    refine ⟨List.append_nil events, fun _ => ⟨nofun, nofun⟩, ?_⟩
    rintro _ ⟨⟩
    rfl

/-- A clause that is moved to `filter` and stands there alone, with `should` clauses that are not
looked at, and a disjunction of the two clauses. -/
theorem translate_respelled_movedClause :
    let everyDocument := Json.obj [("match_all", .obj [])]
    let scored := Json.obj [("constant_score", .obj [("filter", everyDocument)])]
    let hint := ("should", Json.str "no clause")
    let members := [("must", .arr [everyDocument, scored]), hint]
    let members' := [("filter", scored), ("must", .arr [everyDocument]), hint]
    Respelled members members' ∧
      (translate (translateClause ⟨3, 1⟩) (.obj members')).outcome =
        .ok ⟨"(match_all AND match_all)", true, ["skipping constant score"]⟩ ∧
      [everyDocument, scored] ≠ [] ∧
      (Wrapper.translateDisMax (translateClause ⟨3, 1⟩)
          (.obj [("queries", .arr [everyDocument, scored])])).outcome =
        .ok ⟨"(match_all OR match_all)", true, ["skipping constant score", "skipping dis_max"]⟩ := by
  intro everyDocument scored hint members members'
  have hempty : Respelling [("must", .arr [everyDocument, scored]), ("filter", .arr []), hint]
      members := by
    refine .dropped (show "filter" ∈ clauseKeys by decide) rfl rfl fun key hkey => ?_
    simp_all [members, hint, Json.Members.get?_cons]
  have hmoved : Respelling [("must", .arr [everyDocument, scored]), ("filter", .arr []), hint]
      [("must", .arr [everyDocument]), ("filter", .arr [scored]), hint] := by
    refine .moved rfl rfl rfl rfl rfl fun key hkey => ?_
    simp_all [hint, Json.Members.get?_cons]
  have hsingle : Respelling [("must", .arr [everyDocument]), ("filter", .arr [scored]), hint]
      members' := by
    refine .unwrapped (show "filter" ∈ clauseKeys by decide) rfl rfl fun key hkey => ?_
    simp_all [members', hint, Json.Members.get?_cons]
  have hrespelled : Respelled members members' :=
    .trans _ _ _ (.symm _ _ (.rel _ _ hempty)) <|
      .trans _ _ _ (.rel _ _ hmoved) (.rel _ _ hsingle)
  have hgiven : (translate (translateClause ⟨3, 1⟩) (.obj members)).outcome =
      .ok ⟨"(match_all AND match_all)", true, ["skipping constant score"]⟩ := by
    decide
  have hshould : (translate (translateClause ⟨3, 1⟩)
      (.obj [("should", .arr [everyDocument, scored])])).outcome =
      .ok ⟨"(match_all OR match_all)", true, ["skipping constant score"]⟩ := by
    decide
  have hne : [everyDocument, scored] ≠ [] := List.cons_ne_nil _ _
  obtain ⟨hbool, hdisMax⟩ := translate_respelled ⟨3, 1⟩
  obtain ⟨-, -, hnotes⟩ := hdisMax [everyDocument, scored] hne
  exact ⟨hrespelled, (congrArg Traced.outcome (hbool _ _ hrespelled)).symm.trans hgiven, hne,
    hnotes _ hshould⟩

end BoolClause

end ClauseFilter
