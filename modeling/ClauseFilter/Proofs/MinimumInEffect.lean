import ClauseFilter.Proofs.Irrelevance
import ClauseFilter.Proofs.Notes

/-!
# The minimum in effect

A `bool` clause that gives no minimum is translated as if it gave the one that its required clauses
ask for. One that gives a minimum which is not honoured is translated as if it gave 1, but for the
flag and for one more note, which stands between the notes of the required clauses and all others
(`translate_minimum`).
-/

namespace ClauseFilter

open Traced

/-! ## Setting a member -/

namespace Json.Members

variable {members : Members} {key key' : String} {value : Json}

theorem get?_insert_self : (members.insert key value).get? key = some value := by
  induction members with
  | nil => simp [insert, get?_cons]
  | cons member rest ih =>
    rcases member with ⟨k, v⟩
    rw [insert]
    split
    · next hk => rw [get?_cons, if_pos hk.symm]
    · next hk => rw [get?_cons, if_neg (Ne.symm hk), ih]

theorem get?_insert_ne (h : key' ≠ key) :
    (members.insert key value).get? key' = members.get? key' := by
  induction members with
  | nil => simp [insert, get?_cons, h]
  | cons member rest ih =>
    rcases member with ⟨k, v⟩
    rw [insert]
    split
    · next hk => rw [get?_cons, get?_cons, hk, if_neg h, if_neg h]
    · rw [get?_cons, get?_cons, ih]

end Json.Members

/-- The number by which a minimum is given. -/
def Minimum.number : Minimum → Json
  | zero => .num (.int 0 (by decide))
  | one => .num (.int 1 (by decide))

theorem Minimum.honoured?_number (minimum : Minimum) : honoured? minimum.number = some minimum := by
  cases minimum <;> decide

namespace BoolClause

/-- The body of a `bool` clause with another minimum, or with one that it has lacked. -/
def withMinimum (members : Json.Members) (minimum : Minimum) : Json.Members :=
  members.insert "minimum_should_match" minimum.number

variable {inner : Json → Traced Predicate} {members : Json.Members}

theorem effective_withMinimum (minimum : Minimum) (count : Nat) :
    Minimum.effective ((withMinimum members minimum).get? "minimum_should_match") count =
      (minimum, none) := by
  rw [withMinimum, Json.Members.get?_insert_self]
  simp only [Minimum.effective, minimum.honoured?_number]

theorem clausesAt_withMinimum {key : String} (h : key ≠ "minimum_should_match")
    (minimum : Minimum) :
    clausesAt inner (withMinimum members minimum) key = clausesAt inner members key := by
  rw [clausesAt, withMinimum, Json.Members.get?_insert_ne h, clausesAt]

theorem translate_obj_eq (inner : Json → Traced Predicate) (members : Json.Members) :
    translate inner (.obj members) = (do
      let must ← clausesAt inner members "must"
      let filter ← clausesAt inner members "filter"
      let should ← shouldGiven inner members (must ++ filter).length
      let mustNot ← clausesAt inner members "must_not"
      return combine (must ++ filter) should mustNot
        (Minimum.effective (members.get? "minimum_should_match") (must ++ filter).length).2) := by
  rw [translate_eq]
  rfl

/-- Without a minimum a `bool` clause has the one that the number of its required clauses asks
for. -/
theorem translate_withMinimum (h : members.get? "minimum_should_match" = none) :
    translate inner (.obj members) =
      translate inner (.obj (withMinimum members
        (if 1 < (required (.obj members)).length then .zero else .one))) := by
  rw [translate_obj_eq, translate_obj_eq, clausesAt_withMinimum (by decide),
    clausesAt_withMinimum (by decide), clausesAt_withMinimum (by decide)]
  refine Congruence.eq.bind rfl fun must hm => Congruence.eq.bind rfl fun filter hf => ?_
  rw [length_required hm hf, shouldGiven, shouldGiven, effective_withMinimum,
    clausesAt_withMinimum (by decide), h]
  rfl

/-! ## A minimum that is not honoured -/

/-- The translated clauses of a `bool` clause, the `should` clauses being asked for. -/
def gathered (inner : Json → Traced Predicate) (members : Json.Members) :
    Traced (List Predicate × List Predicate × List Predicate) := do
  let must ← clausesAt inner members "must"
  let filter ← clausesAt inner members "filter"
  let should ← clausesAt inner members "should"
  let mustNot ← clausesAt inner members "must_not"
  return (must ++ filter, should, mustNot)

/-- Where the minimum in effect is 1 all clauses are gathered, and then put together. -/
theorem translate_eq_map_gathered {ignored : Option Json}
    (h : ∀ count, Minimum.effective (members.get? "minimum_should_match") count = (.one, ignored)) :
    translate inner (.obj members) =
      (fun g => combine g.1 g.2.1 g.2.2 ignored) <$> gathered inner members := by
  rw [translate_obj_eq]
  simp only [shouldGiven, h, gathered, if_true, map_bind, map_pure]

theorem gathered_withMinimum (minimum : Minimum) :
    gathered inner (withMinimum members minimum) = gathered inner members := by
  unfold gathered
  rw [clausesAt_withMinimum (by decide), clausesAt_withMinimum (by decide),
    clausesAt_withMinimum (by decide), clausesAt_withMinimum (by decide)]

/-- The notes of what has been gathered are those of the clauses under the four keys. -/
theorem notes_of_gathered {events : List Event} {must should mustNot : List Predicate}
    (h : gathered inner members = ⟨events, .ok (must, should, mustNot)⟩) :
    let notesAt := fun key =>
      ((Json.obj members).documentsAt key).flatMap fun d => (inner d).predicate.notes
    must.flatMap Predicate.notes = notesAt "must" ++ notesAt "filter" ∧
      (should ++ mustNot).flatMap Predicate.notes = notesAt "should" ++ notesAt "must_not" := by
  obtain ⟨_, must, _, hmust, h₁, -⟩ := bind_eq_ok_iff.1 h
  obtain ⟨_, filter, _, hfilter, h₂, -⟩ := bind_eq_ok_iff.1 h₁
  obtain ⟨_, should, _, hshould, h₃, -⟩ := bind_eq_ok_iff.1 h₂
  obtain ⟨_, mustNot, _, hnot, h₄, -⟩ := bind_eq_ok_iff.1 h₃
  obtain ⟨heq, -⟩ := pure_eq_ok_iff.1 h₄
  cases heq
  obtain ⟨-, rfl, -⟩ := clausesAt_eq_ok hmust
  obtain ⟨-, rfl, -⟩ := clausesAt_eq_ok hfilter
  obtain ⟨-, rfl, -⟩ := clausesAt_eq_ok hshould
  obtain ⟨-, rfl, -⟩ := clausesAt_eq_ok hnot
  simp only [List.flatMap_append, List.flatMap_map, and_self]

theorem insertIdx_length_append (before after : List String) (note : String) :
    (before ++ after).insertIdx before.length note = before ++ note :: after := by
  induction before with
  | nil => rfl
  | cons first before ih =>
    rw [List.cons_append, List.length_cons, List.insertIdx_succ_cons, ih, List.cons_append]

theorem whole_notes_eq (must should mustNot : List Predicate) :
    (whole must should mustNot).notes =
      must.flatMap Predicate.notes ++ (should ++ mustNot).flatMap Predicate.notes := by
  rw [whole_notes, List.append_assoc, List.flatMap_append]

/-- The note on a minimum that is ignored stands behind those of the required clauses. -/
theorem combine_some_eq (must should mustNot : List Predicate) (value : Json) :
    combine must should mustNot (some value) =
      { expression := (whole must should mustNot).expression
        translatable := false
        notes := must.flatMap Predicate.notes ++ ignoredNote value ::
          (should ++ mustNot).flatMap Predicate.notes } := by
  rw [combine_some, Predicate.demoted, whole_notes_eq, noteCount, insertIdx_length_append]

/-- With a minimum that is not honoured the same clauses are gathered as with the minimum 1. -/
theorem translate_of_not_honoured (inner : Json → Traced Predicate) {value : Json}
    (hvalue : members.get? "minimum_should_match" = some value)
    (h : Minimum.honoured? value = none) :
    translate inner (.obj members) =
        (fun g => combine g.1 g.2.1 g.2.2 (some value)) <$> gathered inner members ∧
      translate inner (.obj (withMinimum members .one)) =
        (fun g => whole g.1 g.2.1 g.2.2) <$> gathered inner members := by
  have hgiven : ∀ count, Minimum.effective (members.get? "minimum_should_match") count =
      (.one, some value) := by
    intro count
    simp only [hvalue, Minimum.effective, h]
  refine ⟨translate_eq_map_gathered hgiven, ?_⟩
  rw [translate_eq_map_gathered (effective_withMinimum .one), gathered_withMinimum]
  rfl

/-- The notes of the predicates that clause documents translate to, in order. -/
def notesOf (env : Env) (documents : List Json) : List String :=
  documents.flatMap fun d => (translateClause env d).predicate.notes

/-- A `bool` clause without a minimum has the same translation as with the minimum 0, if it has more
than one required clause, or 1, if it has not. With a minimum that is not honoured it has the faults
and the events that it has with the minimum 1, and the same expression; but it is not translatable,
and has one more note, behind those of the required clauses and before all others. The position of
this note is never past the end of the others. -/
theorem translate_minimum (env : Env) (members : Json.Members) :
    let translateBool := fun members => translate (translateClause env) (.obj members)
    let body := Json.obj members
    let before := notesOf env (body.documentsAt "must" ++ body.documentsAt "filter")
    let after := notesOf env (body.documentsAt "should" ++ body.documentsAt "must_not")
    (members.get? "minimum_should_match" = none →
      translateBool members = translateBool (withMinimum members
        (if 1 < (body.documentsAt "must").length + (body.documentsAt "filter").length then .zero
          else .one))) ∧
    (∀ value, members.get? "minimum_should_match" = some value → Minimum.honoured? value = none →
      (translateBool members).events = (translateBool (withMinimum members .one)).events ∧
      (∀ fault, (translateBool members).outcome = .error fault ↔
        (translateBool (withMinimum members .one)).outcome = .error fault) ∧
      ∀ p, (translateBool (withMinimum members .one)).outcome = .ok p →
        p.notes = before ++ after ∧
        (translateBool members).outcome = .ok {
          expression := p.expression
          translatable := false
          notes := before ++
            ("skipping minimum_should_match " ++ value.render ++ ", assuming 1") :: after }) ∧
    ∀ must should mustNot : List Predicate,
      noteCount must ≤
        (Predicate.conj
          (must ++ Predicate.someOf should ++ Predicate.noneOf mustNot)).notes.length := by
  intro translateBool body before after
  refine ⟨fun h => ?_, fun value hvalue h => ?_, noteCount_le⟩
  · rw [← List.length_append]
    exact translate_withMinimum h
  · obtain ⟨hgiven, hone⟩ := translate_of_not_honoured (translateClause env) hvalue h
    dsimp only [translateBool]
    rw [hgiven, hone]
    cases hg : gathered (translateClause env) members with
    | mk events outcome =>
      cases outcome with
      | error fault => exact ⟨rfl, fun _ => .rfl, nofun⟩
      | ok g =>
        obtain ⟨must, should, mustNot⟩ := g
        obtain ⟨hbefore, hafter⟩ := notes_of_gathered hg
        rw [← List.flatMap_append] at hbefore hafter
        refine ⟨rfl, fun _ => ⟨nofun, nofun⟩, ?_⟩
        rintro _ ⟨⟩
        refine ⟨?_, congrArg Except.ok ?_⟩
        · rw [whole_notes_eq, hbefore, hafter]
          rfl
        · refine (combine_some_eq must should mustNot value).trans ?_
          rw [hbefore, hafter]
          rfl

/-- A minimum in percent, with a note on a required clause before and on a `should` clause behind
the note on it. -/
theorem translate_minimum_percentage :
    let everyDocument := Json.obj [("match_all", .obj [])]
    let members := [
      ("minimum_should_match", .str "50%"),
      ("must", .obj [("boosting", .obj [("positive", everyDocument)])]),
      ("should", .arr [.obj [("constant_score", .obj [("filter", everyDocument)])]])]
    let one := withMinimum members .one
    let p : Predicate :=
      ⟨"(match_all AND (match_all))", true, ["skipping boosting", "skipping constant score"]⟩
    Json.Members.get? members "minimum_should_match" = some (.str "50%") ∧
      Minimum.honoured? (.str "50%") = none ∧
      (translate (translateClause ⟨3, 1⟩) (.obj one)).outcome = .ok p ∧
      (translate (translateClause ⟨3, 1⟩) (.obj members)).outcome =
        .ok ⟨p.expression, false, ["skipping boosting",
          "skipping minimum_should_match 50%, assuming 1", "skipping constant score"]⟩ := by
  intro everyDocument members one p
  have hvalue : Json.Members.get? members "minimum_should_match" = some (.str "50%") := rfl
  have hhonoured : Minimum.honoured? (.str "50%") = none := by decide
  have hone : (translate (translateClause ⟨3, 1⟩) (.obj one)).outcome = .ok p := by
    decide
  obtain ⟨-, hgiven, -⟩ := translate_minimum ⟨3, 1⟩ members
  obtain ⟨-, -, hp⟩ := hgiven _ hvalue hhonoured
  exact ⟨hvalue, hhonoured, hone, (hp p hone).2⟩

end BoolClause

end ClauseFilter
