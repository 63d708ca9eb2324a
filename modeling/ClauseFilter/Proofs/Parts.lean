import ClauseFilter.Proofs.Traced
import ClauseFilter.Translation

/-!
# The clauses within a clause

Which clause documents the translation of a clause comes to (`Clause.parts`). Computations on these
that are related make related translations of the clause (`Clause.translate_congr`), and every part
is smaller than the document it is a part of.
-/

namespace ClauseFilter

/-! ## Reading a body -/

namespace Json

/-- The members of an object. No other value has any. -/
def members : Json → Members
  | .obj members => members
  | _ => []

/-- The value under a key, null if there is none. -/
def valueAt (body : Json) (key : String) : Json :=
  (body.members.get? key).getD .null

/-- The items of the array under a key. -/
def itemsAt (body : Json) (key : String) : List Json :=
  match body.members.get? key with
  | some (.arr items) => items
  | _ => []

/-- The clause documents under a key, an object standing for a list of itself. -/
def documentsAt (body : Json) (key : String) : List Json :=
  match body.members.get? key with
  | some (.arr items) => items
  | some (.obj members) => [.obj members]
  | _ => []

theorem asObject_eq_ok_iff {context : String} {value : Json} {members : Members} :
    value.asObject context = .ok members ↔ value = .obj members := by
  cases value <;> simp [asObject]

theorem asText_eq_ok_iff {clause key s : String} {value : Json} :
    value.asText clause key = .ok s ↔ value = .str s := by
  cases value <;> simp [asText]

theorem asList_eq_ok_iff {clause key : String} {value : Json} {items : List Json} :
    value.asList clause key = .ok items ↔ value = .arr items := by
  cases value <;> simp [asList]

theorem required_eq_ok_iff {members : Members} {clause key : String} {value : Json} :
    members.required clause key = .ok value ↔ members.get? key = some value := by
  unfold Members.required
  cases members.get? key <;> simp

end Json

namespace BoolClause

/-- The clauses that must all hold. -/
def required (body : Json) : List Json :=
  body.documentsAt "must" ++ body.documentsAt "filter"

/-- The minimum in effect, and the value that is ignored in its favour. -/
def minimum (body : Json) : Minimum × Option Json :=
  Minimum.effective (body.members.get? "minimum_should_match") (required body).length

/-- The `should` clauses, which are dropped when none of them has to hold. -/
def should (body : Json) : List Json :=
  if (minimum body).1 = .one then body.documentsAt "should" else []

end BoolClause

/-- The clause documents that the translation of a clause comes to, in order. -/
def Clause.parts : Clause → List Json
  | .known .bool body _ =>
    BoolClause.required body ++ BoolClause.should body ++ body.documentsAt "must_not"
  | .known .query body alone => if alone then [body] else []
  | .known .boosting body _ => (body.members.get? "positive").toList
  | .known .constantScore body _ => (body.members.get? "filter").toList
  | .known .disMax body _ => body.itemsAt "queries"
  | .known .nested body _ =>
    if body.members.length == 2 && body.members.has "path" then
      (body.members.get? "query").toList
    else []
  | _ => []

/-! ## The lists of a `bool` clause -/

namespace BoolClause

open Traced

variable {inner inner' : Json → Traced Predicate} {members : Json.Members}

/-- A list under a key has no fault exactly when it is `documentsAt` that key. -/
theorem asClauses_eq_ok {value : Json} {key : String} {documents : List Json}
    (hv : members.get? key = some value) (h : value.asClauses "bool" key = .ok documents) :
    (Json.obj members).documentsAt key = documents := by
  cases value <;> simp_all [Json.asClauses, Json.documentsAt, Json.members]

theorem clausesAt_congr {R : ∀ ⦃α : Type⦄, Traced α → Traced α → Prop} (hR : Congruence R)
    {key : String} (h : ∀ d ∈ (Json.obj members).documentsAt key, R (inner d) (inner' d)) :
    R (clausesAt inner members key) (clausesAt inner' members key) := by
  unfold clausesAt
  cases hv : members.get? key with
  | none => exact hR.pure []
  | some value =>
    refine hR.lift_bind _ fun documents hd => hR.each fun d hmem => h d ?_
    rwa [asClauses_eq_ok hv hd]

theorem clausesAt_eq_ok {key : String} {events : List Event} {ps : List Predicate}
    (h : clausesAt inner members key = ⟨events, .ok ps⟩) :
    (∀ d ∈ (Json.obj members).documentsAt key, (inner d).Succeeds) ∧
      ps = ((Json.obj members).documentsAt key).map (fun d => (inner d).predicate) ∧
      events = ((Json.obj members).documentsAt key).flatMap fun d => (inner d).events := by
  unfold clausesAt at h
  cases hv : members.get? key with
  | none =>
    rw [hv] at h
    obtain ⟨rfl, rfl⟩ := pure_eq_ok_iff.1 h
    simp [Json.documentsAt, Json.members, hv]
  | some value =>
    rw [hv] at h
    obtain ⟨documents, hd, heach⟩ := lift_bind_eq_ok_iff.1 h
    rw [asClauses_eq_ok hv hd]
    exact each_eq_ok_iff.1 heach

theorem length_of_clausesAt {key : String} {ps : List Predicate}
    (h : (clausesAt inner members key).outcome = .ok ps) :
    ps.length = ((Json.obj members).documentsAt key).length := by
  obtain ⟨-, rfl, -⟩ := clausesAt_eq_ok (Traced.ext rfl h)
  exact List.length_map _

/-- The predicates counted for the minimum are as many as the required clauses. -/
theorem length_required {must filter : List Predicate}
    (hmust : (clausesAt inner members "must").outcome = .ok must)
    (hfilter : (clausesAt inner members "filter").outcome = .ok filter) :
    (must ++ filter).length = (required (.obj members)).length := by
  rw [required, List.length_append, List.length_append, length_of_clausesAt hmust,
    length_of_clausesAt hfilter]

/-- The `should` clauses, given how many clauses are required. -/
def shouldGiven (inner : Json → Traced Predicate) (members : Json.Members) (count : Nat) :
    Traced (List Predicate) :=
  if (Minimum.effective (members.get? "minimum_should_match") count).1 = .one then
    clausesAt inner members "should"
  else pure []

theorem shouldGiven_congr {R : ∀ ⦃α : Type⦄, Traced α → Traced α → Prop} (hR : Congruence R)
    (h : ∀ d ∈ should (.obj members), R (inner d) (inner' d)) :
    R (shouldGiven inner members (required (.obj members)).length)
      (shouldGiven inner' members (required (.obj members)).length) := by
  unfold shouldGiven
  split
  · next hone =>
    have hs : should (.obj members) = (Json.obj members).documentsAt "should" := if_pos hone
    exact clausesAt_congr hR fun d hd => h d (hs ▸ hd)
  · exact hR.pure []

theorem shouldGiven_eq_ok {events : List Event} {ps : List Predicate}
    (h : shouldGiven inner members (required (.obj members)).length = ⟨events, .ok ps⟩) :
    (∀ d ∈ should (.obj members), (inner d).Succeeds) ∧
      ps = (should (.obj members)).map (fun d => (inner d).predicate) ∧
      events = (should (.obj members)).flatMap fun d => (inner d).events := by
  unfold shouldGiven at h
  split at h
  · next hone =>
    have hs : should (.obj members) = (Json.obj members).documentsAt "should" := if_pos hone
    rw [hs]
    exact clausesAt_eq_ok h
  · next hzero =>
    have hs : should (.obj members) = [] := if_neg hzero
    obtain ⟨rfl, rfl⟩ := pure_eq_ok_iff.1 h
    simp [hs]

theorem translate_eq (inner : Json → Traced Predicate) (body : Json) :
    translate inner body = (do
      let members ← body.asObject "bool"
      let must ← clausesAt inner members "must"
      let filter ← clausesAt inner members "filter"
      let should ← shouldGiven inner members (must ++ filter).length
      let mustNot ← clausesAt inner members "must_not"
      return combine (must ++ filter) should mustNot
        (Minimum.effective (members.get? "minimum_should_match") (must ++ filter).length).2) := by
  unfold translate
  congr
  funext members
  congr
  funext must
  congr
  funext filter
  dsimp only [shouldGiven]
  split <;> rfl

end BoolClause

/-! ## Comparing two translations of a clause -/

namespace Clause

open Traced

variable {inner inner' : Json → Traced Predicate} {R : ∀ ⦃α : Type⦄, Traced α → Traced α → Prop}

theorem bool_congr (hR : Congruence R) {body : Json} {alone : Bool}
    (h : ∀ d ∈ (known .bool body alone).parts, R (inner d) (inner' d)) :
    R (BoolClause.translate inner body) (BoolClause.translate inner' body) := by
  rw [BoolClause.translate_eq, BoolClause.translate_eq]
  refine hR.lift_bind _ fun members hm => ?_
  obtain rfl := Json.asObject_eq_ok_iff.1 hm
  simp only [parts, BoolClause.required, List.forall_mem_append] at h
  obtain ⟨⟨⟨hmust, hfilter⟩, hshould⟩, hnot⟩ := h
  refine hR.bind (BoolClause.clausesAt_congr hR hmust) fun must hlm => ?_
  refine hR.bind (BoolClause.clausesAt_congr hR hfilter) fun filter hlf => ?_
  rw [BoolClause.length_required hlm hlf]
  exact hR.bind (BoolClause.shouldGiven_congr hR hshould) fun should _ =>
    hR.bind (BoolClause.clausesAt_congr hR hnot) fun mustNot _ => hR.pure _

theorem query_congr (hR : Congruence R) {body : Json} {alone : Bool}
    (h : ∀ d ∈ (known .query body alone).parts, R (inner d) (inner' d)) :
    R (Wrapper.translateQuery inner body alone) (Wrapper.translateQuery inner' body alone) := by
  cases alone with
  | false => exact hR.pure _
  | true => exact h body List.mem_cons_self

theorem wrapper_congr (hR : Congruence R) (w : Wrapper) {body : Json}
    (h : ∀ d ∈ body.members.get? w.key, R (inner d) (inner' d)) :
    R (w.translate inner body) (w.translate inner' body) := by
  unfold Wrapper.translate
  refine hR.lift_bind _ fun members hm => hR.lift_bind _ fun wrapped hw => ?_
  obtain rfl := Json.asObject_eq_ok_iff.1 hm
  exact hR.bind (h wrapped (Json.required_eq_ok_iff.1 hw)) fun p _ => hR.pure _

theorem disMax_congr (hR : Congruence R) {body : Json} {alone : Bool}
    (h : ∀ d ∈ (known .disMax body alone).parts, R (inner d) (inner' d)) :
    R (Wrapper.translateDisMax inner body) (Wrapper.translateDisMax inner' body) := by
  unfold Wrapper.translateDisMax
  refine hR.lift_bind _ fun members hm => hR.lift_bind _ fun queries hq =>
    hR.lift_bind _ fun documents hd => ?_
  obtain rfl := Json.asObject_eq_ok_iff.1 hm
  obtain rfl := Json.asList_eq_ok_iff.1 hd
  have hitems : (known .disMax (.obj members) alone).parts = documents := by
    simp [parts, Json.itemsAt, Json.members, Json.required_eq_ok_iff.1 hq]
  rw [hitems] at h
  refine hR.bind (hR.each h) fun ps _ => ?_
  split <;> exact hR.pure _

theorem nested_congr (hR : Congruence R) {body : Json} {alone : Bool}
    (h : ∀ d ∈ (known .nested body alone).parts, R (inner d) (inner' d)) :
    R (Wrapper.translateNested inner body) (Wrapper.translateNested inner' body) := by
  unfold Wrapper.translateNested
  refine hR.lift_bind _ fun members hm => ?_
  obtain rfl := Json.asObject_eq_ok_iff.1 hm
  split
  · next wrapped hs hw =>
    refine h wrapped ?_
    simp [parts, Json.members, hs, hw]
  · exact hR.pure _

/-- Translations of a clause are related when the translations of its parts are. -/
theorem translate_congr (hR : Congruence R) (c : Clause)
    (h : ∀ d ∈ c.parts, R (inner d) (inner' d)) : R (c.translate inner) (c.translate inner') := by
  cases c with
  | unknown keys => exact hR.pure _
  | known kind body alone =>
    cases kind with
    | bool => exact bool_congr hR h
    | query => exact query_congr hR h
    | boosting => exact wrapper_congr hR .boosting fun d hd => h d (Option.mem_toList.2 hd)
    | constantScore =>
      exact wrapper_congr hR .constantScore fun d hd => h d (Option.mem_toList.2 hd)
    | disMax => exact disMax_congr hR h
    | nested => exact nested_congr hR h
    | leaf l => exact hR.lift _

/-- What holds of no events and of events one after the other holds of the events of a clause when
it holds of the events of its parts. -/
theorem translate_events {E : List Event → Prop} (nil : E [])
    (append : ∀ {a b}, E a → E b → E (a ++ b)) (c : Clause)
    (h : ∀ d ∈ c.parts, E (inner d).events) : E (c.translate inner).events :=
  @translate_congr inner inner _ (Congruence.of_events nil append) c h

end Clause

/-! ## Smaller documents -/

namespace Json

theorem sizeOf_lt_of_get? {members : Members} {key : String} {value : Json}
    (h : members.get? key = some value) : sizeOf value < sizeOf (obj members) := by
  obtain ⟨before, after, rfl, -⟩ := List.lookup_eq_some_iff.1 h
  have hmem : sizeOf (key, value) < sizeOf (before ++ (key, value) :: after) :=
    List.sizeOf_lt_of_mem (by simp)
  simp only [Prod.mk.sizeOf_spec, obj.sizeOf_spec] at hmem ⊢
  omega

variable {body : Json} {key : String}

/-- What is found under a key of a body is smaller than the body. -/
theorem sizeOf_lt_of_members {value : Json} (h : body.members.get? key = some value) :
    sizeOf value < sizeOf body := by
  cases body with
  | obj members => exact sizeOf_lt_of_get? h
  | _ => contradiction

theorem sizeOf_valueAt_le : sizeOf (body.valueAt key) ≤ sizeOf body := by
  unfold valueAt
  cases h : body.members.get? key with
  | some value => exact Nat.le_of_lt (sizeOf_lt_of_members h)
  | none => cases body <;> simp

theorem sizeOf_le_of_mem_arr {items : List Json} {d : Json}
    (h : body.members.get? key = some (.arr items)) (hd : d ∈ items) : sizeOf d ≤ sizeOf body := by
  have harr := sizeOf_lt_of_members h
  have hitem := List.sizeOf_lt_of_mem hd
  rw [arr.sizeOf_spec] at harr
  omega

theorem sizeOf_le_of_mem_itemsAt {d : Json} (h : d ∈ body.itemsAt key) :
    sizeOf d ≤ sizeOf body := by
  unfold itemsAt at h
  split at h
  · next items hitems => exact sizeOf_le_of_mem_arr hitems h
  · contradiction

theorem sizeOf_le_of_mem_documentsAt {d : Json} (h : d ∈ body.documentsAt key) :
    sizeOf d ≤ sizeOf body := by
  unfold documentsAt at h
  split at h
  · next items hitems => exact sizeOf_le_of_mem_arr hitems h
  · next members hmembers =>
    obtain rfl := List.mem_singleton.1 h
    exact Nat.le_of_lt (sizeOf_lt_of_members hmembers)
  · contradiction

end Json

/-- The body of a classified clause is found under the key of its kind. -/
theorem Clause.get?_of_classify {members : Json.Members} {kind : Kind} {body : Json} {alone : Bool}
    (h : classify members = known kind body alone) : members.get? kind.key = some body := by
  dsimp only [classify] at h
  split at h
  · next hfound =>
    obtain ⟨rfl, rfl, -⟩ := Clause.known.inj h
    obtain ⟨k, -, hk⟩ := List.exists_of_findSome?_eq_some hfound
    obtain ⟨_, hget, ⟨⟩⟩ := Option.map_eq_some_iff.1 hk
    exact hget
  · contradiction

theorem Clause.alone_of_classify {members : Json.Members} {kind : Kind} {body : Json} {alone : Bool}
    (h : classify members = known kind body alone) : alone = (members.length == 1) := by
  dsimp only [classify] at h
  split at h
  · exact (Clause.known.inj h).2.2.symm
  · contradiction

theorem Clause.keys_of_classify {members : Json.Members} {keys : List String}
    (h : classify members = unknown keys) : keys = members.keys := by
  dsimp only [classify] at h
  split at h
  · contradiction
  · exact (Clause.unknown.inj h).symm

end ClauseFilter
