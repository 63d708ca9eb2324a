import ClauseFilter.Proofs.Steps

/-!
# Steps that are taken

A translation takes the steps of its document up to the first fault among them: it tells the events
before it and ends in it, or has a predicate if there is none (`translateWithin_takes`).
-/

namespace ClauseFilter

open Step Json

/-! ## Taking steps -/

namespace Traced

variable {α β : Type}

/-- The fault in which a computation has ended. -/
def fault? (x : Traced α) : Option Fault :=
  match x.outcome with
  | .ok _ => none
  | .error fault => some fault

/-- Whether a computation takes steps up to the first fault among them. -/
structure Takes (x : Traced α) (steps : List Step) : Prop where
  events : x.events = (reached steps).filterMap event?
  fault? : x.fault? = firstFault steps

theorem takes_pure (a : α) : (pure a : Traced α).Takes [] :=
  ⟨rfl, rfl⟩

theorem takes_emit (e : Event) : (emit e).Takes [.tell e] :=
  ⟨rfl, rfl⟩

theorem takes_look (pointer : Pointer) {outcome : Except Fault α} {fault : Option Fault}
    (h : (ofExcept outcome).fault? = fault) : (ofExcept outcome).Takes [.look pointer fault] := by
  subst h
  cases outcome <;> exact ⟨rfl, rfl⟩

theorem ofExcept_bind (x : Except Fault α) (f : α → Except Fault β) :
    ofExcept (x >>= f) = ofExcept x >>= fun a => ofExcept (f a) := by
  cases x <;> rfl

namespace Takes

variable {x : Traced α} {f : α → Traced β} {s t : List Step}

theorem bind (hx : x.Takes s) (hf : ∀ a, x.outcome = .ok a → (f a).Takes t) :
    (x >>= f).Takes (s ++ t) := by
  obtain ⟨events, outcome⟩ := x
  cases outcome with
  | error fault =>
    have hfault : firstFault s = some fault := hx.fault?.symm
    refine ⟨?_, ?_⟩
    · rw [error_bind, reached_append, hfault]
      simpa using hx.events
    · rw [error_bind, firstFault_append, hfault]
      rfl
  | ok a =>
    have hfault : firstFault s = none := hx.fault?.symm
    have ha := hf a rfl
    refine ⟨?_, ?_⟩
    · rw [ok_bind, reached_append, if_pos hfault, List.filterMap_append, ← hx.events, ← ha.events]
    · rw [ok_bind, firstFault_append, hfault, Option.none_or, ← ha.fault?]
      rfl

theorem bind_last (hx : x.Takes s) (hf : ∀ a, x.outcome = .ok a → (f a).Takes []) :
    (x >>= f).Takes s :=
  s.append_nil ▸ hx.bind hf

theorem under (h : x.Takes s) (access : Access) : x.Takes (s.map (under access)) := by
  refine ⟨?_, by rw [h.fault?, firstFault_map_under]⟩
  rw [h.events, reached_map_under, List.filterMap_map]
  congr
  funext step
  cases step <;> rfl

/-- Steps without a fault lead to a result. -/
theorem exists_ok (h : x.Takes s) (hnone : firstFault s = none) : ∃ a, x.outcome = .ok a := by
  have hfault : x.fault? = none := h.fault?.trans hnone
  unfold Traced.fault? at hfault
  cases houtcome : x.outcome with
  | ok a => exact ⟨a, rfl⟩
  | error fault => simp [houtcome] at hfault

theorem outcome_eq_error (h : x.Takes s) {fault : Fault} (hsome : firstFault s = some fault) :
    x.outcome = .error fault := by
  have hfault : x.fault? = some fault := h.fault?.trans hsome
  unfold Traced.fault? at hfault
  cases houtcome : x.outcome with
  | ok a => simp [houtcome] at hfault
  | error f => simpa [houtcome] using hfault

theorem events_eq {y : Traced α} (hx : x.Takes s) (hy : y.Takes t) (h : reached t = reached s) :
    y.events = x.events := by
  rw [hx.events, hy.events, h]

/-- A look that can find no fault leaves no trace. -/
theorem free (h : x.Takes s) (pointer : Pointer) : x.Takes (.look pointer none :: s) :=
  ⟨h.events, h.fault?⟩

end Takes

theorem takes_each {inner : Json → Traced α} {into : Json → List Step} {values : List Json}
    (h : ∀ value ∈ values, (inner value).Takes (into value)) (index : Nat) :
    (each inner values).Takes (through into index values) := by
  induction values generalizing index with
  | nil => exact takes_pure []
  | cons value rest ih =>
    obtain ⟨hvalue, hrest⟩ := List.forall_mem_cons.1 h
    exact (hvalue.under _).bind fun _ _ => (ih hrest _).bind_last fun _ _ => takes_pure _

theorem takes_asObject (context : String) (value : Json) :
    (ofExcept (value.asObject context)).Takes [.look [] (value.objectFault context)] :=
  takes_look [] (by cases value <;> rfl)

theorem takes_asText (clause key : String) (value : Json) :
    (ofExcept (value.asText clause key)).Takes (textSteps clause key value) :=
  takes_look [] (by cases value <;> rfl)

theorem takes_asList (clause key : String) (value : Json) :
    (ofExcept (value.asList clause key)).Takes [.look [] (value.typeFault clause key .list)] :=
  takes_look [] (by cases value <;> rfl)

theorem takes_asClauses (clause key : String) (value : Json) :
    (ofExcept (value.asClauses clause key)).Takes
      [.look [] (value.typeFault clause key .clauses)] :=
  takes_look [] (by cases value <;> rfl)

theorem takes_required (clause key : String) (members : Members) :
    (ofExcept (members.required clause key)).Takes
      [.look [] ((Json.obj members).keyFault clause key)] := by
  refine takes_look [] ?_
  unfold Members.required keyFault Members.has Json.members
  cases members.get? key <;> rfl

/-- Steps in the body of a clause, which has to be an object. -/
theorem takes_body (steps : Json → List Step) (body : Json) {context : String}
    {f : Members → Traced α} (h : ∀ members, (f members).Takes (steps (.obj members))) :
    (ofExcept (body.asObject context) >>= f).Takes
      (.look [] (body.objectFault context) :: steps body) := by
  refine (takes_asObject context body).bind fun members hmembers => ?_
  obtain rfl := asObject_eq_ok_iff.1 hmembers
  exact h members

end Traced

/-! ## Leaf clauses -/

section Leaves

open Traced

variable (body : Json)

theorem takes_withinFree {α : Type} {x : Traced α} {s : List Step} (h : x.Takes s) (key : String) :
    x.Takes (within key freeSteps body ++ s) := by
  unfold within
  cases body.members.get? key with
  | none => exact h
  | some value => exact h.free _

theorem Search.multiMatch_takes :
    (ofExcept (translateMultiMatch body)).Takes
      (.look [] (body.objectFault "multi_match") :: multiMatchSteps body) := by
  rw [translateMultiMatch, ofExcept_bind]
  refine takes_body multiMatchSteps body fun members => ?_
  refine takes_withinFree _ ?_ "type"
  change (ofExcept (if hasDefaultType (.obj members) then _ else _)).Takes _
  split
  · rw [ofExcept_bind]
    exact (takes_required _ _ members).bind fun _ _ => takes_pure _
  · exact takes_pure _

theorem Search.queryString_takes :
    (ofExcept (translateQueryString body)).Takes
      (.look [] (body.objectFault "query_string") :: queryStringSteps body) := by
  rw [translateQueryString, ofExcept_bind]
  refine takes_body queryStringSteps body fun members => ?_
  rw [ofExcept_bind]
  exact (takes_required _ _ members).bind fun _ _ => takes_pure _

theorem takes_texts (clause key : String) (values : List Json) (index : Nat) :
    (ofExcept (values.mapM (asText clause key))).Takes
      (through (textSteps clause key) index values) := by
  induction values generalizing index with
  | nil => exact takes_pure []
  | cons value rest ih =>
    rw [List.mapM_cons, ofExcept_bind]
    refine ((takes_asText clause key value).under _).bind fun _ _ => ?_
    rw [ofExcept_bind]
    exact (ih _).bind_last fun _ _ => takes_pure _

theorem takes_within {α : Type} {x : Traced α} {members : Members} {key : String} {value : Json}
    {into : Json → List Step} (hvalue : members.get? key = some value) (h : x.Takes (into value)) :
    x.Takes (within key into (.obj members)) := by
  unfold within Json.members
  rw [hvalue]
  exact h.under _

/-- A value that is required and there is looked into. -/
theorem takes_requiredWithin {α : Type} {members : Members} {clause key : String}
    {f : Json → Except Fault α} {into : Json → List Step} (hkey : members.has key = true)
    (h : ∀ value, (ofExcept (f value)).Takes (into value)) :
    (ofExcept (members.required clause key >>= f)).Takes (within key into (.obj members)) := by
  obtain ⟨value, hvalue⟩ := Option.isSome_iff_exists.1 hkey
  rw [ofExcept_bind, required_eq_ok_iff.2 hvalue]
  exact takes_within hvalue (h value)

theorem Search.keyed_takes {members : Members} (h : IsKeyed (.obj members)) :
    (ofExcept (translateKeyed members)).Takes
      (within "query" (textSteps "simple_query_string" "query") (.obj members) ++
        within "fields" fieldsSteps (.obj members)) := by
  unfold translateKeyed
  rw [← bind_assoc, ofExcept_bind]
  refine (takes_requiredWithin (h.2 "query" (by decide)) (takes_asText _ _)).bind fun query _ => ?_
  refine takes_requiredWithin (h.2 "fields" (by decide)) fun value => ?_
  rw [ofExcept_bind]
  refine (takes_asList _ _ value).bind fun items hitems => ?_
  obtain rfl := asList_eq_ok_iff.1 hitems
  rw [ofExcept_bind]
  refine (takes_texts _ _ items 0).bind_last fun fields _ => ?_
  split
  · split
    · exact takes_pure _
    · split <;> exact takes_pure _
  · exact takes_pure _

theorem Search.translateSimple_of_isKeyed {members : Members} (h : IsKeyed (.obj members)) :
    translateSimple (.obj members) = translateKeyed members := by
  have hlength : ¬(members.length ≠ 3 ∧ members.length ≠ 4) := by
    rintro ⟨hthree, hfour⟩
    exact h.1.elim hthree hfour
  have hfind : (requiredKeys.find? fun key => !members.has key) = none := by
    rw [List.find?_eq_none]
    intro key hkey
    have hhas : members.has key = true := h.2 key hkey
    simp [hhas]
  show (if members.length ≠ 3 ∧ members.length ≠ 4 then _ else _) = _
  rw [if_neg hlength, hfind]

theorem Search.translateSimple_of_not_isKeyed {members : Members} (h : ¬IsKeyed (.obj members)) :
    ∃ reason, translateSimple (.obj members) = .ok (rejected reason) := by
  show ∃ reason, (if members.length ≠ 3 ∧ members.length ≠ 4 then _ else _) =
    Except.ok (rejected reason)
  by_cases hlength : members.length ≠ 3 ∧ members.length ≠ 4
  · rw [if_pos hlength]
    exact ⟨_, rfl⟩
  rw [if_neg hlength]
  cases hfind : requiredKeys.find? fun key => !members.has key with
  | some key => exact ⟨_, rfl⟩
  | none =>
    refine absurd ⟨?_, fun key hkey => ?_⟩ h
    · exact (Decidable.not_and_iff_not_or_not.1 hlength).imp Decidable.not_not.1 Decidable.not_not.1
    · change members.has key = true
      simpa using List.find?_eq_none.1 hfind key hkey

theorem Search.simple_takes :
    (ofExcept (translateSimple body)).Takes
      (.look [] (body.objectFault "simple_query_string") :: simpleSteps body) := by
  rw [translateSimple, ofExcept_bind]
  refine takes_body simpleSteps body fun members => ?_
  change (ofExcept (translateSimple (.obj members))).Takes
    (if IsKeyed (.obj members) then _ else [])
  by_cases hkeyed : IsKeyed (.obj members)
  · rw [translateSimple_of_isKeyed hkeyed, if_pos hkeyed]
    exact keyed_takes hkeyed
  · obtain ⟨reason, hrejected⟩ := translateSimple_of_not_isKeyed hkeyed
    rw [hrejected, if_neg hkeyed]
    exact takes_pure _

theorem Comparison.comparison_takes (c : Comparison) :
    (ofExcept (c.translate body)).Takes [.look [] (body.objectFault c.clause)] := by
  rw [translate, ofExcept_bind]
  refine takes_body (fun _ => []) body fun members => ?_
  split
  · exact takes_pure _
  · split <;> exact takes_pure _

theorem Range.range_takes :
    (ofExcept (translate body)).Takes
      (.look [] (body.objectFault "range") :: steps body) := by
  rw [translate, ofExcept_bind]
  refine takes_body steps body fun members => ?_
  split
  · exact takes_pure _
  · next field value =>
    rw [ofExcept_bind]
    refine ((takes_asObject _ value).under (.member field)).bind fun given _ => ?_
    split <;> exact takes_pure _
  · next hone =>
    have hlength : members.length ≠ 1 := by
      intro h
      obtain ⟨⟨field, value⟩, rfl⟩ := List.length_eq_one_iff.1 h
      exact hone field value rfl
    rw [steps, withinOnly, Json.members, Members.single?_eq_none hlength]
    exact takes_pure _

theorem Leaf.existence_takes :
    (ofExcept (translateExistence body)).Takes
      (.look [] (body.objectFault "exists") :: existenceSteps body) := by
  rw [translateExistence, ofExcept_bind]
  refine takes_body existenceSteps body fun members => ?_
  change (ofExcept (if members.length = 1 then _ else _)).Takes
    (if members.length = 1 then _ else _)
  split
  · rw [ofExcept_bind]
    exact (takes_required _ _ members).bind fun _ _ => takes_pure _
  · exact takes_pure _

theorem Leaf.matchAll_takes :
    (ofExcept (translateMatchAll body)).Takes
      [.look [] (body.objectFault "match_all")] := by
  rw [translateMatchAll, ofExcept_bind]
  refine takes_body (fun _ => []) body fun members => ?_
  split <;> exact takes_pure _

theorem Pattern.patternOf_takes (clause field : String) (value : Json) :
    (ofExcept (patternOf clause field value)).Takes (steps clause field value) := by
  cases value with
  | obj options =>
    rw [patternOf, ofExcept_bind]
    refine (takes_required clause "value" options).bind fun pattern hpattern => ?_
    exact takes_within (required_eq_ok_iff.1 hpattern) (takes_asText clause "value" pattern)
  | _ => exact takes_look [] rfl

theorem Pattern.wildcard_takes :
    (ofExcept (translateWildcard body)).Takes
      (.look [] (body.objectFault "wildcard") :: wildcardSteps body) := by
  rw [translateWildcard, ofExcept_bind]
  refine takes_body wildcardSteps body fun members => ?_
  unfold wildcardSteps withinOnly
  dsimp only [Json.members]
  cases members.single? with
  | none => exact takes_pure _
  | some entry =>
    obtain ⟨field, value⟩ := entry
    rw [ofExcept_bind]
    refine ((patternOf_takes "wildcard" field value).under _).bind_last fun pattern _ => ?_
    split
    · exact takes_pure _
    · split
      · exact takes_pure _
      · split <;> exact takes_pure _

theorem Pattern.prefix_takes :
    (ofExcept (translatePrefix body)).Takes
      (.look [] (body.objectFault "prefix") :: prefixSteps body) := by
  rw [translatePrefix, ofExcept_bind]
  refine takes_body prefixSteps body fun members => ?_
  unfold prefixSteps withinOnly
  dsimp only [Json.members]
  cases members.single? with
  | none => exact takes_pure _
  | some entry =>
    obtain ⟨field, value⟩ := entry
    refine Takes.free ?_ _
    dsimp only
    split
    · rw [ofExcept_bind]
      exact ((patternOf_takes "prefix" field value).under _).bind_last fun pattern _ => takes_pure _
    · exact takes_pure _

theorem Leaf.takes (l : Leaf) :
    (ofExcept (l.translate body)).Takes (.look [] (body.objectFault l.key) :: l.steps body) := by
  cases l with
  | multiMatch => exact Search.multiMatch_takes body
  | range => exact Range.range_takes body
  | term => exact Comparison.comparison_takes body .term
  | terms => exact Comparison.comparison_takes body .terms
  | matching => exact Comparison.comparison_takes body .matching
  | matchPhrase => exact Comparison.comparison_takes body .matchPhrase
  | existence => exact existence_takes body
  | simpleQueryString => exact Search.simple_takes body
  | matchAll => exact matchAll_takes body
  | wildcard => exact Pattern.wildcard_takes body
  | beginning => exact Pattern.prefix_takes body
  | queryString => exact Search.queryString_takes body

end Leaves

/-! ## Clauses that hold clauses -/

section Compounds

open Traced

variable {inner : Json → Traced Predicate} {into : Json → List Step}
  (h : ∀ document, (inner document).Takes (into document))
include h

theorem BoolClause.clausesAt_takes (members : Members) (key : String) :
    (clausesAt inner members key).Takes (within key (listSteps into key) (.obj members)) := by
  unfold clausesAt within
  dsimp only [Json.members]
  cases members.get? key with
  | none => exact takes_pure _
  | some value =>
    refine ((takes_asClauses "bool" key value).bind fun documents hd => ?_).under _
    cases value with
    | arr items =>
      obtain ⟨⟩ := hd
      exact takes_each (fun d _ => h d) 0
    | obj members =>
      obtain ⟨⟩ := hd
      exact (h _).bind_last fun p _ => takes_pure _
    | _ => contradiction

theorem BoolClause.bool_takes (body : Json) :
    (BoolClause.translate inner body).Takes
      (.look [] (body.objectFault "bool") :: BoolClause.steps into body) := by
  rw [BoolClause.translate_eq]
  refine takes_body (BoolClause.steps into) body fun members => ?_
  unfold BoolClause.steps
  simp only [List.append_assoc]
  refine (clausesAt_takes h members "must").bind fun must hmust => ?_
  refine (clausesAt_takes h members "filter").bind fun filter hfilter => ?_
  refine takes_withinFree _ ?_ _
  rw [length_required hmust hfilter]
  refine Takes.bind ?_ fun should _ =>
    (clausesAt_takes h members "must_not").bind_last fun mustNot _ => takes_pure _
  unfold shouldGiven
  change (if (minimum (.obj members)).1 = .one then _ else _ : Traced (List Predicate)).Takes _
  split
  · exact clausesAt_takes h members "should"
  · exact takes_pure _

theorem Wrapper.wrapper_takes (w : Wrapper) (body : Json) :
    (w.translate inner body).Takes
      (.look [] (body.objectFault w.clause) :: .look [] (body.keyFault w.clause w.key) ::
        within w.key into body) := by
  unfold Wrapper.translate
  refine takes_body (fun body => .look [] (body.keyFault w.clause w.key) :: within w.key into body)
    body fun members => ?_
  refine (takes_required w.clause w.key members).bind fun wrapped hw => ?_
  exact (takes_within (required_eq_ok_iff.1 hw) (h wrapped)).bind_last fun p _ => takes_pure _

theorem Wrapper.disMax_takes (body : Json) :
    (translateDisMax inner body).Takes
      (.look [] (body.objectFault "dis_max") :: Clause.Kind.disMax.steps into body) := by
  unfold translateDisMax
  refine takes_body (Clause.Kind.disMax.steps into) body fun members => ?_
  refine (takes_required "dis_max" "queries" members).bind fun queries hq => ?_
  refine takes_within (required_eq_ok_iff.1 hq) ?_
  refine (takes_asList "dis_max" "queries" queries).bind fun documents hd => ?_
  obtain rfl := asList_eq_ok_iff.1 hd
  refine (takes_each (fun d _ => h d) 0).bind_last fun ps _ => ?_
  split <;> exact takes_pure _

theorem Wrapper.nested_takes (body : Json) :
    (translateNested inner body).Takes
      (.look [] (body.objectFault "nested") :: Clause.Kind.nested.steps into body) := by
  unfold translateNested
  refine takes_body (Clause.Kind.nested.steps into) body fun members => ?_
  change Takes _ (if members.length = 2 ∧ members.has "path" then _ else _)
  by_cases hform : members.length = 2 ∧ members.has "path"
  · have hform' : (members.length == 2 && members.has "path") = true := by simpa using hform
    rw [if_pos hform, hform']
    unfold within
    dsimp only [Json.members]
    cases members.get? "query" with
    | none => exact takes_pure _
    | some wrapped => exact (h wrapped).under _
  · have hform' : (members.length == 2 && members.has "path") = false := by simpa using hform
    rw [if_neg hform, hform']
    exact takes_pure _

theorem Clause.known_takes {members : Members} {kind : Kind} {body : Json} {alone : Bool}
    (hc : classify members = known kind body alone) :
    ((known kind body alone).translate inner).Takes
      (Clause.steps into (some kind) (.obj members)) := by
  have hbody := get?_of_classify hc
  cases kind with
  | query =>
    obtain rfl := alone_of_classify hc
    change Traced.Takes _ (if members.length = 1 then _ else _)
    by_cases hone : members.length = 1
    · rw [if_pos hone]
      have hone' : (members.length == 1) = true := by simpa using hone
      rw [hone']
      exact takes_within hbody (h body)
    · rw [if_neg hone]
      have hone' : (members.length == 1) = false := by simpa using hone
      rw [hone']
      exact takes_pure _
  | bool => exact takes_within hbody (BoolClause.bool_takes h body)
  | boosting => exact takes_within hbody (Wrapper.wrapper_takes h .boosting body)
  | constantScore => exact takes_within hbody (Wrapper.wrapper_takes h .constantScore body)
  | disMax => exact takes_within hbody (Wrapper.disMax_takes h body)
  | nested => exact takes_within hbody (Wrapper.nested_takes h body)
  | leaf l => exact takes_within hbody (l.takes body)

end Compounds

/-- A translation tells the events before the first fault among its steps and ends in that fault. -/
theorem translateWithin_takes (levels : Nat) (env : Env) (document : Json) :
    (translateWithin levels env document).Takes (document.steps levels env) := by
  induction levels generalizing env document with
  | zero => exact (Traced.takes_emit _).bind_last fun _ _ => Traced.takes_pure _
  | succ levels ih =>
    refine Traced.takes_body (fun document =>
      let kind := (Clause.classify document.members).kind?
      .tell (.clause kind env.descend.depth) ::
        Clause.steps (Json.steps levels env.descend) kind document) document fun members => ?_
    refine (Traced.takes_emit _).bind fun _ _ => ?_
    change (Clause.translate _ (Clause.classify members)).Takes
      (Clause.steps _ (Clause.classify members).kind? (.obj members))
    cases hc : Clause.classify members with
    | unknown keys => exact Traced.takes_pure _
    | known kind body alone => exact Clause.known_takes (ih env.descend) hc

end ClauseFilter
