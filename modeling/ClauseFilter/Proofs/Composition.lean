import ClauseFilter.Proofs.Parts

/-!
# How predicates are composed

When the translation of a clause ends without a fault, all of its parts have been translated, and
its predicate is composed from theirs in one of a few ways (`Clause.Composed`). So what holds of the
predicate and the events of every document is shown by one case for each of these ways, and one for
a document that is cut off (`translateWithin_induction`).
-/

namespace ClauseFilter

open Traced

/-- The ways in which a clause comes to its predicate, `t` giving the predicates of its parts. -/
inductive Clause.Composed (t : Json → Predicate) : Clause → Predicate → Prop
  | bool (body : Json) (alone : Bool) :
    Composed t (.known .bool body alone)
      (BoolClause.combine ((BoolClause.required body).map t) ((BoolClause.should body).map t)
        ((body.documentsAt "must_not").map t) (BoolClause.minimum body).2)
  | query (body : Json) : Composed t (.known .query body true) (t body)
  | crowdedQuery (body : Json) :
    Composed t (.known .query body false) (.untranslatable "Need only 1 query" "Invalid query")
  | boosting (body : Json) (alone : Bool) (wrapped : Json)
      (h : body.members.get? "positive" = some wrapped) :
    Composed t (.known .boosting body alone) ((t wrapped).withNote "skipping boosting")
  | constantScore (body : Json) (alone : Bool) (wrapped : Json)
      (h : body.members.get? "filter" = some wrapped) :
    Composed t (.known .constantScore body alone) ((t wrapped).withNote "skipping constant score")
  | disMax (body : Json) (alone : Bool) (h : body.itemsAt "queries" ≠ []) :
    Composed t (.known .disMax body alone)
      ((Predicate.disj ((body.itemsAt "queries").map t)).withNote "skipping dis_max")
  | emptyDisMax (body : Json) (alone : Bool) (h : body.itemsAt "queries" = []) :
    Composed t (.known .disMax body alone)
      (.untranslatable "dis_max without queries" "Invalid dis_max")
  | nested (body : Json) (alone : Bool) (wrapped : Json)
      (supported : (body.members.length == 2 && body.members.has "path") = true)
      (h : body.members.get? "query" = some wrapped) :
    Composed t (.known .nested body alone) (t wrapped)
  | unsupportedNested (body : Json) (alone : Bool)
      (h : (Clause.known .nested body alone).parts = []) :
    Composed t (.known .nested body alone) (.untranslatable "not supported nested" "Invalid nested")
  | leaf (l : Leaf) (body : Json) (alone : Bool) (p : Predicate) (h : l.translate body = .ok p) :
    Composed t (.known (.leaf l) body alone) p
  | unknown (keys : List String) : Composed t (.unknown keys) (notImplemented keys)

namespace Clause

variable {inner : Json → Traced Predicate} {body : Json} {alone : Bool} {events : List Event}
  {p : Predicate}

/-- A run of a clause without a fault: all of its parts are translated, one after the other, and its
predicate is composed from theirs. -/
structure Completes (inner : Json → Traced Predicate) (c : Clause) (events : List Event)
    (p : Predicate) : Prop where
  succeeds : ∀ d ∈ c.parts, (inner d).Succeeds
  composed : c.Composed (fun d => (inner d).predicate) p
  events_eq : events = c.parts.flatMap fun d => (inner d).events

/-- A clause without parts completes by itself. -/
theorem Completes.of_parts_eq_nil {c : Clause} (hparts : c.parts = [])
    (hc : c.Composed (fun d => (inner d).predicate) p) : c.Completes inner [] p :=
  ⟨by simp [hparts], hc, by simp [hparts]⟩

/-- A clause with a single part completes when that part is translated. -/
theorem Completes.of_parts_eq_singleton {c : Clause} {d : Json} {q : Predicate}
    (hparts : c.parts = [d]) (hd : inner d = ⟨events, .ok q⟩)
    (hc : c.Composed (fun d => (inner d).predicate) p) : c.Completes inner events p :=
  ⟨by simpa [hparts] using succeeds_of_ok (congrArg Traced.outcome hd), hc, by simp [hparts, hd]⟩

theorem bool_completes (h : BoolClause.translate inner body = ⟨events, .ok p⟩) :
    (known .bool body alone).Completes inner events p := by
  rw [BoolClause.translate_eq] at h
  obtain ⟨members, hbody, h₁⟩ := lift_bind_eq_ok_iff.1 h
  obtain ⟨_, must, _, hmust, h₂, rfl⟩ := bind_eq_ok_iff.1 h₁
  obtain ⟨_, filter, _, hfilter, h₃, rfl⟩ := bind_eq_ok_iff.1 h₂
  obtain ⟨_, should, _, hshould, h₄, rfl⟩ := bind_eq_ok_iff.1 h₃
  obtain ⟨_, mustNot, _, hnot, hp, rfl⟩ := bind_eq_ok_iff.1 h₄
  obtain rfl := Json.asObject_eq_ok_iff.1 hbody
  obtain ⟨rfl, rfl⟩ := pure_eq_ok_iff.1 hp
  obtain ⟨smust, rfl, rfl⟩ := BoolClause.clausesAt_eq_ok hmust
  obtain ⟨sfilter, rfl, rfl⟩ := BoolClause.clausesAt_eq_ok hfilter
  obtain ⟨snot, rfl, rfl⟩ := BoolClause.clausesAt_eq_ok hnot
  rw [← List.map_append] at hshould ⊢
  rw [List.length_map] at hshould ⊢
  obtain ⟨sshould, rfl, rfl⟩ := BoolClause.shouldGiven_eq_ok hshould
  refine ⟨?_, .bool _ alone, ?_⟩
  · simp only [parts, BoolClause.required, List.forall_mem_append]
    exact ⟨⟨⟨smust, sfilter⟩, sshould⟩, snot⟩
  · simp [parts, BoolClause.required]

theorem query_completes (h : Wrapper.translateQuery inner body alone = ⟨events, .ok p⟩) :
    (known .query body alone).Completes inner events p := by
  cases alone with
  | false =>
    obtain ⟨rfl, rfl⟩ := pure_eq_ok_iff.1 h
    exact .of_parts_eq_nil rfl (.crowdedQuery body)
  | true =>
    have h : inner body = ⟨events, .ok p⟩ := h
    obtain rfl := predicate_of_ok (congrArg Traced.outcome h)
    exact .of_parts_eq_singleton rfl h (.query body)

/-- A wrapper has found the document that it wraps, and adds its note to the predicate of it. -/
theorem wrapper_eq_ok {w : Wrapper} (h : w.translate inner body = ⟨events, .ok p⟩) :
    ∃ wrapped q, body.members.get? w.key = some wrapped ∧ inner wrapped = ⟨events, .ok q⟩ ∧
      p = (inner wrapped).predicate.withNote w.note := by
  obtain ⟨members, hbody, h₁⟩ := lift_bind_eq_ok_iff.1 h
  obtain ⟨wrapped, hw, h₂⟩ := lift_bind_eq_ok_iff.1 h₁
  obtain ⟨_, q, _, hq, hp, rfl⟩ := bind_eq_ok_iff.1 h₂
  obtain ⟨rfl, rfl⟩ := pure_eq_ok_iff.1 hp
  obtain rfl := Json.asObject_eq_ok_iff.1 hbody
  refine ⟨wrapped, q, Json.required_eq_ok_iff.1 hw, by simpa using hq, ?_⟩
  rw [predicate_of_ok (congrArg Traced.outcome hq)]

theorem disMax_completes (h : Wrapper.translateDisMax inner body = ⟨events, .ok p⟩) :
    (known .disMax body alone).Completes inner events p := by
  obtain ⟨members, hbody, h₁⟩ := lift_bind_eq_ok_iff.1 h
  obtain ⟨queries, hq, h₂⟩ := lift_bind_eq_ok_iff.1 h₁
  obtain ⟨documents, hd, h₃⟩ := lift_bind_eq_ok_iff.1 h₂
  obtain ⟨_, ps, _, heach, hp, rfl⟩ := bind_eq_ok_iff.1 h₃
  obtain rfl := Json.asObject_eq_ok_iff.1 hbody
  obtain rfl := Json.asList_eq_ok_iff.1 hd
  obtain ⟨hs, rfl, rfl⟩ := each_eq_ok_iff.1 heach
  have hitems : (Json.obj members).itemsAt "queries" = documents := by
    simp [Json.itemsAt, Json.members, Json.required_eq_ok_iff.1 hq]
  rw [List.isEmpty_map] at hp
  cases documents with
  | nil =>
    obtain ⟨rfl, rfl⟩ := pure_eq_ok_iff.1 hp
    exact .of_parts_eq_nil hitems (.emptyDisMax _ _ hitems)
  | cons d rest =>
    obtain ⟨rfl, rfl⟩ := pure_eq_ok_iff.1 hp
    refine ⟨by rwa [parts, hitems], ?_, by simp [parts, hitems]⟩
    rw [← hitems]
    exact .disMax _ _ (by simp [hitems])

theorem nested_completes (h : Wrapper.translateNested inner body = ⟨events, .ok p⟩) :
    (known .nested body alone).Completes inner events p := by
  obtain ⟨members, hbody, hp⟩ := lift_bind_eq_ok_iff.1 h
  obtain rfl := Json.asObject_eq_ok_iff.1 hbody
  split at hp
  · next wrapped hs hw =>
    obtain rfl := predicate_of_ok (congrArg Traced.outcome hp)
    exact .of_parts_eq_singleton (by simp [parts, Json.members, hs, hw]) hp (.nested _ _ _ hs hw)
  · next hno =>
    obtain ⟨rfl, rfl⟩ := pure_eq_ok_iff.1 hp
    have hparts : (known .nested (.obj members) alone).parts = [] := by
      cases hs : (members.length == 2 && members.has "path") with
      | false => simp [parts, Json.members, hs]
      | true =>
        cases hw : members.get? "query" with
        | none => simp [parts, Json.members, hw]
        | some wrapped => exact absurd hw (hno wrapped hs)
    exact .of_parts_eq_nil hparts (.unsupportedNested _ _ hparts)

/-- What a clause whose translation ends without a fault has done. -/
theorem completes_of_translate_eq {c : Clause} (h : c.translate inner = ⟨events, .ok p⟩) :
    c.Completes inner events p := by
  cases c with
  | unknown keys =>
    obtain ⟨rfl, rfl⟩ := pure_eq_ok_iff.1 h
    exact .of_parts_eq_nil rfl (.unknown keys)
  | known kind body alone =>
    cases kind with
    | bool => exact bool_completes h
    | query => exact query_completes h
    | boosting =>
      obtain ⟨wrapped, q, hw, hq, rfl⟩ := wrapper_eq_ok h
      exact .of_parts_eq_singleton (congrArg Option.toList hw) hq (.boosting _ _ _ hw)
    | constantScore =>
      obtain ⟨wrapped, q, hw, hq, rfl⟩ := wrapper_eq_ok h
      exact .of_parts_eq_singleton (congrArg Option.toList hw) hq (.constantScore _ _ _ hw)
    | disMax => exact disMax_completes h
    | nested => exact nested_completes h
    | leaf l =>
      obtain ⟨hl, rfl⟩ := lift_eq_ok_iff.1 h
      exact .of_parts_eq_nil rfl (.leaf l body alone p hl)

end Clause

/-! ## Whole documents -/

/-- What a document's translation has done when it ends without a fault above the maximum depth. -/
theorem completes_of_translateWithin_eq {levels : Nat} {env : Env} {document : Json}
    {events : List Event} {p : Predicate}
    (h : translateWithin (levels + 1) env document = ⟨events, .ok p⟩) :
    ∃ members rest, document = .obj members ∧
      events = .clause (Clause.classify members).kind? env.descend.depth :: rest ∧
      (Clause.classify members).Completes (translateWithin levels env.descend) rest p := by
  obtain ⟨members, hm, h₁⟩ := lift_bind_eq_ok_iff.1 h
  obtain ⟨rfl, hp⟩ := Traced.mk.inj h₁
  exact ⟨members, _, Json.asObject_eq_ok_iff.1 hm, rfl,
    Clause.completes_of_translate_eq (Traced.ext rfl hp)⟩

/-- Induction over the documents that are translated without a fault: `Q` holds of a document, the
events and the predicate of its translation, if it holds of a document that is cut off, and of a
clause whenever it holds of the parts of the clause. -/
theorem translateWithin_induction {Q : Json → List Event → Predicate → Prop} {maxDepth : Nat}
    (cut : ∀ document, Q document [.depthExceeded maxDepth] (tooDeep maxDepth))
    (clause : ∀ (members : Json.Members) (depth : Nat) (t : Json → Predicate)
      (es : Json → List Event) (p : Predicate), (Clause.classify members).Composed t p →
      (∀ d ∈ (Clause.classify members).parts, Q d (es d) (t d)) →
      Q (.obj members)
        (.clause (Clause.classify members).kind? depth ::
          (Clause.classify members).parts.flatMap es) p)
    {levels : Nat} {env : Env} {document : Json} {events : List Event} {p : Predicate}
    (henv : env.maxDepth = maxDepth)
    (h : translateWithin levels env document = ⟨events, .ok p⟩) : Q document events p := by
  induction levels generalizing env document events p with
  | zero =>
    obtain ⟨rfl, ⟨⟩⟩ := Traced.mk.inj h
    exact henv ▸ cut document
  | succ levels ih =>
    obtain ⟨members, rest, rfl, rfl, hc⟩ := completes_of_translateWithin_eq h
    rw [hc.events_eq]
    refine clause members _ _ _ p hc.composed fun d hd => ?_
    exact @ih env.descend d _ _ henv (Traced.ext rfl (hc.succeeds d hd))

theorem translate_predicate (maxDepth : Nat) (document : Json) :
    (translate maxDepth document).predicate =
      (translateClause (.top maxDepth) document).predicate := by
  dsimp only [translate, Traced.predicate]
  cases (translateClause (.top maxDepth) document).outcome <;> rfl

/-- A document that has a fault in it is not translatable. -/
theorem outcome_of_translatable {maxDepth : Nat} {document : Json}
    (h : (translate maxDepth document).predicate.translatable = true) :
    (translateClause (.top maxDepth) document).outcome =
      .ok (translate maxDepth document).predicate := by
  rw [translate_predicate] at h ⊢
  cases ho : (translateClause (.top maxDepth) document).outcome with
  | ok p => rw [predicate_of_ok ho]
  | error fault =>
    rw [predicate, ho] at h
    contradiction

end ClauseFilter
