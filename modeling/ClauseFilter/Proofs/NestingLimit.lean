import ClauseFilter.Proofs.Diagnostics

/-!
# The maximum depth

A greater maximum depth changes nothing for a document that is not cut off. Where a clause is cut
off, the predicate is not translatable, and the run with the greater maximum depth does the same up
to there and goes on with this clause (`translateClause_of_le`).
-/

namespace ClauseFilter

/-- `Reaches document n x`: the translation of a document comes to the clause document `x`, which is
`n` clauses further down. -/
inductive Reaches : Json → Nat → Json → Prop
  | self (document : Json) : Reaches document 0 document
  | part {members : Json.Members} {d x : Json} {n : Nat}
    (hd : d ∈ (Clause.classify members).parts) (h : Reaches d n x) :
    Reaches (.obj members) (n + 1) x

namespace Traced

variable {α β : Type}

/-- Whether a clause is cut off. -/
def IsCut (x : Traced α) : Prop :=
  ∃ e ∈ x.events, e.isCut = true

/-- After some events the clause document is translated at a depth, or found to be no clause. -/
def GoesOn (x : Traced α) (before : List Event) (depth : Nat) : Json → Prop
  | .obj members => before ++ [.clause (Clause.classify members).kind? depth] <+: x.events
  | document => x = ⟨before, .error (.notAnObject "clause" document.kind)⟩

/-- `deep` is the same as `shallow`, unless a clause out of `S` is cut off by the maximum depth `m`;
then it is the same up to the first such clause, and goes on with it. -/
inductive Follows (m : Nat) (S : Json → Prop) (shallow deep : Traced α) : Prop
  | same (quiet : ∀ e ∈ shallow.events, e.isCut = false) (h : deep = shallow)
  | further (before after : List Event) (document : Json) (hS : S document)
    (quiet : ∀ e ∈ before, e.isCut = false)
    (hevents : shallow.events = before ++ .depthExceeded m :: after)
    (h : deep.GoesOn before (m + 1) document)

theorem GoesOn.bind {x : Traced α} {before : List Event} {depth : Nat} {document : Json}
    (h : x.GoesOn before depth document) (f : α → Traced β) :
    (x >>= f).GoesOn before depth document := by
  cases document with
  | obj members => exact h.trans (events_prefix_bind x f)
  | _ =>
    obtain rfl : x = ⟨before, .error _⟩ := h
    exact error_bind before _ f

/-- Events in front of a computation that goes on. -/
theorem GoesOn.after {a : α} {f : α → Traced β} {before : List Event} {depth : Nat}
    {document : Json} (h : (f a).GoesOn before depth document) (events : List Event) :
    ((⟨events, .ok a⟩ : Traced α) >>= f).GoesOn (events ++ before) depth document := by
  rw [ok_bind]
  cases document with
  | obj members =>
    rw [GoesOn, List.append_assoc]
    exact (List.prefix_append_right_inj events).2 h
  | _ =>
    have hf : f a = ⟨before, .error _⟩ := h
    rw [hf]
    exact rfl

namespace Follows

variable {m : Nat} {S T : Json → Prop} {shallow deep : Traced α}

theorem mono (hST : ∀ document, S document → T document) (h : Follows m S shallow deep) :
    Follows m T shallow deep := by
  cases h with
  | same quiet h => exact .same quiet h
  | further before after document hS quiet hevents h =>
    exact .further before after document (hST document hS) quiet hevents h

theorem eq_of_not_isCut (h : Follows m S shallow deep) (hno : ¬ shallow.IsCut) :
    deep = shallow := by
  cases h with
  | same quiet h => exact h
  | further before after document hS quiet hevents h =>
    refine absurd ⟨.depthExceeded m, ?_, rfl⟩ hno
    rw [hevents]
    exact List.mem_append_right before List.mem_cons_self

/-- Where a clause is cut off, the first one that is has been translated by `deep`. -/
theorem goesOn_of_isCut (h : Follows m S shallow deep) (hcut : shallow.IsCut) :
    ∃ before after document, S document ∧ (∀ e ∈ before, e.isCut = false) ∧
      shallow.events = before ++ .depthExceeded m :: after ∧
      deep.GoesOn before (m + 1) document := by
  cases h with
  | same quiet h =>
    obtain ⟨e, he, htrue⟩ := hcut
    rw [quiet e he] at htrue
    contradiction
  | further before after document hS quiet hevents h =>
    exact ⟨before, after, document, hS, quiet, hevents, h⟩

theorem bind {f g : α → Traced β} (h : Follows m S shallow deep)
    (hf : ∀ a, shallow.outcome = .ok a → Follows m S (f a) (g a)) :
    Follows m S (shallow >>= f) (deep >>= g) := by
  cases h with
  | same quiet h =>
    subst h
    obtain ⟨events, outcome⟩ := deep
    cases outcome with
    | error fault => exact .same quiet rfl
    | ok a =>
      cases hf a rfl with
      | same quiet' h' =>
        refine .same (List.forall_mem_append.2 ⟨quiet, quiet'⟩) ?_
        rw [ok_bind, ok_bind, h']
      | further before after document hS quiet' hevents h' =>
        refine .further (events ++ before) after document hS
          (List.forall_mem_append.2 ⟨quiet, quiet'⟩) ?_ (h'.after events)
        rw [ok_bind, hevents, List.append_assoc]
  | further before after document hS quiet hevents h =>
    obtain ⟨rest, hrest⟩ := events_prefix_bind shallow f
    refine .further before (after ++ rest) document hS quiet ?_ (h.bind g)
    rw [← hrest, hevents, List.append_assoc, List.cons_append]

theorem congruence (m : Nat) (S : Json → Prop) :
    Congruence fun ⦃_⦄ shallow deep => Follows m S shallow deep where
  lift _ outcome := .same (by cases outcome <;> exact List.forall_mem_nil _) rfl
  bind _ _ _ _ _ _ h hf := h.bind hf

end Follows

end Traced

open Traced

/-- Runs of the same document at the same depth, of which one has a greater maximum depth. -/
theorem translateWithin_follows {m m' d levels levels' : Nat} (hm : m < m')
    (h : d + levels = m) (h' : d + levels' = m') (document : Json) :
    Follows m (Reaches document levels) (translateWithin levels ⟨m, d⟩ document)
      (translateWithin levels' ⟨m', d⟩ document) := by
  obtain ⟨k, rfl⟩ : ∃ k, levels' = k + 1 := ⟨levels' - 1, by omega⟩
  induction levels generalizing d k document with
  | zero =>
    obtain rfl : d = m := h
    refine .further [] [] document (.self document) (List.forall_mem_nil _) rfl ?_
    cases document with
    | obj members => exact ⟨_, rfl⟩
    | _ => rfl
  | succ levels ih =>
    obtain ⟨k', rfl⟩ : ∃ k', k = k' + 1 := ⟨k - 1, by omega⟩
    have hR := Follows.congruence m (Reaches document (levels + 1))
    rw [translateWithin, translateWithin]
    refine hR.lift_bind _ fun members hobj => ?_
    obtain rfl := Json.asObject_eq_ok_iff.1 hobj
    refine hR.bind (.same (List.forall_mem_singleton.2 rfl) rfl) fun _ _ => ?_
    refine Clause.translate_congr hR _ fun part hpart => ?_
    exact (ih (d := d + 1) (by omega) part k' (by omega)).mono fun x hx => .part hpart hx

theorem translateClause_follows {m m' d : Nat} (hd : d ≤ m) (hm : m < m') (document : Json) :
    Follows m (Reaches document (m - d)) (translateClause ⟨m, d⟩ document)
      (translateClause ⟨m', d⟩ document) := by
  refine translateWithin_follows hm (by omega) ?_ document
  simp only [Env.remaining]
  omega

/-- Where no clause is cut off, a greater maximum depth makes no difference. -/
theorem translateClause_eq_of_not_isCut {m m' d : Nat} (hd : d ≤ m) (hm : m ≤ m')
    {document : Json} (hno : ¬ (translateClause ⟨m, d⟩ document).IsCut) :
    translateClause ⟨m', d⟩ document = translateClause ⟨m, d⟩ document := by
  obtain rfl | hlt := hm.eq_or_lt
  · rfl
  · exact (translateClause_follows hd hlt document).eq_of_not_isCut hno

/-- Where a clause is cut off the predicate says so, and is not translatable. -/
theorem translatable_eq_false_of_isCut {env : Env} {document : Json} {p : Predicate}
    (hcut : (translateClause env document).IsCut)
    (h : (translateClause env document).outcome = .ok p) : p.translatable = false := by
  have ht : translateWithin env.remaining env document = ⟨_, .ok p⟩ := Traced.ext rfl h
  have hcount := (Tally.cutOff env.maxDepth).countP_eq rfl ht
  rw [← Event.isCut_eq] at hcount
  obtain ⟨note, hmem, hnote⟩ := List.countP_pos_iff.1 (hcount ▸ List.countP_pos_iff.2 hcut)
  rw [Bool.eq_false_iff]
  intro htrue
  have hharmless := (translateWithin_honest ht).translatable_iff.1 htrue note hmem
  rw [of_decide_eq_true hnote] at hharmless
  exact Clause.append_not_mem (by decide) hharmless

theorem not_isCut_of_translatable {m : Nat} {document : Json}
    (h : (translate m document).predicate.translatable = true) :
    ¬ (translateClause (.top m) document).IsCut := by
  intro hcut
  rw [translatable_eq_false_of_isCut hcut (outcome_of_translatable h)] at h
  contradiction

/-- The maximum depth only ever cuts off. With a greater one, a run that has no clause cut off is
the same. A run with a clause cut off ends in a fault or in a predicate that is not translatable,
and with a greater maximum depth the first such clause, which is one level below the former maximum,
is translated after the same events. -/
theorem translateClause_of_le {m m' d : Nat} (hd : d ≤ m) (hm : m ≤ m') (document : Json) :
    (¬ (translateClause ⟨m, d⟩ document).IsCut →
      translateClause ⟨m', d⟩ document = translateClause ⟨m, d⟩ document) ∧
    ((translateClause ⟨m, d⟩ document).IsCut →
      (∀ p, (translateClause ⟨m, d⟩ document).outcome = .ok p → p.translatable = false) ∧
      (m < m' → ∃ before after x, Reaches document (m - d) x ∧
        (∀ e ∈ before, e.isCut = false) ∧
        (translateClause ⟨m, d⟩ document).events = before ++ .depthExceeded m :: after ∧
        (translateClause ⟨m', d⟩ document).GoesOn before (m + 1) x)) ∧
    ((translate m document).predicate.translatable = true →
      translate m' document = translate m document) := by
  refine ⟨translateClause_eq_of_not_isCut hd hm, fun hcut => ⟨?_, ?_⟩, fun htrue => ?_⟩
  · intro p hp
    exact translatable_eq_false_of_isCut hcut hp
  · intro hlt
    exact (translateClause_follows hd hlt document).goesOn_of_isCut hcut
  · have hsame : translateClause (.top m') document = translateClause (.top m) document :=
      translateClause_eq_of_not_isCut (Nat.zero_le m) hm (not_isCut_of_translatable htrue)
    dsimp only [translate]
    rw [hsame]

/-- A query within a query within a query, cut off below the first. -/
theorem translateClause_of_le_threeQueries :
    let document := Json.obj [("query", .obj [("query", .obj [("query", .obj [])])])]
    0 ≤ 1 ∧ 1 ≤ 2 ∧ (translateClause ⟨1, 0⟩ document).IsCut ∧
      ∃ before after x, Reaches document 1 x ∧ (∀ e ∈ before, e.isCut = false) ∧
        (translateClause ⟨1, 0⟩ document).events = before ++ .depthExceeded 1 :: after ∧
        (translateClause ⟨2, 0⟩ document).GoesOn before 2 x := by
  intro document
  have hcut : (translateClause ⟨1, 0⟩ document).IsCut :=
    ⟨.depthExceeded 1, List.mem_cons_of_mem _ List.mem_cons_self, rfl⟩
  have h := translateClause_of_le (Nat.zero_le 1) (show 1 ≤ 2 by decide) document
  exact ⟨by decide, by decide, hcut, (h.2.1 hcut).2 (by decide)⟩

end ClauseFilter
