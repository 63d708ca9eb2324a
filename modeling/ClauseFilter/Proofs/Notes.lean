import ClauseFilter.Proofs.Composition
import ClauseFilter.Proofs.LeafPredicate

/-!
# Notes and flags

A clause has the notes of its parts and notes of its own, which depend on its kind (`OwnNotes`), and
it is translatable when its parts are and when its own notes are harmless (`Composed.accounts`).
From this the flag of every document can be read off its notes.
-/

namespace ClauseFilter

/-! ## Composed predicates -/

namespace Predicate

theorem conj_notes (ps : List Predicate) : (conj ps).notes = ps.flatMap notes := by
  match ps with
  | [] => rfl
  | [p] => simp [conj]
  | _ :: _ :: _ => rfl

theorem conj_translatable (ps : List Predicate) :
    (conj ps).translatable = ps.all translatable := by
  match ps with
  | [] => rfl
  | [p] => simp [conj]
  | _ :: _ :: _ => rfl

theorem conj_expression_ne {ps : List Predicate} (h : ∀ p ∈ ps, p.expression ≠ "") :
    (conj ps).expression ≠ "" := by
  match ps with
  | [] => decide
  | [p] => exact h p List.mem_cons_self
  | _ :: _ :: _ => simp [conj, parenthesized]

theorem someOf_notes (ps : List Predicate) : (someOf ps).flatMap notes = ps.flatMap notes := by
  cases ps <;> simp [someOf, disj, join, parenthesized]

theorem noneOf_notes (ps : List Predicate) : (noneOf ps).flatMap notes = ps.flatMap notes := by
  cases ps <;> simp [noneOf, neg, disj, join, parenthesized]

theorem someOf_translatable (ps : List Predicate) :
    (someOf ps).all translatable = ps.all translatable := by
  cases ps <;> simp [someOf, disj, join, parenthesized]

theorem noneOf_translatable (ps : List Predicate) :
    (noneOf ps).all translatable = ps.all translatable := by
  cases ps <;> simp [noneOf, neg, disj, join, parenthesized]

theorem disj_expression_ne (ps : List Predicate) : (disj ps).expression ≠ "" := by
  simp [disj, parenthesized]

theorem someOf_expression_ne {ps : List Predicate} : ∀ p ∈ someOf ps, p.expression ≠ "" := by
  cases ps <;> simp [someOf, disj_expression_ne]

theorem noneOf_expression_ne {ps : List Predicate} : ∀ p ∈ noneOf ps, p.expression ≠ "" := by
  cases ps <;> simp [noneOf, neg]

end Predicate

namespace BoolClause

open Predicate

variable (required should mustNot : List Predicate) (ignored : Option Json)

/-- The clauses of a `bool` clause put together, before a minimum is ignored. -/
def whole : Predicate :=
  conj (required ++ someOf should ++ noneOf mustNot)

theorem whole_notes :
    (whole required should mustNot).notes = (required ++ should ++ mustNot).flatMap notes := by
  simp only [whole, conj_notes, List.flatMap_append, someOf_notes, noneOf_notes]

theorem whole_translatable :
    (whole required should mustNot).translatable =
      (required ++ should ++ mustNot).all translatable := by
  simp only [whole, conj_translatable, List.all_append, someOf_translatable, noneOf_translatable]

theorem combine_none : combine required should mustNot none = whole required should mustNot := rfl

theorem combine_some (value : Json) :
    combine required should mustNot (some value) =
      (whole required should mustNot).demoted (noteCount required) (ignoredNote value) := rfl

/-- The note on an ignored minimum is put within the notes, or right behind the last of them. -/
theorem noteCount_le : noteCount required ≤ (whole required should mustNot).notes.length := by
  rw [whole_notes, noteCount, List.append_assoc, List.flatMap_append, List.length_append]
  exact Nat.le_add_right _ _

theorem combine_notes_perm :
    (combine required should mustNot ignored).notes.Perm
      ((required ++ should ++ mustNot).flatMap notes ++ (ignored.map ignoredNote).toList) := by
  cases ignored with
  | none => rw [combine_none, whole_notes]; simp
  | some value =>
    rw [combine_some, ← whole_notes]
    refine (List.perm_insertIdx _ _ (noteCount_le required should mustNot)).trans ?_
    exact (List.perm_append_singleton _ _).symm

theorem combine_translatable :
    (combine required should mustNot ignored).translatable =
      ((required ++ should ++ mustNot).all translatable && ignored.isNone) := by
  cases ignored with
  | none => rw [combine_none, whole_translatable]; simp
  | some value => simp [combine_some, demoted]

theorem combine_expression_ne (h : ∀ p ∈ required, p.expression ≠ "") :
    (combine required should mustNot ignored).expression ≠ "" := by
  have hwhole : (whole required should mustNot).expression ≠ "" := by
    refine conj_expression_ne fun p hp => ?_
    simp only [List.mem_append] at hp
    obtain (hp | hp) | hp := hp
    · exact h p hp
    · exact someOf_expression_ne p hp
    · exact noneOf_expression_ne p hp
  cases ignored <;> exact hwhole

end BoolClause

/-! ## The notes of a clause of its own -/

/-- The notes on what a filter leaves out without any harm. -/
def harmlessNotes : List String :=
  ["skipping boosting", "skipping constant score", "skipping dis_max"]

namespace Clause

/-- The notes that a clause of a kind may have besides those of its parts, where they do not depend
on what the document says. -/
def plainNotes : List (Kind × List String) := [
  (.bool, []), (.query, []), (.query, ["Invalid query"]),
  (.boosting, ["skipping boosting"]), (.constantScore, ["skipping constant score"]),
  (.disMax, ["skipping dis_max"]), (.disMax, ["Invalid dis_max"]),
  (.nested, []), (.nested, ["Invalid nested"])]

/-- The notes that a clause of a kind, or one of no known kind, may have besides those of its
parts. -/
inductive OwnNotes : Option Kind → List String → Prop
  | plain {kind : Kind} {own : List String} (mem : (kind, own) ∈ plainNotes) :
    OwnNotes (some kind) own
  | ignoredMinimum (value : Json) : OwnNotes (some .bool) [BoolClause.ignoredNote value]
  | leaf (l : Leaf) : OwnNotes (some (.leaf l)) []
  | rejectedLeaf (l : Leaf) {note : String} (mem : note ∈ Leaf.rejections) :
    OwnNotes (some (.leaf l)) [note]
  | unknown (keys : List String) : OwnNotes none ["Invalid query " ++ ",".intercalate keys]

theorem not_mem_harmlessNotes_of_mem_rejections :
    ∀ note ∈ Leaf.rejections, note ∉ harmlessNotes := by
  decide

theorem prefix_append (start rest : String) : start.toList <+: (start ++ rest).toList := by
  rw [String.toList_append]
  exact List.prefix_append _ _

/-- A text that goes on after a given start is none of the texts that do not start so. -/
theorem append_not_mem {start rest : String} {texts : List String}
    (h : ∀ text ∈ texts, ¬ start.toList <+: text.toList) : start ++ rest ∉ texts :=
  fun hmem => h _ hmem (prefix_append start rest)

/-- Texts differ when neither of their starts is the start of the other. -/
theorem append_ne_append {start start' rest rest' : String} (h : ¬ start.toList <+: start'.toList)
    (h' : ¬ start'.toList <+: start.toList) : start ++ rest ≠ start' ++ rest' := by
  intro heq
  have hs := heq ▸ prefix_append start rest
  exact (List.prefix_or_prefix_of_prefix hs (prefix_append start' rest')).elim h h'

theorem ignoredNote_eq (value : Json) :
    BoolClause.ignoredNote value =
      "skipping minimum_should_match " ++ (value.render ++ ", assuming 1") :=
  String.append_assoc

theorem ignoredNote_not_mem {value : Json} {texts : List String}
    (h : ∀ text ∈ texts, ¬ "skipping minimum_should_match ".toList <+: text.toList) :
    BoolClause.ignoredNote value ∉ texts :=
  ignoredNote_eq value ▸ append_not_mem h

theorem ignoredNote_not_mem_harmlessNotes (value : Json) :
    BoolClause.ignoredNote value ∉ harmlessNotes :=
  ignoredNote_not_mem (by decide)

/-- How the notes and the flag of a predicate come from those of the parts, `own` being the notes
that are not from a part. -/
structure Accounts (t : Json → Predicate) (parts : List Json) (own : List String) (p : Predicate) :
    Prop where
  notes_perm : p.notes.Perm (parts.flatMap (fun d => (t d).notes) ++ own)
  translatable_iff : p.translatable = true ↔
    (∀ d ∈ parts, (t d).translatable = true) ∧ ∀ note ∈ own, note ∈ harmlessNotes

variable {t : Json → Predicate} {c : Clause} {p : Predicate}

theorem accounts_bool (body : Json) (alone : Bool) :
    ∃ own, OwnNotes (some .bool) own ∧
      Accounts t (known .bool body alone).parts own
        (BoolClause.combine ((BoolClause.required body).map t) ((BoolClause.should body).map t)
          ((body.documentsAt "must_not").map t) (BoolClause.minimum body).2) := by
  have hparts : (BoolClause.required body).map t ++ (BoolClause.should body).map t ++
      (body.documentsAt "must_not").map t = (known .bool body alone).parts.map t := by
    simp [parts]
  refine ⟨((BoolClause.minimum body).2.map BoolClause.ignoredNote).toList, ?_, ?_, ?_⟩
  · cases (BoolClause.minimum body).2 with
    | none => exact .plain (by decide)
    | some value => exact .ignoredMinimum value
  · have := BoolClause.combine_notes_perm ((BoolClause.required body).map t)
      ((BoolClause.should body).map t) ((body.documentsAt "must_not").map t)
      (BoolClause.minimum body).2
    rwa [hparts, List.flatMap_map] at this
  · rw [BoolClause.combine_translatable, hparts]
    cases (BoolClause.minimum body).2 with
    | none => simp
    | some value => simp [ignoredNote_not_mem_harmlessNotes]

/-- A predicate with a harmless note more than the predicate of the only part. -/
theorem accounts_withNote {d : Json} {note : String} (h : note ∈ harmlessNotes) :
    Accounts t [d] [note] ((t d).withNote note) :=
  ⟨by simp [Predicate.withNote], by simp [Predicate.withNote, h]⟩

theorem accounts_untranslatable {expression note : String} (h : note ∉ harmlessNotes) :
    Accounts t [] [note] (.untranslatable expression note) :=
  ⟨.refl _, by simp [Predicate.untranslatable, h]⟩

theorem accounts_part (d : Json) : Accounts t [d] [] (t d) :=
  ⟨by simp, by simp⟩

theorem accounts_disMax (items : List Json) :
    Accounts t items ["skipping dis_max"]
      ((Predicate.disj (items.map t)).withNote "skipping dis_max") := by
  constructor
  · simp [Predicate.withNote, Predicate.disj, Predicate.join, Predicate.parenthesized,
      List.flatMap_map]
  · simp [Predicate.withNote, Predicate.disj, Predicate.join, Predicate.parenthesized,
      harmlessNotes]

/-- The notes of a clause are those of its parts and its own, and its flag says that the parts are
translatable and that nothing of its own does any harm. -/
theorem Composed.accounts (h : c.Composed t p) :
    ∃ own, OwnNotes c.kind? own ∧ Accounts t c.parts own p := by
  cases h with
  | bool body alone => exact accounts_bool body alone
  | query body => exact ⟨_, .plain (by decide), accounts_part body⟩
  | crowdedQuery body => exact ⟨_, .plain (by decide), accounts_untranslatable (by decide)⟩
  | boosting body alone wrapped h =>
    rw [show (known .boosting body alone).parts = [wrapped] from congrArg Option.toList h]
    exact ⟨_, .plain (by decide), accounts_withNote (by decide)⟩
  | constantScore body alone wrapped h =>
    rw [show (known .constantScore body alone).parts = [wrapped] from congrArg Option.toList h]
    exact ⟨_, .plain (by decide), accounts_withNote (by decide)⟩
  | disMax body alone h => exact ⟨_, .plain (by decide), accounts_disMax _⟩
  | emptyDisMax body alone h =>
    rw [show (known .disMax body alone).parts = [] from h]
    exact ⟨_, .plain (by decide), accounts_untranslatable (by decide)⟩
  | nested body alone wrapped supported h =>
    rw [show (known .nested body alone).parts = [wrapped] by simp [parts, supported, h]]
    exact ⟨_, .plain (by decide), accounts_part wrapped⟩
  | unsupportedNested body alone h =>
    rw [h]
    exact ⟨_, .plain (by decide), accounts_untranslatable (by decide)⟩
  | leaf l body alone p h =>
    cases Leaf.translate_outcome body h with
    | translated ne => exact ⟨_, .leaf l, .refl _, by simp [Predicate.translated, parts]⟩
    | rejected ne mem =>
      exact ⟨_, .rejectedLeaf l mem,
        accounts_untranslatable (not_mem_harmlessNotes_of_mem_rejections _ mem)⟩
  | unknown keys =>
    exact ⟨_, .unknown keys, accounts_untranslatable (append_not_mem (by decide))⟩

theorem Composed.expression_ne (h : c.Composed t p)
    (hparts : ∀ d ∈ c.parts, (t d).expression ≠ "") : p.expression ≠ "" := by
  cases h with
  | bool body alone =>
    refine BoolClause.combine_expression_ne _ _ _ _ fun p hp => ?_
    obtain ⟨d, hd, rfl⟩ := List.mem_map.1 hp
    exact hparts d (by simp [parts, hd])
  | query body => exact hparts body List.mem_cons_self
  | boosting body alone wrapped h => exact hparts wrapped (Option.mem_toList.2 h)
  | constantScore body alone wrapped h => exact hparts wrapped (Option.mem_toList.2 h)
  | disMax body alone h => exact Predicate.disj_expression_ne _
  | nested body alone wrapped supported h =>
    exact hparts wrapped (by simp [parts, supported, h])
  | leaf l body alone p h =>
    cases Leaf.translate_outcome body h with
    | translated ne => exact ne
    | rejected ne mem => exact ne
  | _ => exact of_decide_eq_true rfl

end Clause

/-! ## Whole documents -/

/-- A predicate that says something, and whose flag is the one that its notes ask for. -/
structure Predicate.Honest (p : Predicate) : Prop where
  expression_ne : p.expression ≠ ""
  translatable_iff : p.translatable = true ↔ ∀ note ∈ p.notes, note ∈ harmlessNotes

theorem Predicate.honest_untranslatable {expression note : String} (ne : expression ≠ "")
    (h : note ∉ harmlessNotes) : (untranslatable expression note).Honest :=
  ⟨ne, by simp [untranslatable, h]⟩

theorem tooDeep_honest (maxDepth : Nat) : (tooDeep maxDepth).Honest :=
  Predicate.honest_untranslatable (by decide) (Clause.append_not_mem (by decide))

/-- A clause whose parts have honest predicates has one too. -/
theorem Clause.Composed.honest {t : Json → Predicate} {c : Clause} {p : Predicate}
    (h : c.Composed t p) (hparts : ∀ d ∈ c.parts, (t d).Honest) : p.Honest := by
  obtain ⟨own, -, haccounts⟩ := h.accounts
  refine ⟨h.expression_ne fun d hd => (hparts d hd).expression_ne, ?_⟩
  have hnotes : (∀ note ∈ p.notes, note ∈ harmlessNotes) ↔
      (∀ d ∈ c.parts, ∀ note ∈ (t d).notes, note ∈ harmlessNotes) ∧
        ∀ note ∈ own, note ∈ harmlessNotes := by
    rw [← List.forall_mem_flatMap, ← List.forall_mem_append]
    exact forall_congr' fun note => by rw [haccounts.notes_perm.mem_iff]
  rw [haccounts.translatable_iff, hnotes]
  refine and_congr_left fun _ => forall₂_congr fun d hd => ?_
  exact (hparts d hd).translatable_iff

theorem translateWithin_honest {levels : Nat} {env : Env} {document : Json} {events : List Event}
    {p : Predicate} (h : translateWithin levels env document = ⟨events, .ok p⟩) : p.Honest :=
  translateWithin_induction (Q := fun _ _ p => p.Honest) (fun _ => tooDeep_honest _)
    (fun _ _ _ _ _ hc hparts => hc.honest hparts) rfl h

/-- The flag and the notes of a translation agree: a predicate is translatable exactly when it has
none but harmless notes. Its expression is never empty. -/
theorem translate_translatable_iff (maxDepth : Nat) (document : Json) :
    (translate maxDepth document).predicate.expression ≠ "" ∧
      ((translate maxDepth document).predicate.translatable = true ↔
        ∀ note ∈ (translate maxDepth document).predicate.notes, note ∈ harmlessNotes) := by
  rw [translate_predicate]
  have honest : (translateClause (.top maxDepth) document).predicate.Honest := by
    cases h : (translateClause (.top maxDepth) document).outcome with
    | ok p =>
      rw [Traced.predicate_of_ok h]
      exact translateWithin_honest (Traced.ext rfl h)
    | error fault =>
      rw [Traced.predicate, h]
      exact Predicate.honest_untranslatable (by simp) (by decide)
  exact ⟨honest.expression_ne, honest.translatable_iff⟩

end ClauseFilter
