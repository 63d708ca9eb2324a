import ClauseFilter.Proofs.Formula
import ClauseFilter.Proofs.Notes
import Mathlib.Tactic.Choose

/-!
# What documents mean

Given which texts of leaf clauses hold, a document can be read directly: a clause holds when the
documents that it asks for do as it asks (`Json.Holds`). A predicate that is translatable says the
same. Its expression is the text of a formula over such texts, which holds just when the document
does (`translate_meaning`).
-/

namespace ClauseFilter

/-! ## Reading documents -/

/-- Whether a clause holds, `v` telling which texts of leaf clauses do, and `inner` which of the
documents within it. -/
def Clause.Holds (v : String → Prop) (inner : Json → Prop) : Clause → Prop
  | .known .bool body _ =>
    (∀ d ∈ body.documentsAt "must", inner d) ∧
      (∀ d ∈ body.documentsAt "filter", inner d) ∧
      (∀ d ∈ body.documentsAt "must_not", ¬ inner d) ∧
      ((BoolClause.minimum body).1 = .one → body.documentsAt "should" ≠ [] →
        ∃ d ∈ body.documentsAt "should", inner d)
  | .known .query body _ => inner body
  | .known .boosting body _ => inner (body.valueAt "positive")
  | .known .constantScore body _ => inner (body.valueAt "filter")
  | .known .disMax body _ => ∃ d ∈ body.itemsAt "queries", inner d
  | .known .nested body _ => inner (body.valueAt "query")
  | .known (.leaf l) body _ => ∃ p, l.translate body = .ok p ∧ v p.expression
  | .unknown _ => False

/-- Whether a clause document holds. All that its clause asks for are smaller documents, so the
bound on their size leaves none of them out (`holds_obj`). -/
def Json.Holds (v : String → Prop) (document : Json) : Prop :=
  match document with
  | obj members =>
    (Clause.classify members).Holds v fun d => ∃ _ : sizeOf d < sizeOf (obj members), d.Holds v
  | _ => False
termination_by sizeOf document
decreasing_by assumption

variable {v : String → Prop}

theorem Clause.holds_congr {inner inner' : Json → Prop} {kind : Kind} {body : Json} {alone : Bool}
    (h : ∀ d, sizeOf d ≤ sizeOf body → (inner d ↔ inner' d)) :
    (known kind body alone).Holds v inner ↔ (known kind body alone).Holds v inner' := by
  have hlist (key : String) : ∀ d ∈ body.documentsAt key, (inner d ↔ inner' d) :=
    fun d hd => h d (Json.sizeOf_le_of_mem_documentsAt hd)
  cases kind with
  | bool =>
    refine and_congr (forall₂_congr (hlist _)) (and_congr (forall₂_congr (hlist _)) ?_)
    refine and_congr ?_ ?_
    · exact forall₂_congr fun d hd => not_congr (hlist _ d hd)
    · refine imp_congr_right fun _ => imp_congr_right fun _ => exists_congr fun d => ?_
      exact and_congr_right (hlist _ d)
  | query => exact h body (Nat.le_refl _)
  | disMax =>
    exact exists_congr fun d => and_congr_right fun hd => h d (Json.sizeOf_le_of_mem_itemsAt hd)
  | leaf l => exact Iff.rfl
  | _ => exact h _ Json.sizeOf_valueAt_le

theorem Json.holds_obj (members : Members) :
    (obj members).Holds v ↔ (Clause.classify members).Holds v (Json.Holds v) := by
  rw [Holds]
  cases hc : Clause.classify members with
  | unknown keys => exact Iff.rfl
  | known kind body alone =>
    have hbody := sizeOf_lt_of_get? (Clause.get?_of_classify hc)
    exact Clause.holds_congr fun d hd => exists_prop_of_true (Nat.lt_of_le_of_lt hd hbody)

/-! ## What formulas express -/

/-- Whether a text is the expression of a leaf clause. -/
def IsLeafText (text : String) : Prop :=
  ∃ (l : Leaf) (body : Json), l.translate body = .ok (.translated text)

namespace Formula

/-- A formula of leaf texts that has the expression of a predicate for its text, and holds when some
condition on the texts does. -/
structure Expresses (f : Formula) (p : Predicate) (condition : (String → Prop) → Prop) : Prop where
  text_eq : p.expression = f.text
  leaf_texts : f.Over IsLeafText
  holds_iff : ∀ v, f.Holds v ↔ condition v

/-- Formulas for several predicates, which all hold when some condition on the texts does. -/
structure AllExpress (fs : List Formula) (ps : List Predicate)
    (condition : (String → Prop) → Prop) : Prop where
  texts_eq : ps.map Predicate.expression = fs.map text
  leaf_texts : ∀ f ∈ fs, f.Over IsLeafText
  holds_iff : ∀ v, (∀ f ∈ fs, f.Holds v) ↔ condition v

variable {f : Formula} {p : Predicate} {fs fs' : List Formula} {ps ps' : List Predicate}
  {condition condition' : (String → Prop) → Prop}

theorem Expresses.neg (h : f.Expresses p condition) :
    f.neg.Expresses p.neg fun v => ¬ condition v where
  text_eq := by rw [neg_expression, h.text_eq, text]
  leaf_texts := over_neg.2 h.leaf_texts
  holds_iff v := holds_neg.trans (not_congr (h.holds_iff v))

theorem Expresses.singleton (h : f.Expresses p condition) : AllExpress [f] [p] condition where
  texts_eq := by rw [List.map_singleton, List.map_singleton, h.text_eq]
  leaf_texts := List.forall_mem_singleton.2 h.leaf_texts
  holds_iff v := List.forall_mem_singleton.trans (h.holds_iff v)

namespace AllExpress

theorem congr (h : AllExpress fs ps condition) (hc : ∀ v, condition v ↔ condition' v) :
    AllExpress fs ps condition' :=
  ⟨h.texts_eq, h.leaf_texts, fun v => (h.holds_iff v).trans (hc v)⟩

theorem append (h : AllExpress fs ps condition) (h' : AllExpress fs' ps' condition') :
    AllExpress (fs ++ fs') (ps ++ ps') fun v => condition v ∧ condition' v where
  texts_eq := by rw [List.map_append, List.map_append, h.texts_eq, h'.texts_eq]
  leaf_texts := List.forall_mem_append.2 ⟨h.leaf_texts, h'.leaf_texts⟩
  holds_iff v := List.forall_mem_append.trans (and_congr (h.holds_iff v) (h'.holds_iff v))

theorem conj (h : AllExpress fs ps condition) :
    (Formula.conj fs).Expresses (Predicate.conj ps) condition where
  text_eq := by rw [conj_expression, h.texts_eq, text]
  leaf_texts := over_conj.2 h.leaf_texts
  holds_iff v := holds_conj.trans (h.holds_iff v)

end AllExpress

/-! ### Formulas for lists of documents -/

variable {documents : List Json} {t : Json → Predicate} {g : Json → Formula}

theorem allExpress_map (h : ∀ d ∈ documents, (g d).Expresses (t d) (Json.Holds · d)) :
    AllExpress (documents.map g) (documents.map t) fun v => ∀ d ∈ documents, d.Holds v where
  texts_eq := by
    rw [List.map_map, List.map_map]
    exact List.map_congr_left fun d hd => (h d hd).text_eq
  leaf_texts := List.forall_mem_map.2 fun d hd => (h d hd).leaf_texts
  holds_iff v := List.forall_mem_map.trans (forall₂_congr fun d hd => (h d hd).holds_iff v)

theorem expresses_disj (h : ∀ d ∈ documents, (g d).Expresses (t d) (Json.Holds · d)) :
    (disj (documents.map g)).Expresses (Predicate.disj (documents.map t))
      fun v => ∃ d ∈ documents, d.Holds v where
  text_eq := by rw [disj_expression, (allExpress_map h).texts_eq, text]
  leaf_texts := over_disj.2 (allExpress_map h).leaf_texts
  holds_iff v := by
    rw [holds_disj]
    simp only [List.mem_map, exists_exists_and_eq_and]
    exact exists_congr fun d => and_congr_right fun hd => (h d hd).holds_iff v

theorem allExpress_someOf (h : ∀ d ∈ documents, (g d).Expresses (t d) (Json.Holds · d)) :
    AllExpress (someOf (documents.map g)) (Predicate.someOf (documents.map t))
      fun v => documents ≠ [] → ∃ d ∈ documents, d.Holds v := by
  cases documents with
  | nil =>
    refine ⟨rfl, List.forall_mem_nil _, fun v => ?_⟩
    exact iff_of_true (List.forall_mem_nil _) fun hne => absurd rfl hne
  | cons d rest =>
    refine (expresses_disj h).singleton.congr fun v => ?_
    exact ⟨fun hv _ => hv, fun hv => hv (List.cons_ne_nil d rest)⟩

theorem allExpress_noneOf (h : ∀ d ∈ documents, (g d).Expresses (t d) (Json.Holds · d)) :
    AllExpress (noneOf (documents.map g)) (Predicate.noneOf (documents.map t))
      fun v => ∀ d ∈ documents, ¬ d.Holds v := by
  cases documents with
  | nil =>
    refine ⟨rfl, List.forall_mem_nil _, fun v => ?_⟩
    exact iff_of_true (List.forall_mem_nil _) (List.forall_mem_nil _)
  | cons d rest =>
    refine (expresses_disj h).neg.singleton.congr fun v => ?_
    simp only [not_exists, not_and]

/-- The formula of a `bool` clause. -/
def ofBool (g : Json → Formula) (body : Json) : Formula :=
  .conj ((BoolClause.required body).map g ++ someOf ((BoolClause.should body).map g) ++
    noneOf ((body.documentsAt "must_not").map g))

theorem expresses_ofBool {body : Json} {alone : Bool}
    (h : ∀ d ∈ (Clause.known .bool body alone).parts, (g d).Expresses (t d) (Json.Holds · d)) :
    (ofBool g body).Expresses
      (BoolClause.whole ((BoolClause.required body).map t) ((BoolClause.should body).map t)
        ((body.documentsAt "must_not").map t))
      fun v => (Clause.known .bool body alone).Holds v (Json.Holds v) := by
  simp only [Clause.parts, List.forall_mem_append] at h
  obtain ⟨⟨hrequired, hshould⟩, hnot⟩ := h
  have hall := ((allExpress_map hrequired).append (allExpress_someOf hshould)).append
    (allExpress_noneOf hnot)
  refine (hall.congr fun v => ?_).conj
  have hsome : (BoolClause.should body ≠ [] → ∃ d ∈ BoolClause.should body, d.Holds v) ↔
      ((BoolClause.minimum body).1 = .one → body.documentsAt "should" ≠ [] →
        ∃ d ∈ body.documentsAt "should", d.Holds v) := by
    unfold BoolClause.should
    by_cases hone : (BoolClause.minimum body).1 = .one
    · rw [if_pos hone]
      exact ⟨fun hs _ => hs, fun hs => hs hone⟩
    · rw [if_neg hone]
      exact iff_of_true (fun hne => absurd rfl hne) fun heq => absurd heq hone
  rw [hsome, BoolClause.required, List.forall_mem_append]
  simp only [Clause.Holds]
  constructor
  · rintro ⟨⟨⟨hmust, hfilter⟩, hs⟩, hn⟩
    exact ⟨hmust, hfilter, hn, hs⟩
  · rintro ⟨hmust, hfilter, hn, hs⟩
    exact ⟨⟨⟨hmust, hfilter⟩, hs⟩, hn⟩

end Formula

/-- A translatable predicate of a clause has a formula that means what the clause does, if those of
its parts have one. -/
theorem Clause.Composed.exists_expresses {t : Json → Predicate} {c : Clause} {p : Predicate}
    (h : c.Composed t p) (hp : p.translatable = true)
    (hparts : ∀ d ∈ c.parts, (t d).translatable = true →
      ∃ f : Formula, f.Expresses (t d) (Json.Holds · d)) :
    ∃ f : Formula, f.Expresses p fun v => c.Holds v (Json.Holds v) := by
  obtain ⟨own, -, haccounts⟩ := h.accounts
  have htrue := (haccounts.translatable_iff.1 hp).1
  choose! g hg using fun d hd => hparts d hd (htrue d hd)
  -- a wrapper has the expression of the document that it wraps
  have hwrapped {body wrapped : Json} {key : String} {q : Predicate}
      (hget : body.members.get? key = some wrapped) (hmem : wrapped ∈ c.parts)
      (hq : q.expression = (t wrapped).expression) :
      (g wrapped).Expresses q (Json.Holds · (body.valueAt key)) := by
    have hvalue : body.valueAt key = wrapped := by rw [Json.valueAt, hget, Option.getD_some]
    have hf := hg wrapped hmem
    rw [hvalue]
    exact ⟨hq.trans hf.text_eq, hf.leaf_texts, hf.holds_iff⟩
  cases h with
  | bool body alone =>
    rw [BoolClause.combine_translatable, Bool.and_eq_true, Option.isNone_iff_eq_none] at hp
    rw [hp.2, BoolClause.combine_none]
    exact ⟨_, Formula.expresses_ofBool hg⟩
  | query body => exact ⟨g body, hg body List.mem_cons_self⟩
  | boosting body alone wrapped h => exact ⟨g wrapped, hwrapped h (Option.mem_toList.2 h) rfl⟩
  | constantScore body alone wrapped h => exact ⟨g wrapped, hwrapped h (Option.mem_toList.2 h) rfl⟩
  | disMax body alone h =>
    have hd := Formula.expresses_disj hg
    exact ⟨_, hd.text_eq, hd.leaf_texts, hd.holds_iff⟩
  | nested body alone wrapped supported h =>
    exact ⟨g wrapped, hwrapped h (by simp [parts, supported, h]) rfl⟩
  | leaf l body alone p h =>
    cases Leaf.translate_outcome body h with
    | translated ne =>
      refine ⟨.leaf _, ?_, Formula.over_leaf.2 ⟨l, body, h⟩, fun v => ?_⟩
      · rw [Formula.text, Predicate.translated]
      · rw [Formula.holds_leaf]
        simp [Holds, h, Predicate.translated]
    | rejected ne mem => contradiction
  | _ => contradiction

theorem translateWithin_meaning {levels : Nat} {env : Env} {document : Json} {events : List Event}
    {p : Predicate} (h : translateWithin levels env document = ⟨events, .ok p⟩)
    (hp : p.translatable = true) : ∃ f : Formula, f.Expresses p (Json.Holds · document) := by
  refine translateWithin_induction
    (Q := fun document _ p => p.translatable = true →
      ∃ f : Formula, f.Expresses p (Json.Holds · document)) ?_ ?_ rfl h hp
  · intro document hfalse
    contradiction
  · intro members depth t es p hc hparts hp
    obtain ⟨f, hf⟩ := hc.exists_expresses hp hparts
    refine ⟨f, hf.text_eq, hf.leaf_texts, fun v => ?_⟩
    rw [hf.holds_iff, Json.holds_obj]

/-- A translatable document means what its expression says. The expression is the text of a formula
of leaf texts that holds, whichever of these do, exactly when the document does. -/
theorem translate_meaning (maxDepth : Nat) (document : Json)
    (h : (translate maxDepth document).predicate.translatable = true) :
    ∃ f : Formula, (translate maxDepth document).predicate.expression = f.text ∧
      f.Over IsLeafText ∧ ∀ v, f.Holds v ↔ document.Holds v := by
  obtain ⟨f, hf⟩ := translateWithin_meaning (Traced.ext rfl (outcome_of_translatable h)) h
  exact ⟨f, hf.text_eq, hf.leaf_texts, hf.holds_iff⟩

/-- A `bool` clause with a clause that must hold and one that must not. -/
theorem translate_meaning_mustAndMustNot :
    let everyDocument := Json.obj [("match_all", .obj [])]
    let scored := Json.obj [("constant_score", .obj [("filter", everyDocument)])]
    let document := Json.obj [("bool", .obj [("must", .arr [everyDocument]), ("must_not", scored)])]
    (translate 3 document).predicate.translatable = true ∧
      ∃ f : Formula, f.text = "(match_all AND (NOT (match_all)))" ∧
        f.Over IsLeafText ∧ ∀ v, f.Holds v ↔ document.Holds v := by
  intro everyDocument scored document
  have htrue : (translate 3 document).predicate.translatable = true := by decide
  obtain ⟨f, htext, hf⟩ := translate_meaning 3 document htrue
  have hexpression : (translate 3 document).predicate.expression =
      "(match_all AND (NOT (match_all)))" := by decide
  exact ⟨htrue, f, htext.symm.trans hexpression, hf⟩

end ClauseFilter
