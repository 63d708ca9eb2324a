import ClauseFilter.Proofs.Irrelevance

/-!
# The order of members

Clauses look their members up by name, so it does not matter in which order these stand. A document
is reordered when members of clause documents, of the bodies of clauses and of options are put into
another order, at any places down to a number of levels (`Json.Reordered`). It has the same
translation then (`translateClause_eq_of_reordered`). The members of an object have distinct names:
of several members with the same name the first would count.
-/

namespace ClauseFilter

open Traced

/-! ## Objects with their members in another order -/

namespace Json.Members

/-- The members of an object in another order, with related values under the same keys. -/
structure Reordered (rel : String → Json → Json → Prop) (members members' : Members) : Prop where
  distinct : members.keys.Nodup
  exists_perm : ∃ permuted : Members, members.Perm permuted ∧
    List.Forall₂ (fun member member' => member.1 = member'.1 ∧ rel member.1 member.2 member'.2)
      permuted members'

variable {rel rel' : String → Json → Json → Prop} {members members' : Members}

theorem get?_eq_some_iff (distinct : members.keys.Nodup) {key : String} {value : Json} :
    members.get? key = some value ↔ (key, value) ∈ members := by
  induction members with
  | nil => simp [get?]
  | cons member rest ih =>
    rcases member with ⟨k, v⟩
    rw [keys_cons, List.nodup_cons] at distinct
    rw [get?_cons, List.mem_cons, Prod.mk.injEq, ← ih distinct.2]
    split
    · next h =>
      have hnone : get? rest key ≠ some value := by
        intro hvalue
        refine distinct.1 (get?_isSome_iff.1 ?_)
        rw [← h, hvalue, Option.isSome_some]
      subst h
      simp [hnone, eq_comm]
    · next h => simp [h]

theorem get?_eq_of_perm (distinct : members.keys.Nodup) (h : members.Perm members') (key : String) :
    members.get? key = members'.get? key := by
  have distinct' : members'.keys.Nodup := (h.map Prod.fst).nodup_iff.1 distinct
  refine Option.ext fun value => ?_
  rw [get?_eq_some_iff distinct, get?_eq_some_iff distinct', h.mem_iff]

namespace Reordered

theorem imp (h : members.Reordered rel members')
    (hrel : ∀ key value value', rel key value value' → rel' key value value') :
    members.Reordered rel' members' := by
  obtain ⟨permuted, hperm, hvalues⟩ := h.exists_perm
  exact ⟨h.distinct, permuted, hperm, hvalues.imp fun _ _ hm => ⟨hm.1, hrel _ _ _ hm.2⟩⟩

variable (h : members.Reordered rel members')
include h

theorem get?_rel (key : String) : Option.Rel (rel key) (members.get? key) (members'.get? key) := by
  obtain ⟨permuted, hperm, hvalues⟩ := h.exists_perm
  rw [get?_eq_of_perm h.distinct hperm key]
  clear hperm h
  induction hvalues with
  | nil => exact .none
  | @cons member member' rest rest' hmember hrest ih =>
    rcases member with ⟨k, value⟩
    rcases member' with ⟨k', value'⟩
    obtain ⟨rfl, hvalue⟩ := hmember
    rw [get?_cons, get?_cons]
    split
    · next hk =>
      subst hk
      exact .some hvalue
    · exact ih

theorem length_eq : members.length = members'.length := by
  obtain ⟨permuted, hperm, hvalues⟩ := h.exists_perm
  exact hperm.length_eq.trans hvalues.length_eq

theorem has_eq (key : String) : members.has key = members'.has key := by
  have hvalue := h.get?_rel key
  unfold has
  generalize members.get? key = given, members'.get? key = given' at hvalue
  cases hvalue <;> rfl

theorem keys_perm : members.keys.Perm members'.keys := by
  obtain ⟨permuted, hperm, hvalues⟩ := h.exists_perm
  have hkeys : keys permuted = keys members' := by
    clear hperm h
    induction hvalues with
    | nil => rfl
    | cons hmember hrest ih => exact congrArg₂ List.cons hmember.1 ih
  exact hkeys ▸ hperm.map Prod.fst

/-- With a single member there is no other order. -/
theorem single_cases :
    (∃ key value value', members = [(key, value)] ∧ members' = [(key, value')] ∧
      rel key value value') ∨ members.length ≠ 1 := by
  obtain ⟨permuted, hperm, hvalues⟩ := h.exists_perm
  by_cases hone : members.length = 1
  · obtain ⟨⟨key, value⟩, rfl⟩ := List.length_eq_one_iff.1 hone
    obtain rfl := List.singleton_perm.1 hperm
    rw [List.forall₂_cons_left_iff] at hvalues
    obtain ⟨⟨_, value'⟩, rest', ⟨rfl, hvalue⟩, hrest, rfl⟩ := hvalues
    obtain rfl := List.forall₂_nil_left_iff.1 hrest
    exact .inl ⟨key, value, value', rfl, rfl, hvalue⟩
  · exact .inr hone

end Reordered

theorem reordered_single {key : String} {v w : Json} (hv : rel key v w) :
    Reordered rel [(key, v)] [(key, w)] :=
  ⟨by simp [keys], [(key, v)], .rfl, .cons ⟨rfl, hv⟩ .nil⟩

/-- Two members in the other order. -/
theorem reordered_pair {key key' : String} {v v' w w' : Json} (hne : key' ≠ key)
    (hv : rel key v w) (hv' : rel key' v' w') :
    Reordered rel [(key, v), (key', v')] [(key', w'), (key, w)] :=
  ⟨by simpa [keys] using Ne.symm hne, [(key', v'), (key, v)], List.Perm.swap _ _ _,
    .cons ⟨rfl, hv'⟩ (.cons ⟨rfl, hv⟩ .nil)⟩

/-- An object with the same values in another order. -/
theorem Reordered.get?_eq (h : members.Reordered (fun _ => Eq) members') (key : String) :
    members.get? key = members'.get? key :=
  eq_of_rel_eq (h.get?_rel key)

end Json.Members

/-! ## Reordered documents -/

/-- The leaf clauses that may hold options under a field. -/
def Leaf.withOptions : List Leaf :=
  [.range, .term, .terms, .matching, .matchPhrase, .wildcard, .beginning]

/-- Values under a key of the body of a clause of a kind in which members that the clause reads are
reordered, `rel` relating the clause documents in them. -/
inductive Clause.ValueReordered (rel : Json → Json → Prop) :
    Clause.Kind → String → Json → Json → Prop
  | same (kind : Clause.Kind) (key : String) (value : Json) :
    ValueReordered rel kind key value value
  | clauses {key : String} {value value' : Json}
    (hkey : key ∈ ["must", "filter", "should", "must_not"])
    (h : Json.ClausesAlike rel value value') : ValueReordered rel .bool key value value'
  | positive {value value' : Json} (h : rel value value') :
    ValueReordered rel .boosting "positive" value value'
  | filter {value value' : Json} (h : rel value value') :
    ValueReordered rel .constantScore "filter" value value'
  | queries {value value' : Json} (h : Json.ClausesAlike rel value value') :
    ValueReordered rel .disMax "queries" value value'
  | nested {value value' : Json} (h : rel value value') :
    ValueReordered rel .nested "query" value value'
  | options {l : Leaf} {field : String} {options options' : Json.Members}
    (hl : l ∈ Leaf.withOptions) (h : options.Reordered (fun _ => Eq) options') :
    ValueReordered rel (.leaf l) field (.obj options) (.obj options')

/-- Bodies of clauses of a kind in which members are reordered. The body of a `query` clause is a
clause document itself. -/
inductive Clause.BodyReordered (rel : Json → Json → Prop) : Clause.Kind → Json → Json → Prop
  | same (kind : Clause.Kind) (body : Json) : BodyReordered rel kind body body
  | query {body body' : Json} (h : rel body body') : BodyReordered rel .query body body'
  | members {kind : Clause.Kind} {members members' : Json.Members} (hkind : kind ≠ .query)
    (h : members.Reordered (Clause.ValueReordered rel kind) members') :
    BodyReordered rel kind (.obj members) (.obj members')

/-- Clause documents in which members are reordered, down to a number of levels and wherever they
are read as those of clause documents of known kinds, of their bodies, or of options. All other
values are the same. -/
def Json.Reordered : Nat → Json → Json → Prop
  | 0, document, document' => document = document'
  | levels + 1, document, document' =>
    document = document' ∨
      ∃ (members members' : Members) (kind : Clause.Kind) (body : Json) (alone : Bool),
        document = .obj members ∧ document' = .obj members' ∧
        Clause.classify members = .known kind body alone ∧
        members.Reordered (fun key value value' => value = value' ∨
          key = kind.key ∧ Clause.BodyReordered (Json.Reordered levels) kind value value') members'

/-! ## Leaf clauses -/

section Leaves

variable {rel : Json → Json → Prop} {members members' options options' : Json.Members} {l : Leaf}
  {field : String} {value value' : Json}

theorem Comparison.operand?_eq (c : Comparison) (h : options.Reordered (fun _ => Eq) options') :
    c.operand? (.obj options) = c.operand? (.obj options') := by
  rw [operand?, operand?, h.get?_eq, h.keys_perm.all_eq]

theorem Range.expression?_eq (field : String) (h : options.Reordered (fun _ => Eq) options') :
    expression? field options = expression? field options' := by
  simp only [expression?, comparisons, h.get?_eq]

theorem Pattern.patternOf_eq (clause field : String)
    (h : options.Reordered (fun _ => Eq) options') :
    patternOf clause field (.obj options) = patternOf clause field (.obj options') := by
  simp only [patternOf, Json.Members.required, h.get?_eq]

theorem Pattern.hasPrefixForm_eq (h : options.Reordered (fun _ => Eq) options') :
    hasPrefixForm (.obj options) = hasPrefixForm (.obj options') := by
  rw [hasPrefixForm, hasPrefixForm, h.length_eq, h.has_eq]

namespace Leaf

/-- A leaf clause that holds no options has the same values under the same keys. -/
theorem reordered_eq (hl : l ∉ withOptions)
    (h : members.Reordered (Clause.ValueReordered rel (.leaf l)) members') :
    members.Reordered (fun _ => Eq) members' := by
  refine h.imp fun key value value' hvalue => ?_
  cases hvalue with
  | same => rfl
  | options hmem => exact absurd hmem hl

/-- What a leaf clause for a single field finds: the same, or options in another order. -/
theorem single?_cases (h : members.Reordered (Clause.ValueReordered rel (.leaf l)) members') :
    members.single? = members'.single? ∨
      ∃ (field : String) (options options' : Json.Members), members = [(field, .obj options)] ∧
        members' = [(field, .obj options')] ∧ options.Reordered (fun _ => Eq) options' := by
  obtain ⟨field, value, value', rfl, rfl, hvalue⟩ | hlength := h.single_cases
  · cases hvalue with
    | same => exact .inl rfl
    | options _ hoptions => exact .inr ⟨field, _, _, rfl, rfl, hoptions⟩
  · left
    rw [Json.Members.single?_eq_none hlength,
      Json.Members.single?_eq_none (h.length_eq ▸ hlength)]

theorem translate_comparison_eq (c : Comparison)
    (h : members.Reordered (Clause.ValueReordered rel (.leaf l)) members') :
    c.translate (.obj members) = c.translate (.obj members') := by
  simp only [Comparison.translate, Json.asObject, bind, Except.bind]
  obtain hsingle | ⟨field, options, options', rfl, rfl, hoptions⟩ := single?_cases h
  · rw [hsingle]
  · simp only [Json.Members.single?, c.operand?_eq hoptions]

theorem translate_range_eq
    (h : members.Reordered (Clause.ValueReordered rel (.leaf l)) members') :
    Range.translate (.obj members) = Range.translate (.obj members') := by
  obtain ⟨field, value, value', rfl, rfl, hvalue⟩ | hlength := h.single_cases
  · cases hvalue with
    | same => rfl
    | options _ hoptions =>
      simp only [Range.translate, Json.asObject, bind, Except.bind,
        Range.expression?_eq field hoptions]
  · have hlengths := h.length_eq
    rcases members with _ | ⟨member, _ | ⟨second, rest⟩⟩
    · obtain rfl := List.eq_nil_of_length_eq_zero hlengths.symm
      rfl
    · exact absurd rfl hlength
    · rcases members' with _ | ⟨member', _ | ⟨second', rest'⟩⟩
      · contradiction
      · simp at hlengths
      · rfl

theorem translate_wildcard_eq
    (h : members.Reordered (Clause.ValueReordered rel (.leaf l)) members') :
    Pattern.translateWildcard (.obj members) = Pattern.translateWildcard (.obj members') := by
  simp only [Pattern.translateWildcard, Json.asObject, bind, Except.bind]
  obtain hsingle | ⟨field, options, options', rfl, rfl, hoptions⟩ := single?_cases h
  · rw [hsingle]
  · simp only [Json.Members.single?, Pattern.patternOf_eq _ field hoptions]

theorem translate_prefix_eq
    (h : members.Reordered (Clause.ValueReordered rel (.leaf l)) members') :
    Pattern.translatePrefix (.obj members) = Pattern.translatePrefix (.obj members') := by
  simp only [Pattern.translatePrefix, Json.asObject, bind, Except.bind]
  obtain hsingle | ⟨field, options, options', rfl, rfl, hoptions⟩ := single?_cases h
  · rw [hsingle]
  · simp only [Json.Members.single?, Pattern.patternOf_eq _ field hoptions,
      Pattern.hasPrefixForm_eq hoptions]

theorem translate_eq_of_reordered
    (h : members.Reordered (Clause.ValueReordered rel (.leaf l)) members') :
    l.translate (.obj members) = l.translate (.obj members') := by
  cases l with
  | multiMatch =>
    have hget := (reordered_eq (by decide) h).get?_eq
    simp only [translate, Search.translateMultiMatch, Json.asObject, Json.Members.required, hget,
      bind, Except.bind]
  | queryString =>
    have hget := (reordered_eq (by decide) h).get?_eq
    simp only [translate, Search.translateQueryString, Json.asObject, Json.Members.required, hget,
      bind, Except.bind]
  | simpleQueryString =>
    have hget := (reordered_eq (by decide) h).get?_eq
    simp only [translate, Search.translateSimple, Search.translateKeyed, Json.asObject,
      Json.Members.required, hget, h.length_eq, h.has_eq, bind, Except.bind]
  | existence =>
    have hget := (reordered_eq (by decide) h).get?_eq
    simp only [translate, translateExistence, Json.asObject, Json.Members.required, hget,
      h.length_eq, bind, Except.bind]
  | matchAll =>
    have hempty : members.isEmpty = members'.isEmpty := by
      rw [Bool.eq_iff_iff, List.isEmpty_iff_length_eq_zero, List.isEmpty_iff_length_eq_zero,
        h.length_eq]
    simp only [translate, translateMatchAll, Json.asObject, hempty, bind, Except.bind]
  | range => exact translate_range_eq h
  | term => exact translate_comparison_eq .term h
  | terms => exact translate_comparison_eq .terms h
  | matching => exact translate_comparison_eq .matching h
  | matchPhrase => exact translate_comparison_eq .matchPhrase h
  | wildcard => exact translate_wildcard_eq h
  | beginning => exact translate_prefix_eq h

end Leaf

end Leaves

/-! ## Clauses that hold clauses -/

section Clauses

variable {inner : Json → Traced Predicate} {rel : Json → Json → Prop}
  {members members' : Json.Members}

theorem rel_imp {r r' : Json → Json → Prop} {given given' : Option Json}
    (h : Option.Rel r given given') (hr : ∀ value value', r value value' → r' value value') :
    Option.Rel r' given given' := by
  cases h with
  | none => exact .none
  | some h => exact .some (hr _ _ h)

theorem BoolClause.translate_eq_of_reordered (hrel : ∀ d d', rel d d' → inner d = inner d')
    (h : members.Reordered (Clause.ValueReordered rel .bool) members') :
    translate inner (.obj members) = translate inner (.obj members') := by
  have hclauses (key : String) : clausesAt inner members key = clausesAt inner members' key := by
    refine clausesAt_eq_of_rel hrel (rel_imp (h.get?_rel key) fun value value' hvalue => ?_)
    cases hvalue with
    | same => exact .same value
    | clauses _ h => exact h
  have hminimum : members.get? "minimum_should_match" = members'.get? "minimum_should_match" := by
    refine Json.Members.eq_of_rel_eq (rel_imp (h.get?_rel _) fun value value' hvalue => ?_)
    cases hvalue with
    | same => rfl
    | clauses hkey => exact absurd hkey (by decide)
  exact translate_eq_of_clausesAt_eq (hclauses _) (hclauses _) hminimum (fun _ => hclauses _)
    (hclauses _)

theorem Clause.translate_eq_of_bodyReordered {kind : Clause.Kind} {body body' : Json} {alone : Bool}
    (hrel : ∀ d d', rel d d' → inner d = inner d')
    (h : Clause.BodyReordered rel kind body body') :
    (known kind body alone).translate inner = (known kind body' alone).translate inner := by
  cases h with
  | same => rfl
  | query h =>
    cases alone with
    | true => exact hrel _ _ h
    | false => rfl
  | members hkind h =>
    cases kind with
    | bool => exact BoolClause.translate_eq_of_reordered hrel h
    | query => contradiction
    | boosting =>
      have hpositive := rel_imp (h.get?_rel "positive") fun value value' hvalue =>
        show inner value = inner value' by
          cases hvalue with
          | same => rfl
          | positive h => exact hrel _ _ h
      exact Wrapper.translate_eq_of_rel (fun _ _ h => h) .boosting hpositive
    | constantScore =>
      have hfilter := rel_imp (h.get?_rel "filter") fun value value' hvalue =>
        show inner value = inner value' by
          cases hvalue with
          | same => rfl
          | filter h => exact hrel _ _ h
      exact Wrapper.translate_eq_of_rel (fun _ _ h => h) .constantScore hfilter
    | disMax =>
      have hqueries := rel_imp (h.get?_rel "queries") fun value value' hvalue =>
        show Json.ClausesAlike rel value value' by
          cases hvalue with
          | same => exact .same value
          | queries h => exact h
      exact Wrapper.translateDisMax_eq_of_rel hrel hqueries
    | nested =>
      have hquery := rel_imp (h.get?_rel "query") fun value value' hvalue =>
        show inner value = inner value' by
          cases hvalue with
          | same => rfl
          | nested h => exact hrel _ _ h
      exact Wrapper.translateNested_eq_of_rel (fun _ _ h => h) h.length_eq (h.has_eq "path") hquery
    | leaf l => exact congrArg Traced.ofExcept (Leaf.translate_eq_of_reordered h)

/-- The order of its members does not change which clause a document holds. -/
theorem Clause.classify_of_has_eq {kind : Clause.Kind} {body : Json} {alone : Bool}
    (hhas : ∀ key, members.has key = members'.has key) (hlength : members.length = members'.length)
    (h : classify members = known kind body alone) :
    classify members' = known kind ((members'.get? kind.key).getD .null) alone := by
  rw [classify_eq] at h ⊢
  simp only [hhas, hlength] at h
  split at h
  · next found hfound =>
    obtain ⟨rfl, -, rfl⟩ := Clause.known.inj h
    rfl
  · contradiction

end Clauses

theorem translateWithin_eq_of_reordered {levels n : Nat} {env : Env} {document document' : Json}
    (h : document.Reordered n document') :
    translateWithin levels env document = translateWithin levels env document' := by
  induction levels generalizing env n document document' with
  | zero => rfl
  | succ levels ih =>
    cases n with
    | zero => rw [show document = document' from h]
    | succ n =>
      obtain rfl | ⟨members, members', kind, body, alone, rfl, rfl, hc, hmembers⟩ := h
      · rfl
      have hc' := Clause.classify_of_has_eq hmembers.has_eq hmembers.length_eq hc
      have hbodies := hmembers.get?_rel kind.key
      rw [Clause.get?_of_classify hc] at hbodies
      have hclauses : (Clause.classify members).translate (translateWithin levels env.descend) =
          (Clause.classify members').translate (translateWithin levels env.descend) := by
        rw [hc, hc']
        generalize members'.get? kind.key = given' at hbodies
        cases hbodies with
        | some hbody =>
          obtain rfl | ⟨-, hbody⟩ := hbody
          · rfl
          · exact Clause.translate_eq_of_bodyReordered (fun d d' => ih) hbody
      rw [translateWithin, translateWithin]
      simp only [Json.asObject, lift_ok, pure_bind, hclauses]
      rw [hc, hc']
      rfl

/-- The order of the members that clauses look up has no influence on the translation of a document:
not on its predicate or fault, nor on the kinds and depths of its events. -/
theorem translateClause_eq_of_reordered (env : Env) {levels : Nat} {document document' : Json}
    (h : document.Reordered levels document') :
    translateClause env document = translateClause env document' :=
  translateWithin_eq_of_reordered h

/-- A foreign key behind the clause and not before it, the clauses that must hold before those that
must not, and the options and the bounds of a field in another order. -/
theorem translateClause_eq_of_reordered_options :
    let options := [("boost", .bool true), ("value", .str "x")]
    let bounds := [("lt", .str "2"), ("gte", .str "1")]
    let term := fun options => Json.obj [("term", .obj [("a", .obj options)])]
    let range := fun bounds => Json.obj [("range", .obj [("b", .obj bounds)])]
    let one := Json.obj [("script", .null), ("bool", .obj [
      ("must_not", term options), ("must", .arr [range bounds])])]
    let other := Json.obj [
      ("bool", .obj [
        ("must", .arr [range bounds.reverse]), ("must_not", term options.reverse)]),
      ("script", .null)]
    one.Reordered 2 other ∧ translateClause (.top 2) one = translateClause (.top 2) other := by
  intro options bounds term range one other
  have hterm : Json.Reordered 1 (term options) (term options.reverse) := by
    refine .inr ⟨_, _, .leaf .term, _, _, rfl, rfl, rfl, ?_⟩
    refine Json.Members.reordered_single (.inr ⟨rfl, .members (by decide) ?_⟩)
    refine Json.Members.reordered_single (.options (by decide) ?_)
    exact Json.Members.reordered_pair (by decide) rfl rfl
  have hrange : Json.Reordered 1 (range bounds) (range bounds.reverse) := by
    refine .inr ⟨_, _, .leaf .range, _, _, rfl, rfl, rfl, ?_⟩
    refine Json.Members.reordered_single (.inr ⟨rfl, .members (by decide) ?_⟩)
    refine Json.Members.reordered_single (.options (by decide) ?_)
    exact Json.Members.reordered_pair (by decide) rfl rfl
  have hreordered : one.Reordered 2 other := by
    refine .inr ⟨_, _, .bool, _, _, rfl, rfl, rfl, ?_⟩
    refine Json.Members.reordered_pair (by decide) (.inl rfl) (.inr ⟨rfl, .members (by decide) ?_⟩)
    exact Json.Members.reordered_pair (by decide) (.clauses (by decide) (.single hterm))
      (.clauses (by decide) (.items (.cons hrange .nil)))
  exact ⟨hreordered, translateClause_eq_of_reordered (.top 2) hreordered⟩

end ClauseFilter
