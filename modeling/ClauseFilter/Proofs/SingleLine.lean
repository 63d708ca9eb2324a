import ClauseFilter.Proofs.Composition
import ClauseFilter.Proofs.PrettyLines

/-!
# Predicates on a single line

The expression and the notes of a predicate are made of fixed texts and of texts of the document. So
when no string and no key of the document has a newline in it, the predicate is shown on a single
line, and so is the fault if there is one (`oneLine_display_translate`). What is shown in its
compact form is on one line in any case.
-/

namespace ClauseFilter

/-! ## Texts -/

/-- Whether a text has no newline in it. -/
def OneLine (text : String) : Prop :=
  '\n' ∉ text.toList

instance (text : String) : Decidable (OneLine text) :=
  inferInstanceAs (Decidable (¬_))

theorem OneLine.append {s t : String} (hs : OneLine s) (ht : OneLine t) : OneLine (s ++ t) := by
  intro hmem
  rw [String.toList_append] at hmem
  rcases List.mem_append.1 hmem with hmem | hmem
  · exact hs hmem
  · exact ht hmem

theorem OneLine.intercalate {separator : String} {texts : List String} (hs : OneLine separator)
    (h : ∀ text ∈ texts, OneLine text) : OneLine (separator.intercalate texts) := by
  induction texts with
  | nil => simp [OneLine]
  | cons text rest ih =>
    obtain ⟨htext, hrest⟩ := List.forall_mem_cons.1 h
    cases rest with
    | nil => simpa using htext
    | cons next more =>
      rw [String.intercalate_cons_cons]
      exact (htext.append hs).append (ih hrest)

theorem oneLine_toString (n : Nat) : OneLine (toString n) := by
  intro hmem
  have hdigits : '\n' ∈ Nat.toDigits 10 n := by simpa using hmem
  have := isNumeric_of_mem_toDigits _ hdigits
  contradiction

/-! ## Values -/

namespace Json

theorem oneLine_number (n : Number) : OneLine n.text := by
  intro hmem
  have := n.isNumeric_text _ hmem
  contradiction

theorem oneLine_quoted (s : String) : OneLine (quoted s) :=
  newline_not_mem_quoted s

mutual

theorem oneLine_compact : ∀ value : Json, OneLine value.compact
  | null => by
    rw [compact]
    decide
  | bool true => by
    rw [compact]
    decide
  | bool false => by
    rw [compact]
    decide
  | num n => by
    rw [compact]
    exact oneLine_number n
  | str s => by
    rw [compact]
    exact oneLine_quoted s
  | arr items => by
    rw [compact]
    exact (OneLine.append (by decide) (oneLine_compactItems items)).append (by decide)
  | obj members => by
    rw [compact]
    exact (OneLine.append (by decide) (oneLine_compactMembers members)).append (by decide)

theorem oneLine_compactItems : ∀ items : List Json, OneLine (compactItems items)
  | [] => by
    rw [compactItems]
    decide
  | [item] => by
    rw [compactItems]
    exact oneLine_compact item
  | item :: next :: rest => by
    rw [compactItems]
    · exact ((oneLine_compact item).append (by decide)).append (oneLine_compactItems (next :: rest))
    · exact List.cons_ne_nil next rest

theorem oneLine_compactMembers : ∀ members : Members, OneLine (compactMembers members)
  | [] => by
    rw [compactMembers]
    decide
  | [(key, value)] => by
    rw [compactMembers]
    exact ((oneLine_quoted key).append (by decide)).append (oneLine_compact value)
  | (key, value) :: next :: rest => by
    rw [compactMembers]
    · exact ((((oneLine_quoted key).append (by decide)).append (oneLine_compact value)).append
        (by decide)).append (oneLine_compactMembers (next :: rest))
    · exact List.cons_ne_nil next rest

end

mutual

/-- The texts in a value: its strings, and the keys of its members. -/
def texts : Json → List String
  | str s => [s]
  | arr items => textsOfItems items
  | obj members => textsOfMembers members
  | _ => []

def textsOfItems : List Json → List String
  | [] => []
  | item :: rest => texts item ++ textsOfItems rest

def textsOfMembers : Members → List String
  | [] => []
  | (key, value) :: rest => key :: (texts value ++ textsOfMembers rest)

end

/-- Whether no text in a value has a newline in it. -/
def Unbroken (value : Json) : Prop :=
  ∀ text ∈ value.texts, OneLine text

variable {members : Members} {key : String} {value : Json}

theorem unbroken_str_iff {s : String} : (str s).Unbroken ↔ OneLine s := by
  simp [Unbroken, texts]

theorem texts_subset_of_mem_items {items : List Json} {item : Json} (h : item ∈ items) :
    item.texts ⊆ (arr items).texts := by
  rw [texts]
  induction items with
  | nil => contradiction
  | cons first rest ih =>
    rw [textsOfItems]
    rcases List.mem_cons.1 h with rfl | hrest
    · exact List.subset_append_left _ _
    · exact List.subset_append_of_subset_right _ (ih hrest)

theorem texts_subset_of_mem_members (h : (key, value) ∈ members) :
    key :: value.texts ⊆ (obj members).texts := by
  rw [texts]
  induction members with
  | nil => contradiction
  | cons first rest ih =>
    obtain ⟨k, v⟩ := first
    rw [textsOfMembers]
    rcases List.mem_cons.1 h with heq | hrest
    · cases heq
      exact List.cons_subset_cons _ (List.subset_append_left _ _)
    · exact List.subset_cons_of_subset _ (List.subset_append_of_subset_right _ (ih hrest))

theorem Unbroken.item {items : List Json} (h : (arr items).Unbroken) :
    ∀ item ∈ items, item.Unbroken :=
  fun _ hitem text htext => h text (texts_subset_of_mem_items hitem htext)

theorem Unbroken.member (h : (obj members).Unbroken) (hmem : (key, value) ∈ members) :
    OneLine key ∧ value.Unbroken := by
  have hsubset := texts_subset_of_mem_members hmem
  exact ⟨h key (hsubset List.mem_cons_self),
    fun text htext => h text (hsubset (List.mem_cons_of_mem _ htext))⟩

theorem Unbroken.get? (h : (obj members).Unbroken) (hvalue : members.get? key = some value) :
    value.Unbroken := by
  obtain ⟨before, after, rfl, -⟩ := List.lookup_eq_some_iff.1 hvalue
  have hmem : (key, value) ∈ before ++ (key, value) :: after := by simp
  exact (h.member hmem).2

theorem Unbroken.keys (h : (obj members).Unbroken) : ∀ key ∈ members.keys, OneLine key :=
  List.forall_mem_map.2 fun _ hmem => (h.member hmem).1

theorem Unbroken.oneLine_render (h : value.Unbroken) : OneLine value.render := by
  cases value with
  | str s => exact unbroken_str_iff.1 h
  | _ => exact oneLine_compact _

end Json

/-! ## Predicates -/

namespace Predicate

/-- Whether neither the expression nor any note has a newline in it. -/
structure Unbroken (p : Predicate) : Prop where
  expression : OneLine p.expression
  notes : ∀ note ∈ p.notes, OneLine note

variable {p : Predicate} {ps : List Predicate} {expression note : String}

theorem unbroken_translated (h : OneLine expression) : (translated expression).Unbroken :=
  ⟨h, List.forall_mem_nil _⟩

theorem unbroken_untranslatable (h : OneLine expression) (hnote : OneLine note) :
    (untranslatable expression note).Unbroken :=
  ⟨h, List.forall_mem_singleton.2 hnote⟩

theorem Unbroken.withNote (h : p.Unbroken) (hnote : OneLine note) : (p.withNote note).Unbroken :=
  ⟨h.expression, List.forall_mem_append.2 ⟨h.notes, List.forall_mem_singleton.2 hnote⟩⟩

theorem Unbroken.parenthesized (h : p.Unbroken) : p.parenthesized.Unbroken :=
  ⟨(OneLine.append (by decide) h.expression).append (by decide), h.notes⟩

theorem Unbroken.neg (h : p.Unbroken) : (neg p).Unbroken :=
  ⟨(OneLine.append (by decide) h.expression).append (by decide), h.notes⟩

theorem unbroken_join {separator : String} (hseparator : OneLine separator)
    (h : ∀ p ∈ ps, p.Unbroken) : (join separator ps).Unbroken := by
  refine ⟨OneLine.intercalate hseparator ?_, ?_⟩
  · exact List.forall_mem_map.2 fun p hp => (h p hp).expression
  · exact List.forall_mem_flatMap.2 fun p hp => (h p hp).notes

theorem unbroken_disj (h : ∀ p ∈ ps, p.Unbroken) : (disj ps).Unbroken :=
  (unbroken_join (by decide) h).parenthesized

theorem unbroken_conj (h : ∀ p ∈ ps, p.Unbroken) : (conj ps).Unbroken := by
  match ps with
  | [] => exact unbroken_translated (by decide)
  | [p] => exact h p List.mem_cons_self
  | _ :: _ :: _ => exact (unbroken_join (by decide) h).parenthesized

theorem unbroken_someOf (h : ∀ p ∈ ps, p.Unbroken) : ∀ p ∈ someOf ps, p.Unbroken := by
  cases ps with
  | nil => exact List.forall_mem_nil _
  | cons p rest => exact List.forall_mem_singleton.2 (unbroken_disj h)

theorem unbroken_noneOf (h : ∀ p ∈ ps, p.Unbroken) : ∀ p ∈ noneOf ps, p.Unbroken := by
  cases ps with
  | nil => exact List.forall_mem_nil _
  | cons p rest => exact List.forall_mem_singleton.2 (unbroken_disj h).neg

theorem Unbroken.demoted (h : p.Unbroken) (position : Nat) (hnote : OneLine note) :
    (p.demoted position note).Unbroken := by
  refine ⟨h.expression, fun other hother => ?_⟩
  by_cases hposition : position ≤ p.notes.length
  · rcases (List.mem_insertIdx hposition).1 hother with rfl | hother
    · exact hnote
    · exact h.notes other hother
  · rw [Predicate.demoted, List.insertIdx_of_length_lt (by omega)] at hother
    exact h.notes other hother

theorem Unbroken.oneLine_display (h : p.Unbroken) : OneLine p.display := by
  have hnotes : OneLine (", ".intercalate p.notes) := OneLine.intercalate (by decide) h.notes
  have hflag : OneLine (if p.translatable then "true" else "false") := by
    split <;> decide
  unfold display
  exact (((((OneLine.append (by decide) h.expression).append (by decide)).append hnotes).append
    (by decide)).append hflag).append (by decide)

end Predicate

theorem BoolClause.unbroken_combine {required should mustNot : List Predicate}
    {ignored : Option Json}
    (hrequired : ∀ p ∈ required, p.Unbroken) (hshould : ∀ p ∈ should, p.Unbroken)
    (hnot : ∀ p ∈ mustNot, p.Unbroken) (hignored : ∀ value ∈ ignored, value.Unbroken) :
    (combine required should mustNot ignored).Unbroken := by
  have hwhole : (Predicate.conj
      (required ++ Predicate.someOf should ++ Predicate.noneOf mustNot)).Unbroken := by
    apply Predicate.unbroken_conj
    simp only [List.forall_mem_append]
    exact ⟨⟨hrequired, Predicate.unbroken_someOf hshould⟩, Predicate.unbroken_noneOf hnot⟩
  cases ignored with
  | none => exact hwhole
  | some value =>
    have hvalue := (hignored value rfl).oneLine_render
    exact hwhole.demoted _ ((OneLine.append (by decide) hvalue).append (by decide))

/-! ## Outcomes -/

/-- Whether a step that may fail ends in a value with a property, or in a fault that is told on a
single line. -/
def Yields {α : Type} (P : α → Prop) : Except Fault α → Prop
  | .ok a => P a
  | .error fault => OneLine fault.message

section Yields

variable {α β : Type} {P : α → Prop} {Q : β → Prop}

theorem Yields.bind {x : Except Fault α} {f : α → Except Fault β} (hx : Yields P x)
    (hf : ∀ a, P a → Yields Q (f a)) : Yields Q (x >>= f) := by
  cases x with
  | error fault => exact hx
  | ok a => exact hf a hx

theorem yields_mapM {f : α → Except Fault β} {as : List α} (h : ∀ a ∈ as, Yields Q (f a)) :
    Yields (fun bs => ∀ b ∈ bs, Q b) (as.mapM f) := by
  induction as with
  | nil => exact List.forall_mem_nil _
  | cons a rest ih =>
    obtain ⟨ha, hrest⟩ := List.forall_mem_cons.1 h
    rw [List.mapM_cons]
    exact ha.bind fun b hb => (ih hrest).bind fun bs hbs => List.forall_mem_cons.2 ⟨hb, hbs⟩

end Yields

theorem Json.Kind.oneLine_phrase (kind : Json.Kind) : OneLine kind.phrase := by
  cases kind <;> decide

theorem Expected.oneLine_phrase (expected : Expected) : OneLine expected.phrase := by
  cases expected <;> decide

section Looks

variable {clause key : String} {value : Json} {members : Json.Members}

theorem oneLine_notAnObject (hclause : OneLine clause) (found : Json.Kind) :
    OneLine (Fault.notAnObject clause found).message :=
  (hclause.append (by decide)).append found.oneLine_phrase

theorem oneLine_unexpectedType (hclause : OneLine clause) (hkey : OneLine key)
    (expected : Expected) (found : Json.Kind) :
    OneLine (Fault.unexpectedType clause key expected found).message :=
  ((((((OneLine.append (by decide) hkey).append (by decide)).append hclause).append
    (by decide)).append expected.oneLine_phrase).append (by decide)).append found.oneLine_phrase

theorem yields_asObject (hclause : OneLine clause) (h : value.Unbroken) :
    Yields (fun members => (Json.obj members).Unbroken) (value.asObject clause) := by
  cases value with
  | obj members => exact h
  | _ => exact oneLine_notAnObject hclause _

theorem yields_asText (hclause : OneLine clause) (hkey : OneLine key) (h : value.Unbroken) :
    Yields OneLine (value.asText clause key) := by
  cases value with
  | str s => exact Json.unbroken_str_iff.1 h
  | _ => exact oneLine_unexpectedType hclause hkey _ _

theorem yields_asList (hclause : OneLine clause) (hkey : OneLine key) (h : value.Unbroken) :
    Yields (fun items => ∀ item ∈ items, item.Unbroken) (value.asList clause key) := by
  cases value with
  | arr items => exact h.item
  | _ => exact oneLine_unexpectedType hclause hkey _ _

theorem yields_asClauses (hclause : OneLine clause) (hkey : OneLine key) (h : value.Unbroken) :
    Yields (fun items => ∀ item ∈ items, item.Unbroken) (value.asClauses clause key) := by
  cases value with
  | arr items => exact h.item
  | obj members => exact List.forall_mem_singleton.2 h
  | _ => exact oneLine_unexpectedType hclause hkey _ _

theorem yields_required (hclause : OneLine clause) (hkey : OneLine key)
    (h : (Json.obj members).Unbroken) :
    Yields Json.Unbroken (members.required clause key) := by
  unfold Json.Members.required
  cases hvalue : members.get? key with
  | some value => exact h.get? hvalue
  | none =>
    exact ((hclause.append (by decide)).append hkey).append (by decide)

end Looks

/-! ## Leaf clauses -/

namespace Leaf

open Predicate

variable {body : Json}

theorem yields_multiMatch (h : body.Unbroken) :
    Yields Unbroken (Search.translateMultiMatch body) := by
  refine (yields_asObject (by decide) h).bind fun members hmembers => ?_
  extract_lets supported
  split
  · refine (yields_required (by decide) (by decide) hmembers).bind fun query hquery => ?_
    exact unbroken_translated (OneLine.append (by decide) hquery.oneLine_render)
  · exact unbroken_untranslatable (by decide) (by decide)

theorem yields_queryString (h : body.Unbroken) :
    Yields Unbroken (Search.translateQueryString body) := by
  refine (yields_asObject (by decide) h).bind fun members hmembers => ?_
  extract_lets field
  have hfield : OneLine field := by
    cases hdefault : Json.Members.get? members "default_field" with
    | none =>
      simp only [field, hdefault]
      decide
    | some value =>
      simp only [field, hdefault]
      exact (hmembers.get? hdefault).oneLine_render
  refine (yields_required (by decide) (by decide) hmembers).bind fun query hquery => ?_
  exact unbroken_translated ((hfield.append (by decide)).append hquery.oneLine_render)

theorem unbroken_easy {query : String} {fields : List String} (hquery : OneLine query)
    (hfields : ∀ field ∈ fields, OneLine field) (lenient : Bool) :
    (Search.easy query fields lenient).Unbroken := by
  have hall : (translated ("all_fields " ++ query)).Unbroken :=
    unbroken_translated (OneLine.append (by decide) hquery)
  have hhard : (untranslatable "\"hard\" simple_query_string not supported"
      "\"Hard\" simple_query_string").Unbroken :=
    unbroken_untranslatable (by decide) (by decide)
  match fields with
  | [] => exact hall
  | [field] =>
    have hfield := hfields field List.mem_cons_self
    dsimp only [Search.easy]
    split
    · exact unbroken_translated ((hfield.append (by decide)).append hquery)
    · split
      · exact hall
      · exact hhard
  | _ :: _ :: _ => exact hhard

theorem yields_keyed {members : Json.Members} (h : (Json.obj members).Unbroken) :
    Yields Unbroken (Search.translateKeyed members) := by
  refine (yields_required (by decide) (by decide) h).bind fun value hvalue => ?_
  refine (yields_asText (by decide) (by decide) hvalue).bind fun query hquery => ?_
  refine (yields_required (by decide) (by decide) h).bind fun list hlist => ?_
  refine (yields_asList (by decide) (by decide) hlist).bind fun items hitems => ?_
  have htexts : Yields _ (items.mapM (Json.asText "simple_query_string" "fields")) :=
    yields_mapM fun item hitem => yields_asText (by decide) (by decide) (hitems item hitem)
  refine htexts.bind fun fields hfields => ?_
  split
  · split
    · exact unbroken_untranslatable (by decide) (by decide)
    · split
      · exact unbroken_untranslatable (by decide) (by decide)
      · exact unbroken_easy hquery hfields true
  · exact unbroken_easy hquery hfields false

theorem yields_simple (h : body.Unbroken) : Yields Unbroken (Search.translateSimple body) := by
  refine (yields_asObject (by decide) h).bind fun members hmembers => ?_
  split
  · exact unbroken_untranslatable (by decide) (by decide)
  · split
    · next key hkey =>
      have hrequired : ∀ key ∈ Search.requiredKeys, OneLine key := by decide
      have honeLine := hrequired key (List.mem_of_find?_eq_some hkey)
      exact unbroken_untranslatable (OneLine.append (by decide) honeLine) (by decide)
    · exact yields_keyed hmembers

theorem eq_singleton_of_single? {members : Json.Members} {member : String × Json}
    (h : members.single? = some member) : members = [member] := by
  unfold Json.Members.single? at h
  split at h
  · cases h
    rfl
  · contradiction

theorem unbroken_operand {c : Comparison} {value operand : Json} (h : value.Unbroken)
    (hoperand : c.operand? value = some operand) : operand.Unbroken := by
  cases value with
  | obj options =>
    dsimp only [Comparison.operand?] at hoperand
    split at hoperand
    · exact h.get? hoperand
    · contradiction
  | _ =>
    cases hoperand
    exact h

theorem yields_comparison {c : Comparison} (hclause : OneLine c.clause)
    (hrelation : OneLine c.relation) (honeField : OneLine c.oneField) (h : body.Unbroken) :
    Yields Unbroken (c.translate body) := by
  have hinvalid : OneLine c.invalid := OneLine.append (by decide) hclause
  refine (yields_asObject hclause h).bind fun members hmembers => ?_
  split
  · exact unbroken_untranslatable honeField hinvalid
  · next field value hsingle =>
    obtain rfl := eq_singleton_of_single? hsingle
    obtain ⟨hfield, hvalue⟩ := hmembers.member List.mem_cons_self
    split
    · exact unbroken_untranslatable (hclause.append (by decide)) hinvalid
    · next operand hoperand =>
      have honeLine := (unbroken_operand hvalue hoperand).oneLine_render
      exact unbroken_translated
        ((((hfield.append (by decide)).append hrelation).append (by decide)).append honeLine)

theorem oneLine_comparisons {field : String} {given : Json.Members} (hfield : OneLine field)
    (h : (Json.obj given).Unbroken) :
    ∀ comparison ∈ Range.comparisons field given, OneLine comparison := by
  intro comparison hmem
  obtain ⟨⟨key, sign⟩, hbound, hgiven⟩ := List.mem_filterMap.1 hmem
  obtain ⟨bound, hvalue, rfl⟩ := Option.map_eq_some_iff.1 hgiven
  have hsigns : ∀ bound ∈ Range.bounds, OneLine bound.2 := by decide
  have hsign : OneLine sign := hsigns _ hbound
  exact (((hfield.append (by decide)).append hsign).append (by decide)).append
    (h.get? hvalue).oneLine_render

theorem oneLine_expression? {field expression : String} {given : Json.Members}
    (hfield : OneLine field) (h : (Json.obj given).Unbroken)
    (hexpression : Range.expression? field given = some expression) : OneLine expression := by
  have hcompared : OneLine (" AND ".intercalate (Range.comparisons field given)) :=
    OneLine.intercalate (by decide) (oneLine_comparisons hfield h)
  dsimp only [Range.expression?] at hexpression
  split at hexpression
  · contradiction
  · next format hformat =>
    cases hexpression
    exact (hfield.append (by decide)).append (h.get? hformat).oneLine_render
  · cases hexpression
    exact hcompared
  · next format hformat =>
    cases hexpression
    exact (hcompared.append (by decide)).append (h.get? hformat).oneLine_render

theorem yields_range (h : body.Unbroken) : Yields Unbroken (Range.translate body) := by
  refine (yields_asObject (by decide) h).bind fun members hmembers => ?_
  split
  · exact unbroken_untranslatable (by decide) (by decide)
  · next field value =>
    obtain ⟨hfield, hvalue⟩ := hmembers.member List.mem_cons_self
    refine (yields_asObject (by decide) hvalue).bind fun given hgiven => ?_
    split
    · exact unbroken_untranslatable (hfield.append (by decide)) (by decide)
    · next expression hexpression =>
      have honeLine := oneLine_expression? hfield hgiven hexpression
      exact unbroken_translated ((OneLine.append (by decide) honeLine).append (by decide))
  · exact unbroken_untranslatable (by decide) (by decide)

theorem yields_existence (h : body.Unbroken) : Yields Unbroken (translateExistence body) := by
  refine (yields_asObject (by decide) h).bind fun members hmembers => ?_
  split
  · refine (yields_required (by decide) (by decide) hmembers).bind fun field hfield => ?_
    exact unbroken_translated (OneLine.append (by decide) hfield.oneLine_render)
  · exact unbroken_untranslatable (by decide) (by decide)

theorem yields_matchAll (h : body.Unbroken) : Yields Unbroken (translateMatchAll body) := by
  refine (yields_asObject (by decide) h).bind fun members hmembers => ?_
  split
  · exact unbroken_translated (by decide)
  · exact unbroken_untranslatable (by decide) (by decide)

theorem yields_patternOf {clause field : String} {value : Json} (hclause : OneLine clause)
    (hfield : OneLine field) (h : value.Unbroken) :
    Yields OneLine (Pattern.patternOf clause field value) := by
  cases value with
  | obj options =>
    exact (yields_required hclause (by decide) h).bind fun value hvalue =>
      yields_asText hclause (by decide) hvalue
  | _ => exact yields_asText hclause hfield h

theorem oneLine_beforeStar? {pattern start : String} (h : OneLine pattern)
    (hstart : Pattern.beforeStar? pattern = some start) : OneLine start := by
  unfold Pattern.beforeStar? at hstart
  split at hstart
  · cases hstart
    intro hmem
    rw [String.toList_ofList] at hmem
    exact h (List.dropLast_subset _ hmem)
  · contradiction

theorem unbroken_like {field start : String} (hfield : OneLine field) (hstart : OneLine start) :
    (Pattern.like field start).Unbroken :=
  unbroken_translated (((hfield.append (by decide)).append hstart).append (by decide))

theorem yields_wildcard (h : body.Unbroken) : Yields Unbroken (Pattern.translateWildcard body) := by
  refine (yields_asObject (by decide) h).bind fun members hmembers => ?_
  split
  · exact unbroken_untranslatable (by decide) (by decide)
  · next field value hsingle =>
    obtain rfl := eq_singleton_of_single? hsingle
    obtain ⟨hfield, hvalue⟩ := hmembers.member List.mem_cons_self
    refine (yields_patternOf (by decide) hfield hvalue).bind fun pattern hpattern => ?_
    split
    · exact unbroken_untranslatable (by decide) (by decide)
    · split
      · exact unbroken_untranslatable (by decide) (by decide)
      · split
        · next start hstart => exact unbroken_like hfield (oneLine_beforeStar? hpattern hstart)
        · exact unbroken_untranslatable (by decide) (by decide)

theorem yields_prefix (h : body.Unbroken) : Yields Unbroken (Pattern.translatePrefix body) := by
  refine (yields_asObject (by decide) h).bind fun members hmembers => ?_
  split
  · exact unbroken_untranslatable (by decide) (by decide)
  · next field value hsingle =>
    obtain rfl := eq_singleton_of_single? hsingle
    obtain ⟨hfield, hvalue⟩ := hmembers.member List.mem_cons_self
    split
    · refine (yields_patternOf (by decide) hfield hvalue).bind fun pattern hpattern => ?_
      exact unbroken_like hfield hpattern
    · exact unbroken_untranslatable (by decide) (by decide)

theorem yields_translate (leaf : Leaf) (h : body.Unbroken) :
    Yields Unbroken (leaf.translate body) := by
  cases leaf with
  | multiMatch => exact yields_multiMatch h
  | range => exact yields_range h
  | term => exact yields_comparison (by decide) (by decide) (by decide) h
  | terms => exact yields_comparison (by decide) (by decide) (by decide) h
  | matching => exact yields_comparison (by decide) (by decide) (by decide) h
  | matchPhrase => exact yields_comparison (by decide) (by decide) (by decide) h
  | existence => exact yields_existence h
  | simpleQueryString => exact yields_simple h
  | matchAll => exact yields_matchAll h
  | wildcard => exact yields_wildcard h
  | beginning => exact yields_prefix h
  | queryString => exact yields_queryString h

end Leaf

/-! ## Compound clauses -/

namespace Traced

variable {α β : Type} {P : α → Prop} {Q : β → Prop}

theorem outcome_bind (x : Traced α) (f : α → Traced β) :
    (x >>= f).outcome = x.outcome >>= fun a => (f a).outcome := by
  obtain ⟨events, outcome⟩ := x
  cases outcome <;> rfl

theorem yields_bind {x : Traced α} {f : α → Traced β} (hx : Yields P x.outcome)
    (hf : ∀ a, P a → Yields Q (f a).outcome) : Yields Q (x >>= f).outcome := by
  rw [outcome_bind]
  exact hx.bind hf

theorem yields_each {f : α → Traced β} {as : List α} (h : ∀ a ∈ as, Yields Q (f a).outcome) :
    Yields (fun bs => ∀ b ∈ bs, Q b) (each f as).outcome := by
  induction as with
  | nil => exact List.forall_mem_nil _
  | cons a rest ih =>
    obtain ⟨ha, hrest⟩ := List.forall_mem_cons.1 h
    exact yields_bind ha fun b hb =>
      yields_bind (ih hrest) fun bs hbs => List.forall_mem_cons.2 ⟨hb, hbs⟩

end Traced

section Compounds

open Predicate Traced

variable {inner : Json → Traced Predicate} {body : Json} {members : Json.Members}

/-- Whether documents without a newline in them translate to predicates without one. -/
def KeepsLines (inner : Json → Traced Predicate) : Prop :=
  ∀ document, document.Unbroken → Yields Unbroken (inner document).outcome

theorem KeepsLines.clausesAt (hinner : KeepsLines inner) (h : (Json.obj members).Unbroken)
    {key : String} (hkey : OneLine key) :
    Yields (fun ps => ∀ p ∈ ps, p.Unbroken) (BoolClause.clausesAt inner members key).outcome := by
  unfold BoolClause.clausesAt
  cases hvalue : members.get? key with
  | none => exact List.forall_mem_nil _
  | some value =>
    have hread := yields_asClauses (show OneLine "bool" by decide) hkey (h.get? hvalue)
    refine yields_bind hread fun documents hdocuments => ?_
    exact yields_each fun document hdocument => hinner document (hdocuments document hdocument)

theorem KeepsLines.shouldGiven (hinner : KeepsLines inner) (h : (Json.obj members).Unbroken)
    (required : Nat) :
    Yields (fun ps => ∀ p ∈ ps, p.Unbroken)
      (BoolClause.shouldGiven inner members required).outcome := by
  unfold BoolClause.shouldGiven
  split
  · exact hinner.clausesAt h (by decide)
  · exact List.forall_mem_nil _

theorem ignored_of_effective {given : Option Json} {required : Nat} {value : Json}
    (h : (Minimum.effective given required).2 = some value) : given = some value := by
  unfold Minimum.effective at h
  split at h
  · contradiction
  · split at h
    · contradiction
    · exact h

theorem KeepsLines.bool (hinner : KeepsLines inner) (h : body.Unbroken) :
    Yields Unbroken (BoolClause.translate inner body).outcome := by
  rw [BoolClause.translate_eq]
  refine yields_bind (yields_asObject (by decide) h) fun members hmembers => ?_
  refine yields_bind (hinner.clausesAt hmembers (by decide)) fun must hmust => ?_
  refine yields_bind (hinner.clausesAt hmembers (by decide)) fun filter hfilter => ?_
  refine yields_bind (hinner.shouldGiven hmembers _) fun should hshould => ?_
  refine yields_bind (hinner.clausesAt hmembers (by decide)) fun mustNot hmustNot => ?_
  have hrequired := List.forall_mem_append.2 ⟨hmust, hfilter⟩
  exact BoolClause.unbroken_combine hrequired hshould hmustNot fun value hvalue =>
    hmembers.get? (ignored_of_effective hvalue)

theorem KeepsLines.wrapper (hinner : KeepsLines inner) {w : Wrapper} (hclause : OneLine w.clause)
    (hkey : OneLine w.key) (hnote : OneLine w.note) (h : body.Unbroken) :
    Yields Unbroken (w.translate inner body).outcome := by
  refine yields_bind (yields_asObject hclause h) fun members hmembers => ?_
  refine yields_bind (yields_required hclause hkey hmembers) fun wrapped hwrapped => ?_
  exact yields_bind (hinner wrapped hwrapped) fun p hp => hp.withNote hnote

theorem KeepsLines.query (hinner : KeepsLines inner) (h : body.Unbroken) (alone : Bool) :
    Yields Unbroken (Wrapper.translateQuery inner body alone).outcome := by
  cases alone with
  | true => exact hinner body h
  | false => exact unbroken_untranslatable (by decide) (by decide)

theorem KeepsLines.nested (hinner : KeepsLines inner) (h : body.Unbroken) :
    Yields Unbroken (Wrapper.translateNested inner body).outcome := by
  refine yields_bind (yields_asObject (by decide) h) fun members hmembers => ?_
  split
  · next wrapped _ hwrapped => exact hinner wrapped (hmembers.get? hwrapped)
  · exact unbroken_untranslatable (by decide) (by decide)

theorem KeepsLines.disMax (hinner : KeepsLines inner) (h : body.Unbroken) :
    Yields Unbroken (Wrapper.translateDisMax inner body).outcome := by
  refine yields_bind (yields_asObject (by decide) h) fun members hmembers => ?_
  refine yields_bind (yields_required (by decide) (by decide) hmembers) fun queries hqueries => ?_
  refine yields_bind (yields_asList (by decide) (by decide) hqueries) fun documents hdocuments => ?_
  have heach := yields_each fun document hdocument =>
    hinner document (hdocuments document hdocument)
  refine yields_bind heach fun ps hps => ?_
  split
  · exact unbroken_untranslatable (by decide) (by decide)
  · exact (unbroken_disj hps).withNote (by decide)

theorem unbroken_notImplemented {keys : List String} (h : ∀ key ∈ keys, OneLine key) :
    (notImplemented keys).Unbroken :=
  unbroken_untranslatable (by decide)
    (OneLine.append (by decide) (OneLine.intercalate (by decide) h))

theorem unbroken_tooDeep (maxDepth : Nat) : (tooDeep maxDepth).Unbroken :=
  unbroken_untranslatable (by decide) (OneLine.append (by decide) (oneLine_toString maxDepth))

/-- A clause has a predicate on a single line when the clauses within it do. -/
theorem KeepsLines.classified (hinner : KeepsLines inner) (h : (Json.obj members).Unbroken) :
    Yields Unbroken ((Clause.classify members).translate inner).outcome := by
  cases hclause : Clause.classify members with
  | unknown keys =>
    obtain rfl := Clause.keys_of_classify hclause
    exact unbroken_notImplemented h.keys
  | known kind body alone =>
    have hbody : body.Unbroken := h.get? (Clause.get?_of_classify hclause)
    cases kind with
    | bool => exact hinner.bool hbody
    | query => exact hinner.query hbody alone
    | boosting => exact hinner.wrapper (by decide) (by decide) (by decide) hbody
    | constantScore => exact hinner.wrapper (by decide) (by decide) (by decide) hbody
    | disMax => exact hinner.disMax hbody
    | nested => exact hinner.nested hbody
    | leaf l => exact l.yields_translate hbody

end Compounds

/-! ## Documents -/

theorem keepsLines_translateWithin (levels : Nat) (env : Env) :
    KeepsLines (translateWithin levels env) := by
  induction levels generalizing env with
  | zero => exact fun _ _ => unbroken_tooDeep env.maxDepth
  | succ levels ih =>
    intro document h
    refine Traced.yields_bind (yields_asObject (by decide) h) fun members hmembers => ?_
    exact (ih env.descend).classified hmembers

/-- A document without a newline in its strings and keys has a predicate that is shown on a single
line, also if the predicate tells of a fault. -/
theorem oneLine_display_translate {document : Json} (h : document.Unbroken) (maxDepth : Nat) :
    OneLine (translate maxDepth document).predicate.display := by
  apply Predicate.Unbroken.oneLine_display
  have houtcome : Yields Predicate.Unbroken (translateClause (Env.top maxDepth) document).outcome :=
    keepsLines_translateWithin _ _ document h
  rw [translate_predicate]
  unfold Traced.predicate
  split
  · next p hp =>
    rw [hp] at houtcome
    exact houtcome
  · next fault hfault =>
    rw [hfault] at houtcome
    exact Predicate.unbroken_untranslatable (OneLine.append (by decide) houtcome) (by decide)

end ClauseFilter
