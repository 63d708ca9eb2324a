import ClauseFilter.Proofs.MemberOrder

/-!
# Options of clauses for a single field

A clause for a single field may hold its operand in an object, beside options. The comparisons take
no option but `boost`, which only bears on scoring, and the `prefix` clause takes none at all; with
any other option they are not translatable. The `wildcard` and `range` clauses read the options that
they know and pass over all others. Where the operand may stand by itself it makes no difference in
which of the two forms it is given (`translate_options`).
-/

namespace ClauseFilter

variable {body value : Json} {field : String} {options options' : Json.Members} {p : Predicate}

/-- A translation that asks for a single field has found one, unless it has rejected the body. -/
theorem exists_single {context : String} {rejected : Predicate}
    {found : String → Json → Except Fault Predicate} (hrejected : rejected.translatable = false)
    (h : (do
      let members ← body.asObject context
      match members.single? with
      | none => return rejected
      | some (field, value) => found field value) = .ok p)
    (hp : p.translatable = true) :
    ∃ field value, body = .obj [(field, value)] ∧ found field value = .ok p := by
  match body with
  | .obj [(field, value)] => exact ⟨field, value, rfl, h⟩
  | .obj [] | .obj (_ :: _ :: _) =>
    cases h
    exact absurd (hrejected.symm.trans hp) Bool.false_ne_true
  | .null | .bool _ | .num _ | .str _ | .arr _ => contradiction

/-! ## Comparisons -/

namespace Comparison

variable {c : Comparison} {operand : Json}

/-- A comparison that is translated has found its operand under a single field. -/
theorem exists_operand (h : c.translate body = .ok p) (hp : p.translatable = true) :
    ∃ field value operand, body = .obj [(field, value)] ∧ c.operand? value = some operand ∧
      p = .translated (field ++ " " ++ c.relation ++ " " ++ operand.render) := by
  obtain ⟨field, value, rfl, hfound⟩ := exists_single rfl h hp
  split at hfound
  · cases hfound
    contradiction
  · next operand hoperand =>
    cases hfound
    exact ⟨field, value, operand, rfl, hoperand, rfl⟩

theorem operand?_obj (h : c.operand? (.obj options) = some operand) :
    options.get? c.operandKey = some operand ∧
      ∀ key ∈ options.keys, key = c.operandKey ∨ key = "boost" := by
  rw [operand?] at h
  split at h
  · next hall =>
    refine ⟨h, fun key hkey => ?_⟩
    simpa using List.all_eq_true.1 hall key hkey
  · contradiction

theorem operand?_of_kind_ne (h : operand.kind ≠ .object) : c.operand? operand = some operand := by
  cases operand with
  | obj members => contradiction
  | _ => rfl

theorem translate_of_operand? (h : c.operand? value = some operand) :
    c.translate (.obj [(field, value)]) =
      .ok (.translated (field ++ " " ++ c.relation ++ " " ++ operand.render)) := by
  simp only [translate, Json.asObject, bind, Except.bind, Json.Members.single?, h]
  rfl

/-- The long form of a comparison has no options but the known ones, and means what the short form
means. -/
theorem options_of_translatable (h : c.translate body = .ok p) (hp : p.translatable = true) :
    ∃ field value, body = .obj [(field, value)] ∧ ∀ options : Json.Members, value = .obj options →
      (∀ key ∈ options.keys, key = c.operandKey ∨ key = "boost") ∧
      ∃ operand, options.get? c.operandKey = some operand ∧
        (operand.kind ≠ .object → c.translate (.obj [(field, operand)]) = .ok p) := by
  obtain ⟨field, value, operand, rfl, hoperand, rfl⟩ := exists_operand h hp
  refine ⟨field, value, rfl, ?_⟩
  rintro options rfl
  obtain ⟨hget, hkeys⟩ := operand?_obj hoperand
  exact ⟨hkeys, operand, hget, fun hkind => translate_of_operand? (operand?_of_kind_ne hkind)⟩

end Comparison

/-! ## Patterns -/

namespace Pattern

variable {clause pattern start : String}

/-- A text under a field, by itself or in an object that holds it under `value`. -/
inductive Holds : Json → String → Prop
  | short (pattern : String) : Holds (.str pattern) pattern
  | long {options : Json.Members} {pattern : String}
    (h : options.get? "value" = some (.str pattern)) : Holds (.obj options) pattern

theorem patternOf_eq_ok_iff : patternOf clause field value = .ok pattern ↔ Holds value pattern := by
  constructor
  · intro h
    cases value with
    | str text =>
      cases h
      exact .short _
    | obj options =>
      obtain ⟨operand, hoperand, htext⟩ := ok_of_bind h
      obtain rfl := Json.asText_eq_ok_iff.1 htext
      exact .long (Json.required_eq_ok_iff.1 hoperand)
    | _ => contradiction
  · rintro (_ | h)
    · rfl
    · simp [patternOf, Json.Members.required, h, bind, Except.bind, Json.asText]

theorem beforeStar?_eq_some (h : beforeStar? pattern = some start) : pattern = start ++ "*" := by
  unfold beforeStar? at h
  split at h
  · next hlast =>
    cases h
    rw [← String.toList_inj, String.toList_append, String.toList_ofList]
    exact (List.dropLast_append_getLast? '*' hlast).symm
  · contradiction

/-- With a star at the end there is room for no other one. -/
theorem star_not_mem (h : (start ++ "*").toList.count '*' ≤ 1) : '*' ∉ start.toList := by
  have hstar : List.count '*' "*".toList = 1 := rfl
  rw [String.toList_append, List.count_append, hstar] at h
  exact List.count_eq_zero.1 (by omega)

/-- A `wildcard` clause that is translated has a single field with a plain name, and a pattern there
with one star, at the end. -/
theorem exists_wildcard (h : translateWildcard body = .ok p) (hp : p.translatable = true) :
    ∃ field value start, body = .obj [(field, value)] ∧ isPlainName field = true ∧
      Holds value (start ++ "*") ∧ '*' ∉ start.toList ∧ p = like field start := by
  obtain ⟨field, value, rfl, hfound⟩ := exists_single rfl h hp
  obtain ⟨pattern, hpattern, hstar⟩ := ok_of_bind hfound
  split at hstar
  · cases hstar
    contradiction
  · next hname =>
    split at hstar
    · cases hstar
      contradiction
    · next hcount =>
      split at hstar
      · next start hstart =>
        cases hstar
        obtain rfl := beforeStar?_eq_some hstart
        exact ⟨field, value, start, rfl, by simpa using hname, patternOf_eq_ok_iff.1 hpattern,
          star_not_mem (Nat.le_of_not_lt hcount), rfl⟩
      · cases hstar
        contradiction

/-- A `prefix` clause that is translated has a single field with a text. -/
theorem exists_prefix (h : translatePrefix body = .ok p) (hp : p.translatable = true) :
    ∃ field value start, body = .obj [(field, value)] ∧ hasPrefixForm value = true ∧
      Holds value start ∧ p = like field start := by
  obtain ⟨field, value, rfl, hfound⟩ := exists_single rfl h hp
  split at hfound
  · next hform =>
    obtain ⟨start, hstart, ⟨⟩⟩ := ok_of_bind hfound
    exact ⟨field, value, start, rfl, hform, patternOf_eq_ok_iff.1 hstart, rfl⟩
  · cases hfound
    contradiction

/-- The translation of a `wildcard` clause depends on the pattern that is found, not on where. -/
theorem translateWildcard_eq_of_holds {value' : Json} (h : Holds value pattern)
    (h' : Holds value' pattern) :
    translateWildcard (.obj [(field, value)]) = translateWildcard (.obj [(field, value')]) := by
  have hpattern : patternOf "wildcard" field value = patternOf "wildcard" field value' :=
    (patternOf_eq_ok_iff.2 h).trans (patternOf_eq_ok_iff.2 h').symm
  simp only [translateWildcard, Json.asObject, bind, Except.bind, Json.Members.single?, hpattern]

theorem translatePrefix_of_str (field start : String) :
    translatePrefix (.obj [(field, .str start)]) = .ok (like field start) := rfl

theorem keys_of_hasPrefixForm (h : hasPrefixForm (.obj options) = true) :
    options.keys = ["value"] := by
  rw [hasPrefixForm, Bool.and_eq_true, beq_iff_eq, Json.Members.has_eq, decide_eq_true_iff] at h
  obtain ⟨member, rfl⟩ := List.length_eq_one_iff.1 h.1
  rw [List.mem_singleton.1 h.2]
  rfl

theorem get?_of_holds (h : Holds (.obj options) pattern) :
    options.get? "value" = some (.str pattern) := by
  cases h
  assumption

/-- A `wildcard` clause reads the pattern and passes over all other options. -/
theorem wildcard_options_of_translatable (h : translateWildcard body = .ok p)
    (hp : p.translatable = true) :
    ∃ field value, body = .obj [(field, value)] ∧ ∀ options : Json.Members, value = .obj options →
      (∀ options' : Json.Members, options'.get? "value" = options.get? "value" →
        translateWildcard (.obj [(field, .obj options')]) = .ok p) ∧
      ∃ operand, options.get? "value" = some operand ∧
        (operand.kind ≠ .object → translateWildcard (.obj [(field, operand)]) = .ok p) := by
  obtain ⟨field, value, start, rfl, -, hholds, -, -⟩ := exists_wildcard h hp
  refine ⟨field, value, rfl, ?_⟩
  rintro options rfl
  have hget := get?_of_holds hholds
  refine ⟨fun options' hoptions => ?_, _, hget, fun _ => ?_⟩
  · rw [← h]
    exact translateWildcard_eq_of_holds (.long (hoptions.trans hget)) hholds
  · rw [← h]
    exact translateWildcard_eq_of_holds (.short _) hholds

/-- The long form of a `prefix` clause has no options, and means what the short form means. -/
theorem prefix_options_of_translatable (h : translatePrefix body = .ok p)
    (hp : p.translatable = true) :
    ∃ field value, body = .obj [(field, value)] ∧ ∀ options : Json.Members, value = .obj options →
      options.keys = ["value"] ∧ ∃ operand, options.get? "value" = some operand ∧
        (operand.kind ≠ .object → translatePrefix (.obj [(field, operand)]) = .ok p) := by
  obtain ⟨field, value, start, rfl, hform, hholds, rfl⟩ := exists_prefix h hp
  refine ⟨field, value, rfl, ?_⟩
  rintro options rfl
  exact ⟨keys_of_hasPrefixForm hform, _, get?_of_holds hholds,
    fun _ => translatePrefix_of_str field start⟩

end Pattern

/-! ## Ranges -/

namespace Range

/-- The options that bound a range or annotate its bounds. -/
def optionKeys : List String :=
  bounds.map Prod.fst ++ ["format"]

theorem expression?_eq_of_get?_eq (field : String)
    (h : ∀ key ∈ optionKeys, options'.get? key = options.get? key) :
    expression? field options' = expression? field options := by
  have hbounds : comparisons field options' = comparisons field options := by
    refine List.filterMap_congr fun (key, sign) hbound => ?_
    simp only [h key (List.mem_append_left _ (List.mem_map_of_mem hbound))]
  rw [expression?, expression?, hbounds, h "format" (by decide)]

/-- A `range` clause passes over all options but the bounds and the format. -/
theorem options_of_translatable (h : translate body = .ok p) (hp : p.translatable = true) :
    ∃ field value, body = .obj [(field, value)] ∧ ∀ options : Json.Members, value = .obj options →
      ∀ options' : Json.Members, (∀ key ∈ optionKeys, options'.get? key = options.get? key) →
        translate (.obj [(field, .obj options')]) = .ok p := by
  match body with
  | .obj [(field, value)] =>
    refine ⟨field, value, rfl, ?_⟩
    rintro options rfl options' hoptions
    rw [← h]
    simp only [translate, Json.asObject, bind, Except.bind,
      expression?_eq_of_get?_eq field hoptions]
  | .obj [] | .obj (_ :: _ :: _) =>
    cases h
    contradiction
  | .null | .bool _ | .num _ | .str _ | .arr _ => contradiction

end Range

/-! ## All clauses for a single field -/

namespace Leaf

/-- The key that holds the operand in the long form of a clause for a single field. -/
def operandKey : Leaf → String
  | .matching => "query"
  | .matchPhrase => "query"
  | _ => "value"

/-- The options that a clause for a single field reads. -/
def readOptions : Leaf → List String
  | .range => Range.optionKeys
  | l => [l.operandKey]

example : Leaf.range.readOptions = ["gte", "gt", "lt", "lte", "format"] := rfl

/-- In a translatable clause for a single field that holds an object, all options are read or are
the `boost`, unless it is a `wildcard` or a `range` clause; these have the same translation with any
other options that they do not read. But for ranges there is an operand, and if that is no object
the clause has the same translation when the operand stands by itself. -/
theorem translate_options {l : Leaf} (hl : l ∈ withOptions) (h : l.translate body = .ok p)
    (hp : p.translatable = true) :
    ∃ field value, body = .obj [(field, value)] ∧ ∀ options : Json.Members, value = .obj options →
      (l ≠ .wildcard → l ≠ .range →
        ∀ key ∈ options.keys, key ∈ l.readOptions ∨ key = "boost") ∧
      (l = .wildcard ∨ l = .range → ∀ options' : Json.Members,
        (∀ key ∈ l.readOptions, options'.get? key = options.get? key) →
        l.translate (.obj [(field, .obj options')]) = .ok p) ∧
      (l ≠ .range → ∃ operand, options.get? l.operandKey = some operand ∧
        (operand.kind ≠ .object → l.translate (.obj [(field, operand)]) = .ok p)) := by
  cases l with
  | term | terms | matching | matchPhrase =>
    obtain ⟨field, value, rfl, hoptions⟩ := Comparison.options_of_translatable h hp
    refine ⟨field, value, rfl, fun options hvalue => ?_⟩
    obtain ⟨hkeys, hoperand⟩ := hoptions options hvalue
    exact ⟨fun _ _ key hkey => (hkeys key hkey).imp_left List.mem_singleton.2, nofun,
      fun _ => hoperand⟩
  | range =>
    obtain ⟨field, value, rfl, hoptions⟩ := Range.options_of_translatable h hp
    exact ⟨field, value, rfl, fun options hvalue =>
      ⟨fun _ hne => absurd rfl hne, fun _ => hoptions options hvalue, fun hne => absurd rfl hne⟩⟩
  | wildcard =>
    obtain ⟨field, value, rfl, hoptions⟩ := Pattern.wildcard_options_of_translatable h hp
    refine ⟨field, value, rfl, fun options hvalue => ?_⟩
    obtain ⟨hunread, hoperand⟩ := hoptions options hvalue
    exact ⟨fun hne => absurd rfl hne,
      fun _ options' hread => hunread options' (hread _ List.mem_cons_self), fun _ => hoperand⟩
  | beginning =>
    obtain ⟨field, value, rfl, hoptions⟩ := Pattern.prefix_options_of_translatable h hp
    refine ⟨field, value, rfl, fun options hvalue => ?_⟩
    obtain ⟨hkeys, hoperand⟩ := hoptions options hvalue
    refine ⟨fun _ _ key hkey => .inl ?_, nofun, fun _ => hoperand⟩
    rwa [hkeys] at hkey
  | multiMatch | existence | simpleQueryString | matchAll | queryString =>
    exact absurd hl (by decide)

/-- A comparison with a boost, in the long form. -/
theorem translate_options_boostedTerm :
    let boost := ("boost", Json.num (.int 2 (by decide)))
    let p := Predicate.translated "status = active"
    Leaf.term ∈ withOptions ∧
      Leaf.term.translate (.obj [("status", .obj [boost, ("value", .str "active")])]) = .ok p ∧
      p.translatable = true ∧ Leaf.term.translate (.obj [("status", .str "active")]) = .ok p := by
  intro boost p
  have hl : Leaf.term ∈ withOptions := by decide
  have hlong : Leaf.term.translate (.obj [("status", .obj [boost, ("value", .str "active")])]) =
      .ok p := rfl
  obtain ⟨field, value, ⟨⟩, hoptions⟩ := translate_options hl hlong rfl
  obtain ⟨-, -, hshort⟩ := hoptions _ rfl
  obtain ⟨operand, ⟨⟩, hsame⟩ := hshort (by decide)
  exact ⟨hl, hlong, rfl, hsame (by decide)⟩

/-- Options that a `wildcard` or a `range` clause does not know are passed over, though they change
which documents the clause asks for. -/
theorem not_options_known :
    ¬ ∀ l ∈ withOptions, ∀ (field : String) (options : Json.Members) (p : Predicate),
      l.translate (.obj [(field, .obj options)]) = .ok p → p.translatable = true →
        ∀ key ∈ options.keys, key ∈ l.readOptions ∨ key = "boost" := by
  intro h
  have hkey := h .wildcard (by decide) "name"
    [("value", .str "ab*"), ("case_insensitive", .bool true)] (.translated "name like ab%")
    (by decide) rfl "case_insensitive"
  exact absurd (hkey (by decide)) (by decide)

end Leaf

end ClauseFilter
