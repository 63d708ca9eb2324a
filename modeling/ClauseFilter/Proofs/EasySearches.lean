import ClauseFilter.Proofs.TakenSteps
import Mathlib.Data.List.Perm.Subperm

/-!
# Easy simple query strings

Which simple query strings are translated, with which expressions (`Easy`), and which have a fault
(`Malformed`). All others are rejected with a single note (`translateSimple_outcome`). A fault is
found before a fourth key is looked at, so it takes precedence over a rejection for that key.
-/

namespace ClauseFilter

/-- Texts are read from a list just when it is a list of these texts. -/
theorem Json.mapM_asText_eq_ok_iff {clause key : String} {items : List Json}
    {texts : List String} :
    items.mapM (asText clause key) = .ok texts ↔ items = texts.map .str := by
  induction items generalizing texts with
  | nil => cases texts <;> simp [pure, Except.pure]
  | cons item rest ih =>
    rw [List.mapM_cons]
    constructor
    · intro h
      obtain ⟨text, htext, h⟩ := ok_of_bind h
      obtain ⟨more, hmore, ⟨⟩⟩ := ok_of_bind h
      rw [asText_eq_ok_iff.1 htext, ih.1 hmore, List.map_cons]
    · intro h
      cases texts with
      | nil => contradiction
      | cons text more =>
        obtain ⟨rfl, hrest⟩ := List.cons.inj h
        rw [ih.2 hrest]
        rfl

namespace Search

variable {members : Json.Members} {query field : String} {fields : List String} {p : Predicate}

/-! ## What is asked for -/

/-- Whether members hold a query and a list of fields, both of the types that are expected. -/
structure Asks (members : Json.Members) (query : String) (fields : List String) : Prop where
  query : members.get? "query" = some (.str query)
  fields : members.get? "fields" = some (.arr (fields.map .str))

theorem asks_of_translateKeyed (h : translateKeyed members = .ok p) :
    ∃ query fields, Asks members query fields := by
  obtain ⟨value, hvalue, h⟩ := ok_of_bind h
  obtain ⟨query, hquery, h⟩ := ok_of_bind h
  obtain ⟨list, hlist, h⟩ := ok_of_bind h
  obtain ⟨items, hitems, h⟩ := ok_of_bind h
  obtain ⟨fields, hfields, -⟩ := ok_of_bind h
  obtain rfl := Json.asText_eq_ok_iff.1 hquery
  obtain rfl := Json.asList_eq_ok_iff.1 hitems
  obtain rfl := Json.mapM_asText_eq_ok_iff.1 hfields
  exact ⟨query, fields, Json.required_eq_ok_iff.1 hvalue, Json.required_eq_ok_iff.1 hlist⟩

theorem translateKeyed_of_asks (h : Asks members query fields) :
    translateKeyed members = .ok (
      if members.length = 4 then
        if !members.has "lenient" then rejected "simple_query_string lack of lenient"
        else if fields.head? ≠ some "*" then rejected "lenient + hard simple_query_string"
        else easy query fields true
      else easy query fields false) := by
  have hquery : members.required "simple_query_string" "query" = .ok (.str query) :=
    Json.required_eq_ok_iff.2 h.query
  have hfields : members.required "simple_query_string" "fields" = .ok (.arr (fields.map .str)) :=
    Json.required_eq_ok_iff.2 h.fields
  have htexts : (fields.map Json.str).mapM (Json.asText "simple_query_string" "fields") =
      .ok fields := Json.mapM_asText_eq_ok_iff.2 rfl
  unfold translateKeyed
  simp only [hquery, hfields, bind, Except.bind, Json.asText, Json.asList] at htexts ⊢
  rw [htexts]
  dsimp only
  split
  · split
    · rfl
    · split <;> rfl
  · rfl

/-! ## Keys -/

theorem keys_perm {keys : List String} (hnodup : keys.Nodup)
    (hkeys : ∀ key ∈ keys, members.has key = true) (hlength : members.length = keys.length) :
    members.keys.Perm keys := by
  have hsubset : keys ⊆ members.keys := by
    intro key hkey
    simpa [Json.Members.has_eq] using hkeys key hkey
  have hle : members.keys.length ≤ keys.length := by simp [Json.Members.keys, hlength]
  exact ((List.subperm_of_subset hnodup hsubset).perm_of_length_le hle).symm

theorem length_of_keys_perm {keys : List String} (h : members.keys.Perm keys) :
    members.length = keys.length := by
  have hlength := h.length_eq
  rwa [Json.Members.keys, List.length_map] at hlength

theorem has_of_keys_perm {keys : List String} (h : members.keys.Perm keys) {key : String}
    (hkey : key ∈ keys) : members.has key = true := by
  rw [Json.Members.has_eq, decide_eq_true_iff]
  exact h.mem_iff.2 hkey

/-- The keys of a simple query string that is lenient. -/
def lenientKeys : List String :=
  requiredKeys ++ ["lenient"]

theorem isKeyed_of_perm (h : members.keys.Perm requiredKeys) : IsKeyed (.obj members) :=
  ⟨.inl (length_of_keys_perm h), fun _ hkey => has_of_keys_perm h hkey⟩

theorem isKeyed_of_perm_lenient (h : members.keys.Perm lenientKeys) : IsKeyed (.obj members) :=
  ⟨.inr (length_of_keys_perm h), fun _ hkey => has_of_keys_perm h (List.mem_append_left _ hkey)⟩

/-- A fourth key is `lenient`, or it is not. -/
theorem keys_cases (h : IsKeyed (.obj members)) :
    members.keys.Perm requiredKeys ∨ members.keys.Perm lenientKeys ∨
      members.length = 4 ∧ members.has "lenient" = false := by
  obtain ⟨hlength, hkeys⟩ := h
  rcases hlength with hthree | hfour
  · exact .inl (keys_perm (by decide) hkeys hthree)
  · cases hlenient : members.has "lenient" with
    | false => exact .inr (.inr ⟨hfour, rfl⟩)
    | true =>
      refine .inr (.inl (keys_perm (by decide) ?_ hfour))
      refine List.forall_mem_append.2 ⟨hkeys, ?_⟩
      exact List.forall_mem_singleton.2 hlenient

/-! ## Outcomes -/

theorem translateSimple_of_asks (h : Asks members query fields)
    (hkeys : members.keys.Perm requiredKeys) :
    translateSimple (.obj members) = .ok (easy query fields false) := by
  have hlength : members.length ≠ 4 := by
    rw [length_of_keys_perm hkeys]
    decide
  rw [translateSimple_of_isKeyed (isKeyed_of_perm hkeys), translateKeyed_of_asks h,
    if_neg hlength]

theorem translateSimple_of_asks_lenient (h : Asks members query ("*" :: fields))
    (hkeys : members.keys.Perm lenientKeys) :
    translateSimple (.obj members) = .ok (easy query ("*" :: fields) true) := by
  have hlength : members.length = 4 := length_of_keys_perm hkeys
  have hlenient : members.has "lenient" = true := has_of_keys_perm hkeys (by decide)
  rw [translateSimple_of_isKeyed (isKeyed_of_perm_lenient hkeys), translateKeyed_of_asks h,
    if_pos hlength, hlenient]
  rfl

/-- Whether a simple query string has a fault: it has all required keys and at most one more, but
the query is no text or the fields are no list of texts. -/
def Malformed (members : Json.Members) : Prop :=
  IsKeyed (.obj members) ∧
    ((∀ query, members.get? "query" ≠ some (.str query)) ∨
      ∀ fields : List String, members.get? "fields" ≠ some (.arr (fields.map .str)))

theorem malformed_iff :
    Malformed members ↔
      IsKeyed (.obj members) ∧ ¬∃ query fields, Asks members query fields := by
  refine and_congr_right fun _ => ?_
  constructor
  · rintro (hquery | hfields) ⟨query, fields, h⟩
    · exact hquery query h.query
    · exact hfields fields h.fields
  · intro h
    by_contra hboth
    simp only [not_or, not_forall, not_not] at hboth
    obtain ⟨⟨query, hquery⟩, fields, hfields⟩ := hboth
    exact h ⟨query, fields, hquery, hfields⟩

theorem error_of_malformed (h : Malformed members) :
    ∃ fault, translateSimple (.obj members) = .error fault := by
  obtain ⟨hkeyed, hasks⟩ := malformed_iff.1 h
  rw [translateSimple_of_isKeyed hkeyed]
  cases hresult : translateKeyed members with
  | error fault => exact ⟨fault, rfl⟩
  | ok p => exact absurd (asks_of_translateKeyed hresult) hasks

/-! ## Easy ones -/

/-- Whether a field's name is made of letters, hyphens, dots and underscores. -/
def PlainField (field : String) : Prop :=
  ∀ c ∈ field.toList, Text.isAlphabetic c = true ∨ c = '-' ∨ c = '.' ∨ c = '_'

/-- Whether a query is made of letters, numbers, underscores, spaces and hyphens. -/
def PlainQuery (query : String) : Prop :=
  ∀ c ∈ query.toList,
    Text.isAlphabetic c = true ∨ Text.isNumeric c = true ∨ c = '_' ∨ c = ' ' ∨ c = '-'

theorem isPlainField_iff : isPlainField field = true ↔ PlainField field := by
  simp [isPlainField, PlainField, or_assoc]

theorem isPlainQuery_iff : isPlainQuery query = true ↔ PlainQuery query := by
  simp [isPlainQuery, PlainQuery, or_assoc]

theorem not_plainField_star : ¬PlainField "*" := by
  rw [← isPlainField_iff]
  decide +kernel

/-- The simple query strings that are translated, with their expressions. -/
inductive Easy (members : Json.Members) : String → Prop
  /-- One plain field is searched for plain words. -/
  | oneField {query field : String} (asks : Asks members query [field])
    (keys : members.keys.Perm requiredKeys) (plainField : PlainField field)
    (plainQuery : PlainQuery query) : Easy members (field ++ " queries " ++ query)
  /-- Every field is searched. -/
  | everyField {query : String} {fields : List String} (asks : Asks members query fields)
    (keys : members.keys.Perm requiredKeys) (every : fields = [] ∨ fields = ["*"]) :
    Easy members ("all_fields " ++ query)
  /-- Every field is searched leniently for plain words. -/
  | lenientPlain {query : String} (asks : Asks members query ["*"])
    (keys : members.keys.Perm lenientKeys) (plainQuery : PlainQuery query) :
    Easy members ("* queries " ++ query)
  /-- Every field is searched leniently for something else. -/
  | lenientOther {query : String} (asks : Asks members query ["*"])
    (keys : members.keys.Perm lenientKeys) (notPlain : ¬PlainQuery query) :
    Easy members ("all_fields " ++ query)

theorem translateSimple_of_easy {expression : String} (h : Easy members expression) :
    translateSimple (.obj members) = .ok (.translated expression) := by
  cases h with
  | oneField asks keys plainField plainQuery =>
    rw [translateSimple_of_asks asks keys]
    simp [easy, isPlainField_iff.2 plainField, isPlainQuery_iff.2 plainQuery]
  | everyField asks keys every =>
    rw [translateSimple_of_asks asks keys]
    rcases every with rfl | rfl
    · rfl
    · simp [easy, isPlainField_iff, not_plainField_star]
  | lenientPlain asks keys plainQuery =>
    rw [translateSimple_of_asks_lenient asks keys]
    simp [easy, isPlainQuery_iff.2 plainQuery]
  | lenientOther asks keys notPlain =>
    rw [translateSimple_of_asks_lenient asks keys]
    simp [easy, isPlainQuery_iff, notPlain]

/-- Whether a simple query string is not translatable, with a single note on why. -/
def Rejected (members : Json.Members) : Prop :=
  ∃ expression note, translateSimple (.obj members) = .ok (.untranslatable expression note)

theorem easy_or_rejected_of_perm (h : Asks members query fields)
    (hkeys : members.keys.Perm requiredKeys) :
    (∃ expression, Easy members expression) ∨ Rejected members := by
  match fields with
  | [] => exact .inl ⟨_, .everyField h hkeys (.inl rfl)⟩
  | [field] =>
    by_cases hplain : PlainField field ∧ PlainQuery query
    · exact .inl ⟨_, .oneField h hkeys hplain.1 hplain.2⟩
    by_cases hstar : field = "*"
    · exact .inl ⟨_, .everyField h hkeys (.inr (congrArg (fun f => [f]) hstar))⟩
    · have hneither : ((false || isPlainField field) && isPlainQuery query) ≠ true := by
        simpa [isPlainField_iff, isPlainQuery_iff] using hplain
      have htranslate := translateSimple_of_asks h hkeys
      rw [easy, if_neg hneither, if_neg hstar] at htranslate
      exact .inr ⟨_, _, htranslate⟩
  | _ :: _ :: _ => exact .inr ⟨_, _, translateSimple_of_asks h hkeys⟩

theorem easy_or_rejected_of_perm_lenient (h : Asks members query fields)
    (hkeys : members.keys.Perm lenientKeys) :
    (∃ expression, Easy members expression) ∨ Rejected members := by
  have hkeyed := isKeyed_of_perm_lenient hkeys
  have hlength : members.length = 4 := length_of_keys_perm hkeys
  have hlenient : members.has "lenient" = true := has_of_keys_perm hkeys (by decide)
  by_cases hstar : fields.head? = some "*"
  · obtain ⟨more, rfl⟩ := List.head?_eq_some_iff.1 hstar
    cases more with
    | nil =>
      by_cases hplain : PlainQuery query
      · exact .inl ⟨_, .lenientPlain h hkeys hplain⟩
      · exact .inl ⟨_, .lenientOther h hkeys hplain⟩
    | cons field more => exact .inr ⟨_, _, translateSimple_of_asks_lenient h hkeys⟩
  · have htranslate := (translateSimple_of_isKeyed hkeyed).trans (translateKeyed_of_asks h)
    rw [if_pos hlength, hlenient, if_neg (by decide), if_pos hstar] at htranslate
    exact .inr ⟨_, _, htranslate⟩

/-- How the translation of a simple query string can end. -/
theorem translateSimple_cases (members : Json.Members) :
    Malformed members ∨ (∃ expression, Easy members expression) ∨ Rejected members := by
  by_cases hkeyed : IsKeyed (.obj members)
  · by_cases hasks : ∃ query fields, Asks members query fields
    · obtain ⟨query, fields, h⟩ := hasks
      obtain hkeys | hkeys | ⟨hlength, hlenient⟩ := keys_cases hkeyed
      · exact .inr (easy_or_rejected_of_perm h hkeys)
      · exact .inr (easy_or_rejected_of_perm_lenient h hkeys)
      · have htranslate := (translateSimple_of_isKeyed hkeyed).trans (translateKeyed_of_asks h)
        rw [if_pos hlength, hlenient] at htranslate
        exact .inr (.inr ⟨_, _, htranslate⟩)
    · exact .inl (malformed_iff.2 ⟨hkeyed, hasks⟩)
  · obtain ⟨reason, hrejected⟩ := translateSimple_of_not_isKeyed hkeyed
    exact .inr (.inr ⟨_, _, hrejected⟩)

/-- A simple query string has a translation just when it is easy, and then that of the easy one. It
has a fault just when it is malformed. Every other one is rejected with a single note. -/
theorem translateSimple_outcome (members : Json.Members) :
    (∀ p, translateSimple (.obj members) = .ok p ∧ p.translatable = true ↔
      ∃ expression, Easy members expression ∧ p = .translated expression) ∧
    ((∃ fault, translateSimple (.obj members) = .error fault) ↔ Malformed members) ∧
    ((∃ expression, Easy members expression) ∨ Malformed members ∨
      ∃ expression note,
        translateSimple (.obj members) = .ok (.untranslatable expression note)) := by
  have hcases := translateSimple_cases members
  refine ⟨fun p => ⟨?_, ?_⟩, ⟨?_, error_of_malformed⟩, or_left_comm.1 hcases⟩
  · rintro ⟨hok, hp⟩
    rcases hcases with hmalformed | ⟨expression, heasy⟩ | ⟨expression, note, hrejected⟩
    · obtain ⟨fault, hfault⟩ := error_of_malformed hmalformed
      cases hok.symm.trans hfault
    · cases hok.symm.trans (translateSimple_of_easy heasy)
      exact ⟨expression, heasy, rfl⟩
    · cases hok.symm.trans hrejected
      contradiction
  · rintro ⟨expression, heasy, rfl⟩
    exact ⟨translateSimple_of_easy heasy, rfl⟩
  · rintro ⟨fault, hfault⟩
    rcases hcases with hmalformed | ⟨expression, heasy⟩ | ⟨expression, note, hrejected⟩
    · exact hmalformed
    · cases hfault.symm.trans (translateSimple_of_easy heasy)
    · cases hfault.symm.trans hrejected

/-- A query that is no text is found before a fourth key that is not `lenient`. -/
example :
    translateSimple (.obj [("query", .null), ("fields", .arr []), ("default_operator", .str "OR"),
      ("analyzer", .str "standard")]) =
      .error (.unexpectedType "simple_query_string" "query" .text .null) := rfl

end Search

end ClauseFilter
