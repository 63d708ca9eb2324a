import ClauseFilter.Proofs.SingleField

/-!
# Wildcard patterns that end in a star

A `wildcard` clause has a translation just when its only field has a plain name and a pattern there
whose only star stands at the end. It has a fault just when its only field, whatever its name is,
has no pattern or one that is no text. Every other `wildcard` clause is rejected with a single note
(`translateWildcard_outcome`).
-/

namespace ClauseFilter.Pattern

variable {members : Json.Members} {field pattern start : String} {value : Json}

/-! ## Fields and patterns -/

/-- What a field has as its pattern: its value, or what an object there has under `value`. -/
def given? : Json → Option Json
  | .obj options => Json.Members.get? options "value"
  | value => some value

theorem holds_iff : Holds value pattern ↔ given? value = some (.str pattern) := by
  constructor
  · rintro (_ | h)
    · rfl
    · exact h
  · intro h
    cases value with
    | str text =>
      cases h
      exact .short _
    | obj options => exact .long h
    | _ => cases h

/-- Whether a field's name is made of letters and dots, at least one of them. -/
def PlainName (field : String) : Prop :=
  field ≠ "" ∧ ∀ c ∈ field.toList, Text.isAlphabetic c = true ∨ c = '.'

theorem isPlainName_iff : isPlainName field = true ↔ PlainName field := by
  simp [isPlainName, PlainName]

theorem beforeStar?_append_star (start : String) : beforeStar? (start ++ "*") = some start := by
  have hchars : (start ++ "*").toList = start.toList ++ ['*'] := String.toList_append
  rw [beforeStar?, hchars, List.getLast?_concat, if_pos rfl, List.dropLast_concat,
    String.ofList_toList]

theorem count_star_append_star (h : '*' ∉ start.toList) : (start ++ "*").toList.count '*' = 1 := by
  have hstar : List.count '*' "*".toList = 1 := rfl
  rw [String.toList_append, List.count_append, List.count_eq_zero.2 h, hstar]

/-! ## Outcomes -/

/-- Whether a `wildcard` clause is not translatable, with a single note on why. -/
def Rejected (members : Json.Members) : Prop :=
  ∃ expression note, translateWildcard (.obj members) = .ok (.untranslatable expression note)

theorem rejected_of_length_ne (h : members.length ≠ 1) : Rejected members := by
  refine ⟨"wildcard len supported = 1", "Invalid wildcard len", ?_⟩
  simp only [translateWildcard, Json.asObject, bind, Except.bind, Json.Members.single?_eq_none h]
  rfl

/-- A pattern that is a text is looked at after the field's name. -/
theorem translateWildcard_of_holds (h : Holds value pattern) :
    translateWildcard (.obj [(field, value)]) =
      if isPlainName field = false then
        .ok (.untranslatable "Too hard key for \"wildcard\"" "Invalid wildcard, too hard key")
      else if 1 < pattern.toList.count '*' then
        .ok (.untranslatable "Too hard query_str for \"wildcard\""
          "Invalid wildcard, too hard query_str")
      else
        match beforeStar? pattern with
        | some start => .ok (like field start)
        | none =>
          .ok (.untranslatable "easy * should be in the end of wildcard"
            "Invalid wildcard, easy * should be in the end of wildcard") := by
  simp only [translateWildcard, Json.asObject, bind, Except.bind, Json.Members.single?,
    patternOf_eq_ok_iff.2 h, Bool.not_eq_true']
  rfl

theorem translateWildcard_of_star (hname : PlainName field) (h : Holds value (start ++ "*"))
    (hstart : '*' ∉ start.toList) :
    translateWildcard (.obj [(field, value)]) = .ok (like field start) := by
  have hcount := count_star_append_star hstart
  rw [translateWildcard_of_holds h, if_neg (by simp [isPlainName_iff.2 hname]),
    if_neg (by omega), beforeStar?_append_star]

theorem error_of_not_holds (h : ∀ pattern, ¬Holds value pattern) :
    ∃ fault, translateWildcard (.obj [(field, value)]) = .error fault := by
  cases hpattern : patternOf "wildcard" field value with
  | ok pattern => exact absurd (patternOf_eq_ok_iff.1 hpattern) (h pattern)
  | error fault =>
    refine ⟨fault, ?_⟩
    simp only [translateWildcard, Json.asObject, bind, Except.bind, Json.Members.single?, hpattern]

/-- With a pattern that is a text, a `wildcard` clause is translated or rejected. -/
theorem translated_or_rejected (h : Holds value pattern) :
    (∃ start, translateWildcard (.obj [(field, value)]) = .ok (like field start)) ∨
      Rejected [(field, value)] := by
  have htranslate := @translateWildcard_of_holds field pattern value h
  by_cases hname : isPlainName field = false
  · rw [if_pos hname] at htranslate
    exact .inr ⟨_, _, htranslate⟩
  · by_cases hcount : 1 < pattern.toList.count '*'
    · rw [if_neg hname, if_pos hcount] at htranslate
      exact .inr ⟨_, _, htranslate⟩
    · rw [if_neg hname, if_neg hcount] at htranslate
      cases hstar : beforeStar? pattern with
      | some start =>
        rw [hstar] at htranslate
        exact .inl ⟨start, htranslate⟩
      | none =>
        rw [hstar] at htranslate
        exact .inr ⟨_, _, htranslate⟩

/-- How the translation of a `wildcard` clause can end. -/
theorem translateWildcard_cases (members : Json.Members) :
    (∃ field start, translateWildcard (.obj members) = .ok (like field start)) ∨
      (∃ field value, members = [(field, value)] ∧ ∀ pattern, ¬Holds value pattern) ∨
        Rejected members := by
  by_cases hlength : members.length = 1
  · obtain ⟨⟨field, value⟩, rfl⟩ := List.length_eq_one_iff.1 hlength
    by_cases hholds : ∃ pattern, Holds value pattern
    · obtain ⟨pattern, h⟩ := hholds
      rcases translated_or_rejected h with ⟨start, hlike⟩ | hrejected
      · exact .inl ⟨field, start, hlike⟩
      · exact .inr (.inr hrejected)
    · exact .inr (.inl ⟨field, value, rfl, not_exists.1 hholds⟩)
  · exact .inr (.inr (rejected_of_length_ne hlength))

/-- A `wildcard` clause has a translation just when it has one field, with a plain name and a
pattern whose only star is at its end. It has a fault just when it has one field without a pattern
that is a text. If it has neither it is rejected with a single note. -/
theorem translateWildcard_outcome (members : Json.Members) :
    (∀ p, translateWildcard (.obj members) = .ok p ∧ p.translatable = true ↔
      ∃ field value start, members = [(field, value)] ∧ PlainName field ∧
        given? value = some (.str (start ++ "*")) ∧ '*' ∉ start.toList ∧
          p = .translated (field ++ " like " ++ start ++ "%")) ∧
    ((∃ fault, translateWildcard (.obj members) = .error fault) ↔
      ∃ field value, members = [(field, value)] ∧
        ∀ pattern, given? value ≠ some (.str pattern)) ∧
    ((∃ p, translateWildcard (.obj members) = .ok p ∧ p.translatable = true) ∨
      (∃ fault, translateWildcard (.obj members) = .error fault) ∨
        ∃ expression note,
          translateWildcard (.obj members) = .ok (.untranslatable expression note)) := by
  simp only [ne_eq, ← holds_iff]
  have hcases := translateWildcard_cases members
  refine ⟨fun p => ⟨?_, ?_⟩, ⟨?_, ?_⟩, ?_⟩
  · rintro ⟨hok, hp⟩
    obtain ⟨field, value, start, hmembers, hname, hholds, hstart, rfl⟩ := exists_wildcard hok hp
    obtain rfl := Json.obj.inj hmembers
    exact ⟨field, value, start, rfl, isPlainName_iff.1 hname, hholds, hstart, rfl⟩
  · rintro ⟨field, value, start, rfl, hname, hholds, hstart, rfl⟩
    exact ⟨translateWildcard_of_star hname hholds hstart, rfl⟩
  · rintro ⟨fault, hfault⟩
    rcases hcases with ⟨field, start, hlike⟩ | hpatternless | ⟨expression, note, hrejected⟩
    · cases hfault.symm.trans hlike
    · exact hpatternless
    · cases hfault.symm.trans hrejected
  · rintro ⟨field, value, rfl, hpatternless⟩
    exact error_of_not_holds hpatternless
  · rcases hcases with ⟨field, start, hlike⟩ | ⟨field, value, rfl, hpatternless⟩ | hrejected
    · exact .inl ⟨_, hlike, rfl⟩
    · exact .inr (.inl (error_of_not_holds hpatternless))
    · exact .inr (.inr hrejected)

/-- A pattern that is no text is found before a name that is not plain. -/
example : translateWildcard (.obj [("user_name", .obj [("value", .null)])]) =
    .error (.unexpectedType "wildcard" "value" .text .null) := rfl

end ClauseFilter.Pattern
