import ClauseFilter.Proofs.SingleField

/-!
# What patterns match

The pattern of a `wildcard` clause and the one of a `like` expression use different characters for
any sequence of characters and for any single one. All other characters are taken over as they are.
So the two patterns match the same texts exactly when nothing but the last star of the clause has a
meaning in either language, and a `prefix` clause has the meaning of its expression exactly when no
character of the value has one in a `like` pattern (`like_agrees`).
-/

namespace ClauseFilter

/-! ## Matching -/

/-- The characters of a language of patterns that do not stand for themselves. -/
structure Metacharacters where
  /-- Stands for any sequence of characters, even for none. -/
  sequence : Char
  /-- Stands for any single character. -/
  single : Char

namespace Metacharacters

/-- The patterns of `like` expressions. -/
def like : Metacharacters := ⟨'%', '_'⟩

/-- The patterns of `wildcard` clauses, as far as they have no backslashes. -/
def wildcard : Metacharacters := ⟨'*', '?'⟩

variable (m : Metacharacters)

/-- A character that stands for itself. -/
def IsLiteral (c : Char) : Prop :=
  c ≠ m.sequence ∧ c ≠ m.single

instance : DecidablePred m.IsLiteral :=
  fun c => inferInstanceAs (Decidable (c ≠ m.sequence ∧ c ≠ m.single))

/-- Whether a pattern matches a whole text. -/
inductive Matches : List Char → List Char → Prop
  | nil : Matches [] []
  | sequence (taken : List Char) {pattern text : List Char} (h : Matches pattern text) :
    Matches (m.sequence :: pattern) (taken ++ text)
  | single (c : Char) {pattern text : List Char} (h : Matches pattern text) :
    Matches (m.single :: pattern) (c :: text)
  | literal {c : Char} {pattern text : List Char} (hc : m.IsLiteral c) (h : Matches pattern text) :
    Matches (c :: pattern) (c :: text)

variable {m} {m' : Metacharacters} {pattern pattern' start text : List Char} {c : Char}

theorem matches_sequence (text : List Char) : m.Matches [m.sequence] text := by
  rw [← List.append_nil text]
  exact .sequence text .nil

theorem matches_cons_iff (hc : m.IsLiteral c) :
    m.Matches (c :: pattern) text ↔ ∃ rest, text = c :: rest ∧ m.Matches pattern rest := by
  constructor
  · intro h
    cases h with
    | sequence taken h => exact absurd rfl hc.1
    | single d h => exact absurd rfl hc.2
    | literal _ h => exact ⟨_, rfl, h⟩
  · rintro ⟨rest, rfl, h⟩
    exact .literal hc h

/-- A pattern that ends with its only metacharacter matches the texts with a given start. -/
theorem matches_start_iff (h : ∀ c ∈ start, m.IsLiteral c) :
    m.Matches (start ++ [m.sequence]) text ↔ start <+: text := by
  induction start generalizing text with
  | nil => exact iff_of_true (matches_sequence text) List.nil_prefix
  | cons c start ih =>
    obtain ⟨hc, hstart⟩ := List.forall_mem_cons.1 h
    rw [List.cons_append, matches_cons_iff hc]
    constructor
    · rintro ⟨rest, rfl, hrest⟩
      exact List.cons_prefix_cons.2 ⟨rfl, (ih hstart).1 hrest⟩
    · rintro ⟨rest, rfl⟩
      exact ⟨start ++ rest, rfl, (ih hstart).2 (List.prefix_append _ _)⟩

/-- A text that a pattern matches has every character of the pattern that stands for itself. -/
theorem mem_of_matches (h : m.Matches pattern text) (hc : c ∈ pattern) (hl : m.IsLiteral c) :
    c ∈ text := by
  induction h with
  | nil => contradiction
  | sequence taken h ih =>
    exact List.mem_append_right _ (ih ((List.mem_cons.1 hc).resolve_left hl.1))
  | single d h ih => exact List.mem_cons_of_mem _ (ih ((List.mem_cons.1 hc).resolve_left hl.2))
  | literal _ h ih =>
    rcases List.mem_cons.1 hc with rfl | hrest
    · exact List.mem_cons_self
    · exact List.mem_cons_of_mem _ (ih hrest)

/-- The text that a pattern becomes when each metacharacter is replaced by the same character. -/
def filled (m : Metacharacters) (filler : Char) (pattern : List Char) : List Char :=
  pattern.map fun c => if m.IsLiteral c then c else filler

theorem matches_filled (filler : Char) (pattern : List Char) :
    m.Matches pattern (m.filled filler pattern) := by
  induction pattern with
  | nil => exact .nil
  | cons c rest ih =>
    rw [filled, List.map_cons]
    split
    · next hc => exact .literal hc ih
    · next hc =>
      rw [IsLiteral, not_and_or, not_not, not_not] at hc
      rcases hc with rfl | rfl
      · exact .sequence [filler] ih
      · exact .single filler ih

/-- Of every metacharacter there is a text without it that a pattern matches. -/
theorem exists_matches_not_mem (pattern : List Char) (hc : ¬ m.IsLiteral c) :
    ∃ text, m.Matches pattern text ∧ c ∉ text := by
  obtain ⟨filler, hne⟩ : ∃ filler : Char, filler ≠ c := by
    by_cases h : c = 'a'
    · exact ⟨'b', by simp [h]⟩
    · exact ⟨'a', Ne.symm h⟩
  refine ⟨m.filled filler pattern, matches_filled filler pattern, ?_⟩
  rw [filled, List.mem_map]
  rintro ⟨d, -, hd⟩
  split at hd
  · next hl => exact hc (hd ▸ hl)
  · exact hne hd

/-- Where two patterns match the same texts, no character that stands for itself in one of them has
a meaning in the language of the other. -/
theorem isLiteral_of_matches_iff (h : ∀ text, m.Matches pattern text ↔ m'.Matches pattern' text)
    (hc : c ∈ pattern') (hl : m'.IsLiteral c) : m.IsLiteral c := by
  -- Otherwise the first pattern matches a text without the character, which the second asks for.
  by_contra hno
  obtain ⟨text, hmatches, hmem⟩ := exists_matches_not_mem pattern hno
  exact hmem (mem_of_matches ((h text).1 hmatches) hc hl)

/-- Where no character has a meaning in both languages, a start and anything after it is the same
pattern in both exactly when all characters of the start stand for themselves in both. -/
theorem matches_start_agree_iff (hdisjoint : ∀ c, m.IsLiteral c ∨ m'.IsLiteral c) :
    (∀ text, m.Matches (start ++ [m.sequence]) text ↔ m'.Matches (start ++ [m'.sequence]) text) ↔
      ∀ c ∈ start, m.IsLiteral c ∧ m'.IsLiteral c := by
  constructor
  · intro h c hc
    -- A character that has a meaning on one side only can be told from itself on the other.
    rcases hdisjoint c with hl | hl
    · have hsame text := (h text).symm
      exact ⟨hl, isLiteral_of_matches_iff hsame (List.mem_append_left _ hc) hl⟩
    · exact ⟨isLiteral_of_matches_iff h (List.mem_append_left _ hc) hl, hl⟩
  · intro h text
    rw [matches_start_iff fun c hc => (h c hc).1, matches_start_iff fun c hc => (h c hc).2]

/-- A start and anything after it is the pattern of the texts with the start exactly when all
characters of the start stand for themselves. -/
theorem matches_start_prefix_iff :
    (∀ text, m.Matches (start ++ [m.sequence]) text ↔ start <+: text) ↔
      ∀ c ∈ start, m.IsLiteral c := by
  refine ⟨fun h c hc => ?_, fun h text => matches_start_iff h⟩
  by_contra hno
  obtain ⟨text, hmatches, hmem⟩ := exists_matches_not_mem (start ++ [m.sequence]) hno
  exact hmem (((h text).1 hmatches).subset hc)

theorem like_or_wildcard_isLiteral (c : Char) : like.IsLiteral c ∨ wildcard.IsLiteral c := by
  by_cases h : c = '*' ∨ c = '?'
  · left
    rcases h with rfl | rfl <;> decide
  · exact .inr (not_or.1 h)

end Metacharacters

/-! ## The patterns of clauses -/

namespace Pattern

variable {body : Json} {p : Predicate} {start : String}

theorem forall_toList (P : List Char → Prop) : (∀ s : String, P s.toList) ↔ ∀ text, P text :=
  ⟨fun h text => by simpa using h (String.ofList text), fun h s => h s.toList⟩

theorem like_wildcard_agree_iff (hstar : '*' ∉ start.toList) :
    (∀ s : String, Metacharacters.like.Matches (start ++ "%").toList s.toList ↔
        Metacharacters.wildcard.Matches (start ++ "*").toList s.toList) ↔
      ∀ c ∈ (start ++ "*").toList, c ≠ '%' ∧ c ≠ '_' ∧ c ≠ '?' := by
  rw [forall_toList fun text => Metacharacters.like.Matches (start ++ "%").toList text ↔
      Metacharacters.wildcard.Matches (start ++ "*").toList text,
    String.toList_append, String.toList_append]
  refine (Metacharacters.matches_start_agree_iff
    Metacharacters.like_or_wildcard_isLiteral).trans ⟨fun h c hc => ?_, fun h c hc => ?_⟩
  · rcases List.mem_append.1 hc with hstart | hlast
    · obtain ⟨hlike, hwildcard⟩ := h c hstart
      exact ⟨hlike.1, hlike.2, hwildcard.2⟩
    · rw [List.mem_singleton.1 hlast]
      decide
  · obtain ⟨hpercent, hunderscore, hquestion⟩ := h c (List.mem_append_left _ hc)
    refine ⟨⟨hpercent, hunderscore⟩, ?_, hquestion⟩
    rintro rfl
    exact hstar hc

theorem like_prefix_agree_iff (start : String) :
    (∀ s : String, Metacharacters.like.Matches (start ++ "%").toList s.toList ↔
        start.toList <+: s.toList) ↔
      ∀ c ∈ start.toList, c ≠ '%' ∧ c ≠ '_' := by
  rw [forall_toList fun text => Metacharacters.like.Matches (start ++ "%").toList text ↔
      start.toList <+: text, String.toList_append]
  exact Metacharacters.matches_start_prefix_iff

theorem like_expression (field start : String) :
    (like field start).expression = field ++ " like " ++ (start ++ "%") :=
  String.append_assoc

/-- A `wildcard` clause that is translated matches the same texts as its expression exactly when its
pattern has no `?` and none of the characters with a meaning in a `like` pattern. The expression of
a `prefix` clause matches the texts that begin with the value exactly when the value has no
character with a meaning in a `like` pattern. -/
theorem like_agrees (hp : p.translatable = true) :
    (translateWildcard body = .ok p →
      ∃ field value pattern liked, body = .obj [(field, value)] ∧ Holds value pattern ∧
        p.expression = field ++ " like " ++ liked ∧
        ((∀ s : String, Metacharacters.like.Matches liked.toList s.toList ↔
            Metacharacters.wildcard.Matches pattern.toList s.toList) ↔
          ∀ c ∈ pattern.toList, c ≠ '%' ∧ c ≠ '_' ∧ c ≠ '?')) ∧
    (translatePrefix body = .ok p →
      ∃ field value start liked, body = .obj [(field, value)] ∧ Holds value start ∧
        p.expression = field ++ " like " ++ liked ∧
        ((∀ s : String, Metacharacters.like.Matches liked.toList s.toList ↔
            start.toList <+: s.toList) ↔
          ∀ c ∈ start.toList, c ≠ '%' ∧ c ≠ '_')) := by
  constructor
  · intro h
    obtain ⟨field, value, start, rfl, -, hholds, hstar, rfl⟩ := exists_wildcard h hp
    exact ⟨field, value, _, _, rfl, hholds, like_expression field start,
      like_wildcard_agree_iff hstar⟩
  · intro h
    obtain ⟨field, value, start, rfl, -, hholds, rfl⟩ := exists_prefix h hp
    exact ⟨field, value, _, _, rfl, hholds, like_expression field start,
      like_prefix_agree_iff start⟩

/-- The same text in both clauses, with no characters of meaning but the star at the end. -/
theorem like_agrees_plainText :
    let p := Predicate.translated "name like ab%"
    p.translatable = true ∧ translateWildcard (.obj [("name", .str "ab*")]) = .ok p ∧
      translatePrefix (.obj [("name", .obj [("value", .str "ab")])]) = .ok p ∧
      ∀ s : String,
        (Metacharacters.like.Matches "ab%".toList s.toList ↔
          Metacharacters.wildcard.Matches "ab*".toList s.toList) ∧
        (Metacharacters.like.Matches "ab%".toList s.toList ↔ "ab".toList <+: s.toList) := by
  intro p
  have hwildcard : translateWildcard (.obj [("name", .str "ab*")]) = .ok p := rfl
  have hprefix : translatePrefix (.obj [("name", .obj [("value", .str "ab")])]) = .ok p := rfl
  have hp : p.translatable = true := rfl
  have hliked (liked : String) (h : p.expression = "name" ++ " like " ++ liked) :
      liked = "ab%" := by
    have hexpression : p.expression = "name" ++ " like " ++ "ab%" := rfl
    exact (String.append_right_inj ("name" ++ " like ")).1 (h.symm.trans hexpression)
  refine ⟨hp, hwildcard, hprefix, fun s => ⟨?_, ?_⟩⟩
  · obtain ⟨field, value, pattern, liked, ⟨⟩, ⟨⟩, hexpression, hsame⟩ :=
      (like_agrees hp).1 hwildcard
    obtain rfl := hliked liked hexpression
    exact hsame.2 (by simp) s
  · obtain ⟨field, value, start, liked, ⟨⟩, hholds, hexpression, hsame⟩ :=
      (like_agrees hp).2 hprefix
    obtain rfl := hliked liked hexpression
    cases get?_of_holds hholds
    exact hsame.2 (by simp) s

/-- A `?` in the pattern of a `wildcard` clause stands for any character, and for a question mark
where the expression takes it over. -/
theorem not_like_agrees :
    ¬ ∀ (field pattern liked : String) (p : Predicate),
      translateWildcard (.obj [(field, .str pattern)]) = .ok p → p.translatable = true →
        p.expression = field ++ " like " ++ liked → ∀ s : String,
          Metacharacters.like.Matches liked.toList s.toList ↔
            Metacharacters.wildcard.Matches pattern.toList s.toList := by
  intro h
  have hsame := h "name" "a?b*" "a?b%" (.translated "name like a?b%") rfl rfl rfl "axb"
  have hmatches : Metacharacters.wildcard.Matches "a?b*".toList "axb".toList :=
    .literal (by decide) (.single 'x' (.literal (by decide) (.sequence [] .nil)))
  cases hsame.2 hmatches with
  | literal _ h =>
    cases h

end Pattern

end ClauseFilter
