import ClauseFilter.Proofs.TypedReading

/-!
# Layouts

The compact and the pretty form of a value only differ in their spacing. A layout says what spacing
stands where, and so gives the text of a value (`Layout.textAt`); the two forms are the texts of two
layouts (`textAt_compact`, `textAt_pretty`).
-/

namespace ClauseFilter.Json

open Reader

/-- What stands between the parts of a value, which depends on how deep the parts are. -/
structure Layout where
  /-- Before an item, a member, or the closing bracket around them. -/
  newLine : Nat → List Char
  afterColon : List Char
  isGap_newLine (level : Nat) : IsGap (newLine level)
  isGap_afterColon : IsGap afterColon

namespace Layout

/-! ## Texts in a layout -/

section Parts

variable {α : Type}

/-- The texts of parts that come after another one. -/
def further (gap : List Char) (text : α → List Char) (parts : List α) : List Char :=
  parts.flatMap fun part => ',' :: (gap ++ text part)

/-- The texts of parts in brackets, if there are any on lines of their own. -/
def enclosed (opening closing : Char) (inner outer : List Char) (text : α → List Char) :
    List α → List Char
  | [] => [opening, closing]
  | part :: rest =>
    opening :: (inner ++ (text part ++ (further inner text rest ++ (outer ++ [closing]))))

end Parts

variable (l : Layout) (level : Nat)

mutual

/-- The text of a value that stands at a level. -/
def textAt (level : Nat) : Json → List Char
  | .null => "null".toList
  | .bool true => "true".toList
  | .bool false => "false".toList
  | .num n => n.text.toList
  | .str s => (quoted s).toList
  | .arr [] => ['[', ']']
  | .arr (item :: rest) =>
    '[' :: (l.newLine (level + 1) ++ (textAt (level + 1) item ++
      (furtherItems (level + 1) rest ++ (l.newLine level ++ [']']))))
  | .obj [] => ['{', '}']
  | .obj (member :: rest) =>
    '{' :: (l.newLine (level + 1) ++ (memberAt (level + 1) member ++
      (furtherMembers (level + 1) rest ++ (l.newLine level ++ ['}']))))

def furtherItems (level : Nat) : List Json → List Char
  | [] => []
  | item :: rest => ',' :: (l.newLine level ++ (textAt level item ++ furtherItems level rest))

/-- The text of a member that stands at a level. -/
def memberAt (level : Nat) : String × Json → List Char
  | (key, value) => (quoted key).toList ++ (':' :: (l.afterColon ++ textAt level value))

def furtherMembers (level : Nat) : Members → List Char
  | [] => []
  | member :: rest =>
    ',' :: (l.newLine level ++ (memberAt level member ++ furtherMembers level rest))

end

theorem furtherItems_eq (items : List Json) :
    l.furtherItems level items = further (l.newLine level) (l.textAt level) items := by
  induction items with
  | nil => rfl
  | cons item rest ih => simp [furtherItems, further, ih]

theorem furtherMembers_eq (members : Members) :
    l.furtherMembers level members = further (l.newLine level) (l.memberAt level) members := by
  induction members with
  | nil => rfl
  | cons member rest ih => simp [furtherMembers, further, ih]

theorem textAt_arr (items : List Json) :
    l.textAt level (.arr items) =
      enclosed '[' ']' (l.newLine (level + 1)) (l.newLine level) (l.textAt (level + 1)) items := by
  cases items with
  | nil => rfl
  | cons item rest => rw [textAt, furtherItems_eq, enclosed]

theorem textAt_obj (members : Members) :
    l.textAt level (.obj members) =
      enclosed '{' '}' (l.newLine (level + 1)) (l.newLine level) (l.memberAt (level + 1))
        members := by
  cases members with
  | nil => rfl
  | cons member rest => rw [textAt, furtherMembers_eq, enclosed]

theorem memberAt_append (key : String) (value : Json) (rest : List Char) :
    l.memberAt level (key, value) ++ rest =
      (quoted key).toList ++ (':' :: (l.afterColon ++ (l.textAt level value ++ rest))) := by
  rw [memberAt, List.append_assoc, List.cons_append, List.append_assoc]

theorem textAt_arr_eq_cons (items : List Json) :
    ∃ rest, l.textAt level (.arr items) = '[' :: rest := by
  cases items <;> exact ⟨_, rfl⟩

theorem textAt_obj_eq_cons (members : Members) :
    ∃ rest, l.textAt level (.obj members) = '{' :: rest := by
  cases members <;> exact ⟨_, rfl⟩

/-- The text of a value starts with the value, only that of null with an `n`. -/
theorem textAt_eq_cons (value : Json) :
    ∃ c rest, l.textAt level value = c :: rest ∧ startsValue c = true ∧
      (c = 'n' → value = .null) := by
  cases value with
  | null => exact ⟨'n', _, rfl, by decide, fun _ => rfl⟩
  | bool b =>
    cases b with
    | true => exact ⟨'t', _, rfl, by decide, fun h => absurd h (by decide)⟩
    | false => exact ⟨'f', _, rfl, by decide, fun h => absurd h (by decide)⟩
  | num n =>
    obtain ⟨c, rest, htext⟩ := List.exists_cons_of_ne_nil n.text_ne_nil
    have hc := n.isNumeric_text c (htext ▸ List.mem_cons_self)
    refine ⟨c, rest, htext, by simp [startsValue, hc], ?_⟩
    rintro rfl
    contradiction
  | str s => exact ⟨'"', _, quoted_toList s, by decide, fun h => absurd h (by decide)⟩
  | arr items =>
    obtain ⟨rest, htext⟩ := l.textAt_arr_eq_cons level items
    exact ⟨'[', rest, htext, by decide, fun h => absurd h (by decide)⟩
  | obj members =>
    obtain ⟨rest, htext⟩ := l.textAt_obj_eq_cons level members
    exact ⟨'{', rest, htext, by decide, fun h => absurd h (by decide)⟩

/-! ## The two forms -/

/-- The layout without any spacing. -/
def compact : Layout where
  newLine _ := []
  afterColon := []
  isGap_newLine _ := isGap_nil
  isGap_afterColon := isGap_nil

/-- The layout with every part on lines of its own. -/
def pretty : Layout where
  newLine level := (Json.newLine level).toList
  afterColon := [' ']
  isGap_newLine := Reader.isGap_newLine
  isGap_afterColon := List.forall_mem_singleton.2 rfl

/-- What is printed of parts that come after another one. -/
def afterFirst {α : Type} (print : List α → String) : List α → List Char
  | [] => []
  | parts => ',' :: (print parts).toList

theorem afterFirst_cons {α : Type} (print : List α → String) (part : α) (rest : List α) :
    afterFirst print (part :: rest) = ',' :: (print (part :: rest)).toList := rfl

theorem compactItems_cons (item : Json) (rest : List Json) :
    (compactItems (item :: rest)).toList = item.compact.toList ++ afterFirst compactItems rest := by
  cases rest with
  | nil => simp [compactItems, afterFirst]
  | cons next more =>
    rw [compactItems]
    · simp [afterFirst]
    · exact List.cons_ne_nil next more

theorem compactMembers_cons (key : String) (value : Json) (rest : Members) :
    (compactMembers ((key, value) :: rest)).toList =
      (quoted key).toList ++ (':' :: (value.compact.toList ++ afterFirst compactMembers rest)) := by
  cases rest with
  | nil => simp [compactMembers, afterFirst]
  | cons next more =>
    rw [compactMembers]
    · simp [afterFirst]
    · exact List.cons_ne_nil next more

theorem prettyItems_cons (item : Json) (rest : List Json) :
    (prettyItems level (item :: rest)).toList =
      (Json.newLine level).toList ++ ((prettyAt level item).toList ++
        afterFirst (prettyItems level) rest) := by
  cases rest with
  | nil => simp [prettyItems, afterFirst]
  | cons next more =>
    rw [prettyItems]
    · simp [afterFirst]
    · exact List.cons_ne_nil next more

theorem prettyMembers_cons (key : String) (value : Json) (rest : Members) :
    (prettyMembers level ((key, value) :: rest)).toList =
      (Json.newLine level).toList ++ ((quoted key).toList ++ (':' :: ' ' ::
        ((prettyAt level value).toList ++ afterFirst (prettyMembers level) rest))) := by
  cases rest with
  | nil => simp [prettyMembers, afterFirst]
  | cons next more =>
    rw [prettyMembers]
    · simp [afterFirst]
    · exact List.cons_ne_nil next more

mutual

theorem textAt_compact (level : Nat) :
    ∀ value : Json, compact.textAt level value = value.compact.toList
  | .null => by rw [textAt, Json.compact]
  | .bool true => by rw [textAt, Json.compact]
  | .bool false => by rw [textAt, Json.compact]
  | .num n => by rw [textAt, Json.compact]
  | .str s => by rw [textAt, Json.compact]
  | .arr [] => by
    rw [textAt, Json.compact, compactItems]
    rfl
  | .arr (item :: rest) => by
    rw [textAt, Json.compact, String.toList_append, String.toList_append, compactItems_cons,
      textAt_compact (level + 1) item, furtherItems_compact (level + 1) rest]
    simp [compact]
  | .obj [] => by
    rw [textAt, Json.compact, compactMembers]
    rfl
  | .obj ((key, value) :: rest) => by
    rw [textAt, Json.compact, String.toList_append, String.toList_append, compactMembers_cons,
      memberAt, textAt_compact (level + 1) value, furtherMembers_compact (level + 1) rest]
    simp [compact]

theorem furtherItems_compact (level : Nat) :
    ∀ items : List Json, compact.furtherItems level items = afterFirst compactItems items
  | [] => rfl
  | item :: rest => by
    rw [furtherItems, textAt_compact level item, furtherItems_compact level rest, afterFirst_cons,
      compactItems_cons]
    rfl

theorem furtherMembers_compact (level : Nat) :
    ∀ members : Members, compact.furtherMembers level members = afterFirst compactMembers members
  | [] => rfl
  | (key, value) :: rest => by
    rw [furtherMembers, memberAt, textAt_compact level value, furtherMembers_compact level rest,
      afterFirst_cons, compactMembers_cons]
    simp [compact]

end

mutual

theorem textAt_pretty (level : Nat) :
    ∀ value : Json, pretty.textAt level value = (prettyAt level value).toList
  | .null => by rw [textAt, prettyAt]
  | .bool true => by rw [textAt, prettyAt]
  | .bool false => by rw [textAt, prettyAt]
  | .num n => by rw [textAt, prettyAt]
  | .str s => by rw [textAt, prettyAt]
  | .arr [] => by
    rw [textAt, prettyAt]
    rfl
  | .arr (item :: rest) => by
    rw [textAt, prettyAt_arr_cons, String.toList_append, String.toList_append,
      String.toList_append, prettyItems_cons, textAt_pretty (level + 1) item,
      furtherItems_pretty (level + 1) rest]
    simp [pretty]
  | .obj [] => by
    rw [textAt, prettyAt]
    rfl
  | .obj ((key, value) :: rest) => by
    rw [textAt, prettyAt_obj_cons, String.toList_append, String.toList_append,
      String.toList_append, prettyMembers_cons, memberAt, textAt_pretty (level + 1) value,
      furtherMembers_pretty (level + 1) rest]
    simp [pretty]

theorem furtherItems_pretty (level : Nat) :
    ∀ items : List Json, pretty.furtherItems level items = afterFirst (prettyItems level) items
  | [] => rfl
  | item :: rest => by
    rw [furtherItems, textAt_pretty level item, furtherItems_pretty level rest, afterFirst_cons,
      prettyItems_cons]
    rfl

theorem furtherMembers_pretty (level : Nat) :
    ∀ members : Members,
      pretty.furtherMembers level members = afterFirst (prettyMembers level) members
  | [] => rfl
  | (key, value) :: rest => by
    rw [furtherMembers, memberAt, textAt_pretty level value, furtherMembers_pretty level rest,
      afterFirst_cons, prettyMembers_cons]
    simp [pretty]

end

end Layout

/-- Whether a text is the compact or the pretty form of a value, with nothing but spacing after
it. -/
def Written (value : Json) (text : String) : Prop :=
  ∃ spacing : String, IsGap spacing.toList ∧
    (text = value.compact ++ spacing ∨ text = value.pretty ++ spacing)

theorem Written.exists_layout {value : Json} {text : String} (h : value.Written text) :
    ∃ (l : Layout) (gap : List Char), IsGap gap ∧ text.toList = l.textAt 0 value ++ gap := by
  obtain ⟨spacing, hspacing, rfl | rfl⟩ := h
  · refine ⟨.compact, spacing.toList, hspacing, ?_⟩
    rw [Layout.textAt_compact, String.toList_append]
  · refine ⟨.pretty, spacing.toList, hspacing, ?_⟩
    rw [Layout.textAt_pretty, String.toList_append]
    rfl

theorem written_compact (value : Json) : value.Written value.compact :=
  ⟨"", isGap_nil, .inl String.append_empty.symm⟩

theorem written_pretty_line (value : Json) : value.Written (value.pretty ++ "\n") :=
  ⟨"\n", List.forall_mem_singleton.2 rfl, .inr rfl⟩

/-- The pretty form of a value starts with the value, only that of null with an `n`. -/
theorem prettyAt_eq_cons (level : Nat) (value : Json) :
    ∃ c rest, (prettyAt level value).toList = c :: rest ∧ startsValue c = true ∧
      (c = 'n' → value = .null) := by
  rw [← Layout.textAt_pretty]
  exact Layout.pretty.textAt_eq_cons level value

end ClauseFilter.Json
