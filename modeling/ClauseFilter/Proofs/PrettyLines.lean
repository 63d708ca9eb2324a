import ClauseFilter.Json.Printer
import Mathlib.Data.List.Basic

/-!
# Lines of pretty JSON

A newline in the pretty form of a value is always that of the layout, never one of a string in it:
on every line after the first stands an indentation or a closing bracket (`indented_pretty`). So the
pretty form has no empty line, and its first line starts with the value.
-/

namespace ClauseFilter

namespace Json

/-! ## Indented texts -/

/-- Texts in which a space or a closing bracket comes after every newline. -/
inductive Indented : List Char → Prop
  | nil : Indented []
  | char {c : Char} {rest : List Char} (hc : c ≠ '\n') (h : Indented rest) : Indented (c :: rest)
  | newline {c : Char} {rest : List Char} (hc : c ∈ [' ', ']', '}']) (h : Indented (c :: rest)) :
    Indented ('\n' :: c :: rest)

namespace Indented

variable {text text' : List Char}

theorem of_not_mem (h : '\n' ∉ text) : Indented text := by
  induction text with
  | nil => exact .nil
  | cons c rest ih =>
    have hc : c ≠ '\n' := fun heq => h (heq ▸ List.mem_cons_self)
    exact .char hc (ih fun hmem => h (List.mem_cons_of_mem c hmem))

theorem append (h : Indented text) (h' : Indented text') : Indented (text ++ text') := by
  induction h with
  | nil => exact h'
  | char hc h ih => exact .char hc ih
  | newline hc h ih => exact .newline hc ih

theorem newLine_append (level : Nat) (h : Indented text) :
    Indented ((newLine (level + 1)).toList ++ text) := by
  have hspaces : Indented (List.replicate (2 * level + 1) ' ' ++ text) := by
    refine (of_not_mem fun hmem => ?_).append h
    have := List.eq_of_mem_replicate hmem
    contradiction
  have hline : (newLine (level + 1)).toList =
      '\n' :: ' ' :: List.replicate (2 * level + 1) ' ' := by
    rw [newLine, String.toList_append, String.toList_ofList, Nat.mul_succ, List.replicate_succ]
    simp
  rw [hline]
  exact .newline (by decide) (.char (by decide) hspaces)

theorem newLine_closing (level : Nat) {c : Char} (hc : c ∈ [']', '}']) :
    Indented ((newLine level).toList ++ [c]) := by
  have hne : c ≠ '\n' := by rintro rfl; contradiction
  cases level with
  | zero => exact .newline (List.mem_cons_of_mem ' ' hc) (.char hne .nil)
  | succ level => exact newLine_append level (.char hne .nil)

end Indented

end Json

/-! ## Numbers -/

/-- Whether a character can be part of a number. -/
def isNumeric (c : Char) : Bool :=
  c.isDigit || c == '-' || c == '+' || c == '.' || c == 'e'

theorem isNumeric_of_isDigit {c : Char} (h : c.isDigit = true) : isNumeric c = true := by
  simp [isNumeric, h]

theorem isNumeric_of_mem_toDigits {n : Nat} : ∀ c ∈ Nat.toDigits 10 n, isNumeric c = true :=
  fun _ h => isNumeric_of_isDigit (Nat.isDigit_of_mem_toDigits (by decide) (by decide) h)

theorem isNumeric_of_mem_replicate {n : Nat} : ∀ c ∈ List.replicate n '0', isNumeric c = true := by
  intro c h
  rw [List.eq_of_mem_replicate h]
  decide

namespace Binary64

theorem isNumeric_leadingDigits (d : Decimal) :
    ∀ c ∈ (leadingDigits d).1, isNumeric c = true := by
  intro c h
  have hmem := (List.dropWhile_sublist _).subset (List.mem_reverse.1 h)
  exact isNumeric_of_mem_toDigits c (List.mem_reverse.1 hmem)

variable {digits : List Char}

theorem isNumeric_positional (h : ∀ c ∈ digits, isNumeric c = true) (exponent : Int) :
    ∀ c ∈ positional digits exponent, isNumeric c = true := by
  unfold positional
  split
  · simp only [List.forall_mem_append]
    exact ⟨⟨List.all_eq_true.1 (by decide), isNumeric_of_mem_replicate⟩, h⟩
  · extract_lets whole padded fraction
    have hpadded : ∀ c ∈ padded, isNumeric c = true :=
      List.forall_mem_append.2 ⟨h, isNumeric_of_mem_replicate⟩
    refine List.forall_mem_append.2 ⟨fun c hc => hpadded c (List.mem_of_mem_take hc), ?_⟩
    refine List.forall_mem_cons.2 ⟨by decide, ?_⟩
    split
    · exact List.all_eq_true.1 (by decide)
    · exact fun c hc => hpadded c (List.mem_of_mem_drop hc)

theorem isNumeric_scientific (h : ∀ c ∈ digits, isNumeric c = true) (exponent : Int) :
    ∀ c ∈ scientific digits exponent, isNumeric c = true := by
  unfold scientific
  extract_lets fraction
  have hfraction : ∀ c ∈ fraction, isNumeric c = true := fun c hc => h c (List.mem_of_mem_drop hc)
  simp only [List.forall_mem_append]
  refine ⟨⟨⟨fun c hc => h c (List.mem_of_mem_take hc), ?_⟩, ?_⟩, isNumeric_of_mem_toDigits⟩
  · split
    · exact List.forall_mem_nil _
    · exact List.forall_mem_cons.2 ⟨by decide, hfraction⟩
  · split <;> exact List.all_eq_true.1 (by decide)

theorem magnitude_ne_nil (x : Binary64) : x.magnitude ≠ [] := by
  unfold magnitude
  split
  · decide
  · dsimp only
    split
    · unfold positional
      split <;> simp
    · simp [scientific]

theorem isNumeric_magnitude (x : Binary64) : ∀ c ∈ x.magnitude, isNumeric c = true := by
  unfold magnitude
  split
  · exact List.all_eq_true.1 (by decide)
  · dsimp only
    split
    · exact isNumeric_positional (isNumeric_leadingDigits _) _
    · exact isNumeric_scientific (isNumeric_leadingDigits _) _

end Binary64

namespace Json

theorem Number.text_ne_nil (n : Number) : n.text.toList ≠ [] := by
  cases n with
  | int n => simp [text, intText, Nat.toDigits_ne_nil]
  | float x =>
    rw [text, Binary64.text, String.toList_ofList]
    split
    · exact List.cons_ne_nil _ _
    · exact x.magnitude_ne_nil

theorem Number.isNumeric_text (n : Number) : ∀ c ∈ n.text.toList, isNumeric c = true := by
  cases n with
  | int n =>
    rw [text, intText, String.toList_ofList, List.forall_mem_append]
    refine ⟨?_, isNumeric_of_mem_toDigits⟩
    split
    · exact List.all_eq_true.1 (by decide)
    · exact List.forall_mem_nil _
  | float x =>
    rw [text, Binary64.text, String.toList_ofList]
    split
    · exact List.forall_mem_cons.2 ⟨by decide, x.isNumeric_magnitude⟩
    · exact x.isNumeric_magnitude

/-! ## Strings -/

/-- A newline within a string is escaped. -/
theorem newline_not_mem_escaped (c : Char) : '\n' ∉ escaped c := by
  have hhex : ∀ n < 0x20, '\n' ∉ Text.hexDigits n := by decide
  by_cases hc : c = '\n'
  · subst hc
    decide
  unfold escaped
  split
  iterate 7 decide
  split
  · next hlt => simpa using hhex c.toNat (by omega)
  · split
    · next hlt => simpa using hhex c.toNat hlt
    · simpa using Ne.symm hc

theorem newline_not_mem_quoted (s : String) : '\n' ∉ (quoted s).toList := by
  rw [quoted, String.toList_append, String.toList_append, String.toList_ofList]
  simp [newline_not_mem_escaped]

/-! ## Values -/

theorem prettyAt_arr_cons (level : Nat) (item : Json) (rest : List Json) :
    prettyAt level (arr (item :: rest)) =
      "[" ++ prettyItems (level + 1) (item :: rest) ++ newLine level ++ "]" := by
  rw [prettyAt]
  exact List.cons_ne_nil item rest

theorem prettyAt_obj_cons (level : Nat) (member : String × Json) (rest : Members) :
    prettyAt level (obj (member :: rest)) =
      "\x7b" ++ prettyMembers (level + 1) (member :: rest) ++ newLine level ++ "\x7d" := by
  rw [prettyAt]
  exact List.cons_ne_nil member rest

/-- A bracket around parts of a value, each on lines of its own. -/
theorem Indented.bracketed {level : Nat} {parts : List Char} {opening closing : Char}
    (hopening : opening ≠ '\n') (hclosing : closing ∈ [']', '}']) (h : Indented parts) :
    Indented (opening :: (parts ++ ((newLine level).toList ++ [closing]))) :=
  .char hopening (h.append (.newLine_closing level hclosing))

theorem Indented.comma {text text' : List Char} (h : Indented text) (h' : Indented text') :
    Indented (text ++ (',' :: text')) :=
  h.append (.char (by decide) h')

/-- A member on lines of its own. -/
theorem Indented.member {text : List Char} (level : Nat) (key : String) (h : Indented text) :
    Indented ((newLine (level + 1)).toList ++ ((quoted key).toList ++ (':' :: ' ' :: text))) :=
  .newLine_append level
    ((of_not_mem (newline_not_mem_quoted key)).append (.char (by decide) (.char (by decide) h)))

mutual

theorem indented_prettyAt (level : Nat) : ∀ value : Json, Indented (prettyAt level value).toList
  | null => by
    rw [prettyAt]
    exact .of_not_mem (by decide)
  | bool true => by
    rw [prettyAt]
    exact .of_not_mem (by decide)
  | bool false => by
    rw [prettyAt]
    exact .of_not_mem (by decide)
  | num n => by
    rw [prettyAt]
    refine .of_not_mem fun hmem => ?_
    have := n.isNumeric_text _ hmem
    contradiction
  | str s => by
    rw [prettyAt]
    exact .of_not_mem (newline_not_mem_quoted s)
  | arr [] => by
    rw [prettyAt]
    exact .of_not_mem (by decide)
  | arr (item :: rest) => by
    have hitems := indented_prettyItems level (item :: rest)
    rw [prettyAt_arr_cons]
    simpa using Indented.bracketed (by decide) (by decide) hitems
  | obj [] => by
    rw [prettyAt]
    exact .of_not_mem (by decide)
  | obj (member :: rest) => by
    have hmembers := indented_prettyMembers level (member :: rest)
    rw [prettyAt_obj_cons]
    simpa using Indented.bracketed (by decide) (by decide) hmembers

theorem indented_prettyItems (level : Nat) :
    ∀ items : List Json, Indented (prettyItems (level + 1) items).toList
  | [] => by
    rw [prettyItems]
    exact .nil
  | [item] => by
    have hitem := (indented_prettyAt (level + 1) item).newLine_append level
    rw [prettyItems]
    simpa using hitem
  | item :: next :: rest => by
    have hitem := (indented_prettyAt (level + 1) item).newLine_append level
    have hrest := indented_prettyItems level (next :: rest)
    rw [prettyItems]
    · simpa using hitem.comma hrest
    · exact List.cons_ne_nil next rest

theorem indented_prettyMembers (level : Nat) :
    ∀ members : Members, Indented (prettyMembers (level + 1) members).toList
  | [] => by
    rw [prettyMembers]
    exact .nil
  | [(key, value)] => by
    have hmember := (indented_prettyAt (level + 1) value).member level key
    rw [prettyMembers]
    simpa using hmember
  | (key, value) :: next :: rest => by
    have hmember := (indented_prettyAt (level + 1) value).member level key
    have hrest := indented_prettyMembers level (next :: rest)
    rw [prettyMembers]
    · simpa using hmember.comma hrest
    · exact List.cons_ne_nil next rest

end

/-- The pretty form of a value has a newline only before an indentation or a closing bracket. -/
theorem indented_pretty (value : Json) : Indented value.pretty.toList :=
  indented_prettyAt 0 value

/-- Whether a value can start with a character. -/
def startsValue (c : Char) : Bool :=
  isNumeric c || ['n', 't', 'f', '"', '[', '\x7b'].contains c

end Json

end ClauseFilter
