import ClauseFilter.Json.Record
import ClauseFilter.Proofs.PrettyLines

/-!
# Reading printed values

What the readers make of texts in the printed form. A reader reads a text as a value when it gives
this value for the text after any spacing, and leaves what comes after it (`Reads`). Strings, the
numerals of the grammar and whole numbers are read as what they were printed from.
-/

namespace ClauseFilter.Json

namespace Reader

variable {α β σ : Type}

/-! ## Readers that succeed -/

theorem bind_apply {x : Reader α} {f : α → Reader β} {text rest : List Char} {a : α}
    (h : x text = .ok (a, rest)) : (x >>= f) text = f a rest := by
  show (x text >>= fun p => f p.1 p.2) = f a rest
  rw [h]
  rfl

theorem pure_apply (a : α) (text : List Char) : (pure a : Reader α) text = .ok (a, text) := rfl

/-- Spacing that may stand before a value. -/
def IsGap (gap : List Char) : Prop :=
  ∀ c ∈ gap, isSpacing c = true

theorem dropWhile_gap {gap : List Char} (hgap : IsGap gap) (text : List Char) :
    (gap ++ text).dropWhile isSpacing = text.dropWhile isSpacing :=
  List.dropWhile_append_of_pos hgap

theorem next?_gap {gap : List Char} (hgap : IsGap gap) {c : Char} (hc : isSpacing c = false)
    (rest : List Char) : next? (gap ++ c :: rest) = .ok (some c, c :: rest) := by
  unfold next?
  rw [dropWhile_gap hgap, List.dropWhile_cons_of_neg (by simp [hc])]
  rfl

theorem next?_end {gap : List Char} (hgap : IsGap gap) : next? gap = .ok (none, []) := by
  unfold next?
  rw [← List.append_nil gap, dropWhile_gap hgap]
  rfl

theorem isGap_newLine (level : Nat) : IsGap (newLine level).toList := by
  intro c hc
  rw [newLine, String.toList_append, List.mem_append] at hc
  obtain hc | hc := hc
  · obtain rfl := List.mem_singleton.1 hc
    rfl
  · rw [String.toList_ofList] at hc
    rw [List.eq_of_mem_replicate hc]
    rfl

theorem isGap_nil : IsGap [] :=
  List.forall_mem_nil _

theorem next?_cons {c : Char} (hc : isSpacing c = false) (rest : List Char) :
    next? (c :: rest) = .ok (some c, c :: rest) :=
  next?_gap isGap_nil hc rest

/-- What may come after a value: nothing, spacing, a comma or a closing bracket. -/
def Delimits (rest : List Char) : Prop :=
  ∀ c ∈ rest.head?, isSpacing c = true ∨ c = ',' ∨ c = ']' ∨ c = '}'

/-- Whether a reader reads a text as a value, whatever spacing is before it and whatever may come
after it. -/
def Reads (reader : Reader α) (text : List Char) (a : α) : Prop :=
  ∀ gap rest, IsGap gap → Delimits rest → reader (gap ++ (text ++ rest)) = .ok (a, rest)

theorem Reads.map {reader : Reader α} {text : List Char} {a : α} (h : Reads reader text a)
    (f : α → β) : Reads (do return f (← reader)) text (f a) := by
  intro gap rest hgap hrest
  rw [bind_apply (h gap rest hgap hrest), pure_apply]

/-- A reader that looks at the character after the spacing reads a value that starts with it. -/
theorem reads_of_next {f : Option Char → Reader α} {c : Char} {more : List Char} {a : α}
    (hc : isSpacing c = false)
    (h : ∀ rest, Delimits rest → f (some c) ((c :: more) ++ rest) = .ok (a, rest)) :
    Reads (next? >>= f) (c :: more) a := by
  intro gap rest hgap hrest
  rw [List.cons_append, bind_apply (next?_gap hgap hc _)]
  exact h rest hrest

/-! ## Strings -/

/-- The four digits that stand for a control in an escape. -/
def controlQuad (n : Nat) : List Char :=
  (if n < 0x10 then ['0', '0', '0'] else ['0', '0']) ++ Text.hexDigits n

theorem controlQuad_digits : ∀ n < 0x20,
    (controlQuad n).length = 4 ∧
      (controlQuad n).mapM hexValue? = some [0, 0, n / 16, n % 16] := by
  decide

theorem hexQuad_controlQuad {n : Nat} (hn : n < 0x20) (rest : List Char) :
    hexQuad (controlQuad n ++ rest) = .ok n := by
  obtain ⟨hlength, hvalues⟩ := controlQuad_digits n hn
  have htake : (controlQuad n ++ rest).take 4 = controlQuad n := by
    rw [← hlength, List.take_left]
  have hsum : ((0 * 16 + 0) * 16 + n / 16) * 16 + n % 16 = n := by omega
  rw [hexQuad, htake, hvalues]
  exact congrArg Except.ok hsum

/-- How a character is escaped: by a short escape, as a control, or not at all. -/
theorem escaped_cases (c : Char) :
    (∃ mark, escaped c = ['\\', mark] ∧ ∀ rest, escape (mark :: rest) = .ok (c, 1)) ∨
      (c.toNat < 0x20 ∧ escaped c = '\\' :: 'u' :: controlQuad c.toNat) ∨
      (0x20 ≤ c.toNat ∧ c ≠ '"' ∧ c ≠ '\\' ∧ escaped c = [c]) := by
  unfold escaped
  split
  iterate 7 exact .inl ⟨_, rfl, fun _ => rfl⟩
  · next hquote hbackslash _ _ _ _ _ =>
    refine .inr ?_
    unfold controlQuad
    split
    · exact .inl ⟨by omega, rfl⟩
    · split
      · exact .inl ⟨by omega, rfl⟩
      · exact .inr ⟨by omega, hquote, hbackslash, rfl⟩

theorem escape_controlQuad {c : Char} (hc : c.toNat < 0x20) (rest : List Char) :
    escape ('u' :: (controlQuad c.toNat ++ rest)) = .ok (c, 5) := by
  have hsecond : isSecondSurrogate c.toNat = false := by
    simp only [isSecondSurrogate, Bool.and_eq_false_iff, decide_eq_false_iff_not]
    omega
  have hfirst : isFirstSurrogate c.toNat = false := by
    simp only [isFirstSurrogate, Bool.and_eq_false_iff, decide_eq_false_iff_not]
    omega
  rw [escape, hexQuad_controlQuad hc]
  show (if isSecondSurrogate c.toNat then _ else if isFirstSurrogate c.toNat then _ else _) = _
  rw [hsecond, hfirst]
  simp [Char.ofNat_toNat]

theorem stringRest_skip (skipped rest : List Char) :
    stringRest skipped.length (skipped ++ rest) = stringRest 0 rest := by
  induction skipped with
  | nil => rfl
  | cons c more ih => rw [List.cons_append, List.length_cons, stringRest, ih]

/-- A string goes on after an escape that is read. -/
theorem stringRest_escape (text : List Char) {rest : List Char} {c : Char}
    (h : escape (text ++ rest) = .ok (c, text.length)) {chars after : List Char}
    (hrest : stringRest 0 rest = .ok (chars, after)) :
    stringRest 0 ('\\' :: (text ++ rest)) = .ok (c :: chars, after) := by
  rw [stringRest, if_neg (by decide), if_pos rfl, h]
  show (stringRest text.length (text ++ rest) >>= fun p => .ok (c :: p.1, p.2)) = _
  rw [stringRest_skip, hrest]
  rfl

/-- A string is read back from its escaped characters. -/
theorem stringRest_escaped (chars rest : List Char) :
    stringRest 0 (chars.flatMap escaped ++ '"' :: rest) = .ok (chars, rest) := by
  induction chars with
  | nil => rw [List.flatMap_nil, List.nil_append, stringRest, if_pos rfl]
  | cons c chars ih =>
    rw [List.flatMap_cons, List.append_assoc]
    obtain ⟨mark, hmark, hescape⟩ | ⟨hcontrol, hquad⟩ | ⟨hprint, hquote, hbackslash, hplain⟩ :=
      escaped_cases c
    · rw [hmark]
      exact stringRest_escape [mark] (hescape _) ih
    · rw [hquad]
      refine stringRest_escape ('u' :: controlQuad c.toNat) ?_ ih
      rw [List.cons_append, escape_controlQuad hcontrol, List.length_cons,
        (controlQuad_digits _ hcontrol).1]
    · rw [hplain, List.singleton_append, stringRest, if_neg hquote, if_neg hbackslash,
        if_neg (by omega), ih]
      rfl

theorem quoted_toList (s : String) :
    (quoted s).toList = '"' :: (s.toList.flatMap escaped ++ ['"']) := by
  simp [quoted]

theorem string_quoted (s : String) (rest : List Char) :
    string ((quoted s).toList ++ rest) = .ok (s, rest) := by
  have hrest := stringRest_escaped s.toList rest
  rw [quoted_toList]
  unfold string
  rw [List.cons_append, List.append_assoc, List.tail_cons]
  show (stringRest 0 (_ ++ '"' :: rest) >>= fun p => .ok (String.ofList p.1, p.2)) = _
  rw [hrest]
  show Except.ok (String.ofList s.toList, rest) = _
  rw [String.ofList_toList]

theorem reads_text (expected s : String) : Reads (text expected) (quoted s).toList s := by
  have hread := string_quoted s
  rw [quoted_toList] at hread ⊢
  exact reads_of_next rfl fun rest _ => hread rest

/-! ## Numerals -/

theorem not_isSpacing {c : Char} (h : startsValue c = true) : isSpacing c = false := by
  rw [Bool.eq_false_iff]
  intro hspacing
  simp only [isSpacing, Bool.or_eq_true, beq_iff_eq, or_assoc] at hspacing
  rcases hspacing with rfl | rfl | rfl | rfl
  all_goals contradiction

theorem startsValue_of_isDigit {c : Char} (h : c.isDigit = true) : startsValue c = true := by
  simp [startsValue, isNumeric, h]

theorem peek_apply (text : List Char) : peek text = .ok (text.head?, text) := rfl

theorem advance_cons (c : Char) (rest : List Char) : advance (c :: rest) = .ok ((), rest) := rfl

/-- What may come after a value does not go on with a number. -/
theorem Delimits.not_numeric {rest : List Char} (h : Delimits rest) :
    ∀ c ∈ rest.head?, c.isDigit = false ∧ c ≠ '.' ∧ c ≠ 'e' ∧ c ≠ 'E' := by
  intro c hc
  have hcases := h c hc
  simp only [isSpacing, Bool.or_eq_true, beq_iff_eq, or_assoc] at hcases
  rcases hcases with rfl | rfl | rfl | rfl | rfl | rfl | rfl
  all_goals decide

/-- Whether a text is made of digits, at least one of them. -/
def IsRun (digits : List Char) : Prop :=
  digits ≠ [] ∧ ∀ c ∈ digits, c.isDigit = true

/-- Whether a text does not start with a digit. -/
def EndsRun (rest : List Char) : Prop :=
  ∀ c ∈ rest.head?, c.isDigit = false

section Numerals

variable {run rest : List Char} (purpose : Purpose)

theorem endsRun_cons {c : Char} (hc : c.isDigit = false) (rest : List Char) :
    EndsRun (c :: rest) := by
  rintro _ ⟨⟩
  exact hc

theorem Delimits.endsRun (h : Delimits rest) : EndsRun rest :=
  fun c hc => (h.not_numeric c hc).1

theorem takeDigits_append (hrun : ∀ c ∈ run, c.isDigit = true) (hrest : EndsRun rest) :
    Text.takeDigits (run ++ rest) = (run, rest) := by
  rw [Text.takeDigits, List.takeWhile_append_of_pos hrun, List.dropWhile_append_of_pos hrun]
  cases rest with
  | nil => simp
  | cons c more =>
    have hc := hrest c rfl
    simp [hc]

theorem digits_apply (hrun : IsRun run) (hrest : EndsRun rest) :
    digits purpose (run ++ rest) = .ok (run, rest) := by
  obtain ⟨c, more, heq⟩ := List.exists_cons_of_ne_nil hrun.1
  unfold digits
  rw [takeDigits_append hrun.2 hrest, heq]

/-- Digits are read as those before the point if a zero that they start with is alone. -/
theorem wholeDigits_apply (hrun : IsRun run) (hzero : run.head? = some '0' → run = ['0'])
    (hrest : EndsRun rest) : wholeDigits purpose (run ++ rest) = .ok (run, rest) := by
  unfold wholeDigits
  rw [bind_apply (peek_apply _)]
  by_cases hhead : run.head? = some '0'
  · rw [hzero hhead, List.singleton_append, List.head?_cons, if_pos rfl,
      bind_apply (advance_cons _ _), bind_apply (peek_apply _)]
    cases rest with
    | nil => rfl
    | cons c more =>
      have hc := hrest c rfl
      simp only [List.head?_cons, hc]
      rfl
  · obtain ⟨c, more, heq⟩ := List.exists_cons_of_ne_nil hrun.1
    have hne : (run ++ rest).head? ≠ some '0' := by rwa [heq] at hhead ⊢
    rw [if_neg hne]
    exact digits_apply purpose hrun hrest

theorem minus_apply (negative : Bool) {text : List Char} (htext : text.head? ≠ some '-') :
    minus ((if negative then ['-'] else []) ++ text) = .ok (negative, text) := by
  unfold minus
  cases negative with
  | false =>
    rw [if_neg Bool.false_ne_true, List.nil_append, bind_apply (peek_apply _), if_neg htext]
    rfl
  | true => rfl

theorem IsRun.head?_ne (hrun : IsRun run) {c : Char} (hc : c.isDigit = false) :
    (run ++ rest).head? ≠ some c := by
  obtain ⟨first, more, rfl⟩ := List.exists_cons_of_ne_nil hrun.1
  rintro ⟨⟩
  have := hrun.2 c List.mem_cons_self
  rw [hc] at this
  contradiction

/-- A point and the digits after it, if there are any. -/
def fractionText : Option (List Char) → List Char
  | none => []
  | some digits => '.' :: digits

/-- The mark, the sign and the digits of an exponent, if there is one. -/
def exponentText : Option (Bool × List Char) → List Char
  | none => []
  | some (negative, digits) => 'e' :: (if negative then '-' else '+') :: digits

theorem fraction_apply {written : Option (List Char)} (hrun : ∀ run ∈ written, IsRun run)
    (hrest : EndsRun rest) (hpoint : rest.head? ≠ some '.') :
    fraction purpose (fractionText written ++ rest) = .ok (written, rest) := by
  unfold fraction
  cases written with
  | none =>
    rw [fractionText, List.nil_append, bind_apply (peek_apply _), if_neg hpoint]
    rfl
  | some run =>
    rw [fractionText, List.cons_append, bind_apply (peek_apply _), List.head?_cons, if_pos rfl,
      bind_apply (advance_cons _ _), bind_apply (digits_apply purpose (hrun run rfl) hrest)]
    rfl

theorem exponentSign_apply (negative : Bool) (hrun : IsRun run) :
    exponentSign ((if negative then '-' else '+') :: (run ++ rest)) =
      .ok (negative, run ++ rest) := by
  unfold exponentSign
  rw [bind_apply (peek_apply _)]
  cases negative with
  | false => rfl
  | true => exact minus_apply true (hrun.head?_ne rfl)

theorem exponent_apply {written : Option (Bool × List Char)} (hrun : ∀ e ∈ written, IsRun e.2)
    (hrest : EndsRun rest) (hmark : ∀ c ∈ rest.head?, c ≠ 'e' ∧ c ≠ 'E') :
    exponent purpose (exponentText written ++ rest) = .ok (written, rest) := by
  unfold exponent
  cases written with
  | none =>
    have hnone : ¬(rest.head? = some 'e' ∨ rest.head? = some 'E') := by
      rintro (h | h)
      · exact (hmark _ h).1 rfl
      · exact (hmark _ h).2 rfl
    rw [exponentText, List.nil_append, bind_apply (peek_apply _), if_neg hnone]
    rfl
  | some e =>
    obtain ⟨negative, run⟩ := e
    have hread := digits_apply purpose (hrun _ rfl) hrest
    rw [exponentText, List.cons_append, List.cons_append, bind_apply (peek_apply _),
      List.head?_cons, if_pos (.inl rfl), bind_apply (advance_cons _ _),
      bind_apply (exponentSign_apply negative (hrun _ rfl)), bind_apply hread]
    rfl

/-- The text of a numeral, its exponent marked with an `e` and a sign. -/
def Numeral.written (n : Numeral) : List Char :=
  (if n.negative then ['-'] else []) ++
    (n.whole ++ (fractionText n.fraction ++ exponentText n.exponent))

/-- Whether a numeral is one of the grammar: every part that is there has a digit, and only a zero
that is alone stands at the front. -/
structure Numeral.WellFormed (n : Numeral) : Prop where
  whole : IsRun n.whole
  zero : n.whole.head? = some '0' → n.whole = ['0']
  fraction : ∀ run ∈ n.fraction, IsRun run
  exponent : ∀ e ∈ n.exponent, IsRun e.2

/-- A numeral is read from its text, for either purpose. -/
theorem numeral_written (purpose : Purpose) {n : Numeral} (h : n.WellFormed) {rest : List Char}
    (hrest : Delimits rest) : numeral purpose (n.written ++ rest) = .ok (n, rest) := by
  obtain ⟨negative, whole, fraction, exponent⟩ := n
  have hafterFraction :
      ∀ c ∈ (exponentText exponent ++ rest).head?, c.isDigit = false ∧ c ≠ '.' := by
    cases exponent with
    | none => exact fun c hc => ⟨(hrest.not_numeric c hc).1, (hrest.not_numeric c hc).2.1⟩
    | some e =>
      rintro _ ⟨⟩
      decide
  have hafterWhole : EndsRun (fractionText fraction ++ (exponentText exponent ++ rest)) := by
    cases fraction with
    | none => exact fun c hc => (hafterFraction c hc).1
    | some run => exact endsRun_cons rfl _
  have hwhole := wholeDigits_apply purpose h.whole h.zero hafterWhole
  have hfraction := fraction_apply purpose h.fraction (fun c hc => (hafterFraction c hc).1)
    (fun hpoint => (hafterFraction _ hpoint).2 rfl)
  have hexponent := exponent_apply purpose h.exponent hrest.endsRun
    (fun c hc => (hrest.not_numeric c hc).2.2)
  unfold numeral Numeral.written
  dsimp only
  rw [List.append_assoc, List.append_assoc, List.append_assoc,
    bind_apply (minus_apply negative (h.whole.head?_ne rfl)), bind_apply hwhole,
    bind_apply hfraction, bind_apply hexponent]
  rfl

end Numerals

/-! ## Whole numbers -/

theorem digitsValue_toDigits (n : Nat) : Text.digitsValue (Nat.toDigits 10 n) = n := by
  rw [Text.digitsValue, ← Nat.ofDigitChars_eq_foldl, Nat.ofDigitChars_ten_toDigits]

theorem toDigits_isDigit {n : Nat} : ∀ c ∈ Nat.toDigits 10 n, c.isDigit = true :=
  fun _ h => Nat.isDigit_of_mem_toDigits (by decide) (by decide) h

theorem isRun_toDigits (n : Nat) : IsRun (Nat.toDigits 10 n) :=
  ⟨Nat.toDigits_ne_nil, toDigits_isDigit⟩

theorem toDigits_eq_cons (n : Nat) :
    ∃ c rest, Nat.toDigits 10 n = c :: rest ∧ c.isDigit = true := by
  obtain ⟨c, rest, heq⟩ := List.exists_cons_of_ne_nil (isRun_toDigits n).1
  exact ⟨c, rest, heq, toDigits_isDigit c (heq ▸ List.mem_cons_self)⟩

/-- The digits of a positive number do not start with a zero. -/
theorem head_toDigits {n : Nat} (hn : 0 < n) :
    ∃ c rest, Nat.toDigits 10 n = c :: rest ∧ c ≠ '0' := by
  induction n using Nat.strongRecOn with
  | ind n ih =>
    rw [Nat.toDigits_eq_if (by decide)]
    split
    · next hlt =>
      refine ⟨_, [], rfl, ?_⟩
      have hdigits : ∀ d < 10, 0 < d → Nat.digitChar d ≠ '0' := by decide
      exact hdigits n hlt hn
    · next hge =>
      obtain ⟨c, rest, heq, hc⟩ := ih (n / 10) (by omega) (by omega)
      exact ⟨c, _, by rw [heq]; rfl, hc⟩

theorem toDigits_zero_alone {n : Nat} (h : (Nat.toDigits 10 n).head? = some '0') :
    Nat.toDigits 10 n = ['0'] := by
  obtain rfl | hn := Nat.eq_zero_or_pos n
  · rfl
  · obtain ⟨c, more, heq, hc⟩ := head_toDigits hn
    rw [heq] at h
    exact absurd (Option.some.inj h) hc

/-- A whole number as it is written. -/
def wholeNumeral (negative : Bool) (n : Nat) : Numeral :=
  ⟨negative, Nat.toDigits 10 n, none, none⟩

theorem wellFormed_wholeNumeral (negative : Bool) (n : Nat) :
    (wholeNumeral negative n).WellFormed :=
  ⟨isRun_toDigits n, toDigits_zero_alone, nofun, nofun⟩

theorem written_wholeNumeral (n : Nat) : (wholeNumeral false n).written = Nat.toDigits 10 n := by
  simp [Numeral.written, wholeNumeral, fractionText, exponentText]

theorem value?_toDigits {n : Nat} (hn : n < 1 <<< 64) :
    Numeral.value? ⟨false, Nat.toDigits 10 n, none, none⟩ = some (.int n (by omega)) := by
  simp only [Numeral.value?, Option.isSome_none, Bool.or_false, Bool.false_eq_true, if_false,
    digitsValue_toDigits, hn, dif_pos]

theorem number_toDigits {n : Nat} (hn : n < 1 <<< 64) {rest : List Char} (hrest : Delimits rest) :
    number (Nat.toDigits 10 n ++ rest) = .ok (.int n (by omega), rest) := by
  have hread := numeral_written .use (wellFormed_wholeNumeral false n) hrest
  rw [written_wholeNumeral] at hread
  unfold number
  rw [bind_apply hread, wholeNumeral, value?_toDigits hn]
  rfl

/-- A whole number is read back from its digits. -/
theorem reads_natural {n bound : Nat} (expected : String) (hn : n < bound) (hsize : n < 1 <<< 64) :
    Reads (natural bound expected) (Nat.toDigits 10 n) n := by
  obtain ⟨c, more, heq, hdigit⟩ := toDigits_eq_cons n
  have hrange : (0 : Int) ≤ n ∧ (n : Int) < bound := by omega
  have hnumber := fun rest => @number_toDigits n hsize rest
  rw [heq] at hnumber ⊢
  refine reads_of_next (not_isSpacing (startsValue_of_isDigit hdigit)) fun rest hrest => ?_
  dsimp only
  rw [hdigit, Bool.or_true, if_pos rfl, bind_apply (hnumber rest hrest)]
  dsimp only
  rw [if_pos hrange]
  rfl

end Reader

end ClauseFilter.Json
