import ClauseFilter.Fault
import ClauseFilter.Proofs.PartReading
import ClauseFilter.Proofs.PrintedNumbers

/-!
# Skipping printed values

The text of every value is skipped as a whole, in any layout and whatever the value holds
(`reads_skip`): its strings with all their escapes, its numbers, and its parts however deep they
are. The number of characters left bounds how deep.
-/

namespace ClauseFilter.Json.Reader

/-! ## Strings -/

/-- An escape has the same length for either purpose, unless it is half of a pair. -/
theorem escapeLength_of_escape {text : List Char} {c : Char} {n : Nat}
    (h : escape text = .ok (c, n)) (hn : n ≠ 11) : escapeLength text = .ok n := by
  unfold escapeLength
  split
  · next rest =>
    rw [escape] at h
    obtain ⟨code, hcode, h⟩ := ok_of_bind h
    split at h
    · contradiction
    · split at h
      · obtain ⟨pair, -, h⟩ := ok_of_bind h
        obtain ⟨rfl, rfl⟩ : pair = c ∧ 11 = n := by simpa using h
        contradiction
      · obtain ⟨-, rfl⟩ : Char.ofNat code = c ∧ 5 = n := by simpa using h
        rw [hcode]
        rfl
  · rw [h]
    rfl

theorem skipStringRest_skip (skipped rest : List Char) :
    skipStringRest skipped.length (skipped ++ rest) = skipStringRest 0 rest := by
  induction skipped with
  | nil => rfl
  | cons c more ih => rw [List.cons_append, List.length_cons, skipStringRest, ih]

theorem skipStringRest_escape (text : List Char) {rest : List Char} {c : Char}
    (h : escape (text ++ rest) = .ok (c, text.length)) (hlength : text.length ≠ 11) :
    skipStringRest 0 ('\\' :: (text ++ rest)) = skipStringRest 0 rest := by
  rw [skipStringRest, if_neg (by decide), if_pos rfl, escapeLength_of_escape h hlength]
  exact skipStringRest_skip text rest

theorem skipStringRest_escaped (chars rest : List Char) :
    skipStringRest 0 (chars.flatMap escaped ++ '"' :: rest) = .ok rest := by
  induction chars with
  | nil => rw [List.flatMap_nil, List.nil_append, skipStringRest, if_pos rfl]
  | cons c chars ih =>
    rw [List.flatMap_cons, List.append_assoc]
    obtain ⟨mark, hmark, hescape⟩ | ⟨hcontrol, hquad⟩ | ⟨hprint, hquote, hbackslash, hplain⟩ :=
      escaped_cases c
    · rw [hmark]
      exact (skipStringRest_escape [mark] (hescape _) (Nat.ne_of_beq_eq_false rfl)).trans ih
    · have hlength := (controlQuad_digits _ hcontrol).1
      rw [hquad]
      refine (skipStringRest_escape ('u' :: controlQuad c.toNat) (c := c) ?_ ?_).trans ih
      · rw [List.cons_append, escape_controlQuad hcontrol, List.length_cons, hlength]
      · rw [List.length_cons, hlength]
        decide
    · rw [hplain, List.singleton_append, skipStringRest, if_neg hquote, if_neg hbackslash,
        if_neg (by omega), ih]

theorem skipString_quoted (s : String) (rest : List Char) :
    skipString ((quoted s).toList ++ rest) = .ok ((), rest) := by
  unfold skipString
  rw [quoted_toList, List.cons_append, List.append_assoc, List.tail_cons]
  show (skipStringRest 0 (_ ++ '"' :: rest) >>= fun rest => .ok ((), rest)) = _
  rw [skipStringRest_escaped]
  rfl

/-! ## Words and numbers -/

theorem word_append (letters rest : List Char) :
    word letters (letters ++ rest) = .ok ((), rest) := by
  induction letters with
  | nil => rfl
  | cons letter letters ih => rw [List.cons_append, word, if_pos rfl, ih]

/-- A numeral starts with its sign or a digit. -/
theorem Numeral.written_eq_cons {n : Numeral} (h : n.WellFormed) :
    ∃ c rest, n.written = c :: rest ∧ (c = '-' ∨ c.isDigit = true) := by
  obtain ⟨c, more, hwhole⟩ := List.exists_cons_of_ne_nil h.whole.1
  have hc : c.isDigit = true := h.whole.2 c (hwhole ▸ List.mem_cons_self)
  unfold Numeral.written
  cases n.negative with
  | true => exact ⟨'-', _, rfl, .inl rfl⟩
  | false => exact ⟨c, _, by rw [hwhole]; rfl, .inr hc⟩

theorem startsValue_of_numeral {c : Char} (h : c = '-' ∨ c.isDigit = true) :
    startsValue c = true := by
  obtain rfl | hdigit := h
  · decide
  · exact startsValue_of_isDigit hdigit

theorem discard_apply {α : Type} {x : Reader α} {text rest : List Char} {a : α}
    (h : x text = .ok (a, rest)) : discard x text = .ok ((), rest) := by
  show (x >>= fun _ => pure ()) text = _
  rw [bind_apply h]
  rfl

theorem reads_skipWithin_numeral {m : Numeral} (h : m.WellFormed) (n : Nat) :
    Reads (skipWithin (n + 1)) m.written () := by
  obtain ⟨c, more, htext, hc⟩ := Numeral.written_eq_cons h
  have hnumeric : (decide (c = '-') || c.isDigit) = true := by simpa using hc
  have hread := fun rest => @numeral_written .skip m h rest
  rw [htext] at hread ⊢
  refine reads_of_next (not_isSpacing (startsValue_of_numeral hc)) fun rest hrest => ?_
  generalize hopened : some c = next
  split
  · contradiction
  iterate 6
    · obtain rfl := Option.some.inj hopened
      contradiction
  · obtain rfl := Option.some.inj hopened
    rw [if_pos hnumeric]
    exact discard_apply (hread rest hrest)

/-! ## Whole values -/

section Values

variable (l : Layout) {level n : Nat} {value : Json}

/-- A part is shorter than the brackets around it. -/
theorem length_lt_enclosed {α : Type} {opening closing : Char} {inner outer : List Char}
    {text : α → List Char} {parts : List α} {part : α} (h : part ∈ parts) :
    (text part).length < (Layout.enclosed opening closing inner outer text parts).length := by
  obtain ⟨first, more, rfl⟩ := List.exists_cons_of_ne_nil (List.ne_nil_of_mem h)
  have hfurther : part ∈ more → (text part).length ≤ (Layout.further inner text more).length := by
    intro hmem
    have hinfix : ',' :: (inner ++ text part) <:+: Layout.further inner text more :=
      List.infix_of_mem_flatten (List.mem_map_of_mem hmem)
    have hlength := hinfix.length_le
    rw [List.length_cons, List.length_append] at hlength
    omega
  simp only [Layout.enclosed, List.length_cons, List.length_append, List.length_nil]
  obtain rfl | hmem := List.mem_cons.1 h
  · omega
  · have := hfurther hmem
    omega

/-- A member is longer than its value. -/
theorem length_lt_memberAt (level : Nat) (member : String × Json) :
    (l.textAt level member.2).length < (l.memberAt level member).length := by
  obtain ⟨key, value⟩ := member
  simp only [Layout.memberAt, List.length_append, List.length_cons]
  omega

theorem skipMember_memberAt {member : String × Json}
    (h : Reads (skipWithin n) (l.textAt level member.2) ()) :
    ReadsHere (do
      skipString
      colon
      skipWithin n) (l.memberAt level member) () := by
  obtain ⟨key, value⟩ := member
  intro rest hrest
  have hvalue := h l.afterColon rest l.isGap_afterColon hrest
  rw [l.memberAt_append, bind_apply (skipString_quoted key _), bind_apply (colon_apply _)]
  exact hvalue

theorem reads_skipWithin
    (h : (l.textAt level value).length < n) : Reads (skipWithin n) (l.textAt level value) () := by
  -- The bound counts brackets, but the text has at least one character for each of them, and a part
  -- is shorter than the text around it.
  induction n generalizing level value with
  | zero => contradiction
  | succ n ih =>
    cases value with
    | null => exact reads_of_next (c := 'n') rfl fun rest _ => word_append "null".toList rest
    | bool b =>
      cases b with
      | true => exact reads_of_next (c := 't') rfl fun rest _ => word_append "true".toList rest
      | false => exact reads_of_next (c := 'f') rfl fun rest _ => word_append "false".toList rest
    | num x =>
      obtain ⟨m, hm, htext⟩ := x.exists_written
      rw [Layout.textAt, htext]
      exact reads_skipWithin_numeral hm n
    | str s =>
      have hskip := skipString_quoted s
      rw [Layout.textAt]
      rw [quoted_toList] at hskip ⊢
      exact reads_of_next rfl fun rest _ => hskip rest
    | arr values =>
      have hitems :
          Passes (fun _ value _ => Reads (skipWithin n) (l.textAt (level + 1) value) ()) () values
            () := by
        refine Passes.of_forall fun value hvalue => ih ?_
        rw [l.textAt_arr] at h
        exact Nat.lt_of_lt_of_le (length_lt_enclosed hvalue) (Nat.le_of_lt_succ h)
      have hskip := items_textAt l .skip hitems
      obtain ⟨rest, htext⟩ := l.textAt_arr_eq_cons level values
      rw [htext] at hskip ⊢
      exact reads_of_next rfl fun rest _ => hskip rest
    | obj members =>
      have hmembers : Passes (fun _ member _ => ReadsHere (do
          skipString
          colon
          skipWithin n) (l.memberAt (level + 1) member) ()) () members () := by
        refine Passes.of_forall fun member hmember => skipMember_memberAt l (ih ?_)
        rw [l.textAt_obj] at h
        have hvalue := length_lt_memberAt l (level + 1) member
        exact (hvalue.trans (length_lt_enclosed hmember)).trans_le (Nat.le_of_lt_succ h)
      have hskip := members_textAt l .skip hmembers
      obtain ⟨rest, htext⟩ := l.textAt_obj_eq_cons level members
      rw [htext] at hskip ⊢
      exact reads_of_next rfl fun rest _ => hskip rest

theorem reads_skip (level : Nat) (value : Json) :
    Reads skip (l.textAt level value) () := by
  intro gap rest hgap hrest
  refine reads_skipWithin l ?_ gap rest hgap hrest
  simp only [List.length_append]
  omega

end Values

end ClauseFilter.Json.Reader
