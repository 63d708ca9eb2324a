import ClauseFilter.Proofs.RecordReading
import Mathlib.Data.List.Nodup

/-!
# Reading back printed values

A value is given back by its text, in any layout, if the keys of each object in it are distinct and
its numbers are given back by theirs (`Regular`, `parse_written`). All whole numbers are
(`readsBack_int`).
-/

namespace ClauseFilter.Json

open Reader

/-! ## Numbers -/

/-- Whether a number is given back by its text. -/
def Number.ReadsBack (n : Number) : Prop :=
  ∃ m : Numeral, m.WellFormed ∧ n.text.toList = m.written ∧ m.value? = some n

theorem value?_wholeNumeral {n : Int} (inRange : -(1 <<< 63) ≤ n ∧ n < 1 <<< 64) :
    (wholeNumeral (decide (n < 0)) n.natAbs).value? = some (.int n inRange) := by
  unfold Numeral.value? wholeNumeral
  simp only [Option.isSome_none, Bool.or_false, Bool.false_eq_true, if_false, digitsValue_toDigits,
    decide_eq_true_iff]
  by_cases hn : n < 0
  · have hsize : 0 < n.natAbs ∧ n.natAbs ≤ 1 <<< 63 := by omega
    have hvalue : -(n.natAbs : Int) = n := by omega
    simp only [if_pos hn, dif_pos hsize, hvalue]
  · have hsize : n.natAbs < 1 <<< 64 := by omega
    have hvalue : (n.natAbs : Int) = n := by omega
    simp only [if_neg hn, dif_pos hsize, hvalue]

theorem readsBack_int {n : Int} (inRange : -(1 <<< 63) ≤ n ∧ n < 1 <<< 64) :
    (Number.int n inRange).ReadsBack :=
  ⟨_, wellFormed_wholeNumeral _ _, intText_toList n, value?_wholeNumeral inRange⟩

theorem readsBack_zero : (Number.float (.zero false)).ReadsBack := by
  have hrun : IsRun ['0'] := isRun_singleton rfl
  refine ⟨⟨false, ['0'], some ['0'], none⟩, ⟨hrun, fun _ => rfl, ?_, nofun⟩, rfl, rfl⟩
  rintro _ ⟨⟩
  exact hrun

theorem Number.ReadsBack.number_apply {n : Number} (h : n.ReadsBack) {rest : List Char}
    (hrest : Delimits rest) : number (n.text.toList ++ rest) = .ok (n, rest) := by
  obtain ⟨m, hm, htext, hvalue⟩ := h
  unfold number
  rw [htext, bind_apply (numeral_written .use hm hrest), hvalue]
  rfl

theorem Number.ReadsBack.reads {n : Number} (h : n.ReadsBack) (bound : Nat) :
    Reads (valueWithin (bound + 1)) n.text.toList (.num n) := by
  obtain ⟨m, hm, htext⟩ := n.exists_written
  obtain ⟨c, more, hwritten, hc⟩ := Numeral.written_eq_cons hm
  have hread := fun rest => @ReadsBack.number_apply n h rest
  rw [htext, hwritten] at hread ⊢
  have hnumeric : (decide (c = '-') || c.isDigit) = true := by simpa using hc
  refine reads_of_next (not_isSpacing (startsValue_of_numeral hc)) fun rest hrest => ?_
  generalize hopened : some c = next
  split
  · contradiction
  iterate 6
    · obtain rfl := Option.some.inj hopened
      contradiction
  · obtain rfl := Option.some.inj hopened
    rw [if_pos hnumeric, bind_apply (hread rest hrest)]
    rfl

/-! ## Values -/

/-- Whether the keys of every object in a value are distinct and its numbers are given back by their
texts. -/
inductive Regular : Json → Prop where
  | null : Regular .null
  | bool (b : Bool) : Regular (.bool b)
  | num {n : Number} (h : n.ReadsBack) : Regular (.num n)
  | str (s : String) : Regular (.str s)
  | arr {items : List Json} (h : ∀ item ∈ items, Regular item) : Regular (.arr items)
  | obj {members : Members} (hkeys : members.keys.Nodup)
      (h : ∀ member ∈ members, Regular member.2) : Regular (.obj members)

@[simp] theorem regular_str (s : String) : Regular (.str s) :=
  .str s

@[simp] theorem regular_arr_iff {items : List Json} :
    Regular (.arr items) ↔ ∀ item ∈ items, Regular item := by
  constructor
  · intro h
    cases h with
    | arr h => exact h
  · exact .arr

@[simp] theorem regular_obj_iff {members : Members} :
    Regular (.obj members) ↔ members.keys.Nodup ∧ ∀ member ∈ members, Regular member.2 := by
  constructor
  · intro h
    cases h with
    | obj hkeys h => exact ⟨hkeys, h⟩
  · rintro ⟨hkeys, h⟩
    exact .obj hkeys h

theorem Members.insert_of_notMem {members : Members} {key : String} (h : key ∉ members.keys)
    (value : Json) : members.insert key value = members ++ [(key, value)] := by
  induction members with
  | nil => rfl
  | cons member rest ih =>
    obtain ⟨k, v⟩ := member
    rw [keys_cons, List.mem_cons, not_or] at h
    rw [insert, if_neg (Ne.symm h.1), ih h.2, List.cons_append]

section Values

variable (l : Layout) {n level : Nat}

/-- A member of a new key is read to the end of those before it. -/
theorem readsHere_member {read : Members} {key : String} {value : Json} (hkey : key ∉ read.keys)
    (h : Reads (valueWithin n) (l.textAt level value) value) :
    ReadsHere (do
      let key ← string
      colon
      return Members.insert read key (← valueWithin n)) (l.memberAt level (key, value))
      (read ++ [(key, value)]) := by
  intro rest hrest
  have hvalue := h l.afterColon rest l.isGap_afterColon hrest
  rw [l.memberAt_append, bind_apply (string_quoted key _), bind_apply (colon_apply _),
    bind_apply hvalue, Members.insert_of_notMem hkey]
  rfl

theorem passes_members {members : Members}
    (h : ∀ member ∈ members, Reads (valueWithin n) (l.textAt level member.2) member.2)
    (read : Members) (hkeys : (read ++ members).keys.Nodup) :
    Passes (fun read part read' => ReadsHere (do
        let key ← string
        colon
        return Members.insert read key (← valueWithin n)) (l.memberAt level part) read')
      read members (read ++ members) := by
  induction members generalizing read with
  | nil =>
    rw [List.append_nil]
    exact .nil read
  | cons member rest ih =>
    obtain ⟨hmember, hrest⟩ := List.forall_mem_cons.1 h
    have hkey : member.1 ∉ read.keys := by
      rw [Members.keys_append, List.nodup_append'] at hkeys
      exact fun hmem => hkeys.2.2 hmem List.mem_cons_self
    rw [List.append_cons] at hkeys ⊢
    exact .cons (readsHere_member l hkey hmember) (ih hrest _ hkeys)

theorem Regular.reads_valueWithin {value : Json} (h : Regular value)
    (hn : (l.textAt level value).length < n) :
    Reads (valueWithin n) (l.textAt level value) value := by
  -- As for skipping, the bound counts brackets, and a part is shorter than the text around it.
  induction n generalizing level value with
  | zero => contradiction
  | succ n ih =>
    cases h with
    | null =>
      exact reads_of_next (c := 'n') rfl fun rest _ => bind_apply (word_append "null".toList rest)
    | bool b =>
      cases b with
      | true =>
        exact reads_of_next (c := 't') rfl fun rest _ => bind_apply (word_append "true".toList rest)
      | false =>
        exact reads_of_next (c := 'f') rfl fun rest _ =>
          bind_apply (word_append "false".toList rest)
    | num h => exact h.reads n
    | str s =>
      have hread := string_quoted s
      rw [Layout.textAt]
      rw [quoted_toList] at hread ⊢
      exact reads_of_next rfl fun rest _ => bind_apply (hread rest)
    | @arr items h =>
      have hitems : ∀ item ∈ items, Reads (valueWithin n) (l.textAt (level + 1) item) item := by
        intro item hitem
        rw [l.textAt_arr] at hn
        exact ih (h item hitem) ((length_lt_enclosed hitem).trans_le (Nat.le_of_lt_succ hn))
      have hpasses := @passes_list _ l (valueWithin n) id items (level + 1) hitems []
      rw [List.map_id, List.nil_append] at hpasses
      have hread := items_textAt l .use hpasses
      obtain ⟨rest, htext⟩ := l.textAt_arr_eq_cons level items
      rw [htext] at hread ⊢
      exact reads_of_next rfl fun rest _ => bind_apply (hread rest)
    | @obj members hkeys h =>
      have hmembers : ∀ member ∈ members,
          Reads (valueWithin n) (l.textAt (level + 1) member.2) member.2 := by
        intro member hmember
        rw [l.textAt_obj] at hn
        have hvalue := length_lt_memberAt l (level + 1) member
        exact ih (h member hmember)
          ((hvalue.trans (length_lt_enclosed hmember)).trans_le (Nat.le_of_lt_succ hn))
      have hread := members_textAt l .use (passes_members l hmembers [] hkeys)
      obtain ⟨rest, htext⟩ := l.textAt_obj_eq_cons level members
      rw [htext] at hread ⊢
      exact reads_of_next rfl fun rest _ => bind_apply (hread rest)

theorem Regular.readsIn {value : Json} (h : Regular value) :
    ReadsIn l Reader.value value value := by
  intro level gap rest hgap hrest
  refine h.reads_valueWithin l ?_ gap rest hgap hrest
  simp only [List.length_append]
  omega

end Values

theorem Regular.parse_written {value : Json} (h : Regular value) {text : String}
    (htext : value.Written text) : parse text = .ok value :=
  run_written (fun l => h.readsIn l) htext

end ClauseFilter.Json
