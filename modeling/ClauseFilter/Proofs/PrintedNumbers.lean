import ClauseFilter.Proofs.TypedReading
import Mathlib.Data.List.DropRight

/-!
# Printed numbers

Every number is printed as a numeral of the grammar (`Number.exists_written`). For floats this comes
down to the digits of the shortest decimal: there is at least one of them, and the first is not a
zero.
-/

namespace ClauseFilter

namespace Binary64

/-! ## The shortest decimal -/

/-- Zero does not round to a float that is not zero itself. -/
theorem Rounding.whole?_ne_zero {r : Rounding} (hlow : 0 < r.low) {n : Nat}
    (h : r.whole? = some n) : n ≠ 0 := by
  have hholds {m : Nat} (hm : r.holds (m * r.denominator) = true) : m ≠ 0 := by
    rintro rfl
    rw [Nat.zero_mul, holds] at hm
    split at hm
    · simp only [Bool.and_eq_true, decide_eq_true_eq] at hm
      omega
    · simp only [Bool.and_eq_true, decide_eq_true_eq] at hm
      omega
  dsimp only [whole?] at h
  split at h
  · next hbelow _ =>
    have hne := hholds hbelow
    split at h
    · cases h
      exact hne
    · split at h
      · cases h
        exact Nat.succ_ne_zero _
      · cases h
        exact fun hsum => hne (Nat.eq_zero_of_add_eq_zero_right hsum)
  · next hbelow _ =>
    cases h
    exact hholds hbelow
  · cases h
    exact Nat.succ_ne_zero _
  · contradiction

theorem low_rounding_pos {x : Binary64} (h : x.significand ≠ 0) : 0 < x.rounding.low := by
  unfold rounding
  dsimp only
  rw [Nat.shiftLeft_eq]
  apply Nat.mul_pos
  · split <;> omega
  · exact Nat.two_pow_pos _

theorem shortest_cases {x : Binary64} (h : x.significand ≠ 0) :
    x.shortest.digits ≠ 0 ∨ x.shortest = ⟨0, 0⟩ := by
  unfold shortest
  dsimp only
  cases hfound : (List.range 17).findSome? fun (n : Nat) =>
      (x.rounding.divTen (x.rounding.firstExponent - n)).whole?.map fun digits =>
        (⟨digits, x.rounding.firstExponent - n⟩ : Decimal) with
  | none => exact .inr rfl
  | some d =>
    obtain ⟨n, -, hn⟩ := List.exists_of_findSome?_eq_some hfound
    obtain ⟨digits, hdigits, rfl⟩ := Option.map_eq_some_iff.1 hn
    refine .inl (Rounding.whole?_ne_zero ?_ hdigits)
    exact Nat.mul_pos (low_rounding_pos h) (Nat.pow_pos (by decide))

end Binary64

namespace Json

open Reader

/-! ## Digits with a point -/

/-- Whether a text is that of a number without a sign. -/
def IsMagnitude (text : List Char) : Prop :=
  ∃ n : Numeral, n.WellFormed ∧ n.negative = false ∧ n.written = text

/-- Whether a text is made of digits of which the first is not a zero. -/
def IsLeading (digits : List Char) : Prop :=
  IsRun digits ∧ digits.head? ≠ some '0'

theorem isDigit_of_mem_replicate {n : Nat} : ∀ c ∈ List.replicate n '0', c.isDigit = true := by
  intro c hc
  rw [List.eq_of_mem_replicate hc]
  rfl

theorem isLeading_leadingDigits {d : Decimal} (h : d.digits ≠ 0) :
    IsLeading (Binary64.leadingDigits d).1 := by
  obtain ⟨c, rest, hdigits, hc⟩ := head_toDigits (Nat.pos_of_ne_zero h)
  have hstripped : (Binary64.leadingDigits d).1 = (c :: rest).rdropWhile (· == '0') := by
    rw [← hdigits]
    rfl
  have hne : (c :: rest).rdropWhile (· == '0') ≠ [] := by
    rw [Ne, List.rdropWhile_eq_nil_iff]
    intro hall
    exact hc (by simpa using hall c List.mem_cons_self)
  have hprefix := List.rdropWhile_prefix (· == '0') (l := c :: rest)
  obtain ⟨first, more, heq⟩ := List.exists_cons_of_ne_nil hne
  rw [hstripped, heq]
  rw [heq] at hprefix
  obtain ⟨rfl, -⟩ := List.cons_prefix_cons.1 hprefix
  refine ⟨⟨List.cons_ne_nil _ _, fun other hother => ?_⟩, by simpa using hc⟩
  have hmem := hprefix.subset hother
  rw [← hdigits] at hmem
  exact toDigits_isDigit other hmem

section Digits

variable {digits : List Char}

theorem isRun_singleton {c : Char} (hc : c.isDigit = true) : IsRun [c] :=
  ⟨List.cons_ne_nil _ _, List.forall_mem_singleton.2 hc⟩

/-- Digits before the point and digits after it are a number without a sign. -/
theorem isMagnitude_point {whole fraction : List Char} (hwhole : IsRun whole)
    (hzero : whole.head? = some '0' → whole = ['0']) (hfraction : IsRun fraction) :
    IsMagnitude (whole ++ '.' :: fraction) := by
  refine ⟨⟨false, whole, some fraction, none⟩, ⟨hwhole, hzero, ?_, nofun⟩, rfl, ?_⟩
  · rintro _ ⟨⟩
    exact hfraction
  · simp [Numeral.written, fractionText, exponentText]

theorem isRun_replicate_append (count : Nat) (h : IsRun digits) :
    IsRun (List.replicate count '0' ++ digits) :=
  ⟨List.append_ne_nil_of_right_ne_nil _ h.1,
    List.forall_mem_append.2 ⟨isDigit_of_mem_replicate, h.2⟩⟩

theorem isMagnitude_positional (h : IsLeading digits) (exponent : Int) :
    IsMagnitude (Binary64.positional digits exponent) := by
  obtain ⟨c, rest, rfl⟩ := List.exists_cons_of_ne_nil h.1.1
  unfold Binary64.positional
  split
  · rw [List.append_assoc]
    exact isMagnitude_point (isRun_singleton rfl) (fun _ => rfl) (isRun_replicate_append _ h.1)
  · extract_lets whole padded fraction
    have hdigits : ∀ d ∈ padded, d.isDigit = true :=
      List.forall_mem_append.2 ⟨h.1.2, isDigit_of_mem_replicate⟩
    have hwhole : padded.take whole =
        c :: (rest ++ List.replicate (whole - (c :: rest).length) '0').take exponent.toNat := rfl
    refine isMagnitude_point ⟨?_, fun d hd => hdigits d (List.mem_of_mem_take hd)⟩ ?_ ?_
    · rw [hwhole]
      exact List.cons_ne_nil _ _
    · intro hzero
      rw [hwhole] at hzero
      exact absurd hzero h.2
    · split
      · exact isRun_singleton rfl
      · next hne =>
        exact ⟨by simpa using hne, fun d hd => hdigits d (List.mem_of_mem_drop hd)⟩

theorem isMagnitude_scientific (h : IsLeading digits) (exponent : Int) :
    IsMagnitude (Binary64.scientific digits exponent) := by
  obtain ⟨c, rest, rfl⟩ := List.exists_cons_of_ne_nil h.1.1
  obtain ⟨hc, hrest⟩ := List.forall_mem_cons.1 h.1.2
  let fraction := if rest.isEmpty then none else some rest
  let written := some (decide (exponent < 0), Nat.toDigits 10 exponent.natAbs)
  refine ⟨⟨false, [c], fraction, written⟩, ⟨?_, ?_, ?_, ?_⟩, rfl, ?_⟩
  · exact isRun_singleton hc
  · intro hzero
    exact absurd hzero h.2
  · intro run hrun
    cases rest with
    | nil => cases hrun
    | cons d more =>
      obtain rfl := Option.some.inj hrun
      exact ⟨List.cons_ne_nil _ _, hrest⟩
  · rintro _ ⟨⟩
    exact isRun_toDigits _
  · cases rest with
    | nil =>
      simp [Numeral.written, Binary64.scientific, fractionText, exponentText, fraction, written]
    | cons d more =>
      simp [Numeral.written, Binary64.scientific, fractionText, exponentText, fraction, written]

end Digits

/-! ## Numbers -/

theorem isMagnitude_magnitude (x : Binary64) : IsMagnitude x.magnitude := by
  have hrun : IsRun ['0'] := isRun_singleton rfl
  have hzero : IsMagnitude ['0', '.', '0'] := isMagnitude_point hrun (fun _ => rfl) hrun
  unfold Binary64.magnitude
  split
  · exact hzero
  · next hsignificand =>
    dsimp only
    rcases Binary64.shortest_cases hsignificand with hdigits | hnone
    · have hleading := isLeading_leadingDigits hdigits
      split
      · exact isMagnitude_positional hleading _
      · exact isMagnitude_scientific hleading _
    · rw [hnone]
      exact hzero

theorem intText_toList (n : Int) :
    (intText n).toList = (wholeNumeral (decide (n < 0)) n.natAbs).written := by
  rw [intText, String.toList_ofList]
  simp [Numeral.written, wholeNumeral, fractionText, exponentText]

/-- A number is printed as a numeral of the grammar. -/
theorem Number.exists_written (n : Number) :
    ∃ m : Numeral, m.WellFormed ∧ n.text.toList = m.written := by
  cases n with
  | int n inRange => exact ⟨_, wellFormed_wholeNumeral _ _, intText_toList n⟩
  | float x =>
    obtain ⟨m, hm, hnegative, hwritten⟩ := isMagnitude_magnitude x
    refine ⟨{ m with negative := x.negative }, ⟨hm.whole, hm.zero, hm.fraction, hm.exponent⟩, ?_⟩
    rw [text, Binary64.text, String.toList_ofList, ← hwritten, Numeral.written, Numeral.written,
      hnegative]
    cases x.negative <;> rfl

end Json

end ClauseFilter
