import ClauseFilter.Json.Record
import ClauseFilter.Proofs.SkippedValues

/-!
# Reading printed records

Typed readers on the texts of values, in any layout (`ReadsIn`). An object is read as a record when
each of its members sets a field that is not set yet or is unknown to the record and skipped
(`Shape.Takes`, `Shape.readsIn`). In which order the fields come, and what unknown members are among
them, makes no difference (`Shape.passes_partly`).
-/

namespace ClauseFilter.Json.Reader

variable {α β σ : Type} {l : Layout}

/-- Whether a reader reads the text of a value in a layout, at any level. -/
def ReadsIn (l : Layout) (reader : Reader α) (value : Json) (a : α) : Prop :=
  ∀ level, Reads reader (l.textAt level value) a

/-! ## Single values -/

theorem readsIn_text (expected s : String) : ReadsIn l (text expected) (.str s) s := by
  intro level
  rw [Layout.textAt]
  exact reads_text expected s

theorem readsIn_boolean (b : Bool) : ReadsIn l boolean (.bool b) b := by
  intro level
  cases b with
  | true =>
    exact reads_of_next (c := 't') rfl fun rest _ => bind_apply (word_append "true".toList rest)
  | false =>
    exact reads_of_next (c := 'f') rfl fun rest _ => bind_apply (word_append "false".toList rest)

theorem readsIn_natural {n bound : Nat} (expected : String) (hn : n < bound)
    (inRange : -(1 <<< 63) ≤ (n : Int) ∧ (n : Int) < 1 <<< 64) :
    ReadsIn l (natural bound expected) (.num (.int n inRange)) n := by
  intro level
  have hsize : n < 1 <<< 64 := by omega
  have htext : (intText n).toList = Nat.toDigits 10 n := by
    rw [intText, String.toList_ofList, if_neg (by omega), List.nil_append, Int.natAbs_natCast]
  rw [Layout.textAt, Number.text, htext]
  exact reads_natural expected hn hsize

theorem ReadsIn.map {reader : Reader α} {value : Json} {a : α} (h : ReadsIn l reader value a)
    (f : α → β) : ReadsIn l (do return f (← reader)) value (f a) :=
  fun level => (h level).map f

theorem ReadsIn.map_eq {reader : Reader α} {value : Json} {a : α} (h : ReadsIn l reader value a)
    (f : α → β) {b : β} (hf : f a = b) : ReadsIn l (do return f (← reader)) value b := by
  rw [← hf]
  exact h.map f

theorem ReadsIn.optional {reader : Reader α} {value : Json} {a : α} (h : ReadsIn l reader value a)
    (hvalue : value ≠ .null) : ReadsIn l (Reader.optional reader) value (some a) := by
  intro level
  obtain ⟨c, more, htext, hstarts, hnull⟩ := l.textAt_eq_cons level value
  have hc : some c ≠ some 'n' := fun heq => hvalue (hnull (Option.some.inj heq))
  have hread := (h level).map some
  rw [htext] at hread ⊢
  refine reads_of_next (not_isSpacing hstarts) fun rest hrest => ?_
  generalize some c = next at hc
  split
  · contradiction
  · exact hread [] rest isGap_nil hrest

/-! ## Lists -/

theorem passes_list {item : Reader α} {write : α → Json} {as : List α} {level : Nat}
    (h : ∀ a ∈ as, Reads item (l.textAt level (write a)) a) (read : List α) :
    Passes (fun read value read' =>
        Reads (do return read ++ [← item]) (l.textAt level value) read')
      read (as.map write) (read ++ as) := by
  induction as generalizing read with
  | nil =>
    rw [List.append_nil]
    exact .nil read
  | cons a rest ih =>
    obtain ⟨ha, hrest⟩ := List.forall_mem_cons.1 h
    have hstep := ha.map fun a => read ++ [a]
    rw [List.append_cons]
    exact .cons hstep (ih hrest (read ++ [a]))

/-- A list is read from an array of what is written for its elements. -/
theorem readsIn_list {item : Reader α} {write : α → Json} {as : List α}
    (h : ∀ a ∈ as, ReadsIn l item (write a) a) :
    ReadsIn l (list item) (.arr (as.map write)) as := by
  intro level
  have hread := items_textAt l .use (passes_list (fun a ha => h a ha (level + 1)) [])
  obtain ⟨rest, htext⟩ := l.textAt_arr_eq_cons level (as.map write)
  rw [htext] at hread ⊢
  exact reads_of_next rfl fun rest _ => hread rest

/-! ## Records -/

namespace Shape

variable {shape : Shape σ} {state state' : σ × List String} {start final : σ} {members : Members}

/-- The field of a name. -/
def field? (shape : Shape σ) (key : String) : Option (Field σ) :=
  shape.fields.find? fun field => field.name == key

theorem isSome_field?_iff {key : String} :
    (shape.field? key).isSome ↔ key ∈ shape.fields.map Field.name := by
  simp [field?, List.find?_isSome]

/-- What reading a member does to a record and the names of the fields read so far: the member sets
a field for the first time, or is skipped. -/
inductive Takes (l : Layout) (shape : Shape σ) :
    σ × List String → String × Json → σ × List String → Prop where
  | field {record record' : σ} {seen : List String} {key : String} {value : Json} {field : Field σ}
      (hfield : shape.field? key = some field) (hseen : key ∉ seen)
      (hread : ReadsIn l (field.read record) value record') :
      Takes l shape (record, seen) (key, value) (record', key :: seen)
  | unknown {state : σ × List String} {key : String} (value : Json)
      (hfield : shape.field? key = none) : Takes l shape state (key, value) state

theorem Takes.readsHere {member : String × Json} (h : shape.Takes l state member state')
    (level : Nat) : ReadsHere (shape.member state) (l.memberAt level member) state' := by
  intro rest hrest
  cases h with
  | @field record record' seen key value field hfield hseen hread =>
    have hvalue := hread level l.afterColon rest l.isGap_afterColon hrest
    unfold field? at hfield
    unfold Shape.member
    rw [l.memberAt_append, bind_apply (string_quoted key _), hfield]
    dsimp only
    rw [if_neg (by simpa using hseen), bind_apply (colon_apply _), bind_apply hvalue]
    rfl
  | @unknown state key value hfield =>
    have hvalue := reads_skip l level value l.afterColon rest l.isGap_afterColon hrest
    unfold field? at hfield
    unfold Shape.member
    rw [l.memberAt_append, bind_apply (string_quoted key _), hfield]
    dsimp only
    rw [bind_apply (colon_apply _), bind_apply hvalue]
    rfl

/-- An object is read as the record that its members lead to, if no required field is missing. -/
theorem readsIn {seen : List String} (h : Passes (shape.Takes l) (start, []) members (final, seen))
    (hrequired : ∀ field ∈ shape.fields, field.required = true → field.name ∈ seen) :
    ReadsIn l (shape.read start) (.obj members) final := by
  intro level
  have hmembers := members_textAt l .use (h.imp fun hstep => hstep.readsHere (level + 1))
  have hmissing : shape.fields.find? (fun field => field.required && !seen.contains field.name) =
      none := by
    rw [List.find?_eq_none]
    intro field hfield
    cases hfieldRequired : field.required with
    | false => simp
    | true => simpa using hrequired field hfield hfieldRequired
  obtain ⟨more, htext⟩ := l.textAt_obj_eq_cons level members
  rw [htext] at hmembers ⊢
  refine reads_of_next rfl fun rest _ => ?_
  show shape.readObject start _ = _
  unfold readObject
  rw [bind_apply (hmembers rest)]
  dsimp only
  rw [hmissing]
  rfl

/-! ## Members that set one field each -/

/-- What reading members sets in a record, if each of them is a field and no two are the same. -/
inductive Fills (l : Layout) (shape : Shape σ) : σ → Members → σ → Prop where
  | nil (record : σ) : Fills l shape record [] record
  | cons {record record' final : σ} {key : String} {field : Field σ} {value : Json}
      {members : Members} (hfield : shape.field? key = some field)
      (hread : ReadsIn l (field.read record) value record')
      (h : Fills l shape record' members final) :
      Fills l shape record ((key, value) :: members) final

section Fills

variable {record record' : σ} {members' : Members}

theorem Fills.append (h : shape.Fills l record members record')
    (h' : shape.Fills l record' members' final) :
    shape.Fills l record (members ++ members') final := by
  induction h with
  | nil => exact h'
  | cons hfield hread h ih => exact .cons hfield hread (ih h')

theorem Fills.passes (h : shape.Fills l record members final) {seen : List String}
    (hkeys : members.keys.Nodup) (hseen : members.keys.Disjoint seen) :
    Passes (shape.Takes l) (record, seen) members (final, members.keys.reverse ++ seen) := by
  induction h generalizing seen with
  | nil record => exact .nil _
  | @cons record record' final key field value members hfield hread h ih =>
    obtain ⟨hkey, hkeys⟩ := List.nodup_cons.1 hkeys
    obtain ⟨hunseen, hseen⟩ := List.disjoint_cons_left.1 hseen
    have hrest := ih hkeys (List.disjoint_cons_right.2 ⟨hkey, hseen⟩)
    rw [Members.keys_cons, List.reverse_cons, List.append_assoc, List.singleton_append]
    exact .cons (.field hfield hunseen hread) hrest

theorem readsIn_of_fills (h : shape.Fills l start members final) (hkeys : members.keys.Nodup)
    (hrequired : ∀ field ∈ shape.fields, field.required = true → field.name ∈ members.keys) :
    ReadsIn l (shape.read start) (.obj members) final := by
  refine readsIn (h.passes hkeys (List.disjoint_nil_right _)) fun field hfield hneeded => ?_
  rw [List.append_nil, List.mem_reverse]
  exact hrequired field hfield hneeded

end Fills

/-! ## Members in any order -/

/-- The members whose names are those of fields. -/
def known (shape : Shape σ) (members : Members) : Members :=
  members.filter fun member => (shape.field? member.1).isSome

/-- Given the record in which only some fields are set, members lead from one such record to
another: each known one has to set its field, and no field twice. -/
theorem passes_partly (partly : List String → σ)
    (hset : ∀ key value, (key, value) ∈ shape.known members → ∀ field,
      shape.field? key = some field → ∀ seen, key ∉ seen →
        ReadsIn l (field.read (partly seen)) value (partly (key :: seen)))
    (hkeys : (shape.known members).keys.Nodup) (seen : List String)
    (hseen : (shape.known members).keys.Disjoint seen) :
    Passes (shape.Takes l) (partly seen, seen) members
      (partly ((shape.known members).keys.reverse ++ seen),
        (shape.known members).keys.reverse ++ seen) := by
  -- The record is always the one with just the fields that have been seen; an unknown member
  -- changes neither.
  induction members generalizing seen with
  | nil => exact .nil _
  | cons member rest ih =>
    obtain ⟨key, value⟩ := member
    cases hfield : shape.field? key with
    | none =>
      have hknown : shape.known ((key, value) :: rest) = shape.known rest :=
        List.filter_cons_of_neg (by simp [hfield])
      rw [hknown] at hset hkeys hseen ⊢
      exact .cons (.unknown value hfield) (ih hset hkeys seen hseen)
    | some field =>
      have hknown : shape.known ((key, value) :: rest) = (key, value) :: shape.known rest :=
        List.filter_cons_of_pos (by simp [hfield])
      rw [hknown] at hset hkeys hseen ⊢
      obtain ⟨hkey, hkeys⟩ := List.nodup_cons.1 hkeys
      obtain ⟨hunseen, hseen⟩ := List.disjoint_cons_left.1 hseen
      have hread := hset key value List.mem_cons_self field hfield seen hunseen
      have hrest := ih (fun key value hmem => hset key value (List.mem_cons_of_mem _ hmem)) hkeys
        (key :: seen) (List.disjoint_cons_right.2 ⟨hkey, hseen⟩)
      rw [Members.keys_cons, List.reverse_cons, List.append_assoc, List.singleton_append]
      exact .cons (.field hfield hunseen hread) hrest

end Shape

/-! ## Whole texts -/

/-- A text that holds a value and nothing but spacing after it. -/
theorem run_textAt {reader : Reader α} {value : Json} {a : α} (h : ReadsIn l reader value a)
    (level : Nat) {gap : List Char} (hgap : IsGap gap) {whole : String}
    (hwhole : whole.toList = l.textAt level value ++ gap) : run reader whole = .ok a := by
  have hvalue : reader whole.toList = .ok (a, gap) := by
    rw [hwhole]
    refine h level [] gap isGap_nil fun c hc => .inl (hgap c ?_)
    exact List.mem_of_mem_head? hc
  unfold run
  dsimp only
  rw [bind_apply hvalue, bind_apply (next?_end hgap)]
  rfl

/-- A value in either form. -/
theorem run_written {reader : Reader α} {value : Json} {a : α}
    (h : ∀ l, ReadsIn l reader value a) {text : String} (htext : value.Written text) :
    run reader text = .ok a := by
  obtain ⟨l, gap, hgap, hwhole⟩ := htext.exists_layout
  exact run_textAt (h l) 0 hgap hwhole

/-- The compact form of a value. -/
theorem run_compact {reader : Reader α} {value : Json} {a : α}
    (h : ReadsIn .compact reader value a) : run reader value.compact = .ok a := by
  refine run_textAt h 0 isGap_nil ?_
  rw [Layout.textAt_compact, List.append_nil]

theorem isGap_lineEnd : IsGap ['\n'] :=
  List.forall_mem_singleton.2 rfl

/-- The pretty form of a value on lines of its own. -/
theorem run_pretty {reader : Reader α} {value : Json} {a : α}
    (h : ReadsIn .pretty reader value a) : run reader (value.pretty ++ "\n") = .ok a := by
  refine run_textAt h 0 isGap_lineEnd ?_
  rw [Layout.textAt_pretty, String.toList_append]
  rfl

end ClauseFilter.Json.Reader
