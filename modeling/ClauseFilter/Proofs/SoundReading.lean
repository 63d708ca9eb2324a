import ClauseFilter.Proofs.RecordReading

/-!
# What has been read

A typed reader on the text of a value stops, or takes just this text (`KeepsTo`). So an object is
taken member by member whatever its members are, and when a record has been read from one, no field
has come twice, no required field is missing, and every field has had a value that it admits
(`Shape.keepsTo_read`).
-/

namespace ClauseFilter.Json.Reader

variable {α β σ : Type} {l : Layout}

/-! ## Readings that stop or leave a rest -/

section Leaves

variable {P : α → Prop} {Q : β → Prop} {text mid rest : List Char}

/-- Whether a reading stops, or leaves a rest and gives a result with a property. -/
def Leaves (rest : List Char) (P : α → Prop) (reading : Except Stop (α × List Char)) : Prop :=
  ∀ a rest', reading = .ok (a, rest') → rest' = rest ∧ P a

theorem leaves_ok {a : α} (h : P a) : Leaves rest P (.ok (a, rest)) := by
  rintro _ _ ⟨⟩
  exact ⟨rfl, h⟩

theorem leaves_error (e : Stop) : Leaves rest P (.error e) :=
  nofun

theorem Leaves.bind {x : Reader α} {f : α → Reader β} (hx : Leaves mid P (x text))
    (hf : ∀ a, P a → Leaves rest Q (f a mid)) : Leaves rest Q ((x >>= f) text) := by
  intro b rest' hread
  obtain ⟨⟨a, mid'⟩, ha, hb⟩ := ok_of_bind hread
  obtain ⟨rfl, hP⟩ := hx a mid' ha
  exact hf a hP b rest' hb

theorem Leaves.imp {P' : α → Prop} {reading : Except Stop (α × List Char)}
    (h : Leaves rest P reading) (himp : ∀ a, P a → P' a) : Leaves rest P' reading := by
  intro a rest' hread
  obtain ⟨hrest, ha⟩ := h a rest' hread
  exact ⟨hrest, himp a ha⟩

/-- Whether a reader stops on every text. -/
def Stops (reader : Reader α) : Prop :=
  ∀ text, ∃ e, reader text = .error e

theorem Stops.leaves {reader : Reader α} (h : Stops reader) : Leaves rest P (reader text) := by
  obtain ⟨e, he⟩ := h text
  rw [he]
  exact leaves_error e

theorem stops_stop (cause : Cause) : Stops (stop cause : Reader α) :=
  fun _ => ⟨_, rfl⟩

theorem stops_stopAtNext (cause : Cause) : Stops (stopAtNext cause : Reader α) :=
  fun _ => ⟨_, rfl⟩

theorem stops_bind {x : Reader α} {f : α → Reader β} (h : ∀ a, Stops (f a)) : Stops (x >>= f) := by
  intro text
  show ∃ e, (x text >>= fun p => f p.1 p.2) = .error e
  cases x text with
  | error e => exact ⟨e, rfl⟩
  | ok p => exact h p.1 p.2

theorem stops_unexpected (expected : String) : Stops (unexpected expected : Reader α) := by
  refine stops_bind fun next => ?_
  split
  · exact stops_stop _
  iterate 4 exact stops_bind fun _ => stops_stop _
  iterate 2 exact stops_stop _
  · split
    · exact stops_bind fun _ => stops_stop _
    · exact stops_stopAtNext _

end Leaves

/-! ## Single values -/

/-- Whether the text of a value may start with a character. -/
def Opens (c : Char) : Json → Prop
  | .null => c = 'n'
  | .bool _ => c = 't' ∨ c = 'f'
  | .num _ => c = '-' ∨ c.isDigit = true
  | .str _ => c = '"'
  | .arr _ => c = '['
  | .obj _ => c = '{'

theorem textAt_opens (l : Layout) (level : Nat) (value : Json) :
    ∃ c more, l.textAt level value = c :: more ∧ Opens c value := by
  cases value with
  | null => exact ⟨'n', _, rfl, rfl⟩
  | bool b =>
    cases b with
    | true => exact ⟨'t', _, rfl, .inl rfl⟩
    | false => exact ⟨'f', _, rfl, .inr rfl⟩
  | num n =>
    obtain ⟨m, hm, htext⟩ := n.exists_written
    obtain ⟨c, more, hwritten, hc⟩ := Numeral.written_eq_cons hm
    exact ⟨c, more, by rw [Layout.textAt, htext, hwritten], hc⟩
  | str s => exact ⟨'"', _, quoted_toList s, rfl⟩
  | arr items =>
    obtain ⟨more, htext⟩ := l.textAt_arr_eq_cons level items
    exact ⟨'[', more, htext, rfl⟩
  | obj members =>
    obtain ⟨more, htext⟩ := l.textAt_obj_eq_cons level members
    exact ⟨'{', more, htext, rfl⟩

theorem Opens.not_isSpacing {c : Char} {value : Json} (h : Opens c value) :
    isSpacing c = false := by
  refine Reader.not_isSpacing ?_
  cases value with
  | bool b => rcases h with rfl | rfl <;> decide
  | num n => exact startsValue_of_numeral h
  | _ =>
    obtain rfl := h
    decide

/-- Whether a reader, wherever it meets the text of a value, stops or takes just this text and gives
a result with a property. -/
def KeepsTo (l : Layout) (reader : Reader α) (value : Json) (P : α → Prop) : Prop :=
  ∀ level gap rest, IsGap gap → Delimits rest →
    Leaves rest P (reader (gap ++ (l.textAt level value ++ rest)))

section Values

variable {P : α → Prop} {value : Json}

theorem KeepsTo.imp {P' : α → Prop} {reader : Reader α} (h : KeepsTo l reader value P)
    (himp : ∀ a, P a → P' a) : KeepsTo l reader value P' :=
  fun level gap rest hgap hrest => (h level gap rest hgap hrest).imp himp

theorem KeepsTo.map {P' : β → Prop} {reader : Reader α} (h : KeepsTo l reader value P) (f : α → β)
    (hf : ∀ a, P a → P' (f a)) : KeepsTo l (do return f (← reader)) value P' :=
  fun level gap rest hgap hrest =>
    (h level gap rest hgap hrest).bind fun a ha => leaves_ok (hf a ha)

/-- A reader that looks at the character after the spacing looks at the start of the value. -/
theorem keepsTo_of_next {f : Option Char → Reader α}
    (h : ∀ level c more, l.textAt level value = c :: more → Opens c value → ∀ rest, Delimits rest →
      Leaves rest P (f (some c) (l.textAt level value ++ rest))) :
    KeepsTo l (next? >>= f) value P := by
  intro level gap rest hgap hrest
  obtain ⟨c, more, htext, hc⟩ := textAt_opens l level value
  have hvalue := h level c more htext hc rest hrest
  rw [htext, List.cons_append] at hvalue ⊢
  rw [bind_apply (next?_gap hgap hc.not_isSpacing _)]
  exact hvalue

theorem keepsTo_text (expected : String) (value : Json) :
    KeepsTo l (text expected) value fun _ => True := by
  refine keepsTo_of_next fun level c more htext hc rest hrest => ?_
  cases value with
  | str s =>
    obtain rfl := hc
    rw [Layout.textAt]
    show Leaves rest _ (string _)
    rw [string_quoted]
    exact leaves_ok trivial
  | _ =>
    generalize hnext : some c = next
    split
    · obtain rfl := Option.some.inj hnext
      simp [Opens] at hc
    · exact (stops_unexpected expected).leaves

theorem leaves_number (n : Number) {rest : List Char} (hrest : Delimits rest) :
    Leaves rest (fun _ => True) (number (n.text.toList ++ rest)) := by
  obtain ⟨m, hm, htext⟩ := n.exists_written
  rw [htext]
  unfold number
  rw [bind_apply (numeral_written .use hm hrest)]
  cases m.value? with
  | some x => exact leaves_ok trivial
  | none => exact leaves_error _

theorem keepsTo_natural (bound : Nat) (expected : String) (value : Json) :
    KeepsTo l (natural bound expected) value fun _ => True := by
  refine keepsTo_of_next fun level c more htext hc rest hrest => ?_
  dsimp only
  by_cases hnumeric : (decide (c = '-') || c.isDigit) = true
  · rw [if_pos hnumeric]
    cases value with
    | num n =>
      rw [Layout.textAt]
      refine (leaves_number n hrest).bind fun x _ => ?_
      cases x with
      | int i inRange =>
        dsimp only
        split
        · exact leaves_ok trivial
        · exact leaves_error _
      | float x => exact leaves_error _
    | bool b => rcases hc with rfl | rfl <;> contradiction
    | _ =>
      obtain rfl := hc
      contradiction
  · rw [if_neg hnumeric]
    exact (stops_unexpected expected).leaves

theorem KeepsTo.optional {reader : Reader α} (h : KeepsTo l reader value P) :
    KeepsTo l (optional reader) value fun _ => True := by
  refine keepsTo_of_next fun level c more htext hc rest hrest => ?_
  have hread := h level [] rest isGap_nil hrest
  rw [List.nil_append] at hread
  cases value with
  | null =>
    obtain rfl := hc
    show Leaves rest _ ((word "null".toList >>= fun _ => pure none) _)
    rw [Layout.textAt, bind_apply (word_append "null".toList rest)]
    exact leaves_ok trivial
  | _ =>
    generalize hnext : some c = next
    split
    · obtain rfl := Option.some.inj hnext
      simp [Opens] at hc
    · exact hread.bind fun a _ => leaves_ok trivial

end Values

/-! ## Members of objects -/

section Loops

variable {next : Bool → Reader Bool} {part : σ → Reader σ} {loop : Nat → Bool → σ → Reader σ}
  {gap outer : List Char} {closing : Char} {text : α → List Char} {step : σ → α → σ → Prop}
  {parts : List α}

/-- The loop from the comma after a part on. -/
theorem IsLoop.further_leaves (hloop : IsLoop next part loop)
    (hfinds : FindsParts next gap [] closing text) (hclosing : closing ∈ [']', '}'])
    (houter : IsGap outer)
    (hpart : ∀ a ∈ parts, ∀ state rest, Delimits rest →
      Leaves rest (step state a) (part state (text a ++ rest)))
    {n : Nat} (hn : parts.length < n) (state : σ) (rest : List Char) :
    Leaves rest (Passes step state parts)
      (loop n false state (Layout.further gap text parts ++ (outer ++ closing :: rest))) := by
  induction parts generalizing n state with
  | nil =>
    obtain ⟨n, rfl⟩ := Nat.exists_eq_add_one_of_ne_zero (Nat.ne_of_gt hn)
    have hfinish := hloop.finish (hfinds.closing houter false rest) state n
    rw [Layout.further, List.flatMap_nil, List.nil_append, hfinish]
    exact leaves_ok (.nil state)
  | cons a parts ih =>
    obtain ⟨n, rfl⟩ := Nat.exists_eq_add_one_of_ne_zero (Nat.ne_of_gt (Nat.zero_lt_of_lt hn))
    obtain ⟨ha, hparts⟩ := List.forall_mem_cons.1 hpart
    have hafter := delimits_further gap text parts houter hclosing rest
    rw [further_cons, List.cons_append, List.append_assoc, List.append_assoc, hloop,
      bind_apply (hfinds.further a _), if_pos rfl, List.nil_append]
    refine (ha state _ hafter).bind fun mid hmid => ?_
    exact (ih hparts (Nat.lt_of_succ_lt_succ hn) mid).imp fun final hpasses => .cons hmid hpasses

/-- The loop from the opening bracket on. -/
theorem leaves_enclosed (hloop : IsLoop next part loop)
    (hfinds : FindsParts next gap [] closing text) (hclosing : closing ∈ [']', '}'])
    (houter : IsGap outer)
    (hpart : ∀ a ∈ parts, ∀ state rest, Delimits rest →
      Leaves rest (step state a) (part state (text a ++ rest)))
    (opening : Char) (start : σ) {chars : List Char} (rest : List Char)
    (hchars : chars = Layout.enclosed opening closing gap outer text parts ++ rest) :
    Leaves rest (Passes step start parts)
      (loop (chars.tail.length + 1) true start chars.tail) := by
  subst hchars
  cases parts with
  | nil =>
    have hfinish := hloop.finish (hfinds.closing isGap_nil true rest) start
    show Leaves rest _ (loop _ true start (closing :: rest))
    rw [List.nil_append] at hfinish
    rw [hfinish]
    exact leaves_ok (.nil start)
  | cons a parts =>
    obtain ⟨ha, hparts⟩ := List.forall_mem_cons.1 hpart
    have hafter := delimits_further gap text parts houter hclosing rest
    have hlength := length_le_further gap text parts
    rw [Layout.enclosed, List.cons_append, List.tail_cons, List.append_assoc, List.append_assoc,
      List.append_assoc, List.append_assoc, List.singleton_append, hloop,
      bind_apply (hfinds.first a _), if_pos rfl]
    refine (ha start _ hafter).bind fun mid hmid => ?_
    refine (hloop.further_leaves hfinds hclosing houter hparts ?_ mid rest).imp
      fun final hpasses => .cons hmid hpasses
    simp only [List.length_append, List.length_cons]
    omega

end Loops

/-- An object is taken member by member. -/
theorem members_leaves (l : Layout) {member : σ → Reader σ} {step : σ → String × Json → σ → Prop}
    {level : Nat} {parts : Members}
    (hmember : ∀ part ∈ parts, ∀ state rest, Delimits rest →
      Leaves rest (step state part) (member state (l.memberAt (level + 1) part ++ rest)))
    (start : σ) (rest : List Char) :
    Leaves rest (Passes step start parts)
      (members .use member start (l.textAt level (.obj parts) ++ rest)) := by
  rw [l.textAt_obj]
  exact leaves_enclosed (isLoop_membersWithin .use member)
    (findsParts_members l .use (l.isGap_newLine (level + 1)) (level + 1)) (by decide)
    (l.isGap_newLine level) hmember '{' start rest rfl

/-! ## Records -/

namespace Shape

variable {shape : Shape σ} {admits : String → Json → Prop}

theorem mem_of_field? {key : String} {field : Field σ} (h : shape.field? key = some field) :
    field ∈ shape.fields ∧ field.name = key :=
  ⟨List.mem_of_find?_eq_some h, by simpa using List.find?_some h⟩

/-- Whether every field keeps to its value and reads only values that are admitted for its name. -/
def Admits (l : Layout) (shape : Shape σ) (admits : String → Json → Prop) : Prop :=
  ∀ field ∈ shape.fields, ∀ record value,
    KeepsTo l (field.read record) value fun _ => admits field.name value

/-- How a member that has been read is one of a record: it is a field that has not come before, with
a value that is admitted, or it is unknown. -/
inductive Admitted (shape : Shape σ) (admits : String → Json → Prop) :
    σ × List String → String × Json → σ × List String → Prop where
  | field {record record' : σ} {seen : List String} {key : String} {value : Json} {field : Field σ}
      (hfield : shape.field? key = some field) (hseen : key ∉ seen) (hvalue : admits key value) :
      Admitted shape admits (record, seen) (key, value) (record', key :: seen)
  | unknown {state : σ × List String} {key : String} (value : Json)
      (hfield : shape.field? key = none) : Admitted shape admits state (key, value) state

theorem Admits.member_leaves (h : shape.Admits l admits) (level : Nat) (member : String × Json)
    (state : σ × List String) {rest : List Char} (hrest : Delimits rest) :
    Leaves rest (shape.Admitted admits state member)
      (shape.member state (l.memberAt level member ++ rest)) := by
  obtain ⟨key, value⟩ := member
  obtain ⟨record, seen⟩ := state
  unfold Shape.member
  rw [l.memberAt_append, bind_apply (string_quoted key _)]
  cases hfield : shape.fields.find? fun field => field.name == key with
  | none =>
    have hskip := reads_skip l level value l.afterColon rest l.isGap_afterColon hrest
    dsimp only
    rw [bind_apply (colon_apply _), bind_apply hskip]
    exact leaves_ok (.unknown value hfield)
  | some field =>
    obtain ⟨hmem, rfl⟩ := mem_of_field? hfield
    have hvalue := h field hmem record value level l.afterColon rest l.isGap_afterColon hrest
    dsimp only
    by_cases hseen : seen.contains field.name = true
    · rw [if_pos hseen]
      exact leaves_error _
    · rw [if_neg hseen, bind_apply (colon_apply _)]
      refine hvalue.bind fun record' hadmitted => leaves_ok ?_
      exact .field hfield (by simpa using hseen) hadmitted

/-- Whether the members of an object are those of a record: no field comes twice, each has a value
that is admitted, and no required one is missing. -/
structure Fits (shape : Shape σ) (admits : String → Json → Prop) (members : Members) : Prop where
  nodup : (shape.known members).keys.Nodup
  admitted (key : String) (value : Json) : (key, value) ∈ shape.known members → admits key value
  required : ∀ field ∈ shape.fields, field.required = true → field.name ∈ members.keys

theorem passes_admitted {state final : σ × List String} {members : Members}
    (h : Passes (shape.Admitted admits) state members final) :
    (shape.known members).keys.Nodup ∧ (shape.known members).keys.Disjoint state.2 ∧
      (∀ key value, (key, value) ∈ shape.known members → admits key value) ∧
        final.2 = (shape.known members).keys.reverse ++ state.2 := by
  induction h with
  | nil state => exact ⟨List.nodup_nil, List.disjoint_nil_left _, nofun, rfl⟩
  | @cons state mid final part members hpart hrest ih =>
    obtain ⟨hnodup, hdisjoint, hadmitted, hfinal⟩ := ih
    cases hpart with
    | @field record record' seen key value field hfield hseen hvalue =>
      have hknown : shape.known ((key, value) :: members) = (key, value) :: shape.known members :=
        List.filter_cons_of_pos (by simp [hfield])
      obtain ⟨hkey, hdisjoint⟩ := List.disjoint_cons_right.1 hdisjoint
      rw [hknown, Members.keys_cons]
      refine ⟨List.nodup_cons.2 ⟨hkey, hnodup⟩, List.disjoint_cons_left.2 ⟨hseen, hdisjoint⟩,
        ?_, ?_⟩
      · rintro k v hmem
        obtain heq | hmem := List.mem_cons.1 hmem
        · cases heq
          exact hvalue
        · exact hadmitted k v hmem
      · rw [hfinal, List.reverse_cons, List.append_assoc, List.singleton_append]
    | @unknown state key value hfield =>
      have hknown : shape.known ((key, value) :: members) = shape.known members :=
        List.filter_cons_of_neg (by simp [hfield])
      rw [hknown]
      exact ⟨hnodup, hdisjoint, hadmitted, hfinal⟩

theorem mem_keys_of_mem_known {members : Members} {key : String}
    (h : key ∈ (shape.known members).keys) : key ∈ members.keys :=
  (List.filter_sublist.map Prod.fst).subset h

/-- What a record has been read from as an object has the members of one. -/
theorem Admits.readObject_leaves (h : shape.Admits l admits) (start : σ) (level : Nat)
    (members : Members) (rest : List Char) :
    Leaves rest (fun _ => shape.Fits admits members)
      (shape.readObject start (l.textAt level (.obj members) ++ rest)) := by
  refine (members_leaves l (fun member _ state rest hrest =>
    h.member_leaves (level + 1) member state hrest) (start, []) rest).bind ?_
  rintro ⟨record, seen⟩ hpasses
  obtain ⟨hnodup, -, hadmitted, hseen⟩ := passes_admitted hpasses
  dsimp only at hseen ⊢
  cases hmissing : shape.fields.find? fun field => field.required && !seen.contains field.name with
  | some field => exact leaves_error _
  | none =>
    refine leaves_ok ⟨hnodup, hadmitted, fun field hfield hrequired => ?_⟩
    have hmem := List.find?_eq_none.1 hmissing field hfield
    rw [hrequired, hseen] at hmem
    exact mem_keys_of_mem_known (by simpa using hmem)

/-! ## Records written as arrays -/

section Items

variable {gap outer : List Char}

theorem closeArray_bracket (hgap : IsGap gap) (rest : List Char) :
    closeArray (gap ++ ']' :: rest) = .ok ((), rest) := by
  unfold closeArray
  rw [bind_apply (next?_gap hgap (by decide) _)]
  rfl

/-- An array that goes on after the last field is not read as a record. -/
theorem closeArray_stops (hgap : IsGap gap) {c : Char} (hc : isSpacing c = false) (hne : c ≠ ']')
    (more : List Char) : ∃ e, closeArray (gap ++ c :: more) = .error e := by
  unfold closeArray
  rw [bind_apply (next?_gap hgap hc more)]
  generalize hnext : some c = next
  split
  · contradiction
  · exact absurd (Option.some.inj hnext) hne
  · refine stops_bind (fun _ => stops_bind fun _ => ?_) _
    split <;> exact stops_stopAtNext _
  · exact stops_stopAtNext _ _

theorem readItems_nil_closing (shape : Shape σ) (hgap : IsGap gap) (count : Nat) (record : σ)
    (rest : List Char) :
    shape.readItems [] count record (gap ++ ']' :: rest) = .ok (record, rest) := by
  unfold readItems
  rw [bind_apply (closeArray_bracket hgap rest)]
  rfl

theorem readItems_nil_further (hgap : IsGap gap) {c : Char} (hc : isSpacing c = false)
    (hne : c ≠ ']') (count : Nat) (record : σ) (more rest : List Char) :
    Leaves rest (fun _ => True) (shape.readItems [] count record (gap ++ c :: more)) := by
  obtain ⟨e, he⟩ := closeArray_stops hgap hc hne more
  show Leaves rest _ (closeArray _ >>= fun p => _)
  rw [he]
  exact leaves_error e

/-- After the last item of an array the fields that are left stay unset, or one of them is
missing. -/
theorem readItems_cons_closing (field : Field σ) (fields : List (Field σ)) (hgap : IsGap gap)
    (count : Nat) (record : σ) (rest : List Char) :
    Leaves rest (fun _ => True)
      (shape.readItems (field :: fields) count record (gap ++ ']' :: rest)) := by
  unfold readItems
  rw [bind_apply (nextItem_closing .use hgap _ rest), if_neg Bool.false_ne_true,
    bind_apply (advance_cons _ _)]
  generalize (field :: fields).findIdx? Field.required = missing
  cases missing with
  | none => exact leaves_ok trivial
  | some more => exact leaves_error _

/-- An item is taken by the field that is next. -/
theorem readItems_cons_item {field : Field σ} {fields : List (Field σ)} {count : Nat} {record : σ}
    {item : Json} {level : Nat} {chars after rest : List Char}
    (hfield : KeepsTo l (field.read record) item fun _ => True) (hafter : Delimits after)
    (hnext : nextItem .use (count == 0) chars = .ok (true, l.textAt level item ++ after))
    (hrest : ∀ record,
      Leaves rest (fun _ => True) (shape.readItems fields (count + 1) record after)) :
    Leaves rest (fun _ => True) (shape.readItems (field :: fields) count record chars) := by
  unfold readItems
  rw [bind_apply hnext, if_pos rfl]
  exact (hfield level [] after isGap_nil hafter).bind fun record' _ => hrest record'

variable (shape) (l : Layout) (level : Nat) (hgap : IsGap gap) (houter : IsGap outer)
  {fields : List (Field σ)}
  (hfields : ∀ field ∈ fields, ∀ record value, KeepsTo l (field.read record) value fun _ => True)

include hgap houter hfields in
/-- The items after the first are taken by the fields that are left. -/
theorem readItems_further (items : List Json) (count : Nat) (record : σ) (rest : List Char) :
    Leaves rest (fun _ => True) (shape.readItems fields (count + 1) record
      (Layout.further gap (l.textAt level) items ++ (outer ++ ']' :: rest))) := by
  have hfinds := findsParts_items l .use hgap level
  induction fields generalizing items count record with
  | nil =>
    cases items with
    | nil =>
      have hclosing := readItems_nil_closing shape houter (count + 1) record rest
      rw [Layout.further, List.flatMap_nil, List.nil_append, hclosing]
      exact leaves_ok trivial
    | cons item items =>
      rw [further_cons, List.cons_append]
      exact readItems_nil_further isGap_nil (c := ',') (by decide) (by decide) (count + 1) record _
        rest
  | cons field fields ih =>
    obtain ⟨hfield, hfields⟩ := List.forall_mem_cons.1 hfields
    cases items with
    | nil => exact readItems_cons_closing field fields houter (count + 1) record rest
    | cons item items =>
      have hafter := delimits_further gap (l.textAt level) items houter List.mem_cons_self rest
      have hnext := hfinds.further item
        (Layout.further gap (l.textAt level) items ++ (outer ++ ']' :: rest))
      rw [further_cons, List.cons_append, List.append_assoc, List.append_assoc]
      exact readItems_cons_item (hfield record item) hafter hnext
        fun record' => ih hfields items (count + 1) record'

include hgap houter hfields in
/-- The items are taken by the fields, in their order. -/
theorem readItems_enclosed (items : List Json) (start : σ) {chars : List Char} (rest : List Char)
    (hchars : chars = Layout.enclosed '[' ']' gap outer (l.textAt level) items ++ rest) :
    Leaves rest (fun _ => True) (shape.readItems fields 0 start chars.tail) := by
  subst hchars
  have hfinds := findsParts_items l .use hgap level
  cases items with
  | nil =>
    cases fields with
    | nil =>
      have hclosing := readItems_nil_closing shape isGap_nil 0 start rest
      rw [List.nil_append] at hclosing
      show Leaves rest _ (shape.readItems [] 0 start (']' :: rest))
      rw [hclosing]
      exact leaves_ok trivial
    | cons field fields => exact readItems_cons_closing field fields isGap_nil 0 start rest
  | cons item items =>
    have hafter := delimits_further gap (l.textAt level) items houter List.mem_cons_self rest
    rw [Layout.enclosed, List.cons_append, List.tail_cons, List.append_assoc, List.append_assoc,
      List.append_assoc, List.append_assoc, List.singleton_append]
    cases fields with
    | nil =>
      obtain ⟨c, more, htext, hc, -⟩ := l.textAt_eq_cons level item
      have hne : c ≠ ']' := fun heq => ne_closing hc (congrArg some heq)
      rw [htext, List.cons_append]
      exact readItems_nil_further hgap (not_isSpacing hc) hne 0 start _ rest
    | cons field fields =>
      obtain ⟨hfield, hfields⟩ := List.forall_mem_cons.1 hfields
      exact readItems_cons_item (hfield start item) hafter (hfinds.first item _)
        fun record => readItems_further shape l level hgap houter hfields items 0 record rest

end Items

/-- When a record has been read, it was from an array, or from an object with its members. -/
theorem Admits.keepsTo_read (h : shape.Admits l admits) (start : σ) (value : Json) :
    KeepsTo l (shape.read start) value fun _ =>
      value ≠ .null ∧ ∀ members, value = .obj members → shape.Fits admits members := by
  refine keepsTo_of_next fun level c more htext hc rest hrest => ?_
  cases value with
  | arr items =>
    obtain rfl := hc
    have hfields : ∀ field ∈ shape.fields, ∀ record value,
        KeepsTo l (field.read record) value fun _ => True :=
      fun field hfield record value => (h field hfield record value).imp fun _ _ => trivial
    have hitems := readItems_enclosed shape l (level + 1) (l.isGap_newLine (level + 1))
      (l.isGap_newLine level) hfields items start rest rfl
    rw [l.textAt_arr]
    exact hitems.imp fun _ _ => ⟨nofun, nofun⟩
  | obj members =>
    obtain rfl := hc
    refine (h.readObject_leaves start level members rest).imp fun _ hfits => ⟨nofun, ?_⟩
    rintro _ ⟨⟩
    exact hfits
  | _ =>
    generalize hnext : some c = next
    split
    iterate 2
      · obtain rfl := Option.some.inj hnext
        simp [Opens] at hc
    · exact (stops_unexpected shape.title).leaves

end Shape

/-! ## Whole texts -/

/-- A text in which a value is written has been read as a result with the property. -/
theorem of_run_written {reader : Reader α} {value : Json} {P : α → Prop}
    (h : ∀ l, KeepsTo l reader value P) {text : String} (htext : value.Written text) {a : α}
    (hrun : run reader text = .ok a) : P a := by
  obtain ⟨l, gap, hgap, hwhole⟩ := htext.exists_layout
  have hdelimits : Delimits gap := fun c hc => .inl (hgap c (List.mem_of_mem_head? hc))
  have hread := h l 0 [] gap isGap_nil hdelimits
  rw [List.nil_append, ← hwhole] at hread
  unfold run at hrun
  dsimp only at hrun
  split at hrun
  · next result rest hresult =>
    cases hrun
    have hend : Leaves [] P (.ok (a, rest)) := by
      rw [← hresult]
      refine hread.bind fun b hb => ?_
      rw [bind_apply (next?_end hgap)]
      exact leaves_ok hb
    exact (hend a rest rfl).2
  · contradiction

end ClauseFilter.Json.Reader
