import ClauseFilter.Proofs.Layouts

/-!
# Reading parts in brackets

An array is read item by item and an object member by member, for use as well as to be skipped. Both
are loops that first find out whether there is a part (`IsLoop`, `FindsParts`). When each part takes
the loop from one state to the next (`Passes`), the text in brackets takes it from the first state
to the last (`loop_enclosed`), and so does an array (`items_textAt`) or an object
(`members_textAt`).
-/

namespace ClauseFilter.Json.Reader

variable {α σ : Type}

/-! ## Parts one after the other -/

/-- Whether parts lead from one state to another, each of them by a step. -/
inductive Passes (step : σ → α → σ → Prop) : σ → List α → σ → Prop where
  | nil (state : σ) : Passes step state [] state
  | cons {state state' final : σ} {part : α} {parts : List α} (h : step state part state')
      (hrest : Passes step state' parts final) : Passes step state (part :: parts) final

theorem Passes.of_forall {step : σ → α → σ → Prop} {state : σ} {parts : List α}
    (h : ∀ part ∈ parts, step state part state) : Passes step state parts state := by
  induction parts with
  | nil => exact .nil state
  | cons part rest ih =>
    obtain ⟨hpart, hrest⟩ := List.forall_mem_cons.1 h
    exact .cons hpart (ih hrest)

theorem Passes.imp {step step' : σ → α → σ → Prop} {state final : σ} {parts : List α}
    (h : Passes step state parts final)
    (himp : ∀ {state part state'}, step state part state' → step' state part state') :
    Passes step' state parts final := by
  induction h with
  | nil state => exact .nil state
  | cons h hrest ih => exact .cons (himp h) ih

/-- Whether a reader reads a text as a value where it stands, whatever may come after it. -/
def ReadsHere (reader : Reader α) (text : List Char) (a : α) : Prop :=
  ∀ rest, Delimits rest → reader (text ++ rest) = .ok (a, rest)

theorem Reads.readsHere {reader : Reader α} {text : List Char} {a : α} (h : Reads reader text a) :
    ReadsHere reader text a :=
  fun rest hrest => h [] rest isGap_nil hrest

/-! ## What comes after a part -/

theorem delimits_gap {gap : List Char} (hgap : IsGap gap) {c : Char} (hc : c ∈ [',', ']', '}'])
    (rest : List Char) : Delimits (gap ++ c :: rest) := by
  intro first hfirst
  cases gap with
  | nil =>
    obtain rfl : c = first := Option.some.inj hfirst
    exact .inr (by simpa using hc)
  | cons space more =>
    obtain rfl : space = first := Option.some.inj hfirst
    exact .inl (hgap space List.mem_cons_self)

theorem delimits_further (inner : List Char) (text : α → List Char) (parts : List α)
    {outer : List Char} (houter : IsGap outer) {closing : Char} (hclosing : closing ∈ [']', '}'])
    (rest : List Char) :
    Delimits (Layout.further inner text parts ++ (outer ++ closing :: rest)) := by
  cases parts with
  | nil => exact delimits_gap houter (List.mem_cons_of_mem _ hclosing) rest
  | cons part parts => exact delimits_gap isGap_nil List.mem_cons_self _

theorem further_cons (gap : List Char) (text : α → List Char) (part : α) (parts : List α) :
    Layout.further gap text (part :: parts) =
      ',' :: (gap ++ (text part ++ Layout.further gap text parts)) := by
  rw [Layout.further, List.flatMap_cons, List.cons_append, List.append_assoc]
  rfl

theorem length_le_further (gap : List Char) (text : α → List Char) (parts : List α) :
    parts.length ≤ (Layout.further gap text parts).length := by
  induction parts with
  | nil => exact Nat.le_refl 0
  | cons part parts ih =>
    simp only [Layout.further, List.flatMap_cons, List.length_append, List.length_cons] at ih ⊢
    omega

/-! ## The loop over the parts -/

section Loops

variable {next : Bool → Reader Bool} {part : σ → Reader σ} {loop : Nat → Bool → σ → Reader σ}
  {gap left outer : List Char} {closing : Char} {text : α → List Char}

/-- Whether a reader goes on with a part as long as there is one, and else takes the closing
bracket. -/
def IsLoop (next : Bool → Reader Bool) (part : σ → Reader σ) (loop : Nat → Bool → σ → Reader σ) :
    Prop :=
  ∀ n first acc, loop (n + 1) first acc = do
    if ← next first then
      loop n false (← part acc)
    else
      advance
      pure acc

/-- Whether it is found out from a text if there is a part or the closing bracket. Before a part
that is not the first one some spacing may stay in the text. -/
structure FindsParts (next : Bool → Reader Bool) (gap left : List Char) (closing : Char)
    (text : α → List Char) : Prop where
  first (part : α) (rest : List Char) :
    next true (gap ++ (text part ++ rest)) = .ok (true, text part ++ rest)
  further (part : α) (rest : List Char) :
    next false (',' :: (gap ++ (text part ++ rest))) = .ok (true, left ++ (text part ++ rest))
  closing {gap : List Char} (hgap : IsGap gap) (first : Bool) (rest : List Char) :
    next first (gap ++ closing :: rest) = .ok (false, closing :: rest)

/-- Whether a reader takes a text from one state to another, also after the spacing that may stay
before it. -/
def ReadsAfter (left : List Char) (part : σ → Reader σ) (text : α → List Char) (state : σ) (a : α)
    (state' : σ) : Prop :=
  ReadsHere (part state) (text a) state' ∧ ReadsHere (part state) (left ++ text a) state'

theorem Reads.readsAfter (hleft : IsGap left) {state state' : σ} {a : α}
    (h : Reads (part state) (text a) state') : ReadsAfter left part text state a state' := by
  refine ⟨h.readsHere, fun rest hrest => ?_⟩
  rw [List.append_assoc]
  exact h left rest hleft hrest

theorem ReadsHere.readsAfter_nil {state state' : σ} {a : α}
    (h : ReadsHere (part state) (text a) state') : ReadsAfter [] part text state a state' :=
  ⟨h, h⟩

theorem IsLoop.step (hloop : IsLoop next part loop) {first : Bool} {acc acc' : σ}
    {chars chars' rest : List Char} (hnext : next first chars = .ok (true, chars'))
    (hpart : part acc chars' = .ok (acc', rest)) (n : Nat) :
    loop (n + 1) first acc chars = loop n false acc' rest := by
  rw [hloop, bind_apply hnext, if_pos rfl, bind_apply hpart]

theorem IsLoop.finish (hloop : IsLoop next part loop) {first : Bool} {c : Char}
    {chars rest : List Char} (hnext : next first chars = .ok (false, c :: rest)) (acc : σ)
    (n : Nat) :
    loop (n + 1) first acc chars = .ok (acc, rest) := by
  rw [hloop, bind_apply hnext]
  rfl

/-- The loop from the comma after a part on. -/
theorem IsLoop.further (hloop : IsLoop next part loop)
    (hfinds : FindsParts next gap left closing text) (hclosing : closing ∈ [']', '}'])
    (houter : IsGap outer) {state final : σ} {parts : List α}
    (h : Passes (ReadsAfter left part text) state parts final) {n : Nat} (hn : parts.length < n)
    (rest : List Char) :
    loop n false state (Layout.further gap text parts ++ (outer ++ closing :: rest)) =
      .ok (final, rest) := by
  -- The induction is on the parts that are read; each of them takes one from the bound.
  induction h generalizing n with
  | nil state =>
    obtain ⟨n, rfl⟩ := Nat.exists_eq_add_one_of_ne_zero (Nat.ne_of_gt hn)
    exact hloop.finish (hfinds.closing houter false rest) state n
  | @cons state mid final a parts hread hrest ih =>
    obtain ⟨n, rfl⟩ := Nat.exists_eq_add_one_of_ne_zero (Nat.ne_of_gt (Nat.zero_lt_of_lt hn))
    have hafter := delimits_further gap text parts houter hclosing rest
    have hpart := hread.2 _ hafter
    rw [List.append_assoc] at hpart
    rw [further_cons, List.cons_append, List.append_assoc, List.append_assoc,
      hloop.step (hfinds.further a _) hpart, ih (Nat.lt_of_succ_lt_succ hn)]

/-- The loop from the opening bracket on, with a bound that the text gives. -/
theorem loop_enclosed (hloop : IsLoop next part loop)
    (hfinds : FindsParts next gap left closing text) (hclosing : closing ∈ [']', '}'])
    (houter : IsGap outer) {start final : σ} {parts : List α}
    (h : Passes (ReadsAfter left part text) start parts final) (opening : Char)
    {chars : List Char} (rest : List Char)
    (hchars : chars = Layout.enclosed opening closing gap outer text parts ++ rest) :
    loop (chars.tail.length + 1) true start chars.tail = .ok (final, rest) := by
  subst hchars
  cases h with
  | nil => exact hloop.finish (hfinds.closing isGap_nil true rest) start _
  | @cons _ mid _ a parts hread hrest =>
    have hafter := delimits_further gap text parts houter hclosing rest
    have hlength := length_le_further gap text parts
    rw [Layout.enclosed, List.cons_append, List.tail_cons, List.append_assoc, List.append_assoc,
      List.append_assoc, List.append_assoc, List.singleton_append,
      hloop.step (hfinds.first a _) (hread.1 _ hafter),
      hloop.further hfinds hclosing houter hrest]
    simp only [List.length_append, List.length_cons]
    omega

end Loops

/-! ## Arrays -/

section Items

variable (l : Layout) {purpose : Purpose} {gap : List Char}

/-- The spacing that stays before an item. -/
def leftBefore (gap : List Char) : Purpose → List Char
  | .use => []
  | .skip => gap

theorem isGap_leftBefore (hgap : IsGap gap) : IsGap (leftBefore gap purpose) := by
  cases purpose with
  | use => exact isGap_nil
  | skip => exact hgap

theorem ne_closing {c : Char} (hc : startsValue c = true) : some c ≠ some ']' := by
  rintro ⟨⟩
  contradiction

theorem nextItem_first (purpose : Purpose) (hgap : IsGap gap) {c : Char}
    (hc : startsValue c = true) (rest : List Char) :
    nextItem purpose true (gap ++ c :: rest) = .ok (true, c :: rest) := by
  have hclosing := ne_closing hc
  unfold nextItem
  rw [bind_apply (next?_gap hgap (not_isSpacing hc) _)]
  generalize hnext : some c = next at hclosing
  split
  · contradiction
  · contradiction
  · rfl

theorem nextItem_further (purpose : Purpose) (hgap : IsGap gap) {c : Char}
    (hc : startsValue c = true) (rest : List Char) :
    nextItem purpose false (',' :: (gap ++ c :: rest)) =
      .ok (true, leftBefore gap purpose ++ c :: rest) := by
  have hclosing := ne_closing hc
  unfold nextItem
  rw [bind_apply (next?_cons (by decide) _)]
  cases purpose with
  | skip => rfl
  | use =>
    show (advance >>= fun _ => _) _ = _
    rw [bind_apply (advance_cons _ _)]
    show (next? >>= _) _ = _
    rw [bind_apply (next?_gap hgap (not_isSpacing hc) _)]
    generalize hnext : some c = next at hclosing
    split
    · contradiction
    · contradiction
    · rfl

theorem nextItem_closing (purpose : Purpose) (hgap : IsGap gap) (first : Bool) (rest : List Char) :
    nextItem purpose first (gap ++ ']' :: rest) = .ok (false, ']' :: rest) := by
  unfold nextItem
  rw [bind_apply (next?_gap hgap (by decide) _)]
  rfl

theorem findsParts_items (purpose : Purpose) (hgap : IsGap gap) (level : Nat) :
    FindsParts (nextItem purpose) gap (leftBefore gap purpose) ']' (l.textAt level) where
  first value rest := by
    obtain ⟨c, more, htext, hc, -⟩ := l.textAt_eq_cons level value
    rw [htext]
    exact nextItem_first purpose hgap hc _
  further value rest := by
    obtain ⟨c, more, htext, hc, -⟩ := l.textAt_eq_cons level value
    rw [htext]
    exact nextItem_further purpose hgap hc _
  closing hgap first rest := nextItem_closing purpose hgap first rest

theorem isLoop_itemsWithin (purpose : Purpose) (item : σ → Reader σ) :
    IsLoop (nextItem purpose) item (itemsWithin purpose item) := fun _ _ _ => rfl

/-- An array is read by way of its items. -/
theorem items_textAt (purpose : Purpose) {item : σ → Reader σ} {level : Nat} {start final : σ}
    {values : List Json}
    (h : Passes (fun acc value acc' => Reads (item acc) (l.textAt (level + 1) value) acc') start
      values final) (rest : List Char) :
    items purpose item start (l.textAt level (.arr values) ++ rest) = .ok (final, rest) := by
  have hgap := l.isGap_newLine (level + 1)
  have hleft : IsGap (leftBefore (l.newLine (level + 1)) purpose) := isGap_leftBefore hgap
  have hpasses := h.imp fun hread => hread.readsAfter hleft
  rw [l.textAt_arr]
  exact loop_enclosed (isLoop_itemsWithin purpose item)
    (findsParts_items l purpose hgap (level + 1)) List.mem_cons_self (l.isGap_newLine level)
    hpasses '[' rest rfl

end Items

/-! ## Objects -/

section Members

variable (l : Layout) {purpose : Purpose} {gap : List Char}

theorem nextMember_first (purpose : Purpose) (hgap : IsGap gap) (rest : List Char) :
    nextMember purpose true (gap ++ '"' :: rest) = .ok (true, '"' :: rest) := by
  unfold nextMember
  rw [bind_apply (next?_gap hgap (by decide) _)]
  rfl

theorem nextMember_further (purpose : Purpose) (hgap : IsGap gap) (rest : List Char) :
    nextMember purpose false (',' :: (gap ++ '"' :: rest)) = .ok (true, '"' :: rest) := by
  unfold nextMember
  rw [bind_apply (next?_cons (by decide) _)]
  show (advance >>= fun _ => _) _ = _
  rw [bind_apply (advance_cons _ _), bind_apply (next?_gap hgap (by decide) _)]
  rfl

theorem nextMember_closing (purpose : Purpose) (hgap : IsGap gap) (first : Bool)
    (rest : List Char) :
    nextMember purpose first (gap ++ '}' :: rest) = .ok (false, '}' :: rest) := by
  unfold nextMember
  rw [bind_apply (next?_gap hgap (by decide) _)]
  rfl

theorem memberAt_eq_cons (level : Nat) (member : String × Json) :
    ∃ rest, l.memberAt level member = '"' :: rest := by
  obtain ⟨key, value⟩ := member
  rw [Layout.memberAt, quoted_toList]
  exact ⟨_, rfl⟩

theorem findsParts_members (purpose : Purpose) (hgap : IsGap gap) (level : Nat) :
    FindsParts (nextMember purpose) gap [] '}' (l.memberAt level) where
  first member rest := by
    obtain ⟨more, htext⟩ := memberAt_eq_cons l level member
    rw [htext]
    exact nextMember_first purpose hgap _
  further member rest := by
    obtain ⟨more, htext⟩ := memberAt_eq_cons l level member
    rw [htext]
    exact nextMember_further purpose hgap _
  closing hgap first rest := nextMember_closing purpose hgap first rest

theorem isLoop_membersWithin (purpose : Purpose) (member : σ → Reader σ) :
    IsLoop (nextMember purpose) member (membersWithin purpose member) := fun _ _ _ => rfl

/-- An object is read by way of its members. -/
theorem members_textAt (purpose : Purpose) {member : σ → Reader σ} {level : Nat} {start final : σ}
    {parts : Members}
    (h : Passes (fun acc part acc' => ReadsHere (member acc) (l.memberAt (level + 1) part) acc')
      start parts final) (rest : List Char) :
    members purpose member start (l.textAt level (.obj parts) ++ rest) = .ok (final, rest) := by
  have hgap := l.isGap_newLine (level + 1)
  have hpasses := h.imp fun hread => hread.readsAfter_nil
  rw [l.textAt_obj]
  exact loop_enclosed (isLoop_membersWithin purpose member)
    (findsParts_members l purpose hgap (level + 1)) (by decide) (l.isGap_newLine level) hpasses '{'
    rest rfl

theorem colon_apply (rest : List Char) : colon (':' :: rest) = .ok ((), rest) := by
  unfold colon
  rw [bind_apply (next?_cons (by decide) rest)]
  rfl

end Members

end ClauseFilter.Json.Reader
