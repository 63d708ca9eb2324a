import ClauseFilter.Proofs.Notes
import Mathlib.Data.List.Chain

/-!
# Events and notes

The events of a translation tell of a walk through the clauses of a document: no clause is deeper
than one below the clause told of before it (`DepthsNested`). A fault is told of last and once
(`FaultReported`). Without a fault the notes of the predicate tell the same as the events do: as
many clauses were cut off, and as many clauses of each kind that is always noted were reached, as
there are notes that say so (`NotesCounted`).
-/

namespace ClauseFilter

namespace Event

/-- The depth of a clause that is translated. -/
def depth? : Event → Option Nat
  | clause _ depth => some depth
  | _ => none

/-- Whether a clause of a kind, or one of no known kind, is translated. -/
def isOf (kind : Option Clause.Kind) : Event → Bool
  | clause k _ => k == kind
  | _ => false

/-- Whether a clause is cut off. -/
def isCut : Event → Bool
  | depthExceeded _ => true
  | _ => false

/-- Whether a document has no translation. -/
def isFailure : Event → Bool
  | failed _ _ => true
  | _ => false

/-- The depths of the clauses that are translated, in order. -/
def depths (events : List Event) : List Nat :=
  events.filterMap depth?

theorem depths_append (before after : List Event) :
    depths (before ++ after) = depths before ++ depths after :=
  List.filterMap_append

end Event

/-! ## The walk through a document -/

/-- Depths that come one after the other below a clause at depth `d`: each is deeper than `d`, and
none is deeper by more than one than the depth before it. -/
def WalksBelow (d maxDepth : Nat) (ks : List Nat) : Prop :=
  (d :: ks).IsChain (fun before after => after ≤ before + 1) ∧ ∀ k ∈ ks, d < k ∧ k ≤ maxDepth

namespace WalksBelow

variable {d maxDepth : Nat} {ks ls : List Nat}

theorem nil : WalksBelow d maxDepth [] :=
  ⟨.singleton d, List.forall_mem_nil _⟩

theorem append (hk : WalksBelow d maxDepth ks) (hl : WalksBelow d maxDepth ls) :
    WalksBelow d maxDepth (ks ++ ls) := by
  refine ⟨?_, by simpa only [List.forall_mem_append] using ⟨hk.2, hl.2⟩⟩
  rw [← List.cons_append]
  refine List.isChain_append.2 ⟨hk.1, (List.isChain_cons.1 hl.1).2, fun x hx y hy => ?_⟩
  -- the second walk starts right below `d`, and the first one never gets above `d`
  have hy : y ≤ d + 1 := (List.isChain_cons.1 hl.1).1 y hy
  have hx : d ≤ x := by
    obtain rfl | hmem := List.mem_cons.1 (List.mem_of_mem_getLast? hx)
    · exact le_rfl
    · exact (hk.2 x hmem).1.le
  omega

/-- A clause right below `d`, and then a walk below this clause. -/
theorem cons (hd : d + 1 ≤ maxDepth) (h : WalksBelow (d + 1) maxDepth ks) :
    WalksBelow d maxDepth ((d + 1) :: ks) := by
  refine ⟨List.isChain_cons_cons.2 ⟨le_rfl, h.1⟩, List.forall_mem_cons.2 ⟨⟨by omega, hd⟩, ?_⟩⟩
  exact fun k hk => ⟨by have := (h.2 k hk).1; omega, (h.2 k hk).2⟩

end WalksBelow

/-- A translation tells of no clause, or first of its own and then of those below it. -/
theorem translateWithin_depths (levels : Nat) (env : Env) (document : Json)
    (h : env.depth + levels ≤ env.maxDepth) :
    Event.depths (translateWithin levels env document).events = [] ∨
      env.depth + 1 ≤ env.maxDepth ∧ ∃ ks,
        Event.depths (translateWithin levels env document).events = (env.depth + 1) :: ks ∧
          WalksBelow (env.depth + 1) env.maxDepth ks := by
  induction levels generalizing env document with
  | zero => exact .inl rfl
  | succ levels ih =>
    have hdepth : env.descend.depth + levels ≤ env.descend.maxDepth := by
      simp only [Env.descend]
      omega
    rw [translateWithin]
    cases document.asObject "clause" with
    | error fault => exact .inl rfl
    | ok members =>
      refine .inr ⟨by omega, _, rfl, ?_⟩
      refine Clause.translate_events
        (E := fun events => WalksBelow (env.depth + 1) env.maxDepth (Event.depths events)) .nil
        (fun ha hb => Event.depths_append _ _ ▸ ha.append hb) _ fun d _ => ?_
      obtain hnil | ⟨hle, ks, hks, hwalk⟩ := ih env.descend d hdepth
      · rw [hnil]
        exact .nil
      · rw [hks]
        exact hwalk.cons hle

/-- The depths of the clauses that a translation from the top of a document tells of. -/
structure DepthsNested (maxDepth : Nat) (ks : List Nat) : Prop where
  bounds : ∀ k ∈ ks, 1 ≤ k ∧ k ≤ maxDepth
  first : ∀ k ∈ ks.head?, k = 1
  later : ∀ k ∈ ks.tail, 2 ≤ k
  steps : ks.IsChain fun before after => after ≤ before + 1

theorem depthsNested_translateClause (maxDepth : Nat) (document : Json) :
    DepthsNested maxDepth
      (Event.depths (translateClause (.top maxDepth) document).events) := by
  have h := translateWithin_depths (Env.top maxDepth).remaining (.top maxDepth) document
    (by simp [Env.top, Env.remaining])
  obtain hnil | ⟨hle, ks, hks, hwalk⟩ := h
  · rw [translateClause, hnil]
    exact ⟨List.forall_mem_nil _, by simp, List.forall_mem_nil _, .nil⟩
  · rw [translateClause, hks]
    simp only [Env.top, Nat.zero_add] at hle hwalk ⊢
    refine ⟨List.forall_mem_cons.2 ⟨⟨le_rfl, hle⟩, fun k hk => ?_⟩, by simp, fun k hk => ?_,
      hwalk.1⟩
    · exact ⟨(hwalk.2 k hk).1.le, (hwalk.2 k hk).2⟩
    · exact (hwalk.2 k hk).1

/-! ## Faults -/

/-- A clause never tells of a fault by itself. -/
theorem translateWithin_isFailure (levels : Nat) (env : Env) (document : Json) :
    ∀ e ∈ (translateWithin levels env document).events, e.isFailure = false := by
  induction levels generalizing env document with
  | zero => exact List.forall_mem_singleton.2 rfl
  | succ levels ih =>
    rw [translateWithin]
    cases document.asObject "clause" with
    | error fault => exact List.forall_mem_nil _
    | ok members =>
      refine List.forall_mem_cons.2 ⟨rfl, ?_⟩
      exact Clause.translate_events (E := fun events => ∀ e ∈ events, e.isFailure = false)
        (List.forall_mem_nil _) (fun ha hb => List.forall_mem_append.2 ⟨ha, hb⟩) _ fun d _ =>
          ih env.descend d

/-- A translation tells of a fault last, at most once, and just when there is one. Its predicate
then tells of the fault too. -/
structure FaultReported (outcome : Except Fault Predicate) (t : Translation) : Prop where
  once : t.events.countP Event.isFailure ≤ 1
  last : ∀ e ∈ t.events.dropLast, e.isFailure = false
  reported_iff : (∃ e ∈ t.events, e.isFailure = true) ↔ ∃ fault, outcome = .error fault
  predicate_eq : ∀ fault document, .failed fault document ∈ t.events → outcome = .error fault ∧
    t.predicate.expression = "Invalid " ++ fault.message ∧ t.predicate.notes = ["Invalid query"]

theorem faultReported_translate (maxDepth : Nat) (document : Json) :
    FaultReported (translateClause (.top maxDepth) document).outcome
      (translate maxDepth document) := by
  have hquiet : ∀ e ∈ (translateClause (.top maxDepth) document).events, e.isFailure = false :=
    translateWithin_isFailure _ _ document
  have hcount : (translateClause (.top maxDepth) document).events.countP Event.isFailure = 0 :=
    List.countP_eq_zero.2 fun e he => by simp [hquiet e he]
  dsimp only [translate]
  cases (translateClause (.top maxDepth) document).outcome with
  | ok p =>
    refine ⟨hcount.trans_le (Nat.zero_le 1), ?_, ?_, ?_⟩
    · intro e he
      exact hquiet e (List.dropLast_subset _ he)
    · constructor
      · rintro ⟨e, he, hf⟩
        simp [hquiet e he] at hf
      · rintro ⟨fault, ⟨⟩⟩
    · intro fault doc hmem
      have := hquiet _ hmem
      contradiction
  | error fault =>
    refine ⟨?_, ?_, ?_, ?_⟩
    · simp [List.countP_append, hcount, Event.isFailure]
    · rw [List.dropLast_concat]
      exact hquiet
    · exact ⟨fun _ => ⟨fault, rfl⟩, fun _ => ⟨_, List.mem_concat_self, rfl⟩⟩
    · intro fault' doc hmem
      obtain hmem | hmem := List.mem_append.1 hmem
      · have := hquiet _ hmem
        contradiction
      · obtain ⟨rfl, rfl⟩ := Event.failed.inj (List.mem_singleton.1 hmem)
        exact ⟨rfl, rfl, rfl⟩

/-! ## Counting -/

namespace Event

/-- Whether an event tells of a clause of one of the given kinds, or of one that is cut off. -/
def isAmong (cut : Bool) (kinds : Option Clause.Kind → Bool) : Event → Bool
  | clause kind _ => kinds kind
  | depthExceeded _ => cut
  | failed _ _ => false

theorem isOf_eq (kind : Option Clause.Kind) : isOf kind = isAmong false (· == kind) := by
  funext e
  cases e <;> rfl

theorem isCut_eq : isCut = isAmong true fun _ => false := by
  funext e
  cases e <;> rfl

end Event

/-- Events and notes that come together: a clause that is cut off has such a note when it is such an
event, and a clause of a kind has one such note of its own when its kind is among the given ones,
and none otherwise. -/
structure Tally (maxDepth : Nat) (cut : Bool) (kinds : Option Clause.Kind → Bool)
    (note : String → Bool) : Prop where
  cutNote : note ("Invalid query, nesting depth exceeds " ++ toString maxDepth) = cut
  plain : ∀ x ∈ Clause.plainNotes, x.2.countP note = if kinds (some x.1) then 1 else 0
  ignored : kinds (some .bool) = false ∧ ∀ value, note (BoolClause.ignoredNote value) = false
  leaf : ∀ l, kinds (some (.leaf l)) = false
  rejected : ∀ n ∈ Leaf.rejections, note n = false
  unknown : ∀ keys : String, note ("Invalid query " ++ keys) = kinds none

namespace Tally

variable {maxDepth : Nat} {cut : Bool} {kinds : Option Clause.Kind → Bool} {note : String → Bool}

theorem countP_own (h : Tally maxDepth cut kinds note) {kind : Option Clause.Kind}
    {own : List String} (hown : Clause.OwnNotes kind own) :
    own.countP note = if kinds kind then 1 else 0 := by
  cases hown with
  | plain mem => exact h.plain _ mem
  | ignoredMinimum value => simp [h.ignored]
  | leaf l => simp [h.leaf]
  | rejectedLeaf l mem => simp [h.leaf, h.rejected _ mem]
  | unknown keys => simp [List.countP_singleton, h.unknown]

/-- There are as many such notes as there are such events. -/
theorem countP_eq (h : Tally maxDepth cut kinds note) {levels : Nat} {env : Env} {document : Json}
    {events : List Event} {p : Predicate} (henv : env.maxDepth = maxDepth)
    (ht : translateWithin levels env document = ⟨events, .ok p⟩) :
    events.countP (Event.isAmong cut kinds) = p.notes.countP note := by
  refine translateWithin_induction
    (Q := fun _ events p => events.countP (Event.isAmong cut kinds) = p.notes.countP note)
    ?_ ?_ henv ht
  · intro _
    show [Event.depthExceeded maxDepth].countP _ = [_].countP note
    rw [List.countP_singleton, List.countP_singleton, h.cutNote, Event.isAmong]
  · intro members depth t es p hc hparts
    obtain ⟨own, hown, haccounts⟩ := hc.accounts
    rw [haccounts.notes_perm.countP_eq, List.countP_append, h.countP_own hown, List.countP_cons,
      List.countP_flatMap, List.countP_flatMap]
    congr 2
    exact List.map_congr_left hparts

/-- Texts that are known as the notes of one kind of clause, and that no note with a text of the
document in it can be. -/
theorem of_texts {kind : Clause.Kind} {texts : List String}
    (plain : ∀ x ∈ Clause.plainNotes,
      x.2.countP (fun n => decide (n ∈ texts)) = if x.1 = kind then 1 else 0)
    (ignored : ∀ text ∈ texts, ¬ "skipping minimum_should_match ".toList <+: text.toList)
    (hbool : kind ≠ .bool) (leaf : ∀ l, kind ≠ .leaf l)
    (rejected : ∀ n ∈ Leaf.rejections, n ∉ texts)
    (unknown : ∀ text ∈ texts, ¬ "Invalid query".toList <+: text.toList) :
    Tally maxDepth false (· == some kind) fun n => decide (n ∈ texts) where
  cutNote := by
    have h : "Invalid query" ++ (", nesting depth exceeds " ++ toString maxDepth) ∉ texts :=
      Clause.append_not_mem unknown
    rw [← String.append_assoc] at h
    exact decide_eq_false h
  plain x hx := by simpa using plain x hx
  ignored := ⟨by simpa using hbool.symm, fun value => by
    simpa using Clause.ignoredNote_not_mem ignored⟩
  leaf l := by simpa using (leaf l).symm
  rejected n hn := by simpa using rejected n hn
  unknown keys := by
    have h : "Invalid query" ++ (" " ++ keys) ∉ texts := Clause.append_not_mem unknown
    rw [← String.append_assoc] at h
    exact decide_eq_false h

theorem boosting : Tally maxDepth false (· == some .boosting)
    fun n => decide (n ∈ ["skipping boosting"]) :=
  of_texts (by decide) (by decide) (by decide) nofun (by decide) (by decide)

theorem constantScore : Tally maxDepth false (· == some .constantScore)
    fun n => decide (n ∈ ["skipping constant score"]) :=
  of_texts (by decide) (by decide) (by decide) nofun (by decide) (by decide)

theorem disMax : Tally maxDepth false (· == some .disMax)
    fun n => decide (n ∈ ["skipping dis_max", "Invalid dis_max"]) :=
  of_texts (by decide) (by decide) (by decide) nofun (by decide) (by decide)

/-- The notes on what is no leaf clause start differently from those on rejected leaf clauses. -/
theorem not_prefix_of_mem_rejections :
    ∀ n ∈ Leaf.rejections, ¬ "Invalid query".toList <+: n.toList := by
  decide

theorem cutOff (maxDepth : Nat) : Tally maxDepth true (fun _ => false)
    fun n => decide (n = "Invalid query, nesting depth exceeds " ++ toString maxDepth) where
  cutNote := decide_eq_true rfl
  plain x hx := by
    have h : ∀ x ∈ Clause.plainNotes, ∀ n ∈ x.2, ¬ "Invalid query,".toList <+: n.toList := by decide
    refine List.countP_eq_zero.2 fun n hn htrue => h x hx n hn ?_
    have hcut : "Invalid query, nesting depth exceeds " =
        "Invalid query," ++ " nesting depth exceeds " := by rfl
    rw [of_decide_eq_true htrue, hcut, String.append_assoc]
    exact Clause.prefix_append _ _
  ignored := ⟨rfl, fun value => decide_eq_false <| by
    rw [Clause.ignoredNote_eq]
    exact Clause.append_ne_append (by decide) (by decide)⟩
  leaf _ := rfl
  rejected n hn := decide_eq_false fun heq => by
    have h : "Invalid query" ++ (", nesting depth exceeds " ++ toString maxDepth) ∉
        Leaf.rejections := Clause.append_not_mem not_prefix_of_mem_rejections
    rw [← String.append_assoc] at h
    exact h (heq ▸ hn)
  unknown keys := decide_eq_false (Clause.append_ne_append (by decide) (by decide))

theorem unknownKeys : Tally maxDepth false (· == none)
    fun n => "Invalid query ".toList.isPrefixOf n.toList where
  cutNote := by
    rw [String.toList_append]
    rfl
  plain := by decide
  ignored := ⟨rfl, fun value => by
    rw [Clause.ignoredNote_eq, String.toList_append]
    rfl⟩
  leaf _ := rfl
  rejected n hn := by
    refine Bool.eq_false_iff.2 fun htrue => not_prefix_of_mem_rejections n hn ?_
    have hstart : "Invalid query".toList <+: "Invalid query ".toList := by decide
    exact hstart.trans (List.isPrefixOf_iff_prefix.1 htrue)
  unknown keys := List.isPrefixOf_iff_prefix.2 (Clause.prefix_append _ _)

end Tally

/-- The notes of a translation count what its events tell of: clauses that are cut off, clauses of
the kinds that are always noted, and clauses of no known kind. -/
structure NotesCounted (maxDepth : Nat) (t : Translation) : Prop where
  cutOff : t.events.countP Event.isCut =
    t.predicate.notes.count ("Invalid query, nesting depth exceeds " ++ toString maxDepth)
  boosting : t.events.countP (Event.isOf (some .boosting)) =
    t.predicate.notes.count "skipping boosting"
  constantScore : t.events.countP (Event.isOf (some .constantScore)) =
    t.predicate.notes.count "skipping constant score"
  disMax : t.events.countP (Event.isOf (some .disMax)) =
    t.predicate.notes.count "skipping dis_max" + t.predicate.notes.count "Invalid dis_max"
  unknown : t.events.countP (Event.isOf none) =
    t.predicate.notes.countP fun n => "Invalid query ".toList.isPrefixOf n.toList

theorem countP_mem_singleton (a : String) (notes : List String) :
    notes.countP (fun n => decide (n ∈ [a])) = notes.count a :=
  List.countP_congr fun n _ => by rw [decide_eq_true_eq, List.mem_singleton, beq_iff_eq]

theorem countP_mem_pair {a b : String} (h : a ≠ b) (notes : List String) :
    notes.countP (fun n => decide (n ∈ [a, b])) = notes.count a + notes.count b := by
  induction notes with
  | nil => rfl
  | cons n rest ih =>
    rw [List.countP_cons, List.count_cons, List.count_cons, ih]
    by_cases ha : n = a
    · subst ha
      simp only [List.mem_cons, true_or, decide_true, if_true, beq_self_eq_true, beq_iff_eq,
        if_neg h]
      omega
    · by_cases hb : n = b
      · subst hb
        simp [ha]
        omega
      · simp [ha, hb]

theorem notesCounted_translate {maxDepth : Nat} {document : Json} {p : Predicate}
    (h : (translateClause (.top maxDepth) document).outcome = .ok p) :
    NotesCounted maxDepth (translate maxDepth document) := by
  have ht : translateClause (.top maxDepth) document =
      ⟨(translate maxDepth document).events, .ok (translate maxDepth document).predicate⟩ := by
    ext <;> simp [translate, h]
  constructor
  · rw [Event.isCut_eq, (Tally.cutOff maxDepth).countP_eq rfl ht]
    exact List.countP_congr fun n _ => by rw [decide_eq_true_eq, beq_iff_eq]
  · rw [Event.isOf_eq, Tally.boosting.countP_eq rfl ht, countP_mem_singleton]
  · rw [Event.isOf_eq, Tally.constantScore.countP_eq rfl ht, countP_mem_singleton]
  · rw [Event.isOf_eq, Tally.disMax.countP_eq rfl ht, countP_mem_pair (by decide)]
  · rw [Event.isOf_eq, Tally.unknownKeys.countP_eq rfl ht]

/-- No diagnostic of a translation is lost, and none is told of twice. -/
theorem translate_diagnostics (maxDepth : Nat) (document : Json) :
    DepthsNested maxDepth (Event.depths (translate maxDepth document).events) ∧
      FaultReported (translateClause (.top maxDepth) document).outcome
        (translate maxDepth document) ∧
      ∀ p, (translateClause (.top maxDepth) document).outcome = .ok p →
        NotesCounted maxDepth (translate maxDepth document) := by
  refine ⟨?_, faultReported_translate maxDepth document, fun p h => notesCounted_translate h⟩
  have hdepths : Event.depths (translate maxDepth document).events =
      Event.depths (translateClause (.top maxDepth) document).events := by
    dsimp only [translate]
    cases (translateClause (.top maxDepth) document).outcome with
    | ok p => rfl
    | error fault =>
      rw [Event.depths_append]
      exact List.append_nil _
  rw [hdepths]
  exact depthsNested_translateClause maxDepth document

end ClauseFilter
