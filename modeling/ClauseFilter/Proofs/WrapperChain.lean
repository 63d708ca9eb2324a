import ClauseFilter.Proofs.Composition
import ClauseFilter.Proofs.Respelling

/-!
# Chains of wrappers

Some clauses hold a single clause document and ask for what that asks for. Any number of them may
stand around a document. As long as they do not reach the maximum depth they change its translation
only by their notes, the innermost first, and by the depth at which it is translated; beyond the
maximum depth nothing is seen of what they hold (`translate_chain`).
-/

namespace ClauseFilter

open Traced

/-- A document around a clause document, of a kind of clause that asks for what it holds. -/
inductive Wraps : Clause.Kind → Json → Json → Prop
  | query (wrapped : Json) : Wraps .query (.obj [("query", wrapped)]) wrapped
  | nested {body : Json.Members} {wrapped : Json} (length : body.length = 2)
    (path : "path" ∈ body.keys) (h : body.get? "query" = some wrapped) :
    Wraps .nested (.obj [("nested", .obj body)]) wrapped
  | must (wrapped : Json) : Wraps .bool (.obj [("bool", .obj [("must", .arr [wrapped])])]) wrapped
  | filter (members : Json.Members) :
    Wraps .bool (.obj [("bool", .obj [("filter", .obj members)])]) (.obj members)
  | constantScore {body : Json.Members} {wrapped : Json} (h : body.get? "filter" = some wrapped) :
    Wraps .constantScore (.obj [("constant_score", .obj body)]) wrapped
  | boosting {body : Json.Members} {wrapped : Json} (h : body.get? "positive" = some wrapped) :
    Wraps .boosting (.obj [("boosting", .obj body)]) wrapped

/-- A document with wrappers of some kinds, the outermost first, around a clause document. -/
inductive Wraps.Chain : List Clause.Kind → Json → Json → Prop
  | nil (document : Json) : Wraps.Chain [] document document
  | cons {kind : Clause.Kind} {kinds : List Clause.Kind} {document inner wrapped : Json}
    (h : Wraps kind document inner) (rest : Wraps.Chain kinds inner wrapped) :
    Wraps.Chain (kind :: kinds) document wrapped

/-! ## Notes and events of wrappers -/

/-- The predicate with more notes behind its own. -/
def Predicate.withNotes (p : Predicate) (notes : List String) : Predicate :=
  { p with notes := p.notes ++ notes }

@[simp] theorem Predicate.withNotes_nil (p : Predicate) : p.withNotes [] = p := by
  simp [withNotes]

@[simp] theorem Predicate.withNotes_withNotes (p : Predicate) (notes notes' : List String) :
    (p.withNotes notes).withNotes notes' = p.withNotes (notes ++ notes') := by
  simp [withNotes]

namespace Traced

/-- A translation after some events, with more notes on its predicate. -/
def framed (x : Traced Predicate) (events : List Event) (notes : List String) : Traced Predicate :=
  ⟨events ++ x.events, x.outcome.map fun p => p.withNotes notes⟩

theorem framed_nil (x : Traced Predicate) : x.framed [] [] = x := by
  obtain ⟨events, outcome⟩ := x
  cases outcome <;> simp [framed, Except.map]

theorem framed_framed (x : Traced Predicate) (events events' : List Event)
    (notes notes' : List String) :
    (x.framed events notes).framed events' notes' =
      x.framed (events' ++ events) (notes ++ notes') := by
  obtain ⟨own, outcome⟩ := x
  cases outcome <;> simp [framed, Except.map]

theorem framed_singleton (x : Traced Predicate) (note : String) :
    x.framed [] [note] = (do
      let p ← x
      return p.withNote note) := by
  obtain ⟨events, outcome⟩ := x
  cases outcome with
  | error fault => rfl
  | ok p => exact Traced.ext (List.append_nil events).symm rfl

end Traced

/-- The notes that a wrapper of a kind adds. -/
def wrapperNotes : Clause.Kind → List String
  | .constantScore => ["skipping constant score"]
  | .boosting => ["skipping boosting"]
  | _ => []

/-- The notes that wrappers add, those of the innermost first. -/
def chainNotes (kinds : List Clause.Kind) : List String :=
  kinds.reverse.flatMap wrapperNotes

theorem chainNotes_cons (kind : Clause.Kind) (kinds : List Clause.Kind) :
    chainNotes (kind :: kinds) = chainNotes kinds ++ wrapperNotes kind := by
  simp [chainNotes]

/-- The events of wrappers within a clause at a depth. -/
def chainEvents : Nat → List Clause.Kind → List Event
  | _, [] => []
  | depth, kind :: kinds => .clause (some kind) (depth + 1) :: chainEvents (depth + 1) kinds

/-! ## One wrapper -/

namespace BoolClause

variable {inner : Json → Traced Predicate} {wrapped : Json}

/-- A `bool` clause with a single clause is that clause. -/
theorem translate_of_requiredClauses (members : Json.Members)
    (hrequired : requiredClauses inner members = each inner [wrapped])
    (hshould : members.get? "should" = none) (hnot : members.get? "must_not" = none)
    (hminimum : members.get? "minimum_should_match" = none) :
    translate inner (.obj members) = inner wrapped := by
  rw [translate_eq_requiredClauses, hrequired, clausesAt_none hnot, hminimum]
  simp only [shouldGiven, clausesAt_none hshould, hminimum, each, pure_bind, bind_assoc, ite_self]
  exact bind_pure (inner wrapped)

end BoolClause

theorem Wrapper.translate_of_get? {inner : Json → Traced Predicate} {body : Json.Members}
    {wrapped : Json} (w : Wrapper) (h : body.get? w.key = some wrapped) :
    w.translate inner (.obj body) = (inner wrapped).framed [] [w.note] := by
  rw [framed_singleton]
  simp only [Wrapper.translate, Json.asObject, Json.Members.required, h, lift_ok, pure_bind]

theorem Wrapper.translateNested_of_get? {inner : Json → Traced Predicate} {body : Json.Members}
    {wrapped : Json} (length : body.length = 2) (path : "path" ∈ body.keys)
    (h : body.get? "query" = some wrapped) :
    Wrapper.translateNested inner (.obj body) = inner wrapped := by
  have hsupported : (body.length == 2 && body.has "path") = true := by
    simp [length, Json.Members.has_eq, path]
  simp only [translateNested, Json.asObject, lift_ok, pure_bind, hsupported, h]

variable {kind : Clause.Kind} {kinds : List Clause.Kind} {document wrapped : Json}

/-- A wrapper is translated by translating what it wraps. -/
theorem Wraps.translate_eq (h : Wraps kind document wrapped) (inner : Json → Traced Predicate) :
    ∃ members, document = .obj members ∧ (Clause.classify members).kind? = some kind ∧
      (Clause.classify members).translate inner =
        (inner wrapped).framed [] (wrapperNotes kind) := by
  cases h with
  | query => exact ⟨_, rfl, rfl, (framed_nil _).symm⟩
  | nested length path h =>
    refine ⟨_, rfl, rfl, Eq.trans ?_ (framed_nil _).symm⟩
    exact Wrapper.translateNested_of_get? length path h
  | must =>
    refine ⟨_, rfl, rfl, Eq.trans ?_ (framed_nil _).symm⟩
    refine BoolClause.translate_of_requiredClauses [("must", .arr [wrapped])] ?_ rfl rfl rfl
    rw [← List.append_nil [wrapped]]
    exact BoolClause.requiredClauses_eq_each (BoolClause.clausesAt_arr rfl)
      (BoolClause.clausesAt_none rfl)
  | filter members =>
    refine ⟨_, rfl, rfl, Eq.trans ?_ (framed_nil _).symm⟩
    refine BoolClause.translate_of_requiredClauses [("filter", .obj members)] ?_ rfl rfl rfl
    exact BoolClause.requiredClauses_eq_each (BoolClause.clausesAt_none rfl)
      (BoolClause.clausesAt_obj rfl)
  | constantScore h => exact ⟨_, rfl, rfl, Wrapper.constantScore.translate_of_get? h⟩
  | boosting h => exact ⟨_, rfl, rfl, Wrapper.boosting.translate_of_get? h⟩

/-- A wrapper above the maximum depth takes one level, tells of itself, and adds its notes. -/
theorem Wraps.translateWithin_eq (h : Wraps kind document wrapped) (levels m d : Nat) :
    translateWithin (levels + 1) ⟨m, d⟩ document =
      (translateWithin levels ⟨m, d + 1⟩ wrapped).framed [.clause (some kind) (d + 1)]
        (wrapperNotes kind) := by
  obtain ⟨members, rfl, hkind, htranslate⟩ := h.translate_eq (translateWithin levels ⟨m, d + 1⟩)
  rw [translateWithin]
  simp only [Json.asObject, lift_ok, pure_bind, hkind, Env.descend, htranslate]
  rfl

/-! ## Chains -/

/-- A chain of wrappers above the maximum depth takes one level for each of them. -/
theorem Wraps.Chain.translateWithin_eq (h : Wraps.Chain kinds document wrapped) (levels m d : Nat) :
    translateWithin (levels + kinds.length) ⟨m, d⟩ document =
      (translateWithin levels ⟨m, d + kinds.length⟩ wrapped).framed (chainEvents d kinds)
        (chainNotes kinds) := by
  -- The wrapper on the outside is the first to take a level, and what is left is a chain a level
  -- further down.
  induction h generalizing d with
  | nil document => exact (framed_nil _).symm
  | @cons kind kinds document inner wrapped h rest ih =>
    rw [List.length_cons, ← Nat.add_assoc, h.translateWithin_eq, ih, framed_framed,
      ← chainNotes_cons, Nat.add_assoc d, Nat.add_comm 1]
    rfl

/-- The outermost wrappers of a chain are a chain around what they hold. -/
theorem Wraps.Chain.take (h : Wraps.Chain kinds document wrapped) (n : Nat) :
    ∃ inner, Wraps.Chain (kinds.take n) document inner := by
  induction h generalizing n with
  | nil document => exact ⟨document, by rw [List.take_nil]; exact .nil document⟩
  | cons h rest ih =>
    cases n with
    | zero => exact ⟨_, .nil _⟩
    | succ n =>
      obtain ⟨inner, hinner⟩ := ih n
      exact ⟨inner, .cons h hinner⟩

/-- Wrappers around a clause document show in its translation by their notes only, the innermost
first, as long as the document is not below the maximum depth: it has the same faults and the same
predicate but for the notes as by itself at its depth. If there are more wrappers than levels the
document is not looked at. The predicate then is that of a clause below the maximum depth, with the
notes of the wrappers that are above it. -/
theorem translate_chain (m : Nat) (h : Wraps.Chain kinds document wrapped) :
    (kinds.length ≤ m →
      (∀ fault, (translateClause ⟨m, kinds.length⟩ wrapped).outcome = .error fault →
        (translateClause (.top m) document).outcome = .error fault ∧
          (translate m document).predicate =
            .untranslatable ("Invalid " ++ fault.message) "Invalid query") ∧
      ∀ p, (translateClause ⟨m, kinds.length⟩ wrapped).outcome = .ok p →
        (translate m document).predicate =
          ⟨p.expression, p.translatable, p.notes ++ chainNotes kinds⟩) ∧
    (m < kinds.length →
      (translate m document).predicate =
        { expression := "nesting too deep"
          translatable := false
          notes := ("Invalid query, nesting depth exceeds " ++ toString m) ::
            chainNotes (kinds.take m) }) := by
  refine ⟨fun hle => ?_, fun hlt => ?_⟩
  · have hsame : translateClause (.top m) document =
        (translateClause ⟨m, kinds.length⟩ wrapped).framed (chainEvents 0 kinds)
          (chainNotes kinds) := by
      have hchain := h.translateWithin_eq (m - kinds.length) m 0
      rwa [Nat.sub_add_cancel hle, Nat.zero_add] at hchain
    rw [translate_predicate, hsame]
    refine ⟨fun fault hfault => ?_, fun p hp => ?_⟩
    · simp [framed, hfault, Except.map, predicate]
    · simp [framed, hp, Except.map, predicate, Predicate.withNotes]
  · -- The outermost wrappers use up the levels, so all that is left of the rest is its depth.
    obtain ⟨inner, hinner⟩ := h.take m
    have hlength : (kinds.take m).length = m := List.length_take_of_le (Nat.le_of_lt hlt)
    have hcut := hinner.translateWithin_eq 0 m 0
    rw [hlength, Nat.zero_add] at hcut
    rw [translate_predicate, translateClause, Env.top, Env.remaining, Nat.sub_zero, hcut]
    rfl

/-- Three wrappers, two of which have notes, with enough levels for them and with too few. -/
theorem translate_chain_threeWrappers :
    let wrapped := Json.obj [("match_all", .obj [])]
    let scored := Json.obj [("constant_score", .obj [("boost", .null), ("filter", wrapped)])]
    let nested := Json.obj [("nested", .obj [("path", .str "comments"), ("query", scored)])]
    let document := Json.obj [("boosting", .obj [("positive", nested), ("negative", .null)])]
    let kinds := [.boosting, .nested, .constantScore]
    Wraps.Chain kinds document wrapped ∧ kinds.length ≤ 4 ∧
      (translateClause ⟨4, 3⟩ wrapped).outcome = .ok (.translated "match_all") ∧
      (translate 4 document).predicate =
        ⟨"match_all", true, ["skipping constant score", "skipping boosting"]⟩ ∧
      2 < kinds.length ∧
      (translate 2 document).predicate =
        ⟨"nesting too deep", false,
          ["Invalid query, nesting depth exceeds 2", "skipping boosting"]⟩ := by
  intro wrapped scored nested document kinds
  have hchain : Wraps.Chain kinds document wrapped :=
    .cons (.boosting rfl) (.cons (.nested rfl (by decide) rfl)
      (.cons (.constantScore rfl) (.nil wrapped)))
  have hwrapped : (translateClause ⟨4, 3⟩ wrapped).outcome = .ok (.translated "match_all") := rfl
  obtain ⟨habove, -⟩ := translate_chain 4 hchain
  obtain ⟨-, hbelow⟩ := translate_chain 2 hchain
  exact ⟨hchain, by decide, hwrapped, (habove (by decide)).2 _ hwrapped, by decide,
    hbelow (by decide)⟩

end ClauseFilter
