import ClauseFilter.Proofs.SeenParts
import ClauseFilter.Proofs.TakenSteps

/-!
# The first fault

The first fault among the steps of a document decides everything (`translate_firstFault`). Without
any fault the document has a translation. Otherwise the translation ends in the first fault, and
whatever no step up to that fault looks at may be replaced: other faults there do not show, neither
in the predicate nor in the events.
-/

namespace ClauseFilter

open Step

/-! ## Replaced values -/

namespace Json

/-- Members with a change to the value of a key. -/
def Members.modify (members : Members) (key : String) (f : Json → Json) : Members :=
  members.map fun (k, value) => (k, if k = key then f value else value)

/-- A value with a change to the one to which an access leads, if there is one. -/
def modifyChild : Json → Access → (Json → Json) → Json
  | .obj members, .member key, f => .obj (Members.modify members key f)
  | .arr items, .item index, f => .arr (items.modify index f)
  | value, _, _ => value

/-- A document with another value where a pointer leads. -/
def replaceAt : Json → Pointer → Json → Json
  | _, [], new => new
  | value, access :: pointer, new =>
    value.modifyChild access fun child => child.replaceAt pointer new

/-- A document with values replaced one after the other. -/
def replaceAll (document : Json) (replacements : List (Pointer × Json)) : Json :=
  replacements.foldl (fun replaced (pointer, new) => replaced.replaceAt pointer new) document

theorem Members.get?_modify (members : Members) (key other : String) (f : Json → Json) :
    (members.modify key f).get? other =
      if other = key then (members.get? other).map f else members.get? other := by
  induction members with
  | nil => exact (ite_self none).symm
  | cons member rest ih =>
    rcases member with ⟨k, value⟩
    have hmodify : Members.modify ((k, value) :: rest) key f =
        (k, if k = key then f value else value) :: Members.modify rest key f := rfl
    rw [hmodify, get?_cons, get?_cons, ih]
    by_cases hk : other = k
    · subst hk
      by_cases hkey : other = key <;> simp [hkey]
    · simp [hk]

variable (value : Json) (access : Access) (f : Json → Json)

theorem surface_modifyChild : (value.modifyChild access f).surface = value.surface := by
  cases value with
  | obj members =>
    cases access with
    | member key => simp [modifyChild, Members.modify, surface]
    | item index => rfl
  | arr items =>
    cases access with
    | member key => rfl
    | item index => simp [modifyChild, surface, List.map_const']
  | _ => cases access <;> rfl

theorem child?_modifyChild (other : Access) :
    (value.modifyChild access f).child? other =
      if other = access then (value.child? other).map f else value.child? other := by
  cases value with
  | obj members =>
    cases access with
    | member key =>
      cases other with
      | member k =>
        simp only [Access.member.injEq]
        exact Members.get?_modify members key k f
      | item i => rfl
    | item index => cases other <;> simp [modifyChild, child?, Json.items]
  | arr items =>
    cases access with
    | member key => cases other <;> simp [modifyChild, child?, Json.members, Members.get?]
    | item index =>
      cases other with
      | member k => rfl
      | item i =>
        simp only [modifyChild, child?, Json.items, Access.item.injEq, List.getElem?_modify]
        by_cases hi : index = i
        · simp [hi]
        · simp [hi, Ne.symm hi]
  | _ =>
    cases access <;> cases other <;>
      simp [modifyChild, child?, Json.members, Json.items, Members.get?]

variable {value new : Json} {pointer : Pointer}

/-- A replaced value is only seen at a pointer that leads to it or into it. -/
theorem sameAt_replaceAt {seen : Pointer} (h : ¬pointer <+: seen) :
    value.SameAt (value.replaceAt pointer new) seen := by
  induction pointer generalizing value seen with
  | nil => exact absurd List.nil_prefix h
  | cons access pointer ih =>
    cases seen with
    | nil => rw [sameAt_nil, replaceAt, surface_modifyChild]
    | cons other seen =>
      rw [SameAt, at?, at?, replaceAt, child?_modifyChild]
      by_cases hother : other = access
      · subst hother
        have hrest : ¬pointer <+: seen := fun hp => h (List.cons_prefix_cons.2 ⟨rfl, hp⟩)
        rw [if_pos rfl]
        cases value.child? other with
        | none => rfl
        | some child => exact ih hrest
      · rw [if_neg hother]

theorem sameAt_replaceAll {document : Json} {replacements : List (Pointer × Json)} {seen : Pointer}
    (h : ∀ r ∈ replacements, ¬r.1 <+: seen) :
    document.SameAt (document.replaceAll replacements) seen := by
  induction replacements generalizing document with
  | nil => rfl
  | cons r rest ih =>
    obtain ⟨hr, hrest⟩ := List.forall_mem_cons.1 h
    exact (sameAt_replaceAt hr).trans (ih hrest)

end Json

/-! ## Values that no step looks at -/

namespace Step

/-- Whether a step looks at the value to which a pointer leads, or into it. -/
def LooksInto (pointer : Json.Pointer) : Step → Prop
  | look seen _ => pointer <+: seen
  | tell _ => False

instance (pointer : Json.Pointer) : DecidablePred (LooksInto pointer)
  | look seen _ => inferInstanceAs (Decidable (pointer <+: seen))
  | tell _ => inferInstanceAs (Decidable False)

/-- Whether a value comes after the first fault, or is not looked at for other reasons. -/
def Unseen (steps : List Step) (pointer : Json.Pointer) : Prop :=
  ∀ step ∈ reached steps, ¬step.LooksInto pointer

instance (steps : List Step) : DecidablePred (Unseen steps) :=
  fun pointer => inferInstanceAs (Decidable (∀ step ∈ reached steps, ¬step.LooksInto pointer))

end Step

/-! ## Whole documents -/

theorem Json.reached_steps_replaceAll {levels : Nat} {env : Env} {document : Json}
    {replacements : List (Pointer × Json)}
    (h : ∀ r ∈ replacements, Unseen (document.steps levels env) r.1) :
    reached ((document.replaceAll replacements).steps levels env) =
      reached (document.steps levels env) := by
  refine framed_steps levels env document _ fun seen fault hmem => ?_
  exact sameAt_replaceAll fun r hr => h r hr _ hmem

theorem translate_of_error {maxDepth : Nat} {document : Json} {fault : Fault}
    (h : (translateClause (.top maxDepth) document).outcome = .error fault) :
    translate maxDepth document =
      ⟨.untranslatable ("Invalid " ++ fault.message) "Invalid query",
        (translateClause (.top maxDepth) document).events ++ [.failed fault document]⟩ := by
  dsimp only [translate]
  rw [h]

/-- A document without a fault among its steps has a translation. Otherwise the first fault ends the
translation and is told by the predicate, and neither the predicate nor the events change when
values are replaced that no step up to the first fault looks at. -/
theorem translate_firstFault (maxDepth : Nat) (document : Json) :
    let steps := document.steps maxDepth (.top maxDepth)
    (firstFault steps = none →
      ∃ p, (translateClause (.top maxDepth) document).outcome = .ok p) ∧
    ∀ fault, firstFault steps = some fault →
      (translateClause (.top maxDepth) document).outcome = .error fault ∧
      (translate maxDepth document).predicate =
        .untranslatable ("Invalid " ++ fault.message) "Invalid query" ∧
      ∀ replacements : List (Json.Pointer × Json), (∀ r ∈ replacements, Unseen steps r.1) →
        let replaced := document.replaceAll replacements
        (translate maxDepth replaced).predicate = (translate maxDepth document).predicate ∧
          (translate maxDepth replaced).events.map Event.withoutDocument =
            (translate maxDepth document).events.map Event.withoutDocument := by
  intro steps
  have htakes : (translateClause (.top maxDepth) document).Takes steps :=
    translateWithin_takes maxDepth (.top maxDepth) document
  refine ⟨htakes.exists_ok, fun fault hfault => ?_⟩
  have herror := htakes.outcome_eq_error hfault
  refine ⟨herror, by rw [translate_of_error herror], fun replacements hunseen => ?_⟩
  intro replaced
  have htakes' : (translateClause (.top maxDepth) replaced).Takes _ :=
    translateWithin_takes maxDepth (.top maxDepth) replaced
  have hreached := Json.reached_steps_replaceAll hunseen
  have hfault' : firstFault (replaced.steps maxDepth (.top maxDepth)) = some fault := by
    rw [← firstFault_reached, hreached, firstFault_reached, hfault]
  rw [translate_of_error herror, translate_of_error (htakes'.outcome_eq_error hfault')]
  refine ⟨rfl, ?_⟩
  rw [htakes.events_eq htakes' hreached, List.map_append, List.map_append]
  rfl

/-- The body of the second required clause is no object. So it does not matter that the third is
faulty as well and that the list of negative clauses is none. -/
theorem translate_firstFault_faultyTerm :
    let document := Json.obj [("bool", .obj [
      ("must_not", .null),
      ("must", .arr [.obj [("match_all", .obj [])], .obj [("term", .bool true)], .null])])]
    let steps := document.steps 2 (.top 2)
    let replacements := [
      ([.member "bool", .member "must", .item 2], .obj [("match_all", .obj [])]),
      ([.member "bool", .member "must_not"], .arr [])]
    firstFault steps = some (.notAnObject "term" .boolean) ∧
      (∀ r ∈ replacements, Unseen steps r.1) ∧
      (translate 2 document).predicate =
        .untranslatable "Invalid term must be an object, got a boolean" "Invalid query" ∧
      (translate 2 (document.replaceAll replacements)).predicate =
        (translate 2 document).predicate := by
  intro document steps replacements
  have hfault : firstFault steps = some (.notAnObject "term" .boolean) := by decide
  have hunseen : ∀ r ∈ replacements, Unseen steps r.1 := by decide
  obtain ⟨-, hpredicate, hreplaced⟩ := (translate_firstFault 2 document).2 _ hfault
  exact ⟨hfault, hunseen, hpredicate, (hreplaced replacements hunseen).1⟩

end ClauseFilter
