import ClauseFilter.Proofs.Irrelevance
import ClauseFilter.Proofs.Steps

/-!
# The parts that are seen

A look at a value shows its surface: the keys of an object and the length of an array, but not what
these hold. The steps that are reached in a document are the same in every document that has the
same surface wherever one of them looks (`framed_steps`). So the steps may depend on a value
only after a look at it.
-/

namespace ClauseFilter

open Step

/-! ## Surfaces -/

namespace Json

/-- The value to which an access leads, if there is one. -/
def child? (value : Json) : Access → Option Json
  | .member key => value.members.get? key
  | .item index => value.items[index]?

/-- The value to which a pointer leads, if there is one. -/
def at? : Json → Pointer → Option Json
  | value, [] => some value
  | value, access :: pointer => (value.child? access).bind fun child => child.at? pointer

/-- A value without the values that it holds. -/
def surface : Json → Json
  | .arr items => .arr (items.map fun _ => .null)
  | .obj members => .obj (members.map fun (key, _) => (key, .null))
  | value => value

/-- Whether two documents have the same surface where a pointer leads. -/
def SameAt (document document' : Json) (pointer : Pointer) : Prop :=
  (document.at? pointer).map surface = (document'.at? pointer).map surface

variable {value value' : Json}

theorem sameAt_nil : value.SameAt value' [] ↔ value.surface = value'.surface := by
  simp [SameAt, at?]

/-- Documents look the same inside a child when the children look the same there. -/
theorem sameAt_cons {access : Access} {child child' : Json} (h : value.child? access = some child)
    (h' : value'.child? access = some child') (pointer : Pointer) :
    value.SameAt value' (access :: pointer) ↔ child.SameAt child' pointer := by
  rw [SameAt, at?, at?, h, h']
  rfl

theorem kind_surface (value : Json) : value.surface.kind = value.kind := by
  cases value <;> rfl

theorem keys_surface (value : Json) : value.surface.members.keys = value.members.keys := by
  cases value with
  | obj members => simp [surface, Json.members, Members.keys]
  | _ => rfl

theorem length_items_surface (value : Json) : value.surface.items.length = value.items.length := by
  cases value with
  | arr items => exact List.length_map _
  | _ => rfl

theorem length_members_surface (value : Json) :
    value.surface.members.length = value.members.length :=
  Members.length_eq_of_keys_eq (keys_surface value)

theorem has_surface (value : Json) (key : String) :
    value.surface.members.has key = value.members.has key := by
  rw [Members.has_eq, Members.has_eq, keys_surface]

theorem objectFault_surface (context : String) (value : Json) :
    value.surface.objectFault context = value.objectFault context := by
  rw [objectFault, kind_surface, objectFault]

theorem keyFault_surface (clause key : String) (value : Json) :
    value.surface.keyFault clause key = value.keyFault clause key := by
  rw [keyFault, has_surface, keyFault]

theorem typeFault_surface (clause key : String) (expected : Expected) (value : Json) :
    value.surface.typeFault clause key expected = value.typeFault clause key expected := by
  rw [typeFault, kind_surface, typeFault]

/-- A function of the surface has the same value for values with the same surface. -/
theorem eq_of_surface_eq {α : Type} (f : Json → α) (hf : ∀ v : Json, f v.surface = f v)
    (h : value.surface = value'.surface) : f value = f value' := by
  rw [← hf value, h, hf]

theorem kind?_classify_surface (document : Json) :
    (Clause.classify document.surface.members).kind? =
      (Clause.classify document.members).kind? := by
  obtain ⟨kind, alone, hc, hc', -⟩ | ⟨keys, hc, hc'⟩ :=
    Clause.classify_of_keys_eq (keys_surface document)
  · rw [hc, hc']
    rfl
  · rw [hc, hc']

end Json

/-! ## Where the reached steps look -/

namespace Step

/-- Whether every look that is reached is at a pointer with a property. -/
def LooksOnly (P : Json.Pointer → Prop) (steps : List Step) : Prop :=
  ∀ pointer fault, look pointer fault ∈ reached steps → P pointer

variable {P : Json.Pointer → Prop} {s t : List Step}

theorem looksOnly_tell_iff {e : Event} : LooksOnly P (tell e :: s) ↔ LooksOnly P s := by
  simp [LooksOnly, reached, fault?]

theorem looksOnly_look_iff {pointer : Json.Pointer} {fault : Option Fault} :
    LooksOnly P (look pointer fault :: s) ↔ P pointer ∧ (fault = none → LooksOnly P s) := by
  cases fault with
  | none =>
    simp only [LooksOnly, reached, fault?, Option.isSome_none, Bool.false_eq_true, if_false,
      List.mem_cons, look.injEq, forall_const]
    constructor
    · intro h
      exact ⟨h pointer none (.inl ⟨rfl, rfl⟩), fun p f hp => h p f (.inr hp)⟩
    · rintro ⟨hpointer, h⟩ p f (⟨rfl, -⟩ | hp)
      · exact hpointer
      · exact h p f hp
  | some fault => simp [LooksOnly, reached, fault?]

theorem looksOnly_append_iff :
    LooksOnly P (s ++ t) ↔ LooksOnly P s ∧ (firstFault s = none → LooksOnly P t) := by
  unfold LooksOnly
  rw [reached_append]
  split
  · next h => simp [h, or_imp, forall_and]
  · next h => simp [h]

theorem looksOnly_map_under_iff {access : Json.Access} :
    LooksOnly P (s.map (under access)) ↔ LooksOnly (fun pointer => P (access :: pointer)) s := by
  unfold LooksOnly
  rw [reached_map_under]
  constructor
  · intro h pointer fault hmem
    exact h _ fault (List.mem_map.2 ⟨_, hmem, rfl⟩)
  · intro h pointer fault hmem
    obtain ⟨step, hstep, heq⟩ := List.mem_map.1 hmem
    cases step with
    | tell e => contradiction
    | look p f =>
      obtain ⟨rfl, rfl⟩ := look.inj heq
      exact h p f hstep

theorem LooksOnly.imp {Q : Json.Pointer → Prop} (h : LooksOnly P s) (hPQ : ∀ p, P p → Q p) :
    LooksOnly Q s :=
  fun pointer fault hmem => hPQ pointer (h pointer fault hmem)

theorem firstFault_reached (s : List Step) : firstFault (reached s) = firstFault s := by
  induction s with
  | nil => rfl
  | cons step rest ih =>
    rw [reached, firstFault_cons]
    cases hfault : step.fault? with
    | none => simp [firstFault_cons, hfault, ih]
    | some fault => simp [firstFault_cons, hfault]

theorem reached_append_eq {s' t' : List Step} (hs : reached s' = reached s)
    (ht : firstFault s = none → reached t' = reached t) :
    reached (s' ++ t') = reached (s ++ t) := by
  have hfault : firstFault s' = firstFault s := by
    rw [← firstFault_reached, hs, firstFault_reached]
  rw [reached_append, reached_append, hs, hfault]
  split
  · next h => rw [ht h]
  · rfl

end Step

/-! ## Steps that depend on what is seen -/

/-- The reached steps are the same in values that look the same wherever these steps look. -/
def Framed (steps : Json → List Step) : Prop :=
  ∀ value value', LooksOnly (value.SameAt value') (steps value) →
    reached (steps value') = reached (steps value)

/-- As above, after a look at the value itself. -/
def FramedBelow (steps : Json → List Step) : Prop :=
  ∀ value value' : Json, value.surface = value'.surface →
    LooksOnly (value.SameAt value') (steps value) → reached (steps value') = reached (steps value)

theorem framedBelow_const (s : List Step) : FramedBelow fun _ => s :=
  fun _ _ _ _ => rfl

theorem Framed.below {f : Json → List Step} (h : Framed f) : FramedBelow f :=
  fun value value' _ => h value value'

theorem framed_look {f : Json → List Step} {fault : Json → Option Fault}
    (hfault : ∀ v : Json, fault v.surface = fault v) (h : FramedBelow f) :
    Framed fun value => look [] (fault value) :: f value := by
  intro value value' hlooks
  rw [looksOnly_look_iff, Json.sameAt_nil] at hlooks
  obtain ⟨hsurface, hrest⟩ := hlooks
  have heq : fault value = fault value' := Json.eq_of_surface_eq fault hfault hsurface
  dsimp only
  rw [← heq, reached, reached]
  cases hnone : fault value with
  | some f => rfl
  | none => exact congrArg (look [] none :: ·) (h value value' hsurface (hrest hnone))

namespace FramedBelow

variable {f g : Json → List Step}

theorem look {fault : Json → Option Fault} (hfault : ∀ v : Json, fault v.surface = fault v)
    (h : FramedBelow f) : FramedBelow fun value => Step.look [] (fault value) :: f value :=
  (framed_look hfault h).below

theorem tell (h : FramedBelow f) (e : Event) : FramedBelow fun value => Step.tell e :: f value :=
  fun value value' hsurface hlooks =>
    congrArg (Step.tell e :: ·) (h value value' hsurface (looksOnly_tell_iff.1 hlooks))

theorem append (hf : FramedBelow f) (hg : FramedBelow g) :
    FramedBelow fun value => f value ++ g value := by
  intro value value' hsurface hlooks
  obtain ⟨hlf, hlg⟩ := looksOnly_append_iff.1 hlooks
  exact reached_append_eq (hf value value' hsurface hlf)
    fun hnone => hg value value' hsurface (hlg hnone)

/-- Whether later steps are taken may depend on what the steps before them show. -/
theorem append_guard {c : Json → Prop} [DecidablePred c] (hf : FramedBelow f) (hg : FramedBelow g)
    (hc : ∀ value value' : Json, value.surface = value'.surface →
      LooksOnly (value.SameAt value') (f value) → firstFault (f value) = none →
      (c value ↔ c value')) :
    FramedBelow fun value => f value ++ if c value then g value else [] := by
  intro value value' hsurface hlooks
  obtain ⟨hlf, hlg⟩ := looksOnly_append_iff.1 hlooks
  refine reached_append_eq (hf value value' hsurface hlf) fun hnone => ?_
  have hguard := hlg hnone
  have hiff := hc value value' hsurface hlf hnone
  by_cases hcv : c value
  · rw [if_pos hcv] at hguard ⊢
    rw [if_pos (hiff.1 hcv)]
    exact hg value value' hsurface hguard
  · rw [if_neg hcv, if_neg (mt hiff.2 hcv)]

theorem guard {c : Json → Prop} [DecidablePred c] (hc : ∀ v : Json, c v.surface ↔ c v)
    (h : FramedBelow f) : FramedBelow fun value => if c value then f value else [] :=
  (framedBelow_const []).append_guard h fun value value' hsurface _ _ => by
    rw [← hc value, hsurface, hc]

end FramedBelow

/-- Objects with the same keys have values under the same keys. -/
theorem Json.get?_cases_of_surface_eq {value value' : Json} (h : value.surface = value'.surface)
    (key : String) :
    (value.members.get? key = none ∧ value'.members.get? key = none) ∨
      ∃ child child', value.members.get? key = some child ∧
        value'.members.get? key = some child' := by
  have hhas : value.members.has key = value'.members.has key :=
    eq_of_surface_eq (fun v => v.members.has key) (has_surface · key) h
  unfold Members.has at hhas
  cases hv : value.members.get? key <;> cases hv' : value'.members.get? key <;> simp_all

section Children

variable {into : Json → List Step} (hinto : Framed into)
include hinto

theorem framed_under {access : Json.Access} {value value' child child' : Json}
    (h : value.child? access = some child) (h' : value'.child? access = some child')
    (hlooks : LooksOnly (value.SameAt value') ((into child).map (under access))) :
    reached ((into child').map (under access)) = reached ((into child).map (under access)) := by
  rw [looksOnly_map_under_iff] at hlooks
  rw [reached_map_under, reached_map_under,
    hinto child child' (hlooks.imp fun pointer => (Json.sameAt_cons h h' pointer).1)]

theorem framedBelow_within (key : String) : FramedBelow (within key into) := by
  intro value value' hsurface hlooks
  unfold within at hlooks ⊢
  obtain ⟨hnone, hnone'⟩ | ⟨child, child', hsome, hsome'⟩ :=
    Json.get?_cases_of_surface_eq hsurface key
  · rw [hnone, hnone']
  · rw [hsome] at hlooks ⊢
    rw [hsome']
    exact framed_under hinto hsome hsome' hlooks

/-- The steps into the items from an index on, `rest` and `rest'` being these items. -/
theorem reached_through_eq {value value' : Json} {rest rest' : List Json} {index : Nat}
    (hlength : rest.length = rest'.length) (h : ∀ i, value.items[index + i]? = rest[i]?)
    (h' : ∀ i, value'.items[index + i]? = rest'[i]?)
    (hlooks : LooksOnly (value.SameAt value') (through into index rest)) :
    reached (through into index rest') = reached (through into index rest) := by
  induction rest generalizing rest' index with
  | nil => rw [List.eq_nil_of_length_eq_zero hlength.symm]
  | cons child rest ih =>
    obtain ⟨child', rest', rfl⟩ := List.exists_cons_of_length_eq_add_one hlength.symm
    obtain ⟨hchild, htail⟩ := looksOnly_append_iff.1 hlooks
    refine reached_append_eq (framed_under hinto (h 0) (h' 0) hchild) fun hnone => ?_
    apply ih (Nat.succ.inj hlength) _ _ (htail hnone)
    · intro i
      rw [Nat.add_assoc, Nat.add_comm 1 i, h (i + 1), List.getElem?_cons_succ]
    · intro i
      rw [Nat.add_assoc, Nat.add_comm 1 i, h' (i + 1), List.getElem?_cons_succ]

theorem framedBelow_through : FramedBelow fun value => through into 0 value.items := by
  intro value value' hsurface
  have hlength : value.items.length = value'.items.length :=
    Json.eq_of_surface_eq (fun v => v.items.length) Json.length_items_surface hsurface
  apply reached_through_eq hinto hlength <;> intro i <;> rw [Nat.zero_add]

end Children

theorem framedBelow_withinOnly {into : String → Json → List Step}
    (hinto : ∀ key, Framed (into key)) : FramedBelow (withinOnly into) := by
  intro value value' hsurface hlooks
  unfold withinOnly at hlooks ⊢
  have hkeys : value.members.keys = value'.members.keys :=
    Json.eq_of_surface_eq (fun v => v.members.keys) Json.keys_surface hsurface
  have hlength := Json.Members.length_eq_of_keys_eq hkeys
  by_cases hone : value.members.length = 1
  · obtain ⟨⟨key, child⟩, hmembers⟩ := List.length_eq_one_iff.1 hone
    obtain ⟨⟨key', child'⟩, hmembers'⟩ := List.length_eq_one_iff.1 (hlength ▸ hone)
    rw [hmembers, hmembers'] at hkeys
    obtain rfl : key = key' := List.singleton_inj.1 hkeys
    rw [hmembers] at hlooks ⊢
    rw [hmembers']
    refine framed_under (hinto key) ?_ ?_ hlooks
    · rw [Json.child?, hmembers, Json.Members.get?_cons, if_pos rfl]
    · rw [Json.child?, hmembers', Json.Members.get?_cons, if_pos rfl]
  · rw [Json.Members.single?_eq_none hone, Json.Members.single?_eq_none (hlength ▸ hone)]

/-- After steps into the value under a key, which is looked at first, its surface is known. -/
theorem Json.surface_eq_of_within {into : Json → List Step}
    (hfirst : ∀ child, ∃ fault rest, into child = look [] fault :: rest) {value value' : Json}
    {key : String} (hsurface : value.surface = value'.surface)
    (hlooks : LooksOnly (value.SameAt value') (within key into value)) :
    (value.members.get? key).map surface = (value'.members.get? key).map surface := by
  unfold within at hlooks
  obtain ⟨hnone, hnone'⟩ | ⟨child, child', hsome, hsome'⟩ := get?_cases_of_surface_eq hsurface key
  · rw [hnone, hnone']
  · obtain ⟨fault, rest, hinto⟩ := hfirst child
    rw [hsome] at hlooks
    dsimp only at hlooks
    rw [hinto, looksOnly_map_under_iff, looksOnly_look_iff] at hlooks
    have hchild : value.child? (.member key) = some child := hsome
    have hsame : child.SameAt child' [] := (sameAt_cons hchild hsome' []).1 hlooks.1
    rw [hsome, hsome', Option.map_some, Option.map_some, sameAt_nil.1 hsame]

/-! ## Leaf clauses -/

open Json

theorem framed_textSteps (clause key : String) : Framed (textSteps clause key) :=
  framed_look (typeFault_surface clause key .text) (framedBelow_const [])

theorem framed_freeSteps : Framed freeSteps :=
  framed_look (fun _ => rfl) (framedBelow_const [])

namespace Search

theorem hasDefaultType_eq (body : Json) :
    hasDefaultType body =
      match (body.members.get? "type").map surface with
      | none => true
      | some (.str type) => type == "best_fields"
      | some _ => false := by
  unfold hasDefaultType
  cases body.members.get? "type" with
  | none => rfl
  | some value => cases value <;> rfl

theorem framedBelow_multiMatchSteps : FramedBelow multiMatchSteps :=
  (framedBelow_within framed_freeSteps "type").append_guard
    ((framedBelow_const []).look (keyFault_surface "multi_match" "query"))
    fun value value' hsurface hlooks _ => by
      have htype := surface_eq_of_within (fun _ => ⟨_, _, rfl⟩) hsurface hlooks
      rw [hasDefaultType_eq, htype, ← hasDefaultType_eq]

theorem framed_fieldsSteps : Framed fieldsSteps :=
  framed_look (typeFault_surface "simple_query_string" "fields" .list)
    (framedBelow_through (framed_textSteps "simple_query_string" "fields"))

theorem isKeyed_surface (body : Json) : IsKeyed body.surface ↔ IsKeyed body := by
  simp only [IsKeyed, length_members_surface, has_surface]

theorem framedBelow_simpleSteps : FramedBelow simpleSteps :=
  ((framedBelow_within (framed_textSteps "simple_query_string" "query") "query").append
    (framedBelow_within framed_fieldsSteps "fields")).guard isKeyed_surface

end Search

namespace Pattern

theorem fault_surface (clause field : String) (value : Json) :
    fault clause field value.surface = fault clause field value := by
  rw [fault, kind_surface, keyFault_surface, typeFault_surface, fault]

theorem framed_steps (clause field : String) : Framed (steps clause field) :=
  framed_look (fault_surface clause field)
    (framedBelow_within (framed_textSteps clause "value") "value")

theorem hasPrefixForm_surface (value : Json) :
    hasPrefixForm value.surface = hasPrefixForm value := by
  cases value with
  | obj options =>
    have hlength := length_members_surface (.obj options)
    have hvalue := has_surface (.obj options) "value"
    exact congrArg₂ (fun length has => length == 1 && has) hlength hvalue
  | _ => rfl

end Pattern

theorem Leaf.framedBelow_steps (l : Leaf) : FramedBelow l.steps := by
  cases l with
  | multiMatch => exact Search.framedBelow_multiMatchSteps
  | queryString => exact (framedBelow_const []).look (keyFault_surface "query_string" "query")
  | simpleQueryString => exact Search.framedBelow_simpleSteps
  | range =>
    exact framedBelow_withinOnly fun _ =>
      framed_look (objectFault_surface "range bounds") (framedBelow_const [])
  | existence =>
    exact ((framedBelow_const []).look (keyFault_surface "exists" "field")).guard
      fun body => by rw [length_members_surface]
  | wildcard => exact framedBelow_withinOnly (Pattern.framed_steps "wildcard")
  | beginning =>
    refine framedBelow_withinOnly fun field => framed_look (fun _ => rfl) ?_
    exact (Pattern.framed_steps "prefix" field).below.guard fun value => by
      rw [Pattern.hasPrefixForm_surface]
  | term | terms | matching | matchPhrase | matchAll => exact framedBelow_const []

/-! ## Documents -/

namespace BoolClause

/-- How many clauses a list holds is seen when the list is looked at. -/
theorem length_documentsAt (body : Json) (key : String) :
    (body.documentsAt key).length =
      match (body.members.get? key).map surface with
      | some (.arr items) => items.length
      | some (.obj _) => 1
      | _ => 0 := by
  unfold documentsAt
  cases body.members.get? key with
  | none => rfl
  | some value =>
    cases value with
    | arr items => exact (List.length_map _).symm
    | _ => rfl

/-- Whether a minimum is honoured is seen when it is looked at. -/
theorem minimum_surface (given : Option Json) (required : Nat) :
    (Minimum.effective (given.map surface) required).1 = (Minimum.effective given required).1 := by
  cases given with
  | none => rfl
  | some value =>
    have hreading : value.surface.reading? = value.reading? := by cases value <;> rfl
    have hhonoured : Minimum.honoured? value.surface = Minimum.honoured? value := by
      rw [Minimum.honoured?, hreading, Minimum.honoured?]
    rw [Option.map_some, Minimum.effective, hhonoured, Minimum.effective]
    cases Minimum.honoured? value <;> rfl

theorem minimum_eq {body body' : Json}
    (hmust : (body.members.get? "must").map surface = (body'.members.get? "must").map surface)
    (hfilter : (body.members.get? "filter").map surface = (body'.members.get? "filter").map surface)
    (hminimum : (body.members.get? "minimum_should_match").map surface =
      (body'.members.get? "minimum_should_match").map surface) :
    (minimum body).1 = (minimum body').1 := by
  have hlength : (required body).length = (required body').length := by
    rw [required, required, List.length_append, List.length_append, length_documentsAt,
      length_documentsAt, hmust, hfilter, ← length_documentsAt, ← length_documentsAt]
  rw [minimum, ← minimum_surface, hminimum, hlength, minimum_surface, minimum]

variable {inner : Json → List Step} (hinner : Framed inner)
include hinner

theorem framed_listSteps (key : String) : Framed (listSteps inner key) := by
  refine framed_look (typeFault_surface "bool" key .clauses) fun value value' hsurface => ?_
  have hkind : value.kind = value'.kind := eq_of_surface_eq kind kind_surface hsurface
  rw [← hkind]
  cases value.kind with
  | array => exact framedBelow_through hinner value value' hsurface
  | object => exact hinner value value'
  | _ => exact fun _ => rfl

theorem framedBelow_steps : FramedBelow (BoolClause.steps inner) := by
  have hlist (key : String) : FramedBelow (within key (listSteps inner key)) :=
    framedBelow_within (framed_listSteps hinner key) key
  refine FramedBelow.append ?_ (hlist "must_not")
  refine (((hlist "must").append (hlist "filter")).append
    (framedBelow_within framed_freeSteps "minimum_should_match")).append_guard (hlist "should") ?_
  -- The three values that decide on the minimum are looked at before the `should` clauses.
  intro body body' hsurface hlooks hnone
  rw [firstFault_append, firstFault_append, Option.or_eq_none_iff, Option.or_eq_none_iff] at hnone
  rw [looksOnly_append_iff, looksOnly_append_iff, firstFault_append] at hlooks
  obtain ⟨⟨hmust, hfilter⟩, hminimum⟩ := hlooks
  obtain ⟨⟨hnone, hnone'⟩, -⟩ := hnone
  rw [minimum_eq (surface_eq_of_within (fun _ => ⟨_, _, rfl⟩) hsurface hmust)
    (surface_eq_of_within (fun _ => ⟨_, _, rfl⟩) hsurface (hfilter hnone))
    (surface_eq_of_within (fun _ => ⟨_, _, rfl⟩) hsurface
      (hminimum (Option.or_eq_none_iff.2 ⟨hnone, hnone'⟩)))]

end BoolClause

section Compounds

variable {inner : Json → List Step} (hinner : Framed inner)
include hinner

theorem Wrapper.framed_disMaxSteps : Framed (disMaxSteps inner) :=
  framed_look (typeFault_surface "dis_max" "queries" .list) (framedBelow_through hinner)

theorem Clause.Kind.framedBelow_steps (kind : Kind) : FramedBelow (kind.steps inner) := by
  cases kind with
  | bool => exact BoolClause.framedBelow_steps hinner
  | boosting =>
    exact (framedBelow_within hinner "positive").look (keyFault_surface "boosting" "positive")
  | constantScore =>
    exact (framedBelow_within hinner "filter").look (keyFault_surface "constant_score" "filter")
  | disMax =>
    exact (framedBelow_within (Wrapper.framed_disMaxSteps hinner) "queries").look
      (keyFault_surface "dis_max" "queries")
  | nested =>
    exact (framedBelow_within hinner "query").guard fun body => by
      rw [length_members_surface, has_surface]
  | leaf l => exact l.framedBelow_steps
  | query => exact framedBelow_const []

theorem Clause.framedBelow_steps (kind : Option Kind) : FramedBelow (steps inner kind) := by
  have hbody (kind : Kind) : FramedBelow
      (within kind.key fun body => .look [] (body.objectFault kind.key) :: kind.steps inner body) :=
    framedBelow_within
      (framed_look (objectFault_surface kind.key) (kind.framedBelow_steps hinner)) kind.key
  cases kind with
  | none => exact framedBelow_const []
  | some kind =>
    cases kind with
    | query =>
      exact (framedBelow_within hinner "query").guard fun document => by
        rw [length_members_surface]
    | bool => exact hbody .bool
    | boosting => exact hbody .boosting
    | constantScore => exact hbody .constantScore
    | disMax => exact hbody .disMax
    | nested => exact hbody .nested
    | leaf l => exact hbody (.leaf l)

end Compounds

/-- The reached steps are the same in documents that look the same wherever these steps look. -/
theorem framed_steps (levels : Nat) (env : Env) : Framed (Json.steps levels env) := by
  induction levels generalizing env with
  | zero => exact fun _ _ _ => rfl
  | succ levels ih =>
    refine framed_look (objectFault_surface "clause") fun document document' hsurface => ?_
    have hkind := eq_of_surface_eq (fun document => (Clause.classify document.members).kind?)
      kind?_classify_surface hsurface
    rw [← hkind]
    exact (Clause.framedBelow_steps (ih env.descend) _).tell _ document document' hsurface

end ClauseFilter
