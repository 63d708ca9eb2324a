import ClauseFilter.Predicate
import ClauseFilter.Trace

/-!
# Rules for traced computations

How the events and the outcome of a composed computation come from those of its steps. A computation
that ends without a fault is taken apart at its binds (`bind_eq_ok_iff`, `each_eq_ok_iff`). Two
computations that are composed alike are compared step by step, by any relation that sequencing
keeps (`Congruence`).
-/

namespace ClauseFilter.Traced

variable {α β : Type}

/-! ## Sequencing -/

theorem lift_ok (a : α) : (liftM (Except.ok a : Except Fault α) : Traced α) = pure a := rfl

theorem lift_error (fault : Fault) :
    (liftM (Except.error fault : Except Fault α) : Traced α) = ⟨[], .error fault⟩ := rfl

theorem error_bind (events : List Event) (fault : Fault) (f : α → Traced β) :
    (⟨events, .error fault⟩ : Traced α) >>= f = ⟨events, .error fault⟩ := rfl

theorem ok_bind (events : List Event) (a : α) (f : α → Traced β) :
    (⟨events, .ok a⟩ : Traced α) >>= f = ⟨events ++ (f a).events, (f a).outcome⟩ := rfl

theorem events_prefix_bind (x : Traced α) (f : α → Traced β) : x.events <+: (x >>= f).events := by
  obtain ⟨events, outcome⟩ := x
  cases outcome with
  | error fault => exact List.prefix_rfl
  | ok a => exact List.prefix_append _ _

theorem bind_eq_ok_iff {x : Traced α} {f : α → Traced β} {events : List Event} {b : β} :
    x >>= f = ⟨events, .ok b⟩ ↔
      ∃ before a after, x = ⟨before, .ok a⟩ ∧ f a = ⟨after, .ok b⟩ ∧ events = before ++ after := by
  obtain ⟨before, outcome⟩ := x
  cases outcome with
  | error fault => simp [error_bind]
  | ok a =>
    rw [ok_bind]
    constructor
    · intro h
      obtain ⟨rfl, ho⟩ := Traced.mk.inj h
      exact ⟨before, a, (f a).events, rfl, ext rfl ho, rfl⟩
    · rintro ⟨_, _, after, ⟨⟩, hf, rfl⟩
      rw [hf]

theorem lift_eq_ok_iff {outcome : Except Fault α} {events : List Event} {a : α} :
    (liftM outcome : Traced α) = ⟨events, .ok a⟩ ↔ outcome = .ok a ∧ events = [] := by
  cases outcome with
  | error fault => simp [lift_error]
  | ok b =>
    rw [lift_ok]
    constructor
    · intro h
      obtain ⟨rfl, ⟨⟩⟩ := Traced.mk.inj h
      exact ⟨rfl, rfl⟩
    · rintro ⟨⟨⟩, rfl⟩
      rfl

theorem lift_bind_eq_ok_iff {outcome : Except Fault α} {f : α → Traced β} {events : List Event}
    {b : β} :
    liftM outcome >>= f = ⟨events, .ok b⟩ ↔ ∃ a, outcome = .ok a ∧ f a = ⟨events, .ok b⟩ := by
  cases outcome with
  | error fault => simp [lift_error, error_bind]
  | ok a => simp [lift_ok]

theorem pure_eq_ok_iff {a b : α} {events : List Event} :
    (pure a : Traced α) = ⟨events, .ok b⟩ ↔ a = b ∧ events = [] := by
  rw [← lift_ok, lift_eq_ok_iff, Except.ok.injEq]

/-! ## Translations -/

/-- The predicate of a translation, which tells of the fault if one has ended it. -/
def predicate (x : Traced Predicate) : Predicate :=
  match x.outcome with
  | .ok p => p
  | .error fault => .untranslatable ("Invalid " ++ fault.message) "Invalid query"

theorem predicate_of_ok {x : Traced Predicate} {p : Predicate} (h : x.outcome = .ok p) :
    x.predicate = p := by
  simp [predicate, h]

/-- Whether a translation ends without a fault. -/
def Succeeds (x : Traced Predicate) : Prop :=
  x.outcome = .ok x.predicate

theorem succeeds_of_ok {x : Traced Predicate} {p : Predicate} (h : x.outcome = .ok p) :
    x.Succeeds := by
  rw [Succeeds, predicate_of_ok h, h]

/-- A list of translations ends without a fault when each of them does. -/
theorem each_eq_ok_iff {f : α → Traced Predicate} {as : List α} {events : List Event}
    {ps : List Predicate} :
    each f as = ⟨events, .ok ps⟩ ↔
      (∀ a ∈ as, (f a).Succeeds) ∧ ps = as.map (fun a => (f a).predicate) ∧
        events = as.flatMap fun a => (f a).events := by
  induction as generalizing events ps with
  | nil => simp [each, pure_eq_ok_iff, and_comm, eq_comm]
  | cons a rest ih =>
    simp only [each, bind_eq_ok_iff, ih, pure_eq_ok_iff, List.forall_mem_cons, List.map_cons,
      List.flatMap_cons]
    constructor
    · rintro ⟨before, p, _, hp, ⟨_, _, _, ⟨hrest, rfl, rfl⟩, ⟨rfl, rfl⟩, rfl⟩, rfl⟩
      simp only [hp, predicate, Succeeds, List.append_nil, true_and]
      exact ⟨hrest, trivial⟩
    · rintro ⟨⟨ha, hrest⟩, rfl, rfl⟩
      exact ⟨_, _, _, ext rfl ha, ⟨_, _, [], ⟨hrest, rfl, rfl⟩, ⟨rfl, rfl⟩, rfl⟩, by simp⟩

/-! ## Computations that are composed alike -/

/-- A relation between computations that holds of equal outcomes without events, and that sequencing
keeps. What comes next only matters for a value that the first computation can end with. -/
structure Congruence (R : ∀ ⦃α : Type⦄, Traced α → Traced α → Prop) : Prop where
  lift : ∀ ⦃α : Type⦄ (outcome : Except Fault α), R (liftM outcome) (liftM outcome)
  bind : ∀ ⦃α β : Type⦄ {x y : Traced α} {f g : α → Traced β},
    R x y → (∀ a, x.outcome = .ok a → R (f a) (g a)) → R (x >>= f) (y >>= g)

namespace Congruence

variable {R : ∀ ⦃α : Type⦄, Traced α → Traced α → Prop}

theorem pure (hR : Congruence R) (a : α) : R (Pure.pure a : Traced α) (Pure.pure a) :=
  hR.lift (.ok a)

theorem lift_bind (hR : Congruence R) (outcome : Except Fault α) {f g : α → Traced β}
    (h : ∀ a, outcome = .ok a → R (f a) (g a)) :
    R (liftM outcome >>= f) (liftM outcome >>= g) := by
  cases outcome with
  | error fault => exact hR.lift (.error fault)
  | ok a =>
    rw [lift_ok, pure_bind, pure_bind]
    exact h a rfl

theorem each (hR : Congruence R) {f g : α → Traced β} {as : List α}
    (h : ∀ a ∈ as, R (f a) (g a)) : R (Traced.each f as) (Traced.each g as) := by
  induction as with
  | nil => exact hR.pure []
  | cons a rest ih =>
    obtain ⟨ha, hrest⟩ := List.forall_mem_cons.1 h
    exact hR.bind ha fun b _ => hR.bind (ih hrest) fun bs _ => hR.pure (b :: bs)

/-- What holds of no events and of events one after the other holds of what a composed computation
emits. -/
theorem of_events {E : List Event → Prop} (nil : E []) (append : ∀ {a b}, E a → E b → E (a ++ b)) :
    Congruence fun ⦃α⦄ (x _ : Traced α) => E x.events where
  lift _ outcome := by cases outcome <;> exact nil
  bind _ _ x _ f _ hx hf := by
    obtain ⟨events, outcome⟩ := x
    cases outcome with
    | error fault => exact hx
    | ok a => exact append hx (hf a rfl)

end Congruence

end ClauseFilter.Traced
