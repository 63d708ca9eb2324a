import ClauseFilter.Clause
import ClauseFilter.Fault

/-!
# Traced computations

While a document is translated events are told in order. A traced computation has the events told so
far and an outcome; a fault ends it, and the events before the fault remain.
-/

namespace ClauseFilter

inductive Event where
  /-- A clause of a kind, or of none that is known, is translated at a depth. -/
  | clause (kind : Option Clause.Kind) (depth : Nat)
  /-- A clause lies deeper than the maximum depth. -/
  | depthExceeded (maxDepth : Nat)
  /-- A document has no translation because of a fault. -/
  | failed (fault : Fault) (document : Json)

/-- How much an event matters. -/
inductive Level where
  | debug
  | info
  | warn
deriving DecidableEq

def Level.label : Level → String
  | debug => "DEBUG"
  | info => "INFO"
  | warn => "WARN"

def Event.level : Event → Level
  | clause _ _ => .debug
  | depthExceeded _ => .warn
  | failed _ _ => .warn

/-- What an event says, apart from its details. -/
def Event.message : Event → String
  | clause _ _ => "translating clause"
  | depthExceeded _ => "clause nesting exceeds the maximum depth"
  | failed _ _ => "unable to translate query"

/-- Events in order, and an outcome that a fault may have cut short. -/
structure Traced (α : Type) where
  events : List Event
  outcome : Except Fault α

namespace Traced

variable {α β : Type}

def emit (event : Event) : Traced Unit :=
  ⟨[event], .ok ()⟩

def ofExcept (outcome : Except Fault α) : Traced α :=
  ⟨[], outcome⟩

protected def pure (a : α) : Traced α :=
  ⟨[], .ok a⟩

protected def bind (x : Traced α) (f : α → Traced β) : Traced β :=
  match x.outcome with
  | .error fault => ⟨x.events, .error fault⟩
  | .ok a => ⟨x.events ++ (f a).events, (f a).outcome⟩

instance : Monad Traced where
  pure := Traced.pure
  bind := Traced.bind

instance : MonadLift (Except Fault) Traced where
  monadLift := ofExcept

@[ext]
theorem ext {x y : Traced α} (events : x.events = y.events) (outcome : x.outcome = y.outcome) :
    x = y := by
  cases x; cases y; simp_all

instance : LawfulMonad Traced :=
  LawfulMonad.mk' Traced
    (fun x => by
      obtain ⟨events, outcome⟩ := x
      cases outcome <;> simp [Functor.map, Traced.bind, Traced.pure])
    (fun a f => by simp [Bind.bind, Pure.pure, Traced.bind, Traced.pure])
    (fun x f g => by
      obtain ⟨events, outcome⟩ := x
      cases outcome with
      | error fault => rfl
      | ok a =>
        simp only [Bind.bind, Traced.bind]
        cases h : (f a).outcome <;> simp)

/-- Does the same with every item of a list, in order. -/
def each (f : α → Traced β) : List α → Traced (List β)
  | [] => pure []
  | a :: rest => do
    let b ← f a
    let bs ← each f rest
    pure (b :: bs)

end Traced

end ClauseFilter
