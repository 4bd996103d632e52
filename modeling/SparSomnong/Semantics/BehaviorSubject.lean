import Mathlib.Logic.Basic

/-! A stream that keeps its latest event.

A new listener is handed the latest event, and every listener is handed each
later one. Adding an event to a closed subject is an error of the caller.
-/

set_option autoImplicit false

namespace SparSomnong.Semantics

structure BehaviorSubject (α : Type) where
  value : Option α := none
  closed : Bool := false
  deriving DecidableEq, Repr

namespace BehaviorSubject

variable {α : Type}

/-- The subject after `add`, or nothing where `add` throws a StateError. -/
def add (subject : BehaviorSubject α) (event : α) : Option (BehaviorSubject α) :=
  if subject.closed then none else some { subject with value := some event }

def close (subject : BehaviorSubject α) : BehaviorSubject α := { subject with closed := true }

def hasValue (subject : BehaviorSubject α) : Bool := subject.value.isSome

end BehaviorSubject

end SparSomnong.Semantics
