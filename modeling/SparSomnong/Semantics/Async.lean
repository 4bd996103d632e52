/-! Asynchronous functions that run on the outcomes of the calls they await.

An exception leaves the function at once and keeps what was set before it. A call
that is not awaited runs to its end too, but its exceptions reach no one.
-/

set_option autoImplicit false

namespace SparSomnong.Semantics

variable {Error State A B : Type}

abbrev Async (Error State : Type) := EStateM Error State

namespace Async

def await (outcome : Except Error A) : Async Error State A := fun state =>
  match outcome with
  | .ok value => .ok value state
  | .error thrown => .error thrown state

/-- A call without `await`, whose exceptions nobody catches. -/
def unawaited (task : Async Error State Unit) : Async Error State Unit := fun state =>
  match task state with
  | .ok _ next | .error _ next => .ok () next

/-- The weakest precondition: where the function returns, its value and state are in
`returns`, and where it throws, its exception and state are in `throws`. -/
def wp (task : Async Error State A) (returns : A → State → Prop) (throws : Error → State → Prop)
    (state : State) : Prop :=
  match task state with
  | .ok value next => returns value next
  | .error thrown next => throws thrown next

/-- What holds of the state once the function has ended, by an exception or not. -/
def Ends (task : Async Error State A) (post : State → Prop) (state : State) : Prop :=
  task.wp (fun _ => post) (fun _ => post) state

def after (task : Async Error State A) (state : State) : State :=
  match task state with
  | .ok _ next | .error _ next => next

section
variable {returns : B → State → Prop} {throws : Error → State → Prop} {state : State}

@[simp] theorem wp_pure (value : B) :
    wp (pure value : Async Error State B) returns throws state ↔ returns value state := Iff.rfl

@[simp] theorem wp_throw (thrown : Error) :
    wp (throw thrown : Async Error State B) returns throws state ↔ throws thrown state := Iff.rfl

@[simp] theorem wp_modify {after : Unit → State → Prop} (change : State → State) :
    wp (modify change : Async Error State Unit) after throws state ↔ after () (change state) :=
  Iff.rfl

@[simp] theorem wp_bind (task : Async Error State A) (rest : A → Async Error State B) :
    wp (task >>= rest) returns throws state ↔
      wp task (fun value next => wp (rest value) returns throws next) throws state := by
  simp only [wp, bind, EStateM.bind]
  cases task state <;> rfl

@[simp] theorem wp_map (change : A → B) (task : Async Error State A) :
    wp (change <$> task) returns throws state ↔
      wp task (fun value => returns (change value)) throws state := by
  simp only [wp, Functor.map, EStateM.map]
  cases task state <;> rfl

@[simp] theorem wp_await (outcome : Except Error B) :
    wp (await outcome) returns throws state ↔
      (∀ value, outcome = .ok value → returns value state) ∧
        ∀ thrown, outcome = .error thrown → throws thrown state := by
  cases outcome <;> simp [wp, await]

@[simp] theorem wp_tryCatch (task : Async Error State B) (handler : Error → Async Error State B) :
    wp (tryCatch task handler) returns throws state ↔
      wp task returns (fun thrown next => wp (handler thrown) returns throws next) state := by
  simp only [wp, tryCatch, tryCatchThe, MonadExceptOf.tryCatch]
  delta EStateM.tryCatch
  cases task state <;> rfl

@[simp] theorem wp_unawaited {after : Unit → State → Prop} (task : Async Error State Unit) :
    wp (unawaited task) after throws state ↔ task.Ends (after ()) state := by
  simp only [wp, unawaited, Ends]
  cases task state <;> rfl

end

end Async

end SparSomnong.Semantics
