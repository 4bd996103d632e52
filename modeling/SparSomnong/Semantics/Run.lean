import Mathlib.Logic.Basic

/-! Runs of a partial, deterministic step function labelled by actions.

Every source of nondeterminism (the network, the server, the user) is an
action, so a run is a list of actions and a property of all interleavings is
a property of all lists. A guard restricts the actions that may be taken in a
state; `Meets` says that every step of a run kept to its guard.
-/

set_option autoImplicit false

namespace SparSomnong.Semantics

variable {State Action : Type}

/-- The state after the actions, or nothing when one of them is not enabled. -/
def run (step : State → Action → Option State) : State → List Action → Option State
  | state, [] => some state
  | state, action :: rest =>
    match step state action with
    | some next => run step next rest
    | none => none

/-- Every step of the run keeps to `guard` in the state it is taken from. -/
def Meets (step : State → Action → Option State) (guard : State → Action → Prop) :
    State → List Action → Prop
  | _, [] => True
  | state, action :: rest => guard state action ∧
    match step state action with
    | some next => Meets step guard next rest
    | none => True

/-- `P` holds in every state of the run, the first one included. -/
def Always (step : State → Action → Option State) (P : State → Prop) :
    State → List Action → Prop
  | state, [] => P state
  | state, action :: rest => P state ∧
    match step state action with
    | some next => Always step P next rest
    | none => True

section
variable {step : State → Action → Option State} {guard : State → Action → Prop}

instance decidableMeets [∀ state action, Decidable (guard state action)] :
    (state : State) → (actions : List Action) → Decidable (Meets step guard state actions)
  | _, [] => isTrue trivial
  | state, action :: rest =>
    have tail : Decidable (match step state action with
        | some next => Meets step guard next rest
        | none => True) :=
      match step state action with
      | some next => decidableMeets next rest
      | none => isTrue trivial
    @instDecidableAnd _ _ inferInstance tail

theorem run_cons_eq_some {state final : State} {action : Action} {rest : List Action} :
    run step state (action :: rest) = some final ↔
      ∃ next, step state action = some next ∧ run step next rest = some final := by
  cases taken : step state action with
  | none => simp [run, taken]
  | some next => simp [run, taken]

theorem run_append_eq_some {state final : State} {first rest : List Action} :
    run step state (first ++ rest) = some final ↔
      ∃ middle, run step state first = some middle ∧ run step middle rest = some final := by
  induction first generalizing state with
  | nil => simp [run]
  | cons action tail ih =>
    cases taken : step state action with
    | none => simp [run, taken]
    | some next => simpa [run, taken] using ih

theorem run_concat {state next final : State} {actions : List Action} {action : Action}
    (reached : run step state actions = some next) (taken : step next action = some final) :
    run step state (actions ++ [action]) = some final := by
  rw [run_append_eq_some]
  exact ⟨next, reached, run_cons_eq_some.mpr ⟨final, taken, rfl⟩⟩

theorem run_of_total (total : ∀ state action, ∃ next, step state action = some next)
    (state : State) (actions : List Action) : ∃ final, run step state actions = some final := by
  induction actions generalizing state with
  | nil => exact ⟨state, rfl⟩
  | cons action rest ih =>
    obtain ⟨next, taken⟩ := total state action
    obtain ⟨final, tail⟩ := ih next
    exact ⟨final, run_cons_eq_some.mpr ⟨next, taken, tail⟩⟩

theorem exists_of_run {state : State} {actions : List Action} {test : State → Bool}
    (found : (run step state actions).any test = true) :
    ∃ final, run step state actions = some final ∧ test final = true := by
  cases reached : run step state actions with
  | none => simp [reached] at found
  | some final => exact ⟨final, rfl, by simpa [reached] using found⟩

theorem meets_cons {state next : State} {action : Action} {rest : List Action}
    (taken : step state action = some next) :
    Meets step guard state (action :: rest) ↔ guard state action ∧ Meets step guard next rest := by
  simp [Meets, taken]

theorem Meets.mono {weak : State → Action → Prop}
    (implies : ∀ state action, guard state action → weak state action)
    {state : State} {actions : List Action} (meets : Meets step guard state actions) :
    Meets step weak state actions := by
  induction actions generalizing state with
  | nil => trivial
  | cons action rest ih =>
    refine ⟨implies _ _ meets.1, ?_⟩
    have tail := meets.2
    cases taken : step state action with
    | none => trivial
    | some next =>
      rw [taken] at tail
      exact ih tail

theorem meets_true (state : State) (actions : List Action) :
    Meets step (fun _ _ => True) state actions := by
  induction actions generalizing state with
  | nil => trivial
  | cons action rest ih =>
    refine ⟨trivial, ?_⟩
    cases step state action with
    | none => trivial
    | some next => exact ih next

theorem meets_iff_forall {allowed : Action → Prop} {state final : State} {actions : List Action}
    (reached : run step state actions = some final) :
    Meets step (fun _ action => allowed action) state actions ↔ ∀ action ∈ actions, allowed action := by
  induction actions generalizing state with
  | nil => exact iff_of_true trivial fun _ member => absurd member List.not_mem_nil
  | cons action rest ih =>
    obtain ⟨next, taken, tail⟩ := run_cons_eq_some.mp reached
    rw [meets_cons taken, ih tail, List.forall_mem_cons]

/-- The invariant rule: what every guarded step keeps, every guarded run keeps. -/
theorem run_invariant (Inv : State → Prop)
    (keep : ∀ state action next, Inv state → guard state action →
      step state action = some next → Inv next)
    {state final : State} {actions : List Action} (start : Inv state)
    (meets : Meets step guard state actions) (reached : run step state actions = some final) :
    Inv final := by
  -- on the actions, for every state they are taken from
  induction actions generalizing state with
  | nil => cases reached; exact start
  | cons action rest ih =>
    obtain ⟨next, taken, tail⟩ := run_cons_eq_some.mp reached
    obtain ⟨allowed, meets⟩ := (meets_cons taken).mp meets
    exact ih (keep state action next start allowed taken) meets tail

theorem run_invariant_of_step (Inv : State → Prop)
    (keep : ∀ state action next, Inv state → step state action = some next → Inv next)
    {state final : State} {actions : List Action} (start : Inv state)
    (reached : run step state actions = some final) : Inv final := by
  induction actions generalizing state with
  | nil => cases reached; exact start
  | cons action rest ih =>
    obtain ⟨next, taken, tail⟩ := run_cons_eq_some.mp reached
    exact ih (keep state action next start taken) tail

theorem run_history (Inv : List Action → State → Prop)
    (keep : ∀ before state action next, Inv before state → step state action = some next →
      Inv (before ++ [action]) next)
    {first final : State} {actions : List Action} (start : Inv [] first)
    (reached : run step first actions = some final) : Inv actions final := by
  have onward : ∀ (rest before : List Action) (state : State), Inv before state →
      run step state rest = some final → Inv (before ++ rest) final := by
    intro rest
    induction rest with
    | nil =>
      intro before state inv reached
      cases reached
      rwa [List.append_nil]
    | cons action rest ih =>
      intro before state inv reached
      obtain ⟨next, taken, tail⟩ := run_cons_eq_some.mp reached
      have whole := ih (before ++ [action]) next (keep before state action next inv taken) tail
      rwa [List.append_assoc] at whole
  exact onward actions [] first start reached

theorem always_cons {P : State → Prop} {state next : State} {action : Action}
    {rest : List Action} (taken : step state action = some next) :
    Always step P state (action :: rest) ↔ P state ∧ Always step P next rest := by
  simp [Always, taken]

theorem Always.first {P : State → Prop} {state : State} {actions : List Action}
    (always : Always step P state actions) : P state := by
  cases actions with
  | nil => exact always
  | cons action rest => exact always.1

/-- Where a guard says exactly which steps keep `P`, it says exactly which runs do. -/
theorem always_iff_meets {P : State → Prop} (Inv : State → Prop)
    (keep : ∀ state action next, Inv state → step state action = some next → Inv next)
    (exact : ∀ state action next, Inv state → P state → step state action = some next →
      (P next ↔ guard state action))
    {state final : State} {actions : List Action} (inv : Inv state) (start : P state)
    (reached : run step state actions = some final) :
    Always step P state actions ↔ Meets step guard state actions := by
  induction actions generalizing state with
  | nil => exact ⟨fun _ => trivial, fun _ => start⟩
  | cons action rest ih =>
    obtain ⟨next, taken, tail⟩ := run_cons_eq_some.mp reached
    have kept := exact state action next inv start taken
    have tailIff := fun good => ih (keep state action next inv taken) good tail
    rw [always_cons taken, meets_cons taken]
    constructor
    · intro always
      have good := always.2.first
      exact ⟨kept.mp good, (tailIff good).mp always.2⟩
    · intro meets
      have good := kept.mpr meets.1
      exact ⟨start, (tailIff good).mpr meets.2⟩

/-- Where what one step leaves broken stays broken, the last state tells of every step. -/
theorem holds_iff_meets {P : State → Prop} (Inv : State → Prop)
    (keep : ∀ state action next, Inv state → step state action = some next → Inv next)
    (exact : ∀ state action next, Inv state → step state action = some next →
      (P next ↔ P state ∧ guard state action))
    {state final : State} {actions : List Action} (inv : Inv state)
    (reached : run step state actions = some final) :
    P final ↔ P state ∧ Meets step guard state actions := by
  induction actions generalizing state with
  | nil =>
    cases reached
    exact (and_iff_left trivial).symm
  | cons action rest ih =>
    obtain ⟨next, taken, tail⟩ := run_cons_eq_some.mp reached
    rw [ih (keep state action next inv taken) tail, exact state action next inv taken,
      meets_cons taken, and_assoc]

/-- A run either keeps to a second guard throughout and stays `Good`, or leaves
it at some step and is `Bad` from then on. -/
theorem run_dichotomy {second : State → Action → Prop} (Good Bad : State → Prop)
    (keep : ∀ state action next, Good state → guard state action → second state action →
      step state action = some next → Good next)
    (leave : ∀ state action next, Good state → guard state action → ¬ second state action →
      step state action = some next → Bad next)
    (stay : ∀ state action next, Bad state → guard state action →
      step state action = some next → Bad next)
    {state final : State} {actions : List Action} (start : Good state)
    (meets : Meets step guard state actions) (reached : run step state actions = some final) :
    (Meets step second state actions ∧ Good final) ∨
      (¬ Meets step second state actions ∧ Bad final) := by
  induction actions generalizing state with
  | nil => cases reached; exact Or.inl ⟨trivial, start⟩
  | cons action rest ih =>
    obtain ⟨next, taken, tail⟩ := run_cons_eq_some.mp reached
    obtain ⟨allowed, meets⟩ := (meets_cons taken).mp meets
    -- the first step that leaves `second` decides; from there on only `stay` is needed
    by_cases kept : second state action
    · rcases ih (keep state action next start allowed kept taken) meets tail with good | bad
      · exact Or.inl ⟨(meets_cons taken).mpr ⟨kept, good.1⟩, good.2⟩
      · exact Or.inr ⟨fun all => bad.1 ((meets_cons taken).mp all).2, bad.2⟩
    · refine Or.inr ⟨fun all => kept ((meets_cons taken).mp all).1, ?_⟩
      exact run_invariant Bad stay (leave state action next start allowed kept taken) meets tail

end

end SparSomnong.Semantics
