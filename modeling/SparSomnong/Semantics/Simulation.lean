import SparSomnong.Semantics.Run

/-! Simulation of one step function by another.

A concrete step is matched by a list of abstract actions, which is read off the
concrete state and the concrete action. What the abstract runs guarantee then holds
of the concrete ones.
-/

set_option autoImplicit false

namespace SparSomnong.Semantics

variable {Concrete Input Abstract Action : Type}

theorem meets_append {step : Concrete → Input → Option Concrete} {guard : Concrete → Input → Prop}
    {state middle : Concrete} {first rest : List Input}
    (reached : run step state first = some middle) :
    Meets step guard state (first ++ rest) ↔
      Meets step guard state first ∧ Meets step guard middle rest := by
  induction first generalizing state with
  | nil =>
    cases reached
    exact (and_iff_right trivial).symm
  | cons action tail ih =>
    obtain ⟨next, taken, onward⟩ := run_cons_eq_some.mp reached
    rw [List.cons_append, meets_cons taken, meets_cons taken, ih onward, and_assoc]

theorem meets_of_length {step : Concrete → Input → Option Concrete}
    {guard : Concrete → Input → Prop} {state : Concrete} {actions : List Input}
    (short : actions.length ≤ 1) (allowed : ∀ action ∈ actions, guard state action) :
    Meets step guard state actions := by
  cases actions with
  | nil => trivial
  | cons action rest =>
    obtain rfl : rest = [] := by simpa using short
    refine ⟨allowed action (by simp), ?_⟩
    cases step state action <;> trivial

def interpret (step : Concrete → Input → Option Concrete)
    (label : Concrete → Input → List Action) : Concrete → List Input → List Action
  | _, [] => []
  | state, input :: rest => label state input ++
    match step state input with
    | some next => interpret step label next rest
    | none => []

theorem interpret_cons {step : Concrete → Input → Option Concrete}
    {label : Concrete → Input → List Action} {state next : Concrete} {input : Input}
    {rest : List Input} (taken : step state input = some next) :
    interpret step label state (input :: rest) =
      label state input ++ interpret step label next rest := by
  simp [interpret, taken]

/-- What the abstract side does for one concrete step, keeping to its guard. -/
structure Matched (abstractStep : Abstract → Action → Option Abstract)
    (abstractGuard : Abstract → Action → Prop) (related : Abstract → Prop)
    (state : Abstract) (actions : List Action) : Prop where
  reached : ∃ final, run abstractStep state actions = some final ∧ related final
  meets : Meets abstractStep abstractGuard state actions

section
variable {step : Concrete → Input → Option Concrete} {guard : Concrete → Input → Prop}
  {abstractStep : Abstract → Action → Option Abstract} {abstractGuard : Abstract → Action → Prop}
  {label : Concrete → Input → List Action} {related : Concrete → Abstract → Prop}

theorem Matched.append {related final : Abstract → Prop} {state : Abstract}
    {first rest : List Action} (matched : Matched abstractStep abstractGuard related state first)
    (onward : ∀ middle, related middle → Matched abstractStep abstractGuard final middle rest) :
    Matched abstractStep abstractGuard final state (first ++ rest) := by
  obtain ⟨middle, reached, holds⟩ := matched.reached
  obtain ⟨last, tail, result⟩ := (onward middle holds).reached
  constructor
  · exact ⟨last, run_append_eq_some.mpr ⟨middle, reached, tail⟩, result⟩
  · exact (meets_append reached).mpr ⟨matched.meets, (onward middle holds).meets⟩

/-- The simulation rule: matched steps make matched runs. -/
theorem run_simulates
    (simulates : ∀ state abstract input next, related state abstract → guard state input →
      step state input = some next →
      Matched abstractStep abstractGuard (related next) abstract (label state input))
    {state final : Concrete} {abstract : Abstract} {inputs : List Input}
    (start : related state abstract) (meets : Meets step guard state inputs)
    (reached : run step state inputs = some final) :
    Matched abstractStep abstractGuard (related final) abstract
      (interpret step label state inputs) := by
  -- on the inputs, for every pair of related states
  induction inputs generalizing state abstract with
  | nil =>
    cases reached
    exact ⟨⟨abstract, rfl, start⟩, trivial⟩
  | cons input rest ih =>
    obtain ⟨next, taken, tail⟩ := run_cons_eq_some.mp reached
    obtain ⟨allowed, meets⟩ := (meets_cons taken).mp meets
    rw [interpret_cons taken]
    exact (simulates state abstract input next start allowed taken).append fun middle holds =>
      ih holds meets tail

end

end SparSomnong.Semantics
