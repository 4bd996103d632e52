import Mathlib.Logic.Function.Iterate
import Mathlib.Logic.Relation
import Mathlib.Tactic.Choose

/-! Runs of a step relation that never end. -/

set_option autoImplicit false

namespace SparSomnong.Semantics

variable {State : Type} {steps : State → State → Prop}

/-- One step follows the other for ever. -/
def Endless (steps : State → State → Prop) (state : State) : Prop :=
  ∃ states : Nat → State, states 0 = state ∧ ∀ n, steps (states n) (states (n + 1))

theorem endless_of_step {Live : State → Prop}
    (onward : ∀ state, Live state → ∃ next, steps state next ∧ Live next)
    {state : State} (live : Live state) : Endless steps state := by
  choose after taken alive using onward
  let advance : { state // Live state } → { state // Live state } :=
    fun now => ⟨after now.1 now.2, alive now.1 now.2⟩
  refine ⟨fun n => (advance^[n] ⟨state, live⟩).1, rfl, ?_⟩
  intro n
  show steps _ (advance^[n + 1] ⟨state, live⟩).1
  rw [Function.iterate_succ_apply']
  exact taken _ _

theorem reached_of_steps {states : Nat → State}
    (taken : ∀ n, steps (states n) (states (n + 1))) (n : Nat) :
    Relation.ReflTransGen steps (states 0) (states n) := by
  induction n with
  | zero => exact Relation.ReflTransGen.refl
  | succ n ih => exact ih.tail (taken n)

theorem count_le_of_measure (Calm : State → Prop) (measure count : State → Nat)
    (lower : ∀ state next, Calm state → steps state next →
      Calm next ∧ count next + measure next ≤ count state + measure state)
    {state final : State} (calm : Calm state) (reached : Relation.ReflTransGen steps state final) :
    count final ≤ count state + measure state := by
  have kept : Calm final ∧ count final + measure final ≤ count state + measure state := by
    induction reached with
    | refl => exact ⟨calm, Nat.le_refl _⟩
    | tail _ taken ih =>
      obtain ⟨still, paid⟩ := lower _ _ ih.1 taken
      exact ⟨still, Nat.le_trans paid ih.2⟩
  omega

/-- Where every step lowers a number, there are no more steps than the number. -/
theorem not_endless_of_measure {Calm : State → Prop} {measure : State → Nat}
    (lower : ∀ state next, Calm state → steps state next →
      Calm next ∧ measure next < measure state)
    {state : State} (calm : Calm state) : ¬ Endless steps state := by
  rintro ⟨states, rfl, taken⟩
  have left : ∀ n, Calm (states n) ∧ measure (states n) + n ≤ measure (states 0) := by
    intro n
    induction n with
    | zero => exact ⟨calm, Nat.le_refl _⟩
    | succ n ih =>
      obtain ⟨still, less⟩ := lower _ _ ih.1 (taken n)
      exact ⟨still, by omega⟩
  have beyond := (left (measure (states 0) + 1)).2
  omega

theorem exists_rest_of_measure {Calm : State → Prop} {measure : State → Nat}
    (lower : ∀ state next, Calm state → steps state next →
      Calm next ∧ measure next < measure state)
    {state : State} (calm : Calm state) :
    ∃ last, Relation.ReflTransGen steps state last ∧ ∀ next, ¬ steps last next := by
  generalize size : measure state = n
  -- on the number, for every state with it
  induction n using Nat.strongRecOn generalizing state with
  | ind n ih =>
    by_cases onward : ∃ next, steps state next
    · obtain ⟨next, taken⟩ := onward
      obtain ⟨still, less⟩ := lower state next calm taken
      obtain ⟨last, reached, stuck⟩ := ih _ (size ▸ less) still rfl
      exact ⟨last, Relation.ReflTransGen.head taken reached, stuck⟩
    · exact ⟨state, Relation.ReflTransGen.refl, fun next taken => onward ⟨next, taken⟩⟩

/-- Steps that can always be continued, or else lower a number. -/
theorem endless_iff (Live : State → Prop) (measure : State → Nat)
    (onward : ∀ state, Live state → ∃ next, steps state next ∧ Live next)
    (lower : ∀ state next, ¬ Live state → steps state next →
      ¬ Live next ∧ measure next < measure state)
    (state : State) : Endless steps state ↔ Live state := by
  constructor
  · intro endless
    apply Classical.byContradiction
    intro calm
    exact not_endless_of_measure lower calm endless
  · exact endless_of_step onward

end SparSomnong.Semantics
