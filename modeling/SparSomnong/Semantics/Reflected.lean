import Mathlib.Algebra.Order.Ring.Int
import Mathlib.Data.List.Infix

/-! A level that goes up and down and stops at a floor. -/

set_option autoImplicit false

namespace SparSomnong.Semantics

/-- The level after the changes, from the floor on. -/
def reflected (low : Int) (changes : List Int) : Int :=
  changes.foldl (fun level change => max low (level + change)) low

theorem reflected_nil (low : Int) : reflected low [] = low := rfl

theorem reflected_concat (low : Int) (changes : List Int) (change : Int) :
    reflected low (changes ++ [change]) = max low (reflected low changes + change) := by
  unfold reflected
  rw [List.foldl_append]
  rfl

theorem low_le_reflected (low : Int) (changes : List Int) : low ≤ reflected low changes := by
  induction changes using List.reverseRecOn with
  | nil => exact Int.le_refl low
  | append_singleton changes change _ =>
    rw [reflected_concat]
    exact Int.le_max_left _ _

/-- How far the level is above the floor is the most that the last changes come to. -/
theorem reflected_le_iff (low height : Int) (changes : List Int) :
    reflected low changes ≤ low + height ↔ ∀ rest ∈ changes.tails, rest.sum ≤ height := by
  -- from the last change back, for every height
  induction changes using List.reverseRecOn generalizing height with
  | nil =>
    simp only [reflected_nil, List.tails, List.mem_singleton, forall_eq, List.sum_nil]
    omega
  | append_singleton changes change ih =>
    have before := ih (height - change)
    have level : reflected low changes + change ≤ low + height ↔
        reflected low changes ≤ low + (height - change) := by omega
    rw [reflected_concat, Int.max_le, level, before]
    simp only [List.mem_tails, List.suffix_concat_iff]
    constructor
    · rintro ⟨above, sums⟩ rest (rfl | ⟨tail, rfl, suffix⟩)
      · simp only [List.sum_nil]
        omega
      · have sum := sums tail suffix
        rw [List.sum_append, List.sum_singleton]
        omega
    · intro sums
      constructor
      · have none := sums [] (Or.inl rfl)
        rw [List.sum_nil] at none
        omega
      · intro tail suffix
        have sum := sums (tail ++ [change]) (Or.inr ⟨tail, rfl, suffix⟩)
        rw [List.sum_append, List.sum_singleton] at sum
        omega

theorem reflected_eq_iff (low : Int) (changes : List Int) :
    reflected low changes = low ↔ ∀ rest ∈ changes.tails, rest.sum ≤ 0 := by
  rw [← reflected_le_iff low 0, Int.add_zero]
  have above := low_le_reflected low changes
  omega

end SparSomnong.Semantics
