import Mathlib.Algebra.BigOperators.Group.Finset.Basic
import Mathlib.Algebra.Order.BigOperators.Group.Finset
import Mathlib.Algebra.Order.Ring.Int

/-! Weights of lists and of families, and what one change makes of them. -/

set_option autoImplicit false

namespace SparSomnong.Semantics

variable {α : Type}

/-- The weights of the entries of a list together. -/
def tally (weight : α → Nat) (entries : List α) : Nat := (entries.map weight).sum

section
variable {weight : α → Nat} {entries : List α} {place : Nat} {old : α}

@[simp] theorem tally_nil : tally weight [] = 0 := rfl

@[simp] theorem tally_cons (first : α) (rest : List α) :
    tally weight (first :: rest) = weight first + tally weight rest := by
  simp [tally]

@[simp] theorem tally_append (first rest : List α) :
    tally weight (first ++ rest) = tally weight first + tally weight rest := by
  simp [tally]

theorem tally_eraseIdx (weight : α → Nat) (found : entries[place]? = some old) :
    tally weight (entries.eraseIdx place) + weight old = tally weight entries := by
  induction entries generalizing place with
  | nil => cases found
  | cons first rest ih =>
    cases place with
    | zero =>
      cases found
      simp only [List.eraseIdx_cons_zero, tally_cons]
      omega
    | succ place =>
      have later := @ih place found
      simp only [List.eraseIdx_cons_succ, tally_cons]
      omega

theorem tally_set (weight : α → Nat) (found : entries[place]? = some old) (new : α) :
    tally weight (entries.set place new) + weight old = tally weight entries + weight new := by
  induction entries generalizing place with
  | nil => cases found
  | cons first rest ih =>
    cases place with
    | zero =>
      cases found
      simp only [List.set_cons_zero, tally_cons]
      omega
    | succ place =>
      have later := @ih place found
      simp only [List.set_cons_succ, tally_cons]
      omega

theorem tally_map_le (weight : α → Nat) (change : α → α) (more : Nat)
    (each : ∀ entry, weight (change entry) ≤ weight entry + more) (entries : List α) :
    tally weight (entries.map change) ≤ tally weight entries + more * entries.length := by
  induction entries with
  | nil => exact Nat.zero_le _
  | cons first rest ih =>
    have here := each first
    simp only [List.map_cons, tally_cons, List.length_cons, Nat.mul_add, Nat.mul_one]
    omega

end

/-! ## Families -/

section
variable {count place : Nat}

theorem sum_update (inside : place < count) (family : Nat → α) (weight : α → Nat) (new : α) :
    (Finset.range count).sum (fun index => weight (Function.update family place new index)) +
        weight (family place) =
      (Finset.range count).sum (fun index => weight (family index)) + weight new := by
  have member : place ∈ Finset.range count := Finset.mem_range.mpr inside
  have before := Finset.add_sum_erase _ (fun index => weight (family index)) member
  have after := Finset.add_sum_erase _
    (fun index => weight (Function.update family place new index)) member
  have others : ((Finset.range count).erase place).sum
      (fun index => weight (Function.update family place new index)) =
      ((Finset.range count).erase place).sum fun index => weight (family index) := by
    refine Finset.sum_congr rfl fun index elsewhere => ?_
    rw [Function.update_of_ne (Finset.ne_of_mem_erase elsewhere)]
  simp only [Function.update_self] at after
  omega

end

end SparSomnong.Semantics
