import Mathlib.Data.List.Basic

/-! Listeners of which the last is held. Only a listener that is held can be cancelled. -/

set_option autoImplicit false

namespace SparSomnong.Semantics

variable {Handle : Type} {held : Option Handle} {live : List Handle}

/-- At most one listener is live, and it is the one that is held. -/
structure Single (held : Option Handle) (live : List Handle) : Prop where
  one : live.length ≤ 1
  holds : ∀ handle ∈ live, held = some handle

def cancel [DecidableEq Handle] (held : Option Handle) (live : List Handle) : List Handle :=
  live.filter fun handle => held ≠ some handle

instance [DecidableEq Handle] : Decidable (Single held live) :=
  decidable_of_iff (live.length ≤ 1 ∧ ∀ handle ∈ live, held = some handle)
    ⟨fun both => ⟨both.1, both.2⟩, fun single => ⟨single.one, single.holds⟩⟩

theorem single_nil (held : Option Handle) : Single held [] := by
  constructor
  · exact Nat.zero_le 1
  · intro handle member
    cases member

theorem Single.cancel_eq_nil [DecidableEq Handle] (single : Single held live) : cancel held live = [] := by
  unfold cancel
  rw [List.filter_eq_nil_iff]
  intro handle member
  rw [single.holds handle member]
  exact decide_eq_true_iff.not.mpr (not_not.mpr rfl)

theorem cancel_concat [DecidableEq Handle] {handle : Handle} (fresh : handle ∉ live) :
    cancel (some handle) (live ++ [handle]) = live := by
  unfold cancel
  have others : live.filter (fun other => some handle ≠ some other) = live := by
    rw [List.filter_eq_self]
    intro other member
    apply decide_eq_true
    rintro ⟨⟩
    exact fresh member
  have last : [handle].filter (fun other => some handle ≠ some other) = [] := by
    rw [List.filter_eq_nil_iff]
    intro other member
    rw [List.mem_singleton.mp member]
    exact decide_eq_true_iff.not.mpr (not_not.mpr rfl)
  rw [List.filter_append, others, last, List.append_nil]

theorem single_concat_iff (handle : Handle) : Single (some handle) (live ++ [handle]) ↔ live = [] := by
  constructor
  · intro single
    have one := single.one
    rw [List.length_append, List.length_singleton] at one
    exact List.eq_nil_of_length_eq_zero (by omega)
  · rintro rfl
    constructor
    · exact Nat.le_refl 1
    · intro other member
      rw [List.mem_singleton.mp member]

theorem Single.cases (single : Single held live) :
    live = [] ∨ ∃ handle, live = [handle] ∧ held = some handle := by
  cases live with
  | nil => exact Or.inl rfl
  | cons handle rest =>
    have none : rest = [] := by
      apply List.eq_nil_of_length_eq_zero
      have one := single.one
      rw [List.length_cons] at one
      omega
    subst none
    exact Or.inr ⟨handle, rfl, single.holds handle List.mem_cons_self⟩

end SparSomnong.Semantics
