import Mathlib.Data.List.Nodup

/-! Rows of a list addressed by their position and by what they show. -/

set_option autoImplicit false

namespace SparSomnong.Semantics

variable {Row : Type} {rows : List Row} {index : Nat}

theorem alone_of_found {row : Row} (one : rows.length ≤ 1) (found : rows[index]? = some row) :
    rows = [row] ∧ index = 0 := by
  cases rows with
  | nil => simp at found
  | cons first rest =>
    obtain rfl : rest = [] := List.eq_nil_of_length_eq_zero (by simpa using one)
    cases index with
    | zero =>
      cases found
      exact ⟨rfl, rfl⟩
    | succ index => simp at found

variable {shows : Row → Prop} [DecidablePred shows]

/-- The row at the index, and no other one, shows what is looked for. -/
def OnlyAt (shows : Row → Prop) (rows : List Row) (index : Nat) : Prop :=
  (∃ row ∈ rows[index]?, shows row) ∧ ∀ row ∈ rows.eraseIdx index, ¬ shows row

instance : Decidable (OnlyAt shows rows index) :=
  inferInstanceAs (Decidable (_ ∧ _))

/-- Dropping the row at an index drops exactly the rows that show something when
the row at the index is the only one. -/
theorem eraseIdx_eq_filter_iff (inside : index < rows.length) :
    rows.eraseIdx index = rows.filter (fun row => ¬ shows row) ↔ OnlyAt shows rows index := by
  have present : rows[index]? = some rows[index] := List.getElem?_eq_getElem inside
  constructor
  · intro same
    have others : ∀ row ∈ rows.eraseIdx index, ¬ shows row := by
      intro row member
      rw [same] at member
      simpa using (List.mem_filter.mp member).2
    refine ⟨⟨rows[index], present, ?_⟩, others⟩
    by_contra absent
    -- no row would show it, and nothing would be dropped
    have all : rows.filter (fun row => ¬ shows row) = rows := by
      rw [List.filter_eq_self]
      intro row member
      obtain ⟨place, short, rfl⟩ := List.getElem_of_mem member
      by_cases here : place = index
      · subst here
        simpa using absent
      · simpa using others _ (List.mem_eraseIdx_iff_getElem.mpr ⟨place, short, here, rfl⟩)
    have shorter := congrArg List.length (same.trans all)
    rw [List.length_eraseIdx_of_lt inside] at shorter
    omega
  · rintro ⟨⟨row, found, shown⟩, others⟩
    rw [present, Option.mem_some_iff] at found
    subst found
    rw [List.eraseIdx_eq_take_drop_succ] at others ⊢
    conv_rhs => rw [← List.take_append_drop index rows, List.drop_eq_getElem_cons inside]
    rw [List.filter_append, List.filter_cons_of_neg (by simpa using shown), List.filter_eq_self.mpr,
      List.filter_eq_self.mpr]
    · exact fun row member => by simpa using others row (List.mem_append_right _ member)
    · exact fun row member => by simpa using others row (List.mem_append_left _ member)

theorem onlyAt_of_distinct {Key : Type} [DecidableEq Key] {key : Row → Key}
    (distinct : (rows.map key).Nodup) {row : Row} (found : rows[index]? = some row) :
    OnlyAt (fun other => key other = key row) rows index := by
  refine ⟨⟨row, found, rfl⟩, ?_⟩
  intro other member same
  obtain ⟨place, apart, there⟩ := List.mem_eraseIdx_iff_getElem?.mp member
  refine apart ((List.getElem?_inj ?_ distinct).mp ?_)
  · simpa using (List.getElem?_eq_some_iff.mp there).1
  · simp [found, there, same]

end SparSomnong.Semantics
