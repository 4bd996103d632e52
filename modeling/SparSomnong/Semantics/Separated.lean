import Mathlib.Data.List.Infix

/-! Texts whose parts are joined by a mark. -/

set_option autoImplicit false

namespace SparSomnong.Semantics

variable {Letter : Type} {mark : Letter} {parts : List (List Letter)}

/-- A mark stands between other letters only. -/
structure Spaced (mark : Letter) (text : List Letter) : Prop where
  leading : ¬ [mark] <+: text
  trailing : ¬ [mark] <:+ text
  doubled : ¬ [mark, mark] <:+: text

theorem intercalate_cons (first : List Letter) (rest : List (List Letter)) :
    [mark].intercalate (first :: rest) = first ++ rest.flatMap (mark :: ·) := by
  induction rest generalizing first with
  | nil => simp
  | cons second rest ih =>
    rw [List.intercalate_cons_cons, ih, List.flatMap_cons]
    simp

theorem mem_intercalate {letter : Letter} (member : letter ∈ [mark].intercalate parts) :
    letter = mark ∨ ∃ part ∈ parts, letter ∈ part := by
  cases parts with
  | nil => cases member
  | cons first rest =>
    rw [intercalate_cons] at member
    rcases List.mem_append.mp member with inside | later
    · exact Or.inr ⟨first, List.mem_cons_self, inside⟩
    · obtain ⟨part, among, inside⟩ := List.mem_flatMap.mp later
      rcases List.mem_cons.mp inside with here | inside
      · exact Or.inl here
      · exact Or.inr ⟨part, List.mem_cons_of_mem _ among, inside⟩

theorem spaced_of_free {text : List Letter} (free : mark ∉ text) : Spaced mark text where
  leading := fun start => free (start.subset List.mem_cons_self)
  trailing := fun rest => free (rest.subset List.mem_cons_self)
  doubled := fun inside => free (inside.subset List.mem_cons_self)

theorem Spaced.join {part text : List Letter} (filled : part ≠ []) (free : mark ∉ part)
    (more : text ≠ []) (spaced : Spaced mark text) : Spaced mark (part ++ mark :: text) := by
  constructor
  · rintro ⟨rest, whole⟩
    cases part with
    | nil => exact filled rfl
    | cons head tail =>
      cases whole
      exact free List.mem_cons_self
  · intro last
    have inside : [mark] <:+ text := by
      apply List.suffix_of_suffix_length_le last
      · exact (List.suffix_cons mark text).trans (List.suffix_append part _)
      · exact List.length_pos_iff.mpr more
    exact spaced.trailing inside
  · rintro ⟨before, after, whole⟩
    rw [List.append_assoc] at whole
    -- the first of the two marks is in the part, is the mark behind it, or is in the text
    rcases List.append_eq_append_iff.mp whole with ⟨extra, same, rest⟩ | ⟨extra, same, rest⟩
    · cases extra with
      | nil =>
        cases rest
        exact spaced.leading ⟨after, rfl⟩
      | cons head others =>
        obtain rfl : mark = head := (List.cons.inj rest).1
        exact free (same ▸ List.mem_append_right before List.mem_cons_self)
    · cases extra with
      | nil =>
        cases rest
        exact spaced.leading ⟨after, rfl⟩
      | cons head others =>
        cases rest
        exact spaced.doubled ⟨others, after, by simp⟩

theorem spaced_intercalate (some : parts ≠ []) (filled : ∀ part ∈ parts, part ≠ [])
    (free : ∀ part ∈ parts, mark ∉ part) : Spaced mark ([mark].intercalate parts) := by
  induction parts with
  | nil => exact absurd rfl some
  | cons first rest ih =>
    cases rest with
    | nil =>
      rw [List.intercalate_singleton]
      exact spaced_of_free (free first List.mem_cons_self)
    | cons second rest =>
      have tail := ih (List.cons_ne_nil _ _)
        (fun part member => filled part (List.mem_cons_of_mem _ member))
        (fun part member => free part (List.mem_cons_of_mem _ member))
      rw [List.intercalate_cons_cons, List.append_assoc]
      apply tail.join (filled first List.mem_cons_self) (free first List.mem_cons_self)
      rw [intercalate_cons]
      exact List.append_ne_nil_of_left_ne_nil (filled second (by simp)) _

end SparSomnong.Semantics
