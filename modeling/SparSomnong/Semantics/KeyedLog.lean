import Mathlib.Data.List.Sort
import Mathlib.Data.List.Infix

/-! Logs ordered by a key, and the windows a reader takes of them.

A log keeps its entries in strictly increasing key order, so a key occurs at
most once. A query returns a window of the log as an unordered collection;
sorting what it returned gives the window back.
-/

set_option autoImplicit false

namespace SparSomnong.Semantics

variable {α κ : Type} [LinearOrder κ]

def Ordered (key : α → κ) (entries : List α) : Prop :=
  entries.Pairwise fun a b => key a < key b

instance (key : α → κ) (entries : List α) : Decidable (Ordered key entries) :=
  inferInstanceAs (Decidable (entries.Pairwise fun a b => key a < key b))

theorem Ordered.sublist {key : α → κ} {part entries : List α} (ordered : Ordered key entries)
    (sub : part.Sublist entries) : Ordered key part :=
  List.Pairwise.sublist sub ordered

theorem Ordered.eq_of_key {key : α → κ} {entries : List α} (ordered : Ordered key entries)
    {a b : α} (memberA : a ∈ entries) (memberB : b ∈ entries) (same : key a = key b) : a = b := by
  induction entries with
  | nil => cases memberA
  | cons head rest ih =>
    obtain ⟨before, tail⟩ := List.pairwise_cons.mp ordered
    rcases List.mem_cons.mp memberA with rfl | laterA
    · rcases List.mem_cons.mp memberB with rfl | laterB
      · rfl
      · exact absurd same (before b laterB).ne
    · rcases List.mem_cons.mp memberB with rfl | laterB
      · exact absurd same (before a laterA).ne'
      · exact ih tail laterA laterB

theorem Ordered.eq_of_perm {key : α → κ} {first second : List α} (ordered : Ordered key first)
    (other : Ordered key second) (same : first.Perm second) : first = second := by
  refine same.eq_of_pairwise ?_ ordered other
  intro a b _ _ below above
  exact absurd above below.asymm

theorem Ordered.nodup {key : α → κ} {entries : List α} (ordered : Ordered key entries) :
    entries.Nodup :=
  ordered.imp fun less same => less.ne (congrArg key same)

theorem Ordered.sublist_of_subset {key : α → κ} {part entries : List α}
    (ordered : Ordered key part) (whole : Ordered key entries) (inside : part ⊆ entries) :
    part.Sublist entries := by
  have antisymm : Std.Antisymm fun a b : α => key a < key b :=
    ⟨fun _ _ below above => absurd above below.asymm⟩
  exact List.sublist_of_subperm_of_pairwise (List.subperm_of_subset ordered.nodup inside)
    ordered whole

theorem Ordered.mem_of_suffix {key : α → κ} {part entries : List α} (ordered : Ordered key entries)
    (suffix : part <:+ entries) {a b : α} (member : a ∈ entries) (inside : b ∈ part)
    (notBelow : key b ≤ key a) : a ∈ part := by
  obtain ⟨before, rfl⟩ := suffix
  rcases List.mem_append.mp member with earlier | here
  · have less := (List.pairwise_append.mp ordered).2.2 a earlier b inside
    exact absurd notBelow less.not_ge
  · exact here

/-- Insert an entry at its key, replacing the entry that had the same key. -/
def put (key : α → κ) (entry : α) : List α → List α
  | [] => [entry]
  | head :: rest =>
    if key entry < key head then entry :: head :: rest
    else if key entry = key head then entry :: rest
    else head :: put key entry rest

theorem mem_put {key : α → κ} {entry a : α} {entries : List α} (ordered : Ordered key entries) :
    a ∈ put key entry entries ↔ a = entry ∨ (a ∈ entries ∧ key a ≠ key entry) := by
  induction entries with
  | nil => simp [put]
  | cons head rest ih =>
    obtain ⟨before, tail⟩ := List.pairwise_cons.mp ordered
    have ih := ih tail
    simp only [put]
    split
    · next less =>
      -- below the head, the entry is below everything
      have later : ∀ b ∈ head :: rest, key b ≠ key entry := by
        intro b member
        rcases List.mem_cons.mp member with rfl | member
        · exact less.ne'
        · exact (less.trans (before b member)).ne'
      simp only [List.mem_cons] at later ⊢
      grind
    · split
      · next _ same =>
        have later : ∀ b ∈ rest, key b ≠ key entry := fun b member => by
          rw [same]
          exact (before b member).ne'
        simp only [List.mem_cons]
        grind
      · next _ other =>
        simp only [List.mem_cons, ih]
        grind

theorem ordered_put {key : α → κ} {entry : α} {entries : List α} (ordered : Ordered key entries) :
    Ordered key (put key entry entries) := by
  induction entries with
  | nil => exact List.pairwise_singleton _ _
  | cons head rest ih =>
    obtain ⟨before, tail⟩ := List.pairwise_cons.mp ordered
    simp only [put]
    split
    · next less =>
      refine List.pairwise_cons.mpr ⟨?_, ordered⟩
      intro b member
      rcases List.mem_cons.mp member with rfl | member
      · exact less
      · exact less.trans (before b member)
    · split
      · next _ same => exact List.pairwise_cons.mpr ⟨fun b member => same ▸ before b member, tail⟩
      · next notLess other =>
        refine List.pairwise_cons.mpr ⟨?_, ih tail⟩
        intro b member
        rcases (mem_put tail).mp member with rfl | ⟨member, _⟩
        · exact lt_of_le_of_ne (not_lt.mp notLess) (Ne.symm other)
        · exact before b member

theorem put_eq_append {key : α → κ} {entry : α} {entries : List α}
    (above : ∀ a ∈ entries, key a < key entry) : put key entry entries = entries ++ [entry] := by
  induction entries with
  | nil => rfl
  | cons head rest ih =>
    have less := above head (by simp)
    have tail := ih fun a member => above a (by simp [member])
    simp [put, less.not_gt, less.ne', tail]

/-- A log carries the order of its entries. -/
structure Log (key : α → κ) where
  entries : List α
  ordered : Ordered key entries

namespace Log

variable {key : α → κ}

def empty : Log key := ⟨[], List.Pairwise.nil⟩

def put (log : Log key) (entry : α) : Log key :=
  ⟨Semantics.put key entry log.entries, ordered_put log.ordered⟩

theorem mem_put {log : Log key} {entry a : α} :
    a ∈ (log.put entry).entries ↔ a = entry ∨ (a ∈ log.entries ∧ key a ≠ key entry) :=
  Semantics.mem_put log.ordered

end Log

def limitToLast (count : Nat) (entries : List α) : List α :=
  entries.drop (entries.length - count)

theorem limitToLast_suffix (count : Nat) (entries : List α) :
    limitToLast count entries <:+ entries :=
  List.drop_suffix _ _

@[simp] theorem length_limitToLast (count : Nat) (entries : List α) :
    (limitToLast count entries).length = min count entries.length := by
  simp only [limitToLast, List.length_drop]
  omega

theorem limitToLast_nil_iff {count : Nat} {entries : List α} (positive : 0 < count) :
    limitToLast count entries = [] ↔ entries = [] := by
  rw [← List.length_eq_zero_iff, length_limitToLast, ← List.length_eq_zero_iff]
  omega

theorem limitToLast_one (entries : List α) : limitToLast 1 entries = entries.getLast?.toList := by
  induction entries using List.reverseRecOn with
  | nil => rfl
  | append_singleton before last _ => simp [limitToLast]

theorem Ordered.le_last {key : α → κ} {entries : List α} (ordered : Ordered key entries)
    {a last : α} (member : a ∈ entries) (inside : last ∈ limitToLast 1 entries) :
    key a ≤ key last := by
  rw [limitToLast_one, Option.mem_toList] at inside
  obtain ⟨before, rfl⟩ := List.getLast?_eq_some_iff.mp inside
  rcases List.mem_append.mp member with earlier | here
  · exact ((List.pairwise_append.mp ordered).2.2 a earlier last (by simp)).le
  · rw [List.mem_singleton.mp here]

theorem Ordered.below_last {key : α → κ} {entries : List α} (ordered : Ordered key entries) {a : α}
    (member : a ∈ entries.dropLast) : ∃ last ∈ entries, key a < key last := by
  induction entries using List.reverseRecOn with
  | nil => cases member
  | append_singleton before last _ =>
    rw [List.dropLast_concat] at member
    exact ⟨last, by simp, (List.pairwise_append.mp ordered).2.2 a member last (by simp)⟩

theorem Ordered.getLast?_eq {key : α → κ} {part entries : List α} (ordered : Ordered key part)
    (whole : Ordered key entries) (inside : part ⊆ entries)
    (reaches : ∀ a ∈ entries, ∃ b ∈ part, key a ≤ key b) : part.getLast? = entries.getLast? := by
  induction part using List.reverseRecOn with
  | nil =>
    have none : entries = [] := List.eq_nil_iff_forall_not_mem.mpr fun a member => by
      obtain ⟨b, absent, -⟩ := reaches a member
      cases absent
    rw [none]
  | append_singleton before top _ =>
    have topInside : top ∈ entries := inside (by simp)
    have some : entries ≠ [] := List.ne_nil_of_mem topInside
    obtain ⟨earlier, last, rfl⟩ := (List.eq_nil_or_concat' entries).resolve_left some
    obtain ⟨b, member, above⟩ := reaches last (by simp)
    have topLast : top ∈ limitToLast 1 (before ++ [top]) := by simp [limitToLast_one]
    have wholeLast : last ∈ limitToLast 1 (earlier ++ [last]) := by simp [limitToLast_one]
    have below := above.trans (ordered.le_last member topLast)
    have same := whole.eq_of_key topInside (by simp)
      (le_antisymm (whole.le_last topInside wholeLast) below)
    simp [same]

theorem limitToLast_concat (count : Nat) (entries : List α) (last : α) :
    limitToLast (count + 1) (entries ++ [last]) = limitToLast count entries ++ [last] := by
  have shift : (entries ++ [last]).length - (count + 1) = entries.length - count := by
    simp only [List.length_append, List.length_singleton]
    omega
  rw [limitToLast, shift, List.drop_append_of_le_length (Nat.sub_le _ _)]
  rfl

/-- The entries whose key does not exceed the bound. -/
def endAt (key : α → κ) (bound : κ) (entries : List α) : List α :=
  entries.filter fun a => key a ≤ bound

theorem endAt_key {key : α → κ} {before after : List α} {a : α}
    (ordered : Ordered key (before ++ a :: after)) :
    endAt key (key a) (before ++ a :: after) = before ++ [a] := by
  obtain ⟨_, above, across⟩ := List.pairwise_append.mp ordered
  have below : ∀ b ∈ before, key b ≤ key a := fun b member => (across b member a (by simp)).le
  have beyond : ∀ b ∈ after, ¬ key b ≤ key a := fun b member =>
    ((List.pairwise_cons.mp above).1 b member).not_ge
  simp only [endAt, List.filter_append, List.filter_cons, le_refl, decide_true, if_true]
  rw [List.filter_eq_self.mpr (by simpa using below), List.filter_eq_nil_iff.mpr (by simpa using beyond)]

/-- With nothing below the bound, the window is the entry at the bound, if any. -/
theorem length_endAt_le_one {key : α → κ} {bound : κ} {entries : List α}
    (ordered : Ordered key entries) (lowest : ∀ a ∈ entries, bound ≤ key a) :
    (endAt key bound entries).length ≤ 1 := by
  have at_bound : ∀ a ∈ endAt key bound entries, key a = bound := by
    intro a member
    obtain ⟨inside, small⟩ := List.mem_filter.mp member
    exact le_antisymm (by simpa using small) (lowest a inside)
  have kept : Ordered key (endAt key bound entries) := ordered.sublist List.filter_sublist
  match window : endAt key bound entries with
  | [] => simp
  | [_] => simp
  | a :: b :: rest =>
    rw [window] at at_bound kept
    have less := (List.pairwise_cons.mp kept).1 b (by simp)
    rw [at_bound a (by simp), at_bound b (by simp)] at less
    exact absurd less (lt_irrefl _)

def sortByKey (key : α → κ) (entries : List α) : List α :=
  entries.insertionSort fun a b => key a ≤ key b

theorem mem_sortByKey {key : α → κ} {entries : List α} {a : α} :
    a ∈ sortByKey key entries ↔ a ∈ entries :=
  List.mem_insertionSort _

theorem sortByKey_of_perm {key : α → κ} {response window : List α} (ordered : Ordered key window)
    (same : response.Perm window) : sortByKey key response = window := by
  have total : Std.Total fun a b : α => key a ≤ key b := ⟨fun a b => le_total (key a) (key b)⟩
  have trans : IsTrans α fun a b => key a ≤ key b := ⟨fun _ _ _ => le_trans⟩
  have permuted : (sortByKey key response).Perm window :=
    (List.perm_insertionSort _ response).trans same
  -- both lists are sorted, and no two entries of the window share a key
  refine List.Perm.eq_of_pairwise ?_ (List.pairwise_insertionSort _ response)
    (ordered.imp le_of_lt) permuted
  intro a b memberA memberB first second
  exact ordered.eq_of_key (permuted.subset memberA) memberB (le_antisymm first second)

end SparSomnong.Semantics
