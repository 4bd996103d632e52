import Mathlib.Data.List.Nodup

/-! A list read in pages of a fixed size, counted from one. -/

set_option autoImplicit false

namespace SparSomnong.Semantics

variable {Item : Type} {items : List Item} {limit page other : Nat}

/-- The items from `(page - 1) * limit` up to `page * limit`. -/
def pageOf (items : List Item) (limit page : Nat) : List Item :=
  (items.drop ((page - 1) * limit)).take limit

/-- The page has an item on it. -/
def Filled (items : List Item) (limit page : Nat) : Prop :=
  0 < limit ∧ (page - 1) * limit < items.length

instance (items : List Item) (limit page : Nat) : Decidable (Filled items limit page) :=
  inferInstanceAs (Decidable (_ ∧ _))

theorem pageOf_of_not_filled (empty : ¬ Filled items limit page) : pageOf items limit page = [] := by
  unfold Filled at empty
  unfold pageOf
  rw [List.take_eq_nil_iff, List.drop_eq_nil_iff]
  omega

theorem Filled.mono (filled : Filled items limit page) (before : other ≤ page) :
    Filled items limit other := by
  refine ⟨filled.1, ?_⟩
  calc (other - 1) * limit ≤ (page - 1) * limit := Nat.mul_le_mul_right limit (by omega)
    _ < items.length := filled.2

theorem filled_succ (positive : 0 < limit) (short : page * limit < items.length) :
    Filled items limit (page + 1) :=
  ⟨positive, by simpa using short⟩

theorem take_append_pageOf (positive : 1 ≤ page) :
    items.take ((page - 1) * limit) ++ pageOf items limit page = items.take (page * limit) := by
  have split : page * limit = (page - 1) * limit + limit := by
    rw [← Nat.succ_mul]
    congr 1
    omega
  rw [split, List.take_add]
  rfl

def pagesUpTo (items : List Item) (limit count : Nat) : List Item :=
  (List.range count).flatMap fun before => pageOf items limit (before + 1)

theorem pagesUpTo_eq_take (items : List Item) (limit count : Nat) :
    pagesUpTo items limit count = items.take (count * limit) := by
  induction count with
  | zero => simp [pagesUpTo]
  | succ count ih =>
    rw [← take_append_pageOf (Nat.le_add_left 1 count), Nat.add_sub_cancel, ← ih]
    simp [pagesUpTo, List.range_succ]

theorem pageOf_ne_pagesUpTo (filled : Filled items limit 1) (later : 1 < page) :
    pageOf items limit page ≠ pagesUpTo items limit page := by
  intro same
  rw [pagesUpTo_eq_take, ← take_append_pageOf (by omega : 1 ≤ page), List.self_eq_append_left,
    List.take_eq_nil_iff] at same
  obtain ⟨positive, some⟩ := filled
  rcases same with zero | none
  · have product : 0 < (page - 1) * limit := Nat.mul_pos (by omega) positive
    omega
  · simp [none] at some

theorem getElem?_pageOf (filled : Filled items limit page) :
    (pageOf items limit page)[0]? = items[(page - 1) * limit]? := by
  unfold pageOf
  rw [List.getElem?_take_of_lt filled.1, List.getElem?_drop]
  rfl

theorem position_unique (distinct : items.Nodup) {first second : Nat} {item : Item}
    (here : items[first]? = some item) (there : items[second]? = some item) : first = second := by
  obtain ⟨inside, -⟩ := List.getElem?_eq_some_iff.mp here
  exact (List.getElem?_inj inside distinct).mp (here.trans there.symm)

theorem page_unique (distinct : items.Nodup) {item : Item} (positive : 1 ≤ page)
    (otherPositive : 1 ≤ other) (first : items[(page - 1) * limit]? = some item)
    (member : item ∈ pageOf items limit other) : other = page := by
  obtain ⟨index, inside, same⟩ := List.getElem_of_mem member
  have short : index < limit := by
    have bound : (pageOf items limit other).length ≤ limit := List.length_take_le _ _
    omega
  have found : items[(other - 1) * limit + index]? = some item := by
    have same : (pageOf items limit other)[index]? = some item := by
      rw [List.getElem?_eq_getElem inside, same]
    unfold pageOf at same
    rwa [List.getElem?_take_of_lt short, List.getElem?_drop] at same
  have place := position_unique distinct first found
  -- the quotient by the size is the page
  have quotient : (page - 1) * limit / limit = ((other - 1) * limit + index) / limit := by
    rw [place]
  rw [Nat.mul_div_cancel _ (by omega), Nat.mul_comm, Nat.mul_add_div (by omega),
    Nat.div_eq_of_lt short] at quotient
  omega

/-- A page put after an earlier one than its own leaves the list. -/
theorem not_prefix_of_gap (distinct : items.Nodup) {shown : Nat}
    (filled : Filled items limit page) (gap : shown < page - 1) :
    ¬ items.take (shown * limit) ++ pageOf items limit page <+: items := by
  intro ordered
  have before : shown * limit < (page - 1) * limit :=
    Nat.mul_lt_mul_of_pos_right gap filled.1
  have inside := filled.2
  have length : (items.take (shown * limit)).length = shown * limit := by
    rw [List.length_take]
    omega
  obtain ⟨item, present⟩ : ∃ item, items[(page - 1) * limit]? = some item :=
    ⟨_, List.getElem?_eq_getElem inside⟩
  have placed : (items.take (shown * limit) ++ pageOf items limit page)[shown * limit]? =
      some item := by
    rw [List.getElem?_append_right (by omega), length, Nat.sub_self, getElem?_pageOf filled, present]
  have found : items[shown * limit]? = some item := by
    obtain ⟨rest, whole⟩ := ordered
    rw [← whole, List.getElem?_append_left, placed]
    exact (List.getElem?_eq_some_iff.mp placed).1
  have same := position_unique distinct found present
  omega

end SparSomnong.Semantics
