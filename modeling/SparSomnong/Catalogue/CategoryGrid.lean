import Mathlib.Data.Rat.Floor
import Mathlib.Tactic.Linarith
import Mathlib.Tactic.Positivity
import SparSomnong.Catalogue.ProductLists

/-! The first page of MoreCategoryScreen and the grid that shows it.

The limit is a screen full of tiles of 3:4 in columns of about 125; the grid has three
columns, with tiles of 3:4.5. Page 2 is asked for at the end of a scroll only.
-/

set_option autoImplicit false

namespace SparSomnong.Catalogue

open Semantics

/-- The operator `~/`. -/
def truncatingDiv (a b : Rat) : Int := if 0 ≤ a / b then ⌊a / b⌋ else ⌈a / b⌉

/-- `chrome` is what the bars, the margins and the line above the grid leave it no room for. -/
structure ScreenSize where
  width : Rat
  height : Rat
  chrome : Rat
  wide : 125 ≤ width
  tall : 0 < height
  bars : 76 ≤ chrome ∧ chrome ≤ 220
  deriving DecidableEq, Repr

namespace ScreenSize

def x (screen : ScreenSize) : Int := truncatingDiv screen.width 125

def y (screen : ScreenSize) : Int := truncatingDiv screen.height (screen.width / screen.x * 4 / 3)

def limit (screen : ScreenSize) : Int := screen.x * screen.y

def crossAxisCount : Nat := 3

def childAspectRatio : Rat := 3 / (9 / 2)

def gridWidth (screen : ScreenSize) : Rat := screen.width - 20

def tileHeight (screen : ScreenSize) : Rat :=
  screen.gridWidth / (crossAxisCount : Rat) / childAspectRatio

def gridRows (itemCount : Nat) : Nat := (itemCount + (crossAxisCount - 1)) / crossAxisCount

def viewport (screen : ScreenSize) : Rat := screen.height - screen.chrome

/-- At 0 the position of the grid is fixed. -/
def maxScrollExtent (screen : ScreenSize) (itemCount : Nat) : Rat :=
  max 0 ((gridRows itemCount : Rat) * screen.tileHeight - screen.viewport)

/-- There is a first page, and a full one can be scrolled. -/
def FirstPageFills (screen : ScreenSize) : Prop :=
  1 ≤ screen.limit ∧ 0 < screen.maxScrollExtent screen.limit.toNat

instance (screen : ScreenSize) : Decidable screen.FirstPageFills :=
  inferInstanceAs (Decidable (_ ∧ _))

/-- One, two, three and more columns of 125 have room. For each row of three columns there is
one of the grid; of four or more columns any first row will do. -/
def Fitting (screen : ScreenSize) : Prop :=
  (screen.width < 250 ∧ 4 * screen.width / 3 ≤ screen.height ∧
      screen.height < screen.chrome + (screen.width - 20) / 2) ∨
    (250 ≤ screen.width ∧ screen.width < 375 ∧
      (2 * screen.width / 3 ≤ screen.height ∧
          screen.height < screen.chrome + (screen.width - 20) / 2 ∨
        4 * screen.width / 3 ≤ screen.height ∧
          screen.height < screen.chrome + (screen.width - 20))) ∨
    (375 ≤ screen.width ∧ screen.width < 500 ∧ ∃ rows : Nat, 1 ≤ rows ∧
      4 * screen.width / 9 * rows ≤ screen.height ∧
      screen.height < screen.chrome + rows * ((screen.width - 20) / 2)) ∨
    (500 ≤ screen.width ∧
      ∃ columns : Nat, 125 * columns ≤ screen.width ∧
        4 * screen.width ≤ 3 * columns * screen.height)

theorem truncatingDiv_of_nonneg {a b : Rat} (quotient : 0 ≤ a / b) : truncatingDiv a b = ⌊a / b⌋ :=
  if_pos quotient

theorem truncatingDiv_bounds {a b : Rat} (dividend : 0 ≤ a) (divisor : 0 < b) :
    truncatingDiv a b * b ≤ a ∧ a < (truncatingDiv a b + 1) * b := by
  rw [truncatingDiv_of_nonneg (div_nonneg dividend divisor.le)]
  constructor
  · exact (le_div_iff₀ divisor).mp (Int.floor_le (a / b))
  · exact (div_lt_iff₀ divisor).mp (Int.lt_floor_add_one (a / b))

theorem truncatingDiv_nonneg {a b : Rat} (dividend : 0 ≤ a) (divisor : 0 < b) :
    0 ≤ truncatingDiv a b := by
  have quotient := div_nonneg dividend divisor.le
  rw [truncatingDiv_of_nonneg quotient]
  exact Int.floor_nonneg.mpr quotient

variable (screen : ScreenSize)

theorem x_bounds : (screen.x : Rat) * 125 ≤ screen.width ∧
    screen.width < ((screen.x : Rat) + 1) * 125 := by
  apply truncatingDiv_bounds
  · linarith [screen.wide]
  · norm_num

theorem one_le_x : 1 ≤ screen.x := by
  have above := screen.x_bounds.2
  have wide := screen.wide
  have positive : (0 : Rat) < screen.x := by linarith
  have : 0 < screen.x := by exact_mod_cast positive
  omega

theorem x_pos : (0 : Rat) < screen.x := by
  have counted : (1 : Rat) ≤ screen.x := by exact_mod_cast screen.one_le_x
  linarith

theorem tile_pos : 0 < screen.width / screen.x * 4 / 3 := by
  have columns := screen.x_pos
  have wide : 0 < screen.width := by linarith [screen.wide]
  positivity

theorem y_nonneg : 0 ≤ screen.y := truncatingDiv_nonneg screen.tall.le screen.tile_pos

/-- The rows of 3:4 that have room, without a quotient. -/
theorem y_bounds : 4 * screen.width * screen.y ≤ 3 * screen.x * screen.height ∧
    3 * screen.x * screen.height < 4 * screen.width * (screen.y + 1) := by
  have columns := screen.x_pos
  have scale : (0 : Rat) < 3 * screen.x := by positivity
  have tile : screen.width / screen.x * 4 / 3 * (3 * screen.x) = 4 * screen.width := by
    field_simp
  obtain ⟨below, above⟩ := truncatingDiv_bounds screen.tall.le screen.tile_pos
  constructor
  · calc
      4 * screen.width * screen.y
          = screen.y * (screen.width / screen.x * 4 / 3) * (3 * screen.x) := by rw [← tile]; ring
      _ ≤ screen.height * (3 * screen.x) := mul_le_mul_of_nonneg_right below scale.le
      _ = 3 * screen.x * screen.height := by ring
  · calc
      3 * screen.x * screen.height = screen.height * (3 * screen.x) := by ring
      _ < (screen.y + 1) * (screen.width / screen.x * 4 / 3) * (3 * screen.x) :=
        mul_lt_mul_of_pos_right above scale
      _ = 4 * screen.width * (screen.y + 1) := by rw [← tile]; ring

theorem le_y_iff (rows : Int) :
    rows ≤ screen.y ↔ 4 * screen.width * rows ≤ 3 * screen.x * screen.height := by
  have wide : 0 < 4 * screen.width := by linarith [screen.wide]
  obtain ⟨below, above⟩ := screen.y_bounds
  constructor
  · intro fewer
    have fewer : (rows : Rat) ≤ screen.y := by exact_mod_cast fewer
    exact (mul_le_mul_of_nonneg_left fewer wide.le).trans below
  · intro room
    have fewer : (rows : Rat) < screen.y + 1 := lt_of_mul_lt_mul_left (room.trans_lt above) wide.le
    have : rows < screen.y + 1 := by exact_mod_cast fewer
    omega

theorem one_le_limit_iff : 1 ≤ screen.limit ↔ 1 ≤ screen.y := by
  have columns := screen.one_le_x
  have rows := screen.y_nonneg
  unfold limit
  constructor
  · intro some
    by_contra none
    rw [show screen.y = 0 by omega, mul_zero] at some
    omega
  · intro some
    calc
      (1 : Int) = 1 * 1 := rfl
      _ ≤ screen.x * screen.y := Int.mul_le_mul columns some (by omega) (by omega)

theorem tileHeight_eq : screen.tileHeight = (screen.width - 20) / 2 := by
  unfold tileHeight gridWidth crossAxisCount childAspectRatio
  norm_num
  ring

theorem gridRows_bounds : screen.x * screen.y ≤ 3 * (gridRows screen.limit.toNat : Int) ∧
    3 * (gridRows screen.limit.toNat : Int) ≤ screen.x * screen.y + 2 := by
  have counted : 0 ≤ screen.limit := Int.mul_nonneg (by have := screen.one_le_x; omega) screen.y_nonneg
  unfold gridRows crossAxisCount
  unfold limit at counted ⊢
  omega

theorem firstPageFills_iff : screen.FirstPageFills ↔ 1 ≤ screen.y ∧
    screen.height < screen.chrome + gridRows screen.limit.toNat * ((screen.width - 20) / 2) := by
  unfold FirstPageFills maxScrollExtent viewport
  rw [one_le_limit_iff, tileHeight_eq, lt_max_iff]
  constructor
  · rintro ⟨some, none | room⟩
    · exact absurd none (lt_irrefl _)
    · exact ⟨some, by linarith⟩
  · rintro ⟨some, room⟩
    exact ⟨some, Or.inr (by linarith)⟩

theorem x_eq_iff (columns : Int) : screen.x = columns ↔
    (columns : Rat) * 125 ≤ screen.width ∧ screen.width < (columns + 1) * 125 := by
  obtain ⟨below, above⟩ := screen.x_bounds
  constructor
  · rintro rfl
    exact ⟨below, above⟩
  · rintro ⟨enough, short⟩
    have lower : (columns : Rat) < screen.x + 1 := by linarith
    have upper : (screen.x : Rat) < columns + 1 := by linarith
    have : columns < screen.x + 1 := by exact_mod_cast lower
    have : screen.x < columns + 1 := by exact_mod_cast upper
    omega

theorem grid_of_rows {rows : Nat} {most : Rat} (bound : (rows : Rat) ≤ most) :
    (rows : Rat) * ((screen.width - 20) / 2) ≤ most * ((screen.width - 20) / 2) := by
  apply mul_le_mul_of_nonneg_right bound
  linarith [screen.wide]

theorem grid_le {rows more : Nat} (fewer : rows ≤ more) :
    (rows : Rat) * ((screen.width - 20) / 2) ≤ more * ((screen.width - 20) / 2) := by
  apply grid_of_rows
  exact_mod_cast fewer

/-- With one or two columns, four rows are too tall for the limit that counts them. -/
theorem short_of_four (few : screen.x ≤ 2) (four : 4 ≤ screen.y) :
    screen.chrome + gridRows screen.limit.toNat * ((screen.width - 20) / 2) ≤ screen.height := by
  obtain ⟨_, atMost⟩ := screen.gridRows_bounds
  have tall := screen.y_bounds.1
  have wide := screen.x_bounds.1
  have bars := screen.bars.2
  have many : (4 : Rat) ≤ screen.y := by exact_mod_cast four
  have columns : screen.x = 1 ∨ screen.x = 2 := by
    have := screen.one_le_x
    omega
  rcases columns with one | two
  · rw [one] at atMost tall wide
    push_cast at tall wide
    have rows : (gridRows screen.limit.toNat : Rat) ≤ (screen.y + 2) / 3 := by
      have atMost : (3 : Rat) * gridRows screen.limit.toNat ≤ 1 * screen.y + 2 := by
        exact_mod_cast atMost
      linarith
    have grid := screen.grid_of_rows rows
    have area : 0 ≤ (screen.width - 125) * (screen.y - 4) :=
      mul_nonneg (by linarith) (by linarith)
    linarith
  · rw [two] at atMost tall wide
    push_cast at tall wide
    have rows : (gridRows screen.limit.toNat : Rat) ≤ (2 * screen.y + 2) / 3 := by
      have atMost : (3 : Rat) * gridRows screen.limit.toNat ≤ 2 * screen.y + 2 := by
        exact_mod_cast atMost
      linarith
    have grid := screen.grid_of_rows rows
    have area : 0 ≤ (screen.width - 250) * (screen.y - 4) :=
      mul_nonneg (by linarith) (by linarith)
    linarith

theorem fills_one_column (narrow : screen.width < 250) :
    screen.FirstPageFills ↔ 4 * screen.width / 3 ≤ screen.height ∧
      screen.height < screen.chrome + (screen.width - 20) / 2 := by
  have columns : screen.x = 1 := (screen.x_eq_iff 1).mpr
    ⟨by push_cast; linarith [screen.wide], by push_cast; linarith⟩
  have first := screen.le_y_iff 1
  obtain ⟨atLeast, atMost⟩ := screen.gridRows_bounds
  have four := screen.short_of_four (by omega)
  rw [columns] at first atLeast atMost
  push_cast at first
  rw [firstPageFills_iff]
  constructor
  · rintro ⟨some, room⟩
    have few : ¬ 4 ≤ screen.y := fun many => absurd room (not_lt.mpr (four many))
    have one : gridRows screen.limit.toNat = 1 := by omega
    have tall := first.mp some
    rw [one] at room
    push_cast at room
    exact ⟨by linarith, by linarith⟩
  · rintro ⟨tall, room⟩
    have some := first.mpr (by linarith)
    have grid := screen.grid_le (show 1 ≤ gridRows screen.limit.toNat by omega)
    push_cast at grid
    exact ⟨some, by linarith⟩

theorem fills_two_columns (wide : 250 ≤ screen.width) (narrow : screen.width < 375) :
    screen.FirstPageFills ↔
      2 * screen.width / 3 ≤ screen.height ∧
          screen.height < screen.chrome + (screen.width - 20) / 2 ∨
        4 * screen.width / 3 ≤ screen.height ∧
          screen.height < screen.chrome + (screen.width - 20) := by
  have columns : screen.x = 2 := (screen.x_eq_iff 2).mpr
    ⟨by push_cast; linarith, by push_cast; linarith⟩
  have first := screen.le_y_iff 1
  have second := screen.le_y_iff 2
  obtain ⟨atLeast, atMost⟩ := screen.gridRows_bounds
  have four := screen.short_of_four (by omega)
  rw [columns] at first second atLeast atMost
  push_cast at first second
  rw [firstPageFills_iff]
  constructor
  · rintro ⟨some, room⟩
    have few : ¬ 4 ≤ screen.y := fun many => absurd room (not_lt.mpr (four many))
    by_cases two : 2 ≤ screen.y
    · have rows : gridRows screen.limit.toNat = 2 := by omega
      have tall := second.mp two
      rw [rows] at room
      push_cast at room
      exact Or.inr ⟨by linarith, by linarith⟩
    · have rows : gridRows screen.limit.toNat = 1 := by omega
      have tall := first.mp some
      rw [rows] at room
      push_cast at room
      exact Or.inl ⟨by linarith, by linarith⟩
  · rintro (⟨tall, room⟩ | ⟨tall, room⟩)
    · have some := first.mpr (by linarith)
      have grid := screen.grid_le (show 1 ≤ gridRows screen.limit.toNat by omega)
      push_cast at grid
      exact ⟨some, by linarith⟩
    · have two := second.mpr (by linarith)
      have grid := screen.grid_le (show 2 ≤ gridRows screen.limit.toNat by omega)
      push_cast at grid
      exact ⟨by omega, by linarith⟩

theorem fills_three_columns (wide : 375 ≤ screen.width) (narrow : screen.width < 500) :
    screen.FirstPageFills ↔ ∃ rows : Nat, 1 ≤ rows ∧
      4 * screen.width / 9 * rows ≤ screen.height ∧
      screen.height < screen.chrome + rows * ((screen.width - 20) / 2) := by
  have columns : screen.x = 3 := (screen.x_eq_iff 3).mpr
    ⟨by push_cast; linarith, by push_cast; linarith⟩
  obtain ⟨atLeast, atMost⟩ := screen.gridRows_bounds
  have fewer := fun rows : Nat => screen.le_y_iff rows
  rw [columns] at atLeast atMost
  rw [columns] at fewer
  push_cast at fewer
  rw [firstPageFills_iff]
  constructor
  · rintro ⟨some, room⟩
    have tall := (fewer (gridRows screen.limit.toNat)).mp (by omega)
    exact ⟨gridRows screen.limit.toNat, by omega, by linarith, room⟩
  · rintro ⟨rows, some, tall, room⟩
    have counted := (fewer rows).mpr (by linarith)
    have grid := screen.grid_le (show rows ≤ gridRows screen.limit.toNat by omega)
    exact ⟨by omega, by linarith⟩

/-- With four columns or more, the rows of three that hold one row of them are enough. -/
theorem room_of_four_columns (columns : 4 ≤ screen.x) (some : 1 ≤ screen.y) :
    screen.height < screen.chrome + gridRows screen.limit.toNat * ((screen.width - 20) / 2) := by
  obtain ⟨atLeast, _⟩ := screen.gridRows_bounds
  have many : (4 : Rat) ≤ screen.x := by exact_mod_cast columns
  have first : (1 : Rat) ≤ screen.y := by exact_mod_cast some
  have wide : 500 ≤ screen.width := by linarith [screen.x_bounds.1]
  have bars := screen.bars.1
  -- the screen ends within one more row
  have ends : 3 * screen.height < screen.width * (screen.y + 1) := by
    have taller : 0 ≤ (screen.x - 4 : Rat) * screen.height :=
      mul_nonneg (by linarith) screen.tall.le
    linarith [screen.y_bounds.2]
  have rows : 4 * (screen.y : Rat) ≤ 3 * gridRows screen.limit.toNat := by
    have counted : 4 * screen.y ≤ 3 * (gridRows screen.limit.toNat : Int) := by
      have := Int.mul_le_mul_of_nonneg_right columns screen.y_nonneg
      omega
    exact_mod_cast counted
  have grid : 4 * (screen.y : Rat) * ((screen.width - 20) / 2) ≤
      3 * gridRows screen.limit.toNat * ((screen.width - 20) / 2) :=
    mul_le_mul_of_nonneg_right rows (by linarith)
  have area : 0 ≤ (screen.width - 500) * (screen.y - 1) := mul_nonneg (by linarith) (by linarith)
  linarith

theorem fills_four_columns (wide : 500 ≤ screen.width) :
    screen.FirstPageFills ↔ ∃ columns : Nat, 125 * columns ≤ screen.width ∧
      4 * screen.width ≤ 3 * columns * screen.height := by
  obtain ⟨counted, above⟩ := screen.x_bounds
  have columns : 4 ≤ screen.x := by
    have more : (3 : Rat) < screen.x := by linarith
    have : 3 < screen.x := by exact_mod_cast more
    omega
  have first := screen.le_y_iff 1
  push_cast at first
  rw [firstPageFills_iff]
  constructor
  · rintro ⟨some, _⟩
    have all : ((screen.x.toNat : Int) : Rat) = screen.x := by rw [Int.toNat_of_nonneg (by omega)]
    push_cast at all
    have room := first.mp some
    exact ⟨screen.x.toNat, by rw [all]; linarith, by rw [all]; linarith⟩
  · rintro ⟨fewer, fit, tall⟩
    have most : (fewer : Rat) ≤ screen.x := by
      have less : (fewer : Rat) < screen.x + 1 := by linarith
      have : (fewer : Int) < screen.x + 1 := by exact_mod_cast less
      have : (fewer : Int) ≤ screen.x := by omega
      exact_mod_cast this
    have taller := mul_le_mul_of_nonneg_right most screen.tall.le
    have some := first.mpr (by linarith)
    exact ⟨some, screen.room_of_four_columns columns some⟩

/-- The first page fills the grid on the fitting screens only. -/
theorem firstPageFills_iff_fitting : screen.FirstPageFills ↔ screen.Fitting := by
  unfold Fitting
  rcases lt_or_ge screen.width 250 with one | more
  · rw [screen.fills_one_column one]
    constructor
    · exact fun fits => Or.inl ⟨one, fits⟩
    · rintro (⟨_, fits⟩ | ⟨wide, _⟩ | ⟨wide, _⟩ | ⟨wide, _⟩)
      · exact fits
      all_goals linarith
  rcases lt_or_ge screen.width 375 with two | more
  · rw [screen.fills_two_columns more two]
    constructor
    · exact fun fits => Or.inr (Or.inl ⟨more, two, fits⟩)
    · rintro (⟨narrow, _⟩ | ⟨_, _, fits⟩ | ⟨wide, _⟩ | ⟨wide, _⟩)
      · linarith
      · exact fits
      all_goals linarith
  rcases lt_or_ge screen.width 500 with three | more
  · rw [screen.fills_three_columns more three]
    constructor
    · exact fun fits => Or.inr (Or.inr (Or.inl ⟨more, three, fits⟩))
    · rintro (⟨narrow, _⟩ | ⟨_, narrow, _⟩ | ⟨_, _, fits⟩ | ⟨wide, _⟩)
      · linarith
      · linarith
      · exact fits
      · linarith
  · rw [screen.fills_four_columns more]
    constructor
    · exact fun fits => Or.inr (Or.inr (Or.inr ⟨more, fits⟩))
    · rintro (⟨narrow, _⟩ | ⟨_, narrow, _⟩ | ⟨_, narrow, _⟩ | ⟨_, fits⟩)
      · linarith
      · linarith
      · linarith
      · exact fits

/-! ## The page after the first -/

section
variable {Product : Type} {catalogue : List Product}

def listWidget : ListWidget := .moreCategoryScreen screen.limit.toNat

def step (catalogue : List Product) (list : ProductList Product) (action : ListAction) :
    Option (ProductList Product) :=
  if action = .scrollEnd ∧ screen.maxScrollExtent list.displayed.length = 0 then none
  else list.step screen.listWidget catalogue action

structure FirstPageOnly (list : ProductList Product) : Prop where
  page : list.page = 1
  pending : ∀ page ∈ list.pending, page = 1
  shown : list.displayed = [] ∨ list.displayed.length = screen.limit.toNat

theorem maxScrollExtent_nonneg (itemCount : Nat) : 0 ≤ screen.maxScrollExtent itemCount :=
  le_max_left _ _

theorem firstPage_length (full : screen.limit ≤ catalogue.length) :
    (pageOf catalogue screen.limit.toNat 1).length = screen.limit.toNat := by
  unfold pageOf
  rw [Nat.sub_self, Nat.zero_mul, List.drop_zero, List.length_take]
  omega

theorem FirstPageOnly.step {screen : ScreenSize} {list next : ProductList Product}
    {action : ListAction} (fixed : screen.maxScrollExtent screen.limit.toNat = 0)
    (full : screen.limit ≤ catalogue.length) (only : screen.FirstPageOnly list)
    (taken : screen.step catalogue list action = some next) : screen.FirstPageOnly next := by
  unfold ScreenSize.step at taken
  obtain ⟨free, taken⟩ := Option.ite_none_left_eq_some.mp taken
  cases action with
  | scrollEnd =>
    obtain ⟨shown, _⟩ := Option.ite_none_right_eq_some.mp taken
    rcases only.shown with none | first
    · exact absurd none shown
    · rw [first] at free
      exact absurd ⟨rfl, fixed⟩ free
  | succeed page =>
    obtain ⟨asked, taken⟩ := Option.ite_none_right_eq_some.mp taken
    cases only.pending page asked
    cases taken
    refine ⟨only.page, ?_, Or.inr (screen.firstPage_length full)⟩
    intro page still
    exact only.pending page (List.mem_of_mem_erase still)
  | fail page =>
    obtain ⟨asked, taken⟩ := Option.ite_none_right_eq_some.mp taken
    cases taken
    refine ⟨only.page, ?_, only.shown⟩
    intro page still
    exact only.pending page (List.mem_of_mem_erase still)

theorem FirstPageOnly.start :
    screen.FirstPageOnly (screen.listWidget.initState : ProductList Product) := by
  refine ⟨rfl, ?_, Or.inl rfl⟩
  intro page asked
  exact List.mem_singleton.mp asked

def afterFirstPage (catalogue : List Product) : ProductList Product where
  productCategories := some (pageOf catalogue screen.limit.toNat 1)
  visible := false
  pending := []
  succeeded := [1]

theorem step_succeed : screen.step catalogue screen.listWidget.initState (.succeed 1) =
    some (screen.afterFirstPage catalogue) := by
  unfold step
  rw [if_neg (fun both => by cases both.1)]
  rfl

theorem step_scrollEnd (positive : 1 ≤ screen.limit) (full : screen.limit ≤ catalogue.length)
    (free : 0 < screen.maxScrollExtent screen.limit.toNat) :
    ∃ final, screen.step catalogue (screen.afterFirstPage catalogue) .scrollEnd = some final ∧
      final.page = 2 := by
  have count : (screen.afterFirstPage catalogue).displayed.length = screen.limit.toNat :=
    screen.firstPage_length full
  have shown : (screen.afterFirstPage catalogue).displayed ≠ [] := by
    intro none
    rw [none, List.length_nil] at count
    omega
  unfold step
  rw [count, if_neg (fun both => absurd both.2 free.ne')]
  exact ⟨_, if_pos shown, rfl⟩

/-- Where there is a full first page, another is asked for exactly if the grid can be scrolled. -/
theorem asks_for_next_iff (positive : 1 ≤ screen.limit) (full : screen.limit ≤ catalogue.length) :
    (∃ actions final, run (screen.step catalogue) screen.listWidget.initState actions =
      some final ∧ final.page ≠ 1) ↔ screen.FirstPageFills := by
  constructor
  · rintro ⟨actions, final, reached, later⟩
    by_contra unfilled
    have fixed : screen.maxScrollExtent screen.limit.toNat = 0 := by
      apply le_antisymm _ (screen.maxScrollExtent_nonneg _)
      exact not_lt.mp fun free => unfilled ⟨positive, free⟩
    have only : screen.FirstPageOnly final :=
      run_invariant_of_step (screen.FirstPageOnly) (fun _ _ _ only taken => only.step fixed full taken)
        (FirstPageOnly.start screen) reached
    exact later only.page
  · rintro ⟨_, free⟩
    obtain ⟨final, taken, second⟩ := screen.step_scrollEnd positive full free
    refine ⟨[.succeed 1, .scrollEnd], final, ?_, by omega⟩
    rw [run_cons_eq_some]
    exact ⟨_, screen.step_succeed, run_cons_eq_some.mpr ⟨final, taken, rfl⟩⟩

end

end ScreenSize

def phone : ScreenSize where
  width := 360
  height := 640
  chrome := 100
  wide := by norm_num
  tall := by norm_num
  bars := by norm_num

/-- On a screen of 360 by 640, the first page is four products in two rows of 170. -/
theorem phone_unfilled :
    phone.limit = 4 ∧ phone.maxScrollExtent 4 = 0 ∧ ¬ phone.FirstPageFills := by
  decide +kernel

end SparSomnong.Catalogue
