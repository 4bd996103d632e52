import SparSomnong.Semantics.Reflected
import SparSomnong.Semantics.Run

/-! The order column in the price table of ProductDetailScreen.

The buttons of all rows count in one field of the screen. A row takes the number into its
text when its state is created, with the first build that has the product, and never again.
-/

set_option autoImplicit false

namespace SparSomnong.Catalogue

open Semantics

structure OrderTable where
  quantity : Int := 1
  rows : List Int := []
  deriving DecidableEq, Repr

inductive OrderAction where
  | increaseOnPress (row : Nat)
  | decreaseOnPress (row : Nat)
  deriving DecidableEq, Repr

namespace OrderTable

def increaseQuantity (table : OrderTable) : OrderTable := { table with quantity := table.quantity + 1 }

def decreaseQuantity (table : OrderTable) : OrderTable :=
  if table.quantity ≠ 1 then { table with quantity := table.quantity - 1 } else table

def addRow (table : OrderTable) : OrderTable := { table with rows := table.rows ++ [table.quantity] }

def start : Nat → OrderTable
  | 0 => {}
  | prices + 1 => addRow (start prices)

def step (table : OrderTable) : OrderAction → Option OrderTable
  | .increaseOnPress row => if row < table.rows.length then some table.increaseQuantity else none
  | .decreaseOnPress row => if row < table.rows.length then some table.decreaseQuantity else none

end OrderTable

def OrderAction.change (row : Nat) : OrderAction → Int
  | .increaseOnPress pressed => if pressed = row then 1 else 0
  | .decreaseOnPress pressed => if pressed = row then -1 else 0

/-- A press changes the number that the screen keeps, whichever row it is in. -/
def OrderAction.screenChange : OrderAction → Int
  | .increaseOnPress _ => 1
  | .decreaseOnPress _ => -1

/-- What the presses on a row come to, from 1 and never below. -/
def ownQuantity (actions : List OrderAction) (row : Nat) : Int :=
  reflected 1 (actions.map (OrderAction.change row))

def OwnQuantities (actions : List OrderAction) (table : OrderTable) : Prop :=
  table.rows = (List.range table.rows.length).map (ownQuantity actions)

instance (actions : List OrderAction) (table : OrderTable) : Decidable (OwnQuantities actions table) :=
  inferInstanceAs (Decidable (_ = _))

namespace OrderTable

theorem start_quantity (prices : Nat) : (start prices).quantity = 1 := by
  induction prices with
  | zero => rfl
  | succ prices ih => exact ih

theorem start_rows (prices : Nat) : (start prices).rows = List.replicate prices 1 := by
  induction prices with
  | zero => rfl
  | succ prices ih =>
    calc
      (start (prices + 1)).rows = (start prices).rows ++ [(start prices).quantity] := rfl
      _ = List.replicate prices 1 ++ [1] := by rw [ih, start_quantity]
      _ = List.replicate (prices + 1) 1 := List.replicate_succ'.symm

theorem step_cases {table next : OrderTable} {action : OrderAction}
    (taken : step table action = some next) :
    (∃ row, action = .increaseOnPress row ∧ next = table.increaseQuantity) ∨
      ∃ row, action = .decreaseOnPress row ∧ next = table.decreaseQuantity := by
  cases action with
  | increaseOnPress row =>
    obtain ⟨_, same⟩ := Option.ite_none_right_eq_some.mp taken
    exact Or.inl ⟨row, rfl, (Option.some.inj same).symm⟩
  | decreaseOnPress row =>
    obtain ⟨_, same⟩ := Option.ite_none_right_eq_some.mp taken
    exact Or.inr ⟨row, rfl, (Option.some.inj same).symm⟩

/-- No press reaches what the rows show. -/
theorem rows_of_step {table next : OrderTable} {action : OrderAction}
    (taken : step table action = some next) : next.rows = table.rows := by
  rcases step_cases taken with ⟨_, _, rfl⟩ | ⟨_, _, rfl⟩
  · rfl
  · unfold decreaseQuantity
    split
    · rfl
    · rfl

theorem rows_of_run {actions : List OrderAction} {table final : OrderTable}
    (reached : run step table actions = some final) : final.rows = table.rows := by
  refine run_invariant_of_step (fun state => state.rows = table.rows) ?_ rfl reached
  intro state next action shown taken
  rw [rows_of_step taken, shown]

theorem quantity_of_step {table next : OrderTable} {action : OrderAction}
    (above : 1 ≤ table.quantity) (taken : step table action = some next) :
    next.quantity = max 1 (table.quantity + action.screenChange) := by
  rcases step_cases taken with ⟨row, rfl, rfl⟩ | ⟨row, rfl, rfl⟩
  · simp only [increaseQuantity, OrderAction.screenChange]
    omega
  · simp only [decreaseQuantity, OrderAction.screenChange]
    split
    · dsimp only
      omega
    · omega

theorem quantity_of_run {prices : Nat} {actions : List OrderAction} {final : OrderTable}
    (reached : run step (start prices) actions = some final) :
    final.quantity = reflected 1 (actions.map OrderAction.screenChange) := by
  refine run_history (fun before table =>
    table.quantity = reflected 1 (before.map OrderAction.screenChange)) ?_ (start_quantity prices)
    reached
  intro before table action next counted taken
  have above := low_le_reflected 1 (before.map OrderAction.screenChange)
  rw [← counted] at above
  rw [quantity_of_step above taken, counted, List.map_append, List.map_singleton, reflected_concat]

theorem rows_length {prices : Nat} {actions : List OrderAction} {final : OrderTable}
    (reached : run step (start prices) actions = some final) : final.rows.length = prices := by
  rw [rows_of_run reached, start_rows, List.length_replicate]

theorem rows_getElem {prices row : Nat} {actions : List OrderAction} {final : OrderTable}
    (reached : run step (start prices) actions = some final) (shown : row < prices) :
    final.rows[row]? = some 1 := by
  rw [rows_of_run reached, start_rows, List.getElem?_replicate, if_pos shown]

end OrderTable

theorem ownQuantity_eq_one_iff (actions : List OrderAction) (row : Nat) :
    ownQuantity actions row = 1 ↔
      ∀ rest ∈ actions.tails, (rest.map (OrderAction.change row)).sum ≤ 0 := by
  unfold ownQuantity
  rw [reflected_eq_iff, List.map_tails]
  exact List.forall_mem_map

/-- Every row shows its own quantity exactly where, on each row, from no press on more are plus
than minus. -/
theorem ownQuantities_iff {prices : Nat} {actions : List OrderAction} {final : OrderTable}
    (reached : run OrderTable.step (OrderTable.start prices) actions = some final) :
    OwnQuantities actions final ↔ ∀ row < prices, ∀ rest ∈ actions.tails,
      (rest.map (OrderAction.change row)).sum ≤ 0 := by
  have count := OrderTable.rows_length reached
  unfold OwnQuantities
  rw [count]
  constructor
  · intro own row shown
    have displayed := OrderTable.rows_getElem reached shown
    rw [own, List.getElem?_map, List.getElem?_range shown] at displayed
    exact (ownQuantity_eq_one_iff actions row).mp (Option.some.inj displayed)
  · intro takenBack
    have ones : (List.range prices).map (ownQuantity actions) = List.replicate prices 1 := by
      rw [List.eq_replicate_iff]
      refine ⟨by rw [List.length_map, List.length_range], ?_⟩
      intro shown found
      obtain ⟨row, inRange, rfl⟩ := List.mem_map.mp found
      exact (ownQuantity_eq_one_iff actions row).mpr (takenBack row (List.mem_range.mp inRange))
    rw [ones, OrderTable.rows_of_run reached, OrderTable.start_rows]

theorem takenBack_ownQuantities :
    let actions : List OrderAction := [.increaseOnPress 0, .decreaseOnPress 0, .decreaseOnPress 1]
    ∃ final, run OrderTable.step (OrderTable.start 2) actions = some final ∧
      OwnQuantities actions final := by
  intro actions
  have found : (run OrderTable.step (OrderTable.start 2) actions).any (fun _ => true) = true := by
    decide
  obtain ⟨final, reached, _⟩ := exists_of_run found
  exact ⟨final, reached, (ownQuantities_iff reached).mpr (by decide)⟩

theorem increased_shows_one :
    ∃ final, run OrderTable.step (OrderTable.start 2) [.increaseOnPress 0] = some final ∧
      final.quantity = 2 ∧ final.rows = [1, 1] ∧ ownQuantity [.increaseOnPress 0] 0 = 2 ∧
      ¬ OwnQuantities [.increaseOnPress 0] final :=
  ⟨{ quantity := 2, rows := [1, 1] }, by decide⟩

end SparSomnong.Catalogue
