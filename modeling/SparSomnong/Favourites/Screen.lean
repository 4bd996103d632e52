import Mathlib.Data.List.Perm.Basic
import SparSomnong.Semantics.Rows
import SparSomnong.Semantics.Run

/-! The favourites screen: rows, the dialog that removes one, and further pages.

The dialog keeps the index the row had when its button was pressed. The reply to
`deleteFavourite` drops the row that has this index when the reply arrives, so
that it drops another row, or none, once an earlier row has gone.
-/

set_option autoImplicit false

namespace SparSomnong.Favourites

open Semantics

structure Favourite where
  id : Option Int
  name_en : Option String
  deriving DecidableEq, Repr

/-- The arguments of `openAlertBox` that its remove button uses. -/
structure AlertBox where
  index : Nat
  favourite : Favourite
  deriving DecidableEq, Repr

/-- What `deleteFavourite` comes to: an exception, or a response with its message. -/
inductive DeleteReply where
  | failed
  | answered (message : Option String)
  deriving DecidableEq, Repr

def DeleteReply.success (reply : DeleteReply) : Bool := reply == .answered (some "success")

/-- `deleting` are the calls of `deleteFavourite` and `loading` the pages asked for
that have no reply yet. The fields from `loaded` on are history. -/
structure FavoriteScreen where
  favourites : Option (List Favourite) := none
  page : Nat := 1
  alertBox : Option AlertBox := none
  deleting : List AlertBox := []
  loading : List Nat := []
  loaded : List Favourite := []
  deleted : List (Option Int) := []
  rangeErrors : Nat := 0
  deriving DecidableEq, Repr

inductive FavoriteAction where
  | delete (index : Nat)
  | cancel
  | remove
  | deleteDone (call : Nat) (reply : DeleteReply)
  | scrollEnd
  | loadDone (call : Nat) (data : Option (List Favourite))
  deriving DecidableEq, Repr

namespace FavoriteScreen

def initState : FavoriteScreen := { loading := [1] }

/-- A spinner shows no rows. -/
def rows (screen : FavoriteScreen) : List Favourite := screen.favourites.getD []

def removeAt (screen : FavoriteScreen) (index : Nat) : FavoriteScreen :=
  if index < screen.rows.length then
    { screen with favourites := screen.favourites.map fun rows => rows.eraseIdx index }
  else { screen with rangeErrors := screen.rangeErrors + 1 }

def received (screen : FavoriteScreen) (page : Nat) (data : List Favourite) : FavoriteScreen :=
  -- the page of `initState` is assigned, every other one appended
  if page = 1 then { screen with favourites := some data, loaded := screen.loaded ++ data }
  else
    match screen.favourites with
    | some rows => { screen with favourites := some (rows ++ data), loaded := screen.loaded ++ data }
    -- `addAll` of null throws, and `catchError` shows it
    | none => screen

def step (screen : FavoriteScreen) : FavoriteAction → Option FavoriteScreen
  | .delete index =>
    -- the dialog covers the rows
    match screen.alertBox, screen.rows[index]? with
    | none, some favourite => some { screen with alertBox := some ⟨index, favourite⟩ }
    | _, _ => none
  | .cancel => screen.alertBox.map fun _ => { screen with alertBox := none }
  | .remove => screen.alertBox.map fun box =>
    { screen with alertBox := none, deleting := screen.deleting ++ [box] }
  | .deleteDone call reply =>
    screen.deleting[call]?.map fun box =>
      let waiting := { screen with deleting := screen.deleting.eraseIdx call }
      if reply.success then
        removeAt { waiting with deleted := screen.deleted ++ [box.favourite.id] } box.index
      else waiting
  | .scrollEnd =>
    -- an empty list is shown without the controller
    if screen.rows ≠ [] then
      some { screen with page := screen.page + 1, loading := screen.loading ++ [screen.page + 1] }
    else none
  | .loadDone call data =>
    screen.loading[call]?.map fun page =>
      let waiting := { screen with loading := screen.loading.eraseIdx call }
      match data with
      | some data => received waiting page data
      | none => waiting

def remaining (screen : FavoriteScreen) : List Favourite :=
  screen.loaded.filter fun favourite => favourite.id ∉ screen.deleted

/-- Without a call pending, what has been loaded and not been deleted is on
display, and no removal has thrown. -/
def Shown (screen : FavoriteScreen) : Prop :=
  screen.rangeErrors = 0 ∧ (screen.deleting = [] → screen.rows = screen.remaining)

instance (screen : FavoriteScreen) : Decidable screen.Shown :=
  inferInstanceAs (Decidable (_ ∧ (_ → _)))

/-- A favourite deleted on the server is in the row whose index the dialog kept, and
in no other. A page that arrives holds no favourite deleted before. -/
def Current (screen : FavoriteScreen) : FavoriteAction → Prop
  | .deleteDone call reply =>
    reply.success = true → ∀ box ∈ screen.deleting[call]?,
      OnlyAt (fun row => row.id = box.favourite.id) screen.rows box.index
  | .loadDone _ data => ∀ page ∈ data, ∀ favourite ∈ page, favourite.id ∉ screen.deleted
  | _ => True

instance (screen : FavoriteScreen) : (action : FavoriteAction) → Decidable (screen.Current action)
  | .deleteDone .. => inferInstanceAs (Decidable (_ → ∀ _ ∈ _, _))
  | .loadDone .. => inferInstanceAs (Decidable (∀ _ ∈ _, ∀ _ ∈ _, _))
  | .delete _ | .cancel | .remove | .scrollEnd => isTrue trivial

structure Opened (screen : FavoriteScreen) : Prop where
  counted : 1 ≤ screen.page
  first : ∀ page ∈ screen.loading, page = 1 ↔ screen.favourites = none
  once : screen.loading.count 1 ≤ 1
  blank : screen.favourites = none → screen.loaded = []

structure InStep (screen : FavoriteScreen) : Prop where
  fits : screen.rangeErrors = 0
  shown : screen.rows = screen.remaining

variable {screen next : FavoriteScreen} {action : FavoriteAction}

theorem opened_initState : Opened initState :=
  ⟨Nat.le_refl 1, by simp [initState], by decide, fun _ => rfl⟩

theorem inStep_initState : InStep initState := ⟨rfl, rfl⟩

theorem received_eq (screen : FavoriteScreen) {page : Nat} (data : List Favourite)
    (first : page = 1 ↔ screen.favourites = none) :
    received screen page data =
      { screen with favourites := some (screen.rows ++ data), loaded := screen.loaded ++ data } := by
  unfold received
  split
  · next one => simp [rows, first.mp one]
  · next later =>
    cases present : screen.favourites with
    | none => exact absurd (first.mpr present) later
    | some rows => simp [FavoriteScreen.rows, present]

theorem removeAt_frame (screen : FavoriteScreen) (index : Nat) :
    (screen.removeAt index).page = screen.page ∧
      (screen.removeAt index).loading = screen.loading ∧
      (screen.removeAt index).loaded = screen.loaded ∧
      (screen.removeAt index).deleted = screen.deleted ∧
      ((screen.removeAt index).favourites = none ↔ screen.favourites = none) := by
  unfold removeAt
  split <;> simp

theorem Opened.step (opened : Opened screen) (taken : screen.step action = some next) :
    Opened next := by
  cases action with
  | delete index =>
    simp only [FavoriteScreen.step] at taken
    split at taken
    · cases taken
      exact ⟨opened.counted, opened.first, opened.once, opened.blank⟩
    · cases taken
  | cancel =>
    obtain ⟨box, -, rfl⟩ := Option.map_eq_some_iff.mp taken
    exact ⟨opened.counted, opened.first, opened.once, opened.blank⟩
  | remove =>
    obtain ⟨box, -, rfl⟩ := Option.map_eq_some_iff.mp taken
    exact ⟨opened.counted, opened.first, opened.once, opened.blank⟩
  | deleteDone call reply =>
    obtain ⟨box, -, rfl⟩ := Option.map_eq_some_iff.mp taken
    dsimp only
    split
    · obtain ⟨page, loading, loaded, -, none⟩ := removeAt_frame { screen with
        deleting := screen.deleting.eraseIdx call
        deleted := screen.deleted ++ [box.favourite.id] } box.index
      constructor
      · rw [page]
        exact opened.counted
      · rw [loading]
        exact fun page member => (opened.first page member).trans none.symm
      · rw [loading]
        exact opened.once
      · rw [loaded]
        exact fun absent => opened.blank (none.mp absent)
    · exact ⟨opened.counted, opened.first, opened.once, opened.blank⟩
  | scrollEnd =>
    simp only [FavoriteScreen.step] at taken
    split at taken
    · next shown =>
      cases taken
      have counted := opened.counted
      have present : screen.favourites ≠ none := fun none => shown (by simp [rows, none])
      refine ⟨by simp, fun page member => ?_, ?_, opened.blank⟩
      · rcases List.mem_append.mp member with waiting | new
        · exact opened.first page waiting
        · obtain rfl := List.mem_singleton.mp new
          exact iff_of_false (by omega) present
      · have other : screen.page ≠ 0 := by omega
        simpa [List.count_append, List.count_singleton, other] using opened.once
    · cases taken
  | loadDone call data =>
    obtain ⟨page, asked, rfl⟩ := Option.map_eq_some_iff.mp taken
    obtain ⟨inside, here⟩ := List.getElem?_eq_some_iff.mp asked
    have member := List.mem_of_getElem? asked
    have kept : ∀ other ∈ screen.loading.eraseIdx call, other ∈ screen.loading :=
      fun other left => List.mem_of_mem_eraseIdx left
    have once : (screen.loading.eraseIdx call).count 1 ≤ 1 :=
      Nat.le_trans ((List.eraseIdx_sublist _ _).count_le 1) opened.once
    cases data with
    | none =>
      exact ⟨opened.counted, fun other left => opened.first other (kept other left), once,
        opened.blank⟩
    | some data =>
      dsimp only
      rw [received_eq { screen with loading := screen.loading.eraseIdx call } data
        (opened.first page member)]
      refine ⟨opened.counted, fun other left => iff_of_false ?_ (by simp), once, by simp⟩
      -- the page of `initState` would be asked for twice
      rintro rfl
      have absent := (opened.first 1 (kept 1 left)).mp rfl
      obtain rfl := (opened.first page member).mpr absent
      have twice := (List.getElem_cons_eraseIdx_perm inside).count_eq 1
      rw [here, List.count_cons_self] at twice
      have counted := opened.once
      have positive : 0 < (screen.loading.eraseIdx call).count 1 := List.count_pos_iff.mpr left
      omega

theorem remaining_delete (screen : FavoriteScreen) (id : Option Int) :
    remaining { screen with deleted := screen.deleted ++ [id] } =
      screen.remaining.filter fun row => ¬ row.id = id := by
  simp only [remaining, List.filter_filter]
  congr 1
  funext row
  simp [and_comm]

/-- A reply that drops a row drops the deleted favourite and nothing else exactly
when it finds it at its index. -/
theorem inStep_removeAt_iff (inStep : InStep screen) (deleting : List AlertBox) (box : AlertBox) :
    InStep (removeAt { screen with
        deleting
        deleted := screen.deleted ++ [box.favourite.id] } box.index) ↔
      OnlyAt (fun row => row.id = box.favourite.id) screen.rows box.index := by
  have remains := remaining_delete screen box.favourite.id
  rw [← inStep.shown] at remains
  unfold removeAt
  split
  · next inside =>
    have inside : box.index < screen.rows.length := inside
    rw [← eraseIdx_eq_filter_iff inside, ← remains]
    have rows : (screen.favourites.map fun rows => rows.eraseIdx box.index).getD [] =
        screen.rows.eraseIdx box.index := by
      cases present : screen.favourites <;> simp [FavoriteScreen.rows, present]
    constructor
    · intro after
      exact rows.symm.trans after.shown
    · intro same
      exact ⟨inStep.fits, rows.trans same⟩
  · next outside =>
    have outside : ¬ box.index < screen.rows.length := outside
    refine iff_of_false (fun after => absurd after.fits (by simp)) ?_
    rintro ⟨⟨row, found, -⟩, -⟩
    exact outside (List.getElem?_eq_some_iff.mp found).1

theorem inStep_iff (opened : Opened screen) (inStep : InStep screen)
    (taken : screen.step action = some next) : InStep next ↔ screen.Current action := by
  cases action with
  | delete index =>
    simp only [FavoriteScreen.step] at taken
    split at taken
    · cases taken
      exact iff_of_true ⟨inStep.fits, inStep.shown⟩ trivial
    · cases taken
  | cancel =>
    obtain ⟨box, -, rfl⟩ := Option.map_eq_some_iff.mp taken
    exact iff_of_true ⟨inStep.fits, inStep.shown⟩ trivial
  | remove =>
    obtain ⟨box, -, rfl⟩ := Option.map_eq_some_iff.mp taken
    exact iff_of_true ⟨inStep.fits, inStep.shown⟩ trivial
  | deleteDone call reply =>
    obtain ⟨box, found, rfl⟩ := Option.map_eq_some_iff.mp taken
    simp only [Current, found, Option.mem_some_iff, forall_eq']
    cases success : reply.success with
    | false => exact iff_of_true ⟨inStep.fits, inStep.shown⟩ (fun none => by cases none)
    | true =>
      simp only [if_true, forall_const]
      exact inStep_removeAt_iff inStep (screen.deleting.eraseIdx call) box
  | scrollEnd =>
    simp only [FavoriteScreen.step] at taken
    split at taken
    · cases taken
      exact iff_of_true ⟨inStep.fits, inStep.shown⟩ trivial
    · cases taken
  | loadDone call data =>
    obtain ⟨page, asked, rfl⟩ := Option.map_eq_some_iff.mp taken
    cases data with
    | none => exact iff_of_true ⟨inStep.fits, inStep.shown⟩ (by simp [Current])
    | some data =>
      dsimp only
      rw [received_eq { screen with loading := screen.loading.eraseIdx call } data
        (opened.first page (List.mem_of_getElem? asked))]
      have shown := inStep.shown
      constructor
      · intro after
        have same := after.shown
        simp only [rows, remaining, Option.getD_some, List.filter_append] at same shown
        rw [shown, List.append_cancel_left_eq, eq_comm, List.filter_eq_self] at same
        simpa [Current] using same
      · intro fresh
        refine ⟨inStep.fits, ?_⟩
        simp only [rows, remaining, Option.getD_some, List.filter_append] at shown ⊢
        rw [shown, List.append_cancel_left_eq, eq_comm, List.filter_eq_self]
        simpa [Current] using fresh

theorem inStep_throughout_iff {actions : List FavoriteAction} {final : FavoriteScreen}
    (reached : run step initState actions = some final) :
    Always step InStep initState actions ↔ Meets step Current initState actions :=
  always_iff_meets Opened (fun _ _ _ opened taken => opened.step taken)
    (fun _ _ _ opened inStep taken => inStep_iff opened inStep taken)
    opened_initState inStep_initState reached

/-- In every run whose replies find their rows, the favourites on display are those
loaded and not deleted. -/
theorem removals_shown {actions : List FavoriteAction} {final : FavoriteScreen}
    (meets : Meets step Current initState actions)
    (reached : run step initState actions = some final) : final.Shown := by
  have invariant := run_invariant (fun screen => Opened screen ∧ InStep screen)
    (fun _ _ _ both current taken =>
      ⟨both.1.step taken, (inStep_iff both.1 both.2 taken).mpr current⟩)
    ⟨opened_initState, inStep_initState⟩ meets reached
  exact ⟨invariant.2.fits, fun _ => invariant.2.shown⟩

def row (id : Int) : Favourite := ⟨some id, none⟩

def removedFromEnd : List FavoriteAction :=
  [.loadDone 0 (some [row 1, row 2, row 3]), .delete 2, .remove, .delete 1, .remove,
   .deleteDone 0 (.answered (some "success")), .delete 0, .remove,
   .deleteDone 0 (.answered (some "success")), .scrollEnd, .loadDone 0 (some [row 4]),
   .deleteDone 0 .failed]

theorem removedFromEnd_shown :
    ∃ final, run step initState removedFromEnd = some final ∧
      final.rows = [row 1, row 4] ∧ final.Shown := by
  have found : (run step initState removedFromEnd).any
      (fun final => decide (final.rows = [row 1, row 4])) = true := by decide
  obtain ⟨final, reached, test⟩ := exists_of_run found
  exact ⟨final, reached, of_decide_eq_true test, removals_shown (by decide) reached⟩

def removedFromStart (rows : List Favourite) : List FavoriteAction :=
  [.loadDone 0 (some rows), .delete 0, .remove, .delete 1, .remove,
   .deleteDone 0 (.answered (some "success")), .deleteDone 0 (.answered (some "success"))]

/-- Of three favourites the third is dropped in place of the second; of two, nothing
is at the index any more. -/
theorem removedFromStart_shifted :
    (∃ final, run step initState (removedFromStart [row 1, row 2, row 3]) = some final ∧
      final.deleting = [] ∧ final.deleted = [some 1, some 2] ∧ final.rows = [row 2] ∧
      ¬ final.Shown) ∧
    ∃ final, run step initState (removedFromStart [row 1, row 2]) = some final ∧
      final.rangeErrors = 1 ∧ ¬ final.Shown := by
  have three : (run step initState (removedFromStart [row 1, row 2, row 3])).any
      (fun final => decide (final.deleting = [] ∧ final.deleted = [some 1, some 2] ∧
        final.rows = [row 2] ∧ ¬ final.Shown)) = true := by decide
  have two : (run step initState (removedFromStart [row 1, row 2])).any
      (fun final => decide (final.rangeErrors = 1 ∧ ¬ final.Shown)) = true := by decide
  obtain ⟨third, reachedThree, shifted⟩ := exists_of_run three
  obtain ⟨second, reachedTwo, thrown⟩ := exists_of_run two
  exact ⟨⟨third, reachedThree, of_decide_eq_true shifted⟩,
    ⟨second, reachedTwo, of_decide_eq_true thrown⟩⟩

end FavoriteScreen

end SparSomnong.Favourites
