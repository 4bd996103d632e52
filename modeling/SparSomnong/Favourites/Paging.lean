import SparSomnong.Favourites.Screen
import SparSomnong.Semantics.Pages

/-! The favourites screen before a server that keeps the list.

The client counts pages, and the server counts positions in the list as it is
now. A removal moves everything behind it one position up, so that the next page
starts one favourite too late for each removal since.
-/

set_option autoImplicit false

namespace SparSomnong.Favourites

open Semantics

/-- The favourites the server keeps for the user. -/
structure Account where
  favourites : List Favourite
  distinct : (favourites.map Favourite.id).Nodup

namespace Account

def delete (account : Account) (id : Option Int) : Account where
  favourites := account.favourites.filter fun favourite => ¬ favourite.id = id
  distinct := account.distinct.sublist (List.filter_sublist.map _)

theorem delete_favourites (account : Account) (id : Option Int) :
    (account.delete id).favourites =
      account.favourites.filter fun favourite => ¬ favourite.id = id := rfl

theorem delete_of_member {account : Account} {favourite : Favourite}
    (member : favourite ∈ account.favourites) :
    (account.delete favourite.id).favourites.length + 1 = account.favourites.length := by
  obtain ⟨index, inside, here⟩ := List.getElem_of_mem member
  have found : account.favourites[index]? = some favourite := by
    rw [List.getElem?_eq_getElem inside, here]
  have same := (eraseIdx_eq_filter_iff inside).mpr (onlyAt_of_distinct account.distinct found)
  rw [delete_favourites, ← same, List.length_eraseIdx_of_lt inside]
  omega

end Account

def limit : Nat := 15

structure Browsing where
  account : Account
  screen : FavoriteScreen

/-- A removal that is confirmed and answered, and a scroll to the end with the page
it loads. -/
inductive BrowseAction where
  | remove (index : Nat)
  | scrollEnd
  deriving DecidableEq, Repr

namespace Browsing

def start (account : Account) : Browsing :=
  ⟨account, { FavoriteScreen.initState with loading := [] }.received 1
    (pageOf account.favourites limit 1)⟩

theorem start_screen (account : Account) :
    FavoriteScreen.initState.step (.loadDone 0 (some (pageOf account.favourites limit 1))) =
      some (start account).screen := rfl

def step (browsing : Browsing) : BrowseAction → Option Browsing
  | .remove index =>
    match browsing.screen.rows[index]?,
      run FavoriteScreen.step browsing.screen
        [.delete index, .remove, .deleteDone 0 (.answered (some "success"))] with
    | some favourite, some screen => some ⟨browsing.account.delete favourite.id, screen⟩
    | _, _ => none
  | .scrollEnd =>
    (run FavoriteScreen.step browsing.screen [.scrollEnd, .loadDone 0
      (some (pageOf browsing.account.favourites limit (browsing.screen.page + 1)))]).map
        fun screen => { browsing with screen }

structure AtRest (screen : FavoriteScreen) : Prop where
  closed : screen.alertBox = none
  answered : screen.deleting = []
  loaded : screen.loading = []
  present : screen.favourites ≠ none
  counted : 1 ≤ screen.page

inductive Browsed (browsing : Browsing) : BrowseAction → Browsing → Prop
  | removed {index : Nat} {favourite : Favourite} {screen : FavoriteScreen} :
      browsing.screen.rows[index]? = some favourite →
      screen.rows = browsing.screen.rows.eraseIdx index → screen.page = browsing.screen.page →
      AtRest screen →
      Browsed browsing (.remove index) ⟨browsing.account.delete favourite.id, screen⟩
  | scrolled {screen : FavoriteScreen} :
      screen.rows = browsing.screen.rows ++
        pageOf browsing.account.favourites limit (browsing.screen.page + 1) →
      screen.page = browsing.screen.page + 1 → AtRest screen →
      Browsed browsing .scrollEnd { browsing with screen }

variable {browsing next : Browsing} {action : BrowseAction}

theorem atRest_start (account : Account) : AtRest (start account).screen :=
  ⟨rfl, rfl, rfl, by simp [start, FavoriteScreen.received], Nat.le_refl 1⟩

theorem AtRest.run_remove {screen : FavoriteScreen} (rest : AtRest screen) {index : Nat}
    {favourite : Favourite} (found : screen.rows[index]? = some favourite) :
    run FavoriteScreen.step screen
        [.delete index, .remove, .deleteDone 0 (.answered (some "success"))] =
      some { screen with
        favourites := some (screen.rows.eraseIdx index)
        deleted := screen.deleted ++ [favourite.id] } := by
  obtain ⟨rows, present⟩ := Option.ne_none_iff_exists'.mp rest.present
  have inside := (List.getElem?_eq_some_iff.mp found).1
  have opened : screen.step (.delete index) =
      some { screen with alertBox := some ⟨index, favourite⟩ } := by
    simp [FavoriteScreen.step, rest.closed, found]
  have called : FavoriteScreen.step { screen with alertBox := some ⟨index, favourite⟩ } .remove =
      some { screen with deleting := [⟨index, favourite⟩] } := by
    simp [FavoriteScreen.step, rest.closed, rest.answered]
  have answered : FavoriteScreen.step { screen with deleting := [⟨index, favourite⟩] }
      (.deleteDone 0 (.answered (some "success"))) = some { screen with
        favourites := some (screen.rows.eraseIdx index)
        deleted := screen.deleted ++ [favourite.id] } := by
    simp only [FavoriteScreen.rows, present, Option.getD_some] at inside
    simp [FavoriteScreen.step, DeleteReply.success, FavoriteScreen.removeAt, FavoriteScreen.rows,
      present, inside, rest.answered]
  simp only [run, opened, called, answered]

theorem AtRest.run_scrollEnd {screen : FavoriteScreen} (rest : AtRest screen)
    (shown : screen.rows ≠ []) (data : List Favourite) :
    run FavoriteScreen.step screen [.scrollEnd, .loadDone 0 (some data)] =
      some { screen with
        page := screen.page + 1
        favourites := some (screen.rows ++ data)
        loaded := screen.loaded ++ data } := by
  obtain ⟨rows, present⟩ := Option.ne_none_iff_exists'.mp rest.present
  have counted := rest.counted
  have asked : screen.step .scrollEnd =
      some { screen with page := screen.page + 1, loading := [screen.page + 1] } := by
    simp [FavoriteScreen.step, shown, rest.loaded]
  have later : screen.page ≠ 0 := by omega
  have answered : FavoriteScreen.step
      { screen with page := screen.page + 1, loading := [screen.page + 1] }
      (.loadDone 0 (some data)) = some { screen with
        page := screen.page + 1
        favourites := some (screen.rows ++ data)
        loaded := screen.loaded ++ data } := by
    simp [FavoriteScreen.step, FavoriteScreen.received, FavoriteScreen.rows, present, later,
      rest.loaded]
  simp only [run, asked, answered]

theorem browsed_of_step (rest : AtRest browsing.screen)
    (taken : browsing.step action = some next) : Browsed browsing action next := by
  cases action with
  | remove index =>
    simp only [step] at taken
    split at taken
    · next favourite screen found reached =>
      rw [rest.run_remove found] at reached
      cases taken
      cases reached
      exact .removed found rfl rfl ⟨rest.closed, rest.answered, rest.loaded, by simp, rest.counted⟩
    · cases taken
  | scrollEnd =>
    obtain ⟨screen, reached, rfl⟩ := Option.map_eq_some_iff.mp taken
    have shown : browsing.screen.rows ≠ [] := by
      rintro none
      simp [run, FavoriteScreen.step, none] at reached
    rw [rest.run_scrollEnd shown] at reached
    cases reached
    exact .scrolled rfl rfl ⟨rest.closed, rest.answered, rest.loaded, by simp, by simp⟩

structure Within (browsing : Browsing) : Prop where
  rest : AtRest browsing.screen
  part : browsing.screen.rows.Sublist
    (browsing.account.favourites.take (browsing.screen.page * limit))

structure Full (browsing : Browsing) : Prop extends Within browsing where
  whole : browsing.screen.rows =
    browsing.account.favourites.take (browsing.screen.page * limit)

structure Short (browsing : Browsing) : Prop extends Within browsing where
  fewer : browsing.screen.rows.length <
    (browsing.account.favourites.take (browsing.screen.page * limit)).length

/-- A removal is made when the pages so far hold the whole list. -/
def Exhausted (browsing : Browsing) : BrowseAction → Prop
  | .remove _ => browsing.account.favourites.length ≤ browsing.screen.page * limit
  | .scrollEnd => True

instance (browsing : Browsing) : (action : BrowseAction) → Decidable (browsing.Exhausted action)
  | .remove _ => inferInstanceAs (Decidable (_ ≤ _))
  | .scrollEnd => isTrue trivial

theorem full_start (account : Account) : Full (start account) := by
  have whole : (start account).screen.rows =
      (start account).account.favourites.take ((start account).screen.page * limit) := by
    simp [start, FavoriteScreen.received, FavoriteScreen.rows, FavoriteScreen.initState, pageOf]
  exact ⟨⟨atRest_start account, by rw [whole]⟩, whole⟩

theorem Within.removed_rows (within : Within browsing) {index : Nat} {favourite : Favourite}
    (found : browsing.screen.rows[index]? = some favourite) :
    browsing.screen.rows.eraseIdx index =
      browsing.screen.rows.filter fun row => ¬ row.id = favourite.id := by
  have distinct := browsing.account.distinct.sublist
    ((within.part.trans (List.take_sublist _ _)).map _)
  exact (eraseIdx_eq_filter_iff (List.getElem?_eq_some_iff.mp found).1).mpr
    (onlyAt_of_distinct distinct found)

theorem isPrefix_filter_take (count : Nat) (favourites : List Favourite) (id : Option Int) :
    (favourites.take count).filter (fun favourite => ¬ favourite.id = id) <+:
      (favourites.filter fun favourite => ¬ favourite.id = id).take count := by
  refine List.prefix_take_iff.mpr ⟨(List.take_prefix _ _).filter _, ?_⟩
  exact Nat.le_trans (List.length_filter_le _ _) (List.length_take_le _ _)

theorem Within.browsed (within : Within browsing) (taken : Browsed browsing action next) :
    Within next := by
  cases taken with
  | removed found rows page rest =>
    refine ⟨rest, ?_⟩
    rw [rows, page, within.removed_rows found]
    exact (within.part.filter _).trans (isPrefix_filter_take _ _ _).sublist
  | scrolled rows page rest =>
    refine ⟨rest, ?_⟩
    rw [rows, page, ← take_append_pageOf (by omega : 1 ≤ browsing.screen.page + 1)]
    exact within.part.append_right _

theorem Full.browsed (full : Full browsing) (exhausted : browsing.Exhausted action)
    (taken : Browsed browsing action next) : Full next := by
  refine ⟨full.toWithin.browsed taken, ?_⟩
  have whole := full.whole
  cases taken with
  | removed found rows page rest =>
    have all : browsing.account.favourites.length ≤ browsing.screen.page * limit := exhausted
    dsimp only
    rw [rows, page, full.removed_rows found, whole, List.take_of_length_le all,
      Account.delete_favourites,
      List.take_of_length_le (Nat.le_trans (List.length_filter_le _ _) all)]
  | scrolled rows page rest =>
    rw [rows, page, ← take_append_pageOf (by omega : 1 ≤ browsing.screen.page + 1), whole]
    rfl

/-- Before the pages hold the whole list, a removal moves a favourite up that no
page brings any more. -/
theorem Full.leave (full : Full browsing) (early : ¬ browsing.Exhausted action)
    (taken : Browsed browsing action next) : Short next := by
  refine ⟨full.toWithin.browsed taken, ?_⟩
  have whole := congrArg List.length full.whole
  cases taken with
  | @removed index favourite screen found rows page rest =>
    have more : ¬ browsing.account.favourites.length ≤ browsing.screen.page * limit := early
    have member := (full.part.trans (List.take_sublist _ _)).subset (List.mem_of_getElem? found)
    have once := Account.delete_of_member member
    have inside := (List.getElem?_eq_some_iff.mp found).1
    rw [List.length_take] at whole
    dsimp only
    rw [rows, page, List.length_eraseIdx_of_lt inside, List.length_take]
    omega
  | scrolled rows page rest => exact absurd trivial early

theorem Short.browsed (short : Short browsing) (taken : Browsed browsing action next) :
    Short next := by
  refine ⟨short.toWithin.browsed taken, ?_⟩
  have fewer := short.fewer
  cases taken with
  | @removed index favourite screen found rows page rest =>
    have member := (short.part.trans (List.take_sublist _ _)).subset (List.mem_of_getElem? found)
    have once := Account.delete_of_member member
    have inside := (List.getElem?_eq_some_iff.mp found).1
    rw [List.length_take] at fewer
    dsimp only
    rw [rows, page, List.length_eraseIdx_of_lt inside, List.length_take]
    omega
  | scrolled rows page rest =>
    rw [rows, page, ← take_append_pageOf (by omega : 1 ≤ browsing.screen.page + 1)]
    simpa using fewer

theorem ended_of_browsed (ended : browsing.account.favourites.length ≤ browsing.screen.page * limit)
    (taken : Browsed browsing action next) :
    next.account.favourites.length ≤ next.screen.page * limit := by
  cases taken with
  | removed found rows page rest =>
    rw [page]
    exact Nat.le_trans (List.length_filter_le _ _) ended
  | scrolled rows page rest =>
    rw [page]
    exact Nat.le_trans ended (Nat.mul_le_mul_right limit (Nat.le_succ _))

/-- After a page without favourites, the rows are the server's list if and only if
every removal was made when the pages held the whole list. -/
theorem all_shown_iff {account : Account} {actions later : List BrowseAction}
    {before final : Browsing} (reached : run step (start account) actions = some before)
    (empty : pageOf before.account.favourites limit (before.screen.page + 1) = [])
    (onward : run step before (.scrollEnd :: later) = some final) :
    final.screen.rows = final.account.favourites ↔
      Meets step Exhausted (start account) (actions ++ .scrollEnd :: later) := by
  have whole := run_append_eq_some.mpr ⟨before, reached, onward⟩
  have ended : final.account.favourites.length ≤ final.screen.page * limit := by
    have within := run_invariant_of_step Within
      (fun _ _ _ within taken => within.browsed (browsed_of_step within.rest taken))
      (full_start account).toWithin reached
    refine (run_invariant_of_step (fun browsing => Within browsing ∧
      browsing.account.favourites.length ≤ browsing.screen.page * limit) ?_ ⟨within, ?_⟩ onward).2
    · intro browsing action next both taken
      have browsed := browsed_of_step both.1.rest taken
      exact ⟨both.1.browsed browsed, ended_of_browsed both.2 browsed⟩
    · unfold pageOf at empty
      rw [List.take_eq_nil_iff, List.drop_eq_nil_iff] at empty
      simpa [limit] using empty
  have fits := List.take_of_length_le ended
  rcases run_dichotomy Full Short
    (fun _ _ _ full _ exhausted taken => full.browsed exhausted (browsed_of_step full.rest taken))
    (fun _ _ _ full _ early taken => full.leave early (browsed_of_step full.rest taken))
    (fun _ _ _ short _ taken => short.browsed (browsed_of_step short.rest taken))
    (full_start account) (meets_true _ _) whole with ⟨meets, full⟩ | ⟨fails, short⟩
  · exact iff_of_true (full.whole.trans fits) meets
  · refine iff_of_false (fun same => ?_) fails
    have fewer := short.fewer
    rw [fits, same] at fewer
    exact Nat.lt_irrefl _ fewer

def seventeen : Account := ⟨(List.range 17).map fun n => FavoriteScreen.row n, by decide⟩

theorem seventeen_all_shown :
    ∃ before final, run step (start seventeen) [.scrollEnd, .remove 3] = some before ∧
      run step before [.scrollEnd, .remove 0] = some final ∧
      final.screen.rows = final.account.favourites := by
  have found : (run step (start seventeen) [.scrollEnd, .remove 3]).any (fun before =>
      decide (pageOf before.account.favourites limit (before.screen.page + 1) = []) &&
        (run step before [.scrollEnd, .remove 0]).isSome) = true := by decide
  obtain ⟨before, reached, test⟩ := exists_of_run found
  simp only [Bool.and_eq_true, decide_eq_true_eq, Option.isSome_iff_exists] at test
  obtain ⟨empty, final, onward⟩ := test
  exact ⟨before, final, reached, onward, (all_shown_iff reached empty onward).mpr (by decide)⟩

def sixteen : Account := ⟨(List.range 16).map fun n => FavoriteScreen.row n, by decide⟩

/-- The first page is loaded and one of its favourites removed. The next page starts
behind the one that was left. -/
theorem sixteen_one_missing :
    ∃ before final, run step (start sixteen) [.remove 0] = some before ∧
      pageOf before.account.favourites limit (before.screen.page + 1) = [] ∧
      before.step .scrollEnd = some final ∧
      FavoriteScreen.row 15 ∈ final.account.favourites ∧
      FavoriteScreen.row 15 ∉ final.screen.rows ∧
      final.screen.rows ≠ final.account.favourites := by
  have found : (run step (start sixteen) [.remove 0]).any (fun before =>
      decide (pageOf before.account.favourites limit (before.screen.page + 1) = []) &&
        (before.step .scrollEnd).any fun final =>
          decide (FavoriteScreen.row 15 ∈ final.account.favourites ∧
            FavoriteScreen.row 15 ∉ final.screen.rows ∧
            final.screen.rows ≠ final.account.favourites)) = true := by decide
  obtain ⟨before, reached, test⟩ := exists_of_run found
  simp only [Bool.and_eq_true, decide_eq_true_eq, Option.any_eq_true] at test
  obtain ⟨empty, final, taken, missing⟩ := test
  exact ⟨before, final, reached, empty, taken, missing⟩

end Browsing

end SparSomnong.Favourites
