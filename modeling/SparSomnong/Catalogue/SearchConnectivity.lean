import SparSomnong.Semantics.Held
import SparSomnong.Semantics.Run

/-! The connectivity of the search screen.

A loss is shown in a snack bar, with a button that listens once more. The field
`subscription` has the last listener, and `dispose` cancels that one.
-/

set_option autoImplicit false

namespace SparSomnong.Catalogue

open Semantics

inductive ConnectivityResult where
  | wifi
  | mobile
  | none
  deriving DecidableEq, Repr

/-- Listeners are numbered as they are made, that of `initState` first. `snackBars` are shown
or wait to be. The last field is history: how many snack bars each loss added. -/
structure SearchConnectivity where
  mounted : Bool := true
  subscription : Nat := 0
  live : List Nat := [0]
  listened : Nat := 1
  snackBars : Nat := 0
  timers : Nat := 0
  losses : List Nat := []
  deriving DecidableEq, Repr

inductive ConnectivityAction where
  | changed (result : ConnectivityResult)
  | tryAgain
  | timer
  | snackBarClosed
  | dispose
  deriving DecidableEq, Repr

namespace SearchConnectivity

def showSnackBar (screen : SearchConnectivity) : SearchConnectivity :=
  -- it throws without a screen
  if screen.mounted = true then { screen with snackBars := screen.snackBars + 1 } else screen

def startTime (screen : SearchConnectivity) : SearchConnectivity :=
  { screen with timers := screen.timers + 1 }

def onConnectivityChanged (result : ConnectivityResult) (screen : SearchConnectivity) (listener : Nat) :
    SearchConnectivity :=
  -- all but the first only print a connection
  if result = .none then screen.showSnackBar
  else if listener = 0 then screen.startTime
  else screen

def changed (screen : SearchConnectivity) (result : ConnectivityResult) : SearchConnectivity :=
  let told := screen.live.foldl (onConnectivityChanged result) screen
  if result = .none ∧ screen.mounted = true then
    { told with losses := screen.losses ++ [told.snackBars - screen.snackBars] }
  else told

def tryAgain (screen : SearchConnectivity) : SearchConnectivity :=
  { screen with
    subscription := screen.listened
    live := screen.live ++ [screen.listened]
    listened := screen.listened + 1
    snackBars := screen.snackBars - 1 }

def navigationPage (screen : SearchConnectivity) : SearchConnectivity :=
  if screen.mounted = true then { screen with snackBars := screen.snackBars - 1 } else screen

def dispose (screen : SearchConnectivity) : SearchConnectivity :=
  { screen with
    mounted := false
    live := cancel (some screen.subscription) screen.live }

def step (screen : SearchConnectivity) : ConnectivityAction → Option SearchConnectivity
  | .changed result => some (screen.changed result)
  | .tryAgain =>
    if screen.mounted = true ∧ 0 < screen.snackBars then some screen.tryAgain else none
  | .timer =>
    if 0 < screen.timers then some (navigationPage { screen with timers := screen.timers - 1 })
    else none
  | .snackBarClosed =>
    if screen.mounted = true ∧ 0 < screen.snackBars then
      some { screen with snackBars := screen.snackBars - 1 }
    else none
  | .dispose => if screen.mounted = true then some screen.dispose else none

/-- The listener that is held is the only one. -/
structure OneListener (screen : SearchConnectivity) : Prop where
  single : Single (some screen.subscription) screen.live
  once : ∀ shown ∈ screen.losses, shown = 1
  closed : screen.mounted = false → screen.live = []

structure Listening (screen : SearchConnectivity) : Prop where
  held : screen.listened = screen.subscription + 1
  live : screen.live =
    List.range (if screen.mounted = true then screen.subscription + 1 else screen.subscription)

variable {screen next : SearchConnectivity} {action : ConnectivityAction}

theorem told_loss (mounted : screen.mounted = true) (listeners : List Nat) :
    listeners.foldl (onConnectivityChanged .none) screen =
      { screen with snackBars := screen.snackBars + listeners.length } := by
  induction listeners generalizing screen with
  | nil => rfl
  | cons listener rest ih =>
    rw [List.foldl_cons, onConnectivityChanged, if_pos rfl, showSnackBar, if_pos mounted,
      ih (by exact mounted), List.length_cons]
    dsimp only
    rw [Nat.add_assoc, Nat.add_comm 1]

theorem told_frame (result : ConnectivityResult) (listeners : List Nat) (screen : SearchConnectivity) :
    ∃ snackBars timers, listeners.foldl (onConnectivityChanged result) screen =
      { screen with snackBars, timers } := by
  induction listeners generalizing screen with
  | nil => exact ⟨screen.snackBars, screen.timers, rfl⟩
  | cons listener rest ih =>
    have one : ∃ snackBars timers, screen.onConnectivityChanged result listener =
        { screen with snackBars, timers } := by
      unfold onConnectivityChanged showSnackBar startTime
      split
      · split
        · exact ⟨screen.snackBars + 1, screen.timers, rfl⟩
        · exact ⟨screen.snackBars, screen.timers, rfl⟩
      · split
        · exact ⟨screen.snackBars, screen.timers + 1, rfl⟩
        · exact ⟨screen.snackBars, screen.timers, rfl⟩
    obtain ⟨snackBars, timers, first⟩ := one
    obtain ⟨snackBars, timers, others⟩ := ih (screen.onConnectivityChanged result listener)
    refine ⟨snackBars, timers, ?_⟩
    rw [List.foldl_cons, others, first]

theorem changed_cases (screen : SearchConnectivity) (result : ConnectivityResult) :
    (screen.mounted = true ∧ ∃ snackBars timers, screen.changed result =
        { screen with snackBars, timers, losses := screen.losses ++ [screen.live.length] }) ∨
      ∃ snackBars timers, screen.changed result = { screen with snackBars, timers } := by
  unfold changed
  split
  · next loss =>
    obtain ⟨rfl, mounted⟩ := loss
    left
    refine ⟨mounted, screen.snackBars + screen.live.length, screen.timers, ?_⟩
    rw [told_loss mounted]
    dsimp only
    rw [Nat.add_sub_cancel_left]
  · right
    exact told_frame result screen.live screen

theorem navigationPage_frame (screen : SearchConnectivity) :
    ∃ snackBars, screen.navigationPage = { screen with snackBars } := by
  unfold navigationPage
  split
  · exact ⟨screen.snackBars - 1, rfl⟩
  · exact ⟨screen.snackBars, rfl⟩

inductive Went (screen : SearchConnectivity) : ConnectivityAction → SearchConnectivity → Prop
  | lost {result : ConnectivityResult} (mounted : screen.mounted = true) (snackBars timers : Nat) :
      Went screen (.changed result) { screen with snackBars, timers, losses := screen.losses ++ [screen.live.length] }
  | kept {action : ConnectivityAction} (snackBars timers : Nat)
      (other : action ≠ .tryAgain ∧ action ≠ .dispose) :
      Went screen action { screen with snackBars, timers }
  | triedAgain (mounted : screen.mounted = true) : Went screen .tryAgain screen.tryAgain
  | disposed (mounted : screen.mounted = true) : Went screen .dispose screen.dispose

theorem went_of_step (taken : screen.step action = some next) : Went screen action next := by
  cases action with
  | changed result =>
    cases taken
    rcases screen.changed_cases result with ⟨mounted, snackBars, timers, same⟩ | ⟨snackBars, timers, same⟩
    · rw [same]
      exact .lost mounted snackBars timers
    · rw [same]
      exact .kept snackBars timers ⟨by rintro ⟨⟩, by rintro ⟨⟩⟩
  | tryAgain =>
    obtain ⟨enabled, same⟩ := Option.ite_none_right_eq_some.mp taken
    cases same
    exact .triedAgain enabled.1
  | timer =>
    obtain ⟨_, same⟩ := Option.ite_none_right_eq_some.mp taken
    cases same
    obtain ⟨snackBars, same⟩ := navigationPage_frame { screen with timers := screen.timers - 1 }
    rw [same]
    exact .kept snackBars (screen.timers - 1) (by decide)
  | snackBarClosed =>
    obtain ⟨_, same⟩ := Option.ite_none_right_eq_some.mp taken
    cases same
    exact .kept (screen.snackBars - 1) screen.timers (by decide)
  | dispose =>
    obtain ⟨mounted, same⟩ := Option.ite_none_right_eq_some.mp taken
    cases same
    exact .disposed mounted

theorem Listening.went (listening : Listening screen) (went : Went screen action next) :
    Listening next := by
  cases went with
  | lost => exact ⟨listening.held, listening.live⟩
  | kept => exact ⟨listening.held, listening.live⟩
  | triedAgain mounted =>
    constructor
    · rfl
    · have live := listening.live
      rw [if_pos mounted, ← listening.held] at live
      unfold tryAgain
      dsimp only
      rw [if_pos mounted, List.range_succ, live]
  | disposed mounted =>
    constructor
    · exact listening.held
    · have live := listening.live
      rw [if_pos mounted] at live
      unfold dispose
      dsimp only
      rw [if_neg Bool.false_ne_true, live, List.range_succ, cancel_concat List.not_mem_range_self]

theorem listening_initial : Listening {} := ⟨rfl, rfl⟩

theorem OneListener.step_iff (one : OneListener screen) (listening : Listening screen)
    (taken : screen.step action = some next) : OneListener next ↔ action ≠ .tryAgain := by
  have went := went_of_step taken
  cases went with
  | lost mounted snackBars timers =>
    refine iff_of_true ⟨one.single, ?_, one.closed⟩ (by rintro ⟨⟩)
    intro shown recorded
    rcases List.mem_append.mp recorded with before | new
    · exact one.once shown before
    · have single := one.single.one
      rw [List.mem_singleton.mp new]
      have live : 1 ≤ screen.live.length := by
        rw [listening.live, if_pos mounted, List.length_range]
        omega
      omega
  | kept snackBars timers other =>
    exact iff_of_true ⟨one.single, one.once, one.closed⟩ other.1
  | triedAgain mounted =>
    refine iff_of_false ?_ (not_not.mpr rfl)
    intro after
    have none : screen.live = [] := (single_concat_iff screen.listened).mp after.single
    rw [listening.live, if_pos mounted, List.range_succ] at none
    exact List.concat_ne_nil _ _ none
  | disposed mounted =>
    have silent : screen.dispose.live = [] := one.single.cancel_eq_nil
    refine iff_of_true ⟨?_, one.once, fun _ => silent⟩ (by rintro ⟨⟩)
    rw [silent]
    exact single_nil _

theorem oneListener_initial : OneListener {} := by
  refine ⟨⟨Nat.le_refl 1, ?_⟩, ?_, ?_⟩
  · intro listener live
    rw [List.mem_singleton.mp live]
  · intro shown recorded
    cases recorded
  · intro disposed
    cases disposed

theorem listening_of_run {actions : List ConnectivityAction} {final : SearchConnectivity}
    (reached : run step {} actions = some final) : Listening final :=
  run_invariant_of_step Listening (fun _ _ _ listening taken => listening.went (went_of_step taken))
    listening_initial reached

theorem Listening.subscription_of_step (listening : Listening screen)
    (taken : screen.step action = some next) :
    next.subscription = screen.subscription + [action].count .tryAgain := by
  have went := went_of_step taken
  cases went with
  | lost => rfl
  | kept snackBars timers other =>
    have none : [action].count .tryAgain = 0 := by
      rw [List.count_eq_zero, List.mem_singleton]
      exact Ne.symm other.1
    rw [none]
    rfl
  | triedAgain => exact listening.held
  | disposed => rfl

theorem subscription_of_run {actions : List ConnectivityAction} {final : SearchConnectivity}
    (reached : run step {} actions = some final) :
    final.subscription = actions.count .tryAgain := by
  have both : Listening final ∧ final.subscription = actions.count .tryAgain := by
    refine run_history (fun before screen => Listening screen ∧
      screen.subscription = before.count .tryAgain) ?_ ⟨listening_initial, rfl⟩ reached
    rintro before screen action next ⟨listening, counted⟩ taken
    refine ⟨listening.went (went_of_step taken), ?_⟩
    rw [listening.subscription_of_step taken, counted, List.count_append]
  exact both.2

/-- A screen has one listener more than there were presses, and leaves as many as those. -/
theorem live_of_run {actions : List ConnectivityAction} {final : SearchConnectivity}
    (reached : run step {} actions = some final) :
    final.live.length = actions.count .tryAgain + if final.mounted = true then 1 else 0 := by
  rw [(listening_of_run reached).live, List.length_range, subscription_of_run reached]
  split
  · rfl
  · rfl

end SearchConnectivity

open SearchConnectivity

/-- The listener that is held is the only one throughout exactly if the button of the snack bar
is never pressed. -/
theorem oneListener_always_iff {actions : List ConnectivityAction} {final : SearchConnectivity}
    (reached : run step {} actions = some final) :
    Always step OneListener {} actions ↔ .tryAgain ∉ actions := by
  have guarded : Always step OneListener {} actions ↔
      Meets step (fun _ action => action ≠ .tryAgain) {} actions :=
    always_iff_meets Listening (fun _ _ _ listening taken => listening.went (went_of_step taken))
      (fun _ _ _ listening one taken => one.step_iff listening taken)
      listening_initial oneListener_initial reached
  rw [guarded, meets_iff_forall reached]
  constructor
  · intro never pressed
    exact never .tryAgain pressed rfl
  · rintro never action member rfl
    exact never member

theorem untouched_oneListener : Always step OneListener {}
    [.changed .none, .changed .wifi, .timer, .changed .none, .snackBarClosed, .dispose] := by
  have found : (run step {} [.changed .none, .changed .wifi, .timer, .changed .none,
      .snackBarClosed, .dispose]).any (fun screen => decide (screen.losses = [1, 1])) = true := by
    decide
  obtain ⟨final, reached, _⟩ := exists_of_run found
  exact (oneListener_always_iff reached).mpr (by decide)

theorem pressed_two_listeners :
    ∃ final, run step {} [.changed .none, .tryAgain, .changed .none, .dispose] = some final ∧
      final.losses = [1, 2] ∧ final.mounted = false ∧ final.live = [0] ∧ ¬ OneListener final := by
  refine ⟨_, rfl, rfl, rfl, rfl, fun one => ?_⟩
  cases one.closed rfl

end SparSomnong.Catalogue
