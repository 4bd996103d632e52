import SparSomnong.Semantics.Rows
import SparSomnong.Semantics.Run
import SparSomnong.Semantics.Utf16

/-! The countdown of LoginScreen until a code can be sent again.

A tap that arrives before the button is hidden starts another timer. The timers
share the counter, and only the last of them can be cancelled.
-/

set_option autoImplicit false

namespace SparSomnong.Session

open Semantics

structure Periodic where
  handle : Nat
  ticks : Nat
  deriving DecidableEq, Repr

/-- `isWait` is the last value added to the stream and `shown` the one that was built
with last. The fields from `waits` on are history: how many ticks each timer that has
ended made, and whether `dispose` threw. -/
structure ResendCountdown where
  start : Nat := 30
  timer : Option Nat := none
  running : List Periodic := []
  created : Nat := 0
  isWait : Bool := false
  shown : Option Bool := none
  mounted : Bool := true
  waits : List Nat := []
  threw : Bool := false
  deriving DecidableEq, Repr

inductive CountdownAction where
  | tap (phoneNumberController : Units)
  | rebuild
  | tick (index : Nat)
  | dispose
  deriving DecidableEq, Repr

namespace ResendCountdown

def startTimer (screen : ResendCountdown) : ResendCountdown :=
  { screen with
    timer := some screen.created
    running := screen.running ++ [⟨screen.created, 0⟩]
    created := screen.created + 1 }

def verifyNumber (screen : ResendCountdown) : ResendCountdown :=
  startTimer { screen with isWait := true }

def onTick (screen : ResendCountdown) (index : Nat) (periodic : Periodic) : ResendCountdown :=
  let cancelled := { screen with
    running := screen.running.eraseIdx index
    waits := screen.waits ++ [periodic.ticks + 1] }
  if screen.start < 1 then cancelled
  else if screen.start - 1 = 0 then { cancelled with start := 30, isWait := false }
  else { screen with
    start := screen.start - 1
    running := screen.running.set index { periodic with ticks := periodic.ticks + 1 } }

def dispose (screen : ResendCountdown) : ResendCountdown :=
  -- `cancel` is called on the timer that is held, also where none is
  match screen.timer with
  | some handle => { screen with
      mounted := false
      running := screen.running.filter fun periodic => periodic.handle ≠ handle }
  | none => { screen with mounted := false, threw := true }

def step (screen : ResendCountdown) : CountdownAction → Option ResendCountdown
  | .tap phoneNumberController =>
    if screen.mounted = true ∧ screen.shown = some false then
      some (if phoneNumberController ≠ [] then screen.verifyNumber else screen)
    else none
  | .rebuild =>
    if screen.mounted = true then some { screen with shown := some screen.isWait } else none
  | .tick index =>
    if screen.mounted = true then screen.running[index]?.map (screen.onTick index) else none
  | .dispose => if screen.mounted = true then some screen.dispose else none

/-- One timer at a time, which is the one that is held. -/
structure OneTimer (screen : ResendCountdown) : Prop where
  one : screen.running.length ≤ 1
  held : ∀ periodic ∈ screen.running, screen.timer = some periodic.handle
  waiting : screen.mounted = true → (screen.running ≠ [] ↔ screen.isWait = true)
  full : ∀ ticks ∈ screen.waits, ticks = 30
  disposed : screen.mounted = false → screen.running = [] ∧ screen.threw = false

/-- No code is asked for during a wait, and the screen is not left before one was. -/
def Spaced (screen : ResendCountdown) : CountdownAction → Prop
  | .tap phoneNumberController => phoneNumberController ≠ [] → screen.isWait = false
  | .dispose => screen.timer ≠ none
  | .rebuild | .tick _ => True

instance (screen : ResendCountdown) :
    (action : CountdownAction) → Decidable (screen.Spaced action)
  | .tap _ => inferInstanceAs (Decidable (_ → _))
  | .dispose => inferInstanceAs (Decidable (_ ≠ _))
  | .rebuild | .tick _ => isTrue trivial

structure Counted (screen : ResendCountdown) : Prop where
  calm : screen.threw = false
  positive : 1 ≤ screen.start
  idle : screen.running = [] → screen.start = 30
  alone : ∀ periodic, screen.running = [periodic] → screen.isWait = true →
    screen.start + periodic.ticks = 30

inductive Went (screen : ResendCountdown) : CountdownAction → ResendCountdown → Prop
  | typed : Went screen (.tap []) screen
  | sent {phoneNumberController : Units} (typed : phoneNumberController ≠ []) :
      Went screen (.tap phoneNumberController) screen.verifyNumber
  | rebuilt : Went screen .rebuild { screen with shown := some screen.isWait }
  | ticked {index : Nat} {periodic : Periodic} (found : screen.running[index]? = some periodic) :
      Went screen (.tick index) (screen.onTick index periodic)
  | disposed : Went screen .dispose screen.dispose

variable {screen next : ResendCountdown} {action : CountdownAction}

theorem went_of_step (taken : screen.step action = some next) :
    screen.mounted = true ∧ Went screen action next := by
  cases action with
  | tap phoneNumberController =>
    simp only [step] at taken
    split at taken
    · next enabled =>
      cases taken
      refine ⟨enabled.1, ?_⟩
      split
      · next typed => exact .sent typed
      · next empty =>
        rw [Decidable.not_not.mp empty]
        exact .typed
    · cases taken
  | rebuild =>
    simp only [step] at taken
    split at taken
    · next mounted => cases taken; exact ⟨mounted, .rebuilt⟩
    · cases taken
  | tick index =>
    simp only [step] at taken
    split at taken
    · next mounted =>
      obtain ⟨periodic, found, rfl⟩ := Option.map_eq_some_iff.mp taken
      exact ⟨mounted, .ticked found⟩
    · cases taken
  | dispose =>
    simp only [step] at taken
    split at taken
    · next mounted => cases taken; exact ⟨mounted, .disposed⟩
    · cases taken

theorem onTick_cases (positive : 1 ≤ screen.start) (index : Nat) (periodic : Periodic) :
    (screen.start = 1 ∧ screen.onTick index periodic = { screen with
        running := screen.running.eraseIdx index
        waits := screen.waits ++ [periodic.ticks + 1]
        start := 30
        isWait := false }) ∨
      (1 < screen.start ∧ screen.onTick index periodic = { screen with
        start := screen.start - 1
        running := screen.running.set index { periodic with ticks := periodic.ticks + 1 } }) := by
  unfold onTick
  rw [if_neg (by omega)]
  by_cases last : screen.start - 1 = 0
  · left
    rw [if_pos last]
    exact ⟨by omega, rfl⟩
  · right
    rw [if_neg last]
    exact ⟨by omega, rfl⟩

theorem eq_of_set_singleton {periodics : List Periodic} {index : Nat} {periodic other new : Periodic}
    (found : periodics[index]? = some periodic) (same : periodics.set index new = [other]) :
    periodics = [periodic] ∧ other = new := by
  have one : periodics.length = 1 := by
    rw [← List.length_set, same]
    rfl
  obtain ⟨only, rfl⟩ := alone_of_found (Nat.le_of_eq one) found
  rw [only] at same
  cases same
  exact ⟨only, rfl⟩

theorem Counted.step (counted : screen.mounted = true → Counted screen)
    (taken : screen.step action = some next) : next.mounted = true → Counted next := by
  intro mounted'
  obtain ⟨mounted, went⟩ := went_of_step taken
  obtain ⟨calm, positive, idle, alone⟩ := counted mounted
  cases went with
  | typed => exact ⟨calm, positive, idle, alone⟩
  | sent typed =>
    refine ⟨calm, positive, fun none => ?_, fun periodic same _ => ?_⟩
    · simp [verifyNumber, startTimer] at none
    · have both : screen.running ++ [⟨screen.created, 0⟩] = [periodic] := same
      rcases List.append_eq_singleton_iff.mp both with ⟨none, new⟩ | ⟨-, none⟩
      · obtain rfl := List.singleton_inj.mp new
        exact idle none
      · cases none
  | rebuilt => exact ⟨calm, positive, idle, alone⟩
  | @ticked index periodic found =>
    rcases onTick_cases positive index periodic with ⟨last, ended⟩ | ⟨more, counts⟩
    · rw [ended]
      refine ⟨calm, ?_, fun _ => rfl, ?_⟩
      · show 1 ≤ 30
        decide
      · intro other _ waits
        cases waits
    · rw [counts]
      refine ⟨calm, by dsimp only; omega, ?_, ?_⟩
      · intro none
        have inside := (List.getElem?_eq_some_iff.mp found).1
        rw [(List.set_eq_nil_iff ..).mp none] at inside
        cases inside
      · intro other same waits
        obtain ⟨only, rfl⟩ := eq_of_set_singleton found same
        have total := alone periodic only waits
        dsimp only
        omega
  | disposed =>
    unfold dispose at mounted'
    split at mounted' <;> cases mounted'

/-- What a single timer keeps: only a tap during the wait adds another. -/
theorem OneTimer.verifyNumber_iff (single : OneTimer screen) (mounted : screen.mounted = true) :
    OneTimer screen.verifyNumber ↔ screen.isWait = false := by
  have waiting := single.waiting mounted
  constructor
  · intro next
    have one := next.one
    simp only [verifyNumber, startTimer, List.length_append, List.length_singleton] at one
    have none : screen.running = [] := List.eq_nil_of_length_eq_zero (by omega)
    rw [none] at waiting
    simpa using waiting
  · intro idle
    have none : screen.running = [] := by simpa [idle] using waiting
    have only : screen.verifyNumber.running = [⟨screen.created, 0⟩] := by
      simp [verifyNumber, startTimer, none]
    constructor
    · rw [only]
      exact Nat.le_refl 1
    · rw [only]
      intro periodic member
      obtain rfl := List.mem_singleton.mp member
      rfl
    · rw [only]
      exact fun _ => iff_of_true (List.cons_ne_nil _ _) rfl
    · exact single.full
    · intro closed
      have open' : screen.verifyNumber.mounted = true := mounted
      rw [open'] at closed
      cases closed

theorem OneTimer.onTick (single : OneTimer screen) (mounted : screen.mounted = true)
    (counted : Counted screen) {index : Nat} {periodic : Periodic}
    (found : screen.running[index]? = some periodic) : OneTimer (screen.onTick index periodic) := by
  obtain ⟨alone, rfl⟩ := alone_of_found single.one found
  have waits := (single.waiting mounted).mp (by simp [alone])
  have total := counted.alone periodic alone waits
  have held := single.held periodic (by simp [alone])
  rcases onTick_cases counted.positive 0 periodic with ⟨last, ended⟩ | ⟨more, counts⟩
  · rw [ended, alone]
    constructor
    · exact Nat.zero_le 1
    · intro periodic member
      cases member
    · exact fun _ => iff_of_false (fun some => some rfl) Bool.false_ne_true
    · intro ticks member
      rcases List.mem_append.mp member with before | new
      · exact single.full ticks before
      · rw [List.mem_singleton.mp new]
        omega
    · intro closed
      cases mounted.symm.trans closed
  · rw [counts, alone]
    constructor
    · exact Nat.le_refl 1
    · intro periodic member
      obtain rfl := List.mem_singleton.mp member
      exact held
    · exact fun _ => iff_of_true (List.cons_ne_nil _ _) waits
    · exact single.full
    · intro closed
      cases mounted.symm.trans closed

theorem OneTimer.dispose_iff (single : OneTimer screen) (calm : screen.threw = false) :
    OneTimer screen.dispose ↔ screen.timer ≠ none := by
  unfold dispose
  cases held : screen.timer with
  | none =>
    refine iff_of_false (fun next => ?_) (fun some => some rfl)
    cases (next.disposed rfl).2
  | some handle =>
    refine iff_of_true ?_ (Option.some_ne_none handle)
    have none : (screen.running.filter fun periodic => periodic.handle ≠ handle) = [] := by
      rw [List.filter_eq_nil_iff]
      intro periodic member
      have same := (single.held periodic member).symm.trans held
      simpa using Option.some.inj same
    dsimp only
    rw [none]
    constructor
    · exact Nat.zero_le 1
    · intro periodic member
      cases member
    · intro mounted
      cases mounted
    · exact single.full
    · exact fun _ => ⟨rfl, calm⟩

theorem OneTimer.step_iff (single : OneTimer screen) (counted : screen.mounted = true → Counted screen)
    (taken : screen.step action = some next) : OneTimer next ↔ screen.Spaced action := by
  obtain ⟨mounted, went⟩ := went_of_step taken
  cases went with
  | typed => exact iff_of_true single fun typed => absurd rfl typed
  | sent typed =>
    rw [single.verifyNumber_iff mounted]
    exact ⟨fun idle _ => idle, fun spaced => spaced typed⟩
  | rebuilt =>
    exact iff_of_true ⟨single.one, single.held, single.waiting, single.full, single.disposed⟩ trivial
  | ticked found => exact iff_of_true (single.onTick mounted (counted mounted) found) trivial
  | disposed => exact single.dispose_iff (counted mounted).calm

theorem oneTimer_initial : OneTimer {} := by
  constructor <;> simp

theorem counted_initial : Counted {} := by
  constructor <;> simp

end ResendCountdown

open ResendCountdown

/-- The countdown is right in every state of a run exactly when no code is asked for
during a wait and the screen is left only after one was. -/
theorem oneTimer_always_iff {actions : List CountdownAction} {final : ResendCountdown}
    (reached : run step {} actions = some final) :
    Always step OneTimer {} actions ↔ Meets step Spaced {} actions :=
  always_iff_meets (fun screen => screen.mounted = true → Counted screen)
    (fun _ _ _ counted taken => Counted.step counted taken)
    (fun _ _ _ counted single taken => single.step_iff counted taken)
    (fun _ => counted_initial) oneTimer_initial reached

def oneCode : List CountdownAction :=
  [.rebuild, .tap (units "12345678"), .rebuild] ++ List.replicate 30 (.tick 0) ++ [.dispose]

theorem oneCode_oneTimer : Always step OneTimer {} oneCode := by
  have found : (run step {} oneCode).any (fun screen => decide (screen.waits = [30])) = true := by
    decide
  obtain ⟨final, reached, -⟩ := exists_of_run found
  exact (oneTimer_always_iff reached).mpr (by decide)

theorem countdown_overlaps :
    (∃ final, run step {} [.rebuild, .dispose] = some final ∧ final.threw = true ∧
      ¬ OneTimer final) ∧
    ∃ final, run step {} [.rebuild, .tap (units "12345678"), .tap (units "12345678"), .dispose] =
        some final ∧ final.running = [⟨0, 0⟩] ∧ ¬ OneTimer final := by
  refine ⟨⟨_, rfl, rfl, fun single => ?_⟩, _, rfl, rfl, fun single => ?_⟩
  · cases (single.disposed rfl).2
  · cases (single.disposed rfl).1

end SparSomnong.Session
