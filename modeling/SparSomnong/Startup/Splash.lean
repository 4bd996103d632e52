import SparSomnong.Semantics.Rows
import SparSomnong.Semantics.Run
import SparSomnong.Session.Users

/-! The way from the splash screen to the main screen.

A first check of the connection decides between one tick after two seconds and a
tick every four seconds that checks again. The checks of the ticks overlap, and
each one that finds the device online starts `startCheckUser`. Only a part of
what it awaits is covered by its try blocks.
-/

set_option autoImplicit false

namespace SparSomnong.Startup

open Semantics Session

/-- The periodic timer: two seconds, then the user; or four seconds, then a check. -/
inductive SplashTimer where
  | checkUser
  | checkConnectivity
  deriving DecidableEq, Repr

/-- What a call of `startCheckUser` waits for. -/
inductive CheckUser where
  | getCurrency
  | currentUser
  | getIdToken
  | getUser (token : Option String)
  deriving DecidableEq, Repr

/-- The route on top, which `pushReplacementNamed` replaces. -/
inductive TopRoute where
  | splash
  | flushbar
  | main
  deriving DecidableEq, Repr

/-- `checks` counts the checks of the ticks in flight; `leaving` says that the route of
the splash screen was replaced. The last two fields are history: a check has found
the device online, and the number of pushes. -/
structure Splash where
  provider : UserProvider := {}
  checking : Bool := true
  timer : Option SplashTimer := none
  checks : Nat := 0
  calls : List CheckUser := []
  top : TopRoute := .splash
  leaving : Bool := false
  mounted : Bool := true
  online : Bool := false
  pushes : Nat := 0
  deriving DecidableEq, Repr

inductive SplashAction where
  | checked (online : Bool)
  | tick
  | checkedAgain (online : Bool)
  | currency (index : Nat) (reply : Reply)
  | currentUser (index : Nat) (signedIn : Except Thrown Bool)
  | idToken (index : Nat) (tokenResult : Except Thrown (Option (Option String)))
  | user (index : Nat) (reply : Reply)
  | flushbarGone
  | dispose

namespace Splash

def checked (splash : Splash) (online : Bool) : Splash :=
  if online then
    { splash with checking := false, timer := some .checkUser, online := true }
  else
    { splash with checking := false, timer := some .checkConnectivity, top := .flushbar }

def startCheckUser (splash : Splash) : Splash :=
  { splash with calls := splash.calls ++ [.getCurrency] }

def checkedAgain (splash : Splash) (online : Bool) : Splash :=
  let fewer := { splash with checks := splash.checks - 1 }
  if online then startCheckUser { fewer with timer := none, online := true } else fewer

def await (splash : Splash) (index : Nat) (call : CheckUser) : Splash :=
  { splash with calls := splash.calls.set index call }

def leave (splash : Splash) (index : Nat) : Splash :=
  { splash with calls := splash.calls.eraseIdx index }

def startTime (splash : Splash) : Splash :=
  -- `navigationPage` is called at once, and its result is the callback of the timer
  if splash.mounted then
    { splash with
      top := .main
      leaving := splash.leaving || splash.top == .splash
      pushes := splash.pushes + 1 }
  else splash

def onCurrency (splash : Splash) (index : Nat) (reply : Reply) : Splash :=
  -- no try block covers this, nor `Provider.of`
  match getCurrency reply with
  | .ok (some currency) =>
    if splash.mounted then
      Splash.await { splash with provider := splash.provider.perform (.setCurrency (some currency)) }
        index .currentUser
    else splash.leave index
  | .ok none => splash.await index .currentUser
  | .error _ => splash.leave index

def onCurrentUser (splash : Splash) (index : Nat) : Except Thrown Bool → Splash
  -- an exception is printed, and that is all
  | .ok true => splash.await index .getIdToken
  | .ok false => startTime (splash.leave index)
  | .error _ => splash.leave index

def onIdToken (splash : Splash) (index : Nat) : Except Thrown (Option (Option String)) → Splash
  -- the token is read inside of the inner try
  | .ok (some token) => splash.await index (.getUser token)
  | .ok none => startTime (splash.leave index)
  | .error _ => splash.leave index

def onUser (splash : Splash) (index : Nat) (token : Option String) (reply : Reply) : Splash :=
  match getUser reply with
  | .ok (some user) =>
    if splash.mounted then
      startTime (leave { splash with
        provider := splash.provider.perform (.setUser (some { user with token })) } index)
    else startTime (splash.leave index)
  | _ => startTime (splash.leave index)

def step (splash : Splash) : SplashAction → Option Splash
  | .checked online => if splash.checking then some (splash.checked online) else none
  | .tick =>
    match splash.timer with
    | some .checkUser => some (startCheckUser { splash with timer := none })
    | some .checkConnectivity => some { splash with checks := splash.checks + 1 }
    | none => none
  | .checkedAgain online =>
    if 0 < splash.checks then some (splash.checkedAgain online) else none
  | .currency index reply =>
    match splash.calls[index]? with
    | some .getCurrency => some (splash.onCurrency index reply)
    | _ => none
  | .currentUser index signedIn =>
    match splash.calls[index]? with
    | some .currentUser => some (splash.onCurrentUser index signedIn)
    | _ => none
  | .idToken index tokenResult =>
    match splash.calls[index]? with
    | some .getIdToken => some (splash.onIdToken index tokenResult)
    | _ => none
  | .user index reply =>
    match splash.calls[index]? with
    | some (.getUser token) => some (splash.onUser index token reply)
    | _ => none
  | .flushbarGone =>
    if splash.top = .flushbar then some { splash with top := .splash } else none
  | .dispose =>
    if splash.leaving && splash.mounted then
      some { splash with mounted := false, timer := none }
    else none

def Settled (splash : Splash) : Prop :=
  splash.checking = false ∧ splash.timer = none ∧ splash.checks = 0 ∧ splash.calls = []

instance (splash : Splash) : Decidable splash.Settled := inferInstanceAs (Decidable (_ ∧ _))

def ReachesMain (splash : Splash) : Prop :=
  splash.Settled → splash.online = true → splash.pushes = 1

/-- A check of a tick comes back online only when none has before. -/
def OneCheck (splash : Splash) : SplashAction → Prop
  | .checkedAgain true => splash.online = false
  | _ => True

/-- The currencies can be decoded, or are null; asking for the account and for its token
does not throw. -/
def Calm : SplashAction → Prop
  | .currency _ reply => (getCurrency reply).isOk = true
  | .currentUser _ signedIn => signedIn.isOk = true
  | .idToken _ tokenResult => tokenResult.isOk = true
  | _ => True

instance (splash : Splash) : (action : SplashAction) → Decidable (splash.OneCheck action)
  | .checkedAgain true => inferInstanceAs (Decidable (_ = _))
  | .checkedAgain false | .checked _ | .tick | .currency _ _ | .currentUser _ _ | .idToken _ _
  | .user _ _ | .flushbarGone | .dispose => isTrue trivial

instance : (action : SplashAction) → Decidable (Calm action)
  | .currency _ _ | .currentUser _ _ | .idToken _ _ => inferInstanceAs (Decidable (_ = _))
  | .checked _ | .tick | .checkedAgain _ | .user _ _ | .flushbarGone | .dispose => isTrue trivial

variable {splash next : Splash} {action : SplashAction}

/-! ## One call of `startCheckUser` -/

structure Unpushed (splash : Splash) : Prop where
  mounted : splash.mounted = true
  leaving : splash.leaving = false
  pushes : splash.pushes = 0

structure Found (splash : Splash) : Prop where
  checking : splash.checking = false
  timer : splash.timer = none
  online : splash.online = true

/-- The stages on the way, where no more than one check finds the device online. -/
inductive Underway (splash : Splash) : Prop
  | first (checking : splash.checking = true) (timer : splash.timer = none)
      (checks : splash.checks = 0) (calls : splash.calls = []) (online : splash.online = false)
      (unpushed : splash.Unpushed)
  | offline (checking : splash.checking = false) (timer : splash.timer = some .checkConnectivity)
      (calls : splash.calls = []) (online : splash.online = false) (unpushed : splash.Unpushed)
  | soon (checking : splash.checking = false) (timer : splash.timer = some .checkUser)
      (checks : splash.checks = 0) (calls : splash.calls = []) (online : splash.online = true)
      (unpushed : splash.Unpushed)
  | running {call : CheckUser} (found : splash.Found) (calls : splash.calls = [call])
      (unpushed : splash.Unpushed)
  | pushed (found : splash.Found) (calls : splash.calls = []) (pushes : splash.pushes = 1)

structure Stuck (splash : Splash) : Prop where
  found : splash.Found
  calls : splash.calls = []
  unpushed : splash.Unpushed

theorem Underway.reachesMain (underway : splash.Underway) : splash.ReachesMain := by
  intro settled online
  obtain ⟨checking, timer, checks, calls⟩ := settled
  cases underway with
  | first checking' => simp [checking] at checking'
  | offline _ timer' => simp [timer] at timer'
  | soon _ timer' => simp [timer] at timer'
  | running _ calls' => simp [calls] at calls'
  | pushed _ _ pushes => exact pushes

theorem Unpushed.frame (unpushed : splash.Unpushed) (mounted : next.mounted = splash.mounted)
    (leaving : next.leaving = splash.leaving) (pushes : next.pushes = splash.pushes) :
    next.Unpushed :=
  ⟨mounted.trans unpushed.mounted, leaving.trans unpushed.leaving, pushes.trans unpushed.pushes⟩

theorem Found.frame (found : splash.Found) (checking : next.checking = splash.checking)
    (timer : next.timer = splash.timer) (online : next.online = splash.online) : next.Found :=
  ⟨checking.trans found.checking, timer.trans found.timer, online.trans found.online⟩

theorem calm_of_idle (calls : splash.calls = []) (taken : splash.step action = some next) :
    Calm action := by
  cases action <;> first | trivial | simp [step, calls] at taken

theorem flushbarGone_eq (taken : splash.step .flushbarGone = some next) :
    next = { splash with top := .splash } := by
  simp only [step] at taken
  split at taken
  · exact (Option.some.inj taken).symm
  · cases taken

theorem first_step (checking : splash.checking = true) (timer : splash.timer = none)
    (checks : splash.checks = 0) (calls : splash.calls = []) (online : splash.online = false)
    (unpushed : splash.Unpushed) (taken : splash.step action = some next) : next.Underway := by
  cases action with
  | checked answer =>
    simp only [step, checking, ↓reduceIte, Option.some.injEq] at taken
    subst taken
    cases answer with
    | true => exact .soon rfl rfl checks calls rfl (unpushed.frame rfl rfl rfl)
    | false => exact .offline rfl rfl calls online (unpushed.frame rfl rfl rfl)
  | flushbarGone =>
    rw [flushbarGone_eq taken]
    exact .first checking timer checks calls online (unpushed.frame rfl rfl rfl)
  | _ => simp [step, timer, checks, calls, unpushed.leaving] at taken

theorem offline_step (checking : splash.checking = false)
    (timer : splash.timer = some .checkConnectivity) (calls : splash.calls = [])
    (online : splash.online = false) (unpushed : splash.Unpushed)
    (taken : splash.step action = some next) : next.Underway := by
  cases action with
  | tick =>
    simp only [step] at taken
    split at taken
    · next soon => simp [timer] at soon
    · cases taken
      exact .offline checking timer calls online (unpushed.frame rfl rfl rfl)
    · cases taken
  | checkedAgain answer =>
    simp only [step] at taken
    split at taken
    · cases taken
      cases answer with
      | true =>
        have started : splash.calls ++ [.getCurrency] = [.getCurrency] := by
          rw [calls, List.nil_append]
        exact .running ⟨checking, rfl, rfl⟩ started (unpushed.frame rfl rfl rfl)
      | false => exact .offline checking timer calls online (unpushed.frame rfl rfl rfl)
    · cases taken
  | flushbarGone =>
    rw [flushbarGone_eq taken]
    exact .offline checking timer calls online (unpushed.frame rfl rfl rfl)
  | _ => simp [step, checking, calls, unpushed.leaving] at taken

theorem soon_step (checking : splash.checking = false) (timer : splash.timer = some .checkUser)
    (checks : splash.checks = 0) (calls : splash.calls = []) (online : splash.online = true)
    (unpushed : splash.Unpushed) (taken : splash.step action = some next) : next.Underway := by
  cases action with
  | tick =>
    simp only [step, timer, Option.some.injEq] at taken
    subst taken
    have started : splash.calls ++ [.getCurrency] = [.getCurrency] := by rw [calls, List.nil_append]
    exact .running ⟨checking, rfl, online⟩ started (unpushed.frame rfl rfl rfl)
  | flushbarGone =>
    rw [flushbarGone_eq taken]
    exact .soon checking timer checks calls online (unpushed.frame rfl rfl rfl)
  | _ => simp [step, checking, checks, calls, unpushed.leaving] at taken

def ofCall : SplashAction → Bool
  | .currency _ _ | .currentUser _ _ | .idToken _ _ | .user _ _ => true
  | _ => false

theorem found_step (found : splash.Found) (allowed : splash.OneCheck action)
    (aside : ofCall action = false) (taken : splash.step action = some next) :
    next.Found ∧ next.calls = splash.calls ∧ next.pushes = splash.pushes ∧
      (splash.Unpushed → next.Unpushed) := by
  cases action with
  | checked answer => simp [step, found.checking] at taken
  | tick => simp [step, found.timer] at taken
  | checkedAgain answer =>
    simp only [step] at taken
    split at taken
    · cases taken
      cases answer with
      | true => simp [OneCheck, found.online] at allowed
      | false =>
        exact ⟨found.frame rfl rfl rfl, rfl, rfl, fun unpushed => unpushed.frame rfl rfl rfl⟩
    · cases taken
  | flushbarGone =>
    rw [flushbarGone_eq taken]
    exact ⟨found.frame rfl rfl rfl, rfl, rfl, fun unpushed => unpushed.frame rfl rfl rfl⟩
  | dispose =>
    simp only [step] at taken
    split at taken
    · next leaving =>
      cases taken
      refine ⟨⟨found.checking, rfl, found.online⟩, rfl, rfl, ?_⟩
      intro unpushed
      simp [unpushed.leaving] at leaving
    · cases taken
  | _ => simp [ofCall] at aside

/-! ### The call itself -/

section
variable {call : CheckUser} (found : splash.Found) (calls : splash.calls = [call])
  (unpushed : splash.Unpushed)

include found calls unpushed

theorem await_underway (other : CheckUser) : (splash.await 0 other).Underway := by
  have only : splash.calls.set 0 other = [other] := by simp [calls]
  exact .running (found.frame rfl rfl rfl) only (unpushed.frame rfl rfl rfl)

theorem leave_stuck : (splash.leave 0).Stuck :=
  ⟨found.frame rfl rfl rfl, by simp [leave, calls], unpushed.frame rfl rfl rfl⟩

theorem startTime_underway : (startTime (splash.leave 0)).Underway := by
  have mounted : (splash.leave 0).mounted = true := unpushed.mounted
  unfold startTime
  rw [if_pos mounted]
  refine .pushed (found.frame rfl rfl rfl) (by simp [leave, calls]) ?_
  show splash.pushes + 1 = 1
  rw [unpushed.pushes]

theorem onCurrency_cases (reply : Reply) :
    ((getCurrency reply).isOk = true ∧ (splash.onCurrency 0 reply).Underway) ∨
      (¬ (getCurrency reply).isOk = true ∧ (splash.onCurrency 0 reply).Stuck) := by
  unfold onCurrency
  cases getCurrency reply with
  | error thrown => exact Or.inr ⟨Bool.false_ne_true, leave_stuck found calls unpushed⟩
  | ok table =>
    refine Or.inl ⟨rfl, ?_⟩
    cases table with
    | none => exact await_underway found calls unpushed _
    | some currency =>
      dsimp only
      rw [if_pos unpushed.mounted]
      apply @await_underway _ call
      · exact found.frame rfl rfl rfl
      · exact calls
      · exact unpushed.frame rfl rfl rfl

theorem onCurrentUser_cases (signedIn : Except Thrown Bool) :
    (signedIn.isOk = true ∧ (splash.onCurrentUser 0 signedIn).Underway) ∨
      (¬ signedIn.isOk = true ∧ (splash.onCurrentUser 0 signedIn).Stuck) := by
  cases signedIn with
  | error thrown => exact Or.inr ⟨Bool.false_ne_true, leave_stuck found calls unpushed⟩
  | ok present =>
    refine Or.inl ⟨rfl, ?_⟩
    cases present with
    | true => exact await_underway found calls unpushed _
    | false => exact startTime_underway found calls unpushed

theorem onIdToken_cases (tokenResult : Except Thrown (Option (Option String))) :
    (tokenResult.isOk = true ∧ (splash.onIdToken 0 tokenResult).Underway) ∨
      (¬ tokenResult.isOk = true ∧ (splash.onIdToken 0 tokenResult).Stuck) := by
  cases tokenResult with
  | error thrown => exact Or.inr ⟨Bool.false_ne_true, leave_stuck found calls unpushed⟩
  | ok result =>
    refine Or.inl ⟨rfl, ?_⟩
    cases result with
    | some token => exact await_underway found calls unpushed _
    | none => exact startTime_underway found calls unpushed

/-- Every outcome of `getUser` leads to the push. -/
theorem onUser_underway (token : Option String) (reply : Reply) :
    (splash.onUser 0 token reply).Underway := by
  unfold onUser
  split
  · rw [if_pos unpushed.mounted]
    exact @startTime_underway { splash with provider := _ } call (found.frame rfl rfl rfl) calls
      (unpushed.frame rfl rfl rfl)
  · exact startTime_underway found calls unpushed

end

theorem only_call {call other : CheckUser} {index : Nat} (calls : splash.calls = [call])
    (here : splash.calls[index]? = some other) : index = 0 ∧ other = call := by
  obtain ⟨only, first⟩ := alone_of_found (by simp [calls]) here
  rw [calls] at only
  exact ⟨first, (List.singleton_inj.mp only).symm⟩

theorem running_step {call : CheckUser} (found : splash.Found) (calls : splash.calls = [call])
    (unpushed : splash.Unpushed) (allowed : splash.OneCheck action)
    (taken : splash.step action = some next) :
    (Calm action ∧ next.Underway) ∨ (¬ Calm action ∧ next.Stuck) := by
  have aside : ofCall action = false → next.Underway := by
    intro aside
    obtain ⟨found, same, -, keeps⟩ := found_step found allowed aside taken
    exact .running found (same.trans calls) (keeps unpushed)
  cases action with
  | currency index reply =>
    simp only [step] at taken
    split at taken
    · next here =>
      cases taken
      obtain ⟨rfl, -⟩ := only_call calls here
      exact onCurrency_cases found calls unpushed reply
    · cases taken
  | currentUser index signedIn =>
    simp only [step] at taken
    split at taken
    · next here =>
      cases taken
      obtain ⟨rfl, -⟩ := only_call calls here
      exact onCurrentUser_cases found calls unpushed signedIn
    · cases taken
  | idToken index tokenResult =>
    simp only [step] at taken
    split at taken
    · next here =>
      cases taken
      obtain ⟨rfl, -⟩ := only_call calls here
      exact onIdToken_cases found calls unpushed tokenResult
    · cases taken
  | user index reply =>
    simp only [step] at taken
    split at taken
    · next token here =>
      cases taken
      obtain ⟨rfl, -⟩ := only_call calls here
      exact Or.inl ⟨trivial, onUser_underway found calls unpushed token reply⟩
    · cases taken
  | _ => exact Or.inl ⟨trivial, aside rfl⟩

theorem ofCall_of_idle (calls : splash.calls = []) (taken : splash.step action = some next) :
    ofCall action = false := by
  cases action <;> first | rfl | simp [step, calls] at taken

theorem Underway.step (underway : splash.Underway) (allowed : splash.OneCheck action)
    (taken : splash.step action = some next) :
    (Calm action ∧ next.Underway) ∨ (¬ Calm action ∧ next.Stuck) := by
  cases underway with
  | first checking timer checks calls online unpushed =>
    exact Or.inl ⟨calm_of_idle calls taken,
      first_step checking timer checks calls online unpushed taken⟩
  | offline checking timer calls online unpushed =>
    exact Or.inl ⟨calm_of_idle calls taken, offline_step checking timer calls online unpushed taken⟩
  | soon checking timer checks calls online unpushed =>
    exact Or.inl ⟨calm_of_idle calls taken,
      soon_step checking timer checks calls online unpushed taken⟩
  | running found calls unpushed => exact running_step found calls unpushed allowed taken
  | pushed found calls pushes =>
    obtain ⟨found, same, kept, -⟩ := found_step found allowed (ofCall_of_idle calls taken) taken
    exact Or.inl ⟨calm_of_idle calls taken, .pushed found (same.trans calls) (kept.trans pushes)⟩

theorem Stuck.step (stuck : splash.Stuck) (allowed : splash.OneCheck action)
    (taken : splash.step action = some next) : next.Stuck := by
  obtain ⟨found, same, -, keeps⟩ :=
    found_step stuck.found allowed (ofCall_of_idle stuck.calls taken) taken
  exact ⟨found, same.trans stuck.calls, keeps stuck.unpushed⟩

end Splash

/-- In every run in which at most one check finds the device online: if nothing throws
where no try block leads to the push, the main screen is pushed exactly once; and once
everything has settled it is pushed only then. -/
theorem reachesMain_iff_calm {actions : List SplashAction} {final : Splash}
    (reached : run Splash.step {} actions = some final)
    (once : Meets Splash.step Splash.OneCheck {} actions) :
    (Meets Splash.step (fun _ action => Splash.Calm action) {} actions → final.ReachesMain) ∧
    (final.Settled → final.online = true → final.ReachesMain →
      Meets Splash.step (fun _ action => Splash.Calm action) {} actions) := by
  have start : Splash.Underway {} := .first rfl rfl rfl rfl rfl ⟨rfl, rfl, rfl⟩
  have keep : ∀ splash action next, Splash.Underway splash → splash.OneCheck action →
      Splash.Calm action → splash.step action = some next → next.Underway := by
    intro splash action next underway allowed calm taken
    rcases underway.step allowed taken with good | bad
    · exact good.2
    · exact absurd calm bad.1
  have leave : ∀ splash action next, Splash.Underway splash → splash.OneCheck action →
      ¬ Splash.Calm action → splash.step action = some next → next.Stuck := by
    intro splash action next underway allowed loud taken
    rcases underway.step allowed taken with good | bad
    · exact absurd good.1 loud
    · exact bad.2
  have split := run_dichotomy Splash.Underway Splash.Stuck keep leave
    (fun _ _ _ stuck allowed taken => stuck.step allowed taken) start once reached
  rcases split with ⟨calm, underway⟩ | ⟨loud, stuck⟩
  · exact ⟨fun _ => underway.reachesMain, fun _ _ _ => calm⟩
  · refine ⟨fun calm => absurd calm loud, ?_⟩
    intro settled online reaches
    have pushed := reaches settled online
    simp [stuck.unpushed.pushes] at pushed

def sampleCurrency (amount : Value) : Reply :=
  .answered 200 (.map [("data", .map [("riel", .list [.map [("key", .string "riel"), ("id", .int 1),
    ("name", .string "riel"), ("amount", amount)]])])])

def lateStart : List SplashAction :=
  [.checked false, .tick, .checkedAgain false, .tick, .checkedAgain true,
    .currency 0 (sampleCurrency (.double 4000)), .currentUser 0 (.ok true),
    .idToken 0 (.ok (some (some "t7"))), .user 0 (.answered 401 .null)]

theorem lateStart_reachesMain :
    ∃ final, run Splash.step {} lateStart = some final ∧ final.Settled ∧ final.online = true ∧
      final.ReachesMain :=
  ⟨_, rfl, by decide, rfl, (@reachesMain_iff_calm lateStart _ rfl (by decide)).1 (by decide)⟩

def wholeAmount : List SplashAction :=
  [.checked true, .tick, .currency 0 (sampleCurrency (.int 4000))]

def overlappingChecks : List SplashAction :=
  [.checked false, .tick, .tick, .checkedAgain true, .checkedAgain true,
    .currency 0 (.answered 401 .null), .currency 1 (.answered 401 .null),
    .currentUser 0 (.ok false), .currentUser 0 (.ok false)]

/-- Everything has settled and the device is online: the main screen is never pushed, or
twice. -/
theorem start_notOnce :
    (∃ final, run Splash.step {} wholeAmount = some final ∧ final.Settled ∧ final.online = true ∧
      final.pushes = 0 ∧ ¬ final.ReachesMain) ∧
    ∃ final, run Splash.step {} overlappingChecks = some final ∧ final.Settled ∧
      final.online = true ∧ final.pushes = 2 ∧ ¬ final.ReachesMain := by
  constructor
  · refine ⟨_, rfl, by decide, rfl, rfl, ?_⟩
    intro reaches
    exact absurd (reaches (by decide) rfl) (by decide)
  · refine ⟨_, rfl, by decide, rfl, rfl, ?_⟩
    intro reaches
    exact absurd (reaches (by decide) rfl) (by decide)

end SparSomnong.Startup
