import Mathlib.Data.List.Basic
import SparSomnong.Semantics.Run

/-! Google sign-in in a release build.

`signInWithGoogle` does not wait for the id token it asks for: a callback puts it
into the global `googleToken`, whenever it comes. The login screen reads the
global once the call returns, which another future decides. The asserts, and the
second token one of them waits for, are not part of a release build.
-/

set_option autoImplicit false

namespace SparSomnong.Session

open Semantics

/-- What a call of `_googleButtonClick` waits for, with the account it is about. -/
inductive GoogleCall (Account : Type) where
  | signIn
  | authentication (account : Account)
  | signInWithCredential (account : Account)
  | currentUser (account : Account)
  deriving DecidableEq, Repr

/-- `idTokens` are the callbacks that have not run. The last two fields are history:
the accounts whose callbacks have run, and the calls of `_getUserByToken`, each with
the account it signed in. -/
structure GoogleService (Account : Type) where
  currentUser : Option Account := none
  googleToken : Option String := none
  calls : List (GoogleCall Account) := []
  idTokens : List Account := []
  arrived : List Account := []
  asked : List (Account × Option String) := []
  deriving DecidableEq, Repr

inductive GoogleAction (Account : Type) where
  | googleButtonClick
  | signedIn (index : Nat) (account : Option Account)
  | authenticated (index : Nat)
  | credentialed (index : Nat) (displayName : Option String)
  | currentUser (index : Nat) (mounted : Bool)
  | failed (index : Nat)
  | idToken (index : Nat) (token : String)
  | idTokenFailed (index : Nat)
  | signOut

section
-- the account a string is an id token of, if it is one
variable {Account : Type} (accountOf : String → Option Account)

namespace GoogleService

def await (service : GoogleService Account) (index : Nat) (call : GoogleCall Account) :
    GoogleService Account :=
  { service with calls := service.calls.set index call }

def leave (service : GoogleService Account) (index : Nat) : GoogleService Account :=
  { service with calls := service.calls.eraseIdx index }

def credentialed (service : GoogleService Account) (index : Nat) (account : Account)
    (displayName : Option String) : GoogleService Account :=
  -- without a name, `name.contains` throws
  let asking := { service with
    currentUser := some account
    idTokens := service.idTokens ++ [account] }
  match displayName with
  | some _ => asking.await index (.currentUser account)
  | none => asking.leave index

def returned (service : GoogleService Account) (index : Nat) (account : Account)
    (mounted : Bool) : GoogleService Account :=
  -- on a screen that is gone, `setState` throws
  if mounted then
    { service.leave index with asked := service.asked ++ [(account, service.googleToken)] }
  else service.leave index

def step [DecidableEq Account] (service : GoogleService Account) :
    GoogleAction Account → Option (GoogleService Account)
  | .googleButtonClick => some { service with calls := service.calls ++ [.signIn] }
  | .signedIn index account =>
    match service.calls[index]?, account with
    | some .signIn, some account => some (service.await index (.authentication account))
    -- cancelled: `googleSignInAccount.authentication`
    | some .signIn, none => some (service.leave index)
    | _, _ => none
  | .authenticated index =>
    match service.calls[index]? with
    | some (.authentication account) =>
      some (service.await index (.signInWithCredential account))
    | _ => none
  | .credentialed index displayName =>
    match service.calls[index]? with
    | some (.signInWithCredential account) => some (service.credentialed index account displayName)
    | _ => none
  | .currentUser index mounted =>
    match service.calls[index]? with
    | some (.currentUser account) => some (service.returned index account mounted)
    | _ => none
  | .failed index =>
    match service.calls[index]? with
    | some _ => some (service.leave index)
    | none => none
  | .idToken index token =>
    match service.idTokens[index]? with
    | some account =>
      if accountOf token = some account then
        some { service with
          googleToken := some token
          idTokens := service.idTokens.eraseIdx index
          arrived := service.arrived ++ [account] }
      else none
    | none => none
  | .idTokenFailed index =>
    match service.idTokens[index]? with
    | some _ => some { service with idTokens := service.idTokens.eraseIdx index }
    | none => none
  | .signOut => some { service with currentUser := none }

/-- Every call of `_getUserByToken` was made with a token of the account its sign-in
was for. -/
def Own (service : GoogleService Account) : Prop :=
  ∀ call ∈ service.asked, ∃ token, call.2 = some token ∧ accountOf token = some call.1

/-- A call returns to its screen only when the callback that ran last is one for the
account it signed in. -/
def Timely (service : GoogleService Account) : GoogleAction Account → Prop
  | .currentUser index true => ∀ account, service.calls[index]? = some (.currentUser account) →
    service.arrived.getLast? = some account
  | _ => True

instance [DecidableEq Account] (service : GoogleService Account) :
    (action : GoogleAction Account) → Decidable (service.Timely action)
  | .currentUser index true =>
    match found : service.calls[index]? with
    | some (.currentUser account) =>
      decidable_of_iff (service.arrived.getLast? = some account) (by simp [Timely, found])
    | some .signIn | some (.authentication _) | some (.signInWithCredential _) | none =>
      isTrue (by simp [Timely, found])
  | .currentUser _ false | .googleButtonClick | .signedIn _ _ | .authenticated _
  | .credentialed _ _ | .failed _ | .idToken _ _ | .idTokenFailed _ | .signOut => isTrue trivial

def Latest (service : GoogleService Account) : Prop :=
  service.googleToken.bind accountOf = service.arrived.getLast?

variable {accountOf} {service next : GoogleService Account} {action : GoogleAction Account}

inductive Went (accountOf : String → Option Account) (service : GoogleService Account) :
    GoogleAction Account → GoogleService Account → Prop
  | silent {action : GoogleAction Account} {next : GoogleService Account} :
      next.googleToken = service.googleToken → next.arrived = service.arrived →
      next.asked = service.asked → service.Timely action → Went accountOf service action next
  | returned {index : Nat} {account : Account} :
      service.calls[index]? = some (.currentUser account) →
      Went accountOf service (.currentUser index true)
        { service.leave index with asked := service.asked ++ [(account, service.googleToken)] }
  | heard {index : Nat} {account : Account} {token : String} : accountOf token = some account →
      Went accountOf service (.idToken index token) { service with
        googleToken := some token
        idTokens := service.idTokens.eraseIdx index
        arrived := service.arrived ++ [account] }

theorem went_of_step [DecidableEq Account] (taken : service.step accountOf action = some next) :
    Went accountOf service action next := by
  cases action with
  | googleButtonClick =>
    cases taken
    exact .silent rfl rfl rfl trivial
  | signedIn index account =>
    simp only [step] at taken
    split at taken
    · cases taken
      exact .silent rfl rfl rfl trivial
    · cases taken
      exact .silent rfl rfl rfl trivial
    · cases taken
  | authenticated index =>
    simp only [step] at taken
    split at taken
    · cases taken
      exact .silent rfl rfl rfl trivial
    · cases taken
  | credentialed index displayName =>
    simp only [step] at taken
    split at taken
    · cases taken
      cases displayName with
      | none => exact .silent rfl rfl rfl trivial
      | some name => exact .silent rfl rfl rfl trivial
    · cases taken
  | currentUser index mounted =>
    simp only [step] at taken
    split at taken
    · next account found =>
      cases taken
      cases mounted with
      | false => exact .silent rfl rfl rfl trivial
      | true => exact .returned found
    · cases taken
  | failed index =>
    simp only [step] at taken
    split at taken
    · cases taken
      exact .silent rfl rfl rfl trivial
    · cases taken
  | idToken index token =>
    simp only [step] at taken
    split at taken
    · next account found =>
      split at taken
      · next issued =>
        cases taken
        exact .heard issued
      · cases taken
    · cases taken
  | idTokenFailed index =>
    simp only [step] at taken
    split at taken
    · cases taken
      exact .silent rfl rfl rfl trivial
    · cases taken
  | signOut =>
    cases taken
    exact .silent rfl rfl rfl trivial

theorem Latest.went (latest : service.Latest accountOf) (went : Went accountOf service action next) :
    next.Latest accountOf := by
  unfold Latest at latest ⊢
  cases went with
  | silent token arrived asked timely =>
    rw [token, arrived]
    exact latest
  | returned found => exact latest
  | heard issued => simp [issued]

theorem own_went (latest : service.Latest accountOf) (own : service.Own accountOf)
    (went : Went accountOf service action next) :
    next.Own accountOf ↔ service.Timely action := by
  cases went with
  | silent token arrived asked timely =>
    apply iff_of_true _ timely
    unfold Own
    rw [asked]
    exact own
  | @returned index account found =>
    -- the global is read here, and `latest` says whose token it is
    have new : (∃ token, service.googleToken = some token ∧ accountOf token = some account) ↔
        service.arrived.getLast? = some account := by
      rw [← latest, Option.bind_eq_some_iff]
    simp only [Timely, found, Option.some.injEq, GoogleCall.currentUser.injEq, forall_eq']
    rw [← new]
    constructor
    · intro after
      exact after (account, service.googleToken) (by simp)
    · intro usable call member
      rcases List.mem_append.mp member with old | last
      · exact own call old
      · rw [List.mem_singleton.mp last]
        exact usable
  | heard issued => exact iff_of_true own trivial

end GoogleService

/-- In every run, `_getUserByToken` is always called with a token of the account just
signed in if and only if every call returns while the last callback is one for it. -/
theorem own_iff_timely [DecidableEq Account] {actions : List (GoogleAction Account)}
    {final : GoogleService Account}
    (reached : run (GoogleService.step accountOf) {} actions = some final) :
    Always (GoogleService.step accountOf) (GoogleService.Own accountOf) {} actions ↔
      Meets (GoogleService.step accountOf) GoogleService.Timely {} actions := by
  apply always_iff_meets (GoogleService.Latest accountOf)
  · intro service action next latest taken
    exact latest.went (GoogleService.went_of_step taken)
  · intro service action next latest own taken
    exact GoogleService.own_went latest own (GoogleService.went_of_step taken)
  · rfl
  · intro call member
    cases member
  · exact reached

end

def googleTokens (token : String) : Option Nat :=
  [("g7", 7), ("g8", 8)].lookup token

def signInOf (account : Nat) : List (GoogleAction Nat) :=
  [.googleButtonClick, .signedIn 0 (some account), .authenticated 0, .credentialed 0 (some "first last")]

def tokenFirst : List (GoogleAction Nat) :=
  signInOf 7 ++ [.idToken 0 "g7", .currentUser 0 true, .signOut] ++
    signInOf 8 ++ [.idToken 0 "g8", .currentUser 0 true]

theorem tokenFirst_own :
    ∃ final, run (GoogleService.step googleTokens) {} tokenFirst = some final ∧
      Always (GoogleService.step googleTokens) (GoogleService.Own googleTokens) {} tokenFirst :=
  ⟨_, rfl, (own_iff_timely _ rfl).mpr (by decide)⟩

def tokenLate : List (GoogleAction Nat) :=
  signInOf 7 ++ [.idToken 0 "g7", .currentUser 0 true, .signOut] ++
    signInOf 8 ++ [.currentUser 0 true]

/-- Account 8 is asked about with the token of account 7. -/
theorem tokenLate_foreign :
    ∃ final, run (GoogleService.step googleTokens) {} tokenLate = some final ∧
      final.asked = [(7, some "g7"), (8, some "g7")] ∧ ¬ final.Own googleTokens := by
  refine ⟨_, rfl, rfl, ?_⟩
  intro own
  obtain ⟨token, held, issued⟩ := own (8, some "g7") (by decide)
  cases held
  exact absurd issued (by decide)

end SparSomnong.Session
