import Mathlib.Data.List.Defs
import SparSomnong.Semantics.Async
import SparSomnong.Session.Token

/-! The operations that block their screen while they wait: the logins, the two
profile forms, the chat about a product and the search.

Each runs on the outcomes of the calls it awaits. The flag is the one of the
operation's own screen.
-/

set_option autoImplicit false

namespace SparSomnong.Session

open Semantics Async

/-- A value, null or an exception. Of most values only their presence is read. -/
abbrev Outcome (T : Type) := Except Thrown (Option T)

/-- The flag is `isLoading`, `_isLoading`, `showLoading` or `isSearching`, and the user
is that of the UserProvider. -/
structure BusyScreen where
  busy : Bool := false
  mounted : Bool := true
  user : Option UserModel := none
  deriving DecidableEq, Repr

abbrev ScreenTask := Async Thrown BusyScreen

namespace BusyScreen

def setBusy (busy : Bool) : ScreenTask Unit := modify fun screen => { screen with busy }

def setUser (user : Option UserModel) : ScreenTask Unit := modify fun screen => { screen with user }

def leave : ScreenTask Unit := modify fun screen => { screen with mounted := false }

def nonNull {T : Type} : Option T → ScreenTask T
  | some value => pure value
  | none => throw .noSuchMethod

def negation : Option Bool → ScreenTask Bool
  | some value => pure !value
  | none => throw .typeError

/-- What the calls of `_getUserByToken` come to. -/
structure Lookup where
  currentUser : Outcome Unit
  getUser : Outcome UserModel
  signOut : Except Thrown Unit

def getUserByToken (token : Option String) (lookup : Lookup) : ScreenTask Unit := do
  let authResult ← await lookup.currentUser
  if authResult.isSome then
    try
      let userResult ← await lookup.getUser
      match userResult with
      | some user =>
        setUser (some { user with token })
        setBusy false
        leave
      | none =>
        setBusy false
        leave
    catch _ =>
      await lookup.signOut
      setBusy false

def signIn (valid : Bool) (credential : Outcome Unit) (tokenResult : Outcome (Option String))
    (lookup : Lookup) : ScreenTask Unit := do
  if valid then
    setBusy true
    try
      nonNull (← await credential)
      let token ← nonNull (← await tokenResult)
      unawaited (getUserByToken token lookup)
    catch _ =>
      setBusy false

inductive FacebookLoginStatus where
  | error
  | cancelledByUser
  | loggedIn
  deriving DecidableEq, Repr

structure FacebookLoginResult where
  status : FacebookLoginStatus
  accessToken : Option String
  deriving DecidableEq, Repr

def initiateFacebookLogin (login : Outcome FacebookLoginResult) (credential : Outcome Unit)
    (tokenResult : Outcome (Option String)) (lookup : Lookup) : ScreenTask Unit := do
  setBusy true
  let result ← nonNull (← await login)
  match result.status with
  | .error => setBusy false
  | .cancelledByUser => setBusy false
  | .loggedIn =>
    let _ ← nonNull result.accessToken
    nonNull (← await credential)
    -- the future of `then` is not awaited either
    unawaited do
      let token ← nonNull (← await tokenResult)
      unawaited (getUserByToken token lookup)

def googleButtonClick (signInWithGoogle : Except Thrown Unit) (googleToken : Option String)
    (lookup : Lookup) : ScreenTask Unit := do
  try
    await signInWithGoogle
    setBusy true
    unawaited (getUserByToken googleToken lookup)
  catch _ =>
    setBusy false

def posted : Option Reply → Except Thrown UserResponse
  | some reply => post reply
  | none => .error .noSuchMethod

def readImage : Option (Except Thrown (List UInt8)) → ScreenTask Unit
  -- `readAsBytesSync` of the image, where one was picked
  | some bytes => do
    let _ ← await bytes
  | none => pure ()

def signUpForm (image : Option (Except Thrown (List UInt8))) (photoUrl : String) :
    ScreenTask Unit :=
  -- without any picture the message is shown, and the form is posted all the same
  if image.isNone ∧ photoUrl = "" then setBusy false else readImage image

def signUp (valid : Bool) (image : Option (Except Thrown (List UInt8))) (photoUrl : String)
    (response : Option Reply) : ScreenTask Unit := do
  if valid then
    setBusy true
    signUpForm image photoUrl
    let userResponse ← await (posted response)
    if userResponse.message = some "success" then
      setBusy false
      setUser userResponse.data
      leave
    else
      if ← negation userResponse.success then
        setBusy false

def saveEdit (valid : Bool) (image : Option (Except Thrown (List UInt8)))
    (response : Option Reply) : ScreenTask Unit := do
  if valid then
    setBusy true
    readImage image
    try
      let userResponse ← await (posted response)
      if userResponse.message = some "success" then
        setBusy false
        setUser userResponse.data
      else
        if ← negation userResponse.success then
          setBusy false
    catch thrown =>
      match thrown with
      | .exception _ => setBusy false
      -- an error is no `Exception`
      | .noSuchMethod | .typeError | .rangeError => throw thrown

def createChat (user : Option UserModel) (response : Outcome (Option String)) :
    ScreenTask Unit := do
  setBusy true
  match user with
  | none => setBusy false
  | some _ =>
    let createChatResponse ← await response
    match createChatResponse with
    | some chat =>
      setBusy false
      let _ ← nonNull chat
    | none => pure ()

def getSearch (value : String) (product : Outcome Unit) : ScreenTask Unit := do
  if value ≠ "" then
    setBusy true
    let _ ← await product
    setBusy false

/-- An operation, with what is typed and what its calls come to. -/
inductive Operation where
  | signIn (valid : Bool) (credential : Outcome Unit) (tokenResult : Outcome (Option String))
      (lookup : Lookup)
  | initiateFacebookLogin (login : Outcome FacebookLoginResult) (credential : Outcome Unit)
      (tokenResult : Outcome (Option String)) (lookup : Lookup)
  | googleButtonClick (signInWithGoogle : Except Thrown Unit) (googleToken : Option String)
      (lookup : Lookup)
  | signUp (valid : Bool) (image : Option (Except Thrown (List UInt8))) (photoUrl : String)
      (response : Option Reply)
  | saveEdit (valid : Bool) (image : Option (Except Thrown (List UInt8))) (response : Option Reply)
  | createChat (user : Option UserModel) (response : Outcome (Option String))
  | getSearch (value : String) (product : Outcome Unit)

def Operation.perform : Operation → ScreenTask Unit
  | signIn valid credential tokenResult lookup =>
    BusyScreen.signIn valid credential tokenResult lookup
  | initiateFacebookLogin login credential tokenResult lookup =>
    BusyScreen.initiateFacebookLogin login credential tokenResult lookup
  | googleButtonClick signInWithGoogle googleToken lookup =>
    BusyScreen.googleButtonClick signInWithGoogle googleToken lookup
  | signUp valid image photoUrl response => BusyScreen.signUp valid image photoUrl response
  | saveEdit valid image response => BusyScreen.saveEdit valid image response
  | createChat user response => BusyScreen.createChat user response
  | getSearch value product => BusyScreen.getSearch value product

/-- A screen that is still there is not blocked. -/
def Free (screen : BusyScreen) : Prop := screen.mounted = true → screen.busy = false

/-- Whoever is logged in, once the operation has ended the screen is free. -/
def Frees (task : ScreenTask Unit) : Prop := ∀ user, task.Ends Free { user }

def Returns {T : Type} (outcome : Except Thrown T) : Prop := ∃ value, outcome = .ok value

def HasValue {T : Type} (outcome : Outcome T) : Prop := ∃ value, outcome = .ok (some value)

def Lookup.Clears (lookup : Lookup) : Prop :=
  HasValue lookup.currentUser ∧ (Returns lookup.getUser ∨ Returns lookup.signOut)

def Answers (response : Option Reply) : Prop :=
  ∃ userResponse, posted response = .ok userResponse ∧
    (userResponse.message = some "success" ∨ userResponse.success = some false)

def Readable (image : Option (Except Thrown (List UInt8))) : Prop :=
  ∀ bytes ∈ image, Returns bytes

/-- The outcomes on which an operation lowers its flag. -/
def Operation.Clears : Operation → Prop
  | signIn valid credential tokenResult lookup =>
    valid = true → HasValue credential → HasValue tokenResult → lookup.Clears
  | initiateFacebookLogin login credential tokenResult lookup =>
    ∃ result, login = .ok (some result) ∧ (result.status = .loggedIn →
      result.accessToken.isSome ∧ HasValue credential ∧ HasValue tokenResult ∧ lookup.Clears)
  | googleButtonClick signInWithGoogle _ lookup => Returns signInWithGoogle → lookup.Clears
  | signUp valid image photoUrl response =>
    valid = true → (image = none ∧ photoUrl = "") ∨ Readable image ∧ Answers response
  | saveEdit valid image response =>
    valid = true → Readable image ∧
      (Answers response ∨ ∃ statusCode, posted response = .error (.exception statusCode))
  | createChat user response => user.isSome → HasValue response
  | getSearch value product => value ≠ "" → Returns product

section
variable {T : Type} {screen : BusyScreen} {lookup : Lookup} {user : Option UserModel}
variable {returns : Unit → BusyScreen → Prop} {throws : Thrown → BusyScreen → Prop}

@[simp] theorem free_mk (busy mounted : Bool) (user : Option UserModel) :
    Free ⟨busy, mounted, user⟩ ↔ (mounted = true → busy = false) := Iff.rfl

@[simp] theorem returns_ok (value : T) : Returns (.ok value) := ⟨value, rfl⟩

@[simp] theorem not_returns_error (thrown : Thrown) : ¬ Returns (T := T) (.error thrown) :=
  fun ⟨_, same⟩ => nomatch same

@[simp] theorem hasValue_some (value : T) : HasValue (.ok (some value)) := ⟨value, rfl⟩

@[simp] theorem not_hasValue_none : ¬ HasValue (T := T) (.ok none) := fun ⟨_, same⟩ => nomatch same

@[simp] theorem not_hasValue_error (thrown : Thrown) : ¬ HasValue (T := T) (.error thrown) :=
  fun ⟨_, same⟩ => nomatch same

@[simp] theorem wp_setBusy (busy : Bool) :
    (setBusy busy).wp returns throws screen ↔ returns () { screen with busy } := Iff.rfl

@[simp] theorem wp_setUser (user : Option UserModel) :
    (setUser user).wp returns throws screen ↔ returns () { screen with user } := Iff.rfl

@[simp] theorem wp_leave :
    leave.wp returns throws screen ↔ returns () { screen with mounted := false } := Iff.rfl

@[simp] theorem nonNull_some (value : T) : nonNull (some value) = pure value := rfl

@[simp] theorem nonNull_none : nonNull (none : Option T) = throw .noSuchMethod := rfl

@[simp] theorem negation_some (value : Bool) : negation (some value) = pure !value := rfl

@[simp] theorem negation_none : negation none = throw .typeError := rfl

theorem wp_getUserByToken (token : Option String) :
    (getUserByToken token lookup).wp (fun _ => Free) (fun _ => Free) ⟨true, true, user⟩ ↔
      lookup.Clears := by
  obtain ⟨currentUser, getUser, signOut⟩ := lookup
  rcases currentUser with thrown | _ | account
  · simp [getUserByToken, Lookup.Clears]
  · simp [getUserByToken, Lookup.Clears]
  · rcases getUser with thrown | _ | user <;> rcases signOut with failed | signedOut <;>
      simp [getUserByToken, Lookup.Clears]

theorem signIn_frees_iff (valid : Bool) (credential : Outcome Unit)
    (tokenResult : Outcome (Option String)) (lookup : Lookup) :
    Frees (signIn valid credential tokenResult lookup) ↔
      (Operation.signIn valid credential tokenResult lookup).Clears := by
  simp only [Frees, Ends, signIn, Operation.Clears]
  rcases valid with _ | _
  · simp
  rcases credential with thrown | _ | authResult
  · simp
  · simp
  · rcases tokenResult with thrown | _ | token
    · simp
    · simp
    · simp [Ends, wp_getUserByToken]

theorem initiateFacebookLogin_frees_iff (login : Outcome FacebookLoginResult)
    (credential : Outcome Unit) (tokenResult : Outcome (Option String)) (lookup : Lookup) :
    Frees (initiateFacebookLogin login credential tokenResult lookup) ↔
      (Operation.initiateFacebookLogin login credential tokenResult lookup).Clears := by
  simp only [Frees, Ends, initiateFacebookLogin, Operation.Clears]
  rcases login with thrown | _ | ⟨_ | _ | _, accessToken⟩
  · simp
  · simp
  · simp
  · simp
  · rcases accessToken with _ | accessToken
    · simp
    rcases credential with thrown | _ | authResult
    · simp
    · simp
    · rcases tokenResult with thrown | _ | token
      · simp [Ends]
      · simp [Ends]
      · simp [Ends, wp_getUserByToken]

theorem googleButtonClick_frees_iff (signInWithGoogle : Except Thrown Unit)
    (googleToken : Option String) (lookup : Lookup) :
    Frees (googleButtonClick signInWithGoogle googleToken lookup) ↔
      (Operation.googleButtonClick signInWithGoogle googleToken lookup).Clears := by
  simp only [Frees, Ends, googleButtonClick, Operation.Clears]
  rcases signInWithGoogle with thrown | _
  · simp
  · simp [Ends, wp_getUserByToken]

theorem answers_ok {response : Option Reply} {userResponse : UserResponse}
    (replied : posted response = .ok userResponse) :
    Answers response ↔
      userResponse.message = some "success" ∨ userResponse.success = some false := by
  simp [Answers, replied]

theorem not_answers_error {response : Option Reply} {thrown : Thrown}
    (failed : posted response = .error thrown) : ¬ Answers response := by
  simp [Answers, failed]

theorem wp_readImage (image : Option (Except Thrown (List UInt8))) :
    (readImage image).wp returns (fun _ => Free) ⟨true, true, user⟩ ↔
      Readable image ∧ returns () ⟨true, true, user⟩ := by
  rcases image with _ | thrown | bytes
  · simp [readImage, Readable]
  · simp [readImage, Readable]
  · simp [readImage, Readable]

theorem signUp_frees_iff (valid : Bool) (image : Option (Except Thrown (List UInt8)))
    (photoUrl : String) (response : Option Reply) :
    Frees (signUp valid image photoUrl response) ↔
      (Operation.signUp valid image photoUrl response).Clears := by
  simp only [Frees, Ends, signUp, signUpForm, Operation.Clears]
  rcases valid with _ | _
  · simp
  by_cases pictureless : image = none ∧ photoUrl = ""
  · -- the flag is lowered before the form is posted
    cases replied : posted response with
    | error thrown => simp [pictureless]
    | ok userResponse =>
      by_cases success : userResponse.message = some "success"
      · simp [pictureless, success]
      · rcases refused : userResponse.success with _ | _ | _ <;>
          simp [pictureless, success, refused]
  · cases replied : posted response with
    | error thrown => simp [pictureless, wp_readImage, not_answers_error replied]
    | ok userResponse =>
      by_cases success : userResponse.message = some "success"
      · simp [pictureless, wp_readImage, answers_ok replied, success]
      · rcases refused : userResponse.success with _ | _ | _ <;>
          simp [pictureless, wp_readImage, answers_ok replied, success, refused]

theorem saveEdit_frees_iff (valid : Bool) (image : Option (Except Thrown (List UInt8)))
    (response : Option Reply) :
    Frees (saveEdit valid image response) ↔
      (Operation.saveEdit valid image response).Clears := by
  simp only [Frees, Ends, saveEdit, Operation.Clears]
  rcases valid with _ | _
  · simp
  cases replied : posted response with
  | error thrown =>
    cases thrown <;> simp [wp_readImage, not_answers_error replied]
  | ok userResponse =>
    by_cases success : userResponse.message = some "success"
    · simp [wp_readImage, answers_ok replied, success]
    · rcases refused : userResponse.success with _ | _ | _ <;>
        simp [wp_readImage, answers_ok replied, success, refused]

theorem createChat_frees_iff (user : Option UserModel) (response : Outcome (Option String)) :
    Frees (createChat user response) ↔ (Operation.createChat user response).Clears := by
  simp only [Frees, Ends, createChat, Operation.Clears]
  rcases user with _ | user
  · simp
  · rcases response with thrown | _ | _ | chat
    · simp
    · simp
    · simp
    · simp

theorem getSearch_frees_iff (value : String) (product : Outcome Unit) :
    Frees (getSearch value product) ↔ (Operation.getSearch value product).Clears := by
  simp only [Frees, Ends, getSearch, Operation.Clears]
  by_cases typed : value = ""
  · simp [typed]
  · rcases product with thrown | product
    · simp [typed]
    · simp [typed]

/-! ## The user that is stored

With an account, and with an image that can be read, the operations store the users
that `UserRequest.stores` says they do. -/

theorem getUserByToken_stores (token : Option String) (reply : Reply)
    (signOut : Except Thrown Unit) :
    (getUserByToken token ⟨.ok (some ()), getUser reply, signOut⟩).Ends
      (fun after => after.user = ((UserRequest.getUserByToken token).stores reply).getD screen.user)
      screen := by
  rcases found : getUser reply with thrown | _ | user
  · simp [getUserByToken, Ends, UserRequest.stores, found]
  · simp [getUserByToken, Ends, UserRequest.stores, found]
  · simp [getUserByToken, Ends, UserRequest.stores, found]

theorem wp_readable {image : Option (Except Thrown (List UInt8))} (readable : Readable image) :
    (readImage image).wp returns throws screen ↔ returns () screen := by
  rcases image with _ | thrown | bytes
  · simp [readImage]
  · obtain ⟨bytes, read⟩ := readable _ rfl
    cases read
  · simp [readImage]

theorem signUp_stores {image : Option (Except Thrown (List UInt8))} (readable : Readable image)
    (photoUrl : String) (reply : Reply) :
    (signUp true image photoUrl (some reply)).Ends
      (fun after => after.user = (UserRequest.signUp.stores reply).getD screen.user) screen := by
  simp only [Ends, signUp, signUpForm, posted, UserRequest.stores, succeeded]
  by_cases pictureless : image = none ∧ photoUrl = ""
  all_goals
    rcases found : post reply with thrown | userResponse
    · simp [pictureless, wp_readable readable]
    · by_cases success : userResponse.message = some "success"
      · simp [pictureless, wp_readable readable, success]
      · rcases refused : userResponse.success with _ | _ | _ <;>
          simp [pictureless, wp_readable readable, success, refused]

theorem saveEdit_stores {image : Option (Except Thrown (List UInt8))} (readable : Readable image)
    (reply : Reply) :
    (saveEdit true image (some reply)).Ends
      (fun after => after.user = (UserRequest.saveEdit.stores reply).getD screen.user) screen := by
  simp only [Ends, saveEdit, posted, UserRequest.stores, succeeded]
  rcases found : post reply with thrown | userResponse
  · cases thrown <;> simp [wp_readable readable]
  · by_cases success : userResponse.message = some "success"
    · simp [wp_readable readable, success]
    · rcases refused : userResponse.success with _ | _ | _ <;>
        simp [wp_readable readable, success, refused]

end

end BusyScreen

open BusyScreen

/-- On whatever is typed and whatever its calls come to, an operation lowers the flag
of a screen that is still there exactly when these are among the outcomes it clears. -/
theorem frees_iff_clears (operation : Operation) : Frees operation.perform ↔ operation.Clears := by
  cases operation with
  | signIn valid credential tokenResult lookup =>
    exact signIn_frees_iff valid credential tokenResult lookup
  | initiateFacebookLogin login credential tokenResult lookup =>
    exact initiateFacebookLogin_frees_iff login credential tokenResult lookup
  | googleButtonClick signInWithGoogle googleToken lookup =>
    exact googleButtonClick_frees_iff signInWithGoogle googleToken lookup
  | signUp valid image photoUrl response => exact signUp_frees_iff valid image photoUrl response
  | saveEdit valid image response => exact saveEdit_frees_iff valid image response
  | createChat user response => exact createChat_frees_iff user response
  | getSearch value product => exact getSearch_frees_iff value product

def goneLookup : Lookup := ⟨.ok none, .ok none, .ok ()⟩

def failedLookup : Lookup := ⟨.error (.exception 0), .ok none, .ok ()⟩

/-- Each of the operations, with one outcome it does not expect: no account after a
login, no network, an answer without a field, a status 401. -/
def blocking : List Operation :=
  [.signIn true (.ok (some ())) (.ok (some (some "t7"))) goneLookup,
    .initiateFacebookLogin (.error (.exception 0)) (.ok none) (.ok none) goneLookup,
    .googleButtonClick (.ok ()) (some "t7") failedLookup,
    .signUp true none "p.jpg" (some .failed),
    .saveEdit true none (some (.answered 200 (.map []))),
    .createChat (some { token := some "t7" }) (.ok none),
    .getSearch "rice" (.error (.exception 500))]

theorem blocking_blocked : blocking.Forall fun operation => ¬ Frees operation.perform := by
  refine ⟨?_, ?_, ?_, ?_, ?_, ?_, ?_⟩
  all_goals
    intro frees
    exact absurd (frees none rfl) (by decide)

end SparSomnong.Session
