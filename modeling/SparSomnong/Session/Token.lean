import SparSomnong.Semantics.Run
import SparSomnong.Session.Users

/-! The token of the user who is logged in.

The token is no part of the server's record. The splash screen and the login
screen put the one they asked with into the user they store; the sign-up screen
and the profile screen store the reply as it came.
-/

set_option autoImplicit false

namespace SparSomnong.Session

open Semantics

/-- A suspended operation that may store a user, with the token it holds. -/
inductive UserRequest where
  | startCheckUser (token : String)
  | getUserByToken (token : Option String)
  | loginSignUp (token : Option String)
  | signUp
  | saveEdit
  deriving DecidableEq, Repr

def succeeded (reply : Reply) : Option (Option UserModel) :=
  -- `userResponse.message == "success"` and the data
  match post reply with
  | .ok userResponse => if userResponse.message = some "success" then some userResponse.data else none
  | .error _ => none

def UserRequest.stores (reply : Reply) : UserRequest → Option (Option UserModel)
  | startCheckUser token =>
    match getUser reply with
    | .ok (some user) => some (some { user with token := some token })
    | _ => none
  | getUserByToken token =>
    match getUser reply with
    | .ok (some user) => some (some { user with token })
    | _ => none
  | loginSignUp token =>
    match succeeded reply with
    | some (some user) => some (some { user with token })
    -- `userResponse.data.token`
    | _ => none
  | signUp | saveEdit => succeeded reply

def UserRequest.signsOut (reply : Reply) (mounted : Bool) : UserRequest → Bool
  -- the catch of `_getUserByToken`; on a screen that is gone, `Provider.of` and `setState`
  -- throw as well
  | getUserByToken _ =>
    match getUser reply with
    | .ok _ => !mounted
    | .error _ => true
  | _ => false

def answeredUser (reply : Reply) : Option UserModel := (getUser reply).toOption.join

def registeredUser (reply : Reply) : Option UserModel :=
  (post reply).toOption.bind fun userResponse =>
    if userResponse.message = some "success" then userResponse.data else none

theorem succeeded_eq_some {reply : Reply} {user : UserModel} :
    succeeded reply = some (some user) ↔ registeredUser reply = some user := by
  unfold succeeded registeredUser
  rcases post reply with thrown | userResponse
  · simp [Except.toOption]
  · by_cases success : userResponse.message = some "success"
    · simp [Except.toOption, success]
    · simp [Except.toOption, success]

namespace UserRequest

variable {reply : Reply}

theorem stores_startCheckUser (token : String) :
    stores reply (.startCheckUser token) =
      (answeredUser reply).map fun user => some { user with token := some token } := by
  unfold stores answeredUser
  rcases getUser reply with thrown | _ | user <;> rfl

theorem stores_getUserByToken (token : Option String) :
    stores reply (.getUserByToken token) =
      (answeredUser reply).map fun user => some { user with token } := by
  unfold stores answeredUser
  rcases getUser reply with thrown | _ | user <;> rfl

theorem stores_loginSignUp (token : Option String) :
    stores reply (.loginSignUp token) =
      (registeredUser reply).map fun user => some { user with token } := by
  unfold stores succeeded registeredUser
  rcases post reply with thrown | userResponse
  · rfl
  · by_cases success : userResponse.message = some "success"
    · rcases found : userResponse.data with _ | user <;> simp [Except.toOption, success, found]
    · simp [Except.toOption, success]

theorem signsOut_iff {request : UserRequest} {mounted : Bool} :
    request.signsOut reply mounted = true ↔
      ∃ token, request = .getUserByToken token ∧
        (mounted = false ∨ (getUser reply).toOption = none) := by
  cases request with
  | getUserByToken token =>
    unfold signsOut
    cases getUser reply with
    | error thrown => simp [Except.toOption]
    | ok user => simp [Except.toOption]
  | _ => simp [signsOut]

end UserRequest

/-- The account Firebase has signed in, the user of the UserProvider, and the
operations in flight. -/
structure Login (Account : Type) where
  currentUser : Option Account := none
  user : Option UserModel := none
  requests : List UserRequest := []
  deriving DecidableEq, Repr

inductive LoginAction (Account : Type) where
  | signIn (account : Account)
  | signOut
  | logout
  | startCheckUser (token : String)
  | getUserByToken (token : Option String)
  | loginSignUp (token : Option String)
  | signUp
  | saveEdit
  | reply (index : Nat) (reply : Reply) (mounted : Bool)

section
-- the account a string is an id token of, if it is one
variable {Account : Type} (accountOf : String → Option Account)

namespace Login

def request (login : Login Account) (request : UserRequest) : Login Account :=
  { login with requests := login.requests ++ [request] }

def logout (login : Login Account) : Login Account :=
  { login with currentUser := none, user := none }

def replied (login : Login Account) (request : UserRequest) (reply : Reply) (mounted : Bool) :
    Login Account :=
  if request.signsOut reply mounted then { login with currentUser := none }
  else if mounted then
    match request.stores reply with
    | some user => { login with user }
    | none => login
  else login

def step [DecidableEq Account] (login : Login Account) : LoginAction Account → Option (Login Account)
  | .signIn account => some { login with currentUser := some account }
  | .signOut => some { login with currentUser := none }
  | .logout => some login.logout
  | .startCheckUser token =>
    match login.currentUser with
    | some account =>
      -- the token of `getIdToken`
      if accountOf token = some account then some (login.request (.startCheckUser token))
      else none
    | none => some login
  | .getUserByToken token =>
    match login.currentUser with
    | some _ => some (login.request (.getUserByToken token))
    | none => some login
  | .loginSignUp token => some (login.request (.loginSignUp token))
  | .signUp => some (login.request .signUp)
  | .saveEdit => some (login.request .saveEdit)
  | .reply index reply mounted =>
    match login.requests[index]? with
    | some request =>
      some (Login.replied { login with requests := login.requests.eraseIdx index }
        request reply mounted)
    | none => none

/-- An id token of the account that is signed in. -/
def Signed (login : Login Account) (token : Option String) : Prop :=
  ∃ text ∈ token, ∃ account ∈ login.currentUser, accountOf text = some account

def Carries (login : Login Account) : Prop :=
  ∀ user ∈ login.user, login.Signed accountOf user.token

/-- The token that an operation holds is one of the account when its reply brings a
user, or the token field of the reply is. -/
def Answered (login : Login Account) (reply : Reply) (mounted : Bool) : UserRequest → Prop
  | .startCheckUser token =>
    mounted = true → ∀ _ ∈ answeredUser reply, login.Signed accountOf (some token)
  | .getUserByToken token =>
    (mounted = false ∨ (getUser reply).toOption = none → login.user = none) ∧
    (mounted = true → ∀ _ ∈ answeredUser reply, login.Signed accountOf token)
  | .loginSignUp token =>
    mounted = true → ∀ _ ∈ registeredUser reply, login.Signed accountOf token
  | .signUp | .saveEdit =>
    mounted = true → ∀ user ∈ registeredUser reply, login.Signed accountOf user.token

/-- Accounts change only while no user is stored, and the replies that bring a user
find a token of the account. -/
def Attached (login : Login Account) : LoginAction Account → Prop
  | .signIn account => login.user = none ∨ login.currentUser = some account
  | .signOut => login.user = none
  | .reply index reply mounted => ∀ request ∈ login.requests[index]?,
    login.Answered accountOf reply mounted request
  | _ => True

instance [DecidableEq Account] (login : Login Account) (token : Option String) :
    Decidable (login.Signed accountOf token) :=
  inferInstanceAs (Decidable (∃ _ ∈ token, ∃ _ ∈ login.currentUser, _))

instance [DecidableEq Account] (login : Login Account) : Decidable (login.Carries accountOf) :=
  inferInstanceAs (Decidable (∀ _ ∈ login.user, _))

instance [DecidableEq Account] (login : Login Account) (reply : Reply) (mounted : Bool) :
    (request : UserRequest) → Decidable (login.Answered accountOf reply mounted request)
  | .startCheckUser _ => inferInstanceAs (Decidable (_ → ∀ _ ∈ answeredUser reply, _))
  | .getUserByToken _ => inferInstanceAs (Decidable ((_ ∨ _ → _) ∧ (_ → ∀ _ ∈ answeredUser reply, _)))
  | .loginSignUp _ | .signUp | .saveEdit =>
    inferInstanceAs (Decidable (_ → ∀ _ ∈ registeredUser reply, _))

instance [DecidableEq Account] (login : Login Account) :
    (action : LoginAction Account) → Decidable (login.Attached accountOf action)
  | .signIn _ => inferInstanceAs (Decidable (_ ∨ _))
  | .signOut => inferInstanceAs (Decidable (_ = _))
  | .reply index _ _ => inferInstanceAs (Decidable (∀ _ ∈ login.requests[index]?, _))
  | .logout | .startCheckUser _ | .getUserByToken _ | .loginSignUp _ | .signUp | .saveEdit =>
    isTrue trivial

variable {accountOf} {login next : Login Account} {action : LoginAction Account}

theorem Carries.account {user : UserModel} (carries : login.Carries accountOf)
    (stored : login.user = some user) :
    ∃ token account, user.token = some token ∧ login.currentUser = some account ∧
      accountOf token = some account := by
  obtain ⟨token, held, account, signedIn, same⟩ := carries user stored
  exact ⟨token, account, held, signedIn, same⟩

theorem carries_none (absent : login.user = none) : login.Carries accountOf := by
  intro user stored
  rw [absent] at stored
  cases stored

theorem carries_signedOut (signedOut : login.currentUser = none) :
    login.Carries accountOf ↔ login.user = none := by
  constructor
  · intro carries
    cases stored : login.user with
    | none => rfl
    | some user =>
      obtain ⟨token, account, -, signedIn, -⟩ := carries.account stored
      rw [signedOut] at signedIn
      cases signedIn
  · exact carries_none

theorem carries_signIn {account : Account} (carries : login.Carries accountOf) :
    Login.Carries accountOf { login with currentUser := some account } ↔
      login.user = none ∨ login.currentUser = some account := by
  constructor
  · intro after
    cases stored : login.user with
    | none => exact Or.inl rfl
    | some user =>
      -- the token has one account: that of before and that of now
      obtain ⟨token, former, held, signedIn, same⟩ := carries.account stored
      obtain ⟨_, latter, heldAfter, signedInAfter, sameAfter⟩ := after.account stored
      rw [held] at heldAfter
      cases heldAfter
      cases signedInAfter
      rw [signedIn, ← same, sameAfter]
      exact Or.inr rfl
  · rintro (absent | same)
    · exact carries_none absent
    · intro user stored
      have signed := carries user stored
      unfold Signed at signed
      rw [same] at signed
      exact signed

theorem carries_stored (carries : login.Carries accountOf) (stored : Option (Option UserModel)) :
    Login.Carries accountOf (match stored with
      | some user => { login with user }
      | none => login) ↔
      ∀ user, stored = some (some user) → login.Signed accountOf user.token := by
  rcases stored with _ | _ | user
  · simp [carries]
  · simp [carries_none]
  · simp [Carries, Signed]

theorem carries_replied {request : UserRequest} {reply : Reply} {mounted : Bool}
    (carries : login.Carries accountOf) :
    (login.replied request reply mounted).Carries accountOf ↔
      login.Answered accountOf reply mounted request := by
  by_cases caught : request.signsOut reply mounted = true
  · obtain ⟨token, rfl, failed⟩ := UserRequest.signsOut_iff.mp caught
    rw [replied, if_pos caught, carries_signedOut rfl, Answered]
    refine ⟨fun absent => ⟨fun _ => absent, fun here user brings => ?_⟩, fun kept => kept.1 failed⟩
    rcases failed with gone | thrown
    · simp [gone] at here
    · simp [answeredUser, thrown] at brings
  · rw [replied, if_neg caught]
    cases mounted with
    | false =>
      rw [if_neg Bool.false_ne_true]
      refine iff_of_true carries ?_
      cases request with
      | getUserByToken token =>
        exact absurd (UserRequest.signsOut_iff.mpr ⟨token, rfl, Or.inl rfl⟩) caught
      | _ => exact fun here => absurd here Bool.false_ne_true
    | true =>
      rw [if_pos rfl, carries_stored carries]
      cases request with
      | startCheckUser token => simp [Answered, UserRequest.stores_startCheckUser]
      | getUserByToken token =>
        have decoded : (getUser reply).toOption ≠ none := by
          intro thrown
          exact caught (UserRequest.signsOut_iff.mpr ⟨token, rfl, Or.inr thrown⟩)
        simp [Answered, UserRequest.stores_getUserByToken, decoded]
      | loginSignUp token => simp [Answered, UserRequest.stores_loginSignUp]
      | signUp => simp [Answered, UserRequest.stores, succeeded_eq_some]
      | saveEdit => simp [Answered, UserRequest.stores, succeeded_eq_some]

theorem carries_step [DecidableEq Account] (carries : login.Carries accountOf)
    (taken : login.step accountOf action = some next) :
    next.Carries accountOf ↔ login.Attached accountOf action := by
  cases action with
  | signIn account =>
    cases taken
    exact carries_signIn carries
  | signOut =>
    cases taken
    exact carries_signedOut rfl
  | logout =>
    cases taken
    exact iff_of_true (carries_none rfl) trivial
  | startCheckUser token =>
    simp only [step] at taken
    split at taken
    · split at taken
      · cases taken
        exact iff_of_true carries trivial
      · cases taken
    · cases taken
      exact iff_of_true carries trivial
  | getUserByToken token =>
    simp only [step] at taken
    split at taken
    all_goals
      cases taken
      exact iff_of_true carries trivial
  | loginSignUp token =>
    cases taken
    exact iff_of_true carries trivial
  | signUp =>
    cases taken
    exact iff_of_true carries trivial
  | saveEdit =>
    cases taken
    exact iff_of_true carries trivial
  | reply index reply mounted =>
    simp only [step] at taken
    split at taken
    · next request found =>
      cases taken
      have kept : Login.Carries accountOf
          { login with requests := login.requests.eraseIdx index } := carries
      rw [carries_replied kept]
      simp only [Attached, found, Option.mem_def, Option.some.injEq, forall_eq']
      cases request <;> exact Iff.rfl
    · cases taken

end Login

/-- For every sequence of operations and replies, the user carries a usable token in
every state if and only if every step attaches one. -/
theorem carries_iff_attached [DecidableEq Account] {actions : List (LoginAction Account)}
    {final : Login Account}
    (reached : run (Login.step accountOf) {} actions = some final) :
    Always (Login.step accountOf) (Login.Carries accountOf) {} actions ↔
      Meets (Login.step accountOf) (Login.Attached accountOf) {} actions :=
  always_iff_meets (fun _ => True) (fun _ _ _ _ _ => trivial)
    (fun _ _ _ _ carries taken => Login.carries_step carries taken) trivial
    (Login.carries_none rfl) reached

end

def sampleTokens (token : String) : Option Nat :=
  [("t7", 7), ("t7'", 7), ("t8", 8)].lookup token

def sampleReply (token : Value) : Reply :=
  .answered 200 (.map [("message", .string "success"), ("success", .bool true),
    ("data", .map [("id", .int 7), ("token", token)])])

def attachedLogin : List (LoginAction Nat) :=
  [.signIn 7, .getUserByToken (some "t7"), .reply 0 (sampleReply .null) true, .saveEdit,
    .reply 0 (sampleReply (.string "t7'")) true]

theorem attachedLogin_carries :
    ∃ final, run (Login.step sampleTokens) {} attachedLogin = some final ∧
      Always (Login.step sampleTokens) (Login.Carries sampleTokens) {} attachedLogin :=
  ⟨_, rfl, (carries_iff_attached _ rfl).mpr (by decide)⟩

def newAccount : List (LoginAction Nat) :=
  [.signIn 7, .signUp, .reply 0 (sampleReply .null) true]

theorem newAccount_tokenless :
    (∃ final, run (Login.step sampleTokens) {} newAccount = some final ∧
      final.user.map UserModel.token = some none) ∧
    ¬ Always (Login.step sampleTokens) (Login.Carries sampleTokens) {} newAccount := by
  constructor
  · exact ⟨_, rfl, rfl⟩
  · intro always
    have last : Login.Carries sampleTokens _ := always.2.2.2
    exact absurd last (by decide)

end SparSomnong.Session
