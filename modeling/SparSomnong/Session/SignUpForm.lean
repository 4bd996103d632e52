import SparSomnong.Semantics.Regex
import SparSomnong.Session.BusyFlags
import SparSomnong.Session.PhoneNumber

/-! The form of SignUpScreen: its validators, what it posts, and whom it stores.

The branch without a picture reports it and goes on to the request like the other two.
-/

set_option autoImplicit false

namespace SparSomnong.Session

open Semantics Async

/-- `image` is the picked file, by what reading it comes to. -/
structure SignUpScreen where
  image : Option (Except Thrown (List UInt8)) := none
  usernameController : Units := []
  positionController : Units := []
  phoneNumberController : Units := []
  emailController : Units := []
  photoUrl : String := ""
  uid : String := ""
  positionId : Option Int := none

namespace SignUpScreen

/-! ## The validators -/

section
open Regex

def exactly (letter : Char) : Regex Nat := one fun unit => unit == letter.toNat

def isDigit (unit : Nat) : Bool := 0x30 ≤ unit && unit ≤ 0x39

def isLetter (unit : Nat) : Bool := (0x61 ≤ unit && unit ≤ 0x7A) || (0x41 ≤ unit && unit ≤ 0x5A)

/-- `[^<>()[\]\\.,;:\s@\"]`. The control character 0x85 is no `\s`. -/
def isAtom (unit : Nat) : Bool :=
  !(unit ∈ units "<>()[]\\.,;:@\"" || (isWhitespace unit && unit != 0x85))

def isAny (unit : Nat) : Bool := !(unit ∈ [0xA, 0xD, 0x2028, 0x2029])

/-- `[^...]+(\.[^...]+)*`, or `\".+\"` -/
def mailbox : Regex Nat :=
  either (next (some (one isAtom)) (many (next (exactly '.') (some (one isAtom)))))
    (next (exactly '"') (next (some (one isAny)) (exactly '"')))

/-- `[0-9]{1,3}` -/
def byte : Regex Nat := next (one isDigit) (next (maybe (one isDigit)) (maybe (one isDigit)))

def address : Regex Nat :=
  next (exactly '[') (next byte (next (exactly '.') (next byte (next (exactly '.')
    (next byte (next (exactly '.') (next byte (exactly ']'))))))))

/-- `([a-zA-Z\-0-9]+\.)+[a-zA-Z]{2,}` -/
def domain : Regex Nat :=
  next (some (next (some (one fun unit => isLetter unit || isDigit unit || unit == 0x2D))
    (exactly '.'))) (next (one isLetter) (some (one isLetter)))

def emailPattern : Regex Nat := next mailbox (next (exactly '@') (either address domain))

end

def validateName (value : Units) : Option String :=
  -- a validator returns the key of its message
  if value.length < 3 then some "name_must_be_more_than" else none

def validatePosition (value : Units) : Option String :=
  if value.length = 0 then some "please_choose_position" else none

def validateEmail (value : Units) : Option String :=
  if emailPattern.hasMatch value = false then some "enter_valid_email" else none

def validateMobile (value : Units) : Option String :=
  if value.length < 8 then some "invalid_phone_number" else none

def Accepted (screen : SignUpScreen) : Prop :=
  validateName screen.usernameController = none ∧
    validatePosition screen.positionController = none ∧
    validateMobile screen.phoneNumberController = none ∧
    validateEmail screen.emailController = none

instance (screen : SignUpScreen) : Decidable screen.Accepted :=
  inferInstanceAs (Decidable (_ ∧ _))

example : validateEmail (units "a.b@shop.kh") = none := by decide +kernel

/-! ## The request -/

/-- A call of `signUp` on its screen, with the messages it has shown and the forms it
has posted. -/
structure Attempt extends BusyScreen where
  validate : Bool := false
  snackBars : List (Option String) := []
  posted : List (Option FormData) := []

def showSnackBar (msg : Option String) : Async Thrown Attempt Unit :=
  modify fun attempt => { attempt with snackBars := attempt.snackBars ++ [msg] }

def setBusy (busy : Bool) : Async Thrown Attempt Unit :=
  modify fun attempt => { attempt with busy }

def formData (screen : SignUpScreen) (ph : Units) : Async Thrown Attempt (Option FormData) :=
  let position_id := screen.positionId.map fun id => FormValue.text (units (toString id))
  match screen.image with
  | some image => do
    let bytes ← await image
    return some (FormData.fromMap [("name", some (.text screen.usernameController)),
      ("position_id", position_id), ("phone", some (.text ph)),
      ("email", some (.text screen.emailController)), ("uid", some (.text (units screen.uid))),
      ("file", some (.file bytes))])
  | none =>
    if screen.photoUrl = "" then do
      setBusy false
      showSnackBar (some "please_choose_your_profile")
      return none
    else
      return some (FormData.fromMap [("photo", some (.text (units screen.photoUrl))),
        ("name", some (.text screen.usernameController)), ("position_id", position_id),
        ("phone", some (.text ph)), ("email", some (.text screen.emailController)),
        ("uid", some (.text (units screen.uid)))])

def replied (userResponse : UserResponse) : Async Thrown Attempt Unit := do
  if userResponse.message = some "success" then
    setBusy false
    modify fun attempt => { attempt with user := userResponse.data }
    modify fun attempt => { attempt with mounted := false }
  else
    match userResponse.success with
    | none => throw .typeError
    | some true => pure ()
    | some false =>
      setBusy false
      showSnackBar userResponse.message

def submit (formData : Option FormData) (response : Reply) : Async Thrown Attempt Unit := do
  modify fun attempt => { attempt with posted := attempt.posted ++ [formData] }
  let userResponse ← await (post response)
  replied userResponse

def signUp (screen : SignUpScreen) (response : Reply) : Async Thrown Attempt Unit := do
  if screen.Accepted then
    setBusy true
    let ph ← await (ph screen.phoneNumberController)
    let formData ← formData screen ph
    submit formData response
  else modify fun attempt => { attempt with validate := true }

/-- The message in the body of the reply is a success, whatever its status and the rest
of it are. -/
def Succeeds (response : Reply) : Prop :=
  ∃ statusCode json, response = .answered statusCode (.map json) ∧
    child json "message" = .string "success"

/-- A success is accepted by the client and decodes, and comes with the user. -/
def Carries (response : Reply) : Prop :=
  Succeeds response → ∃ userResponse, post response = .ok userResponse ∧ userResponse.data ≠ none

theorem ph_completes (phoneNumberController : Units) :
    ∃ number, ph phoneNumberController = .ok number := by
  by_cases zero : units "0" <+: phoneNumberController
  · obtain ⟨rest, rfl⟩ := zero
    exact ⟨_, strippedPhone_of_zero rest⟩
  · exact ⟨_, strippedPhone_of_not_zero zero⟩

variable {screen : SignUpScreen}

def stored (response : Reply) (user : Option UserModel) : Option UserModel :=
  match post response with
  | .ok userResponse =>
    if userResponse.message = some "success" then userResponse.data else user
  | .error _ => user

theorem submit_busyScreen (formData : Option FormData) (response : Reply) (attempt : Attempt) :
    ((submit formData response).after attempt).toBusyScreen =
      Async.after (do
        let userResponse ← await (BusyScreen.posted (some response))
        if userResponse.message = some "success" then
          BusyScreen.setBusy false
          BusyScreen.setUser userResponse.data
          BusyScreen.leave
        else
          if ← BusyScreen.negation userResponse.success then
            BusyScreen.setBusy false) attempt.toBusyScreen := by
  have same : BusyScreen.posted (some response) = post response := rfl
  rw [same, submit]
  cases post response with
  | error thrown => rfl
  | ok userResponse =>
    by_cases success : userResponse.message = some "success"
    · change ((replied userResponse).after _).toBusyScreen = Async.after (if _ then _ else _) _
      rw [replied, if_pos success, if_pos success]
      rfl
    · change ((replied userResponse).after _).toBusyScreen = Async.after (if _ then _ else _) _
      rw [replied, if_neg success, if_neg success]
      rcases userResponse.success with _ | _ | _ <;> rfl

theorem signUp_busyScreen (screen : SignUpScreen) (response : Reply) (attempt : Attempt) :
    ((signUp screen response).after attempt).toBusyScreen =
      (BusyScreen.signUp (decide screen.Accepted) screen.image screen.photoUrl
        (some response)).after attempt.toBusyScreen := by
  unfold signUp BusyScreen.signUp
  by_cases accepted : screen.Accepted
  · obtain ⟨number, called⟩ := ph_completes screen.phoneNumberController
    rw [if_pos accepted, called, if_pos (decide_eq_true accepted)]
    unfold formData BusyScreen.signUpForm BusyScreen.readImage
    rcases picked : screen.image with _ | thrown | bytes
    · by_cases empty : screen.photoUrl = ""
      · simp only [empty, if_true, and_self, Option.isNone_none]
        exact submit_busyScreen none response _
      · simp only [empty, if_false, and_false]
        exact submit_busyScreen _ response _
    · rfl
    · simp only [Option.isNone_some, Bool.false_eq_true, false_and, if_false]
      exact submit_busyScreen _ response _
  · rw [if_neg accepted, if_neg (by simpa using accepted)]
    rfl

end SignUpScreen

open SignUpScreen

def pictureless : SignUpScreen :=
  { usernameController := units "Client", positionController := units "Owner", positionId := some 3
    phoneNumberController := units "012345678", emailController := units "client@shop.kh"
    uid := "u7" }

end SparSomnong.Session
