import SparSomnong.Session.EditProfile

/-! The phone number that becomes of a typed text, on every path that uses it.

Firebase and the profile get the country code and the text as it stands. The two
sign-ups take one leading zero off the text first.
-/

set_option autoImplicit false

namespace SparSomnong.Session

open Semantics

def LoginScreen.verifyNumber (phoneNumberController : Units) : Except Thrown Units :=
  .ok (units "+855" ++ phoneNumberController)

def strippedPhone (phoneNumberController : Units) : Except Thrown Units :=
  if indexOf (units "0") phoneNumberController = 0 then do
    let p ← substring 1 phoneNumberController
    return units "+855" ++ p
  else .ok (units "+855" ++ phoneNumberController)

def LoginScreen.ph (phoneNumberController : Units) : Except Thrown Units :=
  strippedPhone phoneNumberController

def SignUpScreen.ph (phoneNumberController : Units) : Except Thrown Units :=
  strippedPhone phoneNumberController

def EditProfileScreen.savedPhone (phoneController : Units) : Except Thrown Units :=
  -- the search for a zero behind the country code leads to nothing
  .ok (units "+855" ++ phoneController)

def SignUpScreen.phoneText (phoneNumber : Units) : Except Thrown Units := substring 4 phoneNumber

inductive PhonePath where
  | verifyNumber
  | loginSignUp
  | signUp
  | saveEdit
  deriving DecidableEq, Repr

def PhonePath.number : PhonePath → Units → Except Thrown Units
  | .verifyNumber => LoginScreen.verifyNumber
  | .loginSignUp => LoginScreen.ph
  | .signUp => SignUpScreen.ph
  | .saveEdit => EditProfileScreen.savedPhone

/-- Every path makes the number of the text, and makes it again of what the number
fills into a form. -/
structure Canonical (text number : Units) : Prop where
  same : ∀ path : PhonePath, path.number text = .ok number
  again : ∃ typed, SignUpScreen.phoneText number = .ok typed ∧
    ∀ path : PhonePath, path.number typed = .ok number

theorem saveEdit_phone (screen : EditProfileScreen) :
    (EditProfileScreen.saveEdit screen).lookup "phone" = some (.text (units "+855" ++
      screen.phoneController)) := by
  unfold EditProfileScreen.saveEdit
  cases screen.image <;> cases screen.positionId <;> cases screen.urlPhoto <;> rfl

theorem phoneText_eq {user : UserModel} {phone : String} (called : user.phone = some phone) :
    EditProfileScreen.phoneText user = SignUpScreen.phoneText (units phone) := by
  simp only [EditProfileScreen.phoneText, called, SignUpScreen.phoneText]

theorem strippedPhone_of_zero (rest : Units) :
    strippedPhone (units "0" ++ rest) = .ok (units "+855" ++ rest) := by
  have first : indexOf (units "0") (units "0" ++ rest) = 0 :=
    indexOf_eq_zero_iff.mpr (List.prefix_append _ _)
  rw [strippedPhone, if_pos first]
  rfl

theorem strippedPhone_of_not_zero {text : Units} (other : ¬ units "0" <+: text) :
    strippedPhone text = .ok (units "+855" ++ text) := by
  rw [strippedPhone, if_neg (fun first => other (indexOf_eq_zero_iff.mp first))]

theorem number_of_not_zero {text : Units} (other : ¬ units "0" <+: text) (path : PhonePath) :
    path.number text = .ok (units "+855" ++ text) := by
  cases path with
  | verifyNumber => rfl
  | loginSignUp => exact strippedPhone_of_not_zero other
  | signUp => exact strippedPhone_of_not_zero other
  | saveEdit => rfl

theorem phoneText_append (text : Units) :
    SignUpScreen.phoneText (units "+855" ++ text) = .ok text := by
  unfold SignUpScreen.phoneText substring
  rw [if_pos]
  · rfl
  · rw [List.length_append]
    exact Nat.le_add_right _ _

/-- A zero in front is verified and saved with the number, but never registered. -/
theorem canonical_iff (text : Units) :
    (∃ number, Canonical text number) ↔ ¬ units "0" <+: text := by
  constructor
  · rintro ⟨number, canonical⟩ ⟨rest, rfl⟩
    have verified := canonical.same .verifyNumber
    have registered := canonical.same .signUp
    have stripped : Except.ok (units "+855" ++ rest) = Except.ok (ε := Thrown) number :=
      (strippedPhone_of_zero rest).symm.trans registered
    have kept : units "+855" ++ (units "0" ++ rest) = number := Except.ok.inj verified
    -- one of the two is a unit longer
    have lengths := congrArg List.length (kept.trans (Except.ok.inj stripped).symm)
    simp only [List.length_append] at lengths
    have unit : (units "0").length = 1 := rfl
    omega
  · intro other
    refine ⟨units "+855" ++ text, number_of_not_zero other, text, phoneText_append text, ?_⟩
    exact number_of_not_zero other

theorem local_number_not_canonical :
    PhonePath.verifyNumber.number (units "012345678") = .ok (units "+855012345678") ∧
      PhonePath.signUp.number (units "012345678") = .ok (units "+85512345678") ∧
      ¬ ∃ number, Canonical (units "012345678") number := by
  refine ⟨rfl, rfl, ?_⟩
  rintro ⟨number, canonical⟩
  have verified := canonical.same .verifyNumber
  have registered := canonical.same .signUp
  exact absurd (verified.trans registered.symm) (by decide)

end SparSomnong.Session
