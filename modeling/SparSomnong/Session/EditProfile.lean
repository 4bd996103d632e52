import SparSomnong.Localisation.LanguageConfig
import SparSomnong.Semantics.Utf16
import SparSomnong.Session.Users

/-! The form of EditProfileScreen, filled from the user and submitted again.

The callback of `initState` sets one field after the other. An exception leaves
the rest of them as they were, and the form can still be submitted.
-/

set_option autoImplicit false

namespace SparSomnong.Session

open Semantics Localisation

def Position.toJson (position : Position) : Entries :=
  [("id", Value.orNull .int position.id), ("name_kh", Value.orNull .string position.name_kh),
    ("name_en", Value.orNull .string position.name_en), ("name_ch", Value.orNull .string position.name_ch)]

def getTextByKey (locale : String) (map : Entries) (key : String) : Except Thrown String :=
  match child map (key ++ "_" ++ languageKey locale) with
  | .null => .ok "N/A"
  | .string text => .ok text
  | _ => .error .typeError

theorem getTextByKey_completes (locale : String) {map : Entries} {key : String}
    (ch : ∃ name, child map (key ++ "_ch") = Value.orNull .string name)
    (kh : ∃ name, child map (key ++ "_kh") = Value.orNull .string name)
    (en : ∃ name, child map (key ++ "_en") = Value.orNull .string name) :
    ∃ text, getTextByKey locale map key = .ok text := by
  have named : ∃ name, child map (key ++ "_" ++ languageKey locale) = Value.orNull .string name := by
    rw [String.append_assoc]
    rcases languageKey_cases locale with language | language | language <;> rw [language]
    · exact ch
    · exact kh
    · exact en
  obtain ⟨name, found⟩ := named
  unfold getTextByKey
  rw [found]
  cases name with
  | none => exact ⟨"N/A", rfl⟩
  | some text => exact ⟨text, rfl⟩

theorem getTextByKey_congr (locale : String) {map other : Entries} {key : String}
    (ch : child map (key ++ "_ch") = child other (key ++ "_ch"))
    (kh : child map (key ++ "_kh") = child other (key ++ "_kh"))
    (en : child map (key ++ "_en") = child other (key ++ "_en")) :
    getTextByKey locale map key = getTextByKey locale other key := by
  have same : child map (key ++ "_" ++ languageKey locale) =
      child other (key ++ "_" ++ languageKey locale) := by
    rw [String.append_assoc]
    rcases languageKey_cases locale with language | language | language <;> rw [language]
    · exact ch
    · exact kh
    · exact en
  rw [getTextByKey, getTextByKey, same]

inductive FormValue where
  | text (value : Units)
  | file (bytes : List UInt8)
  deriving DecidableEq, Repr

abbrev FormData := List (String × FormValue)

/-- Null fields are left out. -/
def FormData.fromMap (map : List (String × Option FormValue)) : FormData :=
  map.filterMap fun (key, value) => value.map (key, ·)

structure EditProfileScreen where
  image : Option (List UInt8) := none
  userNameController : Units := []
  positionController : Units := []
  phoneController : Units := []
  emailController : Units := []
  positionId : Option Int := none
  urlPhoto : Option Units := none
  uid : Option Units := none
  deriving DecidableEq, Repr

namespace EditProfileScreen

def positionText (locale : String) (user : UserModel) : Except Thrown String :=
  match user.position with
  | some position => getTextByKey locale position.toJson "name"
  | none => .ok ""

def phoneText (user : UserModel) : Except Thrown Units :=
  match user.phone with
  | some phone => substring 4 (units phone)
  | none => .ok []

def initState (locale : String) (user : UserModel) : EStateM Thrown EditProfileScreen Unit := do
  modify fun screen => { screen with userNameController := units (user.name.getD "") }
  let position ← MonadExcept.ofExcept (positionText locale user)
  modify fun screen => { screen with positionController := units position }
  let phone ← MonadExcept.ofExcept (phoneText user)
  modify fun screen => { screen with phoneController := phone }
  modify fun screen => { screen with emailController := units (user.email.getD "") }
  match user.position_id with
  | some id => modify fun screen => { screen with positionId := some id }
  -- the empty string is no `int`
  | none => throw .typeError
  modify fun screen => { screen with urlPhoto := some (units (user.photo.getD "")) }
  modify fun screen => { screen with uid := some (units (user.uid.getD "")) }

def saveEdit (screen : EditProfileScreen) : FormData :=
  -- no field has a validator
  let name := screen.userNameController
  let phone := units "+855" ++ screen.phoneController
  let email := screen.emailController
  let position_id := screen.positionId.map fun id => FormValue.text (units (toString id))
  match screen.image with
  | some bytes => FormData.fromMap [("name", some (.text name)), ("position_id", position_id),
      ("phone", some (.text phone)), ("email", some (.text email)),
      ("uid", screen.uid.map .text), ("file", some (.file bytes))]
  | none => FormData.fromMap [("photo", screen.urlPhoto.map .text), ("name", some (.text name)),
      ("position_id", position_id), ("phone", some (.text phone)),
      ("email", some (.text email)), ("uid", screen.uid.map .text)]

def Submits (data : FormData) (key : String) (value : Option Units) : Prop :=
  data.lookup key = value.map .text ∨ value = none ∧ data.lookup key = some (.text [])

/-- What is submitted is what the user was. -/
structure Keeps (user : UserModel) (data : FormData) : Prop where
  name : Submits data "name" (user.name.map units)
  phone : Submits data "phone" (user.phone.map units)
  email : Submits data "email" (user.email.map units)
  position_id : Submits data "position_id" (user.position_id.map fun id => units (toString id))
  photo : Submits data "photo" (user.photo.map units)
  uid : Submits data "uid" (user.uid.map units)

theorem positionText_completes (locale : String) (user : UserModel) :
    ∃ position, positionText locale user = .ok position := by
  unfold positionText
  cases user.position with
  | none => exact ⟨"", rfl⟩
  | some position => exact getTextByKey_completes locale ⟨_, rfl⟩ ⟨_, rfl⟩ ⟨_, rfl⟩

def filled (user : UserModel) (position : String) (phone : Units) (id : Int) :
    EditProfileScreen where
  userNameController := units (user.name.getD "")
  positionController := units position
  phoneController := phone
  emailController := units (user.email.getD "")
  positionId := some id
  urlPhoto := some (units (user.photo.getD ""))
  uid := some (units (user.uid.getD ""))

variable {locale : String} {user : UserModel} {screen : EditProfileScreen}

theorem initState_filled {position : String} {phone : Units} {id : Int}
    (named : positionText locale user = .ok position) (called : phoneText user = .ok phone)
    (placed : user.position_id = some id) :
    initState locale user {} = .ok () (filled user position phone id) := by
  simp only [initState, named, called, placed]
  rfl

theorem filled_of_completes (completes : initState locale user {} = .ok () screen) :
    ∃ position phone id, phoneText user = .ok phone ∧ user.position_id = some id ∧
      screen = filled user position phone id := by
  obtain ⟨position, named⟩ := positionText_completes locale user
  cases called : phoneText user with
  | error thrown =>
    simp only [initState, named, called] at completes
    cases completes
  | ok phone =>
    cases placed : user.position_id with
    | none =>
      simp only [initState, named, called, placed] at completes
      cases completes
    | some id =>
      rw [initState_filled named called placed] at completes
      cases completes
      exact ⟨position, phone, id, rfl, rfl, rfl⟩

theorem submits_getD {data : FormData} {key : String} (value : Option String)
    (submitted : data.lookup key = some (.text (units (value.getD "")))) :
    Submits data key (value.map units) := by
  cases value with
  | none => exact Or.inr ⟨rfl, submitted⟩
  | some text => exact Or.inl submitted

theorem keeps_filled_iff {position : String} {phone : Units} {id : Int}
    (placed : user.position_id = some id) :
    Keeps user (saveEdit (filled user position phone id)) ↔
      user.phone.map units = some (units "+855" ++ phone) := by
  have submitted : (saveEdit (filled user position phone id)).lookup "phone" =
      some (.text (units "+855" ++ phone)) := rfl
  constructor
  · intro keeps
    rcases keeps.phone with same | ⟨-, empty⟩
    · rw [submitted] at same
      cases called : user.phone with
      | none => simp [called] at same
      | some number => simpa [called, eq_comm] using same
    · rw [submitted] at empty
      cases empty
  · intro same
    constructor
    · exact submits_getD user.name rfl
    · exact Or.inl (by rw [submitted, same]; rfl)
    · exact submits_getD user.email rfl
    · exact Or.inl (by rw [placed]; rfl)
    · exact submits_getD user.photo rfl
    · exact submits_getD user.uid rfl

/-- The prefix that is stripped from a phone is the one that is put back. -/
theorem phone_kept_iff :
    (∃ phone, phoneText user = .ok phone ∧
      user.phone.map units = some (units "+855" ++ phone)) ↔
      ∃ number, user.phone = some ("+855" ++ number) := by
  unfold phoneText
  cases user.phone with
  | none => simp
  | some phone =>
    have cut : (∃ rest, substring 4 (units phone) = .ok rest ∧
        units "+855" ++ rest = units phone) ↔ ∃ rest, units phone = units "+855" ++ rest :=
      @substring_append_iff (units "+855") (units phone)
    simp only [Option.map_some, Option.some.injEq]
    rw [← units_prefix_iff, ← cut]
    simp only [eq_comm]

end EditProfileScreen

open EditProfileScreen

/-- Filling the form completes and saving it changes nothing, exactly when the user
has a position id and a phone with the prefix. -/
theorem unedited_kept_iff (locale : String) (user : UserModel) :
    (∃ screen, initState locale user {} = .ok () screen ∧ Keeps user (saveEdit screen)) ↔
      (∃ id, user.position_id = some id) ∧ ∃ number, user.phone = some ("+855" ++ number) := by
  rw [← phone_kept_iff]
  constructor
  · rintro ⟨screen, completes, keeps⟩
    obtain ⟨position, phone, id, called, placed, rfl⟩ := filled_of_completes completes
    exact ⟨⟨id, placed⟩, phone, called, (keeps_filled_iff placed).mp keeps⟩
  · rintro ⟨⟨id, placed⟩, phone, called, same⟩
    obtain ⟨position, named⟩ := positionText_completes locale user
    exact ⟨_, initState_filled named called placed, (keeps_filled_iff placed).mpr same⟩

def sampleProfile : UserModel :=
  { uid := some "u7", name := some "Client", position_id := some 3, phone := some "+85512345678",
    email := some "client@shop.kh", photo := some "p.jpg" }

theorem sampleProfile_kept :
    ∃ screen, initState "km" sampleProfile {} = .ok () screen ∧
      Keeps sampleProfile (saveEdit screen) :=
  (unedited_kept_iff "km" sampleProfile).mpr ⟨⟨3, rfl⟩, "12345678", rfl⟩

/-- Without a position id the photo and the uid are not submitted. Without a phone
the prefix is submitted for one. -/
theorem incompleteProfile_changed :
    (∃ screen, initState "km" { sampleProfile with position_id := none } {} =
        .error .typeError screen ∧
      (saveEdit screen).lookup "photo" = none ∧ (saveEdit screen).lookup "uid" = none) ∧
    ∃ screen, initState "km" { sampleProfile with phone := none } {} = .ok () screen ∧
      (saveEdit screen).lookup "phone" = some (.text (units "+855")) ∧
      ¬ Keeps { sampleProfile with phone := none } (saveEdit screen) := by
  refine ⟨⟨_, rfl, rfl, rfl⟩, _, rfl, rfl, fun keeps => ?_⟩
  rcases keeps.phone with absent | ⟨-, empty⟩
  · cases absent
  · cases empty

end SparSomnong.Session
