import SparSomnong.Catalogue.SearchUrl
import SparSomnong.Session.EditProfile

/-! What the screens load for the photo of a user and for the image of a message.

Both are stored as a path on the server or as an address of their own, and every
screen tells the two apart in its own way.
-/

set_option autoImplicit false

namespace SparSomnong.Session

open Semantics Catalogue

inductive ImageProvider where
  | network (url : Units)
  | asset (name : String)
  | file (bytes : List UInt8)
  deriving DecidableEq, Repr

def underBase (path : Units) : Units := units baseUrl ++ units "/" ++ path

/-- A photo that is taken for an address if `https` stands within its first five units. -/
def profilePhoto (photo : Units) : Except Thrown ImageProvider := do
  let start ← slice 0 5 (trimLeft photo)
  return .network (if contains (units "https") start then photo else underBase photo)

def AccountScreen.photo : Option Units → Except Thrown ImageProvider
  | some photo => profilePhoto photo
  | none => .ok (.asset "assets/images/logo.png")

def EditProfileScreen.photo (screen : EditProfileScreen) : Except Thrown ImageProvider :=
  match screen.image, screen.urlPhoto with
  | some bytes, _ => .ok (.file bytes)
  | none, some urlPhoto => profilePhoto urlPhoto
  | none, none => .ok (.asset "assets/images/upload_profile.png")

namespace MessageItem

/-- The picture next to a message. Only one's own is loaded. -/
def avatar (own : Bool) (photo : Option Units) : ImageProvider :=
  if own then .network (underBase (photo.getD (units "null")))
  else .asset "assets/icons/account.png"

def thumbnail : Option Units → ImageProvider
  | some data =>
    if data ≠ [] ∧ contains (units "base64") data = false then
      .network (if contains (units "http") data then data else underBase data)
    else .asset "assets/images/placeholder.png"
  | none => .asset "assets/images/placeholder.png"

end MessageItem

def PhotoViewer.imageProvider : Option Units → ImageProvider
  | some image => .network (underBase image)
  | none => .network (units "assets/images/placeholder.png")

def lowerUnit (unit : Nat) : Nat := if 0x41 ≤ unit ∧ unit ≤ 0x5A then unit + 0x20 else unit

def Absolute (text : Units) : Prop :=
  -- letter case does not count in a scheme
  units "http://" <+: text.map lowerUnit ∨ units "https://" <+: text.map lowerUnit

instance (text : Units) : Decidable (Absolute text) := inferInstanceAs (Decidable (_ ∨ _))

def resolved (text : Units) : Units := if Absolute text then text else underBase text

/-- Every screen loads the same for the text, and none throws. -/
structure Consistent (text : Units) : Prop where
  account : AccountScreen.photo (some text) = .ok (.network (resolved text))
  editProfile : ∀ screen : EditProfileScreen, screen.image = none →
    screen.urlPhoto = some text → screen.photo = .ok (.network (resolved text))
  avatar : MessageItem.avatar true (some text) = .network (resolved text)
  viewer : MessageItem.thumbnail (some text) = PhotoViewer.imageProvider (some text)

variable {text : Units}

theorem underBase_ne (text : Units) : underBase text ≠ text := by
  intro same
  have lengths := congrArg List.length same
  simp only [underBase, List.length_append] at lengths
  have slash : (units "/").length = 1 := rfl
  omega

theorem resolved_eq_underBase_iff : resolved text = underBase text ↔ ¬ Absolute text := by
  unfold resolved
  split
  · rename_i absolute
    exact ⟨fun same => absurd same.symm (underBase_ne text), fun not => absurd absolute not⟩
  · rename_i path
    exact ⟨fun _ => path, fun _ => rfl⟩

/-- Only a text with five units behind its white space can be looked at. -/
theorem profilePhoto_of_length (long : 5 ≤ (trimLeft text).length) :
    profilePhoto text = .ok (.network (if contains (units "https") ((trimLeft text).take 5) then
      text else underBase text)) := by
  have whole : slice 0 5 (trimLeft text) = .ok ((trimLeft text).take 5) := by
    rw [slice, if_pos ⟨Nat.zero_le 5, long⟩]
    rfl
  simp only [profilePhoto, whole]
  rfl

theorem profilePhoto_throws (short : ¬ 5 ≤ (trimLeft text).length) :
    profilePhoto text = .error .rangeError := by
  have out : slice 0 5 (trimLeft text) = .error .rangeError := by
    rw [slice, if_neg fun inside => short inside.2]
  simp only [profilePhoto, out]
  rfl

theorem contains_https_of_take (found : contains (units "https") ((trimLeft text).take 5) = true) :
    contains (units "http") text = true := by
  rw [contains_iff] at found ⊢
  have start : units "http" <:+: units "https" := ⟨[], units "s", rfl⟩
  have kept : trimLeft text <:+: text := (List.dropWhile_suffix _).isInfix
  exact start.trans (found.trans ((List.take_prefix 5 _).isInfix.trans kept))

theorem profilePhoto_of_path (long : 5 ≤ (trimLeft text).length)
    (path : contains (units "http") text = false) :
    profilePhoto text = .ok (.network (underBase text)) := by
  rw [profilePhoto_of_length long]
  have unfound : contains (units "https") ((trimLeft text).take 5) = false := by
    cases found : contains (units "https") ((trimLeft text).take 5) with
    | false => rfl
    | true => exact absurd (contains_https_of_take found) (by simp [path])
  rw [unfound]
  rfl

theorem ne_nil_of_trimLeft (long : 5 ≤ (trimLeft text).length) : text ≠ [] := by
  rintro rfl
  exact absurd long (by decide)

theorem thumbnail_eq_iff (nonempty : text ≠ []) :
    MessageItem.thumbnail (some text) = PhotoViewer.imageProvider (some text) ↔
      contains (units "http") text = false ∧ contains (units "base64") text = false := by
  simp only [MessageItem.thumbnail, PhotoViewer.imageProvider]
  cases contains (units "base64") text with
  | true => simp
  | false =>
    cases contains (units "http") text with
    | true => simpa [nonempty] using (underBase_ne text).symm
    | false => simp [nonempty]

/-- All agree on the paths of at least five units, and on nothing else. -/
theorem consistent_iff (text : Units) :
    Consistent text ↔ 5 ≤ (trimLeft text).length ∧ ¬ Absolute text ∧
      contains (units "http") text = false ∧ contains (units "base64") text = false := by
  constructor
  · intro consistent
    have long : 5 ≤ (trimLeft text).length := by
      apply Decidable.byContradiction
      intro short
      have thrown : AccountScreen.photo (some text) = .error .rangeError :=
        profilePhoto_throws short
      exact absurd (consistent.account.symm.trans thrown) (by simp)
    refine ⟨long, ?_, (thumbnail_eq_iff (ne_nil_of_trimLeft long)).mp consistent.viewer⟩
    have avatar : underBase text = resolved text := ImageProvider.network.inj consistent.avatar
    exact resolved_eq_underBase_iff.mp avatar.symm
  · rintro ⟨long, path, plain⟩
    have same : resolved text = underBase text := resolved_eq_underBase_iff.mpr path
    have loaded := profilePhoto_of_path long plain.1
    rw [← same] at loaded
    constructor
    · exact loaded
    · intro screen picked urlPhoto
      unfold EditProfileScreen.photo
      rw [picked, urlPhoto]
      exact loaded
    · exact congrArg ImageProvider.network same.symm
    · exact (thumbnail_eq_iff (ne_nil_of_trimLeft long)).mpr plain

theorem references_inconsistent :
    AccountScreen.photo (some []) = .error .rangeError ∧
      AccountScreen.photo (some (units "https://p.com/a")) =
        .ok (.network (units "https://p.com/a")) ∧
      MessageItem.avatar true (some (units "https://p.com/a")) =
        .network (units "http://192.168.4.2:8001/https://p.com/a") ∧
      AccountScreen.photo (some (units "http://p.com/a")) =
        .ok (.network (units "http://192.168.4.2:8001/http://p.com/a")) ∧
      MessageItem.thumbnail (some (units "http://p.com/a")) ≠
        PhotoViewer.imageProvider (some (units "http://p.com/a")) ∧
      ¬ Consistent [] ∧ ¬ Consistent (units "https://p.com/a") := by
  refine ⟨rfl, by decide +kernel, by decide, by decide +kernel, by decide +kernel, ?_, ?_⟩
  · intro consistent
    exact absurd consistent.account (by decide)
  · intro consistent
    exact absurd consistent.avatar (by decide +kernel)

end SparSomnong.Session
