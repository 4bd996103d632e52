import SparSomnong.Navigation.Screens

/-! Creating the chat of one product screen.

The button is there until a frame is built that knows of a chat. Neither the request
that looks for a chat nor one that creates it disables the button.
-/

set_option autoImplicit false

namespace SparSomnong.Navigation

open Semantics

/-- A ProductDetailScreen, with the number of its requests that have no reply yet.
`button` says whether the last build had the button. The fields from `mostCreating` on
are history: the most requests that were outstanding at once, whether one was made
with the chat known, and how many have succeeded. -/
structure ChatCreation where
  user : Option Int := none
  loaded : Bool := false
  isChatted : Bool := false
  showLoading : Bool := false
  button : Bool := false
  checking : Bool := false
  creating : Nat := 0
  mostCreating : Nat := 0
  issuedLate : Bool := false
  created : Nat := 0
  deriving DecidableEq, Repr

inductive CreationAction where
  | setUser (user : Option Int)
  | detailLoaded
  | frame
  | press
  | chatProductDetail (statusCode : Nat) (response : LastChatResponse)
  | chatProduct (statusCode : Nat) (response : LastChatResponse)
  deriving DecidableEq, Repr

namespace ChatCreation

/-- Without a user, `user.token` throws before the request. -/
def initState (user : Option Int) : ChatCreation := { user, checking := user.isSome }

def createChat (screen : ChatCreation) : ChatCreation :=
  -- without a user the login screen is opened instead
  match screen.user with
  | none => { screen with showLoading := false }
  | some _ => { screen with
      showLoading := true
      creating := screen.creating + 1
      mostCreating := max screen.mostCreating (screen.creating + 1)
      issuedLate := screen.issuedLate || screen.isChatted }

def step (screen : ChatCreation) : CreationAction → Option ChatCreation
  | .setUser user => some { screen with user }
  | .detailLoaded => some { screen with loaded := true }
  | .frame => some { screen with button := screen.loaded && !screen.isChatted }
  | .press => if screen.button = true then some screen.createChat else none
  | .chatProductDetail statusCode response =>
    if screen.checking = true then
      let checked := { screen with checking := false }
      match getChatProductDetail statusCode response with
      | .ok (some ⟨some _⟩) => some { checked with isChatted := true }
      | _ => some checked
    else none
  | .chatProduct statusCode response =>
    match screen.creating with
    | 0 => none
    | creating + 1 =>
      match createChatProduct statusCode response with
      | .ok (some _) => some { screen with
          creating
          showLoading := false
          isChatted := true
          created := screen.created + 1 }
      | _ => some { screen with creating }

/-- No two requests at once, none with the chat known, and no two that succeed. -/
structure OneChat (screen : ChatCreation) : Prop where
  alone : screen.mostCreating ≤ 1
  timely : screen.issuedLate = false
  once : screen.created ≤ 1

/-- Who is logged in presses the button only while no request to create the chat is
outstanding and the chat is not known. -/
def Patient (screen : ChatCreation) (action : CreationAction) : Prop :=
  action = .press → screen.user ≠ none → screen.creating = 0 ∧ screen.isChatted = false

instance (screen : ChatCreation) (action : CreationAction) : Decidable (screen.Patient action) :=
  inferInstanceAs (Decidable (_ → _ → _))

structure Accounted (screen : ChatCreation) : Prop where
  outstanding : screen.creating ≤ screen.mostCreating
  known : 0 < screen.created → screen.isChatted = true
  spent : screen.mostCreating ≤ 1 → screen.issuedLate = false → screen.created + screen.creating ≤ 1

inductive Went (screen : ChatCreation) : CreationAction → ChatCreation → Prop
  | aside {action : CreationAction} {next : ChatCreation} (other : action ≠ .press)
      (requests : next.creating = screen.creating) (most : next.mostCreating = screen.mostCreating)
      (late : next.issuedLate = screen.issuedLate) (created : next.created = screen.created)
      (known : screen.isChatted = true → next.isChatted = true) : Went screen action next
  | login (nobody : screen.user = none) : Went screen .press { screen with showLoading := false }
  | pressed (present : screen.user ≠ none) : Went screen .press { screen with
      showLoading := true
      creating := screen.creating + 1
      mostCreating := max screen.mostCreating (screen.creating + 1)
      issuedLate := screen.issuedLate || screen.isChatted }
  | succeeded {statusCode creating : Nat} {response : LastChatResponse}
      (waiting : screen.creating = creating + 1) :
      Went screen (.chatProduct statusCode response) { screen with
        creating
        showLoading := false
        isChatted := true
        created := screen.created + 1 }
  | refused {statusCode creating : Nat} {response : LastChatResponse}
      (waiting : screen.creating = creating + 1) :
      Went screen (.chatProduct statusCode response) { screen with creating }

variable {screen next : ChatCreation} {action : CreationAction}

theorem went_of_step (taken : screen.step action = some next) : Went screen action next := by
  cases action with
  | setUser user =>
    cases taken
    exact .aside nofun rfl rfl rfl rfl id
  | detailLoaded =>
    cases taken
    exact .aside nofun rfl rfl rfl rfl id
  | frame =>
    cases taken
    exact .aside nofun rfl rfl rfl rfl id
  | press =>
    simp only [step] at taken
    split at taken
    · cases taken
      unfold createChat
      split
      · next nobody => exact .login nobody
      · next user present => exact .pressed (by simp [present])
    · cases taken
  | chatProductDetail statusCode response =>
    simp only [step] at taken
    split at taken
    · split at taken
      · cases taken
        exact .aside nofun rfl rfl rfl rfl fun _ => rfl
      · cases taken
        exact .aside nofun rfl rfl rfl rfl id
    · cases taken
  | chatProduct statusCode response =>
    simp only [step] at taken
    split at taken
    · cases taken
    · next creating waiting =>
      split at taken
      · cases taken
        exact .succeeded waiting
      · cases taken
        exact .refused waiting

theorem accounted_initState (user : Option Int) : Accounted (initState user) := by
  constructor <;> simp [initState]

theorem Accounted.step (accounted : Accounted screen) (taken : screen.step action = some next) :
    Accounted next := by
  obtain ⟨outstanding, known, spent⟩ := accounted
  cases went_of_step taken with
  | aside other requests most late created chatted =>
    constructor
    · rwa [requests, most]
    · rw [created]
      exact fun some => chatted (known some)
    · rwa [most, late, created, requests]
  | login nobody => exact ⟨outstanding, known, spent⟩
  | pressed present =>
    constructor
    · exact Nat.le_max_right _ _
    · exact known
    · dsimp only
      intro alone timely
      simp only [Bool.or_eq_false_iff] at timely
      -- nothing has been created where the chat is not known
      have none : screen.created = 0 := by
        cases amount : screen.created with
        | zero => rfl
        | succ n => simp [timely.2] at known; omega
      omega
  | succeeded waiting =>
    constructor
    · dsimp only
      omega
    · exact fun _ => rfl
    · dsimp only
      intro alone timely
      have within := spent alone timely
      omega
  | refused waiting =>
    constructor
    · dsimp only
      omega
    · exact known
    · dsimp only
      intro alone timely
      have within := spent alone timely
      omega

/-- Only a press can break what the history says, and one that does breaks it for good. -/
theorem Accounted.oneChat_iff (accounted : Accounted screen)
    (taken : screen.step action = some next) :
    OneChat next ↔ OneChat screen ∧ screen.Patient action := by
  obtain ⟨outstanding, known, spent⟩ := accounted
  cases went_of_step taken with
  | aside other requests most late created chatted =>
    have patient : screen.Patient action := fun press => absurd press other
    constructor
    · rintro ⟨alone, timely, once⟩
      exact ⟨⟨most ▸ alone, late ▸ timely, created ▸ once⟩, patient⟩
    · rintro ⟨⟨alone, timely, once⟩, -⟩
      exact ⟨most ▸ alone, late ▸ timely, created ▸ once⟩
  | login nobody =>
    constructor
    · rintro ⟨alone, timely, once⟩
      exact ⟨⟨alone, timely, once⟩, fun _ present => absurd nobody present⟩
    · rintro ⟨⟨alone, timely, once⟩, -⟩
      exact ⟨alone, timely, once⟩
  | pressed present =>
    constructor
    · rintro ⟨alone, timely, once⟩
      dsimp only at alone timely once
      simp only [Bool.or_eq_false_iff] at timely
      exact ⟨⟨by omega, timely.1, once⟩, fun _ _ => ⟨by omega, timely.2⟩⟩
    · rintro ⟨⟨alone, timely, once⟩, patient⟩
      obtain ⟨idle, unknown⟩ := patient rfl present
      constructor
      · dsimp only
        omega
      · simp [timely, unknown]
      · exact once
  | succeeded waiting =>
    constructor
    · rintro ⟨alone, timely, once⟩
      dsimp only at once
      exact ⟨⟨alone, timely, by omega⟩, nofun⟩
    · rintro ⟨⟨alone, timely, once⟩, -⟩
      have within := spent alone timely
      exact ⟨alone, timely, by dsimp only; omega⟩
  | refused waiting =>
    constructor
    · rintro ⟨alone, timely, once⟩
      exact ⟨⟨alone, timely, once⟩, nofun⟩
    · rintro ⟨⟨alone, timely, once⟩, -⟩
      exact ⟨alone, timely, once⟩

end ChatCreation

open ChatCreation

/-- One chat at most is created exactly when nobody presses the button while a request
is outstanding or the chat is known. -/
theorem oneChat_iff_patient {user : Option Int} {actions : List CreationAction}
    {final : ChatCreation} (reached : run step (initState user) actions = some final) :
    OneChat final ↔ Meets step Patient (initState user) actions := by
  have start : OneChat (initState user) := ⟨by simp [initState], rfl, by simp [initState]⟩
  rw [holds_iff_meets Accounted (fun _ _ _ accounted taken => accounted.step taken)
    (fun _ _ _ accounted taken => accounted.oneChat_iff taken) (accounted_initState user) reached]
  exact and_iff_right start

def chatKey : LastChatResponse := ⟨some ⟨some "k1"⟩⟩

def pressedAgain : List CreationAction :=
  [.detailLoaded, .chatProductDetail 404 ⟨none⟩, .frame, .press, .chatProduct 500 ⟨none⟩, .press,
    .chatProduct 200 chatKey, .frame]

theorem pressedAgain_oneChat :
    ∃ final, run step (initState (some 7)) pressedAgain = some final ∧ OneChat final := by
  have found : (run step (initState (some 7)) pressedAgain).any (fun screen =>
      decide (screen.created = 1)) = true := by decide
  obtain ⟨final, reached, -⟩ := exists_of_run found
  exact ⟨final, reached, (oneChat_iff_patient reached).mpr (by decide)⟩

theorem two_chats_created :
    ∃ final, run step (initState (some 7)) [.detailLoaded, .frame, .press, .press,
      .chatProduct 200 chatKey, .chatProduct 200 chatKey] = some final ∧
      final.mostCreating = 2 ∧ final.created = 2 ∧ ¬ OneChat final := by
  refine ⟨_, rfl, rfl, rfl, fun one => ?_⟩
  exact absurd one.once (by decide)

end SparSomnong.Navigation
