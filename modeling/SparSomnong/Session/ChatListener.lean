import SparSomnong.Semantics.Run
import SparSomnong.Session.Users

/-! The subscription of MainPage to the chats of the user.

Every notification of the UserProvider calls `listenChatChange`, whatever has
changed. Its second branch is meant for a user who has left, and is also taken
while the subscription is live.
-/

set_option autoImplicit false

namespace SparSomnong.Session

open Semantics

/-- A mounted MainPage. The listener is the live subscription, by the id its query
is for; `handled` is history: the last operation has notified. -/
structure MainPage where
  provider : UserProvider
  chatChangeListener : Option (Option Int)
  handled : Bool
  deriving DecidableEq, Repr

def listenChatChange (user : Option UserModel) (chatChangeListener : Option (Option Int)) :
    Option (Option Int) :=
  match user, chatChangeListener with
  | some user, none => some user.id
  -- cancelled and set to null
  | _, _ => none

namespace MainPage

def start (provider : UserProvider) : MainPage :=
  ⟨provider, listenChatChange provider.user none, true⟩

def step (page : MainPage) (operation : UserOperation) : Option MainPage :=
  let provider := page.provider.perform operation
  if page.provider.notifies operation then
    some ⟨provider, listenChatChange provider.user page.chatChangeListener, true⟩
  else some { page with provider, handled := false }

/-- Once a notification is handled, the listener is live exactly when a user is
logged in, and its query is for that user. -/
def Follows (page : MainPage) : Prop :=
  page.handled = true → page.chatChangeListener = page.provider.user.map UserModel.id

instance (page : MainPage) : Decidable page.Follows := inferInstanceAs (Decidable (_ → _))

def Switching (page : MainPage) (operation : UserOperation) : Prop :=
  page.provider.notifies operation = true →
    (page.provider.perform operation).user = none ∨ page.chatChangeListener = none

instance (page : MainPage) (operation : UserOperation) : Decidable (page.Switching operation) :=
  inferInstanceAs (Decidable (_ → _))

theorem listenChatChange_eq_iff (user : Option UserModel)
    (chatChangeListener : Option (Option Int)) :
    listenChatChange user chatChangeListener = user.map UserModel.id ↔
      user = none ∨ chatChangeListener = none := by
  cases user <;> cases chatChangeListener <;> simp [listenChatChange]

theorem step_total (page : MainPage) (operation : UserOperation) :
    ∃ next, page.step operation = some next := by
  unfold step
  split <;> exact ⟨_, rfl⟩

theorem follows_step {page next : MainPage} {operation : UserOperation}
    (taken : page.step operation = some next) : next.Follows ↔ page.Switching operation := by
  unfold step at taken
  split at taken
  · next notified =>
    cases taken
    simp only [Follows, Switching, notified, forall_const]
    exact listenChatChange_eq_iff _ _
  · next silent =>
    cases taken
    simp [Follows, Switching, silent]

theorem follows_start (provider : UserProvider) : (start provider).Follows := by
  intro _
  exact (listenChatChange_eq_iff _ _).mpr (Or.inr rfl)

end MainPage

/-- For every sequence of operations, the listener follows the login state after
every notification if and only if every notification comes when nobody is logged
in or nothing is live. -/
theorem follows_iff_switching (provider : UserProvider) (operations : List UserOperation) :
    Always MainPage.step MainPage.Follows (MainPage.start provider) operations ↔
      Meets MainPage.step MainPage.Switching (MainPage.start provider) operations := by
  obtain ⟨final, reached⟩ := run_of_total MainPage.step_total (MainPage.start provider) operations
  exact always_iff_meets (fun _ => True) (fun _ _ _ _ _ => trivial)
    (fun _ _ _ _ _ taken => MainPage.follows_step taken) trivial (MainPage.follows_start provider)
    reached

def someUser : UserModel := { id := some 7, token := some "t7" }

def currencyAfterLogin : List UserOperation :=
  [.setUser (some someUser), .setCurrencyKey (some "riel")]

/-- User 7 is logged in, the last notification is handled, and nothing is live. -/
theorem currencyAfterLogin_deaf :
    (∃ final, run MainPage.step (MainPage.start {}) currencyAfterLogin = some final ∧
      final.provider.user = some someUser ∧ final.handled = true ∧
      final.chatChangeListener = none) ∧
    ¬ Always MainPage.step MainPage.Follows (MainPage.start {}) currencyAfterLogin := by
  constructor
  · exact ⟨_, rfl, rfl, rfl, rfl⟩
  · intro always
    have last : MainPage.Follows _ := always.2.2
    exact absurd last (by decide)

end SparSomnong.Session
