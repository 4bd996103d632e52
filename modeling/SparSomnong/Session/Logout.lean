import SparSomnong.Navigation.Screens
import SparSomnong.Session.Badges
import SparSomnong.Session.ChatListener

/-! What a user leaves behind in the ChatProvider.

Logging out clears the UserProvider and replaces MainPage with its screens. The
ChatProvider lives above both and is not touched: its stream replays the last
key, and the number of chats and the badge stay as the last snapshots left them.
-/

set_option autoImplicit false

namespace SparSomnong.Session

open Semantics Navigation

abbrev Heard := (userId : Int) × Snapshot userId

/-- The app around one MainPage. The last two fields are history: the values added
to `chatKeyStream`, and the snapshots handled by the chat-change listener. -/
structure LoginSession where
  app : App
  page : MainPage
  hasSeenAll : Bool
  added : List (Option String)
  snapshots : List Heard

inductive SessionAction where
  | app (action : AppAction)
  | perform (operation : UserOperation)
  | chatChange (userId : Int) (snapshot : Snapshot userId)
  | logout

def ofScreens : AppAction → Bool
  | .setUser _ | .numberOfChat _ => false
  | _ => true

namespace LoginSession

def start (db : Chat.Database) (provider : UserProvider) : LoginSession :=
  -- perhaps with a user found by the splash screen
  ⟨App.start db (provider.user.bind UserModel.id), MainPage.start provider, true, [], []⟩

def disposeScreens (app : App) : App :=
  { app with
    screens := []
    gone := app.gone ++ app.screens.filterMap fun screen =>
      screen.chat.map Chat.ChatWidgetState.dispose }

def logout (session : LoginSession) : LoginSession :=
  -- `clear` without a notification, then a new MainPage in the place of the old one
  let provider := session.page.provider.perform .clear
  { session with
    app := { disposeScreens session.app with user := none }
    page := MainPage.start provider }

def step (session : LoginSession) : SessionAction → Option LoginSession
  | .app action =>
    if ofScreens action then
      match session.app.step action with
      | some app => some { session with
          app
          added := session.added ++ (session.app.pushes action).toList }
      | none => none
    else none
  | .perform operation =>
    match session.page.step operation with
    | some page => some { session with
        app := { session.app with user := page.provider.user.bind UserModel.id }
        page }
    | none => none
  | .chatChange userId snapshot =>
    if session.page.chatChangeListener = some (some userId) then
      let summary := onChatChange userId snapshot.value
        ⟨session.app.numberOfChat, session.hasSeenAll⟩
      match session.app.step (.numberOfChat summary.numberOfChat) with
      | some app => some { session with
          app
          hasSeenAll := summary.hasSeenAll
          snapshots := session.snapshots ++ [⟨userId, snapshot⟩] }
      | none => none
    else none
  | .logout => some session.logout

end LoginSession

/-- What a session can see of the ChatProvider: the key replayed to a new listener,
the number of chats, and the badge. -/
structure Observation where
  key : Option (Option String)
  numberOfChat : Nat
  hasSeenAll : Bool
  deriving DecidableEq, Repr

def LoginSession.observe (session : LoginSession) : Observation :=
  ⟨session.app.chatKeyStream.value, session.app.numberOfChat, session.hasSeenAll⟩

def summaryAfter (snapshots : List Heard) : ChatSummary :=
  snapshots.foldl (fun summary heard => onChatChange heard.1 heard.2.value summary) {}

/-- The last snapshot has no chats, and in the last one that was not null all were
seen. -/
def Vacant (snapshots : List Heard) : Prop :=
  (∀ last ∈ snapshots.getLast?, last.2.chats = []) ∧
  ∀ last ∈ (snapshots.filter fun heard => !heard.2.value.isNull).getLast?, last.2.AllSeen

theorem vacant_nil : Vacant [] := by
  constructor <;> simp

theorem summaryAfter_concat (snapshots : List Heard) (last : Heard) :
    summaryAfter (snapshots ++ [last]) =
      onChatChange last.1 last.2.value (summaryAfter snapshots) := by
  simp [summaryAfter]

theorem summaryAfter_number (snapshots : List Heard) :
    (summaryAfter snapshots).numberOfChat = 0 ↔ ∀ last ∈ snapshots.getLast?, last.2.chats = [] := by
  induction snapshots using List.reverseRecOn with
  | nil => simp [summaryAfter]
  | append_singleton before last ih =>
    rw [summaryAfter_concat]
    rcases last.2.value_cases with absent | present
    · rw [last.2.onChatChange_of_null absent]
      simp [last.2.chats_of_null absent]
    · rw [last.2.onChatChange_of_map present]
      simp

theorem summaryAfter_seen (snapshots : List Heard) :
    (summaryAfter snapshots).hasSeenAll = true ↔
      ∀ last ∈ (snapshots.filter fun heard => !heard.2.value.isNull).getLast?, last.2.AllSeen := by
  induction snapshots using List.reverseRecOn with
  | nil => simp [summaryAfter]
  | append_singleton before last ih =>
    rw [summaryAfter_concat, List.filter_append]
    rcases last.2.value_cases with absent | present
    · rw [last.2.onChatChange_of_null absent]
      simpa [absent, Value.isNull] using ih
    · rw [last.2.onChatChange_of_map present]
      simp [last.2.isNull_of_map present]

structure Recorded (session : LoginSession) : Prop where
  opened : session.app.chatKeyStream.closed = false
  key : session.app.chatKeyStream.value = session.added.getLast?
  summary : (⟨session.app.numberOfChat, session.hasSeenAll⟩ : ChatSummary) =
    summaryAfter session.snapshots

namespace Recorded

variable {session next : LoginSession} {action : SessionAction}

theorem start (db : Chat.Database) (provider : UserProvider) :
    Recorded (LoginSession.start db provider) :=
  ⟨rfl, rfl, rfl⟩

theorem ofApp {app : App} {act : AppAction} (recorded : Recorded session)
    (screens : ofScreens act = true) (taken : session.app.step act = some app) :
    Recorded { session with
      app
      added := session.added ++ (session.app.pushes act).toList } := by
  have went := App.went_of_step taken
  have stream := went.stream recorded.opened
  have number := went.numberOfChat (by rintro count rfl; simp [ofScreens] at screens)
  refine ⟨?_, ?_, ?_⟩
  · rw [stream]
    cases session.app.pushes act with
    | none => exact recorded.opened
    | some pushed => rfl
  · rw [stream]
    cases session.app.pushes act with
    | none =>
      simp only [Option.toList_none, List.append_nil]
      exact recorded.key
    | some pushed => simp [App.streamAfter]
  · simp only [number]
    exact recorded.summary

theorem ofChatChange {app : App} {userId : Int} {snapshot : Snapshot userId}
    (recorded : Recorded session)
    (taken : session.app.step (.numberOfChat (onChatChange userId snapshot.value
      ⟨session.app.numberOfChat, session.hasSeenAll⟩).numberOfChat) = some app) :
    Recorded { session with
      app
      hasSeenAll := (onChatChange userId snapshot.value
        ⟨session.app.numberOfChat, session.hasSeenAll⟩).hasSeenAll
      snapshots := session.snapshots ++ [⟨userId, snapshot⟩] } := by
  have went := App.went_of_step taken
  have stream := went.stream recorded.opened
  have number : app.numberOfChat = (onChatChange userId snapshot.value
      ⟨session.app.numberOfChat, session.hasSeenAll⟩).numberOfChat := by
    simp only [App.step, Option.some.injEq] at taken
    rw [← taken]
    split <;> rfl
  refine ⟨?_, ?_, ?_⟩
  · rw [stream]
    exact recorded.opened
  · rw [stream]
    exact recorded.key
  · simp only [number]
    rw [summaryAfter_concat, ← recorded.summary]

theorem step (recorded : Recorded session) (taken : session.step action = some next) :
    Recorded next := by
  cases action with
  | app act =>
    simp only [LoginSession.step] at taken
    split at taken
    · next screens =>
      split at taken
      · next app moved =>
        cases taken
        exact recorded.ofApp screens moved
      · cases taken
    · cases taken
  | perform operation =>
    simp only [LoginSession.step] at taken
    split at taken
    · cases taken
      exact ⟨recorded.opened, recorded.key, recorded.summary⟩
    · cases taken
  | chatChange userId snapshot =>
    simp only [LoginSession.step] at taken
    split at taken
    · split at taken
      · next app moved =>
        cases taken
        exact recorded.ofChatChange moved
      · cases taken
    · cases taken
  | logout =>
    cases taken
    exact ⟨recorded.opened, recorded.key, recorded.summary⟩

theorem observe_eq_iff (recorded : Recorded session) :
    session.observe = ⟨none, 0, true⟩ ↔ session.added = [] ∧ Vacant session.snapshots := by
  have number := summaryAfter_number session.snapshots
  have seen := summaryAfter_seen session.snapshots
  rw [← recorded.summary] at number seen
  simp only [LoginSession.observe, Observation.mk.injEq, recorded.key, List.getLast?_eq_none_iff]
  exact and_congr_right fun _ => and_congr number seen

end Recorded

namespace LoginSession

def alone (db : Chat.Database) (user : UserModel) : Option LoginSession :=
  run step (start db {}) [.perform (.setUser (some user))]

/-- The user sees of the ChatProvider what a user sees who logs in first, and a
ChatWidget built now does what it would do then. -/
def NoTrace (db : Chat.Database) (user : UserModel) (session : LoginSession) : Prop :=
  ∃ fresh, alone db user = some fresh ∧ session.observe = fresh.observe ∧
    session.app.subscribed = fresh.app.subscribed

theorem noTrace_iff_observe (db : Chat.Database) (user : UserModel) (session : LoginSession) :
    session.NoTrace db user ↔ session.observe = ⟨none, 0, true⟩ := by
  constructor
  · rintro ⟨fresh, found, same, -⟩
    cases found
    exact same
  · intro vacant
    refine ⟨_, rfl, vacant, ?_⟩
    -- nothing is replayed, whoever is logged in
    have absent : session.app.chatKeyStream.value = none := congrArg Observation.key vacant
    rw [App.subscribed, absent]
    rfl

end LoginSession

/-- The next user sees no trace of the sessions before if and only if nothing was
added to the stream in them and the snapshots left the summary as it was. -/
theorem logout_noTrace_iff {db : Chat.Database} {provider : UserProvider}
    {before between : List SessionAction} {user : UserModel} {final : LoginSession}
    (reached : run LoginSession.step (LoginSession.start db provider)
      (before ++ .logout :: between ++ [.perform (.setUser (some user))]) = some final) :
    final.NoTrace db user ↔ final.added = [] ∧ Vacant final.snapshots := by
  have recorded : Recorded final := run_invariant_of_step Recorded
    (fun _ _ _ recorded taken => recorded.step taken) (Recorded.start db provider) reached
  rw [LoginSession.noTrace_iff_observe, recorded.observe_eq_iff]

def noConversations : Chat.Database := fun _ => Chat.Conversation.empty

def nextUser : UserModel := { id := some 8, token := some "t8" }

def quietSession : List SessionAction :=
  [.perform (.setUser (some someUser)), .perform (.setCurrencyKey (some "riel"))]

theorem quietSession_noTrace :
    ∃ final, run LoginSession.step (LoginSession.start noConversations {})
        (quietSession ++ .logout :: [] ++ [.perform (.setUser (some nextUser))]) = some final ∧
      final.NoTrace noConversations nextUser := by
  refine ⟨_, rfl, ?_⟩
  apply (@logout_noTrace_iff _ {} quietSession [] _ _ rfl).mpr
  exact ⟨rfl, vacant_nil⟩

def chattingSession : List SessionAction :=
  [.perform (.setUser (some someUser)), .app (.openProduct 1), .app (.detailLoaded 0),
    .app (.reply 0 200 ⟨some ⟨some "a"⟩⟩), .chatChange 7 halfSeen]

/-- User 8 sees the key, the number and the badge of user 7, and the ChatWidget of
the message screen reads the conversation that user 7 had open. -/
theorem chattingSession_traced :
    (∃ final, run LoginSession.step (LoginSession.start noConversations {})
        (chattingSession ++ .logout :: [] ++ [.perform (.setUser (some nextUser))]) = some final ∧
      final.observe = ⟨some (some "a"), 2, false⟩ ∧ ¬ final.NoTrace noConversations nextUser) ∧
    ∃ final, run LoginSession.step (LoginSession.start noConversations {})
        (chattingSession ++ .logout :: [.perform (.setUser (some nextUser)),
          .app .openMessages, .app (.frame 0)]) = some final ∧
      (final.app.screens.filterMap Screen.chat).flatMap
        (fun widget => widget.firstReads.map Chat.FirstRead.chatKey) = [some "a"] := by
  constructor
  · have found : (run LoginSession.step (LoginSession.start noConversations {})
        (chattingSession ++ .logout :: [] ++ [.perform (.setUser (some nextUser))])).any
        (fun final => decide (final.observe = ⟨some (some "a"), 2, false⟩)) = true := by decide
    obtain ⟨final, reached, test⟩ := exists_of_run found
    have seen := of_decide_eq_true test
    refine ⟨final, reached, seen, ?_⟩
    rw [LoginSession.noTrace_iff_observe, seen]
    decide
  · have found : (run LoginSession.step (LoginSession.start noConversations {})
        (chattingSession ++ .logout :: [.perform (.setUser (some nextUser)),
          .app .openMessages, .app (.frame 0)])).any
        (fun final => decide ((final.app.screens.filterMap Screen.chat).flatMap
          (fun widget => widget.firstReads.map Chat.FirstRead.chatKey) = [some "a"])) = true := by
      decide
    obtain ⟨final, reached, test⟩ := exists_of_run found
    exact ⟨final, reached, of_decide_eq_true test⟩

end SparSomnong.Session
