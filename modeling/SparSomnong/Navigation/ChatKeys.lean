import SparSomnong.Chat.Keyed
import SparSomnong.Navigation.Screens

/-! Under which keys the chat code writes.

The product screens add null to the shared stream where a product has no chat,
and a ChatWidget renders whatever key it has into the paths it writes. Nothing
is written under a key that does not exist as long as no ChatWidget hears one.
-/

set_option autoImplicit false

namespace SparSomnong.Navigation

open Semantics Chat

namespace App

/-- A non-empty key that the server has served. -/
def Served (app : App) (key : Option String) : Prop :=
  ∃ name ∈ app.served, key = some name ∧ name ≠ ""

/-- Every write is under a key the server has served before. -/
def WritesServed (app : App) : Prop :=
  ∀ write ∈ app.writes, app.Served write.chatKey

def named : Option String → Bool
  -- neither null nor the empty string
  | some key => key ≠ ""
  | none => false

end App

def AppAction.mounts : AppAction → Bool
  | .frame _ => true
  | _ => false

/-- Null and the empty key are added to the stream only while there is no
ChatWidget, and no ChatWidget comes up while one of them is the latest value. -/
def App.Naming (app : App) (action : AppAction) : Prop :=
  (∀ value ∈ app.pushes action, App.named value = true ∨
    ∀ screen ∈ app.screens, screen.chat.isNone = true) ∧
  (action.mounts = true → ∀ value ∈ app.chatKeyStream.value, App.named value = true)

instance (app : App) (action : AppAction) : Decidable (app.Naming action) :=
  inferInstanceAs (Decidable (_ ∧ _))

structure Addressing (app : App) : Prop where
  opened : app.chatKeyStream.closed = false
  shown : ∀ screen ∈ app.screens, ∀ widget ∈ screen.chat, Keyed app.Served widget
  gone : ∀ widget ∈ app.gone, Keyed app.Served widget
  value : ∀ key, app.chatKeyStream.value = some (some key) → key ∈ app.served
  chats : ∀ chat ∈ app.chats, app.Served chat.key
  writes : app.WritesServed

namespace Addressing

variable {app next : App} {action : AppAction}

theorem start (db : Database) (user : Option Int) : Addressing (App.start db user) :=
  ⟨rfl, by simp [App.start], by simp [App.start], by simp [App.start], by simp [App.start],
    by simp [App.start, App.WritesServed]⟩

theorem served_mono (served : app.served ⊆ next.served) :
    ∀ key, app.Served key → next.Served key :=
  fun _ ⟨name, member, facts⟩ => ⟨name, served member, facts⟩

theorem served_of_named {key : Option String} (named : App.named key = true)
    (served : ∀ name, key = some name → name ∈ app.served) : app.Served key := by
  cases key with
  | none => simp [App.named] at named
  | some name => exact ⟨name, served name rfl, rfl, by simpa [App.named] using named⟩

theorem frame (addressing : Addressing app) (served : app.served ⊆ next.served)
    (stream : next.chatKeyStream = app.chatKeyStream) (chats : next.chats = app.chats)
    (writes : next.writes = app.writes)
    (shown : ∀ screen ∈ next.screens, ∀ widget ∈ screen.chat, Keyed app.Served widget)
    (gone : ∀ widget ∈ next.gone, Keyed app.Served widget) : Addressing next := by
  have wider := served_mono served
  refine ⟨stream ▸ addressing.opened, ?_, ?_, ?_, ?_, ?_⟩
  · exact fun screen member widget had => (shown screen member widget had).mono wider
  · exact fun widget member => (gone widget member).mono wider
  · rw [stream]
    exact fun key latest => served (addressing.value key latest)
  · rw [chats]
    exact fun chat member => wider _ (addressing.chats chat member)
  · intro write member
    rw [writes] at member
    exact wider _ (addressing.writes write member)

theorem push {value : Option String} (addressing : Addressing app)
    (served : ∀ key, value = some key → key ∈ app.served)
    (heard : App.named value = true ∨ ∀ screen ∈ app.screens, screen.chat.isNone = true) :
    Addressing (app.push value) := by
  rw [App.push_open addressing.opened]
  refine ⟨rfl, ?_, addressing.gone, ?_, addressing.chats, addressing.writes⟩
  · intro screen member widget had
    obtain ⟨old, before, rfl⟩ := List.mem_map.mp member
    obtain ⟨previous, shown, rfl⟩ := Option.map_eq_some_iff.mp had
    have named : App.named value = true := by
      refine heard.resolve_right fun none => ?_
      simpa [shown] using none old before
    exact (addressing.shown old before previous shown).onChatKey (served_of_named named served)
  · intro key latest
    exact served key (Option.some.inj latest)

/-- The key a reply adds has just been served. -/
theorem served_of_pushes {request : Request} {answer : Option LastChatResponse}
    {value : Option String} (pushes : request.pushes answer = some value) :
    ∀ key, value = some key → key ∈ (app.hear request answer).served := by
  unfold Request.pushes at pushes
  split at pushes
  · cases pushes
    intro key same
    simp [App.hear, same]
  · split at pushes
    · cases pushes
      simp
    · cases pushes

theorem hear (addressing : Addressing app) (request : Request)
    (answer : Option LastChatResponse) : Addressing (app.hear request answer) := by
  unfold App.hear
  split
  · exact addressing.frame (List.subset_append_left _ _) rfl rfl rfl addressing.shown
      addressing.gone
  · exact addressing

theorem setState {id : Nat} {change : Screen → Screen} {requests : List Request}
    (addressing : Addressing app) (keeps : App.Flags change) :
    Addressing { app.setState id change with requests } := by
  refine addressing.frame (List.Subset.refl _) rfl rfl rfl ?_ addressing.gone
  intro screen member widget had
  obtain ⟨old, before, rfl⟩ := List.mem_map.mp member
  split at had
  · rw [(keeps old).2] at had
    exact addressing.shown old before widget had
  · exact addressing.shown old before widget had

theorem replied {request : Request} {answer : Option LastChatResponse}
    {index statusCode : Nat} {response : LastChatResponse} {requests : List Request}
    (addressing : Addressing app) (naming : app.Naming (.reply index statusCode response))
    (pushes : app.pushes (.reply index statusCode response) = request.pushes answer) :
    Addressing ((App.hear { app with requests } request answer).replied request answer) := by
  have rest : Addressing { app with requests } :=
    addressing.frame (List.Subset.refl _) rfl rfl rfl addressing.shown addressing.gone
  have heard := rest.hear request answer
  have screens : (App.hear { app with requests } request answer).screens = app.screens := by
    unfold App.hear
    split <;> rfl
  obtain ⟨change, keeps, same⟩ :=
    (App.hear { app with requests } request answer).replied_cases request answer
  have flagged : Addressing ((App.hear { app with requests } request answer).setState
      request.screen change) := heard.setState keeps
  rw [same]
  cases added : request.pushes answer with
  | none => exact flagged
  | some value =>
    refine flagged.push (served_of_pushes added) ?_
    refine (naming.1 value (pushes.trans added)).imp_right fun none screen member => ?_
    obtain ⟨old, before, rfl⟩ := List.mem_map.mp member
    rw [screens] at before
    split
    · rw [(keeps old).2]
      exact none old before
    · exact none old before

theorem stepped {widget after : ChatWidgetState} {act : WidgetAction} {writes : List Write}
    (addressing : Addressing app) (keyed : Keyed app.Served widget)
    (taken : ChatWidgetState.Stepped app.db app.user widget act after writes) :
    Keyed app.Served after ∧ App.WritesServed { app with writes := app.writes ++ writes } := by
  obtain ⟨kept, under⟩ := keyed.stepped taken
  refine ⟨kept, fun write member => ?_⟩
  rcases List.mem_append.mp member with old | new
  · exact addressing.writes write old
  · exact under write new

theorem went (addressing : Addressing app) (naming : app.Naming action)
    (taken : App.Went app action next) : Addressing next := by
  have same := List.Subset.refl app.served
  cases taken with
  | append newest =>
    refine addressing.frame same rfl rfl rfl ?_ ?_
    · intro screen member widget had
      obtain ⟨old, before, rfl⟩ := List.mem_map.mp member
      obtain ⟨previous, shown, rfl⟩ := Option.map_eq_some_iff.mp had
      exact (addressing.shown old before previous shown).onStored
    · intro widget member
      obtain ⟨old, before, rfl⟩ := List.mem_map.mp member
      exact (addressing.gone old before).onStored
  | quote quoted => exact addressing.frame same rfl rfl rfl addressing.shown addressing.gone
  | setUser => exact addressing.frame same rfl rfl rfl addressing.shown addressing.gone
  | opened _ hidden =>
    refine addressing.frame same rfl rfl rfl ?_ addressing.gone
    intro screen member widget had
    rcases List.mem_cons.mp member with rfl | old
    · simp [hidden] at had
    · exact addressing.shown screen old widget had
  | @back top rest stack =>
    refine addressing.frame same rfl rfl rfl ?_ ?_
    · exact fun screen member => addressing.shown screen (by simp [stack, member])
    · intro widget member
      rcases List.mem_append.mp member with old | left
      · exact addressing.gone widget old
      · obtain ⟨previous, had, rfl⟩ := Option.map_eq_some_iff.mp (Option.mem_toList.mp left)
        exact (addressing.shown top (by simp [stack]) previous had).dispose
  | flagged _ keeps => exact addressing.setState keeps
  | unanswered => exact addressing.frame same rfl rfl rfl addressing.shown addressing.gone
  | @unheard _ _ _ requests request answer =>
    have rest : Addressing { app with requests } :=
      addressing.frame same rfl rfl rfl addressing.shown addressing.gone
    exact rest.hear request answer
  | replied pushes _ => exact addressing.replied naming pushes
  | @frame index screen found =>
    refine addressing.frame same rfl rfl rfl ?_ addressing.gone
    intro other member widget had
    rcases List.mem_or_eq_of_mem_set member with old | rfl
    · exact addressing.shown other old widget had
    · cases had
      unfold App.subscribed
      split
      · next value latest =>
        refine Keyed.start.onChatKey (served_of_named (naming.2 rfl value latest) ?_)
        rintro key rfl
        exact addressing.value key latest
      · exact Keyed.start
  | counted => exact addressing.frame same rfl rfl rfl addressing.shown addressing.gone
  | closed =>
    refine addressing.frame same rfl rfl rfl ?_ ?_
    · intro screen member widget had
      exact addressing.shown screen (App.mem_of_closeMessages member had) widget had
    · intro widget member
      rcases List.mem_append.mp member with old | lost
      · exact addressing.gone widget old
      · obtain ⟨screen, inside, before, shown, rfl⟩ := App.disposed_of_closeMessages lost
        exact (addressing.shown screen inside before shown).dispose
  | @chatSnapshot keys named =>
    have wider := @served_mono app
      { app with
        chats := keys.map fun key => ⟨some key, (app.db key).lastMessage⟩
        served := app.served ++ keys } (List.subset_append_left _ _)
    refine ⟨addressing.opened, ?_, ?_, ?_, ?_, ?_⟩
    · exact fun screen member widget had => (addressing.shown screen member widget had).mono wider
    · exact fun widget member => (addressing.gone widget member).mono wider
    · exact fun key latest => List.mem_append_left _ (addressing.value key latest)
    · intro chat member
      obtain ⟨key, inside, rfl⟩ := List.mem_map.mp member
      exact ⟨key, List.mem_append_right _ inside, rfl, named key inside⟩
    · exact fun write member => wider _ (addressing.writes write member)
  | @tap index chat found =>
    obtain ⟨name, member, key, some⟩ := addressing.chats chat (List.mem_of_getElem? found)
    have told : Addressing (app.push chat.key) := by
      refine addressing.push ?_ (Or.inl (by simp [key, App.named, some]))
      intro other same
      cases key.symm.trans same
      exact member
    have served : (app.push chat.key).served = app.served := by
      rw [App.push_open addressing.opened]
    refine ⟨told.opened, told.shown, told.gone, told.value, told.chats, ?_⟩
    intro write written
    rcases List.mem_append.mp written with old | new
    · exact served_mono (served ▸ same) _ (addressing.writes write old)
    · rcases chat.onTap_cases app.user with nothing | ⟨id, last, -, -, only⟩
      · simp [nothing] at new
      · rw [only, List.mem_singleton] at new
        rw [new]
        exact ⟨name, served ▸ member, key, some⟩
  | @widget index screen widget after act writes found shown stepped =>
    have keyed := addressing.shown screen (List.mem_of_getElem? found) widget shown
    obtain ⟨kept, served⟩ := addressing.stepped keyed (ChatWidgetState.stepped_of_step stepped)
    refine ⟨addressing.opened, ?_, addressing.gone, addressing.value, addressing.chats, served⟩
    intro other member current had
    rcases List.mem_or_eq_of_mem_set member with old | rfl
    · exact addressing.shown other old current had
    · cases had
      exact kept
  | @gone index widget after act writes found stepped =>
    have keyed := addressing.gone widget (List.mem_of_getElem? found)
    obtain ⟨kept, served⟩ := addressing.stepped keyed (ChatWidgetState.stepped_of_step stepped)
    refine ⟨addressing.opened, addressing.shown, ?_, addressing.value, addressing.chats, served⟩
    intro current member
    rcases List.mem_or_eq_of_mem_set member with old | rfl
    · exact addressing.gone current old
    · exact kept

end Addressing

/-- In every run in which no ChatWidget hears null or the empty key, everything
is written under a key the server has served. -/
theorem writes_served {db : Database} {user : Option Int} {actions : List AppAction} {final : App}
    (meets : Meets App.step App.Naming (App.start db user) actions)
    (reached : run App.step (App.start db user) actions = some final) : final.WritesServed :=
  (run_invariant Addressing
    (fun _ _ _ addressing naming taken => addressing.went naming (App.went_of_step taken))
    (Addressing.start db user) meets reached).writes

def chatAboutProduct : List AppAction :=
  [.openProduct 1, .detailLoaded 0, .reply 0 200 ⟨some ⟨some "a"⟩⟩, .frame 0,
   .widget 0 (.firstReadServed 0), .widget 0 (.firstReadDone 0 [sample "k2", sample "k1"]),
   .widget 0 (.subscribed 0), .widget 0 (.childAdded 0), .widget 0 (.send "hi" 1 "k5")]

theorem chatAboutProduct_served :
    ∃ final, run App.step (App.start twoChats (some 7)) chatAboutProduct = some final ∧
      final.writes.length = 4 ∧ final.WritesServed := by
  have found : (run App.step (App.start twoChats (some 7)) chatAboutProduct).any
      (fun final => decide (final.writes.length = 4)) = true := by decide
  obtain ⟨final, reached, test⟩ := exists_of_run found
  exact ⟨final, reached, of_decide_eq_true test, writes_served (by decide) reached⟩

def sendToNobody : List AppAction :=
  [.openProduct 2, .reply 0 200 ⟨none⟩, .back, .numberOfChat 1, .openMessages, .frame 0,
   .widget 0 (.firstReadServed 0), .widget 0 (.firstReadDone 0 []),
   .widget 0 (.send "hi" 1 "k5")]

/-- The message and its summary are written under "null". -/
theorem sendToNobody_unserved :
    ∃ final, run App.step (App.start twoChats (some 7)) sendToNobody = some final ∧
      final.writes.map Write.chatKey = [none, none, none] ∧ ¬ final.WritesServed := by
  have found : (run App.step (App.start twoChats (some 7)) sendToNobody).any
      (fun final => decide (final.writes.map Write.chatKey = [none, none, none])) = true := by
    decide
  obtain ⟨final, reached, test⟩ := exists_of_run found
  have keys := of_decide_eq_true test
  refine ⟨final, reached, keys, fun served => ?_⟩
  cases all : final.writes with
  | nil => simp [all] at keys
  | cons write rest =>
    obtain ⟨name, -, key, -⟩ := served write (by simp [all])
    simp [all, key] at keys

end SparSomnong.Navigation
