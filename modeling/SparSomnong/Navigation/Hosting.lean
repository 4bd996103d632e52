import SparSomnong.Chat.Sourced
import SparSomnong.Navigation.Screens

/-! Every ChatWidget of the app lives in a room.

A room has one ChatWidget; the app has one for each screen that shows a chat,
and the disposed ones whose handlers are still suspended. Seen from one of them,
a run of the app is a run of a room that begins where the widget was built, so
that what holds in every run of a room holds of every ChatWidget of the app.
-/

set_option autoImplicit false

namespace SparSomnong.Navigation

open Semantics Chat

/-- The room has the database and the user of the app, and the app has made its writes. -/
structure App.Around (app : App) (room : Room) : Prop where
  db : room.db = app.db
  user : room.user = app.user
  writes : room.writes ⊆ app.writes

/-- The widget is the one of a room that was run in the app. -/
def App.Hosts (app : App) (widget : ChatWidgetState) : Prop :=
  ∃ db user actions room, run Room.step (Room.start db user) actions = some room ∧
    app.Around room ∧ room.widget = widget

namespace App.Hosts

variable {app next : App} {widget after : ChatWidgetState}

theorem mono (hosts : app.Hosts widget) (db : next.db = app.db) (user : next.user = app.user)
    (writes : app.writes ⊆ next.writes) : next.Hosts widget := by
  obtain ⟨start, owner, actions, room, reached, around, same⟩ := hosts
  refine ⟨start, owner, actions, room, reached, ?_, same⟩
  exact ⟨around.db.trans db.symm, around.user.trans user.symm,
    fun _ member => writes (around.writes member)⟩

theorem follow (hosts : app.Hosts widget) (action : RoomAction)
    (moves : ∀ room, app.Around room → room.widget = widget →
      ∃ moved, room.step action = some moved ∧ next.Around moved ∧ moved.widget = after) :
    next.Hosts after := by
  obtain ⟨start, owner, actions, room, reached, around, same⟩ := hosts
  obtain ⟨moved, taken, inside, result⟩ := moves room around same
  exact ⟨start, owner, actions ++ [action], moved, run_concat reached taken, inside, result⟩

theorem onChatKey {value : Option String} (hosts : app.Hosts widget)
    (mounted : widget.mounted = true) : app.Hosts (widget.onChatKey app.user value) := by
  refine hosts.follow (.chatKey value) fun room around same => ?_
  subst same
  refine ⟨room.deliver value, by simp [Room.step, mounted], ?_, ?_⟩
  · exact ⟨around.db, around.user, around.writes⟩
  · rw [Room.deliver, around.user]

theorem dispose (hosts : app.Hosts widget) (mounted : widget.mounted = true) :
    app.Hosts widget.dispose := by
  refine hosts.follow .dispose fun room around same => ?_
  subst same
  refine ⟨{ room with widget := room.widget.dispose }, by simp [Room.step, mounted], ?_, rfl⟩
  exact ⟨around.db, around.user, around.writes⟩

theorem onStored {chat : String} {message : Messages} (hosts : app.Hosts widget)
    (newest : app.db.Newest chat message) (db : next.db = app.db.append chat message)
    (user : next.user = app.user) (writes : next.writes = app.writes) :
    next.Hosts (widget.onStored chat message) := by
  refine hosts.follow (.append chat message) fun room around same => ?_
  subst same
  rw [← around.db] at newest
  refine ⟨{ room with
    db := room.db.append chat message
    widget := room.widget.onStored chat message }, if_pos newest, ?_, rfl⟩
  exact ⟨by rw [db, ← around.db], around.user.trans user.symm, writes ▸ around.writes⟩

theorem quote {chat : String} {message : Messages} (hosts : app.Hosts widget)
    (stored : message ∈ (app.db chat).stored) :
    App.Hosts { app with db := app.db.quote chat message } widget := by
  refine hosts.follow (.quote chat message) fun room around same => ?_
  rw [← around.db] at stored
  refine ⟨{ room with db := room.db.quote chat message }, if_pos stored, ?_, same⟩
  exact ⟨by rw [around.db], around.user, around.writes⟩

theorem setUser {user : Option Int} (hosts : app.Hosts widget) :
    App.Hosts { app with user } widget := by
  refine hosts.follow (.setUser user) fun room around same => ?_
  exact ⟨{ room with user }, rfl, ⟨around.db, rfl, around.writes⟩, same⟩

theorem stepped {action : WidgetAction} {writes : List Write} (hosts : app.Hosts widget)
    (taken : widget.step app.db app.user action = some (after, writes))
    (db : next.db = app.db) (user : next.user = app.user)
    (written : next.writes = app.writes ++ writes) : next.Hosts after := by
  refine hosts.follow (.widget action) fun room around same => ?_
  subst same
  rw [← around.db, ← around.user] at taken
  refine ⟨room.note action writes
    { room with widget := after, writes := room.writes ++ writes }, ?_, ?_, ?_⟩
  · simp only [Room.step, taken]
  · refine ⟨?_, ?_, ?_⟩
    · rw [Room.note_db, db, around.db]
    · rw [Room.note_user, user, around.user]
    · rw [Room.note_writes, written]
      exact List.append_subset.mpr ⟨fun _ member => List.mem_append_left _ (around.writes member),
        List.subset_append_right _ _⟩
  · rw [Room.note_widget]

theorem subscribed (app : App) : app.Hosts app.subscribed := by
  have fresh : app.Hosts {} :=
    ⟨app.db, app.user, [], Room.start app.db app.user, rfl, ⟨rfl, rfl, List.nil_subset _⟩, rfl⟩
  unfold App.subscribed
  split
  · exact fresh.onChatKey rfl
  · exact fresh

end App.Hosts

structure Hosting (app : App) : Prop where
  shown : ∀ entry ∈ app.view, ∀ widget ∈ entry.2, widget.mounted = true ∧ app.Hosts widget
  gone : ∀ widget ∈ app.gone, widget.mounted = false ∧ app.Hosts widget

namespace Hosting

variable {app next : App} {action : AppAction}

theorem start (db : Database) (user : Option Int) : Hosting (App.start db user) :=
  ⟨by simp [App.start, App.view], by simp [App.start]⟩

theorem frame (hosting : Hosting app) (hosts : ∀ {widget}, app.Hosts widget → next.Hosts widget)
    (fewer : ∀ entry ∈ next.view, ∀ widget ∈ entry.2, ∃ before ∈ app.view, widget ∈ before.2)
    (gone : next.gone = app.gone) : Hosting next := by
  constructor
  · intro entry member widget shown
    obtain ⟨before, inside, had⟩ := fewer entry member widget shown
    exact (hosting.shown before inside widget had).imp_right hosts
  · rw [gone]
    exact fun widget member => (hosting.gone widget member).imp_right hosts

theorem sameView (hosting : Hosting app)
    (hosts : ∀ {widget}, app.Hosts widget → next.Hosts widget) (view : next.view = app.view)
    (gone : next.gone = app.gone) : Hosting next := by
  refine hosting.frame hosts ?_ gone
  rw [view]
  exact fun entry member widget shown => ⟨entry, member, shown⟩

theorem map {change : ChatWidgetState → ChatWidgetState} (hosting : Hosting app)
    (keeps : ∀ widget, (change widget).mounted = widget.mounted)
    (hosts : ∀ widget, app.Hosts widget → next.Hosts (change widget))
    (screens : next.screens = app.screens.map fun screen =>
      { screen with chat := screen.chat.map change })
    (gone : next.gone = app.gone.map change) : Hosting next := by
  constructor
  · intro entry member widget shown
    rw [App.view, screens, List.map_map] at member
    obtain ⟨screen, inside, rfl⟩ := List.mem_map.mp member
    obtain ⟨before, had, rfl⟩ := Option.map_eq_some_iff.mp shown
    have old := hosting.shown _ (List.mem_map_of_mem inside) before had
    exact ⟨(keeps before).trans old.1, hosts before old.2⟩
  · intro widget member
    rw [gone] at member
    obtain ⟨before, inside, rfl⟩ := List.mem_map.mp member
    have old := hosting.gone before inside
    exact ⟨(keeps before).trans old.1, hosts before old.2⟩

theorem push (hosting : Hosting app) (value : Option String) :
    Hosting (app.push value) := by
  unfold App.push
  split
  · constructor
    · intro entry member widget shown
      rw [App.view, List.map_map] at member
      obtain ⟨screen, inside, rfl⟩ := List.mem_map.mp member
      obtain ⟨before, had, rfl⟩ := Option.map_eq_some_iff.mp shown
      obtain ⟨mounted, hosts⟩ := hosting.shown _ (List.mem_map_of_mem inside) before had
      refine ⟨(ChatWidgetState.onChatKey_mounted _ _ _).trans mounted, ?_⟩
      exact (hosts.onChatKey mounted).mono rfl rfl fun _ member => member
    · intro widget member
      obtain ⟨unmounted, hosts⟩ := hosting.gone widget member
      exact ⟨unmounted, hosts.mono rfl rfl fun _ member => member⟩
  · exact hosting

theorem hear (hosting : Hosting app) (request : Request) (answer : Option LastChatResponse) :
    Hosting (app.hear request answer) := by
  unfold App.hear
  split
  · exact hosting.sameView (·.mono rfl rfl fun _ member => member) rfl rfl
  · exact hosting

theorem replied (hosting : Hosting app) (request : Request) (answer : Option LastChatResponse) :
    Hosting (app.replied request answer) := by
  obtain ⟨change, keeps, same⟩ := app.replied_cases request answer
  have flagged : Hosting (app.setState request.screen change) :=
    hosting.sameView (·.mono rfl rfl fun _ member => member) (App.view_setState keeps) rfl
  rw [same]
  split
  · exact flagged.push _
  · exact flagged

theorem set {index : Nat} {screen : Screen} {widget : ChatWidgetState} {writes : List Write}
    (hosting : Hosting app) (mounted : widget.mounted = true)
    (hosts : App.Hosts { app with
      screens := app.screens.set index { screen with chat := some widget }
      writes := app.writes ++ writes } widget) :
    Hosting { app with
      screens := app.screens.set index { screen with chat := some widget }
      writes := app.writes ++ writes } := by
  constructor
  · intro entry member other shown
    obtain ⟨changed, inside, rfl⟩ := List.mem_map.mp member
    rcases List.mem_or_eq_of_mem_set inside with old | rfl
    · obtain ⟨mounted, before⟩ := hosting.shown _ (List.mem_map_of_mem old) other shown
      exact ⟨mounted, before.mono rfl rfl (List.subset_append_left _ _)⟩
    · cases shown
      exact ⟨mounted, hosts⟩
  · intro other member
    obtain ⟨unmounted, before⟩ := hosting.gone other member
    exact ⟨unmounted, before.mono rfl rfl (List.subset_append_left _ _)⟩

theorem closed {screens : List Screen} {lost : List ChatWidgetState} {numberOfChat : Nat}
    (hosting : Hosting app)
    (fewer : ∀ screen ∈ screens, ∀ widget ∈ screen.chat, ∃ entry ∈ app.view, widget ∈ entry.2)
    (from_ : ∀ widget ∈ lost, ∃ entry ∈ app.view, ∃ before ∈ entry.2, widget = before.dispose) :
    Hosting { app with screens, numberOfChat, gone := app.gone ++ lost } := by
  constructor
  · intro entry member widget shown
    obtain ⟨screen, inside, rfl⟩ := List.mem_map.mp member
    obtain ⟨before, old, had⟩ := fewer screen inside widget shown
    obtain ⟨mounted, hosts⟩ := hosting.shown before old widget had
    exact ⟨mounted, hosts.mono rfl rfl fun _ member => member⟩
  · intro widget member
    rcases List.mem_append.mp member with old | new
    · obtain ⟨unmounted, hosts⟩ := hosting.gone widget old
      exact ⟨unmounted, hosts.mono rfl rfl fun _ member => member⟩
    · obtain ⟨entry, inside, before, had, rfl⟩ := from_ widget new
      obtain ⟨mounted, hosts⟩ := hosting.shown entry inside before had
      exact ⟨rfl, (hosts.dispose mounted).mono rfl rfl fun _ member => member⟩

theorem went (hosting : Hosting app) (taken : App.Went app action next) : Hosting next := by
  cases taken with
  | @append chat message newest =>
    exact @Hosting.map app _ (ChatWidgetState.onStored chat message) hosting (fun _ => rfl)
      (fun _ hosts => hosts.onStored newest rfl rfl rfl) rfl rfl
  | quote stored => exact hosting.sameView (·.quote stored) rfl rfl
  | setUser => exact hosting.sameView (·.setUser) rfl rfl
  | opened _ hidden =>
    refine hosting.frame (·.mono rfl rfl fun _ member => member) ?_ rfl
    intro entry member widget shown
    rcases List.mem_cons.mp member with rfl | old
    · simp [hidden] at shown
    · exact ⟨entry, old, shown⟩
  | @back top rest stack =>
    have view : app.view = (top.product, top.chat) ::
        rest.map fun screen => (screen.product, screen.chat) := by
      rw [App.view, stack, List.map_cons]
    refine hosting.closed ?_ ?_
    · intro screen member widget shown
      refine ⟨(screen.product, screen.chat), ?_, shown⟩
      rw [view]
      exact List.mem_cons_of_mem _ (List.mem_map_of_mem member)
    · intro widget member
      obtain ⟨before, had, rfl⟩ := Option.map_eq_some_iff.mp (Option.mem_toList.mp member)
      exact ⟨(top.product, top.chat), by simp [view], before, had, rfl⟩
  | flagged _ keeps =>
    exact hosting.sameView (·.mono rfl rfl fun _ member => member) (App.view_setState keeps) rfl
  | unanswered => exact hosting.sameView (·.mono rfl rfl fun _ member => member) rfl rfl
  | @unheard _ _ _ requests request answer =>
    have rest : Hosting { app with requests } :=
      hosting.sameView (·.mono rfl rfl fun _ member => member) rfl rfl
    exact rest.hear request answer
  | @replied _ _ _ requests request answer pushes _ =>
    have rest : Hosting { app with requests } :=
      hosting.sameView (·.mono rfl rfl fun _ member => member) rfl rfl
    exact (rest.hear request answer).replied request answer
  | @frame index screen found =>
    have mounted : app.subscribed.mounted = true := by
      unfold App.subscribed
      split
      · exact ChatWidgetState.onChatKey_mounted _ _ _
      · rfl
    have set := @Hosting.set app index screen app.subscribed [] hosting mounted
      ((App.Hosts.subscribed app).mono rfl rfl (List.subset_append_left _ _))
    exact set.sameView (·.mono rfl rfl (by simp)) rfl rfl
  | counted => exact hosting.sameView (·.mono rfl rfl fun _ member => member) rfl rfl
  | closed =>
    refine hosting.closed ?_ ?_
    · intro screen member widget shown
      have inside := App.mem_of_closeMessages member shown
      exact ⟨(screen.product, screen.chat), List.mem_map_of_mem inside, shown⟩
    · intro widget lost
      obtain ⟨screen, inside, before, had, rfl⟩ := App.disposed_of_closeMessages lost
      exact ⟨(screen.product, screen.chat), List.mem_map_of_mem inside, before, had, rfl⟩
  | chatSnapshot named => exact hosting.sameView (·.mono rfl rfl fun _ member => member) rfl rfl
  | @tap index chat found =>
    have told := hosting.push chat.key
    have writes : (app.push chat.key).writes = app.writes := by
      unfold App.push
      split <;> rfl
    refine told.sameView (·.mono rfl rfl ?_) rfl rfl
    rw [writes]
    exact List.subset_append_left _ _
  | @widget index screen widget after act writes found shown stepped =>
    have entry : (screen.product, screen.chat) ∈ app.view :=
      List.mem_map_of_mem (List.mem_of_getElem? found)
    obtain ⟨mounted, hosts⟩ := hosting.shown _ entry widget shown
    have kept := (ChatWidgetState.stepped_of_step stepped).mounted
    exact hosting.set (kept.trans mounted) (hosts.stepped stepped rfl rfl rfl)
  | @gone index widget after act writes found stepped =>
    constructor
    · intro entry member other shown
      obtain ⟨mounted, hosts⟩ := hosting.shown entry member other shown
      exact ⟨mounted, hosts.mono rfl rfl (List.subset_append_left _ _)⟩
    · intro other member
      rcases List.mem_or_eq_of_mem_set member with old | rfl
      · obtain ⟨unmounted, hosts⟩ := hosting.gone other old
        exact ⟨unmounted, hosts.mono rfl rfl (List.subset_append_left _ _)⟩
      · obtain ⟨unmounted, hosts⟩ := hosting.gone widget (List.mem_of_getElem? found)
        have kept := (ChatWidgetState.stepped_of_step stepped).mounted
        exact ⟨kept.trans unmounted, hosts.stepped stepped rfl rfl rfl⟩

end Hosting

def App.Has (app : App) (widget : ChatWidgetState) : Prop :=
  (∃ screen ∈ app.screens, widget ∈ screen.chat) ∨ widget ∈ app.gone

variable {db : Database} {user : Option Int} {actions : List AppAction} {final : App}

/-- In every run of the app, every ChatWidget is the one of a run of a room. -/
theorem hosts_of_run (reached : run App.step (App.start db user) actions = some final)
    {widget : ChatWidgetState} (has : final.Has widget) : final.Hosts widget := by
  have hosting := run_invariant_of_step Hosting
    (fun _ _ _ hosting taken => hosting.went (App.went_of_step taken))
    (Hosting.start db user) reached
  rcases has with ⟨screen, member, shown⟩ | gone
  · exact (hosting.shown _ (List.mem_map_of_mem member) widget shown).2
  · exact (hosting.gone widget gone).2

/-- No ChatWidget of the app shows a message that is not stored. -/
theorem messages_stored_of_run (reached : run App.step (App.start db user) actions = some final)
    {widget : ChatWidgetState} (has : final.Has widget) :
    ∀ message ∈ widget.messages, ∃ key, message ∈ (final.db (interpolate key)).stored := by
  obtain ⟨start, owner, steps, room, runs, around, rfl⟩ := hosts_of_run reached has
  rw [← around.db]
  exact (genuine_of_run runs).messages

end SparSomnong.Navigation
