import SparSomnong.Chat.History
import SparSomnong.Chat.Summary
import SparSomnong.Semantics.Simulation

/-! The widgets of all clients as views of one conversation.

As long as messages arrive in the order of their keys, a widget of the network goes
through a run of a room of its own: what the other clients send is what is appended
there. So what holds of every room holds of every widget, and two widgets on one
conversation show the same messages.
-/

set_option autoImplicit false

namespace SparSomnong.Chat

open Semantics

namespace Network

variable {owner : Nat → Nat} {index : Nat} {key : Option String} {network next : Network}
  {action : NetworkAction}

def storing (network : Network) : NetworkAction → Option Posting
  | .deliver client => (network.outbox client).head?.bind Write.posting
  | _ => none

/-- A message arrives after every message with a smaller key in its conversation. -/
def InOrder (network : Network) (action : NetworkAction) : Prop :=
  ∀ posting ∈ network.storing action,
    network.db.Newest (interpolate posting.chatKey) posting.message

instance (network : Network) (action : NetworkAction) : Decidable (network.InOrder action) :=
  inferInstanceAs (Decidable (∀ _ ∈ _, _))

def room (owner : Nat → Nat) (index : Nat) (network : Network) : Room :=
  { Room.start network.db (network.users (owner index)) with widget := network.widgets index }

/-- What an action of the network is to one widget. -/
def seenBy (owner : Nat → Nat) (index : Nat) (network : Network) (action : NetworkAction) :
    List RoomAction :=
  match action with
  | .setUser client user => if owner index = client then [.setUser user] else []
  | .chatKey other key => if other = index then [.chatKey key] else []
  | .widget other action => if other = index then [.widget action] else []
  | .dispose other => if other = index then [.dispose] else []
  | .deliver _ =>
    (network.storing action).toList.map fun posting =>
      .append (interpolate posting.chatKey) posting.message

/-- Messages arrive in order, and the widget is used in one conversation, undisturbed. -/
def Watched (owner : Nat → Nat) (index : Nat) (key : Option String) (network : Network)
    (action : NetworkAction) : Prop :=
  network.InOrder action ∧ ∀ seen ∈ network.seenBy owner index action,
    Loading.Undisturbed key { room := network.room owner index } seen

instance (owner : Nat → Nat) (index : Nat) (key : Option String) (network : Network)
    (action : NetworkAction) : Decidable (network.Watched owner index key action) :=
  inferInstanceAs (Decidable (_ ∧ ∀ _ ∈ _, _))

structure Mirrors (owner : Nat → Nat) (index : Nat) (network : Network) (room : Room) : Prop where
  widget : room.widget = network.widgets index
  user : room.user = network.users (owner index)
  stored : ∀ chat, (room.db chat).stored = (network.db chat).stored

def Follows (owner : Nat → Nat) (index : Nat) (network : Network) (loading : Loading) : Prop :=
  Mirrors owner index network loading.room

theorem mirrors_start (owner : Nat → Nat) (index : Nat) (db : Database) (users : Nat → Option Int) :
    Mirrors owner index (start db users) (Room.start db (users (owner index))) :=
  ⟨rfl, rfl, fun _ => rfl⟩

end Network

theorem ChatWidgetState.step_congr {db other : Database} (same : ∀ chat, (db chat).stored =
    (other chat).stored) (user : Option Int) (widget : ChatWidgetState) (action : WidgetAction) :
    widget.step db user action = widget.step other user action := by
  cases action <;> simp only [step, same]

/-- A message that arrives is appended as one of another client. -/
theorem Database.apply_messageWrite (db : Database) (posting : Posting) :
    db.apply posting.messageWrite = db.append (interpolate posting.chatKey) posting.message := rfl

namespace Network.Mirrors

variable {owner : Nat → Nat} {index : Nat} {key : Option String} {network next : Network}
  {action : NetworkAction} {room : Room}

theorem newest_iff (mirrors : Mirrors owner index network room) (chat : String)
    (message : Messages) : room.db.Newest chat message ↔ network.db.Newest chat message := by
  simp only [Database.Newest, mirrors.stored]

theorem kept (mirrors : Mirrors owner index network room) (same : next.db = network.db)
    (widget : next.widgets index = network.widgets index)
    (user : next.users (owner index) = network.users (owner index)) :
    Mirrors owner index next room := by
  refine ⟨mirrors.widget.trans widget.symm, mirrors.user.trans user.symm, ?_⟩
  rw [same]
  exact mirrors.stored

theorem delivered {client : Nat} (mirrors : Mirrors owner index network room)
    (inOrder : network.InOrder (.deliver client))
    (taken : network.step owner (.deliver client) = some next) :
    ∃ final, run Room.step room (network.seenBy owner index (.deliver client)) = some final ∧
      Mirrors owner index next final := by
  simp only [step] at taken
  split at taken
  · next write rest waiting =>
    cases taken
    cases stores : write.posting with
    | none =>
      have nothing : network.storing (.deliver client) = none := by simp [storing, waiting, stores]
      refine ⟨room, by simp [seenBy, nothing, run], mirrors.widget.trans ?_, mirrors.user, ?_⟩
      · simp [notify, stores]
      · intro chat
        rw [Database.stored_of_no_posting stores, mirrors.stored]
    | some posting =>
      obtain rfl := Write.posting_eq_some.mp stores
      have found : network.storing (.deliver client) = some posting := by
        simp [storing, waiting, stores]
      have newest := inOrder posting found
      have newestHere := (mirrors.newest_iff _ _).mpr newest
      refine ⟨{ room with
        db := room.db.append (interpolate posting.chatKey) posting.message
        widget := room.widget.onStored (interpolate posting.chatKey) posting.message }, ?_, ?_⟩
      · simp [seenBy, found, run, Room.step, newestHere]
      · refine ⟨?_, mirrors.user, fun chat => ?_⟩
        · simp only [notify, stores, newest, if_true, mirrors.widget]
        · simp only [Database.apply_messageWrite, Database.stored_append newest,
            Database.stored_append newestHere, mirrors.stored]
  · cases taken

/-- One step of the network is at most one step of the room. -/
theorem step (mirrors : Mirrors owner index network room) (inOrder : network.InOrder action)
    (taken : network.step owner action = some next) :
    ∃ final, run Room.step room (network.seenBy owner index action) = some final ∧
      Mirrors owner index next final := by
  cases action with
  | setUser client user =>
    cases taken
    by_cases own : owner index = client
    · refine ⟨{ room with user }, by simp [seenBy, own, run, Room.step], mirrors.widget, ?_,
        mirrors.stored⟩
      simp [own]
    · refine ⟨room, by simp [seenBy, own, run], mirrors.kept rfl rfl ?_⟩
      exact Function.update_of_ne own _ _
  | chatKey other key =>
    simp only [Network.step] at taken
    split at taken
    · next mounted =>
      cases taken
      by_cases here : other = index
      · subst here
        have mounted : room.widget.mounted = true := by rw [mirrors.widget, mounted]
        refine ⟨room.deliver key, by simp [seenBy, run, Room.step, mounted], ?_, mirrors.user,
          mirrors.stored⟩
        simp [Room.deliver, mirrors.widget, mirrors.user]
      · refine ⟨room, by simp [seenBy, here, run], mirrors.kept rfl ?_ rfl⟩
        exact Function.update_of_ne (Ne.symm here) _ _
    · cases taken
  | widget other act =>
    simp only [Network.step] at taken
    split at taken
    · split at taken
      · next widget writes stepped =>
        cases taken
        by_cases here : other = index
        · subst here
          have own : room.widget.step room.db room.user act = some (widget, writes) := by
            rw [ChatWidgetState.step_congr mirrors.stored, mirrors.widget, mirrors.user, stepped]
          refine ⟨room.note act writes { room with widget, writes := room.writes ++ writes },
            by simp [seenBy, run, Room.step, own], ?_, ?_, fun chat => ?_⟩
          · simp
          · simpa using mirrors.user
          · simpa using mirrors.stored chat
        · refine ⟨room, by simp [seenBy, here, run], mirrors.kept rfl ?_ rfl⟩
          exact Function.update_of_ne (Ne.symm here) _ _
      · cases taken
    · cases taken
  | dispose other =>
    simp only [Network.step] at taken
    split at taken
    · next mounted =>
      cases taken
      by_cases here : other = index
      · subst here
        have mounted : room.widget.mounted = true := by rw [mirrors.widget, mounted]
        refine ⟨{ room with widget := room.widget.dispose },
          by simp [seenBy, run, Room.step, mounted], ?_, mirrors.user, mirrors.stored⟩
        simp [mirrors.widget]
      · refine ⟨room, by simp [seenBy, here, run], mirrors.kept rfl ?_ rfl⟩
        exact Function.update_of_ne (Ne.symm here) _ _
    · cases taken
  | deliver client => exact mirrors.delivered inOrder taken

theorem undisturbed {loading : Loading} {seen : RoomAction}
    (mirrors : Mirrors owner index network loading.room)
    (member : seen ∈ network.seenBy owner index action)
    (calm : Loading.Undisturbed key { room := network.room owner index } seen) :
    loading.Undisturbed key seen := by
  have incoming : loading.room.incoming seen = (network.room owner index).incoming seen := by
    cases seen with
    | tap place =>
      cases action <;> simp only [seenBy] at member
      · split at member <;> simp at member
      · split at member <;> simp at member
      · split at member <;> simp at member
      · split at member <;> simp at member
      · simp at member
    | _ => rfl
  obtain ⟨⟨handed, paced⟩, quiet⟩ := calm
  refine ⟨⟨incoming ▸ handed, ?_⟩, ?_⟩
  · intro scroll
    rw [mirrors.widget, Room.stored, mirrors.stored]
    exact paced scroll
  · intro stores
    rw [mirrors.widget]
    exact quiet stores

end Network.Mirrors

theorem Loading.run_of_room {key : Option String} {loading : Loading} {final : Room}
    {actions : List RoomAction} (reached : run Room.step loading.room actions = some final) :
    ∃ last, run (Loading.step key) loading actions = some last ∧ last.room = final := by
  induction actions generalizing loading with
  | nil =>
    cases reached
    exact ⟨loading, rfl, rfl⟩
  | cons action rest ih =>
    obtain ⟨next, taken, tail⟩ := run_cons_eq_some.mp reached
    have noted : (loading.note key next action).room = next := by
      cases action with
      | widget act => cases act <;> rfl
      | _ => rfl
    obtain ⟨last, onward, same⟩ := ih (noted.symm ▸ tail)
    exact ⟨last, run_cons_eq_some.mpr ⟨_, by simp [step, taken], onward⟩, same⟩

namespace Network

variable {owner : Nat → Nat} {index : Nat} {key : Option String} {db : Database}
  {users : Nat → Option Int} {actions : List NetworkAction} {final : Network}

theorem seenBy_length (owner : Nat → Nat) (index : Nat) (network : Network)
    (action : NetworkAction) : (network.seenBy owner index action).length ≤ 1 := by
  cases action <;> simp only [seenBy]
  · split <;> simp
  · split <;> simp
  · split <;> simp
  · split <;> simp
  · rw [List.length_map]
    exact Option.length_toList_le

/-- While messages arrive in the order of their keys, every widget of the network goes
through a run of a room, with what the others send as what is appended. -/
theorem widget_of_room
    (meets : Meets (step owner) InOrder (start db users) actions)
    (reached : run (step owner) (start db users) actions = some final) (index : Nat) :
    ∃ room, run Room.step (Room.start db (users (owner index)))
        (interpret (step owner) (seenBy owner index) (start db users) actions) = some room ∧
      room.widget = final.widgets index ∧ ∀ chat, (room.db chat).stored = (final.db chat).stored := by
  have matched : Matched Room.step (fun _ _ => True) (Mirrors owner index final)
      (Room.start db (users (owner index)))
      (interpret (step owner) (seenBy owner index) (start db users) actions) := by
    refine run_simulates ?_ (mirrors_start owner index db users) meets reached
    intro network room action next mirrors inOrder taken
    exact ⟨mirrors.step inOrder taken, meets_true _ _⟩
  obtain ⟨room, mirrored, mirrors⟩ := matched.reached
  exact ⟨room, mirrored, mirrors.widget, mirrors.stored⟩

theorem loading_of_watched
    (meets : Meets (step owner) (Watched owner index key) (start db users) actions)
    (reached : run (step owner) (start db users) actions = some final) :
    ∃ seen last, Meets (Loading.step key) (Loading.Undisturbed key)
        (Loading.start db (users (owner index))) seen ∧
      run (Loading.step key) (Loading.start db (users (owner index))) seen = some last ∧
      Follows owner index final last := by
  have matched : Matched (Loading.step key) (Loading.Undisturbed key)
      (Follows owner index final)
      (Loading.start db (users (owner index)))
      (interpret (step owner) (seenBy owner index) (start db users) actions) := by
    have begin : Follows owner index (start db users) (Loading.start db (users (owner index))) :=
      mirrors_start owner index db users
    refine run_simulates ?_ begin meets reached
    intro network loading action next mirrors watched taken
    obtain ⟨room, mirrored, onward⟩ := Mirrors.step mirrors watched.1 taken
    obtain ⟨last, noted, rfl⟩ := @Loading.run_of_room key _ _ _ mirrored
    refine ⟨⟨last, noted, onward⟩, meets_of_length (seenBy_length owner index network action) ?_⟩
    intro seen member
    exact Mirrors.undisturbed mirrors member (watched.2 seen member)
  obtain ⟨last, noted, mirrors⟩ := matched.reached
  exact ⟨_, last, matched.meets, noted, mirrors⟩

/-- Two widgets on one conversation, on the same or on different devices, that have been
handed all there is show the same messages: the one that has loaded fewer pages shows the
end of what the other one shows. -/
theorem views_agree {other : Nat}
    (first : Meets (step owner) (Watched owner index key) (start db users) actions)
    (second : Meets (step owner) (Watched owner other key) (start db users) actions)
    (reached : run (step owner) (start db users) actions = some final)
    (caughtUp : (final.room owner index).CaughtUp key)
    (caughtUpToo : (final.room owner other).CaughtUp key) :
    ((final.widgets index).messages <:+ (final.widgets other).messages ∨
      (final.widgets other).messages <:+ (final.widgets index).messages) ∧
    (final.widgets index).messages <:+ (final.db (interpolate key)).stored ∧
    (final.widgets other).messages <:+ (final.db (interpolate key)).stored := by
  have shown : ∀ {index : Nat},
      Meets (step owner) (Watched owner index key) (start db users) actions →
      (final.room owner index).CaughtUp key →
      (final.widgets index).messages <:+ (final.db (interpolate key)).stored := by
    intro index watched caughtUp
    obtain ⟨seen, last, calm, noted, mirrors⟩ := loading_of_watched watched reached
    have delivered : last.room.CaughtUp key := by
      rw [Room.CaughtUp, mirrors.widget]
      exact caughtUp
    have whole := ((extent_of_run calm noted).shown_of_caughtUp delivered)
    rw [mirrors.widget, Room.stored, mirrors.stored] at whole
    exact whole ▸ List.drop_suffix _ _
  exact ⟨List.suffix_or_suffix_of_suffix (shown first caughtUp) (shown second caughtUpToo),
    shown first caughtUp, shown second caughtUpToo⟩

def bothTold : List NetworkAction :=
  [.chatKey 0 (some "a"), .chatKey 1 (some "a"), .widget 0 (.firstReadServed 0),
   .widget 0 (.firstReadDone 0 [sample "k2", sample "k1"]), .widget 0 (.subscribed 0),
   .widget 1 (.firstReadServed 0), .widget 1 (.firstReadDone 0 [sample "k1", sample "k2"]),
   .widget 1 (.subscribed 0), .widget 0 (.send "hello" 0 "k3"), .deliver 0,
   .widget 1 (.childAdded 0), .widget 1 (.childAdded 0), .widget 0 (.childAdded 0),
   .widget 0 (.childAdded 0)]

theorem bothTold_views :
    ∃ final, run (step id) (start twoChats fun _ => some 7) bothTold = some final ∧
      (final.widgets 0).messages = [sample "k1", sample "k2", sample "k3"] ∧
      ((final.widgets 0).messages <:+ (final.widgets 1).messages ∨
        (final.widgets 1).messages <:+ (final.widgets 0).messages) := by
  have found : (run (step id) (start twoChats fun _ => some 7) bothTold).any (fun final =>
      decide ((final.widgets 0).messages = [sample "k1", sample "k2", sample "k3"] ∧
        (final.room id 0).CaughtUp (some "a") ∧ (final.room id 1).CaughtUp (some "a"))) = true := by
    decide
  obtain ⟨final, reached, test⟩ := exists_of_run found
  obtain ⟨shown, caughtUp, caughtUpToo⟩ := of_decide_eq_true test
  have agree := views_agree (by decide : Meets (step id) (Watched id 0 (some "a")) _ bothTold)
    (by decide : Meets (step id) (Watched id 1 (some "a")) _ bothTold) reached caughtUp caughtUpToo
  exact ⟨final, reached, shown, agree.1⟩

theorem bothTold_room :
    ∃ final room, run (step id) (start twoChats fun _ => some 7) bothTold = some final ∧
      run Room.step (Room.start twoChats (some 7))
        (interpret (step id) (seenBy id 1) (start twoChats fun _ => some 7) bothTold) = some room ∧
      room.widget = final.widgets 1 := by
  have found : (run (step id) (start twoChats fun _ => some 7) bothTold).any (fun _ => true) =
      true := by decide
  obtain ⟨final, reached, -⟩ := exists_of_run found
  have inOrder : Meets (step id) InOrder (start twoChats fun _ => some 7) bothTold := by decide
  obtain ⟨room, mirrored, widget, -⟩ := widget_of_room inOrder reached 1
  exact ⟨final, room, reached, mirrored, widget⟩

end Network

end SparSomnong.Chat
