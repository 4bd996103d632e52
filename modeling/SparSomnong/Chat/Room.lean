import SparSomnong.Chat.Widget
import SparSomnong.Semantics.Run

/-! One ChatWidget with the database, the chat list and the user around it.

Remote clients append messages with keys above all stored ones and then quote
them in `lastMessage`. The server answers a read with a snapshot taken at one
instant between the call and the reply, and a live subscription with the child
that is last when it is established and then with every later one.
-/

set_option autoImplicit false

namespace SparSomnong.Chat

open Semantics

structure ChatResponse where
  key : Option String
  lastMessage : Option LastMessage
  deriving DecidableEq, Repr

/-- The write of a tap on a ChatItem. The test before it is true of every key;
a missing user or a missing `lastMessage` throws. -/
def ChatResponse.onTap (user : Option Int) (chat : ChatResponse) : List Write :=
  if chat.key ≠ none ∨ chat.key ≠ some "" then
    match user, chat.lastMessage with
    | some id, some last => [⟨chat.key, .lastSeen id last.key⟩]
    | _, _ => []
  else []

theorem ChatResponse.onTap_cases (user : Option Int) (chat : ChatResponse) :
    chat.onTap user = [] ∨ ∃ id last, user = some id ∧ chat.lastMessage = some last ∧
      chat.onTap user = [⟨chat.key, .lastSeen id last.key⟩] := by
  have always : chat.key ≠ none ∨ chat.key ≠ some "" := by
    by_cases absent : chat.key = none
    · exact Or.inr (by simp [absent])
    · exact Or.inl absent
  unfold onTap
  rw [if_pos always]
  cases user with
  | none => exact Or.inl rfl
  | some id =>
    cases present : chat.lastMessage with
    | none => exact Or.inl rfl
    | some last => exact Or.inr ⟨id, last, rfl, rfl, rfl⟩

/-- What the widget shows at some moment: the conversation whose first-time read
last filled `messages`, and `messages`. -/
structure Display where
  shown : Option (Option String)
  messages : List Messages
  deriving DecidableEq, Repr

/-- A write of a send path, with the display when the user acted. -/
structure Sent where
  display : Display
  write : Write
  deriving DecidableEq, Repr

/-- The fields from `delivered` on are history: no step reads them. -/
structure Room where
  db : Database
  user : Option Int
  widget : ChatWidgetState
  chats : List ChatResponse
  writes : List Write
  delivered : Option (Option String)
  shown : Option (Option String)
  asked : Nat → Display
  sent : List Sent

inductive RoomAction where
  | append (chat : String) (message : Messages)
  | quote (chat : String) (message : Messages)
  | setUser (user : Option Int)
  | chatKey (key : Option String)
  | chatSnapshot (keys : List String)
  | tap (index : Nat)
  | widget (action : WidgetAction)
  | dispose
  deriving DecidableEq, Repr

namespace Room

def start (db : Database) (user : Option Int) : Room :=
  ⟨db, user, {}, [], [], none, none, fun _ => ⟨none, []⟩, []⟩

def display (room : Room) : Display := ⟨room.shown, room.widget.messages⟩

def stored (room : Room) (key : Option String) : List Messages :=
  (room.db (interpolate key)).stored

def deliver (room : Room) (key : Option String) : Room :=
  { room with widget := room.widget.onChatKey room.user key, delivered := some key }

/-- The history of a widget step: which read fills `messages`, what is on
display when a send is started, and what the finished sends wrote. -/
def note (room : Room) (action : WidgetAction) (writes : List Write) (next : Room) : Room :=
  match action with
  | .firstReadDone index _ =>
    { next with shown := (room.widget.firstReads[index]?).map FirstRead.chatKey }
  | .send .. => { next with sent := room.sent ++ writes.map fun write => ⟨room.display, write⟩ }
  | .choose _ =>
    { next with asked := Function.update room.asked room.widget.nextUpload room.display }
  | .uploadDone index .. =>
    match room.widget.uploads[index]? with
    | some upload =>
      { next with sent := room.sent ++ writes.map fun write => ⟨room.asked upload.id, write⟩ }
    | none => next
  | _ => next

def step (room : Room) : RoomAction → Option Room
  | .append chat message =>
    if room.db.Newest chat message then
      some { room with
        db := room.db.append chat message
        widget := room.widget.onStored chat message }
    else none
  | .quote chat message =>
    if message ∈ (room.db chat).stored then some { room with db := room.db.quote chat message }
    else none
  | .setUser user => some { room with user }
  | .chatKey key => if room.widget.mounted then some (room.deliver key) else none
  | .chatSnapshot keys =>
    some { room with chats := keys.map fun key => ⟨some key, (room.db key).lastMessage⟩ }
  | .tap index =>
    match room.chats[index]? with
    | some chat =>
      -- the write does not depend on whether a widget listens
      let told := if room.widget.mounted then room.deliver chat.key else room
      some { told with writes := room.writes ++ chat.onTap room.user }
    | none => none
  | .widget action =>
    match room.widget.step room.db room.user action with
    | some (widget, writes) =>
      some (room.note action writes { room with widget, writes := room.writes ++ writes })
    | none => none
  | .dispose =>
    if room.widget.mounted then some { room with widget := room.widget.dispose } else none

inductive Moved (room : Room) : RoomAction → Room → Prop where
  | append {chat : String} {message : Messages} : room.db.Newest chat message →
      Moved room (.append chat message) { room with
        db := room.db.append chat message
        widget := room.widget.onStored chat message }
  | quote {chat : String} {message : Messages} : message ∈ (room.db chat).stored →
      Moved room (.quote chat message) { room with db := room.db.quote chat message }
  | setUser {user : Option Int} : Moved room (.setUser user) { room with user }
  | chatKey {key : Option String} : room.widget.mounted = true →
      Moved room (.chatKey key) (room.deliver key)
  | chatSnapshot {keys : List String} : Moved room (.chatSnapshot keys) { room with
      chats := keys.map fun key => ⟨some key, (room.db key).lastMessage⟩ }
  | tap {index : Nat} {chat : ChatResponse} : room.chats[index]? = some chat →
      room.widget.mounted = true →
      Moved room (.tap index)
        { room.deliver chat.key with writes := room.writes ++ chat.onTap room.user }
  | tapLate {index : Nat} {chat : ChatResponse} : room.chats[index]? = some chat →
      room.widget.mounted = false →
      Moved room (.tap index) { room with writes := room.writes ++ chat.onTap room.user }
  | widget {action : WidgetAction} {next : ChatWidgetState} {writes : List Write} :
      ChatWidgetState.Stepped room.db room.user room.widget action next writes →
      Moved room (.widget action)
        (room.note action writes { room with widget := next, writes := room.writes ++ writes })
  | dispose : room.widget.mounted = true →
      Moved room .dispose { room with widget := room.widget.dispose }

theorem moved_of_step {room next : Room} {action : RoomAction}
    (taken : room.step action = some next) : Moved room action next := by
  cases action with
  | append chat message =>
    simp only [step] at taken
    split at taken
    · next newest =>
      cases taken
      exact .append newest
    · cases taken
  | quote chat message =>
    simp only [step] at taken
    split at taken
    · next member =>
      cases taken
      exact .quote member
    · cases taken
  | setUser user =>
    cases taken
    exact .setUser
  | chatKey key =>
    simp only [step] at taken
    split at taken
    · next mounted =>
      cases taken
      exact .chatKey mounted
    · cases taken
  | chatSnapshot keys =>
    cases taken
    exact .chatSnapshot
  | tap index =>
    simp only [step] at taken
    split at taken
    · next chat found =>
      cases taken
      cases mounted : room.widget.mounted with
      | true => exact .tap found mounted
      | false => exact .tapLate found mounted
    · cases taken
  | widget action =>
    simp only [step] at taken
    split at taken
    · next widget writes stepped =>
      cases taken
      exact .widget (ChatWidgetState.stepped_of_step stepped)
    · cases taken
  | dispose =>
    simp only [step] at taken
    split at taken
    · next mounted =>
      cases taken
      exact .dispose mounted
    · cases taken

theorem note_state (room : Room) (action : WidgetAction) (writes : List Write) (next : Room) :
    (room.note action writes next).db = next.db ∧
    (room.note action writes next).widget = next.widget ∧
    (room.note action writes next).chats = next.chats ∧
    (room.note action writes next).writes = next.writes ∧
    (room.note action writes next).delivered = next.delivered ∧
    (room.note action writes next).user = next.user := by
  cases action with
  | uploadDone index outcome now newKey =>
    simp only [note]
    split <;> simp
  | _ => simp [note]

@[simp] theorem note_db (room : Room) (action : WidgetAction) (writes : List Write)
    (next : Room) : (room.note action writes next).db = next.db :=
  (room.note_state action writes next).1

@[simp] theorem note_widget (room : Room) (action : WidgetAction) (writes : List Write)
    (next : Room) : (room.note action writes next).widget = next.widget :=
  (room.note_state action writes next).2.1

@[simp] theorem note_chats (room : Room) (action : WidgetAction) (writes : List Write)
    (next : Room) : (room.note action writes next).chats = next.chats :=
  (room.note_state action writes next).2.2.1

@[simp] theorem note_writes (room : Room) (action : WidgetAction) (writes : List Write)
    (next : Room) : (room.note action writes next).writes = next.writes :=
  (room.note_state action writes next).2.2.2.1

@[simp] theorem note_delivered (room : Room) (action : WidgetAction) (writes : List Write)
    (next : Room) : (room.note action writes next).delivered = next.delivered :=
  (room.note_state action writes next).2.2.2.2.1

@[simp] theorem note_user (room : Room) (action : WidgetAction) (writes : List Write)
    (next : Room) : (room.note action writes next).user = next.user :=
  (room.note_state action writes next).2.2.2.2.2

@[simp] theorem note_stored (room : Room) (action : WidgetAction) (writes : List Write)
    (next : Room) (key : Option String) :
    (room.note action writes next).stored key = next.stored key := by
  simp [stored]

theorem Moved.stored_mono {room next : Room} {action : RoomAction} (moved : Moved room action next)
    {key : Option String} {message : Messages} (member : message ∈ room.stored key) :
    message ∈ next.stored key := by
  cases moved with
  | @append chat added newest =>
    simp only [stored, Database.stored_append newest]
    split
    · next same => exact List.mem_append_left _ (same ▸ member)
    · exact member
  | quote quoted =>
    simp only [stored, Database.stored_quote]
    exact member
  | widget stepped =>
    rw [note_stored]
    exact member
  | setUser => exact member
  | chatKey mounted => exact member
  | chatSnapshot => exact member
  | tap found mounted => exact member
  | tapLate found unmounted => exact member
  | dispose mounted => exact member

/-- The key an action hands to the widget. -/
def incoming (room : Room) : RoomAction → Option (Option String)
  | .chatKey key => some key
  | .tap index => if room.widget.mounted then (room.chats[index]?).map ChatResponse.key else none
  | _ => none

theorem incoming_tap {room : Room} {index : Nat} {chat : ChatResponse}
    (found : room.chats[index]? = some chat) (mounted : room.widget.mounted = true) :
    room.incoming (.tap index) = some chat.key := by
  simp [incoming, mounted, found]

def returning (room : Room) : RoomAction → Option PreviousRead
  | .widget (.previousReadDone index _) => room.widget.previousReads[index]?
  | _ => none

end Room

def sample (key : String) : Messages := ⟨key, ⟨some "hello", 0, 1⟩, 7⟩

def twoChats : Database
  | "a" => Conversation.ofLog [sample "k1", sample "k2"] (by decide)
  | "b" => Conversation.ofLog [sample "k3", sample "k4"] (by decide)
  | _ => Conversation.empty

end SparSomnong.Chat
