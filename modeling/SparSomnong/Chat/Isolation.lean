import SparSomnong.Chat.Keyed
import SparSomnong.Chat.Lane
import SparSomnong.Chat.Sourced

/-! Switching conversations.

The handler of a key sets `oldKey`, waits for a read, and then fills `messages`
and the subscription slot without looking at the key again. Two loads that
overlap therefore mix two conversations; loads that do not overlap keep them
apart, in every run.
-/

set_option autoImplicit false

namespace SparSomnong.Chat

open Semantics

def PreviousRead.Empty (read : PreviousRead) : Prop :=
  ∀ snapshot ∈ read.snapshot, snapshot.length ≤ 1

instance (read : PreviousRead) : Decidable read.Empty :=
  inferInstanceAs (Decidable (∀ _ ∈ _, _))

/-- A new key arrives between two loads, with a user logged in. A page that adds
something to a mounted widget arrives while its conversation is current, or
before a pending load replaces it. -/
def Room.Orderly (room : Room) (action : RoomAction) : Prop :=
  (∀ key ∈ room.incoming action, key ≠ room.widget.oldKey →
    room.widget.firstReads = [] ∧ room.user ≠ none) ∧
  ∀ read ∈ room.returning action, room.widget.mounted = true →
    read.Empty ∨ read.chatKey = room.widget.oldKey ∨ room.widget.firstReads ≠ []

instance (room : Room) (action : RoomAction) : Decidable (room.Orderly action) :=
  inferInstanceAs (Decidable (_ ∧ _))

theorem page_of_empty {chatKey : Option String} {bound : String}
    {response snapshot : List Messages}
    (empty : PreviousRead.Empty ⟨chatKey, bound, some snapshot⟩) (same : response.Perm snapshot) :
    (sortByKey Messages.key response).dropLast = [] := by
  have short : snapshot.length ≤ 1 := empty snapshot rfl
  rw [← List.length_eq_zero_iff, List.length_dropLast, sortByKey, List.length_insertionSort,
    same.length_eq]
  omega

/-- What an orderly run keeps. While a load is pending, `messages` may still
hold the previous conversation. -/
structure Tidy (room : Room) : Prop where
  lane : Lane room.widget
  keyed : Keyed (fun _ => True) room.widget
  sourced : room.Sourced
  current : ∀ key, room.delivered = some key →
    room.widget.chatKey = key ∧ room.widget.oldKey = key
  visible : room.widget.subscriptions ≠ [] ∨ room.widget.previousReads ≠ [] →
    room.widget.messageStream.value = some ()
  own : room.widget.mounted = true → room.widget.firstReads = [] →
    ∀ message ∈ room.widget.messages, message ∈ room.stored room.widget.oldKey
  shown : room.widget.firstReads = [] → room.widget.messageStream.value = some () →
    room.shown = some room.widget.oldKey

namespace Tidy

variable {room next : Room} {action : RoomAction}

theorem start (db : Database) (user : Option Int) : Tidy (Room.start db user) :=
  ⟨Lane.start, Keyed.start, Chat.Sourced.start, by simp [Room.start], by simp [Room.start],
    by simp [Room.start], by simp [Room.start]⟩

theorem deliver {key : Option String} {chats : List ChatResponse} {writes : List Write}
    (tidy : Tidy room)
    (free : key ≠ room.widget.oldKey → room.widget.firstReads = [] ∧ room.user ≠ none) :
    Tidy { room.deliver key with chats, writes } := by
  have lane : Lane (room.widget.onChatKey room.user key) :=
    tidy.lane.onChatKey fun switch => (free switch).1
  have keyed : Keyed (fun _ => True) (room.widget.onChatKey room.user key) :=
    tidy.keyed.onChatKey trivial
  have sourced : Sourced (fun other message => message ∈ room.stored other)
      (room.widget.onChatKey room.user key) := Sourced.onChatKey tidy.sourced
  by_cases same : key = room.widget.oldKey
  · have kept : room.widget.onChatKey room.user key = { room.widget with chatKey := key } :=
      ChatWidgetState.onChatKey_same same
    refine ⟨lane, keyed, sourced, ?_, ?_, ?_, ?_⟩ <;> simp only [Room.deliver, kept]
    · intro other handed
      cases handed
      exact ⟨rfl, same.symm⟩
    · exact tidy.visible
    · exact tidy.own
    · exact tidy.shown
  · obtain ⟨idle, logged⟩ := free same
    obtain ⟨id, owner⟩ := Option.ne_none_iff_exists'.mp logged
    have kept := @ChatWidgetState.onChatKey_switch room.user key room.widget same
    -- the load that was just asked for makes the last two fields vacuous
    have asked : (room.widget.onChatKey room.user key).firstReads ≠ [] := by
      rw [kept]
      simp [ChatWidgetState.askedFirst, owner]
    refine ⟨lane, keyed, sourced, ?_, ?_, ?_, ?_⟩
    · intro other handed
      cases handed
      simp [Room.deliver, kept]
    · simp only [Room.deliver, kept, tidy.lane.cancelNoteAdded_subscriptions]
      intro started
      exact tidy.visible (started.imp_left fun absurd => absurd.elim rfl)
    · exact fun _ idle => absurd idle asked
    · exact fun idle => absurd idle asked

theorem firstRead_stored {index : Nat} {chatKey : Option String} {response snapshot : List Messages}
    (tidy : Tidy room) (found : room.widget.firstReads[index]? = some ⟨chatKey, some snapshot⟩)
    (same : response.Perm snapshot) :
    ∀ message ∈ (sortByKey Messages.key response).dropLast,
      message ∈ room.stored room.widget.oldKey := by
  have key := tidy.lane.reads _ (List.mem_of_getElem? found)
  have stored := tidy.sourced.reads _ (List.mem_of_getElem? found) snapshot rfl
  intro message member
  have inside := mem_sortByKey.mp (List.mem_of_mem_dropLast member)
  exact key ▸ stored message (same.subset inside)

theorem childAdded_stored {index id : Nat} {chatKey : Option String} {established : Bool}
    {event : Messages} {queue : List Messages} (tidy : Tidy room)
    (found : room.widget.subscriptions[index]? = some ⟨id, chatKey, established, event :: queue⟩) :
    event ∈ room.stored room.widget.oldKey := by
  have key := (tidy.lane.subscriptions _ (List.mem_of_getElem? found)).1
  have stored := tidy.sourced.queues _ (List.mem_of_getElem? found)
  exact key ▸ stored event List.mem_cons_self

theorem previousRead_stored {index : Nat} {chatKey : Option String} {bound : String}
    {response snapshot : List Messages} (tidy : Tidy room)
    (found : room.widget.previousReads[index]? = some ⟨chatKey, bound, some snapshot⟩)
    (same : response.Perm snapshot) (key : chatKey = room.widget.oldKey) :
    ∀ message ∈ (sortByKey Messages.key response).dropLast,
      message ∈ room.stored room.widget.oldKey := by
  have stored := tidy.sourced.pages _ (List.mem_of_getElem? found) snapshot rfl
  intro message member
  have inside := mem_sortByKey.mp (List.mem_of_mem_dropLast member)
  exact key ▸ stored message (same.subset inside)

theorem stepped {action : WidgetAction} {widget : ChatWidgetState} {writes : List Write}
    (tidy : Tidy room)
    (orderly : ∀ read ∈ room.returning (.widget action), room.widget.mounted = true →
      read.Empty ∨ read.chatKey = room.widget.oldKey ∨ room.widget.firstReads ≠ [])
    (taken : ChatWidgetState.Stepped room.db room.user room.widget action widget writes) :
    Tidy (room.note action writes { room with widget, writes := room.writes ++ writes }) := by
  have lane := tidy.lane.stepped taken
  have keyed := (tidy.keyed.stepped taken).1
  have sourced := Room.Sourced.moved tidy.sourced (.widget taken)
  have keys := Keyed.keys_of_stepped taken
  have current : ∀ key, room.delivered = some key → widget.chatKey = key ∧ widget.oldKey = key := by
    intro key handed
    rw [keys.1, keys.2]
    exact tidy.current key handed
  suffices rest : (widget.subscriptions ≠ [] ∨ widget.previousReads ≠ [] →
        widget.messageStream.value = some ()) ∧
      (widget.mounted = true → widget.firstReads = [] → ∀ message ∈ widget.messages,
        message ∈ room.stored room.widget.oldKey) ∧
      (widget.firstReads = [] → widget.messageStream.value = some () →
        (room.note action writes
          { room with widget, writes := room.writes ++ writes }).shown =
            some room.widget.oldKey) by
    obtain ⟨visible, own, shown⟩ := rest
    refine ⟨?_, ?_, sourced, ?_, ?_, ?_, ?_⟩ <;> simp only [Room.note_widget, Room.note_delivered]
    · exact lane
    · exact keyed
    · exact current
    · exact visible
    · rw [keys.2]
      simp only [Room.note_stored]
      exact own
    · rw [keys.2]
      exact shown
  cases taken with
  | firstReadServed found =>
    obtain ⟨only, rfl, none⟩ := tidy.lane.alone found
    exact ⟨tidy.visible, by simp [only], by simp [only]⟩
  | @firstReadDone index chatKey response snapshot found same =>
    have key := tidy.lane.reads _ (List.mem_of_getElem? found)
    have own := tidy.firstRead_stored found same
    cases closed : room.widget.messageStream.closed with
    | false =>
      rw [ChatWidgetState.finishFirstTime_open]
      · exact ⟨fun _ => rfl, fun _ _ => own, fun _ _ => by simp [Room.note, found, key.symm]⟩
      · exact closed
    | true =>
      rw [ChatWidgetState.finishFirstTime_closed]
      · exact ⟨tidy.visible, fun _ _ => own, fun _ _ => by simp [Room.note, found, key.symm]⟩
      · exact closed
  | subscribed found =>
    obtain ⟨only, rfl, idle⟩ := tidy.lane.aloneSubscription found
    have value := tidy.visible (Or.inl (by simp [only]))
    exact ⟨fun _ => value, tidy.own, tidy.shown⟩
  | childAdded found mounted handled =>
    obtain ⟨only, rfl, idle⟩ := tidy.lane.aloneSubscription found
    have value := tidy.visible (Or.inl (by simp [only]))
    have opened : room.widget.messageStream.closed = false := by simp [tidy.lane.stream, mounted]
    rw [ChatWidgetState.listenToRealTimeChat_open] at handled
    · cases handled
      refine ⟨fun _ => rfl, fun _ _ message member => ?_, fun _ _ => tidy.shown idle value⟩
      rcases List.mem_append.mp member with old | added
      · exact tidy.own mounted idle message old
      · rw [List.mem_singleton.mp added]
        exact tidy.childAdded_stored found
    · exact opened
  | childAddedLate found unmounted =>
    obtain ⟨only, rfl, idle⟩ := tidy.lane.aloneSubscription found
    have value := tidy.visible (Or.inl (by simp [only]))
    exact ⟨fun _ => value, tidy.own, tidy.shown⟩
  | scrollToTop visible =>
    simp only [ChatWidgetState.composer, BehaviorSubject.hasValue, Bool.and_eq_true] at visible
    obtain ⟨event, value⟩ := Option.isSome_iff_exists.mp visible.2
    exact ⟨fun _ => value, tidy.own, tidy.shown⟩
  | previousReadServed found =>
    have value := tidy.visible (Or.inr fun none => by simp [none] at found)
    exact ⟨fun _ => value, tidy.own, tidy.shown⟩
  | @previousReadDone index chatKey bound response snapshot found same =>
    have value := tidy.visible (Or.inr fun none => by simp [none] at found)
    have unmoved := (ChatWidgetState.Stepped.previousReadDone found same :
      ChatWidgetState.Stepped room.db room.user room.widget _ _ _).mounted
    rw [unmoved, (ChatWidgetState.listenToPreviousChat_frame response _).1,
      ChatWidgetState.listenToPreviousChat_messages]
    refine ⟨fun _ => ChatWidgetState.listenToPreviousChat_value response value, ?_,
      fun idle _ => tidy.shown idle value⟩
    intro mounted idle message member
    rcases List.mem_append.mp member with added | old
    · rcases orderly _ found mounted with empty | key | busy
      · rw [page_of_empty empty same] at added
        cases added
      · exact tidy.previousRead_stored found same key message added
      · exact absurd idle busy
    · exact tidy.own mounted idle message old
  | send visible owner => exact ⟨tidy.visible, tidy.own, tidy.shown⟩
  | sendWithoutUser visible owner => exact ⟨tidy.visible, tidy.own, tidy.shown⟩
  | choose visible => exact ⟨tidy.visible, tidy.own, tidy.shown⟩
  | uploadDone found owner =>
    exact ⟨tidy.visible, tidy.own, by simpa [Room.note, found] using tidy.shown⟩
  | uploadWithoutUser found owner =>
    exact ⟨tidy.visible, tidy.own, by simpa [Room.note, found] using tidy.shown⟩

theorem moved (tidy : Tidy room) (orderly : room.Orderly action)
    (taken : Room.Moved room action next) : Tidy next := by
  have sourced := Room.Sourced.moved tidy.sourced taken
  have grown := fun (message : Messages) (member : message ∈ room.stored room.widget.oldKey) =>
    taken.stored_mono member
  cases taken with
  | append newest =>
    refine ⟨tidy.lane.onStored, tidy.keyed.onStored, sourced, tidy.current, ?_, ?_, tidy.shown⟩
    · intro started
      exact tidy.visible (started.imp_left fun some => by
        simpa [ChatWidgetState.onStored] using some)
    · exact fun mounted idle message member => grown message (tidy.own mounted idle message member)
  | quote quoted =>
    exact ⟨tidy.lane, tidy.keyed, sourced, tidy.current, tidy.visible,
      fun mounted idle message member => grown message (tidy.own mounted idle message member),
      tidy.shown⟩
  | setUser => exact ⟨tidy.lane, tidy.keyed, sourced, tidy.current, tidy.visible, tidy.own, tidy.shown⟩
  | chatKey mounted => exact tidy.deliver (orderly.1 _ rfl)
  | chatSnapshot =>
    exact ⟨tidy.lane, tidy.keyed, sourced, tidy.current, tidy.visible, tidy.own, tidy.shown⟩
  | tap found mounted => exact tidy.deliver (orderly.1 _ (Room.incoming_tap found mounted))
  | tapLate found unmounted =>
    exact ⟨tidy.lane, tidy.keyed, sourced, tidy.current, tidy.visible, tidy.own, tidy.shown⟩
  | widget stepped => exact tidy.stepped orderly.2 stepped
  | dispose mounted =>
    refine ⟨tidy.lane.dispose, tidy.keyed.dispose, sourced, tidy.current, ?_,
      (fun still => by cases still), tidy.shown⟩
    intro started
    refine tidy.visible (started.imp_left fun some none => some ?_)
    simp [ChatWidgetState.dispose, ChatWidgetState.cancelNoteAdded, none]

end Tidy

/-! ## Conversations stay apart -/

structure Room.Showing (room : Room) (key : Option String) : Prop where
  own : ∀ message ∈ room.widget.messages, message ∈ room.stored key
  live : ∃ sub, room.widget.subscriptions = [sub] ∧ sub.chatKey = key ∧
    room.widget.onNoteAddedSubscription = some sub.id
  later : ∀ index next, room.step (.widget (.childAdded index)) = some next →
    ∃ message ∈ room.stored key, next.widget.messages = room.widget.messages ++ [message]

/-- With no load pending the widget shows the key handed over last; after
`dispose` nothing is live and nothing was added to the closed stream. -/
def Room.Isolated (room : Room) : Prop :=
  (room.widget.mounted = true → room.widget.firstReads = [] →
    ∀ key, room.delivered = some key → room.Showing key) ∧
  (room.widget.mounted = false → room.widget.subscriptions = [] ∧ room.widget.lateAdds = 0)

/-- Orderly, the first key is not empty, no load is pending at `dispose`, and a
page that arrives later adds nothing. -/
def Room.Isolating (room : Room) (action : RoomAction) : Prop :=
  room.Orderly action ∧
  (∀ key ∈ room.incoming action, room.delivered = none → key ≠ some "") ∧
  (action = .dispose → room.widget.firstReads = []) ∧
  ∀ read ∈ room.returning action, room.widget.mounted = false → read.Empty

instance (room : Room) (action : RoomAction) : Decidable (room.Isolating action) :=
  inferInstanceAs (Decidable (_ ∧ _ ∧ _ ∧ _))

structure Settled (room : Room) : Prop where
  tidy : Tidy room
  unnamed : room.delivered = none → room.widget.oldKey = some ""
  live : room.widget.mounted = true → room.widget.firstReads = [] → room.delivered ≠ none →
    room.widget.subscriptions ≠ []
  quiet : room.widget.mounted = false → room.widget.firstReads = []
  late : room.widget.lateAdds = 0

namespace Settled

variable {room next : Room} {action : RoomAction}

theorem start (db : Database) (user : Option Int) : Settled (Room.start db user) :=
  ⟨Tidy.start db user, fun _ => rfl, by simp [Room.start], by simp [Room.start], rfl⟩

theorem deliver {key : Option String} {chats : List ChatResponse} {writes : List Write}
    (settled : Settled room) (mounted : room.widget.mounted = true)
    (free : key ≠ room.widget.oldKey → room.widget.firstReads = [] ∧ room.user ≠ none)
    (named : room.delivered = none → key ≠ some "") :
    Settled { room.deliver key with chats, writes } := by
  have tidy : Tidy { room.deliver key with chats, writes } := settled.tidy.deliver free
  by_cases same : key = room.widget.oldKey
  · have kept : room.widget.onChatKey room.user key = { room.widget with chatKey := key } :=
      ChatWidgetState.onChatKey_same same
    refine ⟨tidy, by simp [Room.deliver], ?_, ?_, ?_⟩ <;> simp only [Room.deliver, kept]
    · intro mounted idle _
      -- the initial `oldKey` is the empty key, which is not handed over first
      have before : room.delivered ≠ none := fun none =>
        named none (same.trans (settled.unnamed none))
      exact settled.live mounted idle before
    · exact settled.quiet
    · exact settled.late
  · obtain ⟨idle, logged⟩ := free same
    obtain ⟨id, owner⟩ := Option.ne_none_iff_exists'.mp logged
    have kept := @ChatWidgetState.onChatKey_switch room.user key room.widget same
    refine ⟨tidy, by simp [Room.deliver], ?_, ?_, ?_⟩ <;> simp only [Room.deliver, kept]
    · simp [ChatWidgetState.askedFirst, owner]
    · simp [mounted]
    · exact settled.late

theorem stepped {action : WidgetAction} {widget : ChatWidgetState} {writes : List Write}
    (settled : Settled room)
    (orderly : ∀ read ∈ room.returning (.widget action), room.widget.mounted = true →
      read.Empty ∨ read.chatKey = room.widget.oldKey ∨ room.widget.firstReads ≠ [])
    (silent : ∀ read ∈ room.returning (.widget action), room.widget.mounted = false → read.Empty)
    (taken : ChatWidgetState.Stepped room.db room.user room.widget action widget writes) :
    Settled (room.note action writes { room with widget, writes := room.writes ++ writes }) := by
  have tidy := settled.tidy.stepped orderly taken
  have keys := Keyed.keys_of_stepped taken
  have lane := settled.tidy.lane
  suffices rest : (widget.mounted = true → widget.firstReads = [] → room.delivered ≠ none →
        widget.subscriptions ≠ []) ∧
      (widget.mounted = false → widget.firstReads = []) ∧
      widget.lateAdds = 0 by
    obtain ⟨live, quiet, late⟩ := rest
    refine ⟨tidy, ?_, ?_, ?_, ?_⟩ <;> simp only [Room.note_widget, Room.note_delivered]
    · rw [keys.2]
      exact settled.unnamed
    · exact live
    · exact quiet
    · exact late
  cases taken with
  | firstReadServed found =>
    obtain ⟨only, rfl, none⟩ := lane.alone found
    refine ⟨by simp [only], ?_, settled.late⟩
    intro unmounted
    simp [settled.quiet unmounted] at found
  | @firstReadDone index chatKey response snapshot found same =>
    rw [ChatWidgetState.finishFirstTime_open]
    · refine ⟨by simp, ?_, settled.late⟩
      intro unmounted
      simp [settled.quiet unmounted] at found
    · rw [lane.stream]
      cases mounted : room.widget.mounted with
      | true => rfl
      | false => simp [settled.quiet mounted] at found
  | subscribed found =>
    obtain ⟨only, rfl, idle⟩ := lane.aloneSubscription found
    exact ⟨by simp [only], settled.quiet, settled.late⟩
  | childAdded found mounted handled =>
    obtain ⟨only, rfl, idle⟩ := lane.aloneSubscription found
    rw [ChatWidgetState.listenToRealTimeChat_open] at handled
    · cases handled
      exact ⟨by simp [only], settled.quiet, settled.late⟩
    · simp [lane.stream, mounted]
  | childAddedLate found unmounted =>
    obtain ⟨only, rfl, idle⟩ := lane.aloneSubscription found
    exact ⟨by simp [only], settled.quiet, settled.late⟩
  | scrollToTop visible => exact ⟨settled.live, settled.quiet, settled.late⟩
  | previousReadServed found => exact ⟨settled.live, settled.quiet, settled.late⟩
  | @previousReadDone index chatKey bound response snapshot found same =>
    cases page : (sortByKey Messages.key response).dropLast with
    | nil =>
      rw [ChatWidgetState.listenToPreviousChat_nil page]
      exact ⟨settled.live, settled.quiet, settled.late⟩
    | cons first rest =>
      have mounted : room.widget.mounted = true := by
        cases mounted : room.widget.mounted with
        | true => rfl
        | false => simp [page_of_empty (silent _ found mounted) same] at page
      rw [ChatWidgetState.listenToPreviousChat_open _ page]
      · exact ⟨settled.live, settled.quiet, settled.late⟩
      · simp [lane.stream, mounted]
  | send visible owner => exact ⟨settled.live, settled.quiet, settled.late⟩
  | sendWithoutUser visible owner => exact ⟨settled.live, settled.quiet, settled.late⟩
  | choose visible => exact ⟨settled.live, settled.quiet, settled.late⟩
  | uploadDone found owner => exact ⟨settled.live, settled.quiet, settled.late⟩
  | uploadWithoutUser found owner => exact ⟨settled.live, settled.quiet, settled.late⟩

theorem moved (settled : Settled room) (isolating : room.Isolating action)
    (taken : Room.Moved room action next) : Settled next := by
  obtain ⟨orderly, named, last, silent⟩ := isolating
  have tidy := settled.tidy.moved orderly taken
  cases taken with
  | append newest =>
    refine ⟨tidy, settled.unnamed, ?_, settled.quiet, settled.late⟩
    intro mounted idle handed none
    apply settled.live mounted idle handed
    simpa [ChatWidgetState.onStored] using none
  | quote quoted => exact ⟨tidy, settled.unnamed, settled.live, settled.quiet, settled.late⟩
  | setUser => exact ⟨tidy, settled.unnamed, settled.live, settled.quiet, settled.late⟩
  | chatKey mounted => exact settled.deliver mounted (orderly.1 _ rfl) (named _ rfl)
  | chatSnapshot => exact ⟨tidy, settled.unnamed, settled.live, settled.quiet, settled.late⟩
  | tap found mounted =>
    have handed := Room.incoming_tap found mounted
    exact settled.deliver mounted (orderly.1 _ handed) (named _ handed)
  | tapLate found unmounted =>
    exact ⟨tidy, settled.unnamed, settled.live, settled.quiet, settled.late⟩
  | widget stepped => exact settled.stepped orderly.2 silent stepped
  | dispose mounted =>
    refine ⟨tidy, settled.unnamed, ?_, fun _ => last rfl, settled.late⟩
    intro still
    cases still

theorem isolated (settled : Settled room) : room.Isolated := by
  refine ⟨?_, fun unmounted => ⟨settled.tidy.lane.ended unmounted, settled.late⟩⟩
  intro mounted idle key handed
  have keys := settled.tidy.current key handed
  have lane := settled.tidy.lane
  have started := settled.live mounted idle (by simp [handed])
  obtain ⟨sub, rest, listed⟩ := List.exists_cons_of_ne_nil started
  have found : room.widget.subscriptions[0]? = some sub := by simp [listed]
  obtain ⟨only, -, -⟩ := lane.aloneSubscription found
  have facts := lane.subscriptions sub (by simp [only])
  refine ⟨?_, ⟨sub, only, facts.1.trans keys.2, facts.2⟩, ?_⟩
  · exact keys.2 ▸ settled.tidy.own mounted idle
  · intro index next taken
    have moved := Room.moved_of_step taken
    cases moved with
    | widget stepped =>
      rw [Room.note_widget]
      cases stepped with
      | childAdded found mounted handled =>
        have stored := settled.tidy.sourced.queues _ (List.mem_of_getElem? found)
        have key := (lane.subscriptions _ (List.mem_of_getElem? found)).1.trans keys.2
        rw [ChatWidgetState.listenToRealTimeChat_open] at handled
        · cases handled
          exact ⟨_, key ▸ stored _ (by simp), rfl⟩
        · simp [lane.stream, mounted]
      | childAddedLate found unmounted => simp [mounted] at unmounted

end Settled

/-- In every run whose loads do not overlap, conversations stay apart. -/
theorem conversations_isolated {db : Database} {user : Option Int} {actions : List RoomAction}
    {final : Room} (meets : Meets Room.step Room.Isolating (Room.start db user) actions)
    (reached : run Room.step (Room.start db user) actions = some final) : final.Isolated :=
  (run_invariant Settled
    (fun _ _ _ settled isolating taken => settled.moved isolating (Room.moved_of_step taken))
    (Settled.start db user) meets reached).isolated

def orderlySwitch : List RoomAction :=
  [.chatKey (some "a"), .widget (.firstReadServed 0),
   .widget (.firstReadDone 0 [sample "k2", sample "k1"]), .widget (.subscribed 0),
   .chatKey (some "b"), .widget (.firstReadServed 0),
   .widget (.firstReadDone 0 [sample "k3", sample "k4"]), .dispose]

theorem orderlySwitch_isolated :
    ∃ final, run Room.step (Room.start twoChats (some 7)) orderlySwitch = some final ∧
      final.Isolated := by
  have found : (run Room.step (Room.start twoChats (some 7)) orderlySwitch).any
      (fun _ => true) = true := by decide
  obtain ⟨final, reached, -⟩ := exists_of_run found
  exact ⟨final, reached, conversations_isolated (by decide) reached⟩

def overlappingLoads : List RoomAction :=
  [.chatKey (some "a"), .chatKey (some "b"),
   .widget (.firstReadServed 0), .widget (.firstReadServed 1),
   .widget (.firstReadDone 1 [sample "k3", sample "k4"]),
   .widget (.firstReadDone 0 [sample "k1", sample "k2"])]

/-- The key handed over last is "b", but a message of "a" is shown and two
subscriptions are live. -/
theorem overlappingLoads_mixed :
    ∃ final, run Room.step (Room.start twoChats (some 7)) overlappingLoads = some final ∧
      final.widget.firstReads = [] ∧ final.delivered = some (some "b") ∧
      (∃ message ∈ final.widget.messages, message ∉ final.stored (some "b")) ∧
      final.widget.subscriptions.length = 2 ∧ ¬ final.Isolated := by
  have found : (run Room.step (Room.start twoChats (some 7)) overlappingLoads).any
      (fun final => final.widget.mounted && decide (final.widget.firstReads = [] ∧
        final.delivered = some (some "b") ∧
        (∃ message ∈ final.widget.messages, message ∉ final.stored (some "b")) ∧
        final.widget.subscriptions.length = 2)) = true := by decide
  obtain ⟨final, reached, test⟩ := exists_of_run found
  simp only [Bool.and_eq_true, decide_eq_true_eq] at test
  obtain ⟨mounted, idle, handed, mixed, two⟩ := test
  refine ⟨final, reached, idle, handed, mixed, two, fun isolated => ?_⟩
  obtain ⟨message, shown, foreign⟩ := mixed
  exact foreign ((isolated.1 mounted idle _ handed).own message shown)

/-! ## Messages go where the user is looking -/

def Room.Displays (room : Room) (display : Display) (key : Option String) : Prop :=
  display.shown = some key ∧ ∀ message ∈ display.messages, message ∈ room.stored key

/-- Every write of a send went to the conversation on display when the user
pressed send, chose the source, or stopped the recording. -/
def Room.SentWhereShown (room : Room) : Prop :=
  ∀ sent ∈ room.sent, room.Displays sent.display sent.write.chatKey

def RoomAction.sends : RoomAction → Bool
  | .widget (.send ..) | .widget (.choose _) => true
  | _ => false

/-- Orderly, and the user acts only when no load is pending. -/
def Room.Attentive (room : Room) (action : RoomAction) : Prop :=
  room.Orderly action ∧ (action.sends = true → room.widget.firstReads = [])

instance (room : Room) (action : RoomAction) : Decidable (room.Attentive action) :=
  inferInstanceAs (Decidable (_ ∧ _))

structure Addressed (room : Room) : Prop where
  tidy : Tidy room
  asked : ∀ upload ∈ room.widget.uploads, upload.id < room.widget.nextUpload ∧
    room.Displays (room.asked upload.id) upload.chatKey
  sent : room.SentWhereShown

namespace Addressed

variable {room next : Room} {action : RoomAction}

theorem start (db : Database) (user : Option Int) : Addressed (Room.start db user) :=
  ⟨Tidy.start db user, by simp [Room.start], by simp [Room.SentWhereShown, Room.start]⟩

theorem frame (addressed : Addressed room) (tidy : Tidy next)
    (grown : ∀ {key message}, message ∈ room.stored key → message ∈ next.stored key)
    (uploads : next.widget.uploads = room.widget.uploads)
    (count : next.widget.nextUpload = room.widget.nextUpload)
    (asked : next.asked = room.asked) (sent : next.sent = room.sent) : Addressed next := by
  have wider : ∀ {display key}, room.Displays display key → next.Displays display key :=
    fun displays => ⟨displays.1, fun message member => grown (displays.2 message member)⟩
  refine ⟨tidy, ?_, ?_⟩
  · rw [uploads, count, asked]
    exact fun upload member =>
      ⟨(addressed.asked upload member).1, wider (addressed.asked upload member).2⟩
  · intro record member
    rw [sent] at member
    exact wider (addressed.sent record member)

theorem onChatKey_uploads (user : Option Int) (key : Option String) (widget : ChatWidgetState) :
    (widget.onChatKey user key).uploads = widget.uploads ∧
      (widget.onChatKey user key).nextUpload = widget.nextUpload := by
  by_cases same : key = widget.oldKey
  · simp [ChatWidgetState.onChatKey_same same]
  · simp [ChatWidgetState.onChatKey_switch same]

theorem displays (tidy : Tidy room) (idle : room.widget.firstReads = [])
    (visible : room.widget.composer = true) :
    room.Displays room.display room.widget.oldKey := by
  simp only [ChatWidgetState.composer, BehaviorSubject.hasValue, Bool.and_eq_true] at visible
  obtain ⟨event, value⟩ := Option.isSome_iff_exists.mp visible.2
  exact ⟨tidy.shown idle value, tidy.own visible.1 idle⟩

theorem stepped {action : WidgetAction} {widget : ChatWidgetState} {writes : List Write}
    (addressed : Addressed room) (attentive : room.Attentive (.widget action))
    (taken : ChatWidgetState.Stepped room.db room.user room.widget action widget writes) :
    Addressed (room.note action writes { room with widget, writes := room.writes ++ writes }) := by
  have tidy := addressed.tidy.stepped attentive.1.2 taken
  have same : ∀ {key message}, message ∈ room.stored key → message ∈
      (room.note action writes { room with widget, writes := room.writes ++ writes }).stored key :=
    fun member => by
      rw [Room.note_stored]
      exact member
  cases taken with
  | firstReadServed found => exact addressed.frame tidy same rfl rfl rfl rfl
  | firstReadDone found perm =>
    obtain ⟨-, -, uploads, count⟩ := Keyed.finishFirstTime_keys _ _ _
    exact addressed.frame tidy same uploads count rfl rfl
  | subscribed found => exact addressed.frame tidy same rfl rfl rfl rfl
  | childAdded found mounted handled =>
    obtain ⟨-, -, uploads, count, -⟩ := Keyed.listenToRealTimeChat_keys handled
    exact addressed.frame tidy same uploads count rfl rfl
  | childAddedLate found unmounted => exact addressed.frame tidy same rfl rfl rfl rfl
  | scrollToTop visible => exact addressed.frame tidy same rfl rfl rfl rfl
  | previousReadServed found => exact addressed.frame tidy same rfl rfl rfl rfl
  | previousReadDone found perm =>
    obtain ⟨-, -, uploads, count⟩ := Keyed.listenToPreviousChat_keys _ _
    exact addressed.frame tidy same uploads count rfl rfl
  | send visible owner =>
    have shown := displays addressed.tidy (attentive.2 rfl) visible
    refine ⟨tidy, addressed.asked, ?_⟩
    intro record member
    rcases List.mem_append.mp member with old | added
    · exact addressed.sent record old
    · obtain ⟨write, written, rfl⟩ := List.mem_map.mp added
      rw [chatKey_of_mem_sendMessage written]
      exact shown
  | sendWithoutUser visible owner =>
    exact addressed.frame tidy same rfl rfl rfl (by simp [Room.note])
  | choose visible =>
    have shown := displays addressed.tidy (attentive.2 rfl) visible
    have bound := addressed.tidy.keyed.bound_of_composer visible
    refine ⟨tidy, ?_, addressed.sent⟩
    intro upload member
    simp only [Room.note] at member ⊢
    rcases List.mem_append.mp member with old | added
    · obtain ⟨below, display⟩ := addressed.asked upload old
      refine ⟨Nat.lt_succ_of_lt below, ?_⟩
      rw [Function.update_of_ne below.ne]
      exact display
    · rw [List.mem_singleton.mp added]
      refine ⟨Nat.lt_succ_self _, ?_⟩
      rw [Function.update_self, ← bound.1]
      exact shown
  | @uploadDone index upload outcome now id newKey found owner =>
    obtain ⟨-, display⟩ := addressed.asked upload (List.mem_of_getElem? found)
    refine ⟨tidy, ?_, ?_⟩
    · simp only [Room.note, found]
      exact fun other member => addressed.asked other (List.mem_of_mem_eraseIdx member)
    · simp only [Room.note, found]
      intro record member
      rcases List.mem_append.mp member with old | added
      · exact addressed.sent record old
      · obtain ⟨write, written, rfl⟩ := List.mem_map.mp added
        rw [Source.chatKey_of_mem_finish written]
        exact display
  | @uploadWithoutUser index upload outcome now newKey found owner =>
    refine ⟨tidy, ?_, ?_⟩
    · simp only [Room.note, found]
      exact fun other member => addressed.asked other (List.mem_of_mem_eraseIdx member)
    · simp only [Room.note, found, List.map_nil, List.append_nil]
      exact addressed.sent

theorem moved (addressed : Addressed room) (attentive : room.Attentive action)
    (taken : Room.Moved room action next) : Addressed next := by
  have tidy := addressed.tidy.moved attentive.1 taken
  have grown := fun {key message} (member : message ∈ room.stored key) => taken.stored_mono member
  cases taken with
  | append newest => exact addressed.frame tidy grown rfl rfl rfl rfl
  | quote quoted => exact addressed.frame tidy grown rfl rfl rfl rfl
  | setUser => exact addressed.frame tidy grown rfl rfl rfl rfl
  | chatKey mounted =>
    obtain ⟨uploads, count⟩ := onChatKey_uploads room.user _ room.widget
    exact addressed.frame tidy grown uploads count rfl rfl
  | chatSnapshot => exact addressed.frame tidy grown rfl rfl rfl rfl
  | tap found mounted =>
    obtain ⟨uploads, count⟩ := onChatKey_uploads room.user _ room.widget
    exact addressed.frame tidy grown uploads count rfl rfl
  | tapLate found unmounted => exact addressed.frame tidy grown rfl rfl rfl rfl
  | widget stepped => exact addressed.stepped attentive stepped
  | dispose mounted => exact addressed.frame tidy grown rfl rfl rfl rfl

end Addressed

/-- In every run in which loads do not overlap and the user acts between them,
messages go to the conversation on display. -/
theorem sent_where_shown {db : Database} {user : Option Int} {actions : List RoomAction}
    {final : Room} (meets : Meets Room.step Room.Attentive (Room.start db user) actions)
    (reached : run Room.step (Room.start db user) actions = some final) : final.SentWhereShown :=
  (run_invariant Addressed
    (fun _ _ _ addressed attentive taken => addressed.moved attentive (Room.moved_of_step taken))
    (Addressed.start db user) meets reached).sent

def attentiveSends : List RoomAction :=
  [.chatKey (some "a"), .widget (.firstReadServed 0),
   .widget (.firstReadDone 0 [sample "k2", sample "k1"]),
   .widget (.send "hi" 1 "k5"), .widget (.choose .gallery), .chatKey (some "b"),
   .widget (.uploadDone 0 (.replied 200 ⟨some "success", some ⟨some "p.jpg"⟩⟩) 2 "k6")]

theorem attentiveSends_where_shown :
    ∃ final, run Room.step (Room.start twoChats (some 7)) attentiveSends = some final ∧
      final.sent.length = 6 ∧ final.SentWhereShown := by
  have found : (run Room.step (Room.start twoChats (some 7)) attentiveSends).any
      (fun final => decide (final.sent.length = 6)) = true := by decide
  obtain ⟨final, reached, six⟩ := exists_of_run found
  exact ⟨final, reached, of_decide_eq_true six, sent_where_shown (by decide) reached⟩

def hurriedSend : List RoomAction :=
  [.chatKey (some "a"), .widget (.firstReadServed 0),
   .widget (.firstReadDone 0 [sample "k1", sample "k2"]),
   .chatKey (some "b"), .widget (.send "hi" 1 "k5")]

theorem hurriedSend_misdirected :
    ∃ final, run Room.step (Room.start twoChats (some 7)) hurriedSend = some final ∧
      (∃ sent ∈ final.sent, sent.display = ⟨some (some "a"), [sample "k1"]⟩ ∧
        sent.write.chatKey = some "b") ∧ ¬ final.SentWhereShown := by
  have found : (run Room.step (Room.start twoChats (some 7)) hurriedSend).any
      (fun final => decide (∃ sent ∈ final.sent,
        sent.display = ⟨some (some "a"), [sample "k1"]⟩ ∧ sent.write.chatKey = some "b")) = true := by
    decide
  obtain ⟨final, reached, test⟩ := exists_of_run found
  have mixed := of_decide_eq_true test
  refine ⟨final, reached, mixed, fun right => ?_⟩
  obtain ⟨sent, member, shown, target⟩ := mixed
  have displays := right sent member
  rw [shown, target] at displays
  exact absurd displays.1 (by decide)

end SparSomnong.Chat
