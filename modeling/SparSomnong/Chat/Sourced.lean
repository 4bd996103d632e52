import SparSomnong.Chat.Room

/-! Where the messages in flight come from.

Whatever the server has put into the reply of a suspended read or into the
queue of a subscription is stored in the conversation the read or the
subscription is for. This holds in every run.
-/

set_option autoImplicit false

namespace SparSomnong.Chat

open Semantics

structure Sourced (Within : Option String → Messages → Prop) (widget : ChatWidgetState) : Prop where
  reads : ∀ read ∈ widget.firstReads, ∀ snapshot, read.snapshot = some snapshot →
    ∀ message ∈ snapshot, Within read.chatKey message
  pages : ∀ read ∈ widget.previousReads, ∀ snapshot, read.snapshot = some snapshot →
    ∀ message ∈ snapshot, Within read.chatKey message
  queues : ∀ sub ∈ widget.subscriptions, ∀ message ∈ sub.queue, Within sub.chatKey message

namespace Sourced

variable {Within : Option String → Messages → Prop} {widget : ChatWidgetState}

theorem start : Sourced Within {} :=
  ⟨by simp, by simp, by simp⟩

theorem mono {Wider : Option String → Messages → Prop} (sourced : Sourced Within widget)
    (implies : ∀ key message, Within key message → Wider key message) : Sourced Wider widget :=
  ⟨fun read member snapshot taken message inside =>
      implies _ _ (sourced.reads read member snapshot taken message inside),
    fun read member snapshot taken message inside =>
      implies _ _ (sourced.pages read member snapshot taken message inside),
    fun sub member message inside => implies _ _ (sourced.queues sub member message inside)⟩

theorem shrink {next : ChatWidgetState} (sourced : Sourced Within widget)
    (reads : ∀ read ∈ next.firstReads, read ∈ widget.firstReads ∨ read.snapshot = none)
    (pages : ∀ read ∈ next.previousReads, read ∈ widget.previousReads ∨ read.snapshot = none)
    (subs : ∀ sub ∈ next.subscriptions, sub ∈ widget.subscriptions ∨ sub.queue = []) :
    Sourced Within next := by
  refine ⟨?_, ?_, ?_⟩
  · intro read member snapshot taken
    rcases reads read member with old | fresh
    · exact sourced.reads read old snapshot taken
    · simp [fresh] at taken
  · intro read member snapshot taken
    rcases pages read member with old | fresh
    · exact sourced.pages read old snapshot taken
    · simp [fresh] at taken
  · intro sub member message inside
    rcases subs sub member with old | fresh
    · exact sourced.queues sub old message inside
    · simp [fresh] at inside

theorem requeue {next : ChatWidgetState} {index : Nat} {sub : Subscription}
    (sourced : Sourced Within widget) (reads : next.firstReads = widget.firstReads)
    (pages : next.previousReads = widget.previousReads)
    (subs : next.subscriptions = widget.subscriptions.set index sub)
    (kept : ∀ message ∈ sub.queue, Within sub.chatKey message) : Sourced Within next := by
  refine ⟨reads ▸ sourced.reads, pages ▸ sourced.pages, ?_⟩
  rw [subs]
  intro other member message inside
  rcases List.mem_or_eq_of_mem_set member with old | rfl
  · exact sourced.queues other old message inside
  · exact kept message inside

theorem onChatKey {user : Option Int} {key : Option String} (sourced : Sourced Within widget) :
    Sourced Within (widget.onChatKey user key) := by
  by_cases same : key = widget.oldKey
  · rw [ChatWidgetState.onChatKey_same same]
    exact ⟨sourced.reads, sourced.pages, sourced.queues⟩
  · rw [ChatWidgetState.onChatKey_switch same]
    refine sourced.shrink ?_ (fun _ member => Or.inl member) ?_
    · intro read member
      refine (List.mem_append.mp member).imp_right fun asked => ?_
      cases user with
      | none => simp [ChatWidgetState.askedFirst] at asked
      | some id =>
        rw [List.mem_singleton.mp asked]
    · exact fun sub member => Or.inl (List.mem_of_mem_filter member)

theorem dispose (sourced : Sourced Within widget) : Sourced Within widget.dispose :=
  sourced.shrink (fun _ member => Or.inl member) (fun _ member => Or.inl member)
    fun _ member => Or.inl (List.mem_of_mem_filter member)

theorem onStored {chat : String} {message : Messages} (sourced : Sourced Within widget)
    (arrived : ∀ key, interpolate key = chat → Within key message) :
    Sourced Within (widget.onStored chat message) := by
  refine ⟨sourced.reads, sourced.pages, ?_⟩
  intro sub member queued inside
  obtain ⟨old, oldMember, rfl⟩ := List.mem_map.mp member
  split at inside
  · next matching =>
    simp only [Bool.and_eq_true, beq_iff_eq] at matching
    rw [if_pos (by simp [matching])]
    rcases List.mem_append.mp inside with earlier | added
    · exact sourced.queues old oldMember queued earlier
    · rw [List.mem_singleton.mp added]
      exact arrived old.chatKey matching.2
  · next other =>
    rw [if_neg other]
    exact sourced.queues old oldMember queued inside

theorem finishFirstTime (sourced : Sourced Within widget) (chatKey : Option String)
    (response : List Messages) : Sourced Within (widget.finishFirstTime chatKey response) := by
  cases closed : widget.messageStream.closed with
  | false =>
    rw [ChatWidgetState.finishFirstTime_open closed]
    refine sourced.shrink (fun _ member => Or.inl member) (fun _ member => Or.inl member) ?_
    intro sub member
    refine (List.mem_append.mp member).imp_right fun opened => ?_
    rw [List.mem_singleton.mp opened]
  | true =>
    rw [ChatWidgetState.finishFirstTime_closed closed]
    exact ⟨sourced.reads, sourced.pages, sourced.queues⟩

theorem listenToPreviousChat (sourced : Sourced Within widget) (response : List Messages) :
    Sourced Within (widget.listenToPreviousChat response) := by
  cases page : (sortByKey Messages.key response).dropLast with
  | nil =>
    rw [ChatWidgetState.listenToPreviousChat_nil page]
    exact sourced
  | cons first rest =>
    cases closed : widget.messageStream.closed with
    | false =>
      rw [ChatWidgetState.listenToPreviousChat_open closed page]
      exact ⟨sourced.reads, sourced.pages, sourced.queues⟩
    | true =>
      rw [ChatWidgetState.listenToPreviousChat_closed closed page]
      exact ⟨sourced.reads, sourced.pages, sourced.queues⟩

theorem stepped {db : Database} {user : Option Int} {action : WidgetAction}
    {next : ChatWidgetState} {writes : List Write} (sourced : Sourced Within widget)
    (holds : ∀ key, ∀ message ∈ (db (interpolate key)).stored, Within key message)
    (taken : ChatWidgetState.Stepped db user widget action next writes) :
    Sourced Within next := by
  cases taken with
  | firstReadServed found =>
    refine ⟨?_, sourced.pages, sourced.queues⟩
    intro read member snapshot served message inside
    rcases List.mem_or_eq_of_mem_set member with old | rfl
    · exact sourced.reads read old snapshot served message inside
    · cases served
      exact holds _ message ((limitToLast_suffix 11 _).subset inside)
  | @firstReadDone index chatKey response snapshot found same =>
    have fewer : Sourced Within { widget with firstReads := widget.firstReads.eraseIdx index } :=
      sourced.shrink (fun _ member => Or.inl (List.mem_of_mem_eraseIdx member))
        (fun _ member => Or.inl member) fun _ member => Or.inl member
    exact fewer.finishFirstTime chatKey response
  | subscribed found =>
    refine sourced.requeue rfl rfl rfl ?_
    intro message inside
    exact holds _ message ((limitToLast_suffix 1 _).subset inside)
  | childAdded found mounted handled =>
    have kept := sourced.queues _ (List.mem_of_getElem? found)
    obtain ⟨reads, pages, subs⟩ := ChatWidgetState.listenToRealTimeChat_frame handled
    refine sourced.requeue reads pages subs ?_
    intro message inside
    exact kept message (List.mem_cons_of_mem _ inside)
  | childAddedLate found unmounted =>
    have kept := sourced.queues _ (List.mem_of_getElem? found)
    refine sourced.requeue rfl rfl rfl ?_
    intro message inside
    exact kept message (List.mem_cons_of_mem _ inside)
  | scrollToTop visible =>
    refine sourced.shrink (fun _ member => Or.inl member) (fun read member => ?_)
      fun _ member => Or.inl member
    refine (List.mem_append.mp member).imp_right fun asked => ?_
    rw [List.mem_singleton.mp asked]
  | previousReadServed found =>
    refine ⟨sourced.reads, ?_, sourced.queues⟩
    intro read member snapshot served message inside
    rcases List.mem_or_eq_of_mem_set member with old | rfl
    · exact sourced.pages read old snapshot served message inside
    · cases served
      exact holds _ message (List.mem_of_mem_filter ((limitToLast_suffix 4 _).subset inside))
  | @previousReadDone index chatKey bound response snapshot found same =>
    have fewer : Sourced Within { widget with previousReads := widget.previousReads.eraseIdx index } :=
      sourced.shrink (fun _ member => Or.inl member)
        (fun _ member => Or.inl (List.mem_of_mem_eraseIdx member)) fun _ member => Or.inl member
    exact fewer.listenToPreviousChat response
  | send visible owner => exact sourced
  | sendWithoutUser visible owner => exact sourced
  | choose visible => exact ⟨sourced.reads, sourced.pages, sourced.queues⟩
  | uploadDone found owner => exact ⟨sourced.reads, sourced.pages, sourced.queues⟩
  | uploadWithoutUser found owner => exact ⟨sourced.reads, sourced.pages, sourced.queues⟩

/-- What a handler puts on display was in flight before. -/
theorem messages {db : Database} {user : Option Int} {action : WidgetAction}
    {next : ChatWidgetState} {writes : List Write} (sourced : Sourced Within widget)
    (taken : ChatWidgetState.Stepped db user widget action next writes) :
    ∀ message ∈ next.messages, message ∈ widget.messages ∨ ∃ key, Within key message := by
  intro message shown
  cases taken with
  | @firstReadDone index chatKey response snapshot found same =>
    have stored := sourced.reads _ (List.mem_of_getElem? found) snapshot rfl
    have kept : message ∈ (sortByKey Messages.key response).dropLast := by
      cases closed : widget.messageStream.closed with
      | false =>
        rw [ChatWidgetState.finishFirstTime_open] at shown
        · exact shown
        · exact closed
      | true =>
        rw [ChatWidgetState.finishFirstTime_closed] at shown
        · exact shown
        · exact closed
    have inside := mem_sortByKey.mp (List.mem_of_mem_dropLast kept)
    exact Or.inr ⟨chatKey, stored message (same.subset inside)⟩
  | @childAdded index id chatKey established event queue next writes found mounted handled =>
    have stored := sourced.queues _ (List.mem_of_getElem? found)
    have added : message ∈ widget.messages ++ [event] := by
      rw [← ChatWidgetState.listenToRealTimeChat_messages handled]
      exact shown
    rcases List.mem_append.mp added with old | event
    · exact Or.inl old
    · rw [List.mem_singleton.mp event]
      exact Or.inr ⟨chatKey, stored _ (by simp)⟩
  | @previousReadDone index chatKey bound response snapshot found same =>
    have stored := sourced.pages _ (List.mem_of_getElem? found) snapshot rfl
    rw [ChatWidgetState.listenToPreviousChat_messages] at shown
    rcases List.mem_append.mp shown with page | old
    · have inside := mem_sortByKey.mp (List.mem_of_mem_dropLast page)
      exact Or.inr ⟨chatKey, stored message (same.subset inside)⟩
    · exact Or.inl old
  | _ => exact Or.inl shown

end Sourced

abbrev Room.Sourced (room : Room) : Prop :=
  Chat.Sourced (fun key message => message ∈ room.stored key) room.widget

theorem Room.Sourced.moved {room next : Room} {action : RoomAction} (sourced : room.Sourced)
    (taken : Room.Moved room action next) : next.Sourced := by
  have wider : Chat.Sourced (fun key message => message ∈ next.stored key) room.widget :=
    Chat.Sourced.mono sourced fun key message member => taken.stored_mono member
  cases taken with
  | @append chat message newest =>
    refine wider.onStored fun key same => ?_
    simp [Room.stored, Database.stored_append newest, same]
  | quote member => exact wider
  | setUser => exact wider
  | chatKey mounted => exact wider.onChatKey
  | chatSnapshot => exact wider
  | tap found mounted => exact wider.onChatKey
  | tapLate found unmounted => exact wider
  | widget stepped =>
    have kept : Chat.Sourced (fun key message => message ∈ room.stored key) _ :=
      Chat.Sourced.stepped sourced (fun _ _ member => member) stepped
    unfold Room.Sourced
    rw [Room.note_widget]
    simp only [Room.note_stored]
    exact kept
  | dispose mounted => exact wider.dispose

/-- Nothing is on display that is not stored. -/
structure Room.Genuine (room : Room) : Prop where
  sourced : room.Sourced
  messages : ∀ message ∈ room.widget.messages, ∃ key, message ∈ room.stored key

namespace Room.Genuine

theorem start (db : Database) (user : Option Int) : (Room.start db user).Genuine :=
  ⟨Chat.Sourced.start, by simp [Room.start]⟩

theorem moved {room next : Room} {action : RoomAction} (genuine : room.Genuine)
    (taken : Room.Moved room action next) : next.Genuine := by
  have sourced := Room.Sourced.moved genuine.sourced taken
  have grown : ∀ message ∈ room.widget.messages, ∃ key, message ∈ next.stored key := by
    intro message shown
    obtain ⟨key, stored⟩ := genuine.messages message shown
    exact ⟨key, taken.stored_mono stored⟩
  refine ⟨sourced, fun message shown => ?_⟩
  cases taken with
  | widget stepped =>
    rw [Room.note_widget] at shown
    rcases Chat.Sourced.messages genuine.sourced stepped message shown with old | ⟨key, stored⟩
    · exact grown message old
    · refine ⟨key, ?_⟩
      rw [Room.note_stored]
      exact stored
  | chatKey mounted => exact grown message (ChatWidgetState.onChatKey_messages _ _ _ ▸ shown)
  | tap found mounted => exact grown message (ChatWidgetState.onChatKey_messages _ _ _ ▸ shown)
  | append newest => exact grown message shown
  | quote quoted => exact grown message shown
  | setUser => exact grown message shown
  | chatSnapshot => exact grown message shown
  | tapLate found unmounted => exact grown message shown
  | dispose mounted => exact grown message shown

end Room.Genuine

theorem genuine_of_run {db : Database} {user : Option Int} {actions : List RoomAction}
    {final : Room} (reached : run Room.step (Room.start db user) actions = some final) :
    final.Genuine :=
  run_invariant_of_step Room.Genuine
    (fun _ _ _ genuine taken => genuine.moved (Room.moved_of_step taken))
    (Room.Genuine.start db user) reached

end SparSomnong.Chat
