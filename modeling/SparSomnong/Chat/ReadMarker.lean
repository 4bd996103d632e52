import SparSomnong.Chat.Keyed
import SparSomnong.Chat.Lane
import SparSomnong.Chat.Sourced

/-! The read marker `lastSeen` of a user in a conversation.

Two handlers write it: the live handler, under the key the widget has at that
moment, and a tap on a ChatItem, from the snapshot the item was built from. The
marker is sound and never moves backwards as long as loads do not overlap and a
tapped item is up to date with what the live feed has marked.
-/

set_option autoImplicit false

namespace SparSomnong.Chat

open Semantics

def Write.seenIn (chat : String) (user : Int) (write : Write) : Option String :=
  if interpolate write.chatKey = chat then
    match write.field with
    | .lastSeen id key => if id = user then some key else none
    | _ => none
  else none

theorem Write.seenIn_eq_some {chat : String} {user : Int} {write : Write} {key : String} :
    write.seenIn chat user = some key ↔
      interpolate write.chatKey = chat ∧ write.field = .lastSeen user key := by
  obtain ⟨chatKey, field⟩ := write
  cases field <;> simp [Write.seenIn]

/-- The markers written for a user in a conversation, in order. -/
def Room.marks (room : Room) (chat : String) (user : Int) : List String :=
  room.writes.filterMap (Write.seenIn chat user)

/-- Every marker is the key of a stored message and at least the one before. -/
def Room.MarkersSound (room : Room) : Prop :=
  ∀ chat user, (∀ mark ∈ room.marks chat user, ∃ message ∈ (room.db chat).stored,
    message.key = mark) ∧ (room.marks chat user).Pairwise (· ≤ ·)

/-- The item a tap is on. -/
def Room.tapped (room : Room) : RoomAction → Option ChatResponse
  | .tap index => room.chats[index]?
  | _ => none

/-- A new key arrives between two loads. A tapped item is neither older than what
is marked for the user in its chat nor newer than a live event of it that waits. -/
def Room.Timely (room : Room) (action : RoomAction) : Prop :=
  (∀ key ∈ room.incoming action, key ≠ room.widget.oldKey → room.widget.firstReads = []) ∧
  ∀ chat ∈ room.tapped action, ∀ last ∈ chat.lastMessage, ∀ user ∈ room.user,
    (∀ mark ∈ room.marks (interpolate chat.key) user, mark ≤ last.key) ∧
    ∀ sub ∈ room.widget.subscriptions, interpolate sub.chatKey = interpolate chat.key →
      ∀ event ∈ sub.queue, last.key ≤ event.key

instance (room : Room) (action : RoomAction) : Decidable (room.Timely action) :=
  inferInstanceAs (Decidable (_ ∧ _))

theorem Room.marks_append {room next : Room} {writes : List Write}
    (written : next.writes = room.writes ++ writes) (chat : String) (user : Int) :
    next.marks chat user = room.marks chat user ++ writes.filterMap (Write.seenIn chat user) := by
  simp [Room.marks, written]

theorem Room.MarkersSound.mark {room next : Room} {key : Option String} {user : Int}
    {value : String} (sound : room.MarkersSound) (db : next.db = room.db)
    (written : next.writes = room.writes ++ [⟨key, .lastSeen user value⟩])
    (stored : ∃ message ∈ room.stored key, message.key = value)
    (newer : ∀ mark ∈ room.marks (interpolate key) user, mark ≤ value) : next.MarkersSound := by
  intro chat id
  obtain ⟨before, rising⟩ := sound chat id
  rw [db, Room.marks_append written]
  cases set : Write.seenIn chat id ⟨key, .lastSeen user value⟩ with
  | none => simpa [set] using ⟨before, rising⟩
  | some mark =>
    obtain ⟨rfl, field⟩ := Write.seenIn_eq_some.mp set
    cases field
    simp only [List.filterMap_cons, set, List.filterMap_nil]
    refine ⟨?_, List.pairwise_append.mpr ⟨rising, List.pairwise_singleton _ _, ?_⟩⟩
    · intro mark member
      rcases List.mem_append.mp member with old | new
      · exact before mark old
      · rw [List.mem_singleton.mp new]
        exact stored
    · intro mark old other new
      rw [List.mem_singleton.mp new]
      exact newer mark old

structure Marked (room : Room) : Prop where
  lane : Lane room.widget
  keyed : Keyed (fun _ => True) room.widget
  sourced : room.Sourced
  quotes : ∀ chat, (room.db chat).QuotesStored
  items : ∀ chat ∈ room.chats, ∀ last, chat.lastMessage = some last →
    ∃ message ∈ room.stored chat.key, message.key = last.key
  sorted : ∀ sub ∈ room.widget.subscriptions, Ordered Messages.key sub.queue
  sound : room.MarkersSound
  ahead : ∀ sub ∈ room.widget.subscriptions, ∀ user,
    ∀ mark ∈ room.marks (interpolate sub.chatKey) user, ∀ event ∈ sub.queue, mark ≤ event.key

namespace Marked

variable {room next : Room} {action : RoomAction}

theorem start {db : Database} {user : Option Int} (quotes : ∀ chat, (db chat).QuotesStored) :
    Marked (Room.start db user) := by
  refine ⟨Lane.start, Keyed.start, Sourced.start, quotes, by simp [Room.start],
    by simp [Room.start], ?_, by simp [Room.start]⟩
  intro chat user
  simp [Room.marks, Room.start]

theorem frame (marked : Marked room) (lane : Lane next.widget)
    (keyed : Keyed (fun _ => True) next.widget) (sourced : next.Sourced)
    (db : next.db = room.db) (chats : next.chats = room.chats)
    (same : ∀ chat user, next.marks chat user = room.marks chat user)
    (fewer : ∀ sub ∈ next.widget.subscriptions, sub ∈ room.widget.subscriptions ∨ sub.queue = []) :
    Marked next := by
  refine ⟨lane, keyed, sourced, ?_, ?_, ?_, ?_, ?_⟩
  · rw [db]
    exact marked.quotes
  · simp only [chats, Room.stored, db]
    exact marked.items
  · intro sub member
    rcases fewer sub member with old | empty
    · exact marked.sorted sub old
    · simp [empty, Ordered]
  · intro chat user
    rw [same, db]
    exact marked.sound chat user
  · intro sub member user mark
    rw [same]
    rcases fewer sub member with old | empty
    · exact marked.ahead sub old user mark
    · simp [empty]

theorem congr (marked : Marked room) (db : next.db = room.db) (chats : next.chats = room.chats)
    (widget : next.widget = room.widget) (writes : next.writes = room.writes) : Marked next := by
  have sourced : next.Sourced := by
    simp only [Room.Sourced, Room.stored, db, widget]
    exact marked.sourced
  refine marked.frame (widget ▸ marked.lane) (widget ▸ marked.keyed) sourced db chats ?_ ?_
  · simp [Room.marks, writes]
  · rw [widget]
    exact fun sub member => Or.inl member

/-- The live handler marks the event under the key of its own conversation. -/
theorem childAdded {index id : Nat} {chatKey : Option String} {established : Bool}
    {event : Messages} {queue : List Messages} {widget : ChatWidgetState} {writes : List Write}
    (marked : Marked room)
    (found : room.widget.subscriptions[index]? = some ⟨id, chatKey, established, event :: queue⟩)
    (handled : ChatWidgetState.listenToRealTimeChat room.user event { room.widget with
      subscriptions := room.widget.subscriptions.set index ⟨id, chatKey, established, queue⟩ } =
        (widget, writes))
    (lane : Lane widget) (keyed : Keyed (fun _ => True) widget)
    (sourced : Room.Sourced { room with widget, writes := room.writes ++ writes }) :
    Marked { room with widget, writes := room.writes ++ writes } := by
  have member := List.mem_of_getElem? found
  obtain ⟨only, rfl, -⟩ := marked.lane.aloneSubscription found
  have key : room.widget.chatKey = chatKey := by
    rw [← (marked.keyed.bound_of_subscription found).1]
    exact (marked.lane.subscriptions _ member).1.symm
  have subs : widget.subscriptions = [⟨id, chatKey, established, queue⟩] := by
    rw [(ChatWidgetState.listenToRealTimeChat_frame handled).2.2]
    simp [only]
  -- the marker is the head of an increasing queue
  have sorted := List.pairwise_cons.mp (marked.sorted _ member)
  have older : ∀ user, ∀ mark ∈ room.marks (interpolate chatKey) user, ∀ other ∈ event :: queue,
      mark ≤ other.key := marked.ahead _ member
  have rest : ∀ user, ∀ mark ∈ room.marks (interpolate chatKey) user, ∀ later ∈ queue,
      mark ≤ later.key := fun user mark old later waits =>
    older user mark old later (List.mem_cons_of_mem _ waits)
  rcases ChatWidgetState.listenToRealTimeChat_writes handled with rfl | ⟨user, -, written⟩
  · refine ⟨lane, keyed, sourced, marked.quotes, marked.items, ?_, ?_, ?_⟩
    · simp only [subs, List.mem_singleton, forall_eq]
      exact sorted.2
    · simpa [Room.MarkersSound, Room.marks] using marked.sound
    · simpa [subs, Room.marks] using rest
  · rw [key] at written
    subst written
    refine ⟨lane, keyed, sourced, marked.quotes, marked.items, ?_, ?_, ?_⟩
    · simp only [subs, List.mem_singleton, forall_eq]
      exact sorted.2
    · refine marked.sound.mark rfl rfl ⟨event, ?_, rfl⟩ ?_
      · exact marked.sourced.queues _ member event (by simp)
      · exact fun mark old => older user mark old event (by simp)
    · simp only [subs, List.mem_singleton, forall_eq]
      intro id mark inside later waits
      rw [Room.marks_append rfl] at inside
      rcases List.mem_append.mp inside with old | new
      · exact rest id mark old later waits
      · obtain ⟨write, written, set⟩ := List.mem_filterMap.mp new
        rw [List.mem_singleton.mp written] at set
        obtain ⟨-, field⟩ := Write.seenIn_eq_some.mp set
        cases field
        exact (sorted.1 later waits).le

theorem subscribed {index id : Nat} {chatKey : Option String} {queue : List Messages}
    (marked : Marked room)
    (found : room.widget.subscriptions[index]? = some ⟨id, chatKey, false, queue⟩)
    {widget : ChatWidgetState} (changed : widget = { room.widget with
      subscriptions := room.widget.subscriptions.set index
        ⟨id, chatKey, true, limitToLast 1 (room.stored chatKey)⟩ })
    (lane : Lane widget) (keyed : Keyed (fun _ => True) widget)
    (sourced : Room.Sourced { room with widget }) : Marked { room with widget } := by
  obtain ⟨only, rfl, -⟩ := marked.lane.aloneSubscription found
  have subs : widget.subscriptions =
      [⟨id, chatKey, true, limitToLast 1 (room.stored chatKey)⟩] := by simp [changed, only]
  have ordered : Ordered Messages.key (room.stored chatKey) := room.db.stored_ordered _
  refine ⟨lane, keyed, sourced, marked.quotes, marked.items, ?_, marked.sound, ?_⟩
  · simp only [subs, List.mem_singleton, forall_eq]
    exact ordered.sublist (limitToLast_suffix 1 _).sublist
  · simp only [subs, List.mem_singleton, forall_eq]
    intro user mark inside event waits
    obtain ⟨message, stored, rfl⟩ := (marked.sound _ user).1 mark inside
    exact ordered.le_last stored waits

theorem seenIn_sendMessage (chatKey data : Option String) (type userId now : Int)
    (newKey chat : String) (user : Int) :
    (sendMessage chatKey data type userId now newKey).filterMap (Write.seenIn chat user) = [] := by
  simp [sendMessage, Write.seenIn]

theorem stepped {action : WidgetAction} {widget : ChatWidgetState} {writes : List Write}
    (marked : Marked room)
    (taken : ChatWidgetState.Stepped room.db room.user room.widget action widget writes) :
    Marked { room with widget, writes := room.writes ++ writes } := by
  have lane := marked.lane.stepped taken
  have keyed := (marked.keyed.stepped taken).1
  have sourced : Room.Sourced { room with widget, writes := room.writes ++ writes } :=
    Sourced.stepped marked.sourced (fun _ _ member => member) taken
  -- what a step without markers and with no more events in a queue keeps
  have unmarked : (∀ chat user, writes.filterMap (Write.seenIn chat user) = []) →
      (∀ sub ∈ widget.subscriptions, sub ∈ room.widget.subscriptions ∨ sub.queue = []) →
      Marked { room with widget, writes := room.writes ++ writes } := by
    intro none fewer
    refine marked.frame lane keyed sourced rfl rfl (fun chat user => ?_) fewer
    rw [Room.marks_append rfl, none, List.append_nil]
  cases taken with
  | firstReadServed found => exact unmarked (fun _ _ => rfl) fun _ member => Or.inl member
  | firstReadDone found same =>
    refine unmarked (fun _ _ => rfl) ?_
    cases closed : room.widget.messageStream.closed with
    | false =>
      rw [ChatWidgetState.finishFirstTime_open]
      · intro sub member
        refine (List.mem_append.mp member).imp_right fun added => ?_
        rw [List.mem_singleton.mp added]
      · exact closed
    | true =>
      rw [ChatWidgetState.finishFirstTime_closed]
      · exact fun _ member => Or.inl member
      · exact closed
  | subscribed found =>
    refine (marked.subscribed found rfl lane keyed ?_).congr rfl rfl rfl (List.append_nil _)
    exact sourced
  | childAdded found mounted handled => exact marked.childAdded found handled lane keyed sourced
  | childAddedLate found unmounted => simp [marked.lane.ended unmounted] at found
  | scrollToTop visible => exact unmarked (fun _ _ => rfl) fun _ member => Or.inl member
  | previousReadServed found => exact unmarked (fun _ _ => rfl) fun _ member => Or.inl member
  | @previousReadDone index chatKey bound response snapshot found same =>
    refine unmarked (fun _ _ => rfl) fun sub member => Or.inl ?_
    rw [(ChatWidgetState.listenToPreviousChat_frame _ _).2] at member
    exact member
  | send visible owner =>
    exact unmarked (fun _ _ => seenIn_sendMessage ..) fun _ member => Or.inl member
  | sendWithoutUser visible owner => exact unmarked (fun _ _ => rfl) fun _ member => Or.inl member
  | choose visible => exact unmarked (fun _ _ => rfl) fun _ member => Or.inl member
  | @uploadDone index upload outcome now id newKey found owner =>
    refine unmarked (fun chat user => ?_) fun _ member => Or.inl member
    rcases upload.source.finish_cases upload.chatKey id now newKey outcome with
      nothing | ⟨data, type, whole⟩
    · rw [nothing]
      rfl
    · rw [whole]
      exact seenIn_sendMessage ..
  | uploadWithoutUser found owner => exact unmarked (fun _ _ => rfl) fun _ member => Or.inl member

theorem append {chat : String} {message : Messages} (marked : Marked room)
    (newest : room.db.Newest chat message)
    (sourced : Room.Sourced { room with
      db := room.db.append chat message
      widget := room.widget.onStored chat message }) :
    Marked { room with
      db := room.db.append chat message
      widget := room.widget.onStored chat message } := by
  have grown : ∀ {other stored}, stored ∈ (room.db other).stored →
      stored ∈ (room.db.append chat message other).stored := by
    intro other stored member
    rw [Database.stored_append newest]
    split
    · next same => exact List.mem_append_left _ (same ▸ member)
    · exact member
  refine ⟨marked.lane.onStored, marked.keyed.onStored, sourced,
    fun other => Database.quotesStored_append newest (marked.quotes other), ?_, ?_, ?_, ?_⟩
  · intro item member last present
    obtain ⟨quoted, stored, same⟩ := marked.items item member last present
    exact ⟨quoted, grown stored, same⟩
  · intro sub member
    obtain ⟨old, before, rfl⟩ := List.mem_map.mp member
    split
    · next here =>
      simp only [Bool.and_eq_true, beq_iff_eq] at here
      refine List.pairwise_append.mpr ⟨marked.sorted old before, List.pairwise_singleton _ _, ?_⟩
      intro event waits other added
      rw [List.mem_singleton.mp added]
      have stored : event ∈ (room.db (interpolate old.chatKey)).stored :=
        marked.sourced.queues old before event waits
      exact newest event (here.2 ▸ stored)
    · exact marked.sorted old before
  · intro other user
    obtain ⟨sound, rising⟩ := marked.sound other user
    refine ⟨fun mark member => ?_, rising⟩
    obtain ⟨stored, inside, same⟩ := sound mark member
    exact ⟨stored, grown inside, same⟩
  · intro sub member user mark
    obtain ⟨old, before, rfl⟩ := List.mem_map.mp member
    split
    · next here =>
      simp only [Bool.and_eq_true, beq_iff_eq] at here
      intro inside event waits
      rcases List.mem_append.mp waits with earlier | added
      · exact marked.ahead old before user mark inside event earlier
      · -- a marker is a stored key, and the new message is above all of them
        obtain ⟨stored, present, same⟩ := (marked.sound _ user).1 mark inside
        rw [List.mem_singleton.mp added, ← same]
        exact (newest stored (here.2 ▸ present)).le
    · exact marked.ahead old before user mark

/-- The key stream cancels subscriptions and opens none. -/
theorem onChatKey_fewer (user : Option Int) (key : Option String) (widget : ChatWidgetState) :
    ∀ sub ∈ (widget.onChatKey user key).subscriptions, sub ∈ widget.subscriptions := by
  intro sub member
  by_cases same : key = widget.oldKey
  · rw [ChatWidgetState.onChatKey_same same] at member
    exact member
  · rw [ChatWidgetState.onChatKey_switch same] at member
    exact List.mem_of_mem_filter member

theorem deliver {key : Option String} (marked : Marked room)
    (free : key ≠ room.widget.oldKey → room.widget.firstReads = []) :
    Marked (room.deliver key) := by
  have sourced : (room.deliver key).Sourced := Sourced.onChatKey marked.sourced
  exact marked.frame (marked.lane.onChatKey free) (marked.keyed.onChatKey trivial) sourced rfl rfl
    (fun _ _ => rfl) fun sub member => Or.inl (onChatKey_fewer _ _ _ sub member)

theorem tap {chat : ChatResponse} {user : Option Int} (marked : Marked room)
    (member : chat ∈ room.chats)
    (timely : ∀ last ∈ chat.lastMessage, ∀ id ∈ user,
      (∀ mark ∈ room.marks (interpolate chat.key) id, mark ≤ last.key) ∧
      ∀ sub ∈ room.widget.subscriptions, interpolate sub.chatKey = interpolate chat.key →
        ∀ event ∈ sub.queue, last.key ≤ event.key) :
    Marked { room with writes := room.writes ++ chat.onTap user } := by
  rcases chat.onTap_cases user with nothing | ⟨id, last, owner, present, write⟩
  · exact marked.congr rfl rfl rfl (by simp [nothing])
  · obtain ⟨older, waiting⟩ := timely last present id owner
    rw [write]
    refine ⟨marked.lane, marked.keyed, marked.sourced, marked.quotes, marked.items,
      marked.sorted, marked.sound.mark rfl rfl (marked.items chat member last present) older, ?_⟩
    intro sub inside other mark seen event waits
    rw [Room.marks_append rfl] at seen
    rcases List.mem_append.mp seen with old | new
    · exact marked.ahead sub inside other mark old event waits
    · obtain ⟨added, single, set⟩ := List.mem_filterMap.mp new
      rw [List.mem_singleton.mp single] at set
      obtain ⟨here, field⟩ := Write.seenIn_eq_some.mp set
      cases field
      exact waiting sub inside here.symm event waits

theorem moved (marked : Marked room) (timely : room.Timely action)
    (taken : Room.Moved room action next) : Marked next := by
  have sourced := Room.Sourced.moved marked.sourced taken
  cases taken with
  | append newest => exact marked.append newest sourced
  | quote quoted =>
    refine ⟨marked.lane, marked.keyed, sourced,
      fun other => Database.quotesStored_quote quoted (marked.quotes other), ?_, marked.sorted, ?_,
      marked.ahead⟩
    · simp only [Room.stored, Database.stored_quote]
      exact marked.items
    · simp only [Room.MarkersSound, Room.marks, Database.stored_quote]
      exact marked.sound
  | setUser => exact marked.congr rfl rfl rfl rfl
  | chatKey mounted => exact marked.deliver (timely.1 _ rfl)
  | @chatSnapshot keys =>
    refine ⟨marked.lane, marked.keyed, sourced, marked.quotes, ?_, marked.sorted, marked.sound,
      marked.ahead⟩
    intro item member last present
    obtain ⟨key, -, rfl⟩ := List.mem_map.mp member
    obtain ⟨message, stored, same, -⟩ := marked.quotes key last present
    exact ⟨message, stored, same⟩
  | @tap index chat found mounted =>
    have told : Marked (room.deliver chat.key) :=
      marked.deliver (timely.1 _ (Room.incoming_tap found mounted))
    refine told.tap (List.mem_of_getElem? found) fun last present id owner => ?_
    obtain ⟨older, waiting⟩ := timely.2 chat found last present id owner
    refine ⟨older, fun sub member => waiting sub ?_⟩
    exact onChatKey_fewer _ _ _ sub member
  | @tapLate index chat found unmounted =>
    exact marked.tap (List.mem_of_getElem? found) (timely.2 chat found)
  | widget stepped =>
    exact (marked.stepped stepped).congr (by simp) (by simp) (by simp) (by simp)
  | dispose mounted =>
    exact marked.frame marked.lane.dispose marked.keyed.dispose sourced rfl rfl (fun _ _ => rfl)
      fun _ member => Or.inl (List.mem_of_mem_filter member)

end Marked

/-- In every run in which loads do not overlap and tapped items are up to date,
the read markers are sound and never move backwards. -/
theorem markers_sound {db : Database} {user : Option Int} {actions : List RoomAction}
    {final : Room} (quotes : ∀ chat, (db chat).QuotesStored)
    (meets : Meets Room.step Room.Timely (Room.start db user) actions)
    (reached : run Room.step (Room.start db user) actions = some final) : final.MarkersSound :=
  (run_invariant Marked
    (fun _ _ _ marked timely taken => marked.moved timely (Room.moved_of_step taken))
    (Marked.start quotes) meets reached).sound

theorem twoChats_quotes (chat : String) : (twoChats chat).QuotesStored := by
  have unquoted : (twoChats chat).lastMessage = none := by
    unfold twoChats
    split <;> rfl
  intro last present
  simp [unquoted] at present

def timelyTaps : List RoomAction :=
  [.chatKey (some "a"), .widget (.firstReadServed 0),
   .widget (.firstReadDone 0 [sample "k1", sample "k2"]), .widget (.subscribed 0),
   .widget (.childAdded 0), .append "a" (sample "k3"), .widget (.childAdded 0),
   .quote "a" (sample "k3"), .chatSnapshot ["a", "b"], .tap 0, .tap 1]

theorem timelyTaps_sound :
    ∃ final, run Room.step (Room.start twoChats (some 7)) timelyTaps = some final ∧
      final.marks "a" 7 = ["k2", "k3", "k3"] ∧ final.MarkersSound := by
  have found : (run Room.step (Room.start twoChats (some 7)) timelyTaps).any
      (fun final => decide (final.marks "a" 7 = ["k2", "k3", "k3"])) = true := by decide
  obtain ⟨final, reached, test⟩ := exists_of_run found
  exact ⟨final, reached, of_decide_eq_true test,
    markers_sound twoChats_quotes (by decide) reached⟩

def staleTap : List RoomAction :=
  [.quote "a" (sample "k1"), .chatSnapshot ["a"], .chatKey (some "a"),
   .widget (.firstReadServed 0), .widget (.firstReadDone 0 [sample "k1", sample "k2"]),
   .widget (.subscribed 0), .widget (.childAdded 0), .tap 0]

theorem staleTap_backwards :
    ∃ final, run Room.step (Room.start twoChats (some 7)) staleTap = some final ∧
      final.marks "a" 7 = ["k2", "k1"] ∧ ¬ final.MarkersSound := by
  have found : (run Room.step (Room.start twoChats (some 7)) staleTap).any
      (fun final => decide (final.marks "a" 7 = ["k2", "k1"])) = true := by decide
  obtain ⟨final, reached, test⟩ := exists_of_run found
  have marks := of_decide_eq_true test
  refine ⟨final, reached, marks, fun sound => ?_⟩
  have rising := (sound "a" 7).2
  rw [marks] at rising
  exact absurd rising (by decide)

end SparSomnong.Chat
