import SparSomnong.Chat.Delivery

/-! Scrolling back one page.

A request is bounded by the key of the oldest message on display when it is
made. The reply ends with that message, which is dropped again, so that what is
put in front is what precedes it in the log. At the beginning of the
conversation nothing is left, and the handler takes the first entry of nothing.
-/

set_option autoImplicit false

namespace SparSomnong.Chat

open Semantics

/-! ## One page in front -/

def RoomAction.appliesRead : RoomAction → Bool
  | .widget (.firstReadDone ..) | .widget (.previousReadDone ..) => true
  | _ => false

/-- The live events an action appends to `messages`. -/
def Room.handles (room : Room) : RoomAction → List Messages
  | .widget (.childAdded index) =>
    if room.widget.mounted then
      ((room.widget.subscriptions[index]?).bind fun sub => sub.queue.head?).toList
    else []
  | _ => []

def Room.live (room : Room) : List RoomAction → List Messages
  | [] => []
  | action :: rest => room.handles action ++
    match room.step action with
    | some next => next.live rest
    | none => []

theorem Room.live_cons {room next : Room} {action : RoomAction} {rest : List RoomAction}
    (taken : room.step action = some next) :
    room.live (action :: rest) = room.handles action ++ next.live rest := by
  simp [Room.live, taken]

theorem Room.handles_length (room : Room) (action : RoomAction) :
    (room.handles action).length ≤ 1 := by
  unfold Room.handles
  split
  · split
    · exact Option.length_toList_le
    · simp
  · simp

theorem Room.Moved.messages_of_live {room next : Room} {action : RoomAction}
    (moved : Room.Moved room action next) (kept : action.appliesRead = false) :
    next.widget.messages = room.widget.messages ++ room.handles action := by
  cases moved with
  | chatKey mounted => simp [Room.deliver, Room.handles, ChatWidgetState.onChatKey_messages]
  | tap found mounted => simp [Room.deliver, Room.handles, ChatWidgetState.onChatKey_messages]
  | @widget act widget writes stepped =>
    rw [Room.note_widget]
    cases stepped with
    | firstReadDone found same => cases kept
    | previousReadDone found same => cases kept
    | childAdded found mounted handled =>
      rw [ChatWidgetState.listenToRealTimeChat_messages handled]
      simp [Room.handles, mounted, found]
    | childAddedLate found unmounted => simp [Room.handles, unmounted]
    | _ => simp [Room.handles]
  | dispose mounted => simp [Room.handles, ChatWidgetState.dispose, ChatWidgetState.cancelNoteAdded]
  | _ => simp [Room.handles, ChatWidgetState.onStored]

theorem Room.Moved.stored_prefix {room next : Room} {action : RoomAction}
    (moved : Room.Moved room action next) (key : Option String) :
    room.stored key <+: next.stored key := by
  cases moved with
  | @append chat added newest =>
    simp only [Room.stored, Database.stored_append newest]
    split
    · next same =>
      rw [same]
      exact List.prefix_append _ _
    · exact List.prefix_rfl
  | quote quoted =>
    simp only [Room.stored, Database.stored_quote]
    exact List.prefix_rfl
  | widget stepped =>
    rw [Room.note_stored]
    exact List.prefix_rfl
  | _ => exact List.prefix_rfl

theorem ChatWidgetState.onChatKey_previousReads (user : Option Int) (key : Option String)
    (widget : ChatWidgetState) :
    (widget.onChatKey user key).previousReads = widget.previousReads := by
  by_cases same : key = widget.oldKey
  · rw [onChatKey_same same]
  · rw [onChatKey_switch same]

theorem ChatWidgetState.finishFirstTime_previousReads (chatKey : Option String)
    (response : List Messages) (widget : ChatWidgetState) :
    (widget.finishFirstTime chatKey response).previousReads = widget.previousReads := by
  cases closed : widget.messageStream.closed with
  | false => rw [finishFirstTime_open closed]
  | true => rw [finishFirstTime_closed closed]

theorem ChatWidgetState.listenToPreviousChat_previousReads (response : List Messages)
    (widget : ChatWidgetState) :
    (widget.listenToPreviousChat response).previousReads = widget.previousReads := by
  cases page : (sortByKey Messages.key response).dropLast with
  | nil => simp [listenToPreviousChat_nil page]
  | cons first rest =>
    cases closed : widget.messageStream.closed with
    | false => simp [listenToPreviousChat_open closed page]
    | true => simp [listenToPreviousChat_closed closed page]

/-- A pending request stays in its place until its own reply; only the server
takes its snapshot. -/
theorem Room.Moved.pending {room next : Room} {action : RoomAction} {index : Nat}
    {read : PreviousRead} (moved : Room.Moved room action next)
    (kept : action.appliesRead = false)
    (found : room.widget.previousReads[index]? = some read) :
    next.widget.previousReads[index]? = some read ∨
      read.snapshot = none ∧ next.widget.previousReads[index]? = some { read with
        snapshot :=
          some (limitToLast 4 (endAt Messages.key read.bound (room.stored read.chatKey))) } := by
  cases moved with
  | chatKey mounted =>
    rw [Room.deliver, ChatWidgetState.onChatKey_previousReads]
    exact Or.inl found
  | tap taken mounted =>
    rw [Room.deliver, ChatWidgetState.onChatKey_previousReads]
    exact Or.inl found
  | @widget act widget writes stepped =>
    rw [Room.note_widget]
    cases stepped with
    | firstReadDone read same => cases kept
    | previousReadDone read same => cases kept
    | childAdded event mounted handled =>
      rw [(ChatWidgetState.listenToRealTimeChat_frame handled).2.1]
      exact Or.inl found
    | scrollToTop visible =>
      exact Or.inl (List.getElem?_append_left (List.getElem?_eq_some_iff.mp found).1 ▸ found)
    | @previousReadServed other chatKey bound asked =>
      by_cases same : other = index
      · subst same
        rw [found] at asked
        cases asked
        refine Or.inr ⟨rfl, ?_⟩
        rw [List.getElem?_set_self (List.getElem?_eq_some_iff.mp found).1]
        rfl
      · rw [List.getElem?_set_ne same]
        exact Or.inl found
    | _ => exact Or.inl found
  | _ => exact Or.inl found

theorem page_at_oldest {older later : List Messages} {first : Messages}
    (ordered : Ordered Messages.key (older ++ first :: later)) :
    limitToLast 4 (endAt Messages.key first.key (older ++ first :: later)) =
      limitToLast 3 older ++ [first] := by
  rw [endAt_key ordered]
  exact limitToLast_concat 3 older first

/-- A request made with `first` as the oldest message on display and `older`
stored before it. -/
structure Asked (key : Option String) (older : List Messages) (first : Messages) (index : Nat)
    (room : Room) : Prop where
  log : ∃ later, room.stored key = older ++ first :: later
  read : room.widget.previousReads[index]? = some ⟨key, first.key, none⟩ ∨
    room.widget.previousReads[index]? =
      some ⟨key, first.key, some (limitToLast 3 older ++ [first])⟩

theorem Asked.moved {key : Option String} {older : List Messages} {first : Messages} {index : Nat}
    {room next : Room} {action : RoomAction} (asked : Asked key older first index room)
    (kept : action.appliesRead = false) (moved : Room.Moved room action next) :
    Asked key older first index next := by
  obtain ⟨later, log⟩ := asked.log
  have ordered : Ordered Messages.key (room.stored key) := room.db.stored_ordered _
  constructor
  · obtain ⟨added, grown⟩ := moved.stored_prefix key
    exact ⟨later ++ added, by rw [← grown, log]; simp⟩
  · rcases asked.read with waiting | answered
    · rcases moved.pending kept waiting with same | ⟨-, served⟩
      · exact Or.inl same
      · rw [log] at ordered served
        rw [page_at_oldest ordered] at served
        exact Or.inr served
    · rcases moved.pending kept answered with same | ⟨absent, -⟩
      · exact Or.inr same
      · cases absent

theorem asked_of_run {key : Option String} {older : List Messages} {first : Messages}
    {index : Nat} {room before : Room} {between : List RoomAction}
    (asked : Asked key older first index room)
    (kept : ∀ action ∈ between, action.appliesRead = false)
    (reached : run Room.step room between = some before) (rest : List RoomAction) :
    Asked key older first index before ∧
      before.widget.messages ++ before.live rest =
        room.widget.messages ++ room.live (between ++ rest) := by
  induction between generalizing room with
  | nil =>
    cases reached
    exact ⟨asked, rfl⟩
  | cons action tail ih =>
    obtain ⟨next, taken, onward⟩ := run_cons_eq_some.mp reached
    have moved := Room.moved_of_step taken
    have quiet := kept action (by simp)
    obtain ⟨still, grown⟩ := ih (asked.moved quiet moved)
      (fun other member => kept other (by simp [member])) onward
    refine ⟨still, ?_⟩
    rw [grown, moved.messages_of_live quiet, List.cons_append, Room.live_cons taken,
      List.append_assoc]

def ChatWidgetState.AtCursor (widget : ChatWidgetState) : Prop :=
  widget.messages.head?.map Messages.key = some widget.lastMessageKey

instance (widget : ChatWidgetState) : Decidable widget.AtCursor :=
  inferInstanceAs (Decidable (_ = _))

theorem ChatWidgetState.atCursor_of_page {response : List Messages} {widget : ChatWidgetState}
    (page : (sortByKey Messages.key response).dropLast ≠ []) :
    (widget.listenToPreviousChat response).AtCursor := by
  obtain ⟨first, rest, cut⟩ := List.exists_cons_of_ne_nil page
  cases closed : widget.messageStream.closed with
  | false => simp [AtCursor, listenToPreviousChat_open closed cut]
  | true => simp [AtCursor, listenToPreviousChat_closed closed cut]

theorem Asked.answered {key : Option String} {older : List Messages} {first : Messages}
    {index : Nat} {room next : Room} {response : List Messages}
    (asked : Asked key older first index room) (more : older ≠ [])
    (moved : Room.Moved room (.widget (.previousReadDone index response)) next) :
    next.widget.messages = limitToLast 3 older ++ room.widget.messages ∧
      next.widget.AtCursor := by
  obtain ⟨later, log⟩ := asked.log
  have ordered : Ordered Messages.key (room.stored key) := room.db.stored_ordered _
  cases moved with
  | @widget act widget writes stepped =>
    rw [Room.note_widget]
    cases stepped with
    | @previousReadDone _ chatKey bound _ snapshot found same =>
      have window : snapshot = limitToLast 3 older ++ [first] := by
        rcases asked.read with waiting | served
        · rw [found] at waiting
          cases waiting
        · rw [found] at served
          cases served
          rfl
      subst window
      have sub : (limitToLast 3 older ++ [first]).Sublist (older ++ first :: later) :=
        ((limitToLast_suffix 3 older).sublist).append (by simp)
      rw [log] at ordered
      have page : (sortByKey Messages.key response).dropLast = limitToLast 3 older := by
        rw [sortByKey_of_perm (ordered.sublist sub) same, List.dropLast_concat]
      rw [ChatWidgetState.listenToPreviousChat_messages, page]
      refine ⟨rfl, ChatWidgetState.atCursor_of_page ?_⟩
      rw [page]
      exact mt (limitToLast_nil_iff (by decide : 0 < 3)).mp more

/-- A scroll to the top, the reply to the request it makes, and what lies between. -/
def onePage (room : Room) (between : List RoomAction) (response : List Messages) :
    List RoomAction :=
  .widget .scrollToTop ::
    (between ++ [.widget (.previousReadDone room.widget.previousReads.length response)])

/-- With `older` stored before what is on display, one page puts its last three
messages in front, whatever arrives on the live feed meanwhile. -/
theorem scroll_back_extends {room final : Room} {older response : List Messages}
    {between : List RoomAction}
    (whole : room.stored room.widget.chatKey = older ++ room.widget.messages)
    (cursor : room.widget.AtCursor) (more : older ≠ [])
    (kept : ∀ action ∈ between, action.appliesRead = false)
    (reached : run Room.step room (onePage room between response) = some final) :
    final.widget.messages = limitToLast 3 older ++ room.widget.messages ++
        room.live (onePage room between response) ∧
      (limitToLast 3 older).length = min 3 older.length ∧
      limitToLast 3 older ++ room.widget.messages <:+ room.stored room.widget.chatKey ∧
      Ordered Messages.key (limitToLast 3 older ++ room.widget.messages) ∧
      final.widget.AtCursor := by
  have suffix : limitToLast 3 older ++ room.widget.messages <:+
      room.stored room.widget.chatKey := by
    obtain ⟨before, cut⟩ := limitToLast_suffix 3 older
    refine ⟨before, ?_⟩
    rw [whole, ← List.append_assoc, cut]
  have ordered := (room.db.stored_ordered (interpolate room.widget.chatKey)).sublist suffix.sublist
  obtain ⟨first, rest, shown⟩ := List.exists_cons_of_ne_nil
    (show room.widget.messages ≠ [] by rintro none; simp [ChatWidgetState.AtCursor, none] at cursor)
  have bound : room.widget.lastMessageKey = first.key := by
    simpa [ChatWidgetState.AtCursor, shown, eq_comm] using cursor
  obtain ⟨next, scrolled, onward⟩ := run_cons_eq_some.mp reached
  have moved := Room.moved_of_step scrolled
  -- the request is the last one, and its bound is the key of `first`
  have asked : Asked room.widget.chatKey older first room.widget.previousReads.length next := by
    cases moved with
    | @widget act widget writes stepped =>
      cases stepped with
      | scrollToTop visible =>
        refine ⟨⟨rest, by rw [Room.note_stored]; exact shown ▸ whole⟩, Or.inl ?_⟩
        simp [bound]
  obtain ⟨before, waited, last⟩ := run_append_eq_some.mp onward
  obtain ⟨final', done, ended⟩ := run_cons_eq_some.mp last
  cases ended
  obtain ⟨still, grown⟩ := asked_of_run asked kept waited
    [.widget (.previousReadDone room.widget.previousReads.length response)]
  obtain ⟨extended, atCursor⟩ := still.answered more (Room.moved_of_step done)
  refine ⟨?_, length_limitToLast 3 older, suffix, ordered, atCursor⟩
  have opening : next.widget.messages = room.widget.messages := by
    simpa [Room.handles] using moved.messages_of_live rfl
  rw [Room.live_cons done] at grown
  rw [onePage, Room.live_cons scrolled, extended]
  simp only [Room.handles, Room.live, List.append_nil, List.nil_append] at grown ⊢
  rw [grown, opening, List.append_assoc]

def allButTwo : Room :=
  { Room.start longChat (some 7) with widget := {
      chatKey := some "a"
      oldKey := some "a"
      lastMessageKey := "k03"
      messages := longLog.drop 2
      messageStream := ⟨some (), false⟩
      onNoteAddedSubscription := some 0
      subscriptions := [⟨0, some "a", true, []⟩]
      nextSubscription := 1 } }

def messageMeanwhile : List RoomAction :=
  [.append "a" (sample "k14"), .widget (.previousReadServed 0), .widget (.childAdded 0)]

theorem messageMeanwhile_extends :
    ∃ final, run Room.step allButTwo (onePage allButTwo messageMeanwhile
        [sample "k02", sample "k03", sample "k01"]) = some final ∧
      final.widget.messages = longLog ++ [sample "k14"] ∧ final.widget.AtCursor := by
  have found : (run Room.step allButTwo (onePage allButTwo messageMeanwhile
      [sample "k02", sample "k03", sample "k01"])).any (fun _ => true) = true := by decide
  obtain ⟨final, reached, -⟩ := exists_of_run found
  obtain ⟨messages, -, -, -, cursor⟩ := @scroll_back_extends allButTwo final (longLog.take 2) _ _
    (by decide) (by decide) (by decide) (by decide) reached
  exact ⟨final, reached, messages.trans (by decide), cursor⟩

/-! ## At the beginning -/

/-- What stops `_listenToPreviousChat` after its read: `map` of a null value, the
first entry of an empty page, or `add` on the closed stream. -/
inductive PageFault where
  | noSuchMethod
  | rangeError
  | badState
  deriving DecidableEq, Repr

def ChatWidgetState.previousChatFault (response : List Messages) (widget : ChatWidgetState) :
    Option PageFault :=
  if response = [] then some .noSuchMethod
  else if (sortByKey Messages.key response).dropLast = [] then some .rangeError
  else if widget.messageStream.closed then some .badState
  else none

theorem ChatWidgetState.page_of_no_fault {response : List Messages} {widget : ChatWidgetState}
    (completes : widget.previousChatFault response = none) :
    (sortByKey Messages.key response).dropLast ≠ [] := by
  unfold previousChatFault at completes
  split at completes
  · cases completes
  · split at completes
    · cases completes
    · assumption

/-- `messages` is empty or starts with the first message of the conversation. -/
def Room.AtBeginning (room : Room) : Prop :=
  room.widget.messages = [] ∨
    room.widget.messages.head? = (room.stored room.widget.chatKey).head?

instance (room : Room) : Decidable room.AtBeginning :=
  inferInstanceAs (Decidable (_ ∨ _))

def ChatWidgetState.Idle (widget : ChatWidgetState) : Prop :=
  widget.firstReads = [] ∧ widget.previousReads = []

instance (widget : ChatWidgetState) : Decidable widget.Idle :=
  inferInstanceAs (Decidable (_ ∧ _))

/-- With no read pending, the cursor is the key of the oldest message on display. -/
def ChatWidgetState.Steady (widget : ChatWidgetState) : Prop :=
  widget.Idle → widget.messages ≠ [] → widget.AtCursor

instance (widget : ChatWidgetState) : Decidable widget.Steady :=
  inferInstanceAs (Decidable (_ → _ → _))

/-- A room with the history of its page requests: for each pending one, whether
it was made at the beginning, and whether the reply to such a one threw or
changed what is on display. -/
structure Scrolled where
  room : Room
  fromBeginning : List Bool := []
  disturbed : Bool := false

namespace Scrolled

def start (db : Database) (user : Option Int) : Scrolled := { room := Room.start db user }

/-- The reply does nothing, and does it without an exception. -/
def stopsCleanly (response : List Messages) (before after : ChatWidgetState) : Bool :=
  before.previousChatFault response = none ∧ after.messages = before.messages ∧
    after.lastMessageKey = before.lastMessageKey

def note (scrolled : Scrolled) (next : Room) : RoomAction → Scrolled
  | .widget .scrollToTop =>
    { scrolled with
      room := next
      fromBeginning := scrolled.fromBeginning ++ [decide scrolled.room.AtBeginning] }
  | .widget (.previousReadDone index response) =>
    { room := next
      fromBeginning := scrolled.fromBeginning.eraseIdx index
      disturbed := scrolled.disturbed || (scrolled.fromBeginning[index]? == some true &&
        !stopsCleanly response scrolled.room.widget next.widget) }
  | _ => { scrolled with room := next }

def step (scrolled : Scrolled) (action : RoomAction) : Option Scrolled :=
  (scrolled.room.step action).map fun next => scrolled.note next action

/-- Every request from the beginning stopped cleanly, and the cursor is in place. -/
def Clean (scrolled : Scrolled) : Prop :=
  scrolled.disturbed = false ∧ scrolled.room.widget.Steady

instance (scrolled : Scrolled) : Decidable scrolled.Clean :=
  inferInstanceAs (Decidable (_ ∧ _))

/-- A live event that starts the display with no read pending has the key the
cursor is on already. -/
def Anchored (room : Room) (action : RoomAction) : Prop :=
  ∀ event ∈ room.handles action, room.widget.Idle → room.widget.messages = [] →
    event.key = room.widget.lastMessageKey

/-- No reply to a request from the beginning is applied, and no empty page ends
the last pending read while the cursor is off the display. -/
def Continued (scrolled : Scrolled) : RoomAction → Prop
  | .widget (.previousReadDone index response) =>
    scrolled.fromBeginning[index]? ≠ some true ∧
      (scrolled.room.widget.firstReads = [] → scrolled.room.widget.previousReads.length = 1 →
        scrolled.room.widget.messages ≠ [] → ¬ scrolled.room.widget.AtCursor →
          (sortByKey Messages.key response).dropLast ≠ [])
  | _ => True

def Careful (scrolled : Scrolled) (action : RoomAction) : Prop :=
  Anchored scrolled.room action ∧ scrolled.Continued action

instance (room : Room) (action : RoomAction) : Decidable (Anchored room action) :=
  inferInstanceAs (Decidable (∀ _ ∈ _, _ → _ → _))

instance (scrolled : Scrolled) : (action : RoomAction) → Decidable (scrolled.Continued action)
  | .widget (.previousReadDone ..) => inferInstanceAs (Decidable (_ ∧ (_ → _ → _ → _ → _)))
  | .widget (.firstReadServed _) | .widget (.firstReadDone ..) | .widget (.subscribed _)
  | .widget (.childAdded _) | .widget .scrollToTop | .widget (.previousReadServed _)
  | .widget (.send ..) | .widget (.choose _) | .widget (.uploadDone ..)
  | .append .. | .quote .. | .setUser _ | .chatKey _ | .chatSnapshot _ | .tap _ | .dispose =>
    isTrue trivial

instance (scrolled : Scrolled) (action : RoomAction) : Decidable (scrolled.Careful action) :=
  inferInstanceAs (Decidable (_ ∧ _))

end Scrolled

theorem ChatWidgetState.cursorAfter_of_shown {response : List Messages} (widget : ChatWidgetState)
    (shown : (sortByKey Messages.key response).dropLast ≠ []) :
    (sortByKey Messages.key response).dropLast.head?.map Messages.key =
      some (widget.cursorAfter response) := by
  have some : response ≠ [] := by
    rintro rfl
    simp [sortByKey] at shown
  obtain ⟨first, rest, cut⟩ := List.exists_cons_of_ne_nil shown
  simp [cursorAfter, some, cut]

theorem ChatWidgetState.steady_of_firstRead (chatKey : Option String) (response : List Messages)
    (widget : ChatWidgetState) : (widget.finishFirstTime chatKey response).Steady := by
  intro _ shown
  cases closed : widget.messageStream.closed with
  | false =>
    rw [finishFirstTime_open closed] at shown ⊢
    exact widget.cursorAfter_of_shown shown
  | true =>
    rw [finishFirstTime_closed closed] at shown ⊢
    exact widget.cursorAfter_of_shown shown

theorem ChatWidgetState.onChatKey_cursor (user : Option Int) (key : Option String)
    (widget : ChatWidgetState) :
    (widget.onChatKey user key).lastMessageKey = widget.lastMessageKey ∧
      ((widget.onChatKey user key).Idle → widget.Idle) := by
  by_cases same : key = widget.oldKey
  · rw [onChatKey_same same]
    exact ⟨rfl, id⟩
  · rw [onChatKey_switch same]
    exact ⟨rfl, fun idle => ⟨(List.append_eq_nil_iff.mp idle.1).1, idle.2⟩⟩

theorem ChatWidgetState.listenToRealTimeChat_cursor {user : Option Int} {event : Messages}
    {widget next : ChatWidgetState} {writes : List Write}
    (handled : widget.listenToRealTimeChat user event = (next, writes)) :
    next.lastMessageKey = widget.lastMessageKey := by
  cases closed : widget.messageStream.closed with
  | false =>
    rw [listenToRealTimeChat_open closed] at handled
    cases handled
    rfl
  | true =>
    rw [listenToRealTimeChat_closed closed] at handled
    cases handled
    rfl

theorem Room.Moved.cursor_of_live {room next : Room} {action : RoomAction}
    (moved : Room.Moved room action next) (kept : action.appliesRead = false) :
    next.widget.lastMessageKey = room.widget.lastMessageKey ∧
      (next.widget.Idle → room.widget.Idle) := by
  cases moved with
  | chatKey mounted => exact ChatWidgetState.onChatKey_cursor _ _ _
  | tap found mounted => exact ChatWidgetState.onChatKey_cursor _ _ _
  | @widget act widget writes stepped =>
    rw [Room.note_widget]
    cases stepped with
    | firstReadServed found => exact ⟨rfl, fun idle => ⟨by simpa using idle.1, idle.2⟩⟩
    | previousReadServed found => exact ⟨rfl, fun idle => ⟨idle.1, by simpa using idle.2⟩⟩
    | scrollToTop visible => exact ⟨rfl, fun idle => absurd idle.2 (by simp)⟩
    | firstReadDone found same => cases kept
    | previousReadDone found same => cases kept
    | childAdded found mounted handled =>
      obtain ⟨first, previous, -⟩ := ChatWidgetState.listenToRealTimeChat_frame handled
      have cursor := ChatWidgetState.listenToRealTimeChat_cursor handled
      exact ⟨cursor, fun idle => ⟨first.symm.trans idle.1, previous.symm.trans idle.2⟩⟩
    | _ => exact ⟨rfl, id⟩
  | _ => exact ⟨rfl, id⟩

theorem Room.Moved.idle_of_handles {room next : Room} {action : RoomAction}
    (moved : Room.Moved room action next) (some : room.handles action ≠ [])
    (idle : room.widget.Idle) : next.widget.Idle := by
  cases moved with
  | @widget act widget writes stepped =>
    rw [Room.note_widget]
    cases stepped with
    | childAdded found mounted handled =>
      obtain ⟨first, previous, -⟩ := ChatWidgetState.listenToRealTimeChat_frame handled
      exact ⟨first.trans idle.1, previous.trans idle.2⟩
    | childAddedLate found unmounted => exact idle
    | _ => exact absurd rfl some
  | _ => exact absurd rfl some

/-- Between two replies, the cursor is lost exactly where a live event starts the
display under another key. -/
theorem Room.Moved.steady_iff {room next : Room} {action : RoomAction}
    (moved : Room.Moved room action next) (kept : action.appliesRead = false)
    (steady : room.widget.Steady) : next.widget.Steady ↔ Scrolled.Anchored room action := by
  have messages := moved.messages_of_live kept
  obtain ⟨cursor, idle⟩ := moved.cursor_of_live kept
  simp only [ChatWidgetState.Steady, ChatWidgetState.AtCursor, messages, cursor]
  cases shown : room.widget.messages with
  | cons first rest =>
    refine iff_of_true (fun still _ => ?_) (fun event _ _ none => by simp [none] at shown)
    have before := steady (idle still) (by simp [shown])
    simpa [ChatWidgetState.AtCursor, shown] using before
  | nil =>
    cases handled : room.handles action with
    | nil => simp [Scrolled.Anchored, handled]
    | cons event rest =>
      have still : room.widget.Idle ↔ next.widget.Idle :=
        ⟨moved.idle_of_handles (by simp [handled]), idle⟩
      obtain rfl : rest = [] := by
        have length := room.handles_length action
        simpa [handled] using length
      simp [Scrolled.Anchored, handled, still, shown]

/-- After a page, the cursor is off the display only where it was before and the
page is empty. -/
theorem ChatWidgetState.steady_page_iff (response : List Messages) (reads : List PreviousRead)
    (widget : ChatWidgetState) :
    (listenToPreviousChat response { widget with previousReads := reads }).Steady ↔
      (widget.firstReads = [] → reads = [] → widget.messages ≠ [] → ¬ widget.AtCursor →
        (sortByKey Messages.key response).dropLast ≠ []) := by
  by_cases page : (sortByKey Messages.key response).dropLast = []
  · rw [listenToPreviousChat_nil page]
    simp only [Steady, Idle, AtCursor, page]
    tauto
  · exact iff_of_true (fun _ _ => atCursor_of_page page) (fun _ _ _ _ => page)

theorem Scrolled.not_stopsCleanly (response : List Messages) (reads : List PreviousRead)
    (widget : ChatWidgetState) :
    stopsCleanly response widget
      (ChatWidgetState.listenToPreviousChat response { widget with previousReads := reads }) =
        false := by
  rw [stopsCleanly, decide_eq_false_iff_not]
  rintro ⟨completes, same, -⟩
  rw [ChatWidgetState.listenToPreviousChat_messages, List.append_left_eq_self] at same
  exact ChatWidgetState.page_of_no_fault completes same

namespace Scrolled

variable {scrolled next : Scrolled} {action : RoomAction}

theorem clean_iff_of_live (kept : action.appliesRead = false) (clean : scrolled.Clean)
    (taken : scrolled.step action = some next) : next.Clean ↔ scrolled.Careful action := by
  obtain ⟨room, moved, noted⟩ := Option.map_eq_some_iff.mp taken
  have facts : next.room = room ∧ next.disturbed = scrolled.disturbed ∧
      scrolled.Continued action := by
    subst noted
    cases action with
    | widget act =>
      cases act with
      | previousReadDone index response => cases kept
      | _ => exact ⟨rfl, rfl, trivial⟩
    | _ => exact ⟨rfl, rfl, trivial⟩
  obtain ⟨rfl, undisturbed, continued⟩ := facts
  have steady := (Room.moved_of_step moved).steady_iff kept clean.2
  rw [Clean, undisturbed, Careful, ← steady]
  exact ⟨fun after => ⟨after.2, continued⟩, fun after => ⟨clean.1, after.1⟩⟩

theorem clean_iff (clean : scrolled.Clean) (taken : scrolled.step action = some next) :
    next.Clean ↔ scrolled.Careful action := by
  cases live : action.appliesRead with
  | false => exact clean_iff_of_live live clean taken
  | true =>
    obtain ⟨room, moved, noted⟩ := Option.map_eq_some_iff.mp taken
    subst noted
    cases Room.moved_of_step moved with
    | @widget act widget writes stepped =>
      cases stepped with
      | firstReadDone found same =>
        have steady := ChatWidgetState.steady_of_firstRead
        exact iff_of_true ⟨clean.1, steady _ _ _⟩ ⟨(fun _ none => nomatch none), trivial⟩
      | @previousReadDone index chatKey bound response snapshot found same =>
        have last : scrolled.room.widget.previousReads.eraseIdx index = [] ↔
            scrolled.room.widget.previousReads.length = 1 := by
          have inside := (List.getElem?_eq_some_iff.mp found).1
          rw [← List.length_eq_zero_iff, List.length_eraseIdx_of_lt inside]
          omega
        have steady := ChatWidgetState.steady_page_iff response
          (scrolled.room.widget.previousReads.eraseIdx index) scrolled.room.widget
        have spoilt := not_stopsCleanly response
          (scrolled.room.widget.previousReads.eraseIdx index) scrolled.room.widget
        rw [last] at steady
        have anchored : Anchored scrolled.room (.widget (.previousReadDone index response)) :=
          fun _ none => nomatch none
        simp only [Clean, note, Room.note_widget, spoilt, clean.1, Careful, Continued, anchored,
          true_and]
        exact and_congr (by simp) steady
      | _ => cases live
    | _ => cases live

theorem aligned_step (taken : scrolled.step action = some next)
    (aligned : scrolled.fromBeginning.length = scrolled.room.widget.previousReads.length) :
    next.fromBeginning.length = next.room.widget.previousReads.length := by
  obtain ⟨room, moved, rfl⟩ := Option.map_eq_some_iff.mp taken
  cases Room.moved_of_step moved with
  | chatKey mounted =>
    simp only [note, Room.deliver, ChatWidgetState.onChatKey_previousReads]
    exact aligned
  | tap tapped mounted =>
    simp only [note, Room.deliver, ChatWidgetState.onChatKey_previousReads]
    exact aligned
  | @widget act widget writes stepped =>
    cases stepped with
    | scrollToTop visible => simp [note, Room.note_widget, aligned]
    | previousReadDone found same =>
      simp [note, Room.note_widget, ChatWidgetState.listenToPreviousChat_previousReads,
        List.length_eraseIdx, aligned]
    | previousReadServed found => simp [note, Room.note_widget, aligned]
    | childAdded event mounted handled =>
      simp only [note, Room.note_widget, (ChatWidgetState.listenToRealTimeChat_frame handled).2.1]
      exact aligned
    | firstReadDone found same =>
      simp only [note, Room.note_widget, ChatWidgetState.finishFirstTime_previousReads]
      exact aligned
    | _ =>
      simp only [note, Room.note_widget]
      exact aligned
  | _ => exact aligned

theorem aligned_of_run {db : Database} {user : Option Int} {actions : List RoomAction}
    {final : Scrolled} (reached : run step (start db user) actions = some final) :
    final.fromBeginning.length = final.room.widget.previousReads.length :=
  run_invariant_of_step
    (fun scrolled => scrolled.fromBeginning.length = scrolled.room.widget.previousReads.length)
    (fun _ _ _ aligned taken => aligned_step taken aligned) rfl reached

/-- Scrolling stops cleanly throughout a run exactly when no request from the
beginning is answered and the display never starts under a key other than the
cursor's. -/
theorem clean_throughout_iff {db : Database} {user : Option Int} {actions : List RoomAction}
    {final : Scrolled} (reached : run step (start db user) actions = some final) :
    Always step Clean (start db user) actions ↔ Meets step Careful (start db user) actions :=
  always_iff_meets (fun _ => True) (fun _ _ _ _ _ => trivial)
    (fun _ _ _ _ clean taken => clean_iff clean taken) trivial
    ⟨rfl, fun _ none => absurd rfl none⟩ reached

def backToFirst : List RoomAction :=
  [.chatKey (some "a"), .widget (.firstReadServed 0), .widget (.firstReadDone 0 (longLog.drop 2)),
   .widget (.subscribed 0), .widget (.childAdded 0), .widget .scrollToTop,
   .widget (.previousReadServed 0), .widget (.previousReadDone 0 (longLog.take 3))]

theorem backToFirst_clean :
    ∃ final, run step (start longChat (some 7)) backToFirst = some final ∧
      final.room.widget.messages = longLog ∧
      Always step Clean (start longChat (some 7)) backToFirst := by
  have found : (run step (start longChat (some 7)) backToFirst).any
      (fun final => decide (final.room.widget.messages = longLog)) = true := by decide
  obtain ⟨final, reached, test⟩ := exists_of_run found
  exact ⟨final, reached, of_decide_eq_true test, (clean_throughout_iff reached).mpr (by decide)⟩

def oneMessage : Database
  | "a" => Conversation.ofLog [sample "k1"] (by decide)
  | _ => Conversation.empty

def scrollOverOne : List RoomAction :=
  [.chatKey (some "a"), .widget (.firstReadServed 0), .widget (.firstReadDone 0 [sample "k1"]),
   .widget (.subscribed 0), .widget (.childAdded 0), .widget .scrollToTop,
   .widget (.previousReadServed 0)]

/-- The cursor is still the empty string, the page is null, and the handler throws. -/
theorem scrollOverOne_throws :
    ∃ waiting final, run step (start oneMessage (some 7)) scrollOverOne = some waiting ∧
      waiting.room.AtBeginning ∧
      waiting.room.widget.previousChatFault [] = some .noSuchMethod ∧
      waiting.step (.widget (.previousReadDone 0 [])) = some final ∧
      final.room.widget.Idle ∧ final.room.widget.messages = [sample "k1"] ∧
      final.room.widget.lastMessageKey = "" ∧ final.disturbed = true ∧ ¬ final.Clean := by
  have found : (run step (start oneMessage (some 7)) scrollOverOne).any (fun waiting =>
      decide (waiting.room.AtBeginning ∧
        waiting.room.widget.previousChatFault [] = some .noSuchMethod) &&
      (waiting.step (.widget (.previousReadDone 0 []))).any (fun final =>
        decide (final.room.widget.Idle ∧ final.room.widget.messages = [sample "k1"] ∧
          final.room.widget.lastMessageKey = "" ∧ final.disturbed = true ∧ ¬ final.Clean))) =
            true := by decide
  obtain ⟨waiting, reached, test⟩ := exists_of_run found
  simp only [Bool.and_eq_true, decide_eq_true_eq, Option.any_eq_true] at test
  obtain ⟨⟨beginning, fault⟩, final, taken, spoilt⟩ := test
  exact ⟨waiting, final, reached, beginning, fault, taken, spoilt⟩

end Scrolled

end SparSomnong.Chat
