import SparSomnong.Chat.Sending
import SparSomnong.Semantics.BehaviorSubject

/-! The state of a ChatWidget and its handlers.

An async handler is cut at its awaits: the part before runs with the event
that starts it, the rest runs when the awaited reply arrives. Suspended
handlers and open subscriptions are part of the state, so replies can arrive
in any order. The scroll animations and the recorder display are left out.
-/

set_option autoImplicit false

namespace SparSomnong.Chat

open Semantics

/-- A suspended `_providerFireBaseFirstTime`, waiting for `limitToLast(11).once()`.
The snapshot is absent until the server has taken it. -/
structure FirstRead where
  chatKey : Option String
  snapshot : Option (List Messages)
  deriving DecidableEq, Repr

/-- A suspended `_listenToPreviousChat`; its bound was read when it was issued. -/
structure PreviousRead where
  chatKey : Option String
  bound : String
  snapshot : Option (List Messages)
  deriving DecidableEq, Repr

/-- An `onChildAdded` subscription that was opened and not cancelled. The queue
holds the events the server emitted and the widget has not handled. -/
structure Subscription where
  id : Nat
  chatKey : Option String
  established : Bool
  queue : List Messages
  deriving DecidableEq, Repr

structure Upload where
  id : Nat
  source : Source
  chatKey : Option String
  user : Option Int
  deriving DecidableEq, Repr

structure ChatWidgetState where
  mounted : Bool := true
  chatKey : Option String := none
  oldKey : Option String := some ""
  lastMessageKey : String := ""
  firstMessageKey : String := ""
  messages : List Messages := []
  messageStream : BehaviorSubject Unit := {}
  onNoteAddedSubscription : Option Nat := none
  firstReads : List FirstRead := []
  previousReads : List PreviousRead := []
  subscriptions : List Subscription := []
  uploads : List Upload := []
  nextSubscription : Nat := 0
  nextUpload : Nat := 0
  /-- How often `add` was called on the closed message stream. -/
  lateAdds : Nat := 0

namespace ChatWidgetState

/-- `_messageStream.add(messages)`. Every event is the same list object, so only
that something was added is kept. False where `add` throws. -/
def publish (widget : ChatWidgetState) : ChatWidgetState × Bool :=
  match widget.messageStream.add () with
  | some stream => ({ widget with messageStream := stream }, true)
  | none => ({ widget with lateAdds := widget.lateAdds + 1 }, false)

/-- `_onNoteAddedSubscription?.cancel()`; the slot keeps the cancelled subscription. -/
def cancelNoteAdded (widget : ChatWidgetState) : ChatWidgetState :=
  { widget with subscriptions :=
      widget.subscriptions.filter fun sub => widget.onNoteAddedSubscription ≠ some sub.id }

def providerFireBaseFirstTime (user : Option Int) (widget : ChatWidgetState) : ChatWidgetState :=
  -- without a user, `user.id` throws after `oldKey` was set
  if widget.chatKey ≠ widget.oldKey then
    -- only the subscription in the slot is cancelled, and only before the read
    let switched := { widget.cancelNoteAdded with oldKey := widget.chatKey }
    match user with
    | some _ => { switched with firstReads := switched.firstReads ++ [⟨widget.chatKey, none⟩] }
    | none => switched
  else widget

def onChatKey (user : Option Int) (key : Option String) (widget : ChatWidgetState) :
    ChatWidgetState :=
  providerFireBaseFirstTime user { widget with chatKey := key }

def providerRealTime (chatKey : Option String) (widget : ChatWidgetState) : ChatWidgetState :=
  { widget with
    onNoteAddedSubscription := some widget.nextSubscription
    subscriptions := widget.subscriptions ++ [⟨widget.nextSubscription, chatKey, false, []⟩]
    nextSubscription := widget.nextSubscription + 1 }

def listenToChatFirstTime (response : List Messages) (widget : ChatWidgetState) :
    ChatWidgetState × Bool :=
  -- a conversation without messages reads as null
  if response ≠ [] then
    -- the newest message is left to the live feed
    let chat := (sortByKey Messages.key response).dropLast
    publish { widget with
      lastMessageKey := (chat.head?.map Messages.key).getD ""
      firstMessageKey := (chat.getLast?.map Messages.key).getD ""
      messages := chat }
  else publish { widget with messages := [] }

def finishFirstTime (chatKey : Option String) (response : List Messages)
    (widget : ChatWidgetState) : ChatWidgetState :=
  -- there is no subscription if the read threw
  match widget.listenToChatFirstTime response with
  | (loaded, true) => loaded.providerRealTime chatKey
  | (loaded, false) => loaded

def listenToPreviousChat (response : List Messages) (widget : ChatWidgetState) : ChatWidgetState :=
  -- a null response and an empty page throw before any change
  match (sortByKey Messages.key response).dropLast with
  -- `chat[0]`
  | [] => widget
  | first :: rest =>
    (publish { widget with
      lastMessageKey := first.key
      messages := first :: rest ++ widget.messages }).1

def listenToRealTimeChat (user : Option Int) (event : Messages) (widget : ChatWidgetState) :
    ChatWidgetState × List Write :=
  -- the marker is written under the key the widget has now
  match publish { widget with messages := widget.messages ++ [event] } with
  | (shown, true) =>
    match user with
    | some id => (shown, [⟨shown.chatKey, .lastSeen id event.key⟩])
    | none => (shown, [])
  | (shown, false) => (shown, [])

def dispose (widget : ChatWidgetState) : ChatWidgetState :=
  { widget.cancelNoteAdded with
    mounted := false
    messageStream := widget.messageStream.close }

/-- The column with the list and the composer is built once there is data. -/
def composer (widget : ChatWidgetState) : Bool :=
  widget.mounted && widget.messageStream.hasValue

/-- A message stored in `chat` reaches the established subscriptions to it. -/
def onStored (chat : String) (message : Messages) (widget : ChatWidgetState) : ChatWidgetState :=
  { widget with subscriptions := widget.subscriptions.map fun sub =>
      if sub.established && interpolate sub.chatKey == chat then
        { sub with queue := sub.queue ++ [message] }
      else sub }

end ChatWidgetState

/-! ## What the handlers change -/

namespace ChatWidgetState

theorem onChatKey_same {user : Option Int} {key : Option String} {widget : ChatWidgetState}
    (same : key = widget.oldKey) :
    widget.onChatKey user key = { widget with chatKey := key } := by
  simp [onChatKey, providerFireBaseFirstTime, same]

def askedFirst (user : Option Int) (key : Option String) : List FirstRead :=
  match user with
  | some _ => [⟨key, none⟩]
  | none => []

theorem onChatKey_switch {user : Option Int} {key : Option String} {widget : ChatWidgetState}
    (switch : key ≠ widget.oldKey) :
    widget.onChatKey user key = { widget with
      chatKey := key
      oldKey := key
      subscriptions := widget.cancelNoteAdded.subscriptions
      firstReads := widget.firstReads ++ askedFirst user key } := by
  cases user <;> simp [onChatKey, providerFireBaseFirstTime, switch, cancelNoteAdded, askedFirst]

def cursorAfter (response : List Messages) (widget : ChatWidgetState) : String :=
  -- an empty conversation leaves the cursor
  if response ≠ [] then
    ((sortByKey Messages.key response).dropLast.head?.map Messages.key).getD ""
  else widget.lastMessageKey

def firstKeyAfter (response : List Messages) (widget : ChatWidgetState) : String :=
  if response ≠ [] then
    ((sortByKey Messages.key response).dropLast.getLast?.map Messages.key).getD ""
  else widget.firstMessageKey

theorem finishFirstTime_open {chatKey : Option String} {response : List Messages}
    {widget : ChatWidgetState} (opened : widget.messageStream.closed = false) :
    widget.finishFirstTime chatKey response = { widget with
      lastMessageKey := widget.cursorAfter response
      firstMessageKey := widget.firstKeyAfter response
      messages := (sortByKey Messages.key response).dropLast
      messageStream := ⟨some (), false⟩
      onNoteAddedSubscription := some widget.nextSubscription
      subscriptions := widget.subscriptions ++ [⟨widget.nextSubscription, chatKey, false, []⟩]
      nextSubscription := widget.nextSubscription + 1 } := by
  cases response with
  | nil =>
    simp [finishFirstTime, listenToChatFirstTime, publish, BehaviorSubject.add, opened,
      providerRealTime, cursorAfter, firstKeyAfter, sortByKey]
  | cons first rest =>
    simp [finishFirstTime, listenToChatFirstTime, publish, BehaviorSubject.add, opened,
      providerRealTime, cursorAfter, firstKeyAfter]

theorem finishFirstTime_closed {chatKey : Option String} {response : List Messages}
    {widget : ChatWidgetState} (closed : widget.messageStream.closed = true) :
    widget.finishFirstTime chatKey response = { widget with
      lastMessageKey := widget.cursorAfter response
      firstMessageKey := widget.firstKeyAfter response
      messages := (sortByKey Messages.key response).dropLast
      lateAdds := widget.lateAdds + 1 } := by
  cases response with
  | nil =>
    simp [finishFirstTime, listenToChatFirstTime, publish, BehaviorSubject.add, closed,
      cursorAfter, firstKeyAfter, sortByKey]
  | cons first rest =>
    simp [finishFirstTime, listenToChatFirstTime, publish, BehaviorSubject.add, closed,
      cursorAfter, firstKeyAfter]

theorem listenToPreviousChat_nil {response : List Messages} {widget : ChatWidgetState}
    (page : (sortByKey Messages.key response).dropLast = []) :
    widget.listenToPreviousChat response = widget := by
  simp [listenToPreviousChat, page]

theorem listenToPreviousChat_open {response rest : List Messages} {first : Messages}
    {widget : ChatWidgetState} (opened : widget.messageStream.closed = false)
    (page : (sortByKey Messages.key response).dropLast = first :: rest) :
    widget.listenToPreviousChat response = { widget with
      lastMessageKey := first.key
      messages := first :: rest ++ widget.messages
      messageStream := ⟨some (), false⟩ } := by
  simp [listenToPreviousChat, page, publish, BehaviorSubject.add, opened]

theorem listenToPreviousChat_closed {response rest : List Messages} {first : Messages}
    {widget : ChatWidgetState} (closed : widget.messageStream.closed = true)
    (page : (sortByKey Messages.key response).dropLast = first :: rest) :
    widget.listenToPreviousChat response = { widget with
      lastMessageKey := first.key
      messages := first :: rest ++ widget.messages
      lateAdds := widget.lateAdds + 1 } := by
  simp [listenToPreviousChat, page, publish, BehaviorSubject.add, closed]

theorem listenToRealTimeChat_open {user : Option Int} {event : Messages}
    {widget : ChatWidgetState} (opened : widget.messageStream.closed = false) :
    widget.listenToRealTimeChat user event =
      ({ widget with
          messages := widget.messages ++ [event]
          messageStream := ⟨some (), false⟩ },
        match user with
        | some id => [⟨widget.chatKey, .lastSeen id event.key⟩]
        | none => []) := by
  cases user <;> simp [listenToRealTimeChat, publish, BehaviorSubject.add, opened]

theorem listenToRealTimeChat_closed {user : Option Int} {event : Messages}
    {widget : ChatWidgetState} (closed : widget.messageStream.closed = true) :
    widget.listenToRealTimeChat user event =
      ({ widget with
          messages := widget.messages ++ [event]
          lateAdds := widget.lateAdds + 1 }, []) := by
  simp [listenToRealTimeChat, publish, BehaviorSubject.add, closed]

/-- The only write of a live event is the marker, under the key of the moment. -/
theorem listenToRealTimeChat_writes {user : Option Int} {event : Messages}
    {widget next : ChatWidgetState} {writes : List Write}
    (handled : widget.listenToRealTimeChat user event = (next, writes)) :
    writes = [] ∨
      ∃ id, user = some id ∧ writes = [⟨widget.chatKey, .lastSeen id event.key⟩] := by
  cases closed : widget.messageStream.closed with
  | false =>
    rw [listenToRealTimeChat_open closed] at handled
    cases handled
    cases user <;> simp
  | true =>
    rw [listenToRealTimeChat_closed closed] at handled
    cases handled
    exact Or.inl rfl

theorem listenToRealTimeChat_frame {user : Option Int} {event : Messages}
    {widget next : ChatWidgetState} {writes : List Write}
    (handled : widget.listenToRealTimeChat user event = (next, writes)) :
    next.firstReads = widget.firstReads ∧ next.previousReads = widget.previousReads ∧
      next.subscriptions = widget.subscriptions := by
  cases closed : widget.messageStream.closed with
  | false =>
    rw [listenToRealTimeChat_open closed] at handled
    cases handled
    exact ⟨rfl, rfl, rfl⟩
  | true =>
    rw [listenToRealTimeChat_closed closed] at handled
    cases handled
    exact ⟨rfl, rfl, rfl⟩

theorem listenToRealTimeChat_messages {user : Option Int} {event : Messages}
    {widget next : ChatWidgetState} {writes : List Write}
    (handled : widget.listenToRealTimeChat user event = (next, writes)) :
    next.messages = widget.messages ++ [event] := by
  cases closed : widget.messageStream.closed with
  | false =>
    rw [listenToRealTimeChat_open closed] at handled
    cases handled
    rfl
  | true =>
    rw [listenToRealTimeChat_closed closed] at handled
    cases handled
    rfl

theorem finishFirstTime_firstReads (chatKey : Option String) (response : List Messages)
    (widget : ChatWidgetState) :
    (widget.finishFirstTime chatKey response).firstReads = widget.firstReads := by
  cases closed : widget.messageStream.closed with
  | false => rw [finishFirstTime_open closed]
  | true => rw [finishFirstTime_closed closed]

theorem listenToPreviousChat_frame (response : List Messages) (widget : ChatWidgetState) :
    (widget.listenToPreviousChat response).firstReads = widget.firstReads ∧
      (widget.listenToPreviousChat response).subscriptions = widget.subscriptions := by
  cases page : (sortByKey Messages.key response).dropLast with
  | nil => simp [listenToPreviousChat_nil page]
  | cons first rest =>
    cases closed : widget.messageStream.closed with
    | false => simp [listenToPreviousChat_open closed page]
    | true => simp [listenToPreviousChat_closed closed page]

theorem listenToPreviousChat_messages (response : List Messages) (widget : ChatWidgetState) :
    (widget.listenToPreviousChat response).messages =
      (sortByKey Messages.key response).dropLast ++ widget.messages := by
  cases page : (sortByKey Messages.key response).dropLast with
  | nil => simp [listenToPreviousChat_nil page]
  | cons first rest =>
    cases closed : widget.messageStream.closed with
    | false => simp [listenToPreviousChat_open closed page]
    | true => simp [listenToPreviousChat_closed closed page]

theorem listenToPreviousChat_value (response : List Messages) {widget : ChatWidgetState}
    (value : widget.messageStream.value = some ()) :
    (widget.listenToPreviousChat response).messageStream.value = some () := by
  cases page : (sortByKey Messages.key response).dropLast with
  | nil => simp [listenToPreviousChat_nil page, value]
  | cons first rest =>
    cases closed : widget.messageStream.closed with
    | false => simp [listenToPreviousChat_open closed page]
    | true => simp [listenToPreviousChat_closed closed page, value]

theorem publish_mounted (widget : ChatWidgetState) : widget.publish.1.mounted = widget.mounted := by
  unfold publish
  split <;> rfl

theorem onChatKey_mounted (user : Option Int) (key : Option String) (widget : ChatWidgetState) :
    (widget.onChatKey user key).mounted = widget.mounted := by
  by_cases same : key = widget.oldKey
  · rw [onChatKey_same same]
  · rw [onChatKey_switch same]

theorem onChatKey_messages (user : Option Int) (key : Option String) (widget : ChatWidgetState) :
    (widget.onChatKey user key).messages = widget.messages := by
  by_cases same : key = widget.oldKey
  · rw [onChatKey_same same]
  · rw [onChatKey_switch same]

end ChatWidgetState

inductive WidgetAction where
  | firstReadServed (index : Nat)
  | firstReadDone (index : Nat) (response : List Messages)
  | subscribed (index : Nat)
  | childAdded (index : Nat)
  | scrollToTop
  | previousReadServed (index : Nat)
  | previousReadDone (index : Nat) (response : List Messages)
  | send (text : String) (now : Int) (newKey : String)
  | choose (source : Source)
  | uploadDone (index : Nat) (outcome : UploadOutcome) (now : Int) (newKey : String)
  deriving DecidableEq, Repr

def WidgetAction.byUser : WidgetAction → Bool
  | .scrollToTop | .send .. | .choose _ => true
  | _ => false

namespace ChatWidgetState

/-- One internal step, with the writes it issues. Nothing where the action is
not enabled: no such suspended handler, no event waiting, no composer. -/
def step (db : Database) (user : Option Int) (widget : ChatWidgetState) :
    WidgetAction → Option (ChatWidgetState × List Write)
  | .firstReadServed index =>
    match widget.firstReads[index]? with
    | some ⟨chatKey, none⟩ =>
      let snapshot := limitToLast 11 (db (interpolate chatKey)).stored
      some ({ widget with firstReads := widget.firstReads.set index ⟨chatKey, some snapshot⟩ }, [])
    | _ => none
  | .firstReadDone index response =>
    match widget.firstReads[index]? with
    | some ⟨chatKey, some snapshot⟩ =>
      -- the map in the reply may list its entries in any order
      if response.Perm snapshot then
        some (finishFirstTime chatKey response
          { widget with firstReads := widget.firstReads.eraseIdx index }, [])
      else none
    | _ => none
  | .subscribed index =>
    match widget.subscriptions[index]? with
    | some ⟨id, chatKey, false, _⟩ =>
      -- the child that is last now is the first event
      let queue := limitToLast 1 (db (interpolate chatKey)).stored
      some ({ widget with
        subscriptions := widget.subscriptions.set index ⟨id, chatKey, true, queue⟩ }, [])
    | _ => none
  | .childAdded index =>
    match widget.subscriptions[index]? with
    | some ⟨id, chatKey, established, event :: queue⟩ =>
      let taken := { widget with
        subscriptions := widget.subscriptions.set index ⟨id, chatKey, established, queue⟩ }
      -- the handler of a disposed widget throws where it looks up the user
      if widget.mounted then some (taken.listenToRealTimeChat user event) else some (taken, [])
    | _ => none
  | .scrollToTop =>
    if widget.composer then
      some ({ widget with previousReads :=
        widget.previousReads ++ [⟨widget.chatKey, widget.lastMessageKey, none⟩] }, [])
    else none
  | .previousReadServed index =>
    match widget.previousReads[index]? with
    | some ⟨chatKey, bound, none⟩ =>
      let snapshot := limitToLast 4 (endAt Messages.key bound (db (interpolate chatKey)).stored)
      some ({ widget with
        previousReads := widget.previousReads.set index ⟨chatKey, bound, some snapshot⟩ }, [])
    | _ => none
  | .previousReadDone index response =>
    match widget.previousReads[index]? with
    | some ⟨_, _, some snapshot⟩ =>
      if response.Perm snapshot then
        some (listenToPreviousChat response
          { widget with previousReads := widget.previousReads.eraseIdx index }, [])
      else none
    | _ => none
  | .send text now newKey =>
    if widget.composer then
      match user with
      -- the send button passes `oldKey`, the other sources `_chatKey`
      | some id => some (widget, sendToRealTimeChat widget.oldKey text id now newKey)
      | none => some (widget, [])
    else none
  | .choose source =>
    if widget.composer then
      some ({ widget with
        uploads := widget.uploads ++ [⟨widget.nextUpload, source, widget.chatKey, user⟩]
        nextUpload := widget.nextUpload + 1 }, [])
    else none
  | .uploadDone index outcome now newKey =>
    match widget.uploads[index]? with
    | some upload =>
      let rest := { widget with uploads := widget.uploads.eraseIdx index }
      match upload.user with
      | some id => some (rest, upload.source.finish upload.chatKey id now newKey outcome)
      -- `user.id` throws before anything is written
      | none => some (rest, [])
    | none => none

/-- What an enabled step does, one case for each way through the handlers. -/
inductive Stepped (db : Database) (user : Option Int) (widget : ChatWidgetState) :
    WidgetAction → ChatWidgetState → List Write → Prop where
  | firstReadServed {index : Nat} {chatKey : Option String} :
      widget.firstReads[index]? = some ⟨chatKey, none⟩ →
      Stepped db user widget (.firstReadServed index) { widget with
        firstReads := widget.firstReads.set index
          ⟨chatKey, some (limitToLast 11 (db (interpolate chatKey)).stored)⟩ } []
  | firstReadDone {index : Nat} {chatKey : Option String} {response snapshot : List Messages} :
      widget.firstReads[index]? = some ⟨chatKey, some snapshot⟩ → response.Perm snapshot →
      Stepped db user widget (.firstReadDone index response)
        (finishFirstTime chatKey response
          { widget with firstReads := widget.firstReads.eraseIdx index }) []
  | subscribed {index id : Nat} {chatKey : Option String} {queue : List Messages} :
      widget.subscriptions[index]? = some ⟨id, chatKey, false, queue⟩ →
      Stepped db user widget (.subscribed index) { widget with
        subscriptions := widget.subscriptions.set index
          ⟨id, chatKey, true, limitToLast 1 (db (interpolate chatKey)).stored⟩ } []
  | childAdded {index id : Nat} {chatKey : Option String} {established : Bool}
      {event : Messages} {queue : List Messages} {next : ChatWidgetState} {writes : List Write} :
      widget.subscriptions[index]? = some ⟨id, chatKey, established, event :: queue⟩ →
      widget.mounted = true →
      listenToRealTimeChat user event { widget with
        subscriptions := widget.subscriptions.set index ⟨id, chatKey, established, queue⟩ } =
          (next, writes) →
      Stepped db user widget (.childAdded index) next writes
  | childAddedLate {index id : Nat} {chatKey : Option String} {established : Bool}
      {event : Messages} {queue : List Messages} :
      widget.subscriptions[index]? = some ⟨id, chatKey, established, event :: queue⟩ →
      widget.mounted = false →
      Stepped db user widget (.childAdded index) { widget with
        subscriptions := widget.subscriptions.set index ⟨id, chatKey, established, queue⟩ } []
  | scrollToTop : widget.composer = true →
      Stepped db user widget .scrollToTop { widget with previousReads :=
        widget.previousReads ++ [⟨widget.chatKey, widget.lastMessageKey, none⟩] } []
  | previousReadServed {index : Nat} {chatKey : Option String} {bound : String} :
      widget.previousReads[index]? = some ⟨chatKey, bound, none⟩ →
      Stepped db user widget (.previousReadServed index) { widget with
        previousReads := widget.previousReads.set index ⟨chatKey, bound,
          some (limitToLast 4 (endAt Messages.key bound (db (interpolate chatKey)).stored))⟩ } []
  | previousReadDone {index : Nat} {chatKey : Option String} {bound : String}
      {response snapshot : List Messages} :
      widget.previousReads[index]? = some ⟨chatKey, bound, some snapshot⟩ →
      response.Perm snapshot →
      Stepped db user widget (.previousReadDone index response)
        (listenToPreviousChat response
          { widget with previousReads := widget.previousReads.eraseIdx index }) []
  | send {text : String} {now id : Int} {newKey : String} :
      widget.composer = true → user = some id →
      Stepped db user widget (.send text now newKey) widget
        (sendToRealTimeChat widget.oldKey text id now newKey)
  | sendWithoutUser {text : String} {now : Int} {newKey : String} :
      widget.composer = true → user = none →
      Stepped db user widget (.send text now newKey) widget []
  | choose {source : Source} : widget.composer = true →
      Stepped db user widget (.choose source) { widget with
        uploads := widget.uploads ++ [⟨widget.nextUpload, source, widget.chatKey, user⟩]
        nextUpload := widget.nextUpload + 1 } []
  | uploadDone {index : Nat} {upload : Upload} {outcome : UploadOutcome} {now id : Int}
      {newKey : String} :
      widget.uploads[index]? = some upload → upload.user = some id →
      Stepped db user widget (.uploadDone index outcome now newKey)
        { widget with uploads := widget.uploads.eraseIdx index }
        (upload.source.finish upload.chatKey id now newKey outcome)
  | uploadWithoutUser {index : Nat} {upload : Upload} {outcome : UploadOutcome} {now : Int}
      {newKey : String} :
      widget.uploads[index]? = some upload → upload.user = none →
      Stepped db user widget (.uploadDone index outcome now newKey)
        { widget with uploads := widget.uploads.eraseIdx index } []

theorem stepped_of_step {db : Database} {user : Option Int} {widget next : ChatWidgetState}
    {action : WidgetAction} {writes : List Write}
    (taken : widget.step db user action = some (next, writes)) :
    Stepped db user widget action next writes := by
  cases action with
  | firstReadServed index =>
    simp only [step] at taken
    split at taken
    · next found =>
      cases taken
      exact .firstReadServed found
    · cases taken
  | firstReadDone index response =>
    simp only [step] at taken
    split at taken
    · next found =>
      split at taken
      · next same =>
        cases taken
        exact .firstReadDone found same
      · cases taken
    · cases taken
  | subscribed index =>
    simp only [step] at taken
    split at taken
    · next found =>
      cases taken
      exact .subscribed found
    · cases taken
  | childAdded index =>
    simp only [step] at taken
    split at taken
    · next found =>
      split at taken
      · next mounted => exact .childAdded found mounted (Option.some.inj taken)
      · next unmounted =>
        cases taken
        exact .childAddedLate found (by simpa using unmounted)
    · cases taken
  | scrollToTop =>
    simp only [step] at taken
    split at taken
    · next visible =>
      cases taken
      exact .scrollToTop visible
    · cases taken
  | previousReadServed index =>
    simp only [step] at taken
    split at taken
    · next found =>
      cases taken
      exact .previousReadServed found
    · cases taken
  | previousReadDone index response =>
    simp only [step] at taken
    split at taken
    · next found =>
      split at taken
      · next same =>
        cases taken
        exact .previousReadDone found same
      · cases taken
    · cases taken
  | send text now newKey =>
    simp only [step] at taken
    split at taken
    · next visible =>
      split at taken
      · cases taken
        exact .send visible rfl
      · cases taken
        exact .sendWithoutUser visible rfl
    · cases taken
  | choose source =>
    simp only [step] at taken
    split at taken
    · next visible =>
      cases taken
      exact .choose visible
    · cases taken
  | uploadDone index outcome now newKey =>
    simp only [step] at taken
    split at taken
    · next upload found =>
      split at taken
      · next owner =>
        cases taken
        exact .uploadDone found owner
      · next owner =>
        cases taken
        exact .uploadWithoutUser found owner
    · cases taken

theorem Stepped.mounted {db : Database} {user : Option Int} {widget next : ChatWidgetState}
    {action : WidgetAction} {writes : List Write}
    (taken : Stepped db user widget action next writes) : next.mounted = widget.mounted := by
  cases taken with
  | firstReadDone found same =>
    cases closed : widget.messageStream.closed with
    | false =>
      rw [finishFirstTime_open]
      exact closed
    | true =>
      rw [finishFirstTime_closed]
      exact closed
  | childAdded found mounted handled =>
    cases closed : widget.messageStream.closed with
    | false =>
      rw [listenToRealTimeChat_open] at handled
      · cases handled
        rfl
      · exact closed
    | true =>
      rw [listenToRealTimeChat_closed] at handled
      · cases handled
        rfl
      · exact closed
  | previousReadDone found same =>
    unfold listenToPreviousChat
    split
    · rfl
    · exact publish_mounted _
  | _ => rfl

end ChatWidgetState

end SparSomnong.Chat
