import SparSomnong.Chat.Room

/-! The keys a widget writes under.

A widget is untouched until its first key. From then on `_chatKey` and
`oldKey` are the key handed over last, whatever reads are pending, and every
write goes out under that key or under the key an upload captured before.
-/

set_option autoImplicit false

namespace SparSomnong.Chat

open Semantics

structure Untouched (widget : ChatWidgetState) : Prop where
  firstReads : widget.firstReads = []
  previousReads : widget.previousReads = []
  subscriptions : widget.subscriptions = []
  uploads : widget.uploads = []
  hidden : widget.messageStream.value = none

structure Keyed (Allowed : Option String → Prop) (widget : ChatWidgetState) : Prop where
  key : (widget.oldKey = widget.chatKey ∧ Allowed widget.chatKey) ∨ Untouched widget
  uploads : ∀ upload ∈ widget.uploads, Allowed upload.chatKey

namespace Keyed

variable {Allowed : Option String → Prop} {widget : ChatWidgetState}

theorem start : Keyed Allowed {} :=
  ⟨Or.inr ⟨rfl, rfl, rfl, rfl, rfl⟩, by simp⟩

theorem mono {Wider : Option String → Prop} (keyed : Keyed Allowed widget)
    (implies : ∀ key, Allowed key → Wider key) : Keyed Wider widget :=
  ⟨keyed.key.imp_left fun bound => ⟨bound.1, implies _ bound.2⟩,
    fun upload member => implies _ (keyed.uploads upload member)⟩

theorem onChatKey {user : Option Int} {key : Option String} (keyed : Keyed Allowed widget)
    (allowed : Allowed key) : Keyed Allowed (widget.onChatKey user key) := by
  by_cases same : key = widget.oldKey
  · rw [ChatWidgetState.onChatKey_same same]
    exact ⟨Or.inl ⟨same.symm, allowed⟩, keyed.uploads⟩
  · rw [ChatWidgetState.onChatKey_switch same]
    exact ⟨Or.inl ⟨rfl, allowed⟩, keyed.uploads⟩

theorem onStored {chat : String} {message : Messages} (keyed : Keyed Allowed widget) :
    Keyed Allowed (widget.onStored chat message) := by
  refine ⟨keyed.key.imp_right fun fresh => ?_, keyed.uploads⟩
  exact ⟨fresh.firstReads, fresh.previousReads,
    by simp [ChatWidgetState.onStored, fresh.subscriptions], fresh.uploads, fresh.hidden⟩

theorem dispose (keyed : Keyed Allowed widget) : Keyed Allowed widget.dispose := by
  refine ⟨keyed.key.imp_right fun fresh => ?_, keyed.uploads⟩
  exact ⟨fresh.firstReads, fresh.previousReads,
    by simp [ChatWidgetState.dispose, ChatWidgetState.cancelNoteAdded, fresh.subscriptions],
    fresh.uploads, fresh.hidden⟩

theorem bound (keyed : Keyed Allowed widget) (used : ¬ Untouched widget) :
    widget.oldKey = widget.chatKey ∧ Allowed widget.chatKey :=
  keyed.key.resolve_right used

theorem bound_of_composer (keyed : Keyed Allowed widget) (visible : widget.composer = true) :
    widget.oldKey = widget.chatKey ∧ Allowed widget.chatKey := by
  refine keyed.bound fun fresh => ?_
  simp [ChatWidgetState.composer, BehaviorSubject.hasValue, fresh.hidden] at visible

theorem bound_of_firstRead {index : Nat} {read : FirstRead} (keyed : Keyed Allowed widget)
    (found : widget.firstReads[index]? = some read) :
    widget.oldKey = widget.chatKey ∧ Allowed widget.chatKey := by
  refine keyed.bound fun fresh => ?_
  simp [fresh.firstReads] at found

theorem bound_of_previousRead {index : Nat} {read : PreviousRead} (keyed : Keyed Allowed widget)
    (found : widget.previousReads[index]? = some read) :
    widget.oldKey = widget.chatKey ∧ Allowed widget.chatKey := by
  refine keyed.bound fun fresh => ?_
  simp [fresh.previousReads] at found

theorem bound_of_subscription {index : Nat} {sub : Subscription} (keyed : Keyed Allowed widget)
    (found : widget.subscriptions[index]? = some sub) :
    widget.oldKey = widget.chatKey ∧ Allowed widget.chatKey := by
  refine keyed.bound fun fresh => ?_
  simp [fresh.subscriptions] at found

theorem finishFirstTime_keys (chatKey : Option String) (response : List Messages)
    (widget : ChatWidgetState) :
    (widget.finishFirstTime chatKey response).chatKey = widget.chatKey ∧
    (widget.finishFirstTime chatKey response).oldKey = widget.oldKey ∧
    (widget.finishFirstTime chatKey response).uploads = widget.uploads ∧
    (widget.finishFirstTime chatKey response).nextUpload = widget.nextUpload := by
  cases closed : widget.messageStream.closed with
  | false => simp [ChatWidgetState.finishFirstTime_open closed]
  | true => simp [ChatWidgetState.finishFirstTime_closed closed]

theorem listenToPreviousChat_keys (response : List Messages) (widget : ChatWidgetState) :
    (widget.listenToPreviousChat response).chatKey = widget.chatKey ∧
    (widget.listenToPreviousChat response).oldKey = widget.oldKey ∧
    (widget.listenToPreviousChat response).uploads = widget.uploads ∧
    (widget.listenToPreviousChat response).nextUpload = widget.nextUpload := by
  cases page : (sortByKey Messages.key response).dropLast with
  | nil => simp [ChatWidgetState.listenToPreviousChat_nil page]
  | cons first rest =>
    cases closed : widget.messageStream.closed with
    | false => simp [ChatWidgetState.listenToPreviousChat_open closed page]
    | true => simp [ChatWidgetState.listenToPreviousChat_closed closed page]

theorem listenToRealTimeChat_keys {user : Option Int} {event : Messages}
    {widget next : ChatWidgetState} {writes : List Write}
    (handled : widget.listenToRealTimeChat user event = (next, writes)) :
    next.chatKey = widget.chatKey ∧ next.oldKey = widget.oldKey ∧
    next.uploads = widget.uploads ∧ next.nextUpload = widget.nextUpload ∧
    ∀ write ∈ writes, write.chatKey = widget.chatKey := by
  cases closed : widget.messageStream.closed with
  | false =>
    rw [ChatWidgetState.listenToRealTimeChat_open closed] at handled
    cases handled
    cases user <;> simp
  | true =>
    rw [ChatWidgetState.listenToRealTimeChat_closed closed] at handled
    cases handled
    simp

/-- Only the key stream changes the keys. -/
theorem keys_of_stepped {db : Database} {user : Option Int} {action : WidgetAction}
    {next : ChatWidgetState} {writes : List Write}
    (taken : ChatWidgetState.Stepped db user widget action next writes) :
    next.chatKey = widget.chatKey ∧ next.oldKey = widget.oldKey := by
  cases taken with
  | firstReadDone found same =>
    obtain ⟨newKey, oldKey, _⟩ := finishFirstTime_keys _ _ _
    exact ⟨newKey, oldKey⟩
  | childAdded found mounted handled =>
    obtain ⟨newKey, oldKey, _⟩ := listenToRealTimeChat_keys handled
    exact ⟨newKey, oldKey⟩
  | previousReadDone found same =>
    obtain ⟨newKey, oldKey, _⟩ := listenToPreviousChat_keys _ _
    exact ⟨newKey, oldKey⟩
  | _ => exact ⟨rfl, rfl⟩

theorem stepped {db : Database} {user : Option Int} {action : WidgetAction}
    {next : ChatWidgetState} {writes : List Write} (keyed : Keyed Allowed widget)
    (taken : ChatWidgetState.Stepped db user widget action next writes) :
    Keyed Allowed next ∧ ∀ write ∈ writes, Allowed write.chatKey := by
  cases taken with
  | firstReadServed found =>
    exact ⟨⟨Or.inl (keyed.bound_of_firstRead found), keyed.uploads⟩, by simp⟩
  | @firstReadDone index chatKey response snapshot found same =>
    have bound := keyed.bound_of_firstRead found
    obtain ⟨newKey, oldKey, uploads, -⟩ := finishFirstTime_keys chatKey response
      { widget with firstReads := widget.firstReads.eraseIdx index }
    refine ⟨⟨Or.inl ?_, ?_⟩, by simp⟩
    · rw [newKey, oldKey]
      exact bound
    · rw [uploads]
      exact keyed.uploads
  | subscribed found =>
    exact ⟨⟨Or.inl (keyed.bound_of_subscription found), keyed.uploads⟩, by simp⟩
  | childAdded found mounted handled =>
    have bound := keyed.bound_of_subscription found
    obtain ⟨newKey, oldKey, uploads, -, under⟩ := listenToRealTimeChat_keys handled
    refine ⟨⟨Or.inl ?_, ?_⟩, ?_⟩
    · rw [newKey, oldKey]
      exact bound
    · rw [uploads]
      exact keyed.uploads
    · intro write member
      rw [under write member]
      exact bound.2
  | childAddedLate found unmounted =>
    exact ⟨⟨Or.inl (keyed.bound_of_subscription found), keyed.uploads⟩, by simp⟩
  | scrollToTop visible =>
    exact ⟨⟨Or.inl (keyed.bound_of_composer visible), keyed.uploads⟩, by simp⟩
  | previousReadServed found =>
    exact ⟨⟨Or.inl (keyed.bound_of_previousRead found), keyed.uploads⟩, by simp⟩
  | @previousReadDone index chatKey bound response snapshot found same =>
    have facts := keyed.bound_of_previousRead found
    obtain ⟨newKey, oldKey, uploads, -⟩ := listenToPreviousChat_keys response
      { widget with previousReads := widget.previousReads.eraseIdx index }
    refine ⟨⟨Or.inl ?_, ?_⟩, by simp⟩
    · rw [newKey, oldKey]
      exact facts
    · rw [uploads]
      exact keyed.uploads
  | send visible owner =>
    obtain ⟨same, allowed⟩ := keyed.bound_of_composer visible
    refine ⟨keyed, fun write member => ?_⟩
    rw [chatKey_of_mem_sendMessage member, same]
    exact allowed
  | sendWithoutUser visible owner => exact ⟨keyed, by simp⟩
  | choose visible =>
    have bound := keyed.bound_of_composer visible
    refine ⟨⟨Or.inl bound, ?_⟩, by simp⟩
    intro upload member
    rcases List.mem_append.mp member with earlier | added
    · exact keyed.uploads upload earlier
    · rw [List.mem_singleton.mp added]
      exact bound.2
  | @uploadDone index upload outcome now id newKey found owner =>
    -- the key of the moment the upload was started, not the current one
    have allowed := keyed.uploads upload (List.mem_of_getElem? found)
    refine ⟨⟨keyed.key.imp_right fun fresh => ?_, ?_⟩, ?_⟩
    · simp [fresh.uploads] at found
    · exact fun other member => keyed.uploads other (List.mem_of_mem_eraseIdx member)
    · intro write member
      rw [Source.chatKey_of_mem_finish member]
      exact allowed
  | uploadWithoutUser found owner =>
    refine ⟨⟨keyed.key.imp_right fun fresh => ?_, ?_⟩, by simp⟩
    · simp [fresh.uploads] at found
    · exact fun other member => keyed.uploads other (List.mem_of_mem_eraseIdx member)

end Keyed

end SparSomnong.Chat
