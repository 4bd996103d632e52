import SparSomnong.Chat.Room
import SparSomnong.Semantics.Rows

/-! The single lane of a widget whose loads do not overlap.

`_providerFireBaseFirstTime` cancels the subscription in its slot, waits for a
read, and then puts a new subscription into the slot. If no key is handed over
while a read is pending, at most one read or subscription exists at any time,
it is for `oldKey`, and the slot holds every live subscription.
-/

set_option autoImplicit false

namespace SparSomnong.Chat

open Semantics

structure Lane (widget : ChatWidgetState) : Prop where
  reads : ∀ read ∈ widget.firstReads, read.chatKey = widget.oldKey
  subscriptions : ∀ sub ∈ widget.subscriptions,
    sub.chatKey = widget.oldKey ∧ widget.onNoteAddedSubscription = some sub.id
  one : widget.firstReads.length + widget.subscriptions.length ≤ 1
  stream : widget.messageStream.closed = !widget.mounted
  ended : widget.mounted = false → widget.subscriptions = []

namespace Lane

variable {widget : ChatWidgetState}

theorem start : Lane {} :=
  ⟨by simp, by simp, by simp, rfl, by simp⟩

theorem cancelNoteAdded_subscriptions (lane : Lane widget) :
    widget.cancelNoteAdded.subscriptions = [] := by
  simp only [ChatWidgetState.cancelNoteAdded, List.filter_eq_nil_iff]
  intro sub member
  simp [(lane.subscriptions sub member).2]

theorem onChatKey {user : Option Int} {key : Option String} (lane : Lane widget)
    (free : key ≠ widget.oldKey → widget.firstReads = []) :
    Lane (widget.onChatKey user key) := by
  by_cases same : key = widget.oldKey
  · rw [ChatWidgetState.onChatKey_same same]
    exact ⟨lane.reads, lane.subscriptions, lane.one, lane.stream, lane.ended⟩
  · -- the switch cancels what the slot holds, which is all there is
    have idle := free same
    rw [ChatWidgetState.onChatKey_switch same, lane.cancelNoteAdded_subscriptions, idle]
    refine ⟨?_, by simp, ?_, lane.stream, fun _ => rfl⟩
    · cases user <;> simp [ChatWidgetState.askedFirst]
    · cases user <;> simp [ChatWidgetState.askedFirst]

theorem onStored {chat : String} {message : Messages} (lane : Lane widget) :
    Lane (widget.onStored chat message) := by
  refine ⟨lane.reads, ?_, ?_, lane.stream, ?_⟩
  · intro sub member
    obtain ⟨old, inside, rfl⟩ := List.mem_map.mp member
    have facts := lane.subscriptions old inside
    split <;> exact facts
  · simpa [ChatWidgetState.onStored] using lane.one
  · intro unmounted
    simp [ChatWidgetState.onStored, lane.ended unmounted]

theorem dispose (lane : Lane widget) : Lane widget.dispose := by
  have cancelled : widget.dispose.subscriptions = [] := lane.cancelNoteAdded_subscriptions
  refine ⟨lane.reads, by simp [cancelled], ?_, rfl, fun _ => cancelled⟩
  have bound := lane.one
  have kept : widget.dispose.firstReads = widget.firstReads := rfl
  simp only [cancelled, kept, List.length_nil]
  omega

theorem alone {index : Nat} {read : FirstRead} (lane : Lane widget)
    (found : widget.firstReads[index]? = some read) :
    widget.firstReads = [read] ∧ index = 0 ∧ widget.subscriptions = [] := by
  have bound := lane.one
  obtain ⟨only, first⟩ := alone_of_found (by omega) found
  rw [only, List.length_singleton] at bound
  exact ⟨only, first, List.eq_nil_of_length_eq_zero (by omega)⟩

theorem aloneSubscription {index : Nat} {sub : Subscription} (lane : Lane widget)
    (found : widget.subscriptions[index]? = some sub) :
    widget.subscriptions = [sub] ∧ index = 0 ∧ widget.firstReads = [] := by
  have bound := lane.one
  obtain ⟨only, first⟩ := alone_of_found (by omega) found
  rw [only, List.length_singleton] at bound
  exact ⟨only, first, List.eq_nil_of_length_eq_zero (by omega)⟩

theorem replace {sub : Subscription} {queue : List Messages} {established : Bool}
    {messages : List Messages} {stream : BehaviorSubject Unit} (lane : Lane widget)
    (only : widget.subscriptions = [sub]) (same : stream.closed = widget.messageStream.closed) :
    Lane { widget with
      messages, messageStream := stream
      subscriptions := [⟨sub.id, sub.chatKey, established, queue⟩] } := by
  have facts := lane.subscriptions sub (by simp [only])
  have bound := lane.one
  refine ⟨lane.reads, ?_, ?_, same.trans lane.stream, ?_⟩
  · intro other member
    rw [List.mem_singleton.mp member]
    exact facts
  · simpa [only] using bound
  · intro unmounted
    rw [lane.ended unmounted] at only
    cases only

theorem stepped {db : Database} {user : Option Int} {action : WidgetAction}
    {next : ChatWidgetState} {writes : List Write} (lane : Lane widget)
    (taken : ChatWidgetState.Stepped db user widget action next writes) : Lane next := by
  cases taken with
  | firstReadServed found =>
    obtain ⟨only, rfl, none⟩ := lane.alone found
    have key := lane.reads _ (List.mem_of_getElem? found)
    exact ⟨by simpa [only] using key, lane.subscriptions, by simpa using lane.one, lane.stream,
      lane.ended⟩
  | firstReadDone found same =>
    obtain ⟨only, rfl, none⟩ := lane.alone found
    have key := lane.reads _ (List.mem_of_getElem? found)
    cases closed : widget.messageStream.closed with
    | false =>
      have mounted : widget.mounted = true := by simpa [closed] using lane.stream
      rw [ChatWidgetState.finishFirstTime_open]
      · exact ⟨by simp [only], by simpa [none] using key, by simp [only, none],
          by simp [mounted], by simp [mounted]⟩
      · exact closed
    | true =>
      rw [ChatWidgetState.finishFirstTime_closed]
      · exact ⟨by simp [only], lane.subscriptions, by simp [only, none], lane.stream, lane.ended⟩
      · exact closed
  | subscribed found =>
    obtain ⟨only, rfl, idle⟩ := lane.aloneSubscription found
    simpa [only] using lane.replace only rfl
  | childAdded found mounted handled =>
    obtain ⟨only, rfl, idle⟩ := lane.aloneSubscription found
    have opened : widget.messageStream.closed = false := by simp [lane.stream, mounted]
    rw [ChatWidgetState.listenToRealTimeChat_open] at handled
    · cases handled
      simpa [only] using lane.replace only (by simp [opened])
    · exact opened
  | childAddedLate found unmounted =>
    obtain ⟨only, rfl, idle⟩ := lane.aloneSubscription found
    simpa [only] using lane.replace only rfl
  | scrollToTop visible => exact ⟨lane.reads, lane.subscriptions, lane.one, lane.stream, lane.ended⟩
  | previousReadServed found =>
    exact ⟨lane.reads, lane.subscriptions, lane.one, lane.stream, lane.ended⟩
  | @previousReadDone index chatKey bound response snapshot found same =>
    cases page : (sortByKey Messages.key response).dropLast with
    | nil =>
      rw [ChatWidgetState.listenToPreviousChat_nil page]
      exact ⟨lane.reads, lane.subscriptions, lane.one, lane.stream, lane.ended⟩
    | cons first rest =>
      cases closed : widget.messageStream.closed with
      | false =>
        rw [ChatWidgetState.listenToPreviousChat_open _ page]
        · exact ⟨lane.reads, lane.subscriptions, lane.one, closed ▸ lane.stream, lane.ended⟩
        · exact closed
      | true =>
        rw [ChatWidgetState.listenToPreviousChat_closed _ page]
        · exact ⟨lane.reads, lane.subscriptions, lane.one, lane.stream, lane.ended⟩
        · exact closed
  | send visible owner => exact lane
  | sendWithoutUser visible owner => exact lane
  | choose visible => exact ⟨lane.reads, lane.subscriptions, lane.one, lane.stream, lane.ended⟩
  | uploadDone found owner =>
    exact ⟨lane.reads, lane.subscriptions, lane.one, lane.stream, lane.ended⟩
  | uploadWithoutUser found owner =>
    exact ⟨lane.reads, lane.subscriptions, lane.one, lane.stream, lane.ended⟩

end Lane

end SparSomnong.Chat
