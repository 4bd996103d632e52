import SparSomnong.Chat.Keyed
import SparSomnong.Chat.Lane

/-! One conversation, from the first-time read to the live feed.

The read drops its newest message and leaves it to the subscription, which
starts with the child that is last once it is established. What is stored in
between moves that child, so the dropped message is delivered only if nothing
was. Pages are put in front, below the cursor `_lastMessageKey`.
-/

set_option autoImplicit false

namespace SparSomnong.Chat

open Semantics

/-- How the log splits: `rest` is not loaded, `shown` came from the read and from
pages, `dropped` ended the read's snapshot, `window` was stored before the
subscription was established and `later` after it. Of the live events, `lives`
were handled and `pending` were not. -/
structure Part where
  rest : List Messages
  shown : List Messages
  dropped : Option Messages
  window : List Messages
  later : List Messages
  lives : List Messages
  pending : List Messages

def Part.last (part : Part) : List Messages :=
  -- the child the subscription starts with
  (part.dropped.toList ++ part.window).getLast?.toList

theorem Part.last_of_log {part : Part} {log : List Messages}
    (split : log = part.rest ++ part.shown ++ part.dropped.toList ++ part.window ++ part.later)
    (whole : part.dropped = none → part.rest = [] ∧ part.shown = []) (noLater : part.later = []) :
    log.getLast?.toList = part.last := by
  rw [split, noLater, List.append_nil, List.append_assoc, Part.last, List.getLast?_append]
  cases dropped : part.dropped with
  | none =>
    obtain ⟨rest, shown⟩ := whole dropped
    simp [rest, shown]
  | some message =>
    obtain ⟨last, found⟩ := Option.isSome_iff_exists.mp
      (show ([message] ++ part.window).getLast?.isSome by simp)
    simp only [Option.toList_some, found, Option.some_or]

/-- `chat.length > 0 ? chat[0].key : ""`. -/
def firstKey (chat : List Messages) : String := (chat.head?.map Messages.key).getD ""

/-- A page request with nothing stored below its bound. -/
structure Exhausted (log : List Messages) (read : PreviousRead) : Prop where
  lowest : ∀ message ∈ log, read.bound ≤ message.key
  anchored : read.bound = "" ∨ ∃ message ∈ log, message.key = read.bound
  short : ∀ snapshot, read.snapshot = some snapshot → snapshot.length ≤ 1

/-- A page request from the message `first`, with `rest` stored below it. -/
structure Continuing (rest : List Messages) (first : Messages) (read : PreviousRead) : Prop where
  bound : read.bound = first.key
  page : ∀ snapshot, read.snapshot = some snapshot → snapshot = limitToLast 4 (rest ++ [first])

def Paging (log rest shown : List Messages) (reads : List PreviousRead) : Prop :=
  (∀ read ∈ reads, Exhausted log read) ∨
    ∃ read first others, reads = [read] ∧ shown = first :: others ∧ Continuing rest first read

structure Part.Fits (part : Part) (log : List Messages) (widget : ChatWidgetState) : Prop where
  split : log = part.rest ++ part.shown ++ part.dropped.toList ++ part.window ++ part.later
  messages : widget.messages = part.shown ++ part.lives
  order : part.lives ++ part.pending = part.last ++ part.later
  cursor : widget.lastMessageKey = firstKey part.shown
  whole : part.dropped = none → part.rest = [] ∧ part.shown = []
  live : ∀ sub ∈ widget.subscriptions, sub.established = true → sub.queue = part.pending
  opening : ∀ sub ∈ widget.subscriptions, sub.established = false →
    sub.queue = [] ∧ part.lives = [] ∧ part.later = []
  paging : Paging log part.rest part.shown widget.previousReads

structure Blank (widget : ChatWidgetState) : Prop where
  messages : widget.messages = []
  cursor : widget.lastMessageKey = ""
  hidden : widget.messageStream.value = none
  previousReads : widget.previousReads = []
  subscriptions : widget.subscriptions = []

/-- The read kept a message and something was stored in the window. -/
def gap (shown window : List Messages) : Bool := !shown.isEmpty && !window.isEmpty

theorem gap_concat (shown window : List Messages) (message : Messages) :
    gap shown (window ++ [message]) = !shown.isEmpty := by
  cases window <;> simp [gap]

/-- A widget that is only ever handed the key `key`, with `log` stored under it.
`Allowed` says whether there may be, or must be, a gap. -/
structure Handover (Allowed : Bool → Prop) (key : Option String) (log : List Messages)
    (widget : ChatWidgetState) : Prop where
  lane : Lane widget
  idle : widget.oldKey ≠ key ∨ widget.chatKey ≠ key → widget.firstReads = []
  blank : widget.oldKey ≠ key ∨ widget.chatKey ≠ key ∨ widget.firstReads ≠ [] → Blank widget
  pages : ∀ read ∈ widget.previousReads, read.chatKey = key
  reads : ∀ read ∈ widget.firstReads, ∀ snapshot, read.snapshot = some snapshot →
    ∃ rest window, log = rest ++ snapshot ++ window ∧ (snapshot = [] → rest = []) ∧
      Allowed (gap snapshot.dropLast window)
  parts : widget.firstReads = [] →
    ∃ part : Part, part.Fits log widget ∧ Allowed (gap part.shown part.window)

def ChatWidgetState.kept (widget : ChatWidgetState) : List (List Messages) :=
  widget.firstReads.filterMap (fun read => read.snapshot.map List.dropLast) ++
    (widget.subscriptions.filter fun sub => !sub.established).map fun _ => widget.messages

theorem Lane.kept_single {widget : ChatWidgetState} {shown : List Messages} (lane : Lane widget)
    (waiting : shown ∈ widget.kept) :
    widget.kept = [shown] ∧ ∀ read ∈ widget.firstReads, read.snapshot ≠ none := by
  rcases List.mem_append.mp waiting with reading | opening
  · obtain ⟨read, member, same⟩ := List.mem_filterMap.mp reading
    obtain ⟨index, found⟩ := List.getElem?_of_mem member
    obtain ⟨only, -, none⟩ := lane.alone found
    refine ⟨by simp [ChatWidgetState.kept, only, none, same], ?_⟩
    intro other inside unserved
    rw [only, List.mem_singleton] at inside
    simp [← inside, unserved] at same
  · obtain ⟨sub, member, same⟩ := List.mem_map.mp opening
    obtain ⟨inside, fresh⟩ := List.mem_filter.mp member
    obtain ⟨index, found⟩ := List.getElem?_of_mem inside
    obtain ⟨only, -, none⟩ := lane.aloneSubscription found
    refine ⟨?_, by simp [none]⟩
    simp only [Bool.not_eq_true'] at fresh
    simp [ChatWidgetState.kept, only, none, same, fresh]

theorem dropLast_append_getLast (chat : List Messages) :
    chat.dropLast ++ chat.getLast?.toList = chat := by
  induction chat using List.reverseRecOn with
  | nil => rfl
  | append_singleton before last _ => simp

/-! ## Appends -/

theorem Exhausted.append {log : List Messages} {read : PreviousRead} {message : Messages}
    (exhausted : Exhausted log read) (newest : ∀ stored ∈ log, stored.key < message.key) :
    Exhausted (log ++ [message]) read := by
  refine ⟨?_, ?_, exhausted.short⟩
  · intro stored member
    rcases List.mem_append.mp member with old | added
    · exact exhausted.lowest stored old
    · rw [List.mem_singleton.mp added]
      rcases exhausted.anchored with empty | ⟨anchor, inside, same⟩
      · rw [empty]
        exact empty_le _
      · rw [← same]
        exact (newest anchor inside).le
  · exact exhausted.anchored.imp_right fun ⟨anchor, inside, same⟩ =>
      ⟨anchor, List.mem_append_left _ inside, same⟩

theorem Paging.append {log rest shown : List Messages} {reads : List PreviousRead}
    {message : Messages} (paging : Paging log rest shown reads)
    (newest : ∀ stored ∈ log, stored.key < message.key) :
    Paging (log ++ [message]) rest shown reads :=
  paging.imp_left fun exhausted read member => (exhausted read member).append newest

theorem onStored_other {chat : String} {message : Messages} {widget : ChatWidgetState}
    (other : ∀ sub ∈ widget.subscriptions, interpolate sub.chatKey ≠ chat) :
    (widget.onStored chat message).subscriptions = widget.subscriptions := by
  refine (List.map_congr_left fun sub member => ?_).trans (List.map_id _)
  simp [other sub member]

namespace Handover

variable {Allowed : Bool → Prop} {key : Option String} {log : List Messages}
  {widget : ChatWidgetState}

theorem start (holds : Allowed false) : Handover Allowed key log {} := by
  refine ⟨Lane.start, by simp, fun _ => ⟨rfl, rfl, rfl, rfl, rfl⟩, by simp, by simp, fun _ => ?_⟩
  refine ⟨⟨[], [], none, [], log, [], log⟩, ?_, by simpa [gap] using holds⟩
  exact ⟨by simp, rfl, rfl, rfl, by simp, by simp, by simp, Or.inl (by simp)⟩

theorem loaded (handover : Handover Allowed key log widget) (used : ¬ Blank widget) :
    widget.oldKey = key ∧ widget.chatKey = key ∧ widget.firstReads = [] := by
  by_contra other
  refine used (handover.blank ?_)
  grind

theorem loaded_of_subscription (handover : Handover Allowed key log widget) {index : Nat}
    {sub : Subscription} (found : widget.subscriptions[index]? = some sub) :
    widget.oldKey = key ∧ widget.chatKey = key ∧ widget.firstReads = [] := by
  refine handover.loaded fun blank => ?_
  simp [blank.subscriptions] at found

theorem frame {next : ChatWidgetState} (handover : Handover Allowed key log widget)
    (lane : Lane next) (oldKey : next.oldKey = widget.oldKey)
    (chatKey : next.chatKey = widget.chatKey) (firstReads : next.firstReads = widget.firstReads)
    (previousReads : next.previousReads = widget.previousReads)
    (subscriptions : next.subscriptions = widget.subscriptions ∨ next.subscriptions = [])
    (messages : next.messages = widget.messages)
    (cursor : next.lastMessageKey = widget.lastMessageKey)
    (value : next.messageStream.value = widget.messageStream.value) :
    Handover Allowed key log next := by
  have fewer : ∀ sub ∈ next.subscriptions, sub ∈ widget.subscriptions := by
    intro sub member
    rcases subscriptions with same | none
    · exact same ▸ member
    · simp [none] at member
  refine ⟨lane, ?_, ?_, ?_, ?_, ?_⟩
  · rw [oldKey, chatKey, firstReads]
    exact handover.idle
  · rw [oldKey, chatKey, firstReads]
    intro early
    have blank := handover.blank early
    refine ⟨messages.trans blank.messages, cursor.trans blank.cursor, value.trans blank.hidden,
      previousReads.trans blank.previousReads, List.eq_nil_iff_forall_not_mem.mpr ?_⟩
    intro sub member
    simpa [blank.subscriptions] using fewer sub member
  · rw [previousReads]
    exact handover.pages
  · rw [firstReads]
    exact handover.reads
  · rw [firstReads]
    intro done
    obtain ⟨part, fits, allowed⟩ := handover.parts done
    refine ⟨part, ⟨fits.split, messages.trans fits.messages, fits.order,
      cursor.trans fits.cursor, fits.whole, ?_, ?_, previousReads ▸ fits.paging⟩, allowed⟩
    · exact fun sub member => fits.live sub (fewer sub member)
    · exact fun sub member => fits.opening sub (fewer sub member)

theorem onChatKey {user : Option Int} (handover : Handover Allowed key log widget) :
    Handover Allowed key log (widget.onChatKey user key) := by
  have lane : Lane (widget.onChatKey user key) :=
    handover.lane.onChatKey fun switch => handover.idle (Or.inl switch.symm)
  by_cases same : key = widget.oldKey
  · rw [ChatWidgetState.onChatKey_same same] at lane ⊢
    refine ⟨lane, fun other => handover.idle (by simpa using Or.inl other), ?_, handover.pages,
      handover.reads, ?_⟩
    · intro early
      have blank := handover.blank (by simpa using early.imp_right Or.inr)
      exact ⟨blank.messages, blank.cursor, blank.hidden, blank.previousReads, blank.subscriptions⟩
    · intro done
      obtain ⟨part, fits, allowed⟩ := handover.parts done
      exact ⟨part, ⟨fits.split, fits.messages, fits.order, fits.cursor, fits.whole, fits.live,
        fits.opening, fits.paging⟩, allowed⟩
  · have switch : widget.oldKey ≠ key := fun equal => same equal.symm
    have none := handover.idle (Or.inl switch)
    have blank := handover.blank (Or.inl switch)
    obtain ⟨part, fits, allowed⟩ := handover.parts none
    have cancelled := handover.lane.cancelNoteAdded_subscriptions
    rw [ChatWidgetState.onChatKey_switch same] at lane ⊢
    refine ⟨lane, by simp, ?_, handover.pages, ?_, ?_⟩
    · exact fun _ => ⟨blank.messages, blank.cursor, blank.hidden, blank.previousReads, cancelled⟩
    · intro read member snapshot taken
      have unserved : read.snapshot = Option.none := by
        simp only [none, List.nil_append] at member
        cases user with
        | none => simp [ChatWidgetState.askedFirst] at member
        | some id => rw [List.mem_singleton.mp member]
      simp [unserved] at taken
    · intro done
      refine ⟨part, ⟨fits.split, fits.messages, fits.order, fits.cursor, fits.whole, ?_, ?_,
        fits.paging⟩, allowed⟩
      · simp [cancelled]
      · simp [cancelled]

theorem onStored_elsewhere {chat : String} {message : Messages}
    (handover : Handover Allowed key log widget) (other : chat ≠ interpolate key) :
    Handover Allowed key log (widget.onStored chat message) := by
  refine handover.frame handover.lane.onStored rfl rfl rfl rfl (Or.inl (onStored_other ?_))
    rfl rfl rfl
  intro sub member
  obtain ⟨index, found⟩ := List.getElem?_of_mem member
  rw [(handover.lane.subscriptions sub member).1, (handover.loaded_of_subscription found).1]
  exact other.symm

/-- A message is stored. If the read is past its snapshot and the subscription is
not established, it falls into the window. -/
theorem onStored {Next : Bool → Prop} {message : Messages}
    (handover : Handover Allowed key log widget)
    (newest : ∀ stored ∈ log, stored.key < message.key)
    (inside : ∀ shown ∈ widget.kept, ∀ before, Allowed (!shown.isEmpty && before) →
      Next (!shown.isEmpty))
    (outside : widget.kept = [] → ∀ before, Allowed before → Next before) :
    Handover Next key (log ++ [message]) (widget.onStored (interpolate key) message) := by
  refine ⟨handover.lane.onStored, handover.idle, ?_, handover.pages, ?_, ?_⟩
  · intro early
    have blank := handover.blank early
    exact ⟨blank.messages, blank.cursor, blank.hidden, blank.previousReads,
      by simp [ChatWidgetState.onStored, blank.subscriptions]⟩
  · intro read member snapshot taken
    obtain ⟨rest, window, split, whole, allowed⟩ := handover.reads read member snapshot taken
    refine ⟨rest, window ++ [message], by simp [split], whole, ?_⟩
    have waiting : snapshot.dropLast ∈ widget.kept := by
      refine List.mem_append_left _ (List.mem_filterMap.mpr ⟨read, member, ?_⟩)
      simp [taken]
    rw [gap_concat]
    exact inside _ waiting _ allowed
  · intro (done : widget.firstReads = [])
    obtain ⟨part, fits, allowed⟩ := handover.parts done
    have paging := fits.paging.append newest
    -- before the subscription is established the message moves its first event,
    -- afterwards it is queued
    by_cases opening : ∃ sub ∈ widget.subscriptions, sub.established = false
    · obtain ⟨sub, member, fresh⟩ := opening
      obtain ⟨index, found⟩ := List.getElem?_of_mem member
      obtain ⟨only, -, -⟩ := handover.lane.aloneSubscription found
      obtain ⟨empty, noLives, noLater⟩ := fits.opening sub member fresh
      have waiting : part.shown ∈ widget.kept := by
        refine List.mem_append_right _ (List.mem_map.mpr ⟨sub, ?_, ?_⟩)
        · exact List.mem_filter.mpr ⟨member, by simp [fresh]⟩
        · simp [fits.messages, noLives]
      refine ⟨{ part with window := part.window ++ [message], pending := [message] }, ?_, ?_⟩
      · refine ⟨by simp [fits.split, noLater], fits.messages, by simp [noLives, noLater, Part.last],
          fits.cursor, fits.whole, ?_, ?_, paging⟩
        · simp [ChatWidgetState.onStored, only, fresh]
        · simp [ChatWidgetState.onStored, only, fresh, empty, noLives, noLater]
      · rw [gap_concat]
        exact inside _ waiting _ allowed
    · have established : ∀ sub ∈ widget.subscriptions, sub.established = true := by
        simpa using opening
      have calm : widget.kept = [] := by
        simpa [ChatWidgetState.kept, done] using established
      refine ⟨{ part with
        later := part.later ++ [message], pending := part.pending ++ [message] }, ?_, ?_⟩
      · refine ⟨by simp [fits.split], fits.messages, ?_, fits.cursor, fits.whole, ?_, ?_, paging⟩
        · have order := fits.order
          simp only [Part.last] at order ⊢
          rw [← List.append_assoc, order, List.append_assoc]
        · intro sub member live
          obtain ⟨old, before, rfl⟩ := List.mem_map.mp member
          have active := established old before
          obtain ⟨index, found⟩ := List.getElem?_of_mem before
          have here : old.chatKey = key := by
            rw [(handover.lane.subscriptions old before).1,
              (handover.loaded_of_subscription found).1]
          simp [active, here, fits.live old before active]
        · intro sub member fresh
          obtain ⟨old, before, rfl⟩ := List.mem_map.mp member
          have active := established old before
          exfalso
          split at fresh <;> simp [active] at fresh
      · exact outside calm _ allowed

/-! ## Steps of the widget -/

theorem firstReadServed {index : Nat} {chatKey : Option String}
    (handover : Handover Allowed key log widget) (lane : Lane { widget with
      firstReads := widget.firstReads.set index ⟨chatKey, some (limitToLast 11 log)⟩ })
    (found : widget.firstReads[index]? = some ⟨chatKey, none⟩) (holds : Allowed false) :
    Handover Allowed key log { widget with
      firstReads := widget.firstReads.set index ⟨chatKey, some (limitToLast 11 log)⟩ } := by
  obtain ⟨only, rfl, -⟩ := handover.lane.alone found
  have waiting : widget.firstReads ≠ [] := by simp [only]
  have blank := handover.blank (Or.inr (Or.inr waiting))
  refine ⟨lane, ?_, ?_, handover.pages, ?_, ?_⟩
  · intro other
    exact absurd (handover.idle other) waiting
  · exact fun _ => ⟨blank.messages, blank.cursor, blank.hidden, blank.previousReads,
      blank.subscriptions⟩
  · intro read member snapshot taken
    simp only [only, List.set_cons_zero, List.mem_singleton] at member
    subst member
    cases taken
    obtain ⟨rest, split⟩ := limitToLast_suffix 11 log
    refine ⟨rest, [], by simp [split], ?_, by simpa [gap] using holds⟩
    intro empty
    rw [limitToLast_nil_iff (by decide)] at empty
    simp_all
  · simp [only]

theorem firstReadDone {index : Nat} {chatKey : Option String} {response snapshot : List Messages}
    (handover : Handover Allowed key log widget) (ordered : Ordered Messages.key log)
    (found : widget.firstReads[index]? = some ⟨chatKey, some snapshot⟩)
    (same : response.Perm snapshot)
    (lane : Lane (ChatWidgetState.finishFirstTime chatKey response
      { widget with firstReads := widget.firstReads.eraseIdx index })) :
    Handover Allowed key log (ChatWidgetState.finishFirstTime chatKey response
      { widget with firstReads := widget.firstReads.eraseIdx index }) := by
  obtain ⟨only, rfl, free⟩ := handover.lane.alone found
  have waiting : widget.firstReads ≠ [] := by simp [only]
  have blank := handover.blank (Or.inr (Or.inr waiting))
  have current : ¬ (widget.oldKey ≠ key ∨ widget.chatKey ≠ key) :=
    fun other => waiting (handover.idle other)
  obtain ⟨rest, window, split, whole, allowed⟩ := handover.reads _ (List.mem_of_getElem? found) snapshot rfl
  have sorted : sortByKey Messages.key response = snapshot := by
    refine sortByKey_of_perm (ordered.sublist ?_) same
    rw [split, List.append_assoc]
    exact (List.sublist_append_left _ _).trans (List.sublist_append_right _ _)
  have cursor : ChatWidgetState.cursorAfter response widget = firstKey snapshot.dropLast := by
    rw [ChatWidgetState.cursorAfter, sorted, blank.cursor]
    split
    · rfl
    · next empty =>
      have none : snapshot = [] := by simpa [not_not.mp empty] using same.symm
      simp [none, firstKey]
  -- on an open and on a closed stream the messages and the cursor are the same
  have fits : ∀ {next : ChatWidgetState}, next.messages = snapshot.dropLast →
      next.lastMessageKey = firstKey snapshot.dropLast → next.previousReads = [] →
      (∀ sub ∈ next.subscriptions, sub.established = false ∧ sub.queue = []) →
      ∃ part : Part, part.Fits log next ∧ Allowed (gap part.shown part.window) := by
    intro next messages cursor noPages fresh
    refine ⟨⟨rest, snapshot.dropLast, snapshot.getLast?, window, [], [],
      (snapshot.getLast?.toList ++ window).getLast?.toList⟩, ?_, allowed⟩
    refine ⟨?_, by simp [messages], by simp [Part.last], cursor, ?_, ?_, ?_, Or.inl (by simp [noPages])⟩
    · simp only [split, List.append_nil]
      rw [List.append_assoc rest snapshot.dropLast, dropLast_append_getLast]
    · intro none
      have empty := List.getLast?_eq_none_iff.mp none
      exact ⟨whole empty, by simp [empty]⟩
    · intro sub member live
      simp [(fresh sub member).1] at live
    · exact fun sub member _ => ⟨(fresh sub member).2, rfl, rfl⟩
  have done : ∀ {next : ChatWidgetState}, Lane next → next.oldKey = widget.oldKey →
      next.chatKey = widget.chatKey → next.previousReads = widget.previousReads →
      next.firstReads = [] →
      (∃ part : Part, part.Fits log next ∧ Allowed (gap part.shown part.window)) →
      Handover Allowed key log next := by
    intro next lane old new pages none parts
    refine ⟨lane, fun _ => none, ?_, pages ▸ handover.pages, ?_, fun _ => parts⟩
    · rw [old, new]
      intro early
      exact absurd (early.imp_right fun rest => rest.resolve_right fun some => some none) current
    · rw [none]
      intro read member
      cases member
  have nothing : widget.firstReads.eraseIdx 0 = [] := by simp [only]
  cases closed : widget.messageStream.closed with
  | false =>
    rw [ChatWidgetState.finishFirstTime_open] at lane ⊢
    · exact done lane rfl rfl rfl nothing
        (fits (by simp [sorted]) cursor blank.previousReads (by simp [free]))
    · exact closed
    · exact closed
  | true =>
    rw [ChatWidgetState.finishFirstTime_closed] at lane ⊢
    · exact done lane rfl rfl rfl nothing
        (fits (by simp [sorted]) cursor blank.previousReads (by simp [free]))
    · exact closed
    · exact closed

theorem subscribed {index id : Nat} {chatKey : Option String} {queue : List Messages}
    (handover : Handover Allowed key log widget)
    (found : widget.subscriptions[index]? = some ⟨id, chatKey, false, queue⟩)
    (lane : Lane { widget with
      subscriptions := widget.subscriptions.set index ⟨id, chatKey, true, limitToLast 1 log⟩ }) :
    Handover Allowed key log { widget with
      subscriptions := widget.subscriptions.set index ⟨id, chatKey, true, limitToLast 1 log⟩ } := by
  obtain ⟨only, rfl, done⟩ := handover.lane.aloneSubscription found
  obtain ⟨old, new, -⟩ := handover.loaded_of_subscription found
  obtain ⟨part, fits, allowed⟩ := handover.parts done
  obtain ⟨-, noLives, noLater⟩ := fits.opening _ (List.mem_of_getElem? found) rfl
  have first : limitToLast 1 log = part.pending := by
    have order := fits.order
    rw [noLives, noLater, List.nil_append, List.append_nil] at order
    rw [limitToLast_one, order, part.last_of_log fits.split fits.whole noLater]
  refine ⟨lane, handover.idle, ?_, handover.pages, handover.reads, fun _ => ?_⟩
  · intro early
    simp [old, new, done] at early
  · refine ⟨part, ⟨fits.split, fits.messages, fits.order, fits.cursor, fits.whole, ?_, ?_,
      fits.paging⟩, allowed⟩
    · simp [only, first]
    · simp [only]

theorem childAdded {index id : Nat} {chatKey : Option String} {established : Bool}
    {event : Messages} {queue : List Messages} {user : Option Int} {next : ChatWidgetState}
    {writes : List Write} (handover : Handover Allowed key log widget)
    (found : widget.subscriptions[index]? = some ⟨id, chatKey, established, event :: queue⟩)
    (mounted : widget.mounted = true)
    (handled : ChatWidgetState.listenToRealTimeChat user event { widget with
      subscriptions := widget.subscriptions.set index ⟨id, chatKey, established, queue⟩ } =
        (next, writes))
    (lane : Lane next) : Handover Allowed key log next := by
  obtain ⟨only, rfl, done⟩ := handover.lane.aloneSubscription found
  obtain ⟨old, new, -⟩ := handover.loaded_of_subscription found
  obtain ⟨part, fits, allowed⟩ := handover.parts done
  have member := List.mem_of_getElem? found
  have active : established = true := by
    cases established with
    | true => rfl
    | false => simpa using (fits.opening _ member rfl).1
  subst active
  have pending : event :: queue = part.pending := fits.live _ member rfl
  rw [ChatWidgetState.listenToRealTimeChat_open] at handled
  · cases handled
    refine ⟨lane, handover.idle, ?_, handover.pages, handover.reads, fun _ => ?_⟩
    · intro early
      simp [old, new, done] at early
    · refine ⟨{ part with lives := part.lives ++ [event], pending := queue }, ?_, allowed⟩
      refine ⟨fits.split, by simp [fits.messages], ?_, fits.cursor, fits.whole, by simp [only],
        by simp [only], fits.paging⟩
      have order := fits.order
      rw [← pending] at order
      simpa [Part.last] using order
  · simp [handover.lane.stream, mounted]

theorem withPages {reads : List PreviousRead} (handover : Handover Allowed key log widget)
    (loaded : ¬ Blank widget) (keys : ∀ read ∈ reads, read.chatKey = key)
    (paging : ∀ part : Part, part.Fits log widget → Paging log part.rest part.shown reads) :
    Handover Allowed key log { widget with previousReads := reads } := by
  obtain ⟨old, new, done⟩ := handover.loaded loaded
  have lane := handover.lane
  refine ⟨⟨lane.reads, lane.subscriptions, lane.one, lane.stream, lane.ended⟩, handover.idle, ?_,
    keys, handover.reads, fun _ => ?_⟩
  · intro early
    simp [old, new, done] at early
  · obtain ⟨part, fits, allowed⟩ := handover.parts done
    exact ⟨part, ⟨fits.split, fits.messages, fits.order, fits.cursor, fits.whole, fits.live,
      fits.opening, paging part fits⟩, allowed⟩

theorem scrollToTop (handover : Handover Allowed key log widget)
    (ordered : Ordered Messages.key log) (visible : widget.composer = true)
    (paced : widget.previousReads = [] ∨ ∀ message ∈ log, widget.lastMessageKey ≤ message.key) :
    Handover Allowed key log { widget with previousReads :=
      widget.previousReads ++ [⟨widget.chatKey, widget.lastMessageKey, none⟩] } := by
  have loaded : ¬ Blank widget := fun blank => by
    simp [ChatWidgetState.composer, BehaviorSubject.hasValue, blank.hidden] at visible
  refine handover.withPages loaded ?_ fun part fits => ?_
  · intro read member
    rcases List.mem_append.mp member with old | added
    · exact handover.pages read old
    · rw [List.mem_singleton.mp added]
      exact (handover.loaded loaded).2.1
  have anchored : widget.lastMessageKey = "" ∨
      ∃ message ∈ log, message.key = widget.lastMessageKey := by
    rw [fits.cursor]
    cases shown : part.shown with
    | nil => exact Or.inl rfl
    | cons first others => exact Or.inr ⟨first, by simp [fits.split, shown], rfl⟩
  -- with nothing below the cursor, an outstanding page from it is exhausted too
  by_cases lowest : ∀ message ∈ log, widget.lastMessageKey ≤ message.key
  · refine Or.inl fun read member => ?_
    rcases List.mem_append.mp member with old | added
    · rcases fits.paging with exhausted | ⟨read', first, others, only, shown, continuing⟩
      · exact exhausted read old
      · rw [only] at old
        rw [List.mem_singleton.mp old]
        have cursor : widget.lastMessageKey = first.key := by
          rw [fits.cursor, shown]
          rfl
        have none : part.rest = [] := by
          refine List.eq_nil_iff_forall_not_mem.mpr fun message below => ?_
          have less : message.key < first.key := by
            rw [fits.split, shown] at ordered
            simp only [List.append_assoc] at ordered
            exact (List.pairwise_append.mp ordered).2.2 message below first (by simp)
          have least := lowest message (by simp [fits.split, below])
          rw [cursor] at least
          exact absurd less least.not_gt
        refine ⟨?_, ?_, ?_⟩
        · rw [continuing.bound, ← cursor]
          exact lowest
        · rw [continuing.bound, ← cursor]
          exact anchored
        · intro snapshot taken
          rw [continuing.page snapshot taken, none]
          simp
    · rw [List.mem_singleton.mp added]
      exact ⟨lowest, anchored, by simp⟩
  · have idle := paced.resolve_right lowest
    cases shown : part.shown with
    | nil =>
      refine absurd (fun message _ => ?_) lowest
      rw [fits.cursor, shown]
      exact empty_le message.key
    | cons first others =>
      refine Or.inr ⟨_, first, others, by rw [idle]; rfl, rfl, ?_, by simp⟩
      rw [fits.cursor, shown]
      rfl

theorem previousReadServed {index : Nat} {chatKey : Option String} {bound : String}
    (handover : Handover Allowed key log widget) (ordered : Ordered Messages.key log)
    (found : widget.previousReads[index]? = some ⟨chatKey, bound, none⟩) :
    Handover Allowed key log { widget with
      previousReads := widget.previousReads.set index
        ⟨chatKey, bound, some (limitToLast 4 (endAt Messages.key bound log))⟩ } := by
  have member := List.mem_of_getElem? found
  have loaded : ¬ Blank widget := fun blank => by simp [blank.previousReads] at member
  refine handover.withPages loaded ?_ fun part fits => ?_
  · intro read changed
    rcases List.mem_or_eq_of_mem_set changed with old | rfl
    · exact handover.pages read old
    · exact handover.pages ⟨chatKey, bound, none⟩ member
  rcases fits.paging with exhausted | ⟨read', first, others, only, shown, continuing⟩
  · refine Or.inl fun read changed => ?_
    rcases List.mem_or_eq_of_mem_set changed with old | rfl
    · exact exhausted read old
    · have before := exhausted _ member
      refine ⟨before.lowest, before.anchored, ?_⟩
      intro snapshot taken
      cases taken
      have short := length_endAt_le_one ordered before.lowest
      rw [length_limitToLast]
      exact (min_le_right _ _).trans short
  · rw [only] at found ⊢
    obtain ⟨same, rfl⟩ := alone_of_found (by simp) found
    obtain rfl := List.singleton_inj.mp same
    refine Or.inr ⟨_, first, others, rfl, shown, continuing.bound, ?_⟩
    intro snapshot taken
    cases taken
    have here : bound = first.key := continuing.bound
    have split : log = part.rest ++ first ::
        (others ++ part.dropped.toList ++ part.window ++ part.later) := by
      rw [fits.split, shown]
      simp
    rw [here, split, endAt_key (split ▸ ordered)]

theorem previousReadDone {index : Nat} {chatKey : Option String} {bound : String}
    {response snapshot : List Messages} (handover : Handover Allowed key log widget)
    (ordered : Ordered Messages.key log)
    (found : widget.previousReads[index]? = some ⟨chatKey, bound, some snapshot⟩)
    (same : response.Perm snapshot)
    (lane : Lane (ChatWidgetState.listenToPreviousChat response
      { widget with previousReads := widget.previousReads.eraseIdx index })) :
    Handover Allowed key log (ChatWidgetState.listenToPreviousChat response
      { widget with previousReads := widget.previousReads.eraseIdx index }) := by
  have member := List.mem_of_getElem? found
  have loaded : ¬ Blank widget := fun blank => by simp [blank.previousReads] at member
  have keys : ∀ read ∈ widget.previousReads.eraseIdx index, read.chatKey = key :=
    fun read left => handover.pages read (List.mem_of_mem_eraseIdx left)
  obtain ⟨old, new, done⟩ := handover.loaded loaded
  obtain ⟨part, fits, allowed⟩ := handover.parts done
  cases page : (sortByKey Messages.key response).dropLast with
  | nil =>
    rw [ChatWidgetState.listenToPreviousChat_nil page]
    refine handover.withPages loaded keys fun part fits => ?_
    rcases fits.paging with exhausted | ⟨read, first, others, only, shown, continuing⟩
    · exact Or.inl fun read left => exhausted read (List.mem_of_mem_eraseIdx left)
    · refine Or.inl fun read left => ?_
      obtain ⟨-, single⟩ := alone_of_found (by simp [only]) found
      simp [only, single] at left
  | cons head tail =>
    rcases fits.paging with exhausted | ⟨read, first, others, only, shown, continuing⟩
    · -- such a page is empty
      have short := (exhausted _ member).short snapshot rfl
      have length := congrArg List.length page
      simp only [List.length_dropLast, sortByKey, List.length_insertionSort, same.length_eq,
        List.length_cons] at length
      omega
    · obtain ⟨same', rfl⟩ := alone_of_found (by simp [only]) found
      obtain rfl := List.singleton_inj.mp (only.symm.trans same')
      -- the page ends with the message of the cursor, which is dropped
      have whole : snapshot = limitToLast 3 part.rest ++ [first] := by
        rw [continuing.page snapshot rfl, limitToLast_concat]
      obtain ⟨rest, split⟩ := limitToLast_suffix 3 part.rest
      have inside : Ordered Messages.key snapshot := by
        refine ordered.sublist ?_
        rw [whole, fits.split, shown]
        simp only [List.append_assoc, List.cons_append]
        refine List.Sublist.append (limitToLast_suffix 3 part.rest).sublist ?_
        simp
      have taken : limitToLast 3 part.rest = head :: tail := by
        rw [← page, sortByKey_of_perm inside same, whole, List.dropLast_concat]
      rw [taken] at split
      have longer : ∀ {next : ChatWidgetState}, next.messages = head :: tail ++ widget.messages →
          next.lastMessageKey = head.key → next.previousReads = [] →
          next.subscriptions = widget.subscriptions →
          ∃ part : Part, part.Fits log next ∧ Allowed (gap part.shown part.window) := by
        intro next messages cursor none subs
        refine ⟨{ part with rest, shown := head :: tail ++ part.shown }, ?_, ?_⟩
        · refine ⟨by simp [fits.split, ← split], by simp [messages, fits.messages], fits.order,
            by simp [cursor, firstKey], ?_, subs ▸ fits.live, subs ▸ fits.opening,
            Or.inl (by simp [none])⟩
          intro absent
          have gone := (fits.whole absent).2
          simp [shown] at gone
        · simpa [gap, shown] using allowed
      have empty : widget.previousReads.eraseIdx 0 = [] := by simp [only]
      have current : ¬ (widget.oldKey ≠ key ∨ widget.chatKey ≠ key ∨ widget.firstReads ≠ []) := by
        simp [old, new, done]
      cases closed : widget.messageStream.closed with
      | false =>
        rw [ChatWidgetState.listenToPreviousChat_open _ page] at lane ⊢
        · exact ⟨lane, handover.idle, fun early => absurd early current, keys, handover.reads,
            fun _ => longer rfl rfl empty rfl⟩
        · exact closed
        · exact closed
      | true =>
        rw [ChatWidgetState.listenToPreviousChat_closed _ page] at lane ⊢
        · exact ⟨lane, handover.idle, fun early => absurd early current, keys, handover.reads,
            fun _ => longer rfl rfl empty rfl⟩
        · exact closed
        · exact closed

theorem stepped {db : Database} {user : Option Int} {action : WidgetAction}
    {next : ChatWidgetState} {writes : List Write}
    (handover : Handover Allowed key (db (interpolate key)).stored widget)
    (served : Allowed false ∨ ∀ read ∈ widget.firstReads, read.snapshot ≠ none)
    (paced : action = .scrollToTop → widget.previousReads = [] ∨
      ∀ message ∈ (db (interpolate key)).stored, widget.lastMessageKey ≤ message.key)
    (taken : ChatWidgetState.Stepped db user widget action next writes) :
    Handover Allowed key (db (interpolate key)).stored next := by
  have lane := handover.lane.stepped taken
  have ordered := db.stored_ordered (interpolate key)
  cases taken with
  | @firstReadServed index chatKey found =>
    have member := List.mem_of_getElem? found
    have current : chatKey = key := by
      have old := handover.lane.reads _ member
      by_contra other
      rw [handover.idle (Or.inl fun same => other (old.trans same))] at member
      cases member
    subst current
    refine handover.firstReadServed lane found (served.resolve_right fun all => ?_)
    exact all _ member rfl
  | firstReadDone found same => exact handover.firstReadDone ordered found same lane
  | @subscribed index id chatKey queue found =>
    have current : chatKey = key :=
      (handover.lane.subscriptions _ (List.mem_of_getElem? found)).1.trans
        (handover.loaded_of_subscription found).1
    subst current
    exact handover.subscribed found lane
  | childAdded found mounted handled => exact handover.childAdded found mounted handled lane
  | childAddedLate found unmounted => simp [handover.lane.ended unmounted] at found
  | scrollToTop visible => exact handover.scrollToTop ordered visible (paced rfl)
  | @previousReadServed index chatKey bound found =>
    have current : chatKey = key := handover.pages _ (List.mem_of_getElem? found)
    subst current
    exact handover.previousReadServed ordered found
  | previousReadDone found same => exact handover.previousReadDone ordered found same lane
  | send visible owner => exact handover
  | sendWithoutUser visible owner => exact handover
  | choose visible => exact handover.frame lane rfl rfl rfl rfl (Or.inl rfl) rfl rfl rfl
  | uploadDone found owner => exact handover.frame lane rfl rfl rfl rfl (Or.inl rfl) rfl rfl rfl
  | uploadWithoutUser found owner =>
    exact handover.frame lane rfl rfl rfl rfl (Or.inl rfl) rfl rfl rfl

theorem dispose (handover : Handover Allowed key log widget) :
    Handover Allowed key log widget.dispose :=
  handover.frame handover.lane.dispose rfl rfl rfl rfl
    (Or.inr handover.lane.cancelNoteAdded_subscriptions) rfl rfl rfl

theorem messages_sublist (handover : Handover Allowed key log widget) :
    widget.messages.Sublist log := by
  by_cases done : widget.firstReads = []
  · obtain ⟨part, fits, -⟩ := handover.parts done
    have last : part.last.Sublist (part.dropped.toList ++ part.window) := by
      rw [Part.last, ← limitToLast_one]
      exact (limitToLast_suffix 1 _).sublist
    have events : part.lives.Sublist (part.dropped.toList ++ part.window ++ part.later) := by
      refine (List.sublist_append_left _ part.pending).trans ?_
      rw [fits.order]
      exact last.append (List.Sublist.refl _)
    rw [fits.messages, fits.split]
    simp only [List.append_assoc] at events ⊢
    exact ((List.Sublist.refl _).append events).trans (List.sublist_append_right _ _)
  · simp [(handover.blank (Or.inr (Or.inr done))).messages]

end Handover

/-! ## Runs with one key -/

/-- Only `key` is handed over, and the user scrolls to the top only when no page
is outstanding or nothing is stored below the cursor. -/
def Room.Paced (key : Option String) (room : Room) (action : RoomAction) : Prop :=
  (∀ handed ∈ room.incoming action, handed = key) ∧
  (action = .widget .scrollToTop → room.widget.previousReads = [] ∨
    ∀ message ∈ room.stored key, room.widget.lastMessageKey ≤ message.key)

instance (key : Option String) (room : Room) (action : RoomAction) :
    Decidable (room.Paced key action) :=
  inferInstanceAs (Decidable (_ ∧ _))

def Room.Unscrolled (key : Option String) (room : Room) (action : RoomAction) : Prop :=
  (∀ handed ∈ room.incoming action, handed = key) ∧ action ≠ .widget .scrollToTop

instance (key : Option String) (room : Room) (action : RoomAction) :
    Decidable (room.Unscrolled key action) :=
  inferInstanceAs (Decidable (_ ∧ _))

theorem Room.Unscrolled.paced {key : Option String} {room : Room} {action : RoomAction}
    (unscrolled : room.Unscrolled key action) : room.Paced key action :=
  ⟨unscrolled.1, fun scroll => absurd scroll unscrolled.2⟩

namespace Handover

variable {Allowed : Bool → Prop} {key : Option String} {room next : Room} {action : RoomAction}

theorem moved (handover : Handover Allowed key (room.stored key) room.widget)
    (paced : room.Paced key action)
    (served : Allowed false ∨ ∀ read ∈ room.widget.firstReads, read.snapshot ≠ none)
    (inside : ∀ message, action = .append (interpolate key) message →
      ∀ shown ∈ room.widget.kept, ∀ before, Allowed (!shown.isEmpty && before) →
        Allowed (!shown.isEmpty))
    (taken : Room.Moved room action next) :
    Handover Allowed key (next.stored key) next.widget := by
  cases taken with
  | @append chat message newest =>
    simp only [Room.stored, Database.stored_append newest]
    by_cases here : interpolate key = chat
    · subst here
      rw [if_pos rfl]
      exact handover.onStored newest (inside message rfl) fun _ _ holds => holds
    · rw [if_neg here]
      exact handover.onStored_elsewhere (Ne.symm here)
  | quote quoted =>
    simp only [Room.stored, Database.stored_quote]
    exact handover
  | setUser => exact handover
  | @chatKey handed mounted =>
    obtain rfl := paced.1 handed rfl
    exact handover.onChatKey
  | chatSnapshot => exact handover
  | @tap index chat found mounted =>
    obtain rfl := paced.1 chat.key (Room.incoming_tap found mounted)
    exact handover.onChatKey
  | tapLate found unmounted => exact handover
  | @widget action widget writes stepped =>
    rw [Room.note_stored, Room.note_widget]
    exact handover.stepped served (fun scroll => paced.2 (by rw [scroll])) stepped
  | dispose mounted => exact handover.dispose

end Handover

end SparSomnong.Chat
