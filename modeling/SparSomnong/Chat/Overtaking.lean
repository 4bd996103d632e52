import SparSomnong.Chat.Conservation
import SparSomnong.Chat.Delivery
import SparSomnong.Chat.Replicas

/-! What a widget shows when messages overtake each other.

Messages are stored in the order in which they arrive, and a live feed is told of a
message only if it is the newest. So a message may be missing on a display, but what is
there is in order, each message once, and ends with the newest one.
-/

set_option autoImplicit false

namespace SparSomnong.Chat

open Semantics

namespace Network

/-- The widget is handed one key only, pages are asked for one at a time, and `push()`
returns no key of the messages `initial`. Messages may arrive in any order. -/
def Browsed (index : Nat) (key : Option String) (initial : List Messages) (network : Network)
    (action : NetworkAction) : Prop :=
  action.Fresh initial ∧
  match action with
  | .chatKey other handed => other = index → handed = key
  | .widget other act =>
    other = index → act = .scrollToTop → (network.widgets index).previousReads = []
  | .setUser .. | .dispose _ | .deliver _ => True

instance (index : Nat) (key : Option String) (initial : List Messages) (network : Network) :
    (action : NetworkAction) → Decidable (network.Browsed index key initial action)
  | .chatKey other handed => inferInstanceAs (Decidable (_ ∧ (other = index → handed = key)))
  | .widget other act => inferInstanceAs (Decidable (_ ∧
      (other = index → act = .scrollToTop → (network.widgets index).previousReads = [])))
  | .setUser .. | .dispose _ | .deliver _ => inferInstanceAs (Decidable (_ ∧ True))

end Network

structure Feed (stored messages : List Messages) (sub : Subscription) : Prop where
  ordered : Ordered Messages.key (messages ++ sub.queue)
  inside : messages ++ sub.queue ⊆ stored
  reaches : sub.established = true →
    ∀ message ∈ stored, ∃ known ∈ messages ++ sub.queue, message.key ≤ known.key
  opening : sub.established = false → sub.queue = [] ∧
    ∀ message ∈ messages, ∃ newer ∈ stored, message.key < newer.key

structure Below (key : Option String) (stored : List Messages) (cursor : String)
    (read : PreviousRead) : Prop where
  chatKey : read.chatKey = key
  bound : read.bound = cursor
  page : ∀ snapshot, read.snapshot = some snapshot → Ordered Messages.key snapshot ∧
    ∀ message ∈ snapshot, message ∈ stored ∧ message.key ≤ cursor

/-- A widget that is only ever handed `key`, with `stored` in the conversation. -/
structure InView (key : Option String) (stored : List Messages) (widget : ChatWidgetState) :
    Prop where
  lane : Lane widget
  keyed : Keyed (fun other => other = key) widget
  blank : widget.oldKey ≠ key ∨ widget.firstReads ≠ [] → Blank widget
  served : ∀ read ∈ widget.firstReads, ∀ snapshot, read.snapshot = some snapshot →
    Ordered Messages.key snapshot ∧ snapshot ⊆ stored
  single : widget.previousReads.length ≤ 1
  pages : ∀ read ∈ widget.previousReads, Below key stored widget.lastMessageKey read
  cursor : widget.lastMessageKey ≤ firstKey widget.messages
  ordered : Ordered Messages.key widget.messages
  inside : widget.messages ⊆ stored
  feeds : ∀ sub ∈ widget.subscriptions, Feed stored widget.messages sub

/-- The first message on display has the lowest key. -/
theorem firstKey_le {messages waiting : List Messages} {message : Messages}
    (ordered : Ordered Messages.key (messages ++ waiting)) (member : message ∈ messages ++ waiting) :
    firstKey messages ≤ message.key := by
  cases messages with
  | nil => exact empty_le message.key
  | cons first rest =>
    rcases List.mem_cons.mp member with rfl | later
    · exact le_refl _
    · exact ((List.pairwise_cons.mp ordered).1 message later).le

namespace Feed

variable {stored more messages page : List Messages} {sub : Subscription}

theorem mono (feed : Feed stored messages sub) (kept : stored ⊆ more)
    (covered : ∀ message ∈ more, ∃ known ∈ stored, message.key ≤ known.key) :
    Feed more messages sub := by
  refine ⟨feed.ordered, fun message member => kept (feed.inside member), ?_, ?_⟩
  · intro established message member
    obtain ⟨known, old, above⟩ := covered message member
    obtain ⟨shown, here, higher⟩ := feed.reaches established known old
    exact ⟨shown, here, above.trans higher⟩
  · intro opening
    obtain ⟨empty, older⟩ := feed.opening opening
    refine ⟨empty, fun message member => ?_⟩
    obtain ⟨newer, old, less⟩ := older message member
    exact ⟨newer, kept old, less⟩

theorem extend (feed : Feed stored messages sub) (ordered : Ordered Messages.key page)
    (inside : page ⊆ stored)
    (less : ∀ message ∈ page, ∀ shown ∈ messages ++ sub.queue, message.key < shown.key)
    (older : ∀ message ∈ page, ∃ newer ∈ stored, message.key < newer.key) :
    Feed stored (page ++ messages) sub := by
  constructor
  · rw [List.append_assoc]
    exact List.pairwise_append.mpr ⟨ordered, feed.ordered, less⟩
  · rw [List.append_assoc]
    exact List.append_subset.mpr ⟨inside, feed.inside⟩
  · intro established message member
    obtain ⟨known, here, above⟩ := feed.reaches established message member
    exact ⟨known, by simpa only [List.append_assoc] using List.mem_append_right page here, above⟩
  · intro opening
    obtain ⟨empty, below⟩ := feed.opening opening
    refine ⟨empty, fun message member => ?_⟩
    rcases List.mem_append.mp member with added | old
    · exact older message added
    · exact below message old

theorem arrives {message : Messages} (feed : Feed stored messages sub)
    (newest : ∀ old ∈ stored, old.key < message.key) :
    Feed (stored ++ [message]) messages
      (if sub.established then { sub with queue := sub.queue ++ [message] } else sub) := by
  cases established : sub.established with
  | false =>
    obtain ⟨empty, below⟩ := feed.opening established
    refine ⟨feed.ordered, fun old member => List.mem_append_left _ (feed.inside member), ?_, ?_⟩
    · intro open_
      rw [if_neg (by simp), established] at open_
      cases open_
    · refine fun _ => ⟨empty, fun old member => ?_⟩
      obtain ⟨newer, inside, less⟩ := below old member
      exact ⟨newer, List.mem_append_left _ inside, less⟩
  | true =>
    constructor
    · rw [if_pos rfl, ← List.append_assoc]
      refine List.pairwise_append.mpr ⟨feed.ordered, by simp, fun old member new last => ?_⟩
      rw [List.mem_singleton.mp last]
      exact newest old (feed.inside member)
    · rw [if_pos rfl, ← List.append_assoc]
      exact List.append_subset.mpr ⟨fun old member => List.mem_append_left _ (feed.inside member), by simp⟩
    · intro _ old member
      rw [if_pos rfl]
      rcases List.mem_append.mp member with before | last
      · exact ⟨message, by simp, (newest old before).le⟩
      · exact ⟨message, by simp, by rw [List.mem_singleton.mp last]⟩
    · intro open_
      rw [if_pos rfl] at open_
      simp at open_

end Feed

namespace InView

variable {key : Option String} {stored more : List Messages} {widget next : ChatWidgetState}

theorem start : InView key stored {} := by
  constructor
  · exact Lane.start
  · exact Keyed.start
  · exact fun _ => ⟨rfl, rfl, rfl, rfl, rfl⟩
  · simp
  · simp
  · simp
  · exact le_refl _
  · exact List.Pairwise.nil
  · simp
  · simp

theorem chatKey_of_subscription {sub : Subscription} (view : InView key stored widget)
    (member : sub ∈ widget.subscriptions) : sub.chatKey = key := by
  obtain ⟨place, found⟩ := List.getElem?_of_mem member
  obtain ⟨same, bound⟩ := view.keyed.bound_of_subscription found
  exact ((view.lane.subscriptions sub member).1.trans same).trans bound

theorem chatKey_of_firstRead {read : FirstRead} (view : InView key stored widget)
    (member : read ∈ widget.firstReads) : read.chatKey = key := by
  obtain ⟨place, found⟩ := List.getElem?_of_mem member
  obtain ⟨same, bound⟩ := view.keyed.bound_of_firstRead found
  exact ((view.lane.reads read member).trans same).trans bound

theorem onStored_elsewhere {chat : String} {message : Messages} (view : InView key stored widget)
    (elsewhere : interpolate key ≠ chat) :
    (widget.onStored chat message).subscriptions = widget.subscriptions := by
  refine onStored_other fun sub member => ?_
  rw [view.chatKey_of_subscription member]
  exact elsewhere

theorem mono (view : InView key stored widget) (kept : stored ⊆ more)
    (covered : ∀ message ∈ more, ∃ known ∈ stored, message.key ≤ known.key) :
    InView key more widget := by
  refine { view with served := ?_, pages := ?_, inside := ?_, feeds := ?_ }
  · intro read member snapshot taken
    obtain ⟨ordered, inside⟩ := view.served read member snapshot taken
    exact ⟨ordered, fun message known => kept (inside known)⟩
  · intro read member
    obtain ⟨chatKey, bound, page⟩ := view.pages read member
    refine ⟨chatKey, bound, fun snapshot taken => ?_⟩
    obtain ⟨ordered, below⟩ := page snapshot taken
    exact ⟨ordered, fun message known => (below message known).imp_left fun old => kept old⟩
  · exact fun message member => kept (view.inside member)
  · exact fun sub member => (view.feeds sub member).mono kept covered

theorem frame (view : InView key stored widget) (lane : Lane next)
    (keyed : Keyed (fun other => other = key) next) (oldKey : next.oldKey = widget.oldKey)
    (firstReads : next.firstReads = widget.firstReads)
    (previousReads : next.previousReads = widget.previousReads)
    (cursor : next.lastMessageKey = widget.lastMessageKey)
    (messages : next.messages = widget.messages)
    (stream : next.messageStream.value = widget.messageStream.value)
    (subscriptions : ∀ sub ∈ next.subscriptions, sub ∈ widget.subscriptions) :
    InView key stored next := by
  constructor
  · exact lane
  · exact keyed
  · rw [oldKey, firstReads]
    intro early
    obtain ⟨empty, low, hidden, idle, closed⟩ := view.blank early
    refine ⟨messages.trans empty, cursor.trans low, stream.trans hidden,
      previousReads.trans idle, List.eq_nil_iff_forall_not_mem.mpr fun sub member => ?_⟩
    have old := subscriptions sub member
    rw [closed] at old
    cases old
  · rw [firstReads]
    exact view.served
  · rw [previousReads]
    exact view.single
  · rw [previousReads, cursor]
    exact view.pages
  · rw [cursor, messages]
    exact view.cursor
  · rw [messages]
    exact view.ordered
  · rw [messages]
    exact view.inside
  · rw [messages]
    exact fun sub member => view.feeds sub (subscriptions sub member)

theorem onChatKey {user : Option Int} (view : InView key stored widget) :
    InView key stored (widget.onChatKey user key) := by
  have idle : key ≠ widget.oldKey → widget.firstReads = [] := by
    intro switch
    rcases view.keyed.key with ⟨same, bound⟩ | untouched
    · exact absurd (bound.symm.trans same.symm) switch
    · exact untouched.firstReads
  have lane : Lane (widget.onChatKey user key) := view.lane.onChatKey idle
  have keyed : Keyed (fun other => other = key) (widget.onChatKey user key) :=
    view.keyed.onChatKey rfl
  by_cases same : key = widget.oldKey
  · rw [ChatWidgetState.onChatKey_same same] at lane keyed ⊢
    exact view.frame lane keyed rfl rfl rfl rfl rfl rfl fun sub member => member
  · obtain ⟨empty, low, hidden, waiting, closed⟩ := view.blank (Or.inl (Ne.symm same))
    have cancelled := view.lane.cancelNoteAdded_subscriptions
    rw [ChatWidgetState.onChatKey_switch same] at lane keyed ⊢
    refine ⟨lane, keyed, fun _ => ⟨empty, low, hidden, waiting, cancelled⟩, ?_, view.single,
      view.pages, view.cursor, view.ordered, view.inside, by simp [cancelled]⟩
    intro read member snapshot taken
    have unserved : read.snapshot = none := by
      simp only [idle same, List.nil_append] at member
      cases user with
      | none => simp [ChatWidgetState.askedFirst] at member
      | some id => rw [List.mem_singleton.mp member]
    rw [unserved] at taken
    cases taken

theorem dispose (view : InView key stored widget) : InView key stored widget.dispose :=
  view.frame view.lane.dispose view.keyed.dispose rfl rfl rfl rfl rfl rfl fun _ member =>
    List.mem_of_mem_filter member

theorem arrives {message : Messages} (view : InView key stored widget)
    (newest : ∀ old ∈ stored, old.key < message.key) :
    InView key (stored ++ [message]) (widget.onStored (interpolate key) message) := by
  have kept : stored ⊆ stored ++ [message] := List.subset_append_left _ _
  constructor
  · exact view.lane.onStored
  · exact view.keyed.onStored
  · intro early
    obtain ⟨empty, low, hidden, idle, closed⟩ := view.blank early
    exact ⟨empty, low, hidden, idle, by simp [ChatWidgetState.onStored, closed]⟩
  · intro read member snapshot taken
    obtain ⟨ordered, inside⟩ := view.served read member snapshot taken
    exact ⟨ordered, fun old known => kept (inside known)⟩
  · exact view.single
  · intro read member
    obtain ⟨chatKey, bound, page⟩ := view.pages read member
    refine ⟨chatKey, bound, fun snapshot taken => ?_⟩
    obtain ⟨ordered, below⟩ := page snapshot taken
    exact ⟨ordered, fun old known => (below old known).imp_left fun inside => kept inside⟩
  · exact view.cursor
  · exact view.ordered
  · exact fun old member => kept (view.inside member)
  · intro sub member
    obtain ⟨old, before, rfl⟩ := List.mem_map.mp member
    have here := view.chatKey_of_subscription before
    have told := (view.feeds old before).arrives newest
    simp only [here, beq_self_eq_true, Bool.and_true] at told ⊢
    exact told

/-! ### What a widget does -/

theorem firstReadDone {index : Nat} {chatKey : Option String} {response snapshot : List Messages}
    (view : InView key stored widget)
    (found : widget.firstReads[index]? = some ⟨chatKey, some snapshot⟩)
    (same : response.Perm snapshot)
    (lane : Lane (ChatWidgetState.finishFirstTime chatKey response
      { widget with firstReads := widget.firstReads.eraseIdx index }))
    (keyed : Keyed (fun other => other = key) (ChatWidgetState.finishFirstTime chatKey response
      { widget with firstReads := widget.firstReads.eraseIdx index })) :
    InView key stored (ChatWidgetState.finishFirstTime chatKey response
      { widget with firstReads := widget.firstReads.eraseIdx index }) := by
  obtain ⟨only, rfl, free⟩ := view.lane.alone found
  obtain ⟨empty, low, hidden, idle, closed⟩ := view.blank (Or.inr (by simp [only]))
  obtain ⟨ordered, inside⟩ := view.served _ (List.mem_of_getElem? found) _ rfl
  obtain ⟨agrees, bound⟩ := view.keyed.bound_of_firstRead found
  have sorted : sortByKey Messages.key response = snapshot := sortByKey_of_perm ordered same
  have none : widget.firstReads.eraseIdx 0 = [] := by simp [only]
  have kept : snapshot.dropLast ⊆ stored := fun message member =>
    inside ((List.dropLast_sublist snapshot).subset member)
  have cursor : ChatWidgetState.cursorAfter response widget ≤ firstKey snapshot.dropLast := by
    rw [ChatWidgetState.cursorAfter, sorted]
    split
    · exact le_refl _
    · rw [low]
      exact empty_le _
  -- on an open and on a closed stream the display and the cursor are the same
  have fits : ∀ {next : ChatWidgetState}, Lane next → Keyed (fun other => other = key) next →
      next.oldKey = widget.oldKey → next.firstReads = [] → next.previousReads = [] →
      next.lastMessageKey = ChatWidgetState.cursorAfter response widget →
      next.messages = snapshot.dropLast →
      (∀ sub ∈ next.subscriptions, sub.established = false ∧ sub.queue = []) →
      InView key stored next := by
    intro next lane keyed oldKey reads pages low messages opening
    refine ⟨lane, keyed, ?_, by simp [reads], by simp [pages], by simp [pages], ?_, ?_, ?_, ?_⟩
    · rw [oldKey, reads, agrees, bound]
      simp
    · rw [low, messages]
      exact cursor
    · rw [messages]
      exact ordered.sublist (List.dropLast_sublist snapshot)
    · rw [messages]
      exact kept
    · intro sub member
      obtain ⟨established, queue⟩ := opening sub member
      refine ⟨?_, ?_, by simp [established], fun _ => ⟨queue, fun message shown => ?_⟩⟩
      · rw [queue, List.append_nil, messages]
        exact ordered.sublist (List.dropLast_sublist snapshot)
      · rw [queue, List.append_nil, messages]
        exact kept
      · rw [messages] at shown
        obtain ⟨last, member, less⟩ := ordered.below_last shown
        exact ⟨last, inside member, less⟩
  cases opened : widget.messageStream.closed with
  | false =>
    rw [ChatWidgetState.finishFirstTime_open (by exact opened)] at lane keyed ⊢
    exact fits lane keyed rfl none idle rfl (congrArg List.dropLast sorted) (by simp [free])
  | true =>
    rw [ChatWidgetState.finishFirstTime_closed (by exact opened)] at lane keyed ⊢
    exact fits lane keyed rfl none idle rfl (congrArg List.dropLast sorted) (by simp [free])

theorem previousReadDone {index : Nat} {chatKey : Option String} {bound : String}
    {response snapshot : List Messages} (view : InView key stored widget)
    (found : widget.previousReads[index]? = some ⟨chatKey, bound, some snapshot⟩)
    (same : response.Perm snapshot)
    (lane : Lane (ChatWidgetState.listenToPreviousChat response
      { widget with previousReads := widget.previousReads.eraseIdx index }))
    (keyed : Keyed (fun other => other = key) (ChatWidgetState.listenToPreviousChat response
      { widget with previousReads := widget.previousReads.eraseIdx index })) :
    InView key stored (ChatWidgetState.listenToPreviousChat response
      { widget with previousReads := widget.previousReads.eraseIdx index }) := by
  have member := List.mem_of_getElem? found
  obtain ⟨-, -, page⟩ := view.pages _ member
  obtain ⟨ordered, below⟩ := page snapshot rfl
  have sorted : sortByKey Messages.key response = snapshot := sortByKey_of_perm ordered same
  obtain ⟨only, rfl⟩ := alone_of_found view.single found
  have none : widget.previousReads.eraseIdx 0 = [] := by simp [only]
  obtain ⟨agrees, bound⟩ := view.keyed.bound_of_previousRead found
  have loaded : ¬ (widget.oldKey ≠ key ∨ widget.firstReads ≠ []) := by
    intro early
    have idle := (view.blank early).previousReads
    rw [idle] at member
    cases member
  -- the page ends with a message that is not above the cursor, which is dropped
  have older : ∀ message ∈ snapshot.dropLast, message.key < widget.lastMessageKey ∧
      ∃ newer ∈ stored, message.key < newer.key := by
    intro message shown
    obtain ⟨last, inside, less⟩ := ordered.below_last shown
    obtain ⟨known, most⟩ := below last inside
    exact ⟨less.trans_le most, last, known, less⟩
  have pageOrdered : Ordered Messages.key snapshot.dropLast :=
    ordered.sublist (List.dropLast_sublist snapshot)
  have pageInside : snapshot.dropLast ⊆ stored := fun message shown =>
    (below message ((List.dropLast_sublist snapshot).subset shown)).1
  have less : ∀ {waiting : List Messages}, Ordered Messages.key (widget.messages ++ waiting) →
      ∀ message ∈ snapshot.dropLast, ∀ shown ∈ widget.messages ++ waiting,
        message.key < shown.key := fun whole message inside shown here =>
    (older message inside).1.trans_le (view.cursor.trans (firstKey_le whole here))
  have fits : ∀ {next : ChatWidgetState}, Lane next → Keyed (fun other => other = key) next →
      next.oldKey = widget.oldKey → next.firstReads = widget.firstReads →
      next.previousReads = [] → next.lastMessageKey ≤ firstKey next.messages →
      next.messages = snapshot.dropLast ++ widget.messages →
      next.subscriptions = widget.subscriptions → InView key stored next := by
    intro next lane keyed oldKey reads pages cursor messages subscriptions
    refine ⟨lane, keyed, ?_, ?_, by simp [pages], by simp [pages], cursor, ?_, ?_, ?_⟩
    · rw [oldKey, reads]
      exact fun early => absurd early loaded
    · rw [reads]
      exact view.served
    · rw [messages]
      have alone : Ordered Messages.key (widget.messages ++ []) := by
        rw [List.append_nil]
        exact view.ordered
      refine List.pairwise_append.mpr ⟨pageOrdered, view.ordered, ?_⟩
      exact fun message inside shown here =>
        less alone message inside shown (List.mem_append_left _ here)
    · rw [messages]
      exact List.append_subset.mpr ⟨pageInside, view.inside⟩
    · rw [messages, subscriptions]
      intro sub live
      have feed := view.feeds sub live
      exact feed.extend pageOrdered pageInside (less feed.ordered) fun message inside =>
        (older message inside).2
  cases shown : (sortByKey Messages.key response).dropLast with
  | nil =>
    rw [ChatWidgetState.listenToPreviousChat_nil shown] at lane keyed ⊢
    refine fits lane keyed rfl rfl none view.cursor ?_ rfl
    rw [← sorted, shown, List.nil_append]
  | cons first rest =>
    cases opened : widget.messageStream.closed with
    | false =>
      rw [ChatWidgetState.listenToPreviousChat_open (by exact opened) shown] at lane keyed ⊢
      refine fits lane keyed rfl rfl none (le_refl _) ?_ rfl
      rw [← sorted, shown]
    | true =>
      rw [ChatWidgetState.listenToPreviousChat_closed (by exact opened) shown] at lane keyed ⊢
      refine fits lane keyed rfl rfl none (le_refl _) ?_ rfl
      rw [← sorted, shown]

theorem feed {index : Nat} {old : Subscription} (view : InView key stored widget)
    (sub : Subscription) (found : widget.subscriptions[index]? = some old) (lane : Lane next)
    (keyed : Keyed (fun other => other = key) next) (oldKey : next.oldKey = widget.oldKey)
    (firstReads : next.firstReads = widget.firstReads)
    (previousReads : next.previousReads = widget.previousReads)
    (cursor : next.lastMessageKey = widget.lastMessageKey)
    (subscriptions : next.subscriptions = widget.subscriptions.set index sub)
    (grown : widget.messages <+: next.messages) (fed : Feed stored next.messages sub) :
    InView key stored next := by
  obtain ⟨only, rfl, idle⟩ := view.lane.aloneSubscription found
  obtain ⟨agrees, bound⟩ := view.keyed.bound_of_subscription found
  constructor
  · exact lane
  · exact keyed
  · rw [oldKey, firstReads, idle, agrees, bound]
    simp
  · rw [firstReads]
    exact view.served
  · rw [previousReads]
    exact view.single
  · rw [previousReads, cursor]
    exact view.pages
  · obtain ⟨later, whole⟩ := grown
    rw [cursor, ← whole]
    cases shown : widget.messages with
    | nil =>
      have lowest := view.cursor
      rw [shown] at lowest
      exact lowest.trans (empty_le _)
    | cons first rest =>
      have lowest := view.cursor
      rw [shown] at lowest
      exact lowest
  · exact fed.ordered.sublist (List.sublist_append_left _ _)
  · exact (List.append_subset.mp fed.inside).1
  · intro other member
    rw [subscriptions, only, List.set_cons_zero, List.mem_singleton] at member
    rw [member]
    exact fed

theorem stepped {db : Database} {user : Option Int} {action : WidgetAction}
    {writes : List Write} (view : InView key (db (interpolate key)).stored widget)
    (free : action = .scrollToTop → widget.previousReads = [])
    (taken : ChatWidgetState.Stepped db user widget action next writes) :
    InView key (db (interpolate key)).stored next := by
  have lane := view.lane.stepped taken
  have keyed := (view.keyed.stepped taken).1
  have ordered : Ordered Messages.key (db (interpolate key)).stored := db.stored_ordered _
  cases taken with
  | @firstReadServed index chatKey found =>
    obtain ⟨only, rfl, -⟩ := view.lane.alone found
    obtain rfl : chatKey = key := view.chatKey_of_firstRead (List.mem_of_getElem? found)
    obtain ⟨empty, low, hidden, idle, closed⟩ := view.blank (Or.inr (by simp [only]))
    refine { view with
      lane, keyed, blank := fun _ => ⟨empty, low, hidden, idle, closed⟩, served := ?_ }
    intro read member snapshot taken
    simp only [only, List.set_cons_zero, List.mem_singleton] at member
    subst member
    cases taken
    have window := (limitToLast_suffix 11 (db (interpolate chatKey)).stored).sublist
    exact ⟨ordered.sublist window, window.subset⟩
  | firstReadDone found same => exact view.firstReadDone found same lane keyed
  | @subscribed index id chatKey queue found =>
    obtain rfl : chatKey = key := view.chatKey_of_subscription (List.mem_of_getElem? found)
    obtain ⟨empty, older⟩ := (view.feeds _ (List.mem_of_getElem? found)).opening rfl
    refine view.feed ⟨id, chatKey, true, limitToLast 1 (db (interpolate chatKey)).stored⟩ found
      lane keyed rfl rfl rfl rfl rfl (List.prefix_refl _) ?_
    have last := (limitToLast_suffix 1 (db (interpolate chatKey)).stored).sublist
    refine ⟨?_, List.append_subset.mpr ⟨view.inside, last.subset⟩, ?_, by simp⟩
    · refine List.pairwise_append.mpr ⟨view.ordered, ordered.sublist last, ?_⟩
      intro message shown newest member
      obtain ⟨newer, inside, less⟩ := older message shown
      exact less.trans_le (ordered.le_last inside member)
    · intro _ message member
      have some : limitToLast 1 (db (interpolate chatKey)).stored ≠ [] := fun none =>
        List.ne_nil_of_mem member ((limitToLast_nil_iff Nat.one_pos).mp none)
      obtain ⟨newest, inside⟩ := List.exists_mem_of_ne_nil _ some
      exact ⟨newest, List.mem_append_right _ inside, ordered.le_last member inside⟩
  | @childAdded index id chatKey established event queue next writes found mounted handled =>
    obtain ⟨firstReads, previousReads, subscriptions⟩ :=
      ChatWidgetState.listenToRealTimeChat_frame handled
    have messages := ChatWidgetState.listenToRealTimeChat_messages handled
    have cursor := ChatWidgetState.listenToRealTimeChat_cursor handled
    obtain ⟨-, oldKey, -⟩ := Keyed.listenToRealTimeChat_keys handled
    have waiting := view.feeds _ (List.mem_of_getElem? found)
    have moved : widget.messages ++ event :: queue = next.messages ++ queue := by
      rw [messages, List.append_assoc]
      rfl
    refine view.feed ⟨id, chatKey, established, queue⟩ found lane keyed oldKey firstReads
      previousReads cursor subscriptions ?_ ?_
    · rw [messages]
      exact List.prefix_append _ _
    · refine ⟨moved ▸ waiting.ordered, moved ▸ waiting.inside, moved ▸ waiting.reaches, ?_⟩
      intro opening
      obtain ⟨empty, -⟩ := waiting.opening opening
      cases empty
  | childAddedLate found unmounted => simp [view.lane.ended unmounted] at found
  | scrollToTop visible =>
    have none := free rfl
    obtain ⟨-, bound⟩ := view.keyed.bound_of_composer visible
    refine { view with lane, keyed, blank := ?_, single := ?_, pages := ?_ }
    · intro early
      have hidden := (view.blank early).hidden
      simp [ChatWidgetState.composer, BehaviorSubject.hasValue, hidden] at visible
    · simp [none]
    · intro read member
      rw [none, List.nil_append, List.mem_singleton] at member
      rw [member]
      exact ⟨bound, rfl, by simp⟩
  | @previousReadServed index chatKey bound found =>
    obtain ⟨only, rfl⟩ := alone_of_found view.single found
    obtain ⟨here, low, -⟩ := view.pages _ (List.mem_of_getElem? found)
    have loaded : ¬ (widget.oldKey ≠ key ∨ widget.firstReads ≠ []) := by
      intro early
      rw [(view.blank early).previousReads] at only
      cases only
    refine { view with
      lane, keyed, blank := fun early => absurd early loaded, single := ?_, pages := ?_ }
    · simp [only]
    · intro read member
      rw [only, List.set_cons_zero, List.mem_singleton] at member
      rw [member]
      refine ⟨here, low, fun snapshot taken => ?_⟩
      cases taken
      obtain rfl : chatKey = key := here
      obtain rfl : bound = widget.lastMessageKey := low
      have window := (limitToLast_suffix 4 (endAt Messages.key widget.lastMessageKey
        (db (interpolate chatKey)).stored)).sublist
      refine ⟨ordered.sublist (window.trans List.filter_sublist), fun message member => ?_⟩
      obtain ⟨inside, most⟩ := List.mem_filter.mp (window.subset member)
      exact ⟨inside, of_decide_eq_true most⟩
  | previousReadDone found same => exact view.previousReadDone found same lane keyed
  | _ => exact view.frame lane keyed rfl rfl rfl rfl rfl rfl fun sub member => member

end InView

/-! ## Any number of clients -/

theorem Network.Carried.delivered_subset {network next : Network} {action : NetworkAction}
    (carried : network.Carried action next) : network.delivered ⊆ next.delivered := by
  rw [Network.delivered, Network.delivered]
  cases carried with
  | quiet _ _ _ arrived | marked _ _ _ _ arrived | posted _ _ _ _ _ _ arrived =>
    rw [arrived]
    exact List.Subset.refl _
  | delivered _ _ _ _ arrived =>
    rw [arrived, List.filterMap_append]
    exact List.subset_append_left _ _

theorem Conserved.stored_subset {initial : List Messages} {chat : String}
    {network next : Network} (before : Conserved initial chat network)
    (after : Conserved initial chat next) (grown : network.delivered ⊆ next.delivered) :
    (network.db chat).stored ⊆ (next.db chat).stored := by
  intro message member
  refine after.stored.symm.subset ?_
  rcases List.mem_append.mp (before.stored.subset member) with old | came
  · exact List.mem_append_left _ old
  · obtain ⟨posting, inside, rfl⟩ := List.mem_map.mp came
    obtain ⟨arrived, here⟩ := List.mem_filter.mp inside
    refine List.mem_append_right _ (List.mem_map_of_mem ?_)
    exact List.mem_filter.mpr ⟨grown arrived, here⟩

namespace InView

variable {owner : Nat → Nat} {index : Nat} {key : Option String} {initial : List Messages}
  {network next : Network} {action : NetworkAction}

theorem delivered {write : Write}
    (view : InView key (network.db (interpolate key)).stored (network.widgets index))
    (kept : (network.db (interpolate key)).stored ⊆
      (network.db.apply write (interpolate key)).stored) :
    InView key (network.db.apply write (interpolate key)).stored
      (network.notify write index) := by
  cases stores : write.posting with
  | none =>
    rw [Database.stored_of_no_posting stores]
    simp only [Network.notify, stores]
    exact view
  | some posting =>
    obtain rfl := Write.posting_eq_some.mp stores
    by_cases newest : network.db.Newest (interpolate posting.chatKey) posting.message
    · have told : network.notify posting.messageWrite index =
          (network.widgets index).onStored (interpolate posting.chatKey) posting.message := by
        simp [Network.notify, newest]
      rw [told, Database.apply_messageWrite, Database.stored_append newest]
      split
      · next here =>
        rw [← here] at newest ⊢
        exact view.arrives newest
      · next elsewhere =>
        have others := @onStored_elsewhere _ _ _ _ posting.message view elsewhere
        exact view.frame view.lane.onStored view.keyed.onStored rfl rfl rfl rfl rfl rfl
          fun sub member => others ▸ member
    · have quiet : network.notify posting.messageWrite index = network.widgets index := by
        simp [Network.notify, newest]
      rw [quiet]
      refine view.mono kept fun message member => ?_
      rw [Database.stored_messageWrite] at member
      -- a message that is not the newest is below another one
      have below : interpolate key = interpolate posting.chatKey →
          ∃ known ∈ (network.db (interpolate key)).stored, posting.message.key ≤ known.key := by
        intro here
        simp only [Database.Newest, not_forall, not_lt] at newest
        obtain ⟨known, inside, above⟩ := newest
        exact ⟨known, here ▸ inside, above⟩
      split at member
      · next here =>
        rcases member with rfl | ⟨old, -⟩
        · exact below here
        · exact ⟨message, old, le_refl _⟩
      · exact ⟨message, member, le_refl _⟩

theorem step (view : InView key (network.db (interpolate key)).stored (network.widgets index))
    (browsed : network.Browsed index key initial action)
    (taken : network.step owner action = some next)
    (kept : (network.db (interpolate key)).stored ⊆ (next.db (interpolate key)).stored) :
    InView key (next.db (interpolate key)).stored (next.widgets index) := by
  have update : ∀ {other : Nat} {widget : ChatWidgetState}, (other = index →
      InView key (network.db (interpolate key)).stored widget) →
      InView key (network.db (interpolate key)).stored
        (Function.update network.widgets other widget index) := by
    intro other widget own
    by_cases here : other = index
    · subst here
      rw [Function.update_self]
      exact own rfl
    · rw [Function.update_of_ne (Ne.symm here)]
      exact view
  cases action with
  | setUser client user =>
    cases taken
    exact view
  | chatKey other handed =>
    simp only [Network.step] at taken
    split at taken
    · cases taken
      refine update fun here => ?_
      obtain rfl := browsed.2 here
      subst here
      exact view.onChatKey
    · cases taken
  | widget other act =>
    simp only [Network.step] at taken
    split at taken
    · split at taken
      · next widget writes stepped =>
        cases taken
        refine update fun here => ?_
        have free := browsed.2 here
        subst here
        exact view.stepped free (ChatWidgetState.stepped_of_step stepped)
      · cases taken
    · cases taken
  | dispose other =>
    simp only [Network.step] at taken
    split at taken
    · cases taken
      refine update fun here => ?_
      subst here
      exact view.dispose
    · cases taken
  | deliver client =>
    simp only [Network.step] at taken
    split at taken
    · next write rest waiting =>
      cases taken
      exact view.delivered kept
    · cases taken

end InView

variable {owner : Nat → Nat} {index : Nat} {key : Option String} {db : Database}
  {users : Nat → Option Int} {actions : List NetworkAction} {final : Network}

/-- In whatever order messages arrive, a widget that is used in one conversation shows
messages stored there, in their order and each once, and once it has been told of
everything it ends with the newest one. -/
theorem shown_among_stored
    (meets : Meets (Network.step owner) (Network.Browsed index key (db (interpolate key)).stored)
      (Network.start db users) actions)
    (reached : run (Network.step owner) (Network.start db users) actions = some final) :
    (final.widgets index).messages.Sublist (final.db (interpolate key)).stored ∧
      ((final.room owner index).CaughtUp key → (final.widgets index).messages.getLast? =
        (final.db (interpolate key)).stored.getLast?) := by
  have holds : Conserved (db (interpolate key)).stored (interpolate key) final ∧
      InView key (final.db (interpolate key)).stored (final.widgets index) := by
    refine run_invariant (fun network : Network =>
      Conserved (db (interpolate key)).stored (interpolate key) network ∧
        InView key (network.db (interpolate key)).stored (network.widgets index)) ?_
      ⟨Conserved.start db users, InView.start⟩ meets reached
    intro network action next before browsed taken
    have carried := Network.carried_of_step taken
    have after := before.1.carried browsed.1 carried
    refine ⟨after, before.2.step browsed taken (before.1.stored_subset after ?_)⟩
    exact carried.delivered_subset
  obtain ⟨-, view⟩ := holds
  have ordered : Ordered Messages.key (final.db (interpolate key)).stored :=
    final.db.stored_ordered _
  refine ⟨view.ordered.sublist_of_subset ordered view.inside, ?_⟩
  rintro ⟨-, sub, member, -, established, delivered⟩
  have reaches := (view.feeds sub member).reaches established
  rw [delivered, List.append_nil] at reaches
  exact view.ordered.getLast?_eq ordered view.inside reaches

def overtakenFeed : List NetworkAction :=
  opened ++ [.widget 0 (.subscribed 0), .widget 0 (.send "one" 1 "k1"),
   .widget 1 (.send "two" 2 "k2"), .deliver 1, .deliver 0, .widget 0 (.childAdded 0)]

theorem overtakenFeed_shown :
    ∃ final, run twoClients (Network.start (fun _ => Conversation.empty) fun _ => some 7)
        overtakenFeed = some final ∧
      ((final.widgets 0).messages.map Messages.key = ["k2"] ∧
        (final.db "a").stored.map Messages.key = ["k1", "k2"]) ∧
      (final.widgets 0).messages.Sublist (final.db "a").stored ∧
      (final.widgets 0).messages.getLast? = (final.db "a").stored.getLast? := by
  have found : (run twoClients (Network.start (fun _ => Conversation.empty) fun _ => some 7)
      overtakenFeed).any (fun final =>
        decide (((final.widgets 0).messages.map Messages.key = ["k2"] ∧
          (final.db "a").stored.map Messages.key = ["k1", "k2"]) ∧
          (final.room (fun index => index % 2) 0).CaughtUp (some "a"))) = true := by decide
  obtain ⟨final, reached, test⟩ := exists_of_run found
  obtain ⟨keys, caughtUp⟩ := of_decide_eq_true test
  have browsed : Meets twoClients (Network.Browsed 0 (some "a") [])
      (Network.start (fun _ => Conversation.empty) fun _ => some 7) overtakenFeed := by decide
  obtain ⟨shown, last⟩ := @shown_among_stored (fun index => index % 2) 0 (some "a")
    (fun _ => Conversation.empty) (fun _ => some 7) overtakenFeed final browsed reached
  exact ⟨final, reached, keys, shown, last caughtUp⟩

end SparSomnong.Chat
