import SparSomnong.Chat.History
import SparSomnong.Chat.Overtaking

/-! Which messages a widget can miss.

A message that was the newest when it was stored is on every display that reaches back
to it. So what a widget misses has been overtaken, or it was stored while a load was
between its snapshot and its live feed.
-/

set_option autoImplicit false

namespace SparSomnong.Chat

open Semantics

namespace Network

/-- The message was in the conversation at the start, or was the newest when it arrived. -/
def Punctual (initial : List Messages) (chat : String) (network : Network)
    (message : Messages) : Prop :=
  message ∈ initial ∨ ∃ before after, within chat network.delivered = before ++ message :: after ∧
    ∀ old ∈ initial ++ before, old.key < message.key

/-- The widget is browsed, and nothing is stored in the conversation between the snapshot
of its read and the start of its live feed. -/
def Gapless (index : Nat) (key : Option String) (initial : List Messages) (network : Network)
    (action : NetworkAction) : Prop :=
  network.Browsed index key initial action ∧
    ∀ posting ∈ network.storing action, interpolate posting.chatKey = interpolate key →
      (network.widgets index).kept = []

instance (index : Nat) (key : Option String) (initial : List Messages) (network : Network)
    (action : NetworkAction) : Decidable (network.Gapless index key initial action) :=
  inferInstanceAs (Decidable (_ ∧ ∀ _ ∈ _, _ → _))

end Network

theorem ChatWidgetState.calm {widget : ChatWidgetState} (none : widget.kept = []) :
    (∀ read ∈ widget.firstReads, read.snapshot = Option.none) ∧
      ∀ sub ∈ widget.subscriptions, sub.established = true := by
  obtain ⟨reading, opening⟩ := List.append_eq_nil_iff.mp none
  refine ⟨fun read member => ?_, by simpa using opening⟩
  simpa using List.filterMap_eq_nil_iff.mp reading read member

def Covers (punctual : Messages → Prop) (shown : List Messages) : Prop :=
  ∀ message, punctual message → (∃ older ∈ shown, older.key ≤ message.key) → message ∈ shown

structure Complete (punctual : Messages → Prop) (stored : List Messages)
    (widget : ChatWidgetState) : Prop where
  served : ∀ read ∈ widget.firstReads, ∀ snapshot, read.snapshot = some snapshot →
    snapshot = limitToLast 11 stored
  cursor : widget.lastMessageKey = "" ∨ widget.AtCursor
  pages : ∀ read ∈ widget.previousReads, ∀ snapshot, read.snapshot = some snapshot →
    snapshot ≠ [] → (∃ last ∈ snapshot, last.key = widget.lastMessageKey) ∧
      Covers (fun message => punctual message ∧ message.key ≤ widget.lastMessageKey) snapshot
  feeds : ∀ sub ∈ widget.subscriptions, Covers punctual (widget.messages ++ sub.waiting stored)

namespace Complete

variable {punctual later : Messages → Prop} {key : Option String} {stored more : List Messages}
  {widget next : ChatWidgetState}

theorem start : Complete punctual stored {} :=
  ⟨by simp, Or.inl rfl, by simp, by simp⟩

theorem covers_mono {shown : List Messages} (covers : Covers punctual shown)
    (known : ∀ message, later message → punctual message) : Covers later shown :=
  fun message here => covers message (known message here)

theorem covers_of_suffix {shown : List Messages} (ordered : Ordered Messages.key stored)
    (suffix : shown <:+ stored) (known : ∀ message, punctual message → message ∈ stored) :
    Covers punctual shown := by
  rintro message here ⟨older, inside, notBelow⟩
  exact ordered.mem_of_suffix suffix (known message here) inside notBelow

theorem frame (complete : Complete punctual stored widget)
    (firstReads : next.firstReads = widget.firstReads)
    (previousReads : next.previousReads = widget.previousReads)
    (cursor : next.lastMessageKey = widget.lastMessageKey)
    (messages : next.messages = widget.messages)
    (subscriptions : ∀ sub ∈ next.subscriptions, sub ∈ widget.subscriptions) :
    Complete punctual stored next := by
  constructor
  · rw [firstReads]
    exact complete.served
  · rw [ChatWidgetState.AtCursor, cursor, messages]
    exact complete.cursor
  · rw [previousReads, cursor]
    exact complete.pages
  · rw [messages]
    exact fun sub member => complete.feeds sub (subscriptions sub member)

theorem log (complete : Complete punctual stored widget) (calm : widget.kept = [])
    (known : ∀ message, later message → punctual message) : Complete later more widget := by
  obtain ⟨unserved, established⟩ := ChatWidgetState.calm calm
  constructor
  · intro read member snapshot taken
    rw [unserved read member] at taken
    cases taken
  · exact complete.cursor
  · intro read member snapshot taken some
    obtain ⟨last, covers⟩ := complete.pages read member snapshot taken some
    exact ⟨last, covers_mono covers fun message here => here.imp_left (known message)⟩
  · intro sub member
    have covers := covers_mono (complete.feeds sub member) known
    simpa only [Subscription.waiting, established sub member, if_true] using covers

theorem arrives {message : Messages} (complete : Complete punctual stored widget)
    (view : InView key stored widget) (newest : ∀ old ∈ stored, old.key < message.key)
    (calm : widget.kept = []) (known : ∀ old, punctual old → old ∈ stored)
    (only : ∀ other, later other → punctual other ∨ other = message) :
    Complete later (stored ++ [message]) (widget.onStored (interpolate key) message) := by
  obtain ⟨unserved, established⟩ := ChatWidgetState.calm calm
  constructor
  · intro read member snapshot taken
    rw [unserved read member] at taken
    cases taken
  · exact complete.cursor
  · intro read member snapshot taken some
    obtain ⟨⟨last, inside, atCursor⟩, covers⟩ := complete.pages read member snapshot taken some
    refine ⟨⟨last, inside, atCursor⟩, ?_⟩
    rintro other ⟨here, most⟩ reached
    rcases only other here with old | rfl
    · exact covers other ⟨old, most⟩ reached
    · -- the message is above the last one of the page
      have below := newest last (((view.pages read member).page snapshot taken).2 last inside).1
      rw [atCursor] at below
      exact absurd most below.not_ge
  · intro sub member
    obtain ⟨old, before, rfl⟩ := List.mem_map.mp member
    have here := view.chatKey_of_subscription before
    have covers := complete.feeds old before
    simp only [here, established old before, Subscription.waiting, beq_self_eq_true, Bool.and_true,
      if_true] at covers ⊢
    rintro other chosen ⟨older, inside, notBelow⟩
    rw [← List.append_assoc] at inside ⊢
    rcases only other chosen with punctual | rfl
    · refine List.mem_append_left _ (covers other punctual ⟨older, ?_, notBelow⟩)
      rcases List.mem_append.mp inside with shown | last
      · exact shown
      · rw [List.mem_singleton.mp last] at notBelow
        exact absurd notBelow (newest other (known other punctual)).not_ge
    · exact List.mem_append_right _ (List.mem_singleton_self _)

theorem onChatKey {user : Option Int} (complete : Complete punctual stored widget)
    (view : InView key stored widget) : Complete punctual stored (widget.onChatKey user key) := by
  by_cases same : key = widget.oldKey
  · rw [ChatWidgetState.onChatKey_same same]
    exact complete.frame rfl rfl rfl rfl fun sub member => member
  · have blank := view.blank (Or.inl (Ne.symm same))
    have cancelled := view.lane.cancelNoteAdded_subscriptions
    rw [ChatWidgetState.onChatKey_switch same]
    refine ⟨?_, complete.cursor, complete.pages, by simp [cancelled]⟩
    intro read member snapshot taken
    rcases List.mem_append.mp member with old | asked
    · exact complete.served read old snapshot taken
    · cases user with
      | none => cases asked
      | some id =>
        rw [List.mem_singleton.mp asked] at taken
        cases taken

/-! ### What a widget does -/

theorem firstReadDone {index : Nat} {chatKey : Option String} {response snapshot : List Messages}
    (complete : Complete punctual stored widget) (view : InView key stored widget)
    (ordered : Ordered Messages.key stored) (known : ∀ message, punctual message → message ∈ stored)
    (found : widget.firstReads[index]? = some ⟨chatKey, some snapshot⟩)
    (same : response.Perm snapshot) :
    Complete punctual stored (ChatWidgetState.finishFirstTime chatKey response
      { widget with firstReads := widget.firstReads.eraseIdx index }) := by
  obtain ⟨only, rfl, free⟩ := view.lane.alone found
  have blank := view.blank (Or.inr (by simp [only]))
  have window := complete.served _ (List.mem_of_getElem? found) _ rfl
  have sorted : sortByKey Messages.key response = limitToLast 11 stored := by
    rw [← window]
    exact sortByKey_of_perm (view.served _ (List.mem_of_getElem? found) _ rfl).1 same
  have none : widget.firstReads.eraseIdx 0 = [] := by simp [only]
  have cursor : widget.cursorAfter response = "" ∨
      (sortByKey Messages.key response).dropLast.head?.map Messages.key =
        some (widget.cursorAfter response) := by
    by_cases shown : (sortByKey Messages.key response).dropLast = []
    · refine Or.inl ?_
      rw [ChatWidgetState.cursorAfter, shown]
      split
      · rfl
      · exact blank.cursor
    · exact Or.inr (widget.cursorAfter_of_shown shown)
  -- on an open and on a closed stream the display and the cursor are the same
  have fits : ∀ {next : ChatWidgetState}, next.firstReads = [] → next.previousReads = [] →
      next.lastMessageKey = widget.cursorAfter response →
      next.messages = (sortByKey Messages.key response).dropLast →
      (∀ sub ∈ next.subscriptions, sub.established = false) → Complete punctual stored next := by
    intro next reads pages low messages opening
    refine ⟨by simp [reads], ?_, by simp [pages], fun sub member => ?_⟩
    · rw [ChatWidgetState.AtCursor, low, messages]
      exact cursor
    · have waiting : sub.waiting stored = limitToLast 1 stored := by
        simp [Subscription.waiting, opening sub member]
      rw [messages, sorted, waiting, ← Extent.kept_of_read]
      exact covers_of_suffix ordered (List.drop_suffix _ _) known
  cases opened : widget.messageStream.closed with
  | false =>
    rw [ChatWidgetState.finishFirstTime_open (by exact opened)]
    exact fits none blank.previousReads rfl rfl (by simp [free])
  | true =>
    rw [ChatWidgetState.finishFirstTime_closed (by exact opened)]
    exact fits none blank.previousReads rfl rfl (by simp [free])

theorem page {snapshot waiting : List Messages}
    (cursor : widget.lastMessageKey = "" ∨ widget.AtCursor) (within : Ordered Messages.key snapshot)
    (below : ∀ message ∈ snapshot, message ∈ stored ∧ message.key ≤ widget.lastMessageKey)
    (reaches : snapshot ≠ [] → (∃ last ∈ snapshot, last.key = widget.lastMessageKey) ∧
      Covers (fun message => punctual message ∧ message.key ≤ widget.lastMessageKey) snapshot)
    (covers : Covers punctual (widget.messages ++ waiting)) :
    Covers punctual (snapshot.dropLast ++ (widget.messages ++ waiting)) := by
  rintro message chosen ⟨older, inside, notBelow⟩
  rcases List.mem_append.mp inside with paged | shown
  · have part := (List.dropLast_sublist snapshot).subset paged
    obtain ⟨last, inPage, less⟩ := within.below_last paged
    have low : older.key < widget.lastMessageKey := less.trans_le (below last inPage).2
    have atCursor : widget.AtCursor := by
      refine cursor.resolve_left fun blank => ?_
      rw [blank] at low
      exact absurd (empty_le older.key) low.not_ge
    obtain ⟨first, head, here⟩ := Option.map_eq_some_iff.mp atCursor
    have firstShown : first ∈ widget.messages := List.mem_of_head? head
    by_cases above : widget.lastMessageKey ≤ message.key
    · refine List.mem_append_right _ (covers message chosen ⟨first, ?_, here.le.trans above⟩)
      exact List.mem_append_left _ firstShown
    · obtain ⟨⟨top, inside, highest⟩, pageCovers⟩ := reaches (List.ne_nil_of_mem part)
      have member := pageCovers message ⟨chosen, (not_le.mp above).le⟩ ⟨older, part, notBelow⟩
      rw [← dropLast_append_getLast snapshot] at member within inside
      rcases List.mem_append.mp member with kept | dropped
      · exact List.mem_append_left _ kept
      · -- the dropped message is the one at the cursor
        have equal : message.key = top.key := by
          rcases List.mem_append.mp inside with before | same
          · have climbs := (List.pairwise_append.mp within).2.2 top before message dropped
            rw [highest] at climbs
            exact absurd climbs.le above
          · rw [Option.mem_toList] at dropped same
            rw [Option.mem_unique dropped same]
        rw [equal, highest] at above
        exact absurd (le_refl _) above
  · exact List.mem_append_right _ (covers message chosen ⟨older, shown, notBelow⟩)

theorem previousReadDone {index : Nat} {chatKey : Option String} {bound : String}
    {response snapshot : List Messages} (complete : Complete punctual stored widget)
    (view : InView key stored widget) (found : widget.previousReads[index]? = some ⟨chatKey, bound, some snapshot⟩)
    (same : response.Perm snapshot) :
    Complete punctual stored (ChatWidgetState.listenToPreviousChat response
      { widget with previousReads := widget.previousReads.eraseIdx index }) := by
  have member := List.mem_of_getElem? found
  obtain ⟨within, below⟩ := (view.pages _ member).page snapshot rfl
  have sorted : sortByKey Messages.key response = snapshot := sortByKey_of_perm within same
  obtain ⟨only, rfl⟩ := alone_of_found view.single found
  have none : widget.previousReads.eraseIdx 0 = [] := by simp [only]
  have reaches := complete.pages _ member snapshot rfl
  have fits : ∀ {next : ChatWidgetState}, next.firstReads = widget.firstReads →
      next.previousReads = [] → (next.lastMessageKey = "" ∨ next.AtCursor) →
      next.messages = snapshot.dropLast ++ widget.messages →
      next.subscriptions = widget.subscriptions → Complete punctual stored next := by
    intro next reads pages low messages subscriptions
    refine ⟨?_, low, by simp [pages], ?_⟩
    · rw [reads]
      exact complete.served
    · rw [messages, subscriptions]
      intro sub live
      rw [List.append_assoc]
      exact page complete.cursor within below reaches (complete.feeds sub live)
  cases shown : (sortByKey Messages.key response).dropLast with
  | nil =>
    rw [ChatWidgetState.listenToPreviousChat_nil shown]
    refine fits rfl none complete.cursor ?_ rfl
    rw [← sorted, shown, List.nil_append]
  | cons first rest =>
    cases opened : widget.messageStream.closed with
    | false =>
      rw [ChatWidgetState.listenToPreviousChat_open (by exact opened) shown]
      refine fits rfl none (Or.inr rfl) ?_ rfl
      rw [← sorted, shown]
    | true =>
      rw [ChatWidgetState.listenToPreviousChat_closed (by exact opened) shown]
      refine fits rfl none (Or.inr rfl) ?_ rfl
      rw [← sorted, shown]

theorem feed {index : Nat} {old : Subscription} (complete : Complete punctual stored widget)
    (view : InView key stored widget) (sub : Subscription)
    (found : widget.subscriptions[index]? = some old)
    (firstReads : next.firstReads = widget.firstReads)
    (previousReads : next.previousReads = widget.previousReads)
    (cursor : next.lastMessageKey = widget.lastMessageKey)
    (subscriptions : next.subscriptions = widget.subscriptions.set index sub)
    (grown : widget.messages <+: next.messages)
    (same : next.messages ++ sub.waiting stored = widget.messages ++ old.waiting stored) :
    Complete punctual stored next := by
  obtain ⟨only, rfl, -⟩ := view.lane.aloneSubscription found
  constructor
  · rw [firstReads]
    exact complete.served
  · obtain ⟨more, whole⟩ := grown
    refine complete.cursor.imp (fun blank => cursor.trans blank) fun atCursor => ?_
    rw [ChatWidgetState.AtCursor, cursor, ← whole]
    obtain ⟨first, head, here⟩ := Option.map_eq_some_iff.mp atCursor
    rw [List.head?_append, head]
    exact congrArg some here
  · rw [previousReads, cursor]
    exact complete.pages
  · intro other member
    rw [subscriptions, only, List.set_cons_zero, List.mem_singleton] at member
    rw [member, same]
    exact complete.feeds old (by simp [only])

theorem stepped {db : Database} {user : Option Int} {action : WidgetAction}
    {writes : List Write} (complete : Complete punctual (db (interpolate key)).stored widget)
    (view : InView key (db (interpolate key)).stored widget)
    (known : ∀ message, punctual message → message ∈ (db (interpolate key)).stored)
    (taken : ChatWidgetState.Stepped db user widget action next writes) :
    Complete punctual (db (interpolate key)).stored next := by
  have ordered : Ordered Messages.key (db (interpolate key)).stored := db.stored_ordered _
  cases taken with
  | @firstReadServed index chatKey found =>
    obtain ⟨only, rfl, -⟩ := view.lane.alone found
    obtain rfl : chatKey = key := view.chatKey_of_firstRead (List.mem_of_getElem? found)
    refine { complete with served := ?_ }
    intro read member snapshot taken
    simp only [only, List.set_cons_zero, List.mem_singleton] at member
    subst member
    cases taken
    rfl
  | firstReadDone found same => exact complete.firstReadDone view ordered known found same
  | @subscribed index id chatKey queue found =>
    obtain rfl : chatKey = key := view.chatKey_of_subscription (List.mem_of_getElem? found)
    exact complete.feed view ⟨id, chatKey, true, limitToLast 1 (db (interpolate chatKey)).stored⟩
      found rfl rfl rfl rfl (List.prefix_refl _) (by simp [Subscription.waiting])
  | @childAdded index id chatKey established event queue next writes found mounted handled =>
    obtain ⟨firstReads, previousReads, subscriptions⟩ :=
      ChatWidgetState.listenToRealTimeChat_frame handled
    have messages := ChatWidgetState.listenToRealTimeChat_messages handled
    have cursor := ChatWidgetState.listenToRealTimeChat_cursor handled
    have active : established = true := by
      cases established with
      | true => rfl
      | false =>
        obtain ⟨empty, -⟩ := (view.feeds _ (List.mem_of_getElem? found)).opening rfl
        cases empty
    subst active
    refine complete.feed view ⟨id, chatKey, true, queue⟩ found firstReads previousReads cursor
      subscriptions ?_ ?_
    · rw [messages]
      exact List.prefix_append _ _
    · simp [messages, Subscription.waiting]
  | childAddedLate found unmounted => simp [view.lane.ended unmounted] at found
  | scrollToTop visible =>
    refine { complete with pages := ?_ }
    intro read member snapshot taken
    rcases List.mem_append.mp member with old | asked
    · exact complete.pages read old snapshot taken
    · rw [List.mem_singleton.mp asked] at taken
      cases taken
  | @previousReadServed index chatKey bound found =>
    obtain ⟨only, rfl⟩ := alone_of_found view.single found
    obtain ⟨here, low, -⟩ := view.pages _ (List.mem_of_getElem? found)
    obtain rfl : chatKey = key := here
    obtain rfl : bound = widget.lastMessageKey := low
    refine { complete with pages := ?_ }
    intro read member snapshot taken some
    rw [only, List.set_cons_zero, List.mem_singleton] at member
    rw [member] at taken
    cases taken
    have upTo : Ordered Messages.key (endAt Messages.key widget.lastMessageKey
        (db (interpolate chatKey)).stored) := ordered.sublist List.filter_sublist
    have suffix := limitToLast_suffix 4 (endAt Messages.key widget.lastMessageKey
      (db (interpolate chatKey)).stored)
    refine ⟨?_, covers_of_suffix upTo suffix fun message chosen => ?_⟩
    · obtain ⟨any, inside⟩ := List.exists_mem_of_ne_nil _ some
      have low := of_decide_eq_true (List.mem_filter.mp (suffix.subset inside)).2
      rcases complete.cursor with blank | atCursor
      · refine ⟨any, inside, le_antisymm low ?_⟩
        rw [blank]
        exact empty_le _
      · obtain ⟨first, head, here⟩ := Option.map_eq_some_iff.mp atCursor
        refine ⟨first, upTo.mem_of_suffix suffix ?_ inside (low.trans here.ge), here⟩
        exact List.mem_filter.mpr ⟨view.inside (List.mem_of_head? head), decide_eq_true here.le⟩
    · exact List.mem_filter.mpr ⟨known message chosen.1, decide_eq_true chosen.2⟩
  | previousReadDone found same => exact complete.previousReadDone view found same
  | _ => exact complete.frame rfl rfl rfl rfl fun sub member => member

end Complete

/-! ## Any number of clients -/

section
variable {owner : Nat → Nat} {index : Nat} {key : Option String} {initial : List Messages}
  {chat : String} {network next : Network} {action : NetworkAction}

theorem Conserved.known {message : Messages} (conserved : Conserved initial chat network)
    (punctual : network.Punctual initial chat message) : message ∈ (network.db chat).stored := by
  refine conserved.stored.symm.subset ?_
  rcases punctual with old | ⟨before, after, split, -⟩
  · exact List.mem_append_left _ old
  · rw [split]
    simp

/-- A message that arrives is punctual if it is the newest, and changes nothing for the
others. -/
theorem Network.Punctual.before {message last : Messages}
    (grown : Network.within chat next.delivered = Network.within chat network.delivered ++ [last])
    (punctual : next.Punctual initial chat message) :
    network.Punctual initial chat message ∨ message = last ∧
      ∀ old ∈ initial ++ Network.within chat network.delivered, old.key < last.key := by
  rcases punctual with old | ⟨before, after, split, above⟩
  · exact Or.inl (Or.inl old)
  · rw [grown] at split
    rcases List.eq_nil_or_concat' after with rfl | ⟨rest, top, rfl⟩
    · obtain ⟨rfl, same⟩ := List.append_inj' split rfl
      cases same
      exact Or.inr ⟨rfl, above⟩
    · rw [← List.cons_append, ← List.append_assoc] at split
      obtain ⟨whole, -⟩ := List.append_inj' split rfl
      exact Or.inl (Or.inr ⟨before, rest, whole, above⟩)

namespace Complete

theorem delivered {write : Write}
    (complete : Complete (network.Punctual initial (interpolate key))
      (network.db (interpolate key)).stored (network.widgets index))
    (view : InView key (network.db (interpolate key)).stored (network.widgets index))
    (conserved : Conserved initial (interpolate key) network)
    (calm : ∀ posting ∈ write.posting, interpolate posting.chatKey = interpolate key →
      (network.widgets index).kept = [])
    (db : next.db = network.db.apply write) (arrived : next.arrived = network.arrived ++ [write])
    (widgets : next.widgets = network.notify write) :
    Complete (next.Punctual initial (interpolate key)) (next.db (interpolate key)).stored
      (next.widgets index) := by
  have delivered : next.delivered = network.delivered ++ write.posting.toList := by
    rw [Network.delivered, arrived, List.filterMap_append]
    cases stores : write.posting with
    | none => simp [Network.delivered, stores]
    | some posting => simp [Network.delivered, stores]
  rw [db, widgets]
  cases stores : write.posting with
  | none =>
    have same : next.Punctual initial (interpolate key) =
        network.Punctual initial (interpolate key) := by
      funext message
      simp [Network.Punctual, delivered, stores]
    rw [same, Database.stored_of_no_posting stores]
    simp only [Network.notify, stores]
    exact complete
  | some posting =>
    obtain rfl := Write.posting_eq_some.mp stores
    by_cases here : interpolate posting.chatKey = interpolate key
    · have quiet := calm posting rfl here
      have grown : Network.within (interpolate key) next.delivered =
          Network.within (interpolate key) network.delivered ++ [posting.message] := by
        simp [delivered, Network.within, here]
      have newest_iff : network.db.Newest (interpolate key) posting.message ↔
          ∀ old ∈ initial ++ Network.within (interpolate key) network.delivered,
            old.key < posting.message.key :=
        forall_congr' fun old => imp_congr_left conserved.stored.mem_iff
      by_cases newest : network.db.Newest (interpolate key) posting.message
      · have told : network.notify posting.messageWrite index =
            (network.widgets index).onStored (interpolate key) posting.message := by
          simp [Network.notify, here, newest]
        rw [told, Database.apply_messageWrite, here, Database.stored_append newest, if_pos rfl]
        exact complete.arrives view newest quiet (fun old => conserved.known) fun other punctual =>
          (punctual.before grown).imp_right And.left
      · have untold : network.notify posting.messageWrite index = network.widgets index := by
          simp [Network.notify, here, newest]
        rw [untold]
        refine complete.log quiet fun other punctual => ?_
        refine (punctual.before grown).resolve_right fun last => ?_
        exact newest (newest_iff.mpr last.2)
    · have same : next.Punctual initial (interpolate key) =
          network.Punctual initial (interpolate key) := by
        funext message
        simp [Network.Punctual, delivered, Network.within, here]
      have stored : (network.db.apply posting.messageWrite (interpolate key)).stored =
          (network.db (interpolate key)).stored := by
        rw [Database.apply_other _ _ (Ne.symm here)]
      rw [same, stored]
      have heard : network.notify posting.messageWrite index = network.widgets index ∨
          network.notify posting.messageWrite index =
            (network.widgets index).onStored (interpolate posting.chatKey) posting.message := by
        simp only [Network.notify, Posting.posting_messageWrite]
        split
        · exact Or.inr rfl
        · exact Or.inl rfl
      rcases heard with untold | told
      · rw [untold]
        exact complete
      · rw [told]
        have others := @InView.onStored_elsewhere _ _ _ _ posting.message view (Ne.symm here)
        exact complete.frame rfl rfl rfl rfl fun sub member => others ▸ member

theorem step (complete : Complete (network.Punctual initial (interpolate key))
      (network.db (interpolate key)).stored (network.widgets index))
    (view : InView key (network.db (interpolate key)).stored (network.widgets index))
    (conserved : Conserved initial (interpolate key) network)
    (gapless : network.Gapless index key initial action)
    (taken : network.step owner action = some next) :
    Complete (next.Punctual initial (interpolate key)) (next.db (interpolate key)).stored
      (next.widgets index) := by
  have known : ∀ message, network.Punctual initial (interpolate key) message →
      message ∈ (network.db (interpolate key)).stored := fun message => conserved.known
  have update : ∀ {other : Nat} {widget : ChatWidgetState}, (other = index →
      Complete (network.Punctual initial (interpolate key))
        (network.db (interpolate key)).stored widget) →
      Complete (network.Punctual initial (interpolate key)) (network.db (interpolate key)).stored
        (Function.update network.widgets other widget index) := by
    intro other widget own
    by_cases here : other = index
    · subst here
      rw [Function.update_self]
      exact own rfl
    · rw [Function.update_of_ne (Ne.symm here)]
      exact complete
  obtain ⟨⟨-, browsed⟩, quiet⟩ := gapless
  cases action with
  | setUser client user =>
    cases taken
    exact complete
  | chatKey other handed =>
    simp only [Network.step] at taken
    split at taken
    · cases taken
      refine update fun here => ?_
      obtain rfl := browsed here
      subst here
      exact complete.onChatKey view
    · cases taken
  | widget other act =>
    simp only [Network.step] at taken
    split at taken
    · split at taken
      · next widget writes stepped =>
        cases taken
        refine update fun here => ?_
        subst here
        exact complete.stepped view known (ChatWidgetState.stepped_of_step stepped)
      · cases taken
    · cases taken
  | dispose other =>
    simp only [Network.step] at taken
    split at taken
    · cases taken
      refine update fun here => ?_
      subst here
      exact complete.frame rfl rfl rfl rfl fun sub member => List.mem_of_mem_filter member
    · cases taken
  | deliver client =>
    simp only [Network.step] at taken
    split at taken
    · next write rest waiting =>
      cases taken
      refine complete.delivered view conserved (fun posting stores => ?_) rfl rfl rfl
      exact quiet posting (by simpa [Network.storing, waiting] using stores)
    · cases taken

end Complete

end

variable {owner : Nat → Nat} {index : Nat} {key : Option String} {db : Database}
  {users : Nat → Option Int} {actions : List NetworkAction} {final : Network}

/-- In whatever order messages arrive, a widget that has been told of everything shows
every message that was there at the start or was the newest when it arrived, from the
oldest one it shows on. -/
theorem punctual_shown
    (meets : Meets (Network.step owner) (Network.Gapless index key (db (interpolate key)).stored)
      (Network.start db users) actions)
    (reached : run (Network.step owner) (Network.start db users) actions = some final)
    (caughtUp : (final.room owner index).CaughtUp key) {message : Messages}
    (punctual : final.Punctual (db (interpolate key)).stored (interpolate key) message)
    (inRange : ∃ oldest ∈ (final.widgets index).messages, oldest.key ≤ message.key) :
    message ∈ (final.widgets index).messages := by
  have holds : Conserved (db (interpolate key)).stored (interpolate key) final ∧
      InView key (final.db (interpolate key)).stored (final.widgets index) ∧
      Complete (final.Punctual (db (interpolate key)).stored (interpolate key))
        (final.db (interpolate key)).stored (final.widgets index) := by
    refine run_invariant (fun network : Network =>
      Conserved (db (interpolate key)).stored (interpolate key) network ∧
        InView key (network.db (interpolate key)).stored (network.widgets index) ∧
        Complete (network.Punctual (db (interpolate key)).stored (interpolate key))
          (network.db (interpolate key)).stored (network.widgets index)) ?_
      ⟨Conserved.start db users, InView.start, Complete.start⟩ meets reached
    rintro network action next ⟨conserved, view, complete⟩ gapless taken
    have carried := Network.carried_of_step taken
    have after := conserved.carried gapless.1.1 carried
    refine ⟨after, view.step gapless.1 taken (conserved.stored_subset after ?_),
      complete.step view conserved gapless taken⟩
    exact carried.delivered_subset
  obtain ⟨-, -, complete⟩ := holds
  obtain ⟨-, sub, member, -, established, delivered⟩ := caughtUp
  have covers := complete.feeds sub member
  rw [Subscription.waiting, if_pos established, delivered, List.append_nil] at covers
  exact covers message punctual inRange

def threeSent : List NetworkAction :=
  overtakenFeed ++ [.deliver 1, .deliver 1, .widget 1 (.send "three" 3 "k3"), .deliver 1,
    .widget 0 (.childAdded 0)]

theorem threeSent_shown :
    ∃ final, run twoClients (Network.start (fun _ => Conversation.empty) fun _ => some 7)
        threeSent = some final ∧
      (final.db "a").stored.map Messages.key = ["k1", "k2", "k3"] ∧
      (⟨"k3", ⟨some "three", 3, 1⟩, 7⟩ : Messages) ∈ (final.widgets 0).messages := by
  have found : (run twoClients (Network.start (fun _ => Conversation.empty) fun _ => some 7)
      threeSent).any (fun final =>
        decide ((final.db "a").stored.map Messages.key = ["k1", "k2", "k3"] ∧
          Network.within "a" final.delivered = [⟨"k2", ⟨some "two", 2, 1⟩, 7⟩,
            ⟨"k1", ⟨some "one", 1, 1⟩, 7⟩, ⟨"k3", ⟨some "three", 3, 1⟩, 7⟩] ∧
          (final.room (fun index => index % 2) 0).CaughtUp (some "a") ∧
          (⟨"k2", ⟨some "two", 2, 1⟩, 7⟩ : Messages) ∈ (final.widgets 0).messages)) = true := by
    decide
  obtain ⟨final, reached, test⟩ := exists_of_run found
  obtain ⟨keys, arrived, caughtUp, oldest⟩ := of_decide_eq_true test
  have gapless : Meets twoClients (Network.Gapless 0 (some "a") [])
      (Network.start (fun _ => Conversation.empty) fun _ => some 7) threeSent := by decide
  have punctual : final.Punctual [] "a" ⟨"k3", ⟨some "three", 3, 1⟩, 7⟩ := by
    refine Or.inr ⟨[⟨"k2", ⟨some "two", 2, 1⟩, 7⟩, ⟨"k1", ⟨some "one", 1, 1⟩, 7⟩], [], arrived, ?_⟩
    decide
  exact ⟨final, reached, keys, @punctual_shown (fun index => index % 2) 0 (some "a")
    (fun _ => Conversation.empty) (fun _ => some 7) threeSent final gapless reached caughtUp _
    punctual ⟨_, oldest, by decide⟩⟩

end SparSomnong.Chat
