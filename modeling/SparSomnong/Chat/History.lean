import SparSomnong.Chat.ScrollBack

/-! How far back a conversation is on display.

The first-time read takes eleven messages, and every page adds three more. If
nothing is stored between the snapshot of the read and the start of the live feed,
the display is the log from a position on that only these two numbers decide.
-/

set_option autoImplicit false

namespace SparSomnong.Chat

open Semantics

/-- A room with the history of its loads: the length of the conversation when the
first-time read was served, and the number of pages answered since. -/
structure Loading where
  room : Room
  opened : Nat := 0
  pages : Nat := 0

namespace Loading

def start (db : Database) (user : Option Int) : Loading := { room := Room.start db user }

def note (key : Option String) (loading : Loading) (next : Room) : RoomAction → Loading
  | .widget (.firstReadServed _) =>
    { room := next, opened := (loading.room.stored key).length, pages := 0 }
  | .widget (.previousReadDone ..) => { loading with room := next, pages := loading.pages + 1 }
  | _ => { loading with room := next }

def step (key : Option String) (loading : Loading) (action : RoomAction) : Option Loading :=
  (loading.room.step action).map fun next => loading.note key next action

/-- How many messages are stored before the oldest one on display. -/
def depth (loading : Loading) : Nat := loading.opened - 11 - 3 * loading.pages

/-- Only `key` is handed over, pages are asked for one at a time, and nothing is stored
between the snapshot of the read and the start of the live feed. -/
def Undisturbed (key : Option String) (loading : Loading) (action : RoomAction) : Prop :=
  loading.room.Paced key action ∧
    (action.stores = some (interpolate key) → loading.room.widget.kept = [])

instance (key : Option String) (loading : Loading) (action : RoomAction) :
    Decidable (loading.Undisturbed key action) :=
  inferInstanceAs (Decidable (_ ∧ (_ → _)))

end Loading

def Subscription.waiting (log : List Messages) (sub : Subscription) : List Messages :=
  if sub.established then sub.queue else limitToLast 1 log

theorem ordered_split {before before' after after' : List Messages} {message : Messages}
    (ordered : Ordered Messages.key (before ++ message :: after))
    (same : before ++ message :: after = before' ++ message :: after') : before = before' := by
  have first := endAt_key ordered
  have second := endAt_key (same ▸ ordered)
  rw [same, second] at first
  exact (List.append_inj_left' first rfl).symm

theorem limitToLast_take (count depth : Nat) {log : List Messages} (inside : depth ≤ log.length) :
    limitToLast count (log.take depth) ++ log.drop depth = log.drop (depth - count) := by
  rw [limitToLast, List.length_take, min_eq_left inside, List.drop_take]
  have split := List.take_append_drop (depth - (depth - count)) (log.drop (depth - count))
  rw [List.drop_drop, show depth - count + (depth - (depth - count)) = depth by omega] at split
  exact split

structure Extent (key : Option String) (loading : Loading) : Prop where
  handover : Handover (fun _ => True) key (loading.room.stored key) loading.room.widget
  served : ∀ read ∈ loading.room.widget.firstReads, ∀ snapshot, read.snapshot = some snapshot →
    snapshot = limitToLast 11 (loading.room.stored key) ∧
      loading.opened = (loading.room.stored key).length ∧ loading.pages = 0
  opened : loading.opened ≤ (loading.room.stored key).length
  bounds : ∀ read ∈ loading.room.widget.previousReads,
    read.bound = loading.room.widget.lastMessageKey
  shown : ∀ sub ∈ loading.room.widget.subscriptions,
    (loading.room.stored key).drop loading.depth =
        loading.room.widget.messages ++ sub.waiting (loading.room.stored key) ∧
      (0 < loading.depth → loading.room.widget.AtCursor)

namespace Extent

variable {key : Option String} {loading next : Loading} {action : RoomAction}

theorem start (db : Database) (user : Option Int) : Extent key (Loading.start db user) :=
  ⟨Handover.start trivial, by simp [Loading.start, Room.start], Nat.zero_le _,
    by simp [Loading.start, Room.start], by simp [Loading.start, Room.start]⟩

theorem frame {room : Room} (extent : Extent key loading)
    (handover : Handover (fun _ => True) key (room.stored key) room.widget)
    (stored : room.stored key = loading.room.stored key)
    (firstReads : room.widget.firstReads = loading.room.widget.firstReads)
    (previousReads : room.widget.previousReads = loading.room.widget.previousReads)
    (cursor : room.widget.lastMessageKey = loading.room.widget.lastMessageKey)
    (messages : room.widget.messages = loading.room.widget.messages)
    (subscriptions : ∀ sub ∈ room.widget.subscriptions,
      sub ∈ loading.room.widget.subscriptions) :
    Extent key { loading with room } := by
  constructor
  · exact handover
  · simp only [firstReads, stored]
    exact extent.served
  · simp only [stored]
    exact extent.opened
  · simp only [previousReads, cursor]
    exact extent.bounds
  · intro sub member
    have shown := extent.shown sub (subscriptions sub member)
    simp only [Loading.depth, ChatWidgetState.AtCursor, stored, messages, cursor] at shown ⊢
    exact shown

/-- The read keeps all but the newest of the last eleven messages, and leaves that
one to the live feed. -/
theorem kept_of_read (log : List Messages) :
    log.drop (log.length - 11) = (limitToLast 11 log).dropLast ++ limitToLast 1 log := by
  have last : limitToLast 1 log = (limitToLast 11 log).getLast?.toList := by
    induction log using List.reverseRecOn with
    | nil => rfl
    | append_singleton before last _ =>
      rw [limitToLast_one, limitToLast_concat]
      simp
  rw [last, dropLast_append_getLast]
  rfl

theorem firstReadDone {index : Nat} {chatKey : Option String} {response snapshot : List Messages}
    {room : Room} (extent : Extent key loading)
    (found : loading.room.widget.firstReads[index]? = some ⟨chatKey, some snapshot⟩)
    (same : response.Perm snapshot) (stored : room.stored key = loading.room.stored key)
    (replied : room.widget = ChatWidgetState.finishFirstTime chatKey response
      { loading.room.widget with firstReads := loading.room.widget.firstReads.eraseIdx index })
    (handover : Handover (fun _ => True) key (room.stored key) room.widget) :
    Extent key { loading with room } := by
  obtain ⟨only, rfl, free⟩ := extent.handover.lane.alone found
  have blank := extent.handover.blank (Or.inr (Or.inr (by simp [only])))
  obtain ⟨taken, whole, first⟩ := extent.served _ (List.mem_of_getElem? found) _ rfl
  have ordered : Ordered Messages.key (loading.room.stored key) := loading.room.db.stored_ordered _
  have sorted : sortByKey Messages.key response = limitToLast 11 (loading.room.stored key) := by
    rw [← taken]
    refine sortByKey_of_perm (ordered.sublist ?_) same
    rw [taken]
    exact (limitToLast_suffix 11 _).sublist
  have none : loading.room.widget.firstReads.eraseIdx 0 = [] := by simp [only]
  have start : loading.depth = (loading.room.stored key).length - 11 := by
    simp only [Loading.depth, whole, first]
    omega
  -- on an open and on a closed stream the display and the cursor are the same
  have fits : ∀ {widget : ChatWidgetState}, room.widget = widget → widget.firstReads = [] →
      widget.previousReads = [] → widget.messages = (sortByKey Messages.key response).dropLast →
      widget.lastMessageKey = ChatWidgetState.cursorAfter response loading.room.widget →
      (∀ sub ∈ widget.subscriptions, sub.established = false) →
      Extent key { loading with room } := by
    intro widget here noReads noPages messages cursor fresh
    subst here
    refine ⟨handover, by simp [noReads], stored ▸ extent.opened, by simp [noPages], ?_⟩
    intro sub member
    refine ⟨?_, fun deep => ?_⟩
    · have waiting : sub.waiting (loading.room.stored key) =
          limitToLast 1 (loading.room.stored key) := by
        simp [Subscription.waiting, fresh sub member]
      simp only [stored, waiting, messages, sorted]
      exact start ▸ kept_of_read _
    · have some : (sortByKey Messages.key response).dropLast ≠ [] := by
        have deep : 0 < loading.depth := deep
        rw [sorted, ← List.length_pos_iff, List.length_dropLast, length_limitToLast]
        omega
      simp only [ChatWidgetState.AtCursor, messages, cursor]
      exact loading.room.widget.cursorAfter_of_shown some
  cases closed : loading.room.widget.messageStream.closed with
  | false =>
    refine fits (replied.trans (ChatWidgetState.finishFirstTime_open ?_)) none
      blank.previousReads rfl rfl ?_
    · exact closed
    · simp [free]
  | true =>
    refine fits (replied.trans (ChatWidgetState.finishFirstTime_closed ?_)) none
      blank.previousReads rfl rfl ?_
    · exact closed
    · simp [free]

theorem depth_of_lowest {sub : Subscription} (extent : Extent key loading)
    (live : sub ∈ loading.room.widget.subscriptions)
    (lowest : ∀ message ∈ loading.room.stored key,
      loading.room.widget.lastMessageKey ≤ message.key) : loading.depth = 0 := by
  by_contra deep
  have ordered : Ordered Messages.key (loading.room.stored key) := loading.room.db.stored_ordered _
  have log := List.take_append_drop loading.depth (loading.room.stored key)
  obtain ⟨split, cursor⟩ := extent.shown sub live
  have atCursor := cursor (Nat.pos_of_ne_zero deep)
  have some : loading.room.widget.messages ≠ [] := by
    rintro none
    simp [ChatWidgetState.AtCursor, none] at atCursor
  obtain ⟨oldest, rest, shown⟩ := List.exists_cons_of_ne_nil some
  simp only [ChatWidgetState.AtCursor, shown, List.head?_cons, Option.map_some,
    Option.some.injEq] at atCursor
  rw [split, shown] at log
  have whole : (loading.room.stored key).length ≠ 0 := by
    rw [← log]
    simp
  have below : (loading.room.stored key).take loading.depth ≠ [] := by
    rw [← List.length_pos_iff, List.length_take]
    omega
  obtain ⟨message, inside⟩ := List.exists_mem_of_ne_nil _ below
  rw [← log] at ordered
  have less := (List.pairwise_append.mp ordered).2.2 message inside oldest (by simp)
  have least := lowest message (List.mem_of_mem_take inside)
  rw [← atCursor] at least
  exact least.not_gt less

theorem page {index : Nat} {chatKey : Option String} {bound : String}
    {response snapshot : List Messages} {sub : Subscription} (extent : Extent key loading)
    (found : loading.room.widget.previousReads[index]? = some ⟨chatKey, bound, some snapshot⟩)
    (same : response.Perm snapshot) (live : sub ∈ loading.room.widget.subscriptions) :
    (sortByKey Messages.key response).dropLast =
      limitToLast 3 ((loading.room.stored key).take loading.depth) := by
  have member := List.mem_of_getElem? found
  have ordered : Ordered Messages.key (loading.room.stored key) := loading.room.db.stored_ordered _
  obtain ⟨place, here⟩ := List.getElem?_of_mem live
  obtain ⟨-, -, done⟩ := extent.handover.loaded_of_subscription here
  obtain ⟨part, fits, -⟩ := extent.handover.parts done
  obtain ⟨split, cursor⟩ := extent.shown sub live
  have log := List.take_append_drop loading.depth (loading.room.stored key)
  rw [split] at log
  rcases fits.paging with exhausted | ⟨read, first, others, only, shown, continuing⟩
  · -- nothing is stored below the cursor, so the page is empty
    have before := exhausted _ member
    have bottom := extent.depth_of_lowest live (extent.bounds _ member ▸ before.lowest)
    have short := before.short snapshot rfl
    rw [bottom, List.take_zero]
    refine List.eq_nil_of_length_eq_zero ?_
    simp only [List.length_dropLast, sortByKey, List.length_insertionSort, same.length_eq]
    omega
  · obtain ⟨same', rfl⟩ := alone_of_found (by simp [only]) found
    obtain rfl := List.singleton_inj.mp (only.symm.trans same')
    -- the page ends with the message of the cursor, which is dropped
    have whole : snapshot = limitToLast 3 part.rest ++ [first] := by
      rw [continuing.page snapshot rfl, limitToLast_concat]
    have apart : loading.room.stored key = part.rest ++ first ::
        (others ++ part.dropped.toList ++ part.window ++ part.later) := by
      rw [fits.split, shown]
      simp
    have rest : part.rest = (loading.room.stored key).take loading.depth := by
      rw [fits.messages, shown, List.cons_append, List.cons_append] at log
      exact ordered_split (apart ▸ ordered) (apart.symm.trans log.symm)
    have inside : Ordered Messages.key snapshot := by
      rw [apart] at ordered
      refine ordered.sublist ?_
      rw [whole]
      exact List.Sublist.append (limitToLast_suffix 3 part.rest).sublist (by simp)
    rw [sortByKey_of_perm inside same, whole, List.dropLast_concat, rest]

theorem previousReadDone {index : Nat} {chatKey : Option String} {bound : String}
    {response snapshot : List Messages} {room : Room} (extent : Extent key loading)
    (found : loading.room.widget.previousReads[index]? = some ⟨chatKey, bound, some snapshot⟩)
    (same : response.Perm snapshot) (stored : room.stored key = loading.room.stored key)
    (replied : room.widget = ChatWidgetState.listenToPreviousChat response
      { loading.room.widget with
        previousReads := loading.room.widget.previousReads.eraseIdx index })
    (handover : Handover (fun _ => True) key (room.stored key) room.widget) :
    Extent key { loading with room, pages := loading.pages + 1 } := by
  have reads : room.widget.firstReads = loading.room.widget.firstReads := by
    rw [replied]
    exact (ChatWidgetState.listenToPreviousChat_frame response _).1
  have subs : room.widget.subscriptions = loading.room.widget.subscriptions := by
    rw [replied]
    exact (ChatWidgetState.listenToPreviousChat_frame response _).2
  have messages : room.widget.messages =
      (sortByKey Messages.key response).dropLast ++ loading.room.widget.messages := by
    rw [replied]
    exact ChatWidgetState.listenToPreviousChat_messages response _
  have left : room.widget.previousReads = loading.room.widget.previousReads.eraseIdx index := by
    rw [replied]
    exact ChatWidgetState.listenToPreviousChat_previousReads response _
  have member := List.mem_of_getElem? found
  have loaded : ¬ Blank loading.room.widget := fun blank => by simp [blank.previousReads] at member
  obtain ⟨-, -, done⟩ := extent.handover.loaded loaded
  constructor
  · exact handover
  · simp only [reads, done]
    simp
  · simp only [stored]
    exact extent.opened
  · intro read inside
    rw [left] at inside
    have before := extent.bounds read (List.mem_of_mem_eraseIdx inside)
    -- a page that moves the cursor is the only one
    cases page : (sortByKey Messages.key response).dropLast with
    | nil =>
      rw [replied, ChatWidgetState.listenToPreviousChat_nil page]
      exact before
    | cons head tail =>
      obtain ⟨part, fits, -⟩ := extent.handover.parts done
      exfalso
      rcases fits.paging with exhausted | ⟨read', first, others, only, shown, continuing⟩
      · have short := (exhausted _ member).short snapshot rfl
        have length := congrArg List.length page
        simp only [List.length_dropLast, sortByKey, List.length_insertionSort, same.length_eq,
          List.length_cons] at length
        omega
      · obtain ⟨-, rfl⟩ := alone_of_found (by simp [only]) found
        simp [only] at inside
  · intro sub live
    rw [subs] at live
    obtain ⟨split, cursor⟩ := extent.shown sub live
    have page := extent.page found same live
    have depth : loading.opened - 11 - 3 * (loading.pages + 1) = loading.depth - 3 := by
      simp only [Loading.depth]
      omega
    have inside : loading.depth ≤ (loading.room.stored key).length := by
      have opened := extent.opened
      simp only [Loading.depth]
      omega
    refine ⟨?_, fun deep => ?_⟩
    · rw [Loading.depth, depth, stored, messages, page, List.append_assoc, ← split,
        limitToLast_take 3 _ inside]
    · have deep : 0 < loading.opened - 11 - 3 * (loading.pages + 1) := deep
      simp only [replied]
      apply ChatWidgetState.atCursor_of_page
      rw [page, ← List.length_pos_iff, length_limitToLast, List.length_take]
      omega

theorem append {message : Messages} {room : Room} (extent : Extent key loading)
    (calm : loading.room.widget.kept = [])
    (stored : room.stored key = loading.room.stored key ++ [message])
    (queued : room.widget = loading.room.widget.onStored (interpolate key) message)
    (handover : Handover (fun _ => True) key (room.stored key) room.widget) :
    Extent key { loading with room } := by
  obtain ⟨reading, opening⟩ := List.append_eq_nil_iff.mp calm
  have established : ∀ sub ∈ loading.room.widget.subscriptions, sub.established = true := by
    simpa using opening
  have longer : (room.stored key).length = (loading.room.stored key).length + 1 := by
    simp [stored]
  have opened := extent.opened
  constructor
  · exact handover
  · intro read member snapshot taken
    simp only [queued] at member
    have unserved := List.filterMap_eq_nil_iff.mp reading read member
    simp [taken] at unserved
  · simp only [stored, List.length_append]
    omega
  · simp only [queued]
    exact extent.bounds
  · intro sub member
    simp only [queued] at member
    obtain ⟨old, before, rfl⟩ := List.mem_map.mp member
    obtain ⟨split, cursor⟩ := extent.shown old before
    have active := established old before
    obtain ⟨place, found⟩ := List.getElem?_of_mem before
    have here : old.chatKey = key := by
      rw [(extent.handover.lane.subscriptions old before).1,
        (extent.handover.loaded_of_subscription found).1]
    have inside : loading.depth ≤ (loading.room.stored key).length := by
      simp only [Loading.depth]
      omega
    refine ⟨?_, fun deep => queued ▸ cursor deep⟩
    have later : loading.depth = Loading.depth { loading with room } := rfl
    simp only [← later, stored, queued, List.drop_append_of_le_length inside, split]
    simp [Subscription.waiting, ChatWidgetState.onStored, active, here]

theorem feed {index : Nat} {old : Subscription} {room : Room} (extent : Extent key loading)
    (sub : Subscription)
    (found : loading.room.widget.subscriptions[index]? = some old)
    (stored : room.stored key = loading.room.stored key)
    (firstReads : room.widget.firstReads = loading.room.widget.firstReads)
    (previousReads : room.widget.previousReads = loading.room.widget.previousReads)
    (cursor : room.widget.lastMessageKey = loading.room.widget.lastMessageKey)
    (subscriptions : room.widget.subscriptions =
      loading.room.widget.subscriptions.set index sub)
    (messages : room.widget.messages ++ sub.waiting (loading.room.stored key) =
      loading.room.widget.messages ++ old.waiting (loading.room.stored key))
    (grown : loading.room.widget.messages <+: room.widget.messages)
    (handover : Handover (fun _ => True) key (room.stored key) room.widget) :
    Extent key { loading with room } := by
  obtain ⟨only, rfl, -⟩ := extent.handover.lane.aloneSubscription found
  obtain ⟨split, atCursor⟩ := extent.shown old (by simp [only])
  constructor
  · exact handover
  · simp only [firstReads, stored]
    exact extent.served
  · simp only [stored]
    exact extent.opened
  · simp only [previousReads, cursor]
    exact extent.bounds
  · intro other member
    simp only [subscriptions, only, List.set_cons_zero, List.mem_singleton] at member
    subst member
    refine ⟨?_, fun deep => ?_⟩
    · simp only [stored, messages]
      exact split
    · have before := atCursor deep
      obtain ⟨more, whole⟩ := grown
      simp only [ChatWidgetState.AtCursor, cursor, ← whole] at before ⊢
      cases shown : loading.room.widget.messages with
      | nil => simp [shown] at before
      | cons first rest => simpa [shown] using before

theorem onChatKey {user : Option Int} {room : Room} (extent : Extent key loading)
    (stored : room.stored key = loading.room.stored key)
    (handed : room.widget = loading.room.widget.onChatKey user key)
    (handover : Handover (fun _ => True) key (room.stored key) room.widget) :
    Extent key { loading with room } := by
  by_cases same : key = loading.room.widget.oldKey
  · rw [ChatWidgetState.onChatKey_same same] at handed
    refine extent.frame handover stored ?_ ?_ ?_ ?_ ?_ <;> simp [handed]
  · -- nothing was loaded before, and the read is not served yet
    have switch : loading.room.widget.oldKey ≠ key := fun equal => same equal.symm
    have none := extent.handover.idle (Or.inl switch)
    have blank := extent.handover.blank (Or.inl switch)
    have cancelled := extent.handover.lane.cancelNoteAdded_subscriptions
    rw [ChatWidgetState.onChatKey_switch same] at handed
    refine ⟨handover, ?_, stored ▸ extent.opened, by simp [handed, blank.previousReads],
      by simp [handed, cancelled]⟩
    intro read member snapshot taken
    have unserved : read.snapshot = Option.none := by
      simp only [handed, none, List.nil_append] at member
      cases user with
      | none => simp [ChatWidgetState.askedFirst] at member
      | some id => rw [List.mem_singleton.mp member]
    simp [unserved] at taken

theorem stepped {room : Room} {act : WidgetAction} {widget : ChatWidgetState}
    {writes : List Write} (extent : Extent key loading)
    (taken : ChatWidgetState.Stepped loading.room.db loading.room.user loading.room.widget act
      widget writes)
    (stored : room.stored key = loading.room.stored key) (here : room.widget = widget)
    (handover : Handover (fun _ => True) key (room.stored key) room.widget) :
    Extent key (loading.note key room (.widget act)) := by
  have lane := extent.handover.lane
  cases taken with
  | @firstReadServed index chatKey found =>
    obtain ⟨only, rfl, free⟩ := lane.alone found
    have waiting : loading.room.widget.firstReads ≠ [] := by simp [only]
    have blank := extent.handover.blank (Or.inr (Or.inr waiting))
    have current : chatKey = key := by
      have old := lane.reads _ (List.mem_of_getElem? found)
      by_contra other
      exact waiting (extent.handover.idle (Or.inl fun same => other (old.trans same)))
    subst current
    refine ⟨handover, ?_, by simp [Loading.note, stored],
      by simp [Loading.note, here, blank.previousReads], by simp [Loading.note, here, free]⟩
    intro read member snapshot taken
    simp only [Loading.note, here, only, List.set_cons_zero, List.mem_singleton] at member
    subst member
    cases taken
    refine ⟨?_, ?_, rfl⟩
    · exact congrArg (limitToLast 11) stored.symm
    · exact congrArg List.length stored.symm
  | firstReadDone found same => exact extent.firstReadDone found same stored here handover
  | @subscribed index id chatKey queue found =>
    have current : chatKey = key :=
      (lane.subscriptions _ (List.mem_of_getElem? found)).1.trans
        (extent.handover.loaded_of_subscription found).1
    subst current
    refine extent.feed ⟨id, chatKey, true, limitToLast 1 (loading.room.stored chatKey)⟩ found stored ?_ ?_ ?_ ?_ ?_ ?_ handover
    · rw [here]
    · rw [here]
    · rw [here]
    · rw [here]
      rfl
    · simp [here, Subscription.waiting, Room.stored]
    · simp [here]
  | @childAdded index id chatKey established event queue next writes found mounted handled =>
    obtain ⟨first, previous, subs⟩ := ChatWidgetState.listenToRealTimeChat_frame handled
    have messages := ChatWidgetState.listenToRealTimeChat_messages handled
    have active : established = true := by
      cases established with
      | true => rfl
      | false =>
        obtain ⟨-, -, done⟩ := extent.handover.loaded_of_subscription found
        obtain ⟨part, fits, -⟩ := extent.handover.parts done
        simpa using (fits.opening _ (List.mem_of_getElem? found) rfl).1
    subst active
    refine extent.feed ⟨id, chatKey, true, queue⟩ found stored ?_ ?_ ?_ ?_ ?_ ?_ handover
    · rw [here, first]
    · rw [here, previous]
    · rw [here, ChatWidgetState.listenToRealTimeChat_cursor handled]
    · rw [here, subs]
    · simp [here, messages, Subscription.waiting]
    · simp [here, messages]
  | childAddedLate found unmounted => simp [lane.ended unmounted] at found
  | scrollToTop visible =>
    refine ⟨handover, ?_, stored ▸ extent.opened, ?_, ?_⟩
    · simp only [Loading.note, here, stored]
      exact extent.served
    · intro read member
      simp only [Loading.note, here] at member ⊢
      rcases List.mem_append.mp member with old | asked
      · exact extent.bounds read old
      · rw [List.mem_singleton.mp asked]
    · intro sub member
      simp only [Loading.note, here] at member
      have shown := extent.shown sub member
      simp only [Loading.note, Loading.depth, ChatWidgetState.AtCursor, here, stored] at shown ⊢
      exact shown
  | @previousReadServed index chatKey bound found =>
    refine ⟨handover, ?_, stored ▸ extent.opened, ?_, ?_⟩
    · simp only [Loading.note, here, stored]
      exact extent.served
    · intro read member
      simp only [Loading.note, here] at member ⊢
      rcases List.mem_or_eq_of_mem_set member with old | rfl
      · exact extent.bounds read old
      · exact extent.bounds ⟨chatKey, bound, none⟩ (List.mem_of_getElem? found)
    · intro sub member
      simp only [Loading.note, here] at member
      have shown := extent.shown sub member
      simp only [Loading.note, Loading.depth, ChatWidgetState.AtCursor, here, stored] at shown ⊢
      exact shown
  | previousReadDone found same => exact extent.previousReadDone found same stored here handover
  | _ =>
    refine extent.frame handover stored ?_ ?_ ?_ ?_ ?_ <;> simp [here]

theorem moved {room : Room} (extent : Extent key loading)
    (undisturbed : loading.Undisturbed key action) (taken : Room.Moved loading.room action room) :
    Extent key (loading.note key room action) := by
  have handover : Handover (fun _ => True) key (room.stored key) room.widget :=
    extent.handover.moved undisturbed.1 (Or.inl trivial) (fun _ _ _ _ _ _ => trivial) taken
  cases taken with
  | @append chat message newest =>
    by_cases here : interpolate key = chat
    · subst here
      refine extent.append (undisturbed.2 rfl) ?_ rfl handover
      simp only [Room.stored, Database.stored_append newest, if_true]
    · have stored : (loading.room.db.append chat message (interpolate key)).stored =
          loading.room.stored key := by
        rw [Database.stored_append newest, if_neg here]
        rfl
      have elsewhere : (loading.room.widget.onStored chat message).subscriptions =
          loading.room.widget.subscriptions := by
        refine onStored_other fun sub member => ?_
        obtain ⟨place, found⟩ := List.getElem?_of_mem member
        rw [(extent.handover.lane.subscriptions sub member).1,
          (extent.handover.loaded_of_subscription found).1]
        exact here
      exact extent.frame handover stored rfl rfl rfl rfl fun sub member => elsewhere ▸ member
  | @quote chat message quoted =>
    have stored := Database.stored_quote loading.room.db chat message (interpolate key)
    exact extent.frame handover stored rfl rfl rfl rfl fun sub member => member
  | @chatKey handed mounted =>
    obtain rfl := undisturbed.1.1 handed rfl
    exact extent.onChatKey rfl rfl handover
  | @tap index chat found mounted =>
    obtain rfl := undisturbed.1.1 chat.key (Room.incoming_tap found mounted)
    exact extent.onChatKey rfl rfl handover
  | widget stepped =>
    exact extent.stepped stepped (Room.note_stored ..) (Room.note_widget ..) handover
  | dispose mounted =>
    refine extent.frame handover rfl rfl rfl rfl rfl fun sub member => ?_
    exact List.mem_of_mem_filter member
  | _ => exact extent.frame handover rfl rfl rfl rfl rfl fun sub member => member

end Extent

variable {db : Database} {user : Option Int} {key : Option String} {actions : List RoomAction}
  {final : Loading}

theorem extent_of_run
    (meets : Meets (Loading.step key) (Loading.Undisturbed key) (Loading.start db user) actions)
    (reached : run (Loading.step key) (Loading.start db user) actions = some final) :
    Extent key final := by
  refine run_invariant (Extent key) ?_ (Extent.start db user) meets reached
  intro loading action next extent undisturbed taken
  obtain ⟨room, moved, rfl⟩ := Option.map_eq_some_iff.mp taken
  exact extent.moved undisturbed (Room.moved_of_step moved)

theorem Extent.shown_of_caughtUp {loading : Loading} (extent : Extent key loading)
    (caughtUp : loading.room.CaughtUp key) :
    loading.room.widget.messages = (loading.room.stored key).drop loading.depth := by
  obtain ⟨-, sub, member, -, established, delivered⟩ := caughtUp
  have shown := (extent.shown sub member).1
  rw [Subscription.waiting, if_pos established, delivered, List.append_nil] at shown
  exact shown.symm

/-- Once everything is delivered, the display is the log from a position on: the length
of the log at the read less eleven, and less three for every page. -/
theorem displays_from_depth
    (meets : Meets (Loading.step key) (Loading.Undisturbed key) (Loading.start db user) actions)
    (reached : run (Loading.step key) (Loading.start db user) actions = some final)
    (caughtUp : final.room.CaughtUp key) :
    final.room.widget.messages =
      (final.room.stored key).drop (final.opened - 11 - 3 * final.pages) :=
  (extent_of_run meets reached).shown_of_caughtUp caughtUp

def openedOnThirteen : List RoomAction :=
  [.chatKey (some "a"), .widget (.firstReadServed 0), .widget (.firstReadDone 0 (longLog.drop 2)),
   .widget (.subscribed 0), .widget .scrollToTop, .append "a" (sample "k14"),
   .widget (.previousReadServed 0), .widget (.childAdded 0),
   .widget (.previousReadDone 0 (longLog.take 3)), .append "a" (sample "k15"),
   .widget (.childAdded 0), .widget (.childAdded 0)]

theorem openedOnThirteen_displays :
    ∃ final, run (Loading.step (some "a")) (Loading.start longChat (some 7)) openedOnThirteen =
        some final ∧ final.opened = 13 ∧ final.pages = 1 ∧
      final.room.widget.messages = (final.room.stored (some "a")).drop (13 - 11 - 3 * 1) := by
  have found : (run (Loading.step (some "a")) (Loading.start longChat (some 7))
      openedOnThirteen).any (fun final => decide (final.room.CaughtUp (some "a") ∧
        final.opened = 13 ∧ final.pages = 1)) = true := by decide
  obtain ⟨final, reached, test⟩ := exists_of_run found
  obtain ⟨caughtUp, opened, pages⟩ := of_decide_eq_true test
  have shown := displays_from_depth (by decide) reached caughtUp
  rw [opened, pages] at shown
  exact ⟨final, reached, opened, pages, shown⟩

end SparSomnong.Chat
