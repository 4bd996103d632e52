import Mathlib.Algebra.BigOperators.Ring.Finset
import SparSomnong.Chat.Keyed
import SparSomnong.Chat.Network
import SparSomnong.Chat.ScrollBack
import SparSomnong.Semantics.Endless
import SparSomnong.Semantics.Tally

/-! The traffic of the clients dies down.

Replies, events, uploads and arrivals go on by themselves, and each of them may cause
more. None of them goes round in circles: without a gesture or a new key there are only
so many, and when there are none left, everything has been sent and handed over.
-/

set_option autoImplicit false

namespace SparSomnong.Chat

open Semantics

/-- What happens by itself, without the user and without a new key. -/
def NetworkAction.internal : NetworkAction → Bool
  | .widget _ action => !action.byUser
  | .deliver _ => true
  | _ => false

def Network.Onward (owner : Nat → Nat) (network next : Network) : Prop :=
  ∃ action : NetworkAction, action.internal = true ∧ network.step owner action = some next

structure ChatWidgetState.AtRest (widget : ChatWidgetState) : Prop where
  firstReads : widget.firstReads = []
  previousReads : widget.previousReads = []
  uploads : widget.uploads = []
  subscriptions : ∀ sub ∈ widget.subscriptions, sub.established = true ∧ sub.queue = []

/-- Every write has arrived and no widget waits for anything. -/
structure Network.AtRest (network : Network) : Prop where
  sent : ∀ client, network.outbox client = []
  widgets : ∀ index, (network.widgets index).AtRest

/-! ## What is left to do -/

/-- Served, done, subscribed, told and marked. -/
def FirstRead.weight (read : FirstRead) : Nat := if read.snapshot.isNone then 5 else 4

def PreviousRead.weight (read : PreviousRead) : Nat := if read.snapshot.isNone then 2 else 1

def Subscription.weight (sub : Subscription) : Nat :=
  (if sub.established then 0 else 3) + 2 * sub.queue.length

def Write.stores (write : Write) : Nat := if write.posting.isSome then 1 else 0

namespace ChatWidgetState

def weight (widget : ChatWidgetState) : Nat :=
  tally FirstRead.weight widget.firstReads + tally PreviousRead.weight widget.previousReads +
    tally Subscription.weight widget.subscriptions + 4 * widget.uploads.length

def feeds (widget : ChatWidgetState) : Nat :=
  widget.firstReads.length + widget.subscriptions.length

theorem onStored_weight (chat : String) (message : Messages) (widget : ChatWidgetState) :
    (widget.onStored chat message).weight ≤ widget.weight + 2 * widget.feeds := by
  have queued := tally_map_le Subscription.weight
    (fun sub => if sub.established && interpolate sub.chatKey == chat then
      { sub with queue := sub.queue ++ [message] } else sub) 2 (fun sub => by
        split
        · simp only [Subscription.weight, List.length_append, List.length_singleton]
          omega
        · omega) widget.subscriptions
  have same : (widget.onStored chat message).weight = tally FirstRead.weight widget.firstReads +
      tally PreviousRead.weight widget.previousReads +
      tally Subscription.weight (widget.onStored chat message).subscriptions +
      4 * widget.uploads.length := rfl
  rw [same, weight, feeds]
  simp only [onStored]
  omega

theorem onStored_feeds (chat : String) (message : Messages) (widget : ChatWidgetState) :
    (widget.onStored chat message).feeds = widget.feeds := by
  simp [feeds, onStored]

end ChatWidgetState

theorem ChatWidgetState.Stepped.lighter {db : Database} {user : Option Int}
    {widget next : ChatWidgetState} {action : WidgetAction} {writes : List Write}
    (taken : Stepped db user widget action next writes) (alone : action.byUser = false) :
    next.weight + writes.length < widget.weight ∧ next.feeds ≤ widget.feeds ∧
      next.uploads.length + tally Write.stores writes ≤ widget.uploads.length := by
  cases taken with
  | @firstReadServed index chatKey found =>
    have served := tally_set FirstRead.weight found
      ⟨chatKey, some (limitToLast 11 (db (interpolate chatKey)).stored)⟩
    simp only [FirstRead.weight, Option.isNone_none, Option.isNone_some, if_true,
      Bool.false_eq_true, if_false] at served
    refine ⟨?_, ?_, ?_⟩
    · simp only [weight, List.length_nil]
      omega
    · simp [feeds]
    · simp
  | @firstReadDone index chatKey response snapshot found same =>
    have done := tally_eraseIdx FirstRead.weight found
    have fewer := List.length_eraseIdx_add_one (List.getElem?_eq_some_iff.mp found).1
    simp only [FirstRead.weight, Option.isNone_some, Bool.false_eq_true, if_false] at done
    cases closed : widget.messageStream.closed with
    | false =>
      rw [finishFirstTime_open (by exact closed)]
      refine ⟨?_, ?_, ?_⟩
      · simp only [weight, List.length_nil, tally_append, tally_cons, tally_nil,
          Subscription.weight]
        simp
        omega
      · simp only [feeds, List.length_append, List.length_singleton]
        omega
      · simp
    | true =>
      rw [finishFirstTime_closed (by exact closed)]
      refine ⟨?_, ?_, ?_⟩
      · simp only [weight, List.length_nil]
        omega
      · simp only [feeds]
        omega
      · simp
  | @subscribed index id chatKey queue found =>
    have opened := tally_set Subscription.weight found
      ⟨id, chatKey, true, limitToLast 1 (db (interpolate chatKey)).stored⟩
    simp only [Subscription.weight, if_true, Bool.false_eq_true, if_false, length_limitToLast]
      at opened
    refine ⟨?_, ?_, ?_⟩
    · simp only [weight, List.length_nil]
      omega
    · simp [feeds]
    · simp
  | @childAdded index id chatKey established event queue next writes found mounted handled =>
    have told := tally_set Subscription.weight found ⟨id, chatKey, established, queue⟩
    simp only [Subscription.weight, List.length_cons] at told
    obtain ⟨firstReads, previousReads, subscriptions⟩ := listenToRealTimeChat_frame handled
    obtain ⟨-, -, uploads, -⟩ := Keyed.listenToRealTimeChat_keys handled
    have marker : writes.length ≤ 1 ∧ tally Write.stores writes = 0 := by
      rcases listenToRealTimeChat_writes handled with rfl | ⟨id, -, rfl⟩
      · exact ⟨Nat.zero_le _, rfl⟩
      · exact ⟨Nat.le_refl _, rfl⟩
    refine ⟨?_, ?_, ?_⟩
    · simp only [weight, firstReads, previousReads, subscriptions, uploads]
      omega
    · simp [feeds, firstReads, subscriptions]
    · simp only [uploads, marker.2]
      omega
  | @childAddedLate index id chatKey established event queue found unmounted =>
    have told := tally_set Subscription.weight found ⟨id, chatKey, established, queue⟩
    simp only [Subscription.weight, List.length_cons] at told
    refine ⟨?_, ?_, ?_⟩
    · simp only [weight, List.length_nil]
      omega
    · simp [feeds]
    · simp
  | scrollToTop visible => cases alone
  | @previousReadServed index chatKey bound found =>
    have served := tally_set PreviousRead.weight found ⟨chatKey, bound,
      some (limitToLast 4 (endAt Messages.key bound (db (interpolate chatKey)).stored))⟩
    simp only [PreviousRead.weight, Option.isNone_none, Option.isNone_some, if_true,
      Bool.false_eq_true, if_false] at served
    refine ⟨?_, ?_, ?_⟩
    · simp only [weight, List.length_nil]
      omega
    · simp [feeds]
    · simp
  | @previousReadDone index chatKey bound response snapshot found same =>
    have done := tally_eraseIdx PreviousRead.weight found
    simp only [PreviousRead.weight, Option.isNone_some, Bool.false_eq_true, if_false] at done
    obtain ⟨firstReads, subscriptions⟩ := listenToPreviousChat_frame response
      { widget with previousReads := widget.previousReads.eraseIdx index }
    obtain ⟨-, -, uploads, -⟩ := Keyed.listenToPreviousChat_keys response
      { widget with previousReads := widget.previousReads.eraseIdx index }
    have previousReads := listenToPreviousChat_previousReads response
      { widget with previousReads := widget.previousReads.eraseIdx index }
    refine ⟨?_, ?_, ?_⟩
    · simp only [weight, firstReads, previousReads, subscriptions, uploads, List.length_nil]
      omega
    · simp [feeds, firstReads, subscriptions]
    · simp [uploads]
  | send visible own => cases alone
  | sendWithoutUser visible own => cases alone
  | choose visible => cases alone
  | @uploadDone index upload outcome now id newKey found own =>
    have fewer := List.length_eraseIdx_add_one (List.getElem?_eq_some_iff.mp found).1
    have sent : (upload.source.finish upload.chatKey id now newKey outcome).length ≤ 3 ∧
        tally Write.stores (upload.source.finish upload.chatKey id now newKey outcome) ≤ 1 := by
      rcases upload.source.finish_cases upload.chatKey id now newKey outcome with
        nothing | ⟨data, type, whole⟩
      · rw [nothing]
        exact ⟨Nat.zero_le _, Nat.zero_le _⟩
      · rw [whole]
        exact ⟨Nat.le_refl _, Nat.le_refl _⟩
    refine ⟨?_, ?_, ?_⟩
    · simp only [weight]
      omega
    · simp [feeds]
    · simp only
      omega
  | @uploadWithoutUser index upload outcome now newKey found own =>
    have fewer := List.length_eraseIdx_add_one (List.getElem?_eq_some_iff.mp found).1
    refine ⟨?_, ?_, ?_⟩
    · simp only [weight, List.length_nil]
      omega
    · simp [feeds]
    · simp only [tally_nil]
      omega

theorem ChatWidgetState.step_blank {db : Database} {user : Option Int} {action : WidgetAction}
    (alone : action.byUser = false) : ({} : ChatWidgetState).step db user action = none := by
  cases action with
  | scrollToTop | send | choose => cases alone
  | _ => rfl

def NetworkAction.touches : NetworkAction → Option Nat
  | .chatKey index _ | .widget index _ | .dispose index => some index
  | .setUser .. | .deliver _ => none

structure Within (owner : Nat → Nat) (widgets clients : Nat) (network : Network) : Prop where
  blank : ∀ index, widgets ≤ index → network.widgets index = {}
  sent : ∀ client, clients ≤ client → network.outbox client = []
  owned : ∀ index, index < widgets → owner index < clients

namespace Within

variable {owner : Nat → Nat} {widgets clients : Nat} {network next : Network}
  {action : NetworkAction}

theorem update {index : Nat} (within : Within owner widgets clients network)
    (inside : index < widgets) (widget : ChatWidgetState) (writes : List Write) :
    (∀ other, widgets ≤ other → Function.update network.widgets index widget other = {}) ∧
      ∀ client, clients ≤ client → Function.update network.outbox (owner index)
        (network.outbox (owner index) ++ writes) client = [] := by
  constructor
  · intro other outside
    rw [Function.update_of_ne (by omega)]
    exact within.blank other outside
  · intro client outside
    have below := within.owned index inside
    rw [Function.update_of_ne (by omega)]
    exact within.sent client outside

theorem step (within : Within owner widgets clients network)
    (inside : ∀ index ∈ action.touches, index < widgets)
    (taken : network.step owner action = some next) : Within owner widgets clients next := by
  cases action with
  | setUser client user =>
    cases taken
    exact ⟨within.blank, within.sent, within.owned⟩
  | chatKey index key =>
    simp only [Network.step] at taken
    split at taken <;> cases taken
    exact ⟨(within.update (inside index rfl) _ []).1, within.sent, within.owned⟩
  | widget index act =>
    simp only [Network.step] at taken
    split at taken
    · split at taken <;> cases taken
      next widget writes stepped =>
      obtain ⟨blank, sent⟩ := within.update (inside index rfl) widget writes
      exact ⟨blank, sent, within.owned⟩
    · cases taken
  | dispose index =>
    simp only [Network.step] at taken
    split at taken <;> cases taken
    exact ⟨(within.update (inside index rfl) _ []).1, within.sent, within.owned⟩
  | deliver client =>
    simp only [Network.step] at taken
    split at taken
    · next write rest waiting =>
      cases taken
      refine ⟨?_, ?_, within.owned⟩
      · intro index outside
        have blank := within.blank index outside
        simp only [Network.notify, blank]
        split
        · split <;> rfl
        · rfl
      · intro other outside
        have sent := within.sent other outside
        have different : other ≠ client := by
          rintro rfl
          rw [waiting] at sent
          cases sent
        simp only [Function.update_of_ne different, sent]
    · cases taken

end Within

theorem within_of_run {owner : Nat → Nat} {db : Database} {users : Nat → Option Int}
    {actions : List NetworkAction} {final : Network}
    (reached : run (Network.step owner) (Network.start db users) actions = some final) :
    ∃ widgets clients, Within owner widgets clients final := by
  obtain ⟨widgets, bound⟩ : ∃ widgets, ∀ action ∈ actions, ∀ index ∈ action.touches,
      index < widgets := by
    refine ⟨(actions.filterMap NetworkAction.touches).toFinset.sup id + 1, ?_⟩
    intro action member index touched
    have among := List.mem_toFinset.mpr (List.mem_filterMap.mpr ⟨action, member, touched⟩)
    exact Nat.lt_succ_of_le (Finset.le_sup (f := id) among)
  refine ⟨widgets, (Finset.range widgets).sup owner + 1, ?_⟩
  refine run_invariant (Within owner widgets _) ?_ ?_ ((meets_iff_forall reached).mpr bound) reached
  · exact fun network action next within inside taken => within.step inside taken
  · refine ⟨fun _ _ => rfl, fun _ _ => rfl, fun index inside => ?_⟩
    exact Nat.lt_succ_of_le (Finset.le_sup (f := owner) (Finset.mem_range.mpr inside))

/-! ## The work gets less -/

namespace Network

def overall (widgets : Nat) (number : ChatWidgetState → Nat) (network : Network) : Nat :=
  (Finset.range widgets).sum fun index => number (network.widgets index)

def queued (clients : Nat) (number : List Write → Nat) (network : Network) : Nat :=
  (Finset.range clients).sum fun client => number (network.outbox client)

def messagesLeft (widgets clients : Nat) (network : Network) : Nat :=
  network.overall widgets (fun widget => widget.uploads.length) +
    network.queued clients (tally Write.stores)

/-- A message is told to every feed, and marked by it. -/
def work (widgets clients : Nat) (network : Network) : Nat :=
  network.overall widgets ChatWidgetState.weight + network.queued clients List.length +
    2 * network.overall widgets ChatWidgetState.feeds * network.messagesLeft widgets clients

end Network

theorem work_stepped {owner : Nat → Nat} {widgets clients : Nat} {network next : Network}
    {index : Nat} {act : WidgetAction} {widget : ChatWidgetState} {writes : List Write}
    (within : Within owner widgets clients network) (inside : index < widgets)
    (alone : act.byUser = false)
    (taken : ChatWidgetState.Stepped network.db (network.users (owner index))
      (network.widgets index) act widget writes)
    (shown : next.widgets = Function.update network.widgets index widget)
    (sent : next.outbox = Function.update network.outbox (owner index)
      (network.outbox (owner index) ++ writes)) :
    next.work widgets clients < network.work widgets clients := by
  obtain ⟨lighter, feeds, messages⟩ := taken.lighter alone
  have overall : ∀ number : ChatWidgetState → Nat, next.overall widgets number +
      number (network.widgets index) = network.overall widgets number + number widget := by
    intro number
    rw [Network.overall, shown]
    exact sum_update inside network.widgets number widget
  have queued : ∀ number : List Write → Nat, next.queued clients number +
      number (network.outbox (owner index)) = network.queued clients number +
        number (network.outbox (owner index) ++ writes) := by
    intro number
    rw [Network.queued, sent]
    exact sum_update (within.owned index inside) network.outbox number _
  have weights := overall ChatWidgetState.weight
  have allFeeds := overall ChatWidgetState.feeds
  have uploads := overall fun widget => widget.uploads.length
  have lengths := queued List.length
  have stores := queued (tally Write.stores)
  simp only [List.length_append, tally_append] at lengths stores uploads
  have fewer : 2 * next.overall widgets ChatWidgetState.feeds * next.messagesLeft widgets clients ≤
      2 * network.overall widgets ChatWidgetState.feeds * network.messagesLeft widgets clients := by
    apply Nat.mul_le_mul
    · omega
    · simp only [Network.messagesLeft]
      omega
  simp only [Network.work]
  omega

theorem notify_weight (network : Network) (write : Write) (index : Nat) :
    (network.notify write index).weight ≤
      (network.widgets index).weight + 2 * (network.widgets index).feeds * write.stores := by
  unfold Network.notify
  cases stores : write.posting with
  | none => exact Nat.le_add_right _ _
  | some posting =>
    have one : write.stores = 1 := by simp [Write.stores, stores]
    have told := ChatWidgetState.onStored_weight (interpolate posting.chatKey) posting.message
      (network.widgets index)
    rw [one]
    dsimp only
    split <;> omega

theorem notify_kept (network : Network) (write : Write) (index : Nat) :
    (network.notify write index).feeds = (network.widgets index).feeds ∧
      (network.notify write index).uploads = (network.widgets index).uploads := by
  unfold Network.notify
  split
  · split
    · exact ⟨ChatWidgetState.onStored_feeds _ _ _, rfl⟩
    · exact ⟨rfl, rfl⟩
  · exact ⟨rfl, rfl⟩

/-- An arrival leaves less work: what a message adds to the feeds was counted with it. -/
theorem work_delivered {owner : Nat → Nat} {widgets clients client : Nat} {network next : Network}
    {write : Write} {rest : List Write} (within : Within owner widgets clients network)
    (waiting : network.outbox client = write :: rest) (shown : next.widgets = network.notify write)
    (sent : next.outbox = Function.update network.outbox client rest) :
    next.work widgets clients < network.work widgets clients := by
  have inside : client < clients := by
    by_contra outside
    have none := within.sent client (by omega)
    rw [waiting] at none
    cases none
  have queued : ∀ number : List Write → Nat, next.queued clients number + number (write :: rest) =
      network.queued clients number + number rest := by
    intro number
    rw [Network.queued, sent, ← waiting]
    exact sum_update inside network.outbox number rest
  have weights : next.overall widgets ChatWidgetState.weight ≤
      network.overall widgets ChatWidgetState.weight +
        2 * network.overall widgets ChatWidgetState.feeds * write.stores := by
    simp only [Network.overall, shown]
    calc
      _ ≤ (Finset.range widgets).sum (fun index => (network.widgets index).weight +
            2 * (network.widgets index).feeds * write.stores) :=
        Finset.sum_le_sum fun index _ => notify_weight network write index
      _ = _ := by rw [Finset.sum_add_distrib, Finset.mul_sum, Finset.sum_mul]
  have feeds : next.overall widgets ChatWidgetState.feeds =
      network.overall widgets ChatWidgetState.feeds := by
    simp only [Network.overall, shown, notify_kept]
  have uploads : (next.overall widgets fun widget => widget.uploads.length) =
      network.overall widgets fun widget => widget.uploads.length := by
    simp only [Network.overall, shown, notify_kept]
  have lengths := queued List.length
  have stores := queued (tally Write.stores)
  simp only [List.length_cons, tally_cons] at lengths stores
  have messages : network.messagesLeft widgets clients =
      next.messagesLeft widgets clients + write.stores := by
    simp only [Network.messagesLeft]
    omega
  simp only [Network.work, feeds, messages, Nat.mul_add]
  omega

theorem Within.onward {owner : Nat → Nat} {widgets clients : Nat} {network next : Network}
    (within : Within owner widgets clients network) (taken : Network.Onward owner network next) :
    Within owner widgets clients next ∧ next.work widgets clients < network.work widgets clients := by
  obtain ⟨action, alone, taken⟩ := taken
  cases action with
  | setUser | chatKey | dispose => cases alone
  | widget index act =>
    have quiet : act.byUser = false := by simpa [NetworkAction.internal] using alone
    have inside : index < widgets := by
      by_contra outside
      simp only [Network.step, within.blank index (by omega),
        ChatWidgetState.step_blank quiet] at taken
      split at taken <;> cases taken
    have touched : ∀ other ∈ (NetworkAction.widget index act).touches, other < widgets := by
      intro other same
      cases same
      exact inside
    refine ⟨within.step touched taken, ?_⟩
    simp only [Network.step] at taken
    split at taken
    · split at taken
      · next widget writes stepped =>
        cases taken
        exact work_stepped within inside quiet (ChatWidgetState.stepped_of_step stepped) rfl rfl
      · cases taken
    · cases taken
  | deliver client =>
    refine ⟨within.step (by simp [NetworkAction.touches]) taken, ?_⟩
    simp only [Network.step] at taken
    split at taken
    · next write rest waiting =>
      cases taken
      exact work_delivered within waiting rfl rfl
    · cases taken

/-! ## Nothing left to do -/

theorem exists_fresh (postings : List Posting) :
    ∃ key, ∀ posting ∈ postings, posting.message.key ≠ key := by
  obtain ⟨key, absent⟩ :=
    Infinite.exists_notMem_finset (postings.map fun posting => posting.message.key).toFinset
  refine ⟨key, fun posting member same => absent ?_⟩
  rw [List.mem_toFinset, ← same]
  exact List.mem_map_of_mem member

theorem ChatWidgetState.AtRest.step {db : Database} {user : Option Int} {widget : ChatWidgetState}
    {act : WidgetAction} (rest : widget.AtRest) (alone : act.byUser = false) :
    widget.step db user act = none := by
  have told : ∀ place (sub : Subscription), widget.subscriptions[place]? = some sub →
      sub.established = true ∧ sub.queue = [] := fun _ sub found =>
    rest.subscriptions sub (List.mem_of_getElem? found)
  cases act with
  | firstReadServed | firstReadDone => simp [ChatWidgetState.step, rest.firstReads]
  | previousReadServed | previousReadDone => simp [ChatWidgetState.step, rest.previousReads]
  | uploadDone => simp [ChatWidgetState.step, rest.uploads]
  | subscribed place =>
    cases found : widget.subscriptions[place]? with
    | none => simp [ChatWidgetState.step, found]
    | some sub =>
      obtain ⟨id, chatKey, established, queue⟩ := sub
      obtain ⟨rfl, -⟩ := told place _ found
      simp [ChatWidgetState.step, found]
  | childAdded place =>
    cases found : widget.subscriptions[place]? with
    | none => simp [ChatWidgetState.step, found]
    | some sub =>
      obtain ⟨id, chatKey, established, queue⟩ := sub
      obtain ⟨-, rfl⟩ := told place _ found
      simp [ChatWidgetState.step, found]
  | scrollToTop | send | choose => cases alone

namespace Network

variable {owner : Nat → Nat} {network : Network}

theorem onward_of_widget {index : Nat} {act : WidgetAction} (alone : act.byUser = false)
    (fresh : ∀ key ∈ act.newKey, ∀ posting ∈ network.posted, posting.message.key ≠ key)
    (enabled : (network.widgets index).step network.db (network.users (owner index)) act ≠ none) :
    ∃ next, Onward owner network next := by
  obtain ⟨⟨widget, writes⟩, stepped⟩ := Option.ne_none_iff_exists'.mp enabled
  have taken : ∃ next, network.step owner (.widget index act) = some next := by
    simp only [step, stepped]
    rw [if_pos fresh]
    exact ⟨_, rfl⟩
  obtain ⟨next, taken⟩ := taken
  exact ⟨next, .widget index act, by simp [NetworkAction.internal, alone], taken⟩

theorem widget_atRest (stuck : ∀ next, ¬ Onward owner network next) (index : Nat) :
    (network.widgets index).AtRest := by
  have blocked : ∀ act : WidgetAction, act.byUser = false → act.newKey = none →
      (network.widgets index).step network.db (network.users (owner index)) act = none := by
    intro act alone keyless
    by_contra enabled
    obtain ⟨next, onward⟩ := onward_of_widget alone (by simp [keyless]) enabled
    exact stuck next onward
  constructor
  · cases reads : (network.widgets index).firstReads with
    | nil => rfl
    | cons read rest =>
      obtain ⟨chatKey, snapshot⟩ := read
      cases snapshot with
      | none =>
        have served := blocked (.firstReadServed 0) rfl rfl
        simp [ChatWidgetState.step, reads] at served
      | some snapshot =>
        have done := blocked (.firstReadDone 0 snapshot) rfl rfl
        simp [ChatWidgetState.step, reads] at done
  · cases reads : (network.widgets index).previousReads with
    | nil => rfl
    | cons read rest =>
      obtain ⟨chatKey, bound, snapshot⟩ := read
      cases snapshot with
      | none =>
        have served := blocked (.previousReadServed 0) rfl rfl
        simp [ChatWidgetState.step, reads] at served
      | some snapshot =>
        have done := blocked (.previousReadDone 0 snapshot) rfl rfl
        simp [ChatWidgetState.step, reads] at done
  · cases uploads : (network.widgets index).uploads with
    | nil => rfl
    | cons upload rest =>
      -- the upload may fail now
      obtain ⟨key, fresh⟩ := exists_fresh network.posted
      have enabled : (network.widgets index).step network.db (network.users (owner index))
          (.uploadDone 0 .abandoned 0 key) ≠ none := by
        cases own : upload.user <;> simp [ChatWidgetState.step, uploads, own]
      obtain ⟨next, onward⟩ := onward_of_widget rfl (fun _ same => Option.some.inj same ▸ fresh)
        enabled
      exact absurd onward (stuck next)
  · intro sub member
    obtain ⟨place, found⟩ := List.getElem?_of_mem member
    obtain ⟨id, chatKey, established, queue⟩ := sub
    cases established with
    | false =>
      have opened := blocked (.subscribed place) rfl rfl
      simp [ChatWidgetState.step, found] at opened
    | true =>
      cases queue with
      | nil => exact ⟨rfl, rfl⟩
      | cons event queue =>
        have told := blocked (.childAdded place) rfl rfl
        simp only [ChatWidgetState.step, found] at told
        split at told <;> cases told

theorem stuck_iff_atRest : (∀ next, ¬ Onward owner network next) ↔ network.AtRest := by
  constructor
  · intro stuck
    refine ⟨fun client => ?_, widget_atRest stuck⟩
    cases waiting : network.outbox client with
    | nil => rfl
    | cons write rest =>
      refine absurd ⟨.deliver client, rfl, ?_⟩ (stuck { network with
        db := network.db.apply write
        widgets := network.notify write
        outbox := Function.update network.outbox client rest
        arrived := network.arrived ++ [write] })
      simp only [step, waiting]
  · rintro rest next ⟨action, alone, taken⟩
    cases action with
    | setUser | chatKey | dispose => cases alone
    | widget index act =>
      have nothing : (network.widgets index).step network.db (network.users (owner index)) act =
          none := (rest.widgets index).step (by simpa [NetworkAction.internal] using alone)
      simp only [step, nothing] at taken
      split at taken <;> cases taken
    | deliver client => simp [step, rest.sent client] at taken

end Network

/-- From every state of every run, what goes on by itself ends, and it ends exactly where
everything has been sent and handed over. -/
theorem comes_to_rest {owner : Nat → Nat} {db : Database} {users : Nat → Option Int}
    {actions : List NetworkAction} {final : Network}
    (reached : run (Network.step owner) (Network.start db users) actions = some final) :
    ¬ Endless (Network.Onward owner) final ∧
      (∃ last, Relation.ReflTransGen (Network.Onward owner) final last ∧ last.AtRest) ∧
      ∀ last, Relation.ReflTransGen (Network.Onward owner) final last →
        ((∀ next, ¬ Network.Onward owner last next) ↔ last.AtRest) := by
  obtain ⟨widgets, clients, within⟩ := within_of_run reached
  have lower : ∀ network next, Within owner widgets clients network →
      Network.Onward owner network next → Within owner widgets clients next ∧
        next.work widgets clients < network.work widgets clients :=
    fun _ _ within taken => within.onward taken
  refine ⟨not_endless_of_measure lower within, ?_, fun _ _ => Network.stuck_iff_atRest⟩
  obtain ⟨last, onward, stuck⟩ := exists_rest_of_measure lower within
  exact ⟨last, onward, Network.stuck_iff_atRest.mp stuck⟩

def sentWhileOpening : List NetworkAction :=
  [.chatKey 0 (some "a"), .chatKey 1 (some "a"), .widget 0 (.firstReadServed 0),
   .widget 0 (.firstReadDone 0 []), .widget 0 (.subscribed 0), .widget 1 (.firstReadServed 0),
   .widget 0 (.send "hello" 0 "k1"), .deliver 0]

theorem sentWhileOpening_rests : ∃ final,
    run (Network.step id) (Network.start (fun _ => Conversation.empty) fun _ => some 7)
        sentWhileOpening = some final ∧
      ¬ Endless (Network.Onward id) final ∧ ¬ final.AtRest ∧
      ∃ last, Relation.ReflTransGen (Network.Onward id) final last ∧ last.AtRest := by
  have found : (run (Network.step id) (Network.start (fun _ => Conversation.empty)
      fun _ => some 7) sentWhileOpening).any (fun final => decide (final.outbox 0 ≠ [])) = true := by
    decide
  obtain ⟨final, reached, waiting⟩ := exists_of_run found
  obtain ⟨ends, rests, -⟩ := comes_to_rest reached
  exact ⟨final, reached, ends, fun rest => of_decide_eq_true waiting (rest.sent 0), rests⟩

end SparSomnong.Chat
