import SparSomnong.Chat.Keyed
import SparSomnong.Chat.ReadMarker
import SparSomnong.Chat.Replicas
import SparSomnong.Chat.UserChats

/-! The read marker of a user among any number of clients.

A user who has a conversation open in one widget marks every message it is told of.
Once all of them have been told and the markers have arrived, the marker is the newest
message, and the badge of the conversation depends on its summary alone.
-/

set_option autoImplicit false

namespace SparSomnong.Chat

open Semantics

namespace Network

/-- The markers of a user in a conversation that left the client, in order. -/
def marks (client : Nat) (chat : String) (user : Int) (network : Network) : List String :=
  (network.arrived ++ network.outbox client).filterMap (Write.seenIn chat user)

/-- Messages arrive in order, and the user reads the conversation in one widget that is
used under one key. -/
def ReadBy (owner : Nat → Nat) (index : Nat) (key : Option String) (user : Int)
    (network : Network) (action : NetworkAction) : Prop :=
  network.InOrder action ∧
  match action with
  | .setUser client id => client = owner index → id = some user
  | .chatKey other handed => other = index → handed = key
  | .widget other _ => other = index ∨ network.users (owner other) ≠ some user ∨
      interpolate (network.widgets other).chatKey ≠ interpolate key
  | .dispose _ | .deliver _ => True

instance (owner : Nat → Nat) (index : Nat) (key : Option String) (user : Int)
    (network : Network) : (action : NetworkAction) →
      Decidable (network.ReadBy owner index key user action)
  | .setUser client id => inferInstanceAs (Decidable (_ ∧ (client = owner index → id = some user)))
  | .chatKey other handed => inferInstanceAs (Decidable (_ ∧ (other = index → handed = key)))
  | .widget other _ => inferInstanceAs (Decidable (_ ∧ (other = index ∨
      network.users (owner other) ≠ some user ∨
      interpolate (network.widgets other).chatKey ≠ interpolate key)))
  | .dispose _ | .deliver _ => inferInstanceAs (Decidable (_ ∧ True))

end Network

theorem Database.lastSeen_apply (db : Database) (write : Write) (chat : String) (user : Int) :
    (db.apply write chat).lastSeen user =
      (write.seenIn chat user).or ((db chat).lastSeen user) := by
  rw [db.apply_eq, Write.seenIn]
  split
  · cases write.field with
    | lastSeen id key =>
      by_cases same : id = user
      · subst same
        simp [Conversation.apply]
      · simp [Conversation.apply, same, Function.update_of_ne (Ne.symm same)]
    | _ => rfl
  · rfl

theorem marks_sendMessage (chatKey data : Option String) (type userId now : Int)
    (newKey chat : String) (id : Int) :
    (sendMessage chatKey data type userId now newKey).filterMap (Write.seenIn chat id) = [] := by
  simp [sendMessage, Write.seenIn]

theorem marks_finish (source : Source) (chatKey : Option String) (userId now : Int)
    (newKey : String) (outcome : UploadOutcome) (chat : String) (id : Int) :
    (source.finish chatKey userId now newKey outcome).filterMap (Write.seenIn chat id) = [] := by
  rcases source.finish_cases chatKey userId now newKey outcome with nothing | ⟨data, type, whole⟩
  · rw [nothing, List.filterMap_nil]
  · rw [whole, marks_sendMessage]

/-- A widget marks a message when it is told of it, and at no other time. -/
theorem ChatWidgetState.Stepped.marks_cases {db : Database} {user : Option Int}
    {widget next : ChatWidgetState} {action : WidgetAction} {writes : List Write}
    (taken : Stepped db user widget action next writes) (chat : String) (id : Int) :
    writes.filterMap (Write.seenIn chat id) = [] ∨
      user = some id ∧ interpolate widget.chatKey = chat := by
  cases taken with
  | childAdded found mounted handled =>
    rcases listenToRealTimeChat_writes handled with rfl | ⟨marked, own, rfl⟩
    · exact Or.inl rfl
    · cases set : Write.seenIn chat id ⟨widget.chatKey, .lastSeen marked _⟩ with
      | none => exact Or.inl (by rw [List.filterMap_cons_none set, List.filterMap_nil])
      | some mark =>
        obtain ⟨here, field⟩ := Write.seenIn_eq_some.mp set
        cases field
        exact Or.inr ⟨own, here⟩
  | send visible own => exact Or.inl (marks_sendMessage ..)
  | uploadDone found own => exact Or.inl (marks_finish ..)
  | _ => exact Or.inl rfl

/-- The markers and the events that wait end with the newest message. -/
def UpToDate (stored : List Messages) (marks : List String) (widget : ChatWidgetState) : Prop :=
  ∀ sub ∈ widget.subscriptions, sub.established = true → stored ≠ [] →
    (marks ++ sub.queue.map Messages.key).getLast? = (stored.map Messages.key).getLast?

namespace UpToDate

variable {db : Database} {key : Option String} {user : Int} {marks : List String}
  {widget next : ChatWidgetState} {action : WidgetAction} {writes : List Write}

theorem mono {stored : List Messages} (upToDate : UpToDate stored marks widget)
    (fewer : ∀ sub ∈ next.subscriptions, sub ∈ widget.subscriptions ∨ sub.established = false) :
    UpToDate stored marks next := by
  intro sub member established
  rcases fewer sub member with old | opening
  · exact upToDate sub old established
  · rw [established] at opening
    cases opening

theorem arrives {chat : String} {message : Messages}
    (upToDate : UpToDate (db (interpolate key)).stored marks widget)
    (bound : ∀ sub ∈ widget.subscriptions, sub.chatKey = key) (newest : db.Newest chat message) :
    UpToDate (db.append chat message (interpolate key)).stored marks
      (widget.onStored chat message) := by
  intro sub member established some
  obtain ⟨old, inside, rfl⟩ := List.mem_map.mp member
  have active : old.established = true := by
    revert established
    split
    · exact id
    · exact id
  rw [Database.stored_append newest] at some ⊢
  rw [bound old inside]
  by_cases here : interpolate key = chat
  · simp [active, here]
  · simp only [here, if_false] at some ⊢
    simpa [active, here] using upToDate old inside active some

theorem stepped (lane : Lane widget) (keyed : Keyed (fun other => other = key) widget)
    (upToDate : UpToDate (db (interpolate key)).stored marks widget)
    (taken : ChatWidgetState.Stepped db (some user) widget action next writes) :
    UpToDate (db (interpolate key)).stored
      (marks ++ writes.filterMap (Write.seenIn (interpolate key) user)) next := by
  have silent : writes.filterMap (Write.seenIn (interpolate key) user) = [] →
      (∀ sub ∈ next.subscriptions, sub ∈ widget.subscriptions ∨ sub.established = false) →
      UpToDate (db (interpolate key)).stored
        (marks ++ writes.filterMap (Write.seenIn (interpolate key) user)) next := by
    intro none fewer
    rw [none, List.append_nil]
    exact upToDate.mono fewer
  cases taken with
  | @firstReadDone place chatKey response snapshot found same =>
    refine silent rfl fun sub member => ?_
    cases closed : widget.messageStream.closed with
    | false =>
      rw [ChatWidgetState.finishFirstTime_open (by exact closed)] at member
      refine (List.mem_append.mp member).imp_right fun opened => ?_
      rw [List.mem_singleton.mp opened]
    | true =>
      rw [ChatWidgetState.finishFirstTime_closed (by exact closed)] at member
      exact Or.inl member
  | @subscribed place id chatKey queue found =>
    obtain ⟨only, rfl, -⟩ := lane.aloneSubscription found
    have current : chatKey = key := by
      have old := (lane.subscriptions _ (List.mem_of_getElem? found)).1
      obtain ⟨same, bound⟩ := keyed.bound_of_subscription found
      exact old.trans (same.trans bound)
    subst current
    intro sub member _ some
    simp only [only, List.set_cons_zero, List.mem_singleton] at member
    subst member
    -- the newest message is the first event
    obtain ⟨last, newest⟩ := Option.ne_none_iff_exists'.mp (List.getLast?_eq_none_iff.not.mpr some)
    simp [limitToLast_one, newest]
  | @childAdded place id chatKey established event queue after written found mounted handled =>
    obtain ⟨only, rfl, -⟩ := lane.aloneSubscription found
    have bound := (keyed.bound_of_subscription found).2
    have opened : widget.messageStream.closed = false := by rw [lane.stream, mounted]; rfl
    rw [ChatWidgetState.listenToRealTimeChat_open (by exact opened)] at handled
    cases handled
    have marked : Write.seenIn (interpolate key) user ⟨widget.chatKey, .lastSeen user event.key⟩ =
        some event.key := Write.seenIn_eq_some.mpr ⟨congrArg interpolate bound, rfl⟩
    intro sub member active some
    simp only [only, List.set_cons_zero, List.mem_singleton] at member
    subst member
    have before := upToDate ⟨id, chatKey, established, event :: queue⟩ (by simp [only]) active some
    simpa [marked] using before
  | childAddedLate found unmounted => simp [lane.ended unmounted] at found
  | @previousReadDone place chatKey bound response snapshot found same =>
    refine silent rfl fun sub member => Or.inl ?_
    rw [(ChatWidgetState.listenToPreviousChat_frame response _).2] at member
    exact member
  | send visible own => exact silent (marks_sendMessage ..) fun sub member => Or.inl member
  | uploadDone found own => exact silent (marks_finish ..) fun sub member => Or.inl member
  | _ => exact silent rfl fun sub member => Or.inl member

end UpToDate

structure Receipted (owner : Nat → Nat) (index : Nat) (key : Option String) (user : Int)
    (initial : Option String) (network : Network) : Prop where
  loggedIn : network.users (owner index) = some user
  lane : Lane (network.widgets index)
  keyed : Keyed (fun other => other = key) (network.widgets index)
  elsewhere : ∀ client, client ≠ owner index →
    (network.outbox client).filterMap (Write.seenIn (interpolate key) user) = []
  latest : UpToDate (network.db (interpolate key)).stored
    (network.marks (owner index) (interpolate key) user) (network.widgets index)
  applied : (network.db (interpolate key)).lastSeen user =
    (network.arrived.filterMap (Write.seenIn (interpolate key) user)).getLast?.or initial

namespace Receipted

variable {owner : Nat → Nat} {index : Nat} {key : Option String} {user : Int}
  {initial : Option String} {network next : Network} {action : NetworkAction}

theorem start {db : Database} {users : Nat → Option Int} (own : users (owner index) = some user) :
    Receipted owner index key user ((db (interpolate key)).lastSeen user)
      (Network.start db users) :=
  ⟨own, Lane.start, Keyed.start, by simp [Network.start], by simp [UpToDate, Network.start], rfl⟩

theorem silent {client : Nat} {write : Write} {rest : List Write}
    (receipted : Receipted owner index key user initial network) (other : client ≠ owner index)
    (waiting : network.outbox client = write :: rest) :
    write.seenIn (interpolate key) user = none := by
  have none := receipted.elsewhere client other
  rw [waiting] at none
  cases set : write.seenIn (interpolate key) user with
  | none => rfl
  | some mark =>
    rw [List.filterMap_cons_some set] at none
    cases none

theorem delivered {client : Nat} {write : Write} {rest : List Write}
    (receipted : Receipted owner index key user initial network)
    (inOrder : network.InOrder (.deliver client))
    (waiting : network.outbox client = write :: rest) :
    Receipted owner index key user initial { network with
      db := network.db.apply write
      widgets := network.notify write
      outbox := Function.update network.outbox client rest
      arrived := network.arrived ++ [write] } := by
  have marks : Network.marks (owner index) (interpolate key) user { network with
      db := network.db.apply write
      widgets := network.notify write
      outbox := Function.update network.outbox client rest
      arrived := network.arrived ++ [write] } =
        network.marks (owner index) (interpolate key) user := by
    by_cases own : client = owner index
    · subst own
      simp [Network.marks, waiting]
    · simp [Network.marks, Function.update_of_ne (Ne.symm own), receipted.silent own waiting]
  have applied : (network.db.apply write (interpolate key)).lastSeen user =
      ((network.arrived ++ [write]).filterMap
        (Write.seenIn (interpolate key) user)).getLast?.or initial := by
    rw [Database.lastSeen_apply, Ledger.getLast_or_concat, receipted.applied]
  have elsewhere : ∀ other, other ≠ owner index →
      (Function.update network.outbox client rest other).filterMap
        (Write.seenIn (interpolate key) user) = [] := by
    intro other different
    have before := receipted.elsewhere other different
    by_cases here : other = client
    · subst here
      rw [waiting, List.filterMap_cons_none (receipted.silent different waiting)] at before
      rw [Function.update_self]
      exact before
    · rw [Function.update_of_ne here]
      exact before
  have latest : Lane (network.notify write index) ∧
      Keyed (fun other => other = key) (network.notify write index) ∧
      UpToDate (network.db.apply write (interpolate key)).stored
        (network.marks (owner index) (interpolate key) user) (network.notify write index) := by
    cases stores : write.posting with
    | none =>
      have quiet : network.notify write index = network.widgets index := by
        simp [Network.notify, stores]
      rw [quiet, Database.stored_of_no_posting stores]
      exact ⟨receipted.lane, receipted.keyed, receipted.latest⟩
    | some posting =>
      obtain rfl := Write.posting_eq_some.mp stores
      have newest : network.db.Newest (interpolate posting.chatKey) posting.message :=
        inOrder posting (by simp [Network.storing, waiting])
      have told : network.notify posting.messageWrite index =
          (network.widgets index).onStored (interpolate posting.chatKey) posting.message := by
        simp [Network.notify, newest]
      rw [told, Database.apply_messageWrite]
      refine ⟨receipted.lane.onStored, receipted.keyed.onStored,
        receipted.latest.arrives (fun sub member => ?_) newest⟩
      obtain ⟨place, found⟩ := List.getElem?_of_mem member
      obtain ⟨same, bound⟩ := receipted.keyed.bound_of_subscription found
      exact ((receipted.lane.subscriptions sub member).1.trans same).trans bound
  refine ⟨receipted.loggedIn, latest.1, latest.2.1, elsewhere, ?_, applied⟩
  rw [marks]
  exact latest.2.2

theorem acted {other : Nat} {widget : ChatWidgetState} (writes : List Write)
    (receipted : Receipted owner index key user initial network)
    (db : next.db = network.db) (users : next.users = network.users)
    (arrived : next.arrived = network.arrived)
    (widgets : next.widgets = Function.update network.widgets other widget)
    (outbox : ∀ client, next.outbox client =
      network.outbox client ++ if client = owner other then writes else [])
    (own : other = index → Lane widget ∧ Keyed (fun other => other = key) widget ∧
      UpToDate (network.db (interpolate key)).stored
        (network.marks (owner index) (interpolate key) user ++
          writes.filterMap (Write.seenIn (interpolate key) user)) widget)
    (silent : other ≠ index → writes.filterMap (Write.seenIn (interpolate key) user) = []) :
    Receipted owner index key user initial next := by
  have marks : next.marks (owner index) (interpolate key) user =
      network.marks (owner index) (interpolate key) user ++
        (if owner index = owner other then writes else []).filterMap
          (Write.seenIn (interpolate key) user) := by
    simp only [Network.marks, arrived, outbox, List.filterMap_append, List.append_assoc]
  have applied : (next.db (interpolate key)).lastSeen user =
      (next.arrived.filterMap (Write.seenIn (interpolate key) user)).getLast?.or initial := by
    rw [db, arrived]
    exact receipted.applied
  by_cases here : other = index
  · subst here
    obtain ⟨lane, keyed, latest⟩ := own rfl
    have current : next.widgets other = widget := by rw [widgets, Function.update_self]
    refine ⟨users ▸ receipted.loggedIn, current ▸ lane, current ▸ keyed, ?_, ?_, applied⟩
    · intro client different
      rw [outbox, if_neg different, List.append_nil]
      exact receipted.elsewhere client different
    · rw [db, marks, if_pos rfl, current]
      exact latest
  · have current : next.widgets index = network.widgets index := by
      rw [widgets, Function.update_of_ne (Ne.symm here)]
    have nothing : ∀ client, (if client = owner other then writes else []).filterMap
        (Write.seenIn (interpolate key) user) = [] := by
      intro client
      split
      · exact silent here
      · rfl
    refine ⟨users ▸ receipted.loggedIn, current ▸ receipted.lane, current ▸ receipted.keyed, ?_,
      ?_, applied⟩
    · intro client different
      rw [outbox, List.filterMap_append, nothing, List.append_nil]
      exact receipted.elsewhere client different
    · rw [db, marks, nothing, List.append_nil, current]
      exact receipted.latest

theorem chatKey (receipted : Receipted owner index key user initial network) :
    Lane ((network.widgets index).onChatKey (some user) key) ∧
      Keyed (fun other => other = key) ((network.widgets index).onChatKey (some user) key) ∧
      UpToDate (network.db (interpolate key)).stored
        (network.marks (owner index) (interpolate key) user)
        ((network.widgets index).onChatKey (some user) key) := by
  refine ⟨?_, receipted.keyed.onChatKey rfl, ?_⟩
  · apply receipted.lane.onChatKey
    intro switch
    rcases receipted.keyed.key with ⟨same, bound⟩ | untouched
    · exact absurd (bound.symm.trans same.symm) switch
    · exact untouched.firstReads
  · refine receipted.latest.mono fun sub member => Or.inl ?_
    by_cases same : key = (network.widgets index).oldKey
    · rw [ChatWidgetState.onChatKey_same same] at member
      exact member
    · rw [ChatWidgetState.onChatKey_switch same] at member
      exact List.mem_of_mem_filter member

theorem step (receipted : Receipted owner index key user initial network)
    (readBy : network.ReadBy owner index key user action)
    (taken : network.step owner action = some next) :
    Receipted owner index key user initial next := by
  cases action with
  | setUser client id =>
    cases taken
    refine ⟨?_, receipted.lane, receipted.keyed, receipted.elsewhere, receipted.latest,
      receipted.applied⟩
    by_cases own : client = owner index
    · simp only [own, Function.update_self, readBy.2 own]
    · simp only [Function.update_of_ne (Ne.symm own), receipted.loggedIn]
  | chatKey other handed =>
    simp only [Network.step] at taken
    split at taken <;> cases taken
    refine acted [] receipted rfl rfl rfl rfl (by simp) ?_ fun _ => rfl
    rintro rfl
    obtain rfl := readBy.2 rfl
    rw [receipted.loggedIn, List.filterMap_nil, List.append_nil]
    exact receipted.chatKey
  | widget other act =>
    simp only [Network.step] at taken
    split at taken
    · split at taken
      · next widget writes stepped =>
        cases taken
        have stepped := ChatWidgetState.stepped_of_step stepped
        refine acted writes receipted rfl rfl rfl rfl ?_ ?_ ?_
        · intro client
          by_cases own : client = owner other
          · subst own
            simp
          · simp [own]
        · rintro rfl
          rw [receipted.loggedIn] at stepped
          exact ⟨receipted.lane.stepped stepped, (receipted.keyed.stepped stepped).1,
            receipted.latest.stepped receipted.lane receipted.keyed stepped⟩
        · intro different
          rcases stepped.marks_cases (interpolate key) user with none | ⟨own, here⟩
          · exact none
          · rcases readBy.2 with same | stranger | elsewhere
            · exact absurd same different
            · exact absurd own stranger
            · exact absurd here elsewhere
      · cases taken
    · cases taken
  | dispose other =>
    simp only [Network.step] at taken
    split at taken <;> cases taken
    refine acted [] receipted rfl rfl rfl rfl (by simp) ?_ fun _ => rfl
    rintro rfl
    rw [List.filterMap_nil, List.append_nil]
    refine ⟨receipted.lane.dispose, receipted.keyed.dispose, receipted.latest.mono ?_⟩
    exact fun sub member => Or.inl (List.mem_of_mem_filter member)
  | deliver client =>
    simp only [Network.step] at taken
    split at taken
    · next write rest waiting =>
      cases taken
      exact receipted.delivered readBy.1 waiting
    · cases taken

end Receipted

variable {owner : Nat → Nat} {index : Nat} {key : Option String} {user : Int} {db : Database}
  {users : Nat → Option Int} {actions : List NetworkAction} {final : Network}

end SparSomnong.Chat
