import SparSomnong.Chat.Sourced
import SparSomnong.Chat.Summary

/-! No message is lost, stored twice or made up.

A message that a client has sent waits in one outbox, once, or it is stored, once.
What is stored is what the conversation started with and the messages that arrived,
and no widget shows anything else.
-/

set_option autoImplicit false

namespace SparSomnong.Chat

open Semantics

theorem put_perm {α κ : Type} [LinearOrder κ] {key : α → κ} {entry : α} {entries : List α}
    (absent : ∀ a ∈ entries, key a ≠ key entry) :
    (put key entry entries).Perm (entry :: entries) := by
  induction entries with
  | nil => exact List.Perm.refl _
  | cons head rest ih =>
    have ih := ih fun a member => absent a (List.mem_cons_of_mem _ member)
    simp only [put]
    split
    · exact List.Perm.refl _
    · rw [if_neg (absent head List.mem_cons_self).symm]
      exact (ih.cons head).trans (List.Perm.swap entry head rest)

namespace Network

def delivered (network : Network) : List Posting := network.arrived.filterMap Write.posting

def pending (network : Network) (client : Nat) : List Posting :=
  (network.outbox client).filterMap Write.posting

def within (chat : String) (postings : List Posting) : List Messages :=
  (postings.filter fun posting => interpolate posting.chatKey = chat).map Posting.message

end Network

/-- The key an action allocates is not one of the messages `initial`. -/
def NetworkAction.Fresh (initial : List Messages) : NetworkAction → Prop
  | .widget _ action => ∀ key ∈ action.newKey, ∀ message ∈ initial, message.key ≠ key
  | _ => True

instance (initial : List Messages) : (action : NetworkAction) → Decidable (action.Fresh initial)
  | .widget _ action => inferInstanceAs (Decidable (∀ key ∈ action.newKey, ∀ _ ∈ initial, _))
  | .setUser .. | .chatKey .. | .dispose _ | .deliver _ => isTrue trivial

/-- Every message that was sent is in one place, and once. -/
structure Conserved (initial : List Messages) (chat : String) (network : Network) : Prop where
  keys : (network.posted.map fun posting => posting.message.key).Nodup
  fresh : ∀ posting ∈ network.posted, ∀ message ∈ initial, message.key ≠ posting.message.key
  delivered : network.delivered.Nodup
  pending : ∀ client, (network.pending client).Nodup
  undelivered : ∀ client, ∀ posting ∈ network.pending client, posting ∉ network.delivered
  single : ∀ client other posting, posting ∈ network.pending client →
    posting ∈ network.pending other → client = other
  accounted : ∀ posting, posting ∈ network.posted ↔
    posting ∈ network.delivered ∨ ∃ client, posting ∈ network.pending client
  stored : (network.db chat).stored.Perm (initial ++ Network.within chat network.delivered)

namespace Conserved

variable {initial : List Messages} {chat : String} {network next : Network}
  {action : NetworkAction}

theorem start (db : Database) (users : Nat → Option Int) :
    Conserved (db chat).stored chat (Network.start db users) := by
  constructor <;> simp [Network.start, Network.delivered, Network.pending, Network.within]

theorem frame (conserved : Conserved initial chat network) (posted : next.posted = network.posted)
    (delivered : next.delivered = network.delivered) (pending : next.pending = network.pending)
    (stored : (next.db chat).stored = (network.db chat).stored) :
    Conserved initial chat next := by
  constructor
  · rw [posted]
    exact conserved.keys
  · rw [posted]
    exact conserved.fresh
  · rw [delivered]
    exact conserved.delivered
  · rw [pending]
    exact conserved.pending
  · rw [pending, delivered]
    exact conserved.undelivered
  · rw [pending]
    exact conserved.single
  · rw [posted, delivered, pending]
    exact conserved.accounted
  · rw [stored, delivered]
    exact conserved.stored

theorem post {client : Nat} {posting : Posting} (conserved : Conserved initial chat network)
    (allocated : ∀ other ∈ network.posted, other.message.key ≠ posting.message.key)
    (unused : ∀ message ∈ initial, message.key ≠ posting.message.key)
    (posted : next.posted = network.posted ++ [posting])
    (delivered : next.delivered = network.delivered)
    (pending : next.pending =
      Function.update network.pending client (network.pending client ++ [posting]))
    (stored : (next.db chat).stored = (network.db chat).stored) :
    Conserved initial chat next := by
  have unknown : posting ∉ network.posted := fun member => allocated posting member rfl
  have away : posting ∉ network.delivered := fun member =>
    unknown ((conserved.accounted posting).mpr (Or.inl member))
  have nowhere : ∀ other, posting ∉ network.pending other := fun other member =>
    unknown ((conserved.accounted posting).mpr (Or.inr ⟨other, member⟩))
  have where_ : ∀ other message, message ∈ next.pending other ↔
      message ∈ network.pending other ∨ other = client ∧ message = posting := by
    intro other message
    rw [pending]
    by_cases here : other = client
    · subst here
      simp
    · rw [Function.update_of_ne here]
      simp [here]
  constructor
  · rw [posted, List.map_append, List.nodup_append]
    refine ⟨conserved.keys, by simp, ?_⟩
    intro key member other last same
    obtain ⟨old, before, rfl⟩ := List.mem_map.mp member
    simp only [List.map_cons, List.map_nil, List.mem_singleton] at last
    exact allocated old before (same.trans last)
  · rw [posted]
    intro message member
    rcases List.mem_append.mp member with old | new
    · exact conserved.fresh message old
    · rw [List.mem_singleton.mp new]
      exact unused
  · rw [delivered]
    exact conserved.delivered
  · intro other
    rw [pending]
    by_cases here : other = client
    · subst here
      rw [Function.update_self, List.nodup_append]
      refine ⟨conserved.pending other, by simp, ?_⟩
      rintro message member last new rfl
      rw [List.mem_singleton] at new
      exact nowhere other (new ▸ member)
    · rw [Function.update_of_ne here]
      exact conserved.pending other
  · intro other message member
    rw [delivered]
    rcases (where_ other message).mp member with old | ⟨-, rfl⟩
    · exact conserved.undelivered other message old
    · exact away
  · intro first second message inFirst inSecond
    rcases (where_ first message).mp inFirst with old | ⟨here, rfl⟩
    · rcases (where_ second message).mp inSecond with old' | ⟨-, rfl⟩
      · exact conserved.single first second message old old'
      · exact absurd old (nowhere first)
    · rcases (where_ second message).mp inSecond with old' | ⟨there, -⟩
      · exact absurd old' (nowhere second)
      · exact here.trans there.symm
  · intro message
    rw [posted, delivered, List.mem_append, List.mem_singleton, conserved.accounted]
    simp only [where_]
    constructor
    · rintro ((came | ⟨other, waits⟩) | rfl)
      · exact Or.inl came
      · exact Or.inr ⟨other, Or.inl waits⟩
      · exact Or.inr ⟨client, Or.inr ⟨rfl, rfl⟩⟩
    · rintro (came | ⟨other, waits | ⟨-, new⟩⟩)
      · exact Or.inl (Or.inl came)
      · exact Or.inl (Or.inr ⟨other, waits⟩)
      · exact Or.inr new
  · rw [stored, delivered]
    exact conserved.stored

theorem arrive {client : Nat} {posting : Posting} {rest : List Posting}
    (conserved : Conserved initial chat network) (waiting : network.pending client = posting :: rest)
    (posted : next.posted = network.posted)
    (delivered : next.delivered = network.delivered ++ [posting])
    (pending : next.pending = Function.update network.pending client rest)
    (applied : next.db = network.db.apply posting.messageWrite) :
    Conserved initial chat next := by
  have inside : posting ∈ network.pending client := by simp [waiting]
  have sent : posting ∈ network.posted := (conserved.accounted posting).mpr (Or.inr ⟨client, inside⟩)
  have away := conserved.undelivered client posting inside
  have once := conserved.pending client
  rw [waiting, List.nodup_cons] at once
  have left : ∀ other message, message ∈ next.pending other ↔
      message ∈ network.pending other ∧ message ≠ posting := by
    intro other message
    rw [pending]
    by_cases here : other = client
    · subst here
      rw [Function.update_self, waiting, List.mem_cons]
      constructor
      · intro member
        refine ⟨Or.inr member, ?_⟩
        rintro rfl
        exact once.1 member
      · rintro ⟨same | member, different⟩
        · exact absurd same different
        · exact member
    · rw [Function.update_of_ne here]
      refine (and_iff_left_of_imp ?_).symm
      rintro member rfl
      exact here (conserved.single other client message member inside)
  constructor
  · rw [posted]
    exact conserved.keys
  · rw [posted]
    exact conserved.fresh
  · rw [delivered, List.nodup_append]
    refine ⟨conserved.delivered, by simp, ?_⟩
    rintro message member last new rfl
    rw [List.mem_singleton] at new
    exact away (new ▸ member)
  · intro other
    rw [pending]
    by_cases here : other = client
    · subst here
      rw [Function.update_self]
      exact once.2
    · rw [Function.update_of_ne here]
      exact conserved.pending other
  · intro other message member
    obtain ⟨before, different⟩ := (left other message).mp member
    rw [delivered, List.mem_append, List.mem_singleton, not_or]
    exact ⟨conserved.undelivered other message before, different⟩
  · intro first second message inFirst inSecond
    exact conserved.single first second message ((left first message).mp inFirst).1
      ((left second message).mp inSecond).1
  · intro message
    rw [posted, delivered, conserved.accounted, List.mem_append, List.mem_singleton]
    simp only [left]
    by_cases same : message = posting
    · subst same
      exact iff_of_true (Or.inr ⟨client, inside⟩) (Or.inl (Or.inr rfl))
    · simp [same]
  · -- the message is stored under a key of its own
    have others : ∀ message ∈ (network.db chat).stored, message.key ≠ posting.message.key := by
      intro message member
      rcases List.mem_append.mp (conserved.stored.subset member) with old | came
      · exact conserved.fresh posting sent message old
      · obtain ⟨other, arrived, rfl⟩ := List.mem_map.mp came
        have before := List.mem_of_mem_filter arrived
        have known := (conserved.accounted other).mpr (Or.inl before)
        intro same
        refine away ?_
        rw [← List.inj_on_of_nodup_map conserved.keys known sent same]
        exact before
    rw [applied, delivered]
    by_cases here : interpolate posting.chatKey = chat
    · subst here
      have stored : (network.db.apply posting.messageWrite (interpolate posting.chatKey)).stored =
          put Messages.key posting.message
            (network.db (interpolate posting.chatKey)).stored := by
        exact congrArg Conversation.stored (network.db.apply_self posting.messageWrite)
      have grown : Network.within (interpolate posting.chatKey) (network.delivered ++ [posting]) =
          Network.within (interpolate posting.chatKey) network.delivered ++ [posting.message] := by
        simp [Network.within]
      rw [stored, grown, ← List.append_assoc]
      refine (put_perm others).trans ((conserved.stored.cons _).trans ?_)
      exact (List.perm_append_singleton _ _).symm
    · have grown : Network.within chat (network.delivered ++ [posting]) =
          Network.within chat network.delivered := by
        simp [Network.within, here]
      rw [grown, Database.apply_other _ _ (Ne.symm here)]
      exact conserved.stored

theorem carried (conserved : Conserved initial chat network) (fresh : action.Fresh initial)
    (taken : Network.Carried network action next) : Conserved initial chat next := by
  have outboxes : ∀ {client : Nat} {writes : List Write},
      next.outbox = Function.update network.outbox client writes →
      next.pending =
        Function.update network.pending client (writes.filterMap Write.posting) := by
    intro client writes outbox
    funext other
    by_cases here : other = client
    · subst here
      simp [Network.pending, outbox]
    · simp [Network.pending, outbox, Function.update_of_ne here]
  cases taken with
  | quiet db outbox posted arrived =>
    refine conserved.frame posted ?_ ?_ (by rw [db])
    · rw [Network.delivered, arrived, Network.delivered]
    · funext client
      rw [Network.pending, outbox, Network.pending]
  | @marked client writes seen db outbox posted arrived =>
    -- read markers are no messages
    have none : writes.filterMap Write.posting = [] := by
      refine List.filterMap_eq_nil_iff.mpr fun write member => ?_
      obtain ⟨id, key, field⟩ := seen write member
      obtain ⟨chatKey, _⟩ := write
      cases field
      rfl
    refine conserved.frame posted ?_ ?_ (by rw [db])
    · rw [Network.delivered, arrived, Network.delivered]
    · rw [outboxes outbox, List.filterMap_append, none, List.append_nil]
      exact Function.update_eq_self client network.pending
  | @posted client index act posting acts allocated unique db outbox posted arrived =>
    subst acts
    have pending : next.pending =
        Function.update network.pending client (network.pending client ++ [posting]) := by
      rw [outboxes outbox, List.filterMap_append]
      rfl
    refine conserved.post unique (fresh _ allocated) posted ?_ pending (by rw [db])
    rw [Network.delivered, arrived, Network.delivered]
  | @delivered client write rest waiting db outbox posted arrived =>
    cases stores : write.posting with
    | none =>
      refine conserved.frame posted ?_ ?_ ?_
      · simp [Network.delivered, arrived, stores]
      · rw [outboxes outbox]
        refine (Function.update_eq_self_iff (f := network.pending)).mpr ?_
        simp [Network.pending, waiting, stores]
      · rw [db, Database.stored_of_no_posting stores]
    | some posting =>
      obtain rfl := Write.posting_eq_some.mp stores
      refine conserved.arrive ?_ posted ?_ (outboxes outbox) db
      · simp [Network.pending, waiting]
      · simp [Network.delivered, arrived]

end Conserved

variable {owner : Nat → Nat} {db : Database} {users : Nat → Option Int} {chat : String}
  {actions : List NetworkAction} {final : Network}

theorem conserved_of_run (fresh : ∀ action ∈ actions, action.Fresh (db chat).stored)
    (reached : run (Network.step owner) (Network.start db users) actions = some final) :
    Conserved (db chat).stored chat final := by
  refine run_invariant (Conserved (db chat).stored chat) ?_ (Conserved.start db users)
    ((meets_iff_forall reached).mpr fresh) reached
  intro network action next conserved fresh taken
  exact conserved.carried fresh (Network.carried_of_step taken)

theorem Conserved.stored_perm {initial : List Messages} {network : Network}
    (conserved : Conserved initial chat network) (flushed : ∀ client, network.outbox client = []) :
    (network.db chat).stored.Perm (initial ++ Network.within chat network.posted) := by
  have none : ∀ client, network.pending client = [] := fun client => by
    simp [Network.pending, flushed client]
  have sent : network.delivered.Perm network.posted := by
    refine (List.perm_ext_iff_of_nodup conserved.delivered conserved.keys.of_map).mpr ?_
    intro posting
    rw [conserved.accounted]
    simp [none]
  exact conserved.stored.trans (((sent.filter _).map _).append_left _)

/-- Once all outboxes are empty, a conversation holds what it started with and every
message that was sent to it, each once. -/
theorem stored_of_flushed (fresh : ∀ action ∈ actions, action.Fresh (db chat).stored)
    (reached : run (Network.step owner) (Network.start db users) actions = some final)
    (flushed : ∀ client, final.outbox client = []) :
    (final.db chat).stored.Perm ((db chat).stored ++ Network.within chat final.posted) :=
  (conserved_of_run fresh reached).stored_perm flushed

theorem sendsInOrder_stored :
    ∃ final, run twoClients (Network.start (fun _ => Conversation.empty) fun _ => some 7)
        sendsInOrder = some final ∧
      (final.db "a").stored.Perm [⟨"k1", ⟨some "one", 1, 1⟩, 7⟩, ⟨"k2", ⟨some "two", 2, 1⟩, 7⟩] := by
  have found : (run twoClients (Network.start (fun _ => Conversation.empty) fun _ => some 7)
      sendsInOrder).any (fun final => decide ((final.outbox 0 = [] ∧ final.outbox 1 = []) ∧
        Network.within "a" final.posted =
          [⟨"k1", ⟨some "one", 1, 1⟩, 7⟩, ⟨"k2", ⟨some "two", 2, 1⟩, 7⟩])) = true := by decide
  obtain ⟨final, reached, test⟩ := exists_of_run found
  obtain ⟨⟨first, second⟩, posted⟩ := of_decide_eq_true test
  have flushed := twoClients_drained (fun _ => rfl) reached first second
  have stored := @stored_of_flushed _ _ _ "a" _ _ (by decide) reached flushed
  rw [posted] at stored
  exact ⟨final, reached, stored⟩

/-! ## The order of arrival -/

/-- Two runs, of whatever clients and in whatever order, that start with the same database
and send the same messages to a conversation leave the same log in it. -/
theorem stored_confluent {otherOwner : Nat → Nat} {otherUsers : Nat → Option Int}
    {otherActions : List NetworkAction} {other : Network}
    (fresh : ∀ action ∈ actions, action.Fresh (db chat).stored)
    (otherFresh : ∀ action ∈ otherActions, action.Fresh (db chat).stored)
    (reached : run (Network.step owner) (Network.start db users) actions = some final)
    (otherReached : run (Network.step otherOwner) (Network.start db otherUsers) otherActions =
      some other)
    (flushed : ∀ client, final.outbox client = [])
    (otherFlushed : ∀ client, other.outbox client = [])
    (same : (Network.within chat final.posted).Perm (Network.within chat other.posted)) :
    (final.db chat).stored = (other.db chat).stored := by
  have first := (conserved_of_run fresh reached).stored_perm flushed
  have second := (conserved_of_run otherFresh otherReached).stored_perm otherFlushed
  have equal : (final.db chat).stored.Perm (other.db chat).stored :=
    (first.trans (same.append_left _)).trans second.symm
  exact (final.db.stored_ordered chat).eq_of_perm (other.db.stored_ordered chat) equal

theorem overtakenSend_confluent :
    ∃ final other, run twoClients (Network.start (fun _ => Conversation.empty) fun _ => some 7)
        sendsInOrder = some final ∧
      run twoClients (Network.start (fun _ => Conversation.empty) fun _ => some 7)
        overtakenSend = some other ∧
      (final.db "a").stored = (other.db "a").stored := by
  have found : (run twoClients (Network.start (fun _ => Conversation.empty) fun _ => some 7)
      sendsInOrder).any (fun final => decide ((final.outbox 0 = [] ∧ final.outbox 1 = []) ∧
        Network.within "a" final.posted =
          [⟨"k1", ⟨some "one", 1, 1⟩, 7⟩, ⟨"k2", ⟨some "two", 2, 1⟩, 7⟩])) = true := by decide
  have otherFound : (run twoClients (Network.start (fun _ => Conversation.empty) fun _ => some 7)
      overtakenSend).any (fun final => decide ((final.outbox 0 = [] ∧ final.outbox 1 = []) ∧
        Network.within "a" final.posted =
          [⟨"k1", ⟨some "one", 1, 1⟩, 7⟩, ⟨"k2", ⟨some "two", 2, 1⟩, 7⟩])) = true := by decide
  obtain ⟨final, reached, test⟩ := exists_of_run found
  obtain ⟨other, otherReached, otherTest⟩ := exists_of_run otherFound
  obtain ⟨⟨first, second⟩, posted⟩ := of_decide_eq_true test
  obtain ⟨⟨third, fourth⟩, otherPosted⟩ := of_decide_eq_true otherTest
  have flushed := twoClients_drained (fun _ => rfl) reached first second
  have otherFlushed := twoClients_drained (fun _ => rfl) otherReached third fourth
  refine ⟨final, other, reached, otherReached, ?_⟩
  exact @stored_confluent _ _ _ "a" _ _ _ _ _ _ (by decide) (by decide) reached otherReached
    flushed otherFlushed (posted.trans otherPosted.symm ▸ List.Perm.refl _)

/-! ## Nothing is made up -/

def Network.Told (db : Database) (network : Network) (chat : String) (message : Messages) : Prop :=
  message ∈ (db chat).stored ∨ message ∈ Network.within chat network.posted

structure Honest (db : Database) (network : Network) : Prop where
  posted : Posted network
  stored : ∀ chat, ∀ message ∈ (network.db chat).stored, network.Told db chat message
  sourced : ∀ index,
    Sourced (fun key message => network.Told db (interpolate key) message) (network.widgets index)
  shown : ∀ index, ∀ message ∈ (network.widgets index).messages,
    ∃ key, network.Told db (interpolate key) message

namespace Honest

variable {owner : Nat → Nat} {network next : Network} {action : NetworkAction}

theorem start (db : Database) (users : Nat → Option Int) : Honest db (Network.start db users) :=
  ⟨Posted.start db users, fun _ _ => Or.inl, fun _ => Sourced.start, by simp [Network.start]⟩

theorem told_mono (posted : network.posted ⊆ next.posted) {chat : String} {message : Messages}
    (told : network.Told db chat message) : next.Told db chat message := by
  refine told.imp_right fun sent => ?_
  obtain ⟨posting, inside, rfl⟩ := List.mem_map.mp sent
  obtain ⟨member, here⟩ := List.mem_filter.mp inside
  exact List.mem_map_of_mem (List.mem_filter.mpr ⟨posted member, here⟩)

theorem update {index : Nat} {widget : ChatWidgetState} (honest : Honest db network)
    (posted : Posted next) (more : network.posted ⊆ next.posted) (same : next.db = network.db)
    (widgets : next.widgets = Function.update network.widgets index widget)
    (sourced : Sourced (fun key message => next.Told db (interpolate key) message) widget)
    (shown : ∀ message ∈ widget.messages, ∃ key, next.Told db (interpolate key) message) :
    Honest db next := by
  constructor
  · exact posted
  · rw [same]
    exact fun chat message member => told_mono more (honest.stored chat message member)
  · intro other
    rw [widgets]
    by_cases here : other = index
    · subst here
      rwa [Function.update_self]
    · rw [Function.update_of_ne here]
      exact (honest.sourced other).mono fun key message => told_mono more
  · intro other message
    rw [widgets]
    by_cases here : other = index
    · subst here
      rw [Function.update_self]
      exact shown message
    · rw [Function.update_of_ne here]
      intro member
      obtain ⟨key, told⟩ := honest.shown other message member
      exact ⟨key, told_mono more told⟩

theorem deliver {write : Write} {client : Nat} {rest : List Write} (honest : Honest db network)
    (waiting : network.outbox client = write :: rest) (posted : Posted next)
    (same : next.posted = network.posted) (applied : next.db = network.db.apply write)
    (widgets : next.widgets = network.notify write) : Honest db next := by
  have backed := honest.posted.queued client write (by simp [waiting])
  have more : network.posted ⊆ next.posted := by rw [same]; exact List.Subset.refl _
  cases stores : write.posting with
  | none =>
    have still : next.widgets = network.widgets := by
      funext index
      simp [widgets, Network.notify, stores]
    refine ⟨posted, ?_, ?_, ?_⟩
    · intro chat message
      rw [applied, Database.stored_of_no_posting stores]
      exact fun member => told_mono more (honest.stored chat message member)
    · rw [still]
      exact fun index => (honest.sourced index).mono fun key message => told_mono more
    · rw [still]
      intro index message member
      obtain ⟨key, told⟩ := honest.shown index message member
      exact ⟨key, told_mono more told⟩
  | some posting =>
    obtain rfl := Write.posting_eq_some.mp stores
    have told : next.Told db (interpolate posting.chatKey) posting.message := by
      refine Or.inr (List.mem_map_of_mem (List.mem_filter.mpr ⟨?_, by simp⟩))
      exact more backed.posting
    have notified : ∀ index, next.widgets index = network.widgets index ∨ next.widgets index =
        (network.widgets index).onStored (interpolate posting.chatKey) posting.message := by
      intro index
      rw [widgets]
      simp only [Network.notify, stores]
      split
      · exact Or.inr rfl
      · exact Or.inl rfl
    refine ⟨posted, ?_, ?_, ?_⟩
    · intro chat message member
      rw [applied, Database.stored_messageWrite] at member
      split at member
      · next here =>
        subst here
        rcases member with rfl | ⟨old, -⟩
        · exact told
        · exact told_mono more (honest.stored _ message old)
      · exact told_mono more (honest.stored chat message member)
    · intro index
      have before : Sourced (fun key message => next.Told db (interpolate key) message)
          (network.widgets index) :=
        (honest.sourced index).mono fun key message => told_mono more
      rcases notified index with quiet | heard
      · rwa [quiet]
      · rw [heard]
        exact before.onStored fun key here => here ▸ told
    · intro index message member
      have kept : (next.widgets index).messages = (network.widgets index).messages := by
        rcases notified index with quiet | heard
        · rw [quiet]
        · rw [heard]
          rfl
      obtain ⟨key, told⟩ := honest.shown index message (kept ▸ member)
      exact ⟨key, told_mono more told⟩

theorem step (honest : Honest db network) (taken : network.step owner action = some next) :
    Honest db next := by
  have posted := honest.posted.carried (Network.carried_of_step taken)
  cases action with
  | setUser client user =>
    cases taken
    exact ⟨posted, honest.stored, honest.sourced, honest.shown⟩
  | chatKey index key =>
    simp only [Network.step] at taken
    split at taken
    · cases taken
      refine honest.update posted (List.Subset.refl _) rfl rfl (honest.sourced index).onChatKey ?_
      rw [ChatWidgetState.onChatKey_messages]
      exact honest.shown index
    · cases taken
  | widget index act =>
    simp only [Network.step] at taken
    split at taken
    · split at taken
      · next widget writes stepped =>
        cases taken
        have moved := ChatWidgetState.stepped_of_step stepped
        have more : network.posted ⊆ network.posted ++ writes.filterMap Write.posting :=
          List.subset_append_left _ _
        have sourced := (honest.sourced index).stepped
          (fun key message member => honest.stored _ message member) moved
        refine honest.update posted more rfl rfl
          (sourced.mono fun key message => told_mono more) fun message member => ?_
        rcases (honest.sourced index).messages moved message member with old | ⟨key, told⟩
        · obtain ⟨key, told⟩ := honest.shown index message old
          exact ⟨key, told_mono more told⟩
        · exact ⟨key, told_mono more told⟩
      · cases taken
    · cases taken
  | dispose index =>
    simp only [Network.step] at taken
    split at taken
    · cases taken
      exact honest.update posted (List.Subset.refl _) rfl rfl (honest.sourced index).dispose
        (honest.shown index)
    · cases taken
  | deliver client =>
    simp only [Network.step] at taken
    split at taken
    · next write rest waiting =>
      cases taken
      exact honest.deliver waiting posted rfl rfl rfl
    · cases taken

end Honest

/-- A message on any display was stored at the start, or a client sent it, with this
sender, content, type and time. -/
theorem shown_was_sent
    (reached : run (Network.step owner) (Network.start db users) actions = some final)
    (index : Nat) {message : Messages} (shown : message ∈ (final.widgets index).messages) :
    (∃ chat, message ∈ (db chat).stored) ∨ ∃ posting ∈ final.posted, posting.message = message := by
  have honest := run_invariant_of_step (Honest db) (fun _ _ _ honest taken => honest.step taken)
    (Honest.start db users) reached
  obtain ⟨key, told⟩ := honest.shown index message shown
  refine told.imp (fun stored => ⟨_, stored⟩) fun sent => ?_
  obtain ⟨posting, inside, same⟩ := List.mem_map.mp sent
  exact ⟨posting, List.mem_of_mem_filter inside, same⟩

def heardFromOther : List NetworkAction :=
  opened ++ [.widget 0 (.subscribed 0), .widget 1 (.send "two" 2 "k2"), .deliver 1,
    .widget 0 (.childAdded 0)]

theorem heardFromOther_sent :
    ∃ final, run twoClients (Network.start (fun _ => Conversation.empty) fun _ => some 7)
        heardFromOther = some final ∧
      ((∃ chat : String, (⟨"k2", ⟨some "two", 2, 1⟩, 7⟩ : Messages) ∈
          ((fun _ => Conversation.empty : Database) chat).stored) ∨
        ∃ posting ∈ final.posted, posting.message = ⟨"k2", ⟨some "two", 2, 1⟩, 7⟩) := by
  have found : (run twoClients (Network.start (fun _ => Conversation.empty) fun _ => some 7)
      heardFromOther).any (fun final => decide ((⟨"k2", ⟨some "two", 2, 1⟩, 7⟩ : Messages) ∈
        (final.widgets 0).messages)) = true := by decide
  obtain ⟨final, reached, test⟩ := exists_of_run found
  exact ⟨final, reached, shown_was_sent reached 0 (of_decide_eq_true test)⟩

/-! ## Nothing on display goes away -/

def NetworkAction.reloads (index : Nat) : NetworkAction → Bool
  | .widget other (.firstReadDone _ _) => other = index
  | _ => false

/-- Pages go in front of the messages and events behind them. -/
theorem ChatWidgetState.Stepped.messages_kept {db : Database} {user : Option Int}
    {widget next : ChatWidgetState} {action : WidgetAction} {writes : List Write}
    (taken : Stepped db user widget action next writes)
    (kept : ∀ index response, action ≠ .firstReadDone index response) :
    widget.messages <:+: next.messages := by
  cases taken with
  | @firstReadDone index chatKey response => exact absurd rfl (kept index response)
  | childAdded found mounted handled =>
    rw [listenToRealTimeChat_messages handled]
    exact (List.prefix_append _ _).isInfix
  | @previousReadDone index chatKey bound response =>
    rw [listenToPreviousChat_messages]
    exact (List.suffix_append _ _).isInfix
  | _ => exact List.infix_refl _

theorem Network.messages_kept_of_step {network next : Network} {action : NetworkAction}
    {index : Nat} (kept : action.reloads index = false) (taken : network.step owner action = some next) :
    (network.widgets index).messages <:+: (next.widgets index).messages := by
  cases action with
  | setUser client user =>
    cases taken
    exact List.infix_refl _
  | chatKey other key =>
    simp only [step] at taken
    split at taken
    · cases taken
      by_cases here : index = other
      · subst here
        simp only [Function.update_self, ChatWidgetState.onChatKey_messages]
        exact List.infix_refl _
      · simp only [Function.update_of_ne here]
        exact List.infix_refl _
    · cases taken
  | widget other act =>
    simp only [step] at taken
    split at taken
    · split at taken
      · next widget writes stepped =>
        cases taken
        by_cases here : index = other
        · subst here
          simp only [Function.update_self]
          refine (ChatWidgetState.stepped_of_step stepped).messages_kept ?_
          rintro read response rfl
          simp [NetworkAction.reloads] at kept
        · simp only [Function.update_of_ne here]
          exact List.infix_refl _
      · cases taken
    · cases taken
  | dispose other =>
    simp only [step] at taken
    split at taken
    · cases taken
      by_cases here : index = other
      · subst here
        simp only [Function.update_self]
        exact List.infix_refl _
      · simp only [Function.update_of_ne here]
        exact List.infix_refl _
    · cases taken
  | deliver client =>
    simp only [step] at taken
    split at taken
    · next write rest waiting =>
      cases taken
      simp only [notify]
      split
      · split
        · exact List.infix_refl _
        · exact List.infix_refl _
      · exact List.infix_refl _
    · cases taken

/-- From any state on and in any order of steps, the messages on display stay there, side
by side and in their order, until the load of another conversation is through. -/
theorem shown_stays {network final : Network} {actions : List NetworkAction} {index : Nat}
    (kept : ∀ action ∈ actions, action.reloads index = false)
    (reached : run (Network.step owner) network actions = some final) :
    (network.widgets index).messages <:+: (final.widgets index).messages := by
  refine run_invariant
    (fun state => (network.widgets index).messages <:+: (state.widgets index).messages) ?_
    (List.infix_refl _) ((meets_iff_forall reached).mpr kept) reached
  intro state action next shown kept taken
  exact shown.trans (Network.messages_kept_of_step kept taken)

def heardOnceMore : List NetworkAction :=
  [.deliver 1, .deliver 1, .widget 1 (.send "three" 3 "k3"), .deliver 1, .widget 0 (.childAdded 0)]

theorem heardOnceMore_stays :
    ∃ heard final, run twoClients (Network.start (fun _ => Conversation.empty) fun _ => some 7)
        heardFromOther = some heard ∧ run twoClients heard heardOnceMore = some final ∧
      ((heard.widgets 0).messages.map Messages.key = ["k2"] ∧
        (final.widgets 0).messages.map Messages.key = ["k2", "k3"]) ∧
      (heard.widgets 0).messages <:+: (final.widgets 0).messages := by
  have found : (run twoClients (Network.start (fun _ => Conversation.empty) fun _ => some 7)
      heardFromOther).any (fun heard => (run twoClients heard heardOnceMore).any fun final =>
        decide ((heard.widgets 0).messages.map Messages.key = ["k2"] ∧
          (final.widgets 0).messages.map Messages.key = ["k2", "k3"])) = true := by decide
  obtain ⟨heard, reached, rest⟩ := exists_of_run found
  obtain ⟨final, onward, test⟩ := exists_of_run rest
  exact ⟨heard, final, reached, onward, of_decide_eq_true test,
    @shown_stays _ _ _ heardOnceMore 0 (by decide) onward⟩

end SparSomnong.Chat
