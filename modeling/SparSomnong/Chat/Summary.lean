import SparSomnong.Chat.Network

/-! The summary of a conversation: `lastMessage` and `lastTimeStamp`.

Each send writes its message before it quotes it, and push keys are unique, so
the summary always quotes a stored message. It quotes the newest one once all
writes have arrived exactly when the writes of the newest send arrive last.
-/

set_option autoImplicit false

namespace SparSomnong.Chat

open Semantics

/-- The summary is that of the message with the greatest key. -/
def Conversation.SummaryNewest (conversation : Conversation) : Prop :=
  ∀ newest ∈ conversation.stored, (∀ message ∈ conversation.stored, message.key ≤ newest.key) →
    conversation.lastMessage =
        some ⟨newest.message.data, newest.key, newest.message.type⟩ ∧
      conversation.lastTimeStamp = some newest.message.lastTimeStamp

instance (conversation : Conversation) : Decidable conversation.SummaryNewest :=
  inferInstanceAs (Decidable (∀ _ ∈ _, _ → _))

/-! ## One write -/

theorem Database.stored_messageWrite (db : Database) (posting : Posting) (chat : String)
    (message : Messages) : message ∈ (db.apply posting.messageWrite chat).stored ↔
      if chat = interpolate posting.chatKey then
        message = posting.message ∨
          (message ∈ (db chat).stored ∧ message.key ≠ posting.message.key)
      else message ∈ (db chat).stored := by
  by_cases here : chat = interpolate posting.chatKey
  · subst here
    have applied : db.apply posting.messageWrite (interpolate posting.chatKey) = _ :=
      db.apply_self posting.messageWrite
    rw [applied, if_pos rfl]
    exact Log.mem_put
  · rw [if_neg here, db.apply_other posting.messageWrite here]

theorem Database.stored_of_no_posting {db : Database} {write : Write}
    (none : write.posting = none) (chat : String) :
    (db.apply write chat).stored = (db chat).stored := by
  rw [db.apply_eq]
  split
  · obtain ⟨chatKey, field⟩ := write
    cases field with
    | message key value userId => simp [Write.posting] at none
    | _ => rfl
  · rfl

def Write.quoteIn (chat : String) (write : Write) : Option LastMessage :=
  if interpolate write.chatKey = chat then
    match write.field with
    | .lastMessage last => some last
    | _ => none
  else none

def Write.stampIn (chat : String) (write : Write) : Option Int :=
  if interpolate write.chatKey = chat then
    match write.field with
    | .lastTimeStamp time => some time
    | _ => none
  else none

theorem Database.lastMessage_apply (db : Database) (write : Write) (chat : String) :
    (db.apply write chat).lastMessage = (write.quoteIn chat).or (db chat).lastMessage := by
  rw [db.apply_eq, Write.quoteIn]
  split
  · cases write.field <;> simp [Conversation.apply]
  · rfl

theorem Database.lastTimeStamp_apply (db : Database) (write : Write) (chat : String) :
    (db.apply write chat).lastTimeStamp = (write.stampIn chat).or (db chat).lastTimeStamp := by
  rw [db.apply_eq, Write.stampIn]
  split
  · cases write.field <;> simp [Conversation.apply]
  · rfl

theorem Write.quoteIn_eq_some {chat : String} {write : Write} {last : LastMessage} :
    write.quoteIn chat = some last ↔
      interpolate write.chatKey = chat ∧ write.field = .lastMessage last := by
  obtain ⟨chatKey, field⟩ := write
  cases field <;> simp [Write.quoteIn]

theorem Write.stampIn_eq_some {chat : String} {write : Write} {time : Int} :
    write.stampIn chat = some time ↔
      interpolate write.chatKey = chat ∧ write.field = .lastTimeStamp time := by
  obtain ⟨chatKey, field⟩ := write
  cases field <;> simp [Write.stampIn]

/-! ## The summary quotes a stored message -/

/-- Each summary in an outbox quotes a known posting, or one written before it in
the same outbox. -/
def Announced (Known : Posting → Prop) : List Write → Prop
  | [] => True
  | write :: rest =>
    (∀ last, write.field = .lastMessage last →
      ∃ posting, Known posting ∧ posting.chatKey = write.chatKey ∧ posting.quote = last) ∧
    Announced (fun posting => Known posting ∨ write = posting.messageWrite) rest

namespace Announced

variable {Known Wider : Posting → Prop} {writes : List Write}

theorem mono (announced : Announced Known writes) (implies : ∀ posting, Known posting → Wider posting) :
    Announced Wider writes := by
  induction writes generalizing Known Wider with
  | nil => trivial
  | cons write rest ih =>
    refine ⟨fun last quotes => ?_, ih announced.2 fun posting => Or.imp_left (implies posting)⟩
    obtain ⟨posting, known, facts⟩ := announced.1 last quotes
    exact ⟨posting, implies posting known, facts⟩

theorem append {more : List Write} (announced : Announced Known writes)
    (later : Announced Known more) : Announced Known (writes ++ more) := by
  induction writes generalizing Known with
  | nil => exact later
  | cons write rest ih => exact ⟨announced.1, ih announced.2 (later.mono fun _ => Or.inl)⟩

theorem markers (seen : ∀ write ∈ writes, ∃ id key, write.field = .lastSeen id key) :
    Announced Known writes := by
  induction writes generalizing Known with
  | nil => trivial
  | cons write rest ih =>
    refine ⟨fun last quotes => ?_, ih fun other member => seen other (by simp [member])⟩
    obtain ⟨id, key, field⟩ := seen write (by simp)
    simp [quotes] at field

/-- A send writes its message first. -/
theorem posting (posting : Posting) : Announced Known posting.writes := by
  rw [posting.writes_eq]
  refine ⟨by simp [Posting.messageWrite], ?_, by simp, trivial⟩
  rintro last quotes
  cases quotes
  exact ⟨posting, Or.inr rfl, rfl, rfl⟩

end Announced

/-- A write of an outbox is part of a posting, or a read marker. -/
def Backed (posted : List Posting) (write : Write) : Prop :=
  (∃ id key, write.field = .lastSeen id key) ∨ ∃ posting ∈ posted, write ∈ posting.writes

theorem Backed.mono {posted more : List Posting} {write : Write} (backed : Backed posted write)
    (subset : posted ⊆ more) : Backed more write :=
  backed.imp_right fun ⟨posting, member, part⟩ => ⟨posting, subset member, part⟩

theorem Backed.posting {posted : List Posting} {posting : Posting}
    (backed : Backed posted posting.messageWrite) : posting ∈ posted := by
  rcases backed with ⟨id, key, field⟩ | ⟨other, member, part⟩
  · simp [Posting.messageWrite] at field
  · rw [other.writes_eq] at part
    simp only [List.mem_cons, List.not_mem_nil, or_false] at part
    rcases part with same | wrong | wrong
    · have found := congrArg Write.posting same
      simp only [Posting.posting_messageWrite, Option.some.injEq] at found
      exact found ▸ member
    · simp [Posting.messageWrite] at wrong
    · simp [Posting.messageWrite] at wrong

theorem announced_update {known : Posting → Prop} {outbox : Nat → List Write} {client : Nat}
    {writes : List Write} (own : Announced known writes)
    (others : ∀ other, Announced known (outbox other)) (other : Nat) :
    Announced known (Function.update outbox client writes other) := by
  by_cases here : other = client
  · subst here
    rw [Function.update_self]
    exact own
  · rw [Function.update_of_ne here]
    exact others other

/-- What the outboxes and the database have to do with what was sent. -/
structure Posted (network : Network) : Prop where
  unique : ∀ first ∈ network.posted, ∀ second ∈ network.posted,
    first.message.key = second.message.key → first = second
  queued : ∀ client, ∀ write ∈ network.outbox client, Backed network.posted write

namespace Posted

variable {network next : Network} {action : NetworkAction}

theorem start (db : Database) (users : Nat → Option Int) : Posted (Network.start db users) :=
  ⟨by simp [Network.start], by simp [Network.start]⟩

theorem carried (posted : Posted network) (taken : Network.Carried network action next) :
    Posted next := by
  cases taken with
  | quiet db outbox same arrived =>
    constructor
    · rw [same]
      exact posted.unique
    · rw [same, outbox]
      exact posted.queued
  | @marked client writes seen db outbox same arrived =>
    constructor
    · rw [same]
      exact posted.unique
    · rw [same, outbox]
      intro other write member
      rcases Network.mem_outbox_added member with old | new
      · exact posted.queued other write old
      · exact Or.inl (seen write new)
  | @posted client index act posting _ allocated fresh db outbox same arrived =>
    constructor
    · rw [same]
      intro first inFirst second inSecond equal
      rw [List.mem_append, List.mem_singleton] at inFirst inSecond
      rcases inFirst with old | rfl
      · rcases inSecond with old' | rfl
        · exact posted.unique first old second old' equal
        · exact absurd equal (fresh first old)
      · rcases inSecond with old' | rfl
        · exact absurd equal.symm (fresh second old')
        · rfl
    · rw [same, outbox]
      intro other write member
      rcases Network.mem_outbox_added member with old | new
      · exact (posted.queued other write old).mono (List.subset_append_left _ _)
      · exact Or.inr ⟨posting, by simp, new⟩
  | @delivered client write rest waiting db outbox same arrived =>
    constructor
    · rw [same]
      exact posted.unique
    · rw [same, outbox]
      exact fun other _ member => posted.queued other _ (Network.mem_outbox_left waiting member)

/-- A posting that is stored stays stored: another one has another key. -/
theorem stored_apply {write : Write} {posting : Posting} {chat : String} (posted : Posted network)
    (backed : Backed network.posted write) (member : posting ∈ network.posted)
    (stored : posting.message ∈ (network.db chat).stored) :
    posting.message ∈ (network.db.apply write chat).stored := by
  cases other : write.posting with
  | none =>
    rw [Database.stored_of_no_posting other]
    exact stored
  | some newer =>
    obtain rfl := Write.posting_eq_some.mp other
    rw [Database.stored_messageWrite]
    split
    · by_cases same : posting.message.key = newer.message.key
      · exact Or.inl (congrArg Posting.message (posted.unique _ member _ backed.posting same))
      · exact Or.inr ⟨stored, same⟩
    · exact stored

end Posted

/-- A posting whose message is in the database. -/
def Network.Known (network : Network) (posting : Posting) : Prop :=
  posting ∈ network.posted ∧ posting.message ∈ (network.db (interpolate posting.chatKey)).stored

structure Quoting (chat : String) (network : Network) : Prop where
  posted : Posted network
  announced : ∀ client, Announced network.Known (network.outbox client)
  summary : ∀ last, (network.db chat).lastMessage = some last →
    ∃ posting, network.Known posting ∧ interpolate posting.chatKey = chat ∧ posting.quote = last

namespace Quoting

variable {chat : String} {network next : Network} {action : NetworkAction}

theorem carried (quoting : Quoting chat network) (taken : Network.Carried network action next) :
    Quoting chat next := by
  have posted := quoting.posted.carried taken
  cases taken with
  | quiet db outbox same arrived =>
    have known : next.Known = network.Known := by
      funext posting
      simp only [Network.Known, same, db]
    refine ⟨posted, ?_, ?_⟩
    · rw [known, outbox]
      exact quoting.announced
    · rw [known, db]
      exact quoting.summary
  | @marked client writes seen db outbox same arrived =>
    have known : next.Known = network.Known := by
      funext posting
      simp only [Network.Known, same, db]
    refine ⟨posted, ?_, ?_⟩
    · rw [known, outbox]
      exact announced_update ((quoting.announced client).append (Announced.markers seen))
        quoting.announced
    · rw [known, db]
      exact quoting.summary
  | @posted client index act posting _ allocated fresh db outbox same arrived =>
    have known : ∀ posting, network.Known posting → next.Known posting := by
      intro posting before
      constructor
      · rw [same]
        exact List.mem_append_left _ before.1
      · rw [db]
        exact before.2
    refine ⟨posted, ?_, ?_⟩
    · rw [outbox]
      have others := fun other => (quoting.announced other).mono known
      exact announced_update ((others client).append (Announced.posting posting)) others
    · rw [db]
      intro last present
      obtain ⟨posting, before, facts⟩ := quoting.summary last present
      exact ⟨posting, known posting before, facts⟩
  | @delivered client write rest waiting db outbox same arrived =>
    have backed := quoting.posted.queued client write (by simp [waiting])
    have known : ∀ posting, network.Known posting → next.Known posting := by
      intro posting before
      refine ⟨same ▸ before.1, ?_⟩
      rw [db]
      exact quoting.posted.stored_apply backed before.1 before.2
    -- the write that arrives was announced by what arrived before it
    have head := quoting.announced client
    rw [waiting] at head
    refine ⟨posted, ?_, ?_⟩
    · rw [outbox]
      refine announced_update ?_ fun other => (quoting.announced other).mono known
      refine head.2.mono fun posting either => either.elim (known posting) fun stored => ?_
      subst stored
      refine ⟨same ▸ backed.posting, ?_⟩
      rw [db, Database.stored_messageWrite, if_pos rfl]
      exact Or.inl rfl
    · rw [db]
      intro last present
      rw [Database.lastMessage_apply] at present
      rcases Option.or_eq_some_iff.mp present with set | ⟨-, kept⟩
      · obtain ⟨here, field⟩ := Write.quoteIn_eq_some.mp set
        obtain ⟨posting, before, key, quote⟩ := head.1 last field
        exact ⟨posting, known posting before, by rw [key, here], quote⟩
      · obtain ⟨posting, before, facts⟩ := quoting.summary last kept
        exact ⟨posting, known posting before, facts⟩

end Quoting

/-- In every state between two writes, the summary quotes a stored message. -/
theorem summary_quotes_stored {owner : Nat → Nat} {db : Database} {users : Nat → Option Int}
    {actions : List NetworkAction} {final : Network} {chat : String}
    (unquoted : (db chat).lastMessage = none)
    (reached : run (Network.step owner) (Network.start db users) actions = some final) :
    (final.db chat).QuotesStored := by
  have start : Quoting chat (Network.start db users) := by
    refine ⟨Posted.start db users, fun _ => trivial, fun last present => ?_⟩
    have absent : (db chat).lastMessage = some last := present
    simp [unquoted] at absent
  have quoting := run_invariant_of_step (Quoting chat)
    (fun _ _ _ quoting taken => quoting.carried (Network.carried_of_step taken)) start reached
  intro last present
  obtain ⟨posting, known, rfl, rfl⟩ := quoting.summary last present
  exact ⟨posting.message, known.2, rfl, rfl, rfl⟩

def opened : List NetworkAction :=
  [.chatKey 0 (some "a"), .widget 0 (.firstReadServed 0), .widget 0 (.firstReadDone 0 []),
   .chatKey 1 (some "a"), .widget 1 (.firstReadServed 0), .widget 1 (.firstReadDone 0 [])]

def interleavedWrites : List NetworkAction :=
  opened ++ [.widget 0 (.choose .gallery), .widget 1 (.send "hi" 1 "k1"),
   .widget 0 (.uploadDone 0 (.replied 200 ⟨some "success", some ⟨some "p.jpg"⟩⟩) 2 "k2"),
   .deliver 1, .deliver 0, .deliver 0, .deliver 1]

theorem interleavedWrites_quote :
    ∃ final, run (Network.step id) (Network.start (fun _ => Conversation.empty) fun _ => some 7)
        interleavedWrites = some final ∧
      (final.db "a").lastMessage = some ⟨some "hi", "k1", 1⟩ ∧ (final.db "a").QuotesStored := by
  have found : (run (Network.step id) (Network.start (fun _ => Conversation.empty) fun _ => some 7)
      interleavedWrites).any (fun final => decide
        ((final.db "a").lastMessage = some ⟨some "hi", "k1", 1⟩)) = true := by decide
  obtain ⟨final, reached, test⟩ := exists_of_run found
  exact ⟨final, reached, of_decide_eq_true test, summary_quotes_stored rfl reached⟩

/-! ## The summary is that of the newest message -/

/-- Every push key is above the keys `base` the conversation started with. -/
def Network.PushedAbove (base : List Messages) (_ : Network) : NetworkAction → Prop
  | .widget _ action => ∀ key ∈ action.newKey, ∀ message ∈ base, message.key < key
  | _ => True

/-- Of the writes to `chat`, the summary of the newest posting arrives after every
other summary, and the last time to arrive is its time. -/
def Network.NewestArrivesLast (chat : String) (network : Network) : Prop :=
  ∀ newest ∈ network.posted, interpolate newest.chatKey = chat →
    (∀ other ∈ network.posted, interpolate other.chatKey = chat →
      other.message.key ≤ newest.message.key) →
    ((network.arrived.filterMap (Write.quoteIn chat)).getLast?).map LastMessage.key =
        some newest.message.key ∧
      (network.arrived.filterMap (Write.stampIn chat)).getLast? =
        some newest.message.message.lastTimeStamp

structure Ledger (initial : Conversation) (chat : String) (network : Network) : Prop where
  posted : Posted network
  above : ∀ posting ∈ network.posted, ∀ message ∈ initial.stored,
    message.key < posting.message.key
  arrived : ∀ write ∈ network.arrived, Backed network.posted write
  pending : ∀ posting ∈ network.posted, ∀ write ∈ posting.writes,
    write ∈ network.arrived ∨ ∃ client, write ∈ network.outbox client
  stored : ∀ message, message ∈ (network.db chat).stored ↔ message ∈ initial.stored ∨
    ∃ posting : Posting, posting.messageWrite ∈ network.arrived ∧
      interpolate posting.chatKey = chat ∧ posting.message = message
  quotes : (network.db chat).lastMessage =
    (network.arrived.filterMap (Write.quoteIn chat)).getLast?.or initial.lastMessage
  stamps : (network.db chat).lastTimeStamp =
    (network.arrived.filterMap (Write.stampIn chat)).getLast?.or initial.lastTimeStamp

namespace Ledger

variable {initial : Conversation} {chat : String} {network next : Network}
  {action : NetworkAction}

theorem start (db : Database) (users : Nat → Option Int) :
    Ledger (db chat) chat (Network.start db users) :=
  ⟨Posted.start db users, by simp [Network.start], by simp [Network.start],
    by simp [Network.start], by simp [Network.start], by simp [Network.start],
    by simp [Network.start]⟩

theorem getLast_or_concat {α : Type} (set : Write → Option α) (arrived : List Write)
    (write : Write) (before : Option α) :
    ((arrived ++ [write]).filterMap set).getLast?.or before =
      (set write).or ((arrived.filterMap set).getLast?.or before) := by
  cases value : set write <;> simp [List.filterMap_append, value]

theorem getLast_filterMap {α : Type} {set : Write → Option α} {arrived : List Write}
    {write : Write} {value : α} (came : write ∈ arrived) (sets : set write = some value) :
    ∃ last, (arrived.filterMap set).getLast? = some last := by
  have inside := List.mem_filterMap.mpr ⟨write, came, sets⟩
  exact ⟨_, List.getLast?_eq_some_getLast (List.ne_nil_of_mem inside)⟩

theorem stored_apply {write : Write} (ledger : Ledger initial chat network)
    (backed : Backed network.posted write) (message : Messages) :
    message ∈ (network.db.apply write chat).stored ↔ message ∈ initial.stored ∨
      ∃ posting : Posting, posting.messageWrite ∈ network.arrived ++ [write] ∧
        interpolate posting.chatKey = chat ∧ posting.message = message := by
  cases stores : write.posting with
  | none =>
    have other : ∀ posting : Posting, posting.messageWrite ≠ write := by
      rintro posting rfl
      simp at stores
    rw [Database.stored_of_no_posting stores, ledger.stored]
    simp [other]
  | some newer =>
    obtain rfl := Write.posting_eq_some.mp stores
    have member := backed.posting
    rw [Database.stored_messageWrite]
    split
    · next here =>
      constructor
      · rintro (rfl | ⟨old, -⟩)
        · exact Or.inr ⟨newer, by simp, here.symm, rfl⟩
        · refine ((ledger.stored message).mp old).imp_right fun ⟨posting, before, facts⟩ => ?_
          exact ⟨posting, List.mem_append_left _ before, facts⟩
      · intro present
        by_cases same : message.key = newer.message.key
        · -- the keys of postings are unique and above the initial ones
          rcases present with old | ⟨posting, came, -, rfl⟩
          · exact absurd same (ledger.above newer member message old).ne
          · have inside : posting ∈ network.posted := by
              rcases List.mem_append.mp came with before | now
              · exact (ledger.arrived _ before).posting
              · exact (List.mem_singleton.mp now ▸ backed).posting
            exact Or.inl (congrArg Posting.message (ledger.posted.unique _ inside _ member same))
        · refine Or.inr ⟨(ledger.stored message).mpr ?_, same⟩
          refine present.imp_right fun ⟨posting, came, facts⟩ => ⟨posting, ?_, facts⟩
          refine (List.mem_append.mp came).resolve_right fun now => same ?_
          have equal := congrArg Write.posting (List.mem_singleton.mp now)
          simp only [Posting.posting_messageWrite, Option.some.injEq] at equal
          rw [← facts.2, equal]
    · next elsewhere =>
      rw [ledger.stored]
      refine or_congr_right ⟨fun ⟨posting, before, facts⟩ => ?_, fun ⟨posting, came, facts⟩ => ?_⟩
      · exact ⟨posting, List.mem_append_left _ before, facts⟩
      · refine ⟨posting, (List.mem_append.mp came).resolve_right fun now => elsewhere ?_, facts⟩
        rw [← facts.1]
        exact congrArg (fun w => interpolate (Write.chatKey w)) (List.mem_singleton.mp now)

theorem carried (ledger : Ledger initial chat network)
    (above : network.PushedAbove initial.stored action)
    (taken : Network.Carried network action next) : Ledger initial chat next := by
  have posted := ledger.posted.carried taken
  cases taken with
  | quiet db outbox same arrived =>
    refine ⟨posted, ?_, ?_, ?_, ?_, ?_, ?_⟩ <;> simp only [db, outbox, same, arrived]
    · exact ledger.above
    · exact ledger.arrived
    · exact ledger.pending
    · exact ledger.stored
    · exact ledger.quotes
    · exact ledger.stamps
  | @marked client writes seen db outbox same arrived =>
    refine ⟨posted, ?_, ?_, ?_, ?_, ?_, ?_⟩ <;> simp only [db, outbox, same, arrived]
    · exact ledger.above
    · exact ledger.arrived
    · intro posting member write part
      exact (ledger.pending posting member write part).imp_right fun ⟨other, waits⟩ =>
        ⟨other, Network.mem_outbox_kept waits⟩
    · exact ledger.stored
    · exact ledger.quotes
    · exact ledger.stamps
  | @posted client index act posting source allocated fresh db outbox same arrived =>
    refine ⟨posted, ?_, ?_, ?_, ?_, ?_, ?_⟩ <;> simp only [db, outbox, same, arrived]
    · intro other member
      rcases List.mem_append.mp member with old | new
      · exact ledger.above other old
      · rw [List.mem_singleton.mp new]
        subst source
        exact above _ allocated
    · exact fun write member => (ledger.arrived write member).mono (List.subset_append_left _ _)
    · intro other member write part
      rcases List.mem_append.mp member with old | new
      · exact (ledger.pending other old write part).imp_right fun ⟨holder, waits⟩ =>
          ⟨holder, Network.mem_outbox_kept waits⟩
      · rw [List.mem_singleton.mp new] at part
        refine Or.inr ⟨client, ?_⟩
        rw [Function.update_self]
        exact List.mem_append_right _ part
    · exact ledger.stored
    · exact ledger.quotes
    · exact ledger.stamps
  | @delivered client write rest waiting db outbox same arrived =>
    have backed := ledger.posted.queued client write (by simp [waiting])
    refine ⟨posted, ?_, ?_, ?_, ?_, ?_, ?_⟩ <;> simp only [db, outbox, same, arrived]
    · exact ledger.above
    · intro other member
      rcases List.mem_append.mp member with old | new
      · exact ledger.arrived other old
      · rw [List.mem_singleton.mp new]
        exact backed
    · intro posting member other part
      rcases ledger.pending posting member other part with old | ⟨holder, waits⟩
      · exact Or.inl (List.mem_append_left _ old)
      · rcases Network.mem_outbox_waiting waiting waits with rfl | left
        · exact Or.inl (by simp)
        · exact Or.inr ⟨holder, left⟩
    · exact ledger.stored_apply backed
    · rw [Database.lastMessage_apply, getLast_or_concat, ledger.quotes]
    · rw [Database.lastTimeStamp_apply, getLast_or_concat, ledger.stamps]

/-- With empty outboxes, every write of every posting has arrived. -/
theorem drained (ledger : Ledger initial chat network)
    (empty : ∀ client, network.outbox client = []) {posting : Posting}
    (member : posting ∈ network.posted) (write : Write) (part : write ∈ posting.writes) :
    write ∈ network.arrived := by
  rcases ledger.pending posting member write part with came | ⟨client, waits⟩
  · exact came
  · simp [empty] at waits

theorem quote_of_arrived (ledger : Ledger initial chat network) {last : LastMessage}
    (found : (network.arrived.filterMap (Write.quoteIn chat)).getLast? = some last) :
    ∃ posting ∈ network.posted, interpolate posting.chatKey = chat ∧ posting.quote = last := by
  obtain ⟨write, came, set⟩ := List.mem_filterMap.mp (List.mem_of_getLast? found)
  obtain ⟨here, field⟩ := Write.quoteIn_eq_some.mp set
  rcases ledger.arrived write came with ⟨id, key, marker⟩ | ⟨posting, member, part⟩
  · simp [field] at marker
  · simp only [posting.writes_eq, List.mem_cons, List.not_mem_nil, or_false] at part
    rcases part with rfl | rfl | rfl
    · simp [Posting.messageWrite] at field
    · exact ⟨posting, member, here, by simpa using field⟩
    · simp at field

theorem stamp_of_arrived (ledger : Ledger initial chat network) {time : Int}
    (found : (network.arrived.filterMap (Write.stampIn chat)).getLast? = some time) :
    ∃ posting ∈ network.posted, interpolate posting.chatKey = chat := by
  obtain ⟨write, came, set⟩ := List.mem_filterMap.mp (List.mem_of_getLast? found)
  obtain ⟨here, field⟩ := Write.stampIn_eq_some.mp set
  rcases ledger.arrived write came with ⟨id, key, marker⟩ | ⟨posting, member, part⟩
  · simp [field] at marker
  · refine ⟨posting, member, ?_⟩
    rw [← chatKey_of_mem_sendMessage part, here]

variable (ledger : Ledger initial chat network) (empty : ∀ client, network.outbox client = [])
include ledger empty

theorem stored_of_posted {posting : Posting} (member : posting ∈ network.posted)
    (here : interpolate posting.chatKey = chat) : posting.message ∈ (network.db chat).stored :=
  (ledger.stored _).mpr (Or.inr ⟨posting, ledger.drained empty member _ (by simp [posting.writes_eq]),
    here, rfl⟩)

theorem arrived_of_posted {posting : Posting} (member : posting ∈ network.posted)
    (here : interpolate posting.chatKey = chat) :
    (∃ last, (network.arrived.filterMap (Write.quoteIn chat)).getLast? = some last) ∧
      ∃ time, (network.arrived.filterMap (Write.stampIn chat)).getLast? = some time := by
  have came := ledger.drained empty member
  constructor
  · have quoted := came ⟨posting.chatKey, .lastMessage posting.quote⟩ (by simp [posting.writes_eq])
    exact getLast_filterMap quoted (Write.quoteIn_eq_some.mpr ⟨here, rfl⟩)
  · have stamped := came ⟨posting.chatKey, .lastTimeStamp posting.message.message.lastTimeStamp⟩
      (by simp [posting.writes_eq])
    exact getLast_filterMap stamped (Write.stampIn_eq_some.mpr ⟨here, rfl⟩)

theorem newestArrivesLast (right : (network.db chat).SummaryNewest) :
    network.NewestArrivesLast chat := by
  intro newest member here greatest
  have newestStored := ledger.stored_of_posted empty member here
  have top : ∀ message ∈ (network.db chat).stored, message.key ≤ newest.message.key := by
    intro message stored
    rcases (ledger.stored message).mp stored with old | ⟨posting, came, there, rfl⟩
    · exact (ledger.above newest member message old).le
    · exact greatest posting (ledger.arrived _ came).posting there
  obtain ⟨summary, stamp⟩ := right newest.message newestStored top
  obtain ⟨⟨last, quoted⟩, time, stamped⟩ := ledger.arrived_of_posted empty member here
  rw [ledger.quotes, quoted, Option.some_or, Option.some.injEq] at summary
  rw [ledger.stamps, stamped, Option.some_or] at stamp
  rw [quoted, stamped, stamp, summary]
  exact ⟨rfl, rfl⟩

theorem summaryNewest (start : initial.SummaryNewest)
    (ordered : network.NewestArrivesLast chat) : (network.db chat).SummaryNewest := by
  intro newest stored greatest
  rcases (ledger.stored newest).mp stored with old | ⟨posting, came, here, rfl⟩
  · -- nothing was posted to the conversation, since its key would be greater
    have none : ∀ posting ∈ network.posted, interpolate posting.chatKey ≠ chat := by
      intro posting member here
      have below := greatest _ (ledger.stored_of_posted empty member here)
      exact absurd (ledger.above posting member newest old) below.not_gt
    have unquoted : (network.arrived.filterMap (Write.quoteIn chat)).getLast? = Option.none := by
      refine Option.eq_none_iff_forall_ne_some.mpr fun last found => ?_
      obtain ⟨posting, member, here, -⟩ := ledger.quote_of_arrived found
      exact none posting member here
    have unstamped : (network.arrived.filterMap (Write.stampIn chat)).getLast? = Option.none := by
      refine Option.eq_none_iff_forall_ne_some.mpr fun time found => ?_
      obtain ⟨posting, member, here⟩ := ledger.stamp_of_arrived found
      exact none posting member here
    rw [ledger.quotes, ledger.stamps, unquoted, unstamped, Option.none_or, Option.none_or]
    refine start newest old fun message first => ?_
    exact greatest message ((ledger.stored message).mpr (Or.inl first))
  · have member := (ledger.arrived _ came).posting
    obtain ⟨quoted, stamped⟩ := ordered posting member here fun other inside there =>
      greatest _ (ledger.stored_of_posted empty inside there)
    obtain ⟨last, found, same⟩ := Option.map_eq_some_iff.mp quoted
    -- the key tells which posting is quoted
    obtain ⟨source, inside, -, rfl⟩ := ledger.quote_of_arrived found
    obtain rfl := ledger.posted.unique source inside posting member same
    rw [ledger.quotes, ledger.stamps, found, stamped, Option.some_or, Option.some_or]
    exact ⟨rfl, rfl⟩

end Ledger

/-- Once all writes are applied, the summary is that of the newest message if and
only if the newest send's summary and time are the last to arrive. -/
theorem summaryNewest_iff {owner : Nat → Nat} {db : Database} {users : Nat → Option Int}
    {actions : List NetworkAction} {final : Network} {chat : String}
    (right : (db chat).SummaryNewest)
    (meets : Meets (Network.step owner) (Network.PushedAbove (db chat).stored)
      (Network.start db users) actions)
    (reached : run (Network.step owner) (Network.start db users) actions = some final)
    (empty : ∀ client, final.outbox client = []) :
    (final.db chat).SummaryNewest ↔ final.NewestArrivesLast chat := by
  have ledger := run_invariant (Ledger (db chat) chat)
    (fun _ _ _ ledger above taken => ledger.carried above (Network.carried_of_step taken))
    (Ledger.start db users) meets reached
  exact ⟨ledger.newestArrivesLast empty, ledger.summaryNewest empty right⟩

instance (base : List Messages) (network : Network) (action : NetworkAction) :
    Decidable (network.PushedAbove base action) :=
  match action with
  | .widget _ action => inferInstanceAs (Decidable (∀ key ∈ action.newKey, ∀ _ ∈ base, _ < key))
  | .setUser .. | .chatKey .. | .dispose _ | .deliver _ => isTrue trivial

instance (chat : String) (network : Network) : Decidable (network.NewestArrivesLast chat) :=
  inferInstanceAs (Decidable (∀ _ ∈ _, _ → _ → _))

def twoClients : Network → NetworkAction → Option Network := Network.step fun index => index % 2

theorem twoClients_drained {network final : Network} {actions : List NetworkAction}
    (start : ∀ client, network.outbox client = [])
    (reached : run twoClients network actions = some final)
    (first : final.outbox 0 = []) (second : final.outbox 1 = []) :
    ∀ client, final.outbox client = []
  | 0 => first
  | 1 => second
  | client + 2 => Network.outbox_of_no_widget (fun index => by omega) (start _) reached

def sendsInOrder : List NetworkAction :=
  opened ++ [.widget 0 (.send "one" 1 "k1"), .widget 1 (.send "two" 2 "k2"),
   .deliver 1, .deliver 0, .deliver 0, .deliver 0, .deliver 1, .deliver 1]

theorem sendsInOrder_newest :
    ∃ final, run twoClients (Network.start (fun _ => Conversation.empty) fun _ => some 7)
        sendsInOrder = some final ∧
      (final.db "a").stored.length = 2 ∧ (final.db "a").SummaryNewest := by
  have found : (run twoClients (Network.start (fun _ => Conversation.empty) fun _ => some 7)
      sendsInOrder).any (fun final => decide ((final.outbox 0 = [] ∧ final.outbox 1 = []) ∧
        (final.db "a").stored.length = 2 ∧ final.NewestArrivesLast "a")) = true := by decide
  obtain ⟨final, reached, test⟩ := exists_of_run found
  obtain ⟨⟨first, second⟩, two, last⟩ := of_decide_eq_true test
  have empty := twoClients_drained (fun _ => rfl) reached first second
  have newest := @summaryNewest_iff (fun index => index % 2) (fun _ => Conversation.empty)
    (fun _ => some 7) sendsInOrder final "a" (by decide) (by decide) reached empty
  exact ⟨final, reached, two, newest.mpr last⟩

def overtakenSend : List NetworkAction :=
  opened ++ [.widget 0 (.send "one" 1 "k1"), .widget 1 (.send "two" 2 "k2"),
   .deliver 1, .deliver 1, .deliver 1, .deliver 0, .deliver 0, .deliver 0]

theorem overtakenSend_stale :
    ∃ final, run twoClients (Network.start (fun _ => Conversation.empty) fun _ => some 7)
        overtakenSend = some final ∧ (∀ client, final.outbox client = []) ∧
      ((final.db "a").stored.map Messages.key = ["k1", "k2"] ∧
        (final.db "a").lastMessage = some ⟨some "one", "k1", 1⟩ ∧
        (final.db "a").lastTimeStamp = some 1) ∧ ¬ (final.db "a").SummaryNewest := by
  have found : (run twoClients (Network.start (fun _ => Conversation.empty) fun _ => some 7)
      overtakenSend).any (fun final => decide ((final.outbox 0 = [] ∧ final.outbox 1 = []) ∧
        ((final.db "a").stored.map Messages.key = ["k1", "k2"] ∧
          (final.db "a").lastMessage = some ⟨some "one", "k1", 1⟩ ∧
          (final.db "a").lastTimeStamp = some 1) ∧ ¬ (final.db "a").SummaryNewest)) = true := by
    decide
  obtain ⟨final, reached, test⟩ := exists_of_run found
  obtain ⟨⟨first, second⟩, facts⟩ := of_decide_eq_true test
  exact ⟨final, reached, twoClients_drained (fun _ => rfl) reached first second, facts⟩

end SparSomnong.Chat
