import SparSomnong.Chat.Widget
import SparSomnong.Semantics.Run

/-! Any number of clients with their widgets, and the database between them.

A client may have any number of ChatWidgets. What its widgets write goes into
its outbox, and the server applies the writes of one outbox in order and those
of different outboxes in any order. `push()` never allocates a key twice.

A widget hears of a message when the server has applied its write. The events that
the Firebase client raises for its own writes before that are not modelled.
-/

set_option autoImplicit false

namespace SparSomnong.Chat

open Semantics

/-- A message on its way to a conversation. -/
structure Posting where
  chatKey : Option String
  message : Messages
  deriving DecidableEq, Repr

namespace Posting

def quote (posting : Posting) : LastMessage :=
  ⟨posting.message.message.data, posting.message.key, posting.message.message.type⟩

def writes (posting : Posting) : List Write :=
  sendMessage posting.chatKey posting.message.message.data posting.message.message.type
    posting.message.userId posting.message.message.lastTimeStamp posting.message.key

def messageWrite (posting : Posting) : Write :=
  ⟨posting.chatKey, .message posting.message.key posting.message.message posting.message.userId⟩

theorem writes_eq (posting : Posting) : posting.writes =
    [posting.messageWrite, ⟨posting.chatKey, .lastMessage posting.quote⟩,
      ⟨posting.chatKey, .lastTimeStamp posting.message.message.lastTimeStamp⟩] :=
  rfl

end Posting

/-- The posting a write stores. -/
def Write.posting : Write → Option Posting
  | ⟨chatKey, .message key value userId⟩ => some ⟨chatKey, ⟨key, value, userId⟩⟩
  | _ => none

@[simp] theorem Posting.posting_messageWrite (posting : Posting) :
    posting.messageWrite.posting = some posting := rfl

theorem Write.posting_eq_some {write : Write} {posting : Posting} :
    write.posting = some posting ↔ write = posting.messageWrite := by
  constructor
  · intro found
    obtain ⟨chatKey, field⟩ := write
    cases field <;> simp only [Write.posting, reduceCtorEq] at found
    cases found
    rfl
  · rintro rfl
    rfl

def WidgetAction.newKey : WidgetAction → Option String
  | .send _ _ newKey => some newKey
  | .uploadDone _ _ _ newKey => some newKey
  | _ => none

/-- A widget step writes one posting, or read markers only. -/
theorem ChatWidgetState.Stepped.writes_cases {db : Database} {user : Option Int}
    {widget next : ChatWidgetState} {action : WidgetAction} {writes : List Write}
    (taken : Stepped db user widget action next writes) :
    (∃ posting : Posting, writes = posting.writes ∧ action.newKey = some posting.message.key) ∨
      ∀ write ∈ writes, ∃ id key, write.field = .lastSeen id key := by
  cases taken with
  | @send text now id newKey visible owner =>
    exact Or.inl ⟨⟨widget.oldKey, ⟨newKey, ⟨some text, now, 1⟩, id⟩⟩, rfl, rfl⟩
  | @uploadDone index upload outcome now id newKey found owner =>
    rcases upload.source.finish_cases upload.chatKey id now newKey outcome with
      nothing | ⟨data, type, whole⟩
    · exact Or.inr (by simp [nothing])
    · exact Or.inl ⟨⟨upload.chatKey, ⟨newKey, ⟨data, now, type⟩, id⟩⟩, whole, rfl⟩
  | childAdded found mounted handled =>
    refine Or.inr ?_
    rcases listenToRealTimeChat_writes handled with rfl | ⟨id, -, rfl⟩ <;> simp
  | _ => exact Or.inr (by simp)

/-- `posted` and `arrived` are history: what was sent, and in which order the
server applied the writes. -/
structure Network where
  db : Database
  users : Nat → Option Int
  widgets : Nat → ChatWidgetState
  outbox : Nat → List Write
  posted : List Posting
  arrived : List Write

inductive NetworkAction where
  | setUser (client : Nat) (user : Option Int)
  | chatKey (index : Nat) (key : Option String)
  | widget (index : Nat) (action : WidgetAction)
  | dispose (index : Nat)
  | deliver (client : Nat)
  deriving DecidableEq, Repr

namespace Network

def start (db : Database) (users : Nat → Option Int) : Network :=
  ⟨db, users, fun _ => {}, fun _ => [], [], []⟩

/-- A live feed sees a stored message when it is the new last child. -/
def notify (network : Network) (write : Write) (index : Nat) : ChatWidgetState :=
  match write.posting with
  | some posting =>
    if network.db.Newest (interpolate posting.chatKey) posting.message then
      (network.widgets index).onStored (interpolate posting.chatKey) posting.message
    else network.widgets index
  | none => network.widgets index

def step (owner : Nat → Nat) (network : Network) : NetworkAction → Option Network
  | .setUser client user =>
    some { network with users := Function.update network.users client user }
  | .chatKey index key =>
    if (network.widgets index).mounted then
      let told := (network.widgets index).onChatKey (network.users (owner index)) key
      some { network with widgets := Function.update network.widgets index told }
    else none
  | .widget index action =>
    -- `push()` does not return a key that is in use
    if ∀ key ∈ action.newKey, ∀ posting ∈ network.posted, posting.message.key ≠ key then
      match (network.widgets index).step network.db (network.users (owner index)) action with
      | some (widget, writes) => some { network with
          widgets := Function.update network.widgets index widget
          outbox := Function.update network.outbox (owner index)
            (network.outbox (owner index) ++ writes)
          posted := network.posted ++ writes.filterMap Write.posting }
      | none => none
    else none
  | .dispose index =>
    if (network.widgets index).mounted then
      some { network with
        widgets := Function.update network.widgets index (network.widgets index).dispose }
    else none
  | .deliver client =>
    match network.outbox client with
    | write :: rest => some { network with
        db := network.db.apply write
        widgets := network.notify write
        outbox := Function.update network.outbox client rest
        arrived := network.arrived ++ [write] }
    | [] => none

/-- What a step means for the writes: nothing, new writes of one client, or the
arrival of the first write of an outbox. -/
inductive Carried (network : Network) (action : NetworkAction) (next : Network) : Prop where
  | quiet : next.db = network.db → next.outbox = network.outbox →
      next.posted = network.posted → next.arrived = network.arrived →
      Carried network action next
  | marked {client : Nat} {writes : List Write} :
      (∀ write ∈ writes, ∃ id key, write.field = .lastSeen id key) → next.db = network.db →
      next.outbox = Function.update network.outbox client (network.outbox client ++ writes) →
      next.posted = network.posted → next.arrived = network.arrived →
      Carried network action next
  | posted {client index : Nat} {act : WidgetAction} {posting : Posting} :
      action = .widget index act → act.newKey = some posting.message.key →
      (∀ other ∈ network.posted, other.message.key ≠ posting.message.key) →
      next.db = network.db →
      next.outbox = Function.update network.outbox client
        (network.outbox client ++ posting.writes) →
      next.posted = network.posted ++ [posting] → next.arrived = network.arrived →
      Carried network action next
  | delivered {client : Nat} {write : Write} {rest : List Write} :
      network.outbox client = write :: rest → next.db = network.db.apply write →
      next.outbox = Function.update network.outbox client rest →
      next.posted = network.posted → next.arrived = network.arrived ++ [write] →
      Carried network action next

theorem carried_of_step {owner : Nat → Nat} {network next : Network} {action : NetworkAction}
    (taken : network.step owner action = some next) : Carried network action next := by
  cases action with
  | setUser client user =>
    cases taken
    exact .quiet rfl rfl rfl rfl
  | chatKey index key =>
    simp only [step] at taken
    split at taken
    · cases taken
      exact .quiet rfl rfl rfl rfl
    · cases taken
  | widget index action =>
    simp only [step] at taken
    split at taken
    · next fresh =>
      split at taken
      · next widget writes stepped =>
        cases taken
        rcases (ChatWidgetState.stepped_of_step stepped).writes_cases with
          ⟨posting, rfl, allocated⟩ | markers
        · exact .posted rfl allocated (fresh _ allocated) rfl rfl rfl rfl
        · -- read markers are no postings
          have none : writes.filterMap Write.posting = [] := by
            refine List.filterMap_eq_nil_iff.mpr fun write member => ?_
            obtain ⟨id, key, field⟩ := markers write member
            obtain ⟨chatKey, _⟩ := write
            cases field
            rfl
          exact .marked markers rfl rfl (by simp [none]) rfl
      · cases taken
    · cases taken
  | dispose index =>
    simp only [step] at taken
    split at taken
    · cases taken
      exact .quiet rfl rfl rfl rfl
    · cases taken
  | deliver client =>
    simp only [step] at taken
    split at taken
    · next write rest waiting =>
      cases taken
      exact .delivered waiting rfl rfl rfl rfl
    · cases taken

section
variable {outbox : Nat → List Write} {client other : Nat} {write head : Write}
  {writes rest : List Write}

theorem mem_outbox_added
    (member : write ∈ Function.update outbox client (outbox client ++ writes) other) :
    write ∈ outbox other ∨ write ∈ writes := by
  by_cases here : other = client
  · subst here
    rw [Function.update_self] at member
    exact List.mem_append.mp member
  · rw [Function.update_of_ne here] at member
    exact Or.inl member

theorem mem_outbox_kept (member : write ∈ outbox other) :
    write ∈ Function.update outbox client (outbox client ++ writes) other := by
  by_cases here : other = client
  · subst here
    rw [Function.update_self]
    exact List.mem_append_left _ member
  · rw [Function.update_of_ne here]
    exact member

theorem mem_outbox_left (waiting : outbox client = head :: rest)
    (member : write ∈ Function.update outbox client rest other) : write ∈ outbox other := by
  by_cases here : other = client
  · subst here
    rw [Function.update_self] at member
    rw [waiting]
    exact List.mem_cons_of_mem _ member
  · rw [Function.update_of_ne here] at member
    exact member

theorem mem_outbox_waiting (waiting : outbox client = head :: rest)
    (member : write ∈ outbox other) :
    write = head ∨ write ∈ Function.update outbox client rest other := by
  by_cases here : other = client
  · subst here
    rw [Function.update_self]
    rw [waiting] at member
    exact List.mem_cons.mp member
  · rw [Function.update_of_ne here]
    exact Or.inr member

end

theorem outbox_of_no_widget {owner : Nat → Nat} {client : Nat}
    (none : ∀ index, owner index ≠ client) {network final : Network}
    {actions : List NetworkAction} (before : network.outbox client = [])
    (reached : run (step owner) network actions = some final) : final.outbox client = [] := by
  refine run_invariant_of_step (fun network => network.outbox client = []) ?_ before reached
  intro network action next idle taken
  cases action with
  | setUser client user =>
    cases taken
    exact idle
  | chatKey index key =>
    simp only [step] at taken
    split at taken <;> cases taken
    exact idle
  | widget index action =>
    simp only [step] at taken
    split at taken
    · split at taken <;> cases taken
      exact (Function.update_of_ne (none index).symm _ _).trans idle
    · cases taken
  | dispose index =>
    simp only [step] at taken
    split at taken <;> cases taken
    exact idle
  | deliver other =>
    simp only [step] at taken
    split at taken
    · next write rest waiting =>
      cases taken
      have different : client ≠ other := by
        rintro rfl
        simp [idle] at waiting
      exact (Function.update_of_ne different _ _).trans idle
    · cases taken

end Network

end SparSomnong.Chat
