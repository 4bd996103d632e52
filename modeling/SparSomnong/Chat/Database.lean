import Mathlib.Data.String.Basic
import Mathlib.Logic.Function.Basic
import SparSomnong.Semantics.KeyedLog

/-! Conversations in the realtime database, and the writes of the chat code.

Push keys are ASCII, so `compareTo` on them is the order of `String`. A field
that was never written, or was written as null, is absent.
-/

set_option autoImplicit false

namespace SparSomnong.Chat

open Semantics

theorem empty_le (key : String) : "" ≤ key := by
  refine not_lt.mp fun less => ?_
  exact List.not_lt_nil _ (String.lt_iff_toList_lt.mp less)

structure Message where
  data : Option String
  lastTimeStamp : Int
  type : Int
  deriving DecidableEq, Repr

structure Messages where
  key : String
  message : Message
  userId : Int
  deriving DecidableEq, Repr

structure LastMessage where
  data : Option String
  key : String
  type : Int
  deriving DecidableEq, Repr

/-- The text of a nullable key inside a path: null is rendered as a child name. -/
def interpolate : Option String → String
  | some key => key
  | none => "null"

/-- The children of one conversation that the chat code reads or writes. -/
structure Conversation where
  messages : Log Messages.key
  lastMessage : Option LastMessage
  lastTimeStamp : Option Int
  lastSeen : Int → Option String

namespace Conversation

def empty : Conversation := ⟨Log.empty, none, none, fun _ => none⟩

def stored (conversation : Conversation) : List Messages := conversation.messages.entries

def ofLog (entries : List Messages) (ordered : Ordered Messages.key entries) : Conversation :=
  { empty with messages := ⟨entries, ordered⟩ }

def QuotesStored (conversation : Conversation) : Prop :=
  ∀ last, conversation.lastMessage = some last → ∃ message ∈ conversation.stored,
    message.key = last.key ∧ message.message.data = last.data ∧ message.message.type = last.type

end Conversation

/-- What one write sets, below the child of its conversation. -/
inductive Field where
  | message (key : String) (value : Message) (userId : Int)
  | lastMessage (value : LastMessage)
  | lastTimeStamp (value : Int)
  | lastSeen (userId : Int) (key : String)
  deriving DecidableEq, Repr

structure Write where
  chatKey : Option String
  field : Field
  deriving DecidableEq, Repr

def Conversation.apply (conversation : Conversation) : Field → Conversation
  | .message key value userId =>
    { conversation with messages := conversation.messages.put ⟨key, value, userId⟩ }
  | .lastMessage value => { conversation with lastMessage := some value }
  | .lastTimeStamp value => { conversation with lastTimeStamp := some value }
  | .lastSeen userId key =>
    { conversation with lastSeen := Function.update conversation.lastSeen userId (some key) }

/-- The children of `notesReference`, by name. -/
abbrev Database := String → Conversation

namespace Database

def apply (db : Database) (write : Write) : Database :=
  Function.update db (interpolate write.chatKey)
    ((db (interpolate write.chatKey)).apply write.field)

theorem apply_self (db : Database) (write : Write) :
    db.apply write (interpolate write.chatKey) =
      (db (interpolate write.chatKey)).apply write.field :=
  Function.update_self _ _ _

theorem apply_other (db : Database) (write : Write) {chat : String}
    (other : chat ≠ interpolate write.chatKey) : db.apply write chat = db chat :=
  Function.update_of_ne other _ _

theorem apply_eq (db : Database) (write : Write) (chat : String) :
    db.apply write chat =
      if interpolate write.chatKey = chat then (db chat).apply write.field else db chat := by
  split
  · next here =>
    subst here
    exact db.apply_self write
  · next other => exact db.apply_other write (Ne.symm other)

def append (db : Database) (chat : String) (message : Messages) : Database :=
  Function.update db chat { db chat with messages := (db chat).messages.put message }

def quote (db : Database) (chat : String) (message : Messages) : Database :=
  Function.update db chat
    { db chat with lastMessage := some ⟨message.message.data, message.key, message.message.type⟩ }

/-- The key is greater than every key stored in the conversation. -/
def Newest (db : Database) (chat : String) (message : Messages) : Prop :=
  ∀ stored ∈ (db chat).stored, stored.key < message.key

instance (db : Database) (chat : String) (message : Messages) :
    Decidable (Newest db chat message) :=
  inferInstanceAs (Decidable (∀ stored ∈ (db chat).stored, stored.key < message.key))

theorem stored_append {db : Database} {chat : String} {message : Messages}
    (newest : Newest db chat message) (other : String) :
    (db.append chat message other).stored =
      if other = chat then (db chat).stored ++ [message] else (db other).stored := by
  by_cases same : other = chat
  · subst same
    simp only [append, Function.update_self, Conversation.stored, if_true]
    exact put_eq_append newest
  · simp [append, same]

theorem stored_quote (db : Database) (chat : String) (message : Messages) (other : String) :
    (db.quote chat message other).stored = (db other).stored := by
  by_cases same : other = chat
  · subst same
    simp [quote, Conversation.stored]
  · simp [quote, Function.update_of_ne same]

theorem quotesStored_append {db : Database} {chat other : String} {message : Messages}
    (newest : Newest db chat message) (quotes : (db other).QuotesStored) :
    (db.append chat message other).QuotesStored := by
  intro last present
  have summary : (db.append chat message other).lastMessage = (db other).lastMessage := by
    by_cases same : other = chat
    · subst same
      simp [append]
    · simp [append, same]
  obtain ⟨quoted, member, facts⟩ := quotes last (summary ▸ present)
  refine ⟨quoted, ?_, facts⟩
  rw [stored_append newest]
  split
  · next same => exact List.mem_append_left _ (same ▸ member)
  · exact member

theorem quotesStored_quote {db : Database} {chat other : String} {message : Messages}
    (member : message ∈ (db chat).stored) (quotes : (db other).QuotesStored) :
    (db.quote chat message other).QuotesStored := by
  intro last present
  rw [stored_quote]
  by_cases same : other = chat
  · subst same
    simp only [quote, Function.update_self, Option.some.injEq] at present
    subst present
    exact ⟨message, member, rfl, rfl, rfl⟩
  · simp only [quote, Function.update_of_ne same] at present
    exact quotes last present

theorem stored_ordered (db : Database) (chat : String) :
    Ordered Messages.key (db chat).stored :=
  (db chat).messages.ordered

end Database

end SparSomnong.Chat
