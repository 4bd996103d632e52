import Mathlib.Data.List.Perm.Basic
import SparSomnong.Catalogue.SearchUrl
import SparSomnong.Chat.Conservation
import SparSomnong.Chat.Keyed
import SparSomnong.Semantics.Tree
import SparSomnong.Session.EditProfile
import SparSomnong.Session.Snapshot

/-! Conversations as the database keeps them: one tree below the chats.

The code names what it reads and writes by paths, writes maps, and decodes what it
reads. On chats and messages whose keys are names, this comes to the same as the
conversations with their fields, in whatever order the writes arrive.
-/

set_option autoImplicit false

namespace SparSomnong.Chat

open Semantics Session

def fireBaseMessages : String := "messages"

def fireBaseLastMessage : String := "lastMessage"

def messagesPath (chatKey : Option String) : List String :=
  segments (interpolate chatKey ++ "/" ++ fireBaseMessages)

def messageValue (value : Message) (userId : Int) : Value :=
  .record [("message", .record [("data", Value.orNull .string value.data),
      ("lastTimeStamp", .int value.lastTimeStamp), ("type", .int value.type)]),
    ("userId", .int userId)]

/-- A write on the tree below the chats. -/
def Write.perform : Write → Value → Value
  | ⟨chatKey, .message newKey value userId⟩ =>
    Value.setAt (messagesPath chatKey ++ segments newKey) (messageValue value userId)
  | ⟨chatKey, .lastMessage last⟩ =>
    Value.updateAt (segments (interpolate chatKey ++ "/" ++ fireBaseLastMessage))
      [("data", Value.orNull .string last.data), ("key", .string last.key), ("type", .int last.type)]
  | ⟨chatKey, .lastTimeStamp time⟩ =>
    Value.updateAt (segments (interpolate chatKey)) [("lastTimeStamp", .int time)]
  | ⟨chatKey, .lastSeen userId key⟩ =>
    Value.updateAt (segments (interpolate chatKey ++ "/" ++ ("users" ++ "/" ++ idKey userId)))
      [("lastSeen", .string key)]

/-- A query below the messages of a chat: `endAt`, if it is given, and `limitToLast`. -/
structure Query where
  bound : Option String
  count : Nat
  deriving DecidableEq, Repr

def Query.window {α : Type} (query : Query) (key : α → String) (entries : List α) : List α :=
  limitToLast query.count (query.bound.elim entries fun bound => endAt key bound entries)

def decodeMessage (entry : String × Value) : Except Thrown Session.Messages := do
  let json ← entry.2.toMap
  let messages ← Session.Messages.fromJson json
  return { messages with key := some entry.1 }

/-! ## What the tree stands for -/

def Messages.decoded (message : Messages) : Session.Messages :=
  ⟨some message.key,
    some ⟨message.message.data, some message.message.lastTimeStamp, some message.message.type⟩,
    some message.userId⟩

def LastMessage.decoded (last : LastMessage) : Session.LastMessage :=
  ⟨last.data, some last.key, some last.type⟩

structure Encodes (entry : String × Value) (message : Messages) : Prop where
  key : entry.1 = message.key
  typed : ∃ json, entry.2 = .map json ∧ Session.Messages.typed json = true ∧
    { Session.Messages.read json with key := some entry.1 } = message.decoded

structure HoldsMessages (node : Value) (stored : List Messages) : Prop where
  entries : List.Forall₂ Encodes node.entries stored
  whole : node = .ofEntries node.entries

structure HoldsSummary (node : Value) (last : Option LastMessage) : Prop where
  typed : node.isMapOf Session.LastMessage.typed = true
  read : node.map?.map Session.LastMessage.read = last.map LastMessage.decoded

structure HoldsMarkers (node : Value) (lastSeen : Int → Option String) : Prop where
  typed : node.isMapOf (typedMap Session.User.typed) = true
  read : ∀ id, node.getAt [idKey id, "lastSeen"] = Value.orNull .string (lastSeen id)

/-- The node of a chat is read as the conversation. -/
structure Holds (node : Value) (conversation : Conversation) : Prop where
  key : (node.getAt ["key"]).isString = true
  messages : HoldsMessages (node.getAt [fireBaseMessages]) conversation.stored
  summary : HoldsSummary (node.getAt [fireBaseLastMessage]) conversation.lastMessage
  time : node.getAt ["lastTimeStamp"] = Value.orNull .int conversation.lastTimeStamp
  markers : HoldsMarkers (node.getAt ["users"]) conversation.lastSeen

/-- The tree below the chats is read as the database. -/
structure Represents (tree : Value) (db : Database) : Prop where
  sorted : tree.Sorted IsName
  holds : ∀ chat, IsName chat → Holds (child tree.entries chat) (db chat)

def Field.perform : Field → Value → Value
  | .message newKey value userId =>
    Value.setAt [fireBaseMessages, newKey] (messageValue value userId)
  | .lastMessage last =>
    Value.updateAt [fireBaseLastMessage]
      [("data", Value.orNull .string last.data), ("key", .string last.key), ("type", .int last.type)]
  | .lastTimeStamp time => Value.updateAt [] [("lastTimeStamp", .int time)]
  | .lastSeen userId key => Value.updateAt ["users", idKey userId] [("lastSeen", .string key)]

/-- The keys in a write are names. -/
structure Write.Named (write : Write) : Prop where
  chat : IsName (interpolate write.chatKey)
  message : ∀ posting, write.posting = some posting → IsName posting.message.key

/-! ## One write -/

theorem toList_idKey (id : Int) : (idKey id).toList =
    if 0 ≤ id then Nat.toDigits 10 id.natAbs else '-' :: Nat.toDigits 10 id.natAbs := by
  cases id with
  | ofNat n =>
    change (Nat.repr n).toList = _
    rw [Nat.toList_repr, if_pos (by simp)]
    rfl
  | negSucc n =>
    change ("-" ++ Nat.repr (n + 1)).toList = _
    rw [String.toList_append, Nat.toList_repr, if_neg (by simp)]
    rfl

theorem isName_idKey (id : Int) : IsName (idKey id) := by
  constructor
  · intro blank
    have digits := toList_idKey id
    rw [blank] at digits
    split at digits
    · exact Nat.toDigits_ne_nil digits.symm
    · cases digits
  · exact Catalogue.separator_not_mem_toString id (by decide) (by decide)

theorem toDigits_injective {m n : Nat} (same : Nat.toDigits 10 m = Nat.toDigits 10 n) : m = n := by
  have value := congrArg (fun digits => Nat.ofDigitChars 10 digits 0) same
  simpa only [Nat.ofDigitChars_ten_toDigits] using value

theorem idKey_injective {a b : Int} (same : idKey a = idKey b) : a = b := by
  have letters := congrArg String.toList same
  rw [toList_idKey, toList_idKey] at letters
  -- a minus sign is not a digit
  have unsigned : ∀ n : Nat, '-' ∉ Nat.toDigits 10 n := by
    intro n member
    cases Nat.isDigit_of_mem_toDigits (by decide) (by decide) member
  split at letters
  · split at letters
    · have size := toDigits_injective letters
      omega
    · exact absurd (letters ▸ List.mem_cons_self) (unsigned a.natAbs)
  · split at letters
    · exact absurd (letters ▸ List.mem_cons_self) (unsigned b.natAbs)
    · have size := toDigits_injective (List.cons.inj letters).2
      omega

def Field.child : Field → String
  | .message .. => fireBaseMessages
  | .lastMessage _ => fireBaseLastMessage
  | .lastTimeStamp _ => "lastTimeStamp"
  | .lastSeen .. => "users"

theorem Field.perform_apart {field : Field} {other : String} (different : other ≠ field.child)
    (more : List String) (node : Value) :
    (field.perform node).getAt (other :: more) = node.getAt (other :: more) := by
  cases field with
  | message newKey value userId => exact Value.getAt_setAt_apart different [] [newKey] more _ node
  | lastMessage last => exact Value.getAt_updateAt_apart different [] [] more _ node
  | lastTimeStamp time => exact Value.getAt_setAt_apart different [] [] more _ node
  | lastSeen userId key => exact Value.getAt_updateAt_apart different [] [idKey userId] more _ node

theorem child_record (children : Entries) (name : String) :
    child (Value.record children).entries name = (children.reverse.lookup name).getD .null :=
  Value.child_updateAt children .null name

theorem record_eq_map (children : Entries) (name : String)
    (present : (children.reverse.lookup name).getD .null ≠ .null) :
    Value.record children = .map (Value.record children).entries :=
  Value.eq_map_of_child name (child_record children name ▸ present)

theorem encodes_messageValue (newKey : String) (value : Message) (userId : Int) :
    Encodes (newKey, messageValue value userId) ⟨newKey, value, userId⟩ := by
  have content := record_eq_map [("data", Value.orNull .string value.data),
    ("lastTimeStamp", .int value.lastTimeStamp), ("type", .int value.type)] "type"
    (by intro null; cases null)
  have fields : ∀ name, child (messageValue value userId).entries name = _ := child_record _
  have message := fields "message"
  change _ = Value.record _ at message
  rw [content] at message
  obtain ⟨data, time, type⟩ := value
  refine ⟨rfl, _, record_eq_map _ "userId" (by intro null; cases null), ?_, ?_⟩
  · change Session.Messages.typed (messageValue ⟨data, time, type⟩ userId).entries = true
    simp only [Session.Messages.typed, message, fields "key", fields "userId", Value.isMapOf,
      Session.Message.typed, child_record]
    cases data <;> rfl
  · change { Session.Messages.read (messageValue ⟨data, time, type⟩ userId).entries with
      key := some newKey } = _
    simp only [Session.Messages.read, message, fields "userId", Value.map?_map, Option.map_some,
      Session.Message.read, child_record]
    cases data <;> rfl

/-! ## The conversation after a write -/

theorem forall₂_put {α β κ : Type} [LinearOrder κ] {keyA : α → κ} {keyB : β → κ}
    {Related : α → β → Prop} {a : α} {b : β} {as : List α} {bs : List β}
    (keys : ∀ a b, Related a b → keyA a = keyB b) (related : Related a b)
    (all : List.Forall₂ Related as bs) : List.Forall₂ Related (put keyA a as) (put keyB b bs) := by
  induction all with
  | nil => exact .cons related .nil
  | cons first rest ih =>
    simp only [put, keys _ _ related, keys _ _ first]
    split
    · exact .cons related (.cons first rest)
    · split
      · exact .cons related rest
      · exact .cons first ih

theorem updated_lastMessage (last : LastMessage) (old : Value) :
    ∃ json, Value.updateAt [] [("data", Value.orNull .string last.data), ("key", .string last.key),
        ("type", .int last.type)] old = .map json ∧
      Session.LastMessage.typed json = true ∧ Session.LastMessage.read json = last.decoded := by
  obtain ⟨data, key, type⟩ := last
  have fields := Value.child_updateAt [("data", Value.orNull .string data), ("key", .string key),
    ("type", .int type)] old
  have quoted : child _ "key" = Value.string key := fields "key"
  refine ⟨_, Value.eq_map_of_child "key" ?_, ?_, ?_⟩
  · rw [quoted]
    intro null
    cases null
  · simp only [Session.LastMessage.typed, fields]
    cases data <;> rfl
  · simp only [Session.LastMessage.read, fields]
    cases data <;> rfl

theorem isMapOf_child {typed : Entries → Bool} {value : Value}
    (users : value.isMapOf (typedMap typed) = true) (name : String) :
    (child value.entries name).isMapOf typed = true := by
  rcases Value.isMapOf_iff.mp users with rfl | ⟨entries, rfl, all⟩
  · rfl
  · by_cases absent : child entries name = .null
    · simp only [Value.entries, absent, Value.isMapOf]
    · exact List.all_eq_true.mp all _ (mem_of_child absent)

theorem isMapOf_setAt {p : Entries → Bool} {value new : Value} (name : String)
    (typed : p (setChild name new value.entries) = true) :
    (Value.setAt [name] new value).isMapOf p = true := by
  change (Value.ofEntries (setChild name new value.entries)).isMapOf p = true
  generalize setChild name new value.entries = children at typed
  cases children with
  | nil => rfl
  | cons first rest => exact typed

theorem typed_lastSeen {value : Value} {name key : String}
    (users : value.isMapOf (typedMap Session.User.typed) = true) :
    (Value.setAt [name, "lastSeen"] (.string key) value).isMapOf
      (typedMap Session.User.typed) = true := by
  have user := isMapOf_child users name
  have marked : (Value.setAt ["lastSeen"] (.string key) (child value.entries name)).isMapOf
      Session.User.typed = true := by
    refine isMapOf_setAt "lastSeen" ?_
    have id : (child (child value.entries name).entries "userId").isInt = true := by
      rcases Value.isMapOf_iff.mp user with absent | ⟨json, present, typed⟩
      · rw [absent]
        rfl
      · rw [present]
        exact (Bool.and_eq_true_iff.mp typed).2
    rw [Session.User.typed, child_setChild, child_setChild, if_pos rfl, if_neg (by decide), id]
    rfl
  apply isMapOf_setAt name
  refine List.all_eq_true.mpr fun entry member => ?_
  rcases mem_setChild member with rfl | old
  · exact marked
  · rcases Value.isMapOf_iff.mp users with rfl | ⟨entries, rfl, all⟩
    · cases old
    · exact List.all_eq_true.mp all entry old

namespace Holds

variable {node : Value} {conversation : Conversation}

theorem messages_apply (holds : Holds node conversation) (field : Field) :
    HoldsMessages ((field.perform node).getAt [fireBaseMessages])
      (conversation.apply field).stored := by
  cases field with
  | message newKey value userId =>
    have present : (messageValue value userId).isNull = false := by
      rw [messageValue, record_eq_map _ "userId" (by intro null; cases null)]
      rfl
    have written := Value.getAt_setAt_append [fireBaseMessages] [newKey]
      (messageValue value userId) node
    rw [Value.setAt, setChild, Value.setAt, present] at written
    rw [if_neg (by decide)] at written
    change (Field.perform (.message newKey value userId) node).getAt [fireBaseMessages] = _ at written
    constructor
    · rw [written, Value.entries_ofEntries]
      exact forall₂_put (fun _ _ related => related.key) (encodes_messageValue ..)
        holds.messages.entries
    · rw [written, Value.entries_ofEntries]
  | _ =>
    rw [Field.perform_apart (by simp [Field.child, fireBaseMessages, fireBaseLastMessage])]
    exact holds.messages

theorem summary_apply (holds : Holds node conversation) (field : Field) :
    HoldsSummary ((field.perform node).getAt [fireBaseLastMessage])
      (conversation.apply field).lastMessage := by
  cases field with
  | lastMessage last =>
    obtain ⟨json, updated, typed, read⟩ :=
      updated_lastMessage last (node.getAt [fireBaseLastMessage])
    rw [Field.perform, Value.getAt_updateAt, updated]
    exact ⟨typed, congrArg some read⟩
  | _ =>
    rw [Field.perform_apart (by simp [Field.child, fireBaseMessages, fireBaseLastMessage])]
    exact holds.summary

theorem time_apply (holds : Holds node conversation) (field : Field) :
    (field.perform node).getAt ["lastTimeStamp"] =
      Value.orNull .int (conversation.apply field).lastTimeStamp := by
  cases field with
  | lastTimeStamp time => exact Value.getAt_setAt ["lastTimeStamp"] (.int time) node
  | _ =>
    rw [Field.perform_apart (by simp [Field.child, fireBaseMessages, fireBaseLastMessage])]
    exact holds.time

theorem markers_apply (holds : Holds node conversation) (field : Field) :
    HoldsMarkers ((field.perform node).getAt ["users"]) (conversation.apply field).lastSeen := by
  cases field with
  | lastSeen userId key =>
    have written := Value.getAt_updateAt_append ["users"] [idKey userId] [("lastSeen", .string key)] node
    change (Field.perform (.lastSeen userId key) node).getAt ["users"] = _ at written
    rw [written]
    refine ⟨typed_lastSeen holds.markers.typed, fun id => ?_⟩
    by_cases same : id = userId
    · subst same
      simp only [Conversation.apply, Function.update_self]
      exact Value.getAt_setAt [idKey id, "lastSeen"] (.string key) _
    · have different : idKey id ≠ idKey userId := fun equal => same (idKey_injective equal)
      simp only [Conversation.apply, Function.update_of_ne same, ← holds.markers.read id]
      exact Value.getAt_setAt_apart different [] ["lastSeen"] ["lastSeen"] (.string key) _
  | _ =>
    rw [Field.perform_apart (by simp [Field.child, fireBaseMessages, fireBaseLastMessage])]
    exact holds.markers

theorem apply (holds : Holds node conversation) (field : Field) :
    Holds (field.perform node) (conversation.apply field) := by
  refine ⟨?_, holds.messages_apply field, holds.summary_apply field, holds.time_apply field,
    holds.markers_apply field⟩
  rw [Field.perform_apart]
  · exact holds.key
  · cases field <;> simp [Field.child, fireBaseMessages, fireBaseLastMessage]

end Holds

/-! ## The tree after a write -/

theorem segments_messages : segments fireBaseMessages = [fireBaseMessages] :=
  segments_name (by decide)

theorem messagesPath_eq {chatKey : Option String} (named : IsName (interpolate chatKey)) :
    messagesPath chatKey = [interpolate chatKey, fireBaseMessages] := by
  rw [messagesPath, segments_join named, segments_messages]

/-- A write is one `set` or one `update` below its chat. -/
theorem Write.Named.perform_cases {write : Write} (named : write.Named) :
    (∃ rest new, write.perform = Value.setAt (interpolate write.chatKey :: rest) new ∧
      write.field.perform = Value.setAt rest new) ∨
    ∃ rest children, write.perform = Value.updateAt (interpolate write.chatKey :: rest) children ∧
      write.field.perform = Value.updateAt rest children := by
  obtain ⟨chatKey, field⟩ := write
  have chat : IsName (interpolate chatKey) := named.chat
  cases field with
  | message newKey value userId =>
    have message : IsName newKey := named.message _ rfl
    refine Or.inl ⟨[fireBaseMessages, newKey], messageValue value userId, ?_, rfl⟩
    funext tree
    rw [Write.perform, messagesPath_eq chat, segments_name message]
    rfl
  | lastMessage last =>
    refine Or.inr ⟨[fireBaseLastMessage], _, ?_, rfl⟩
    funext tree
    rw [Write.perform, segments_join chat, segments_name (by decide)]
  | lastTimeStamp time =>
    refine Or.inr ⟨[], _, ?_, rfl⟩
    funext tree
    rw [Write.perform, segments_name chat]
  | lastSeen userId key =>
    refine Or.inr ⟨["users", idKey userId], _, ?_, rfl⟩
    funext tree
    rw [Write.perform, segments_join chat, segments_join (by decide),
      segments_name (isName_idKey userId)]

/-- A write changes one chat, as it does in the database. -/
theorem Write.Named.child_perform {write : Write} (named : write.Named) (tree : Value)
    (chat : String) : child (write.perform tree).entries chat =
      if interpolate write.chatKey = chat then write.field.perform (child tree.entries chat)
      else child tree.entries chat := by
  split
  · next here =>
    subst here
    rcases named.perform_cases with ⟨rest, new, whole, below⟩ | ⟨rest, children, whole, below⟩
    · rw [whole, below]
      exact Value.getAt_setAt_append [interpolate write.chatKey] rest new tree
    · rw [whole, below]
      exact Value.getAt_updateAt_append [interpolate write.chatKey] rest children tree
  · next other =>
    have different := Ne.symm other
    rcases named.perform_cases with ⟨rest, new, whole, -⟩ | ⟨rest, children, whole, -⟩
    · rw [whole]
      exact Value.getAt_setAt_apart different [] rest [] new tree
    · rw [whole]
      exact Value.getAt_updateAt_apart different [] rest [] children tree

namespace Represents

variable {tree : Value} {db : Database}

theorem apply {write : Write} (represents : Represents tree db) (named : write.Named) :
    Represents (write.perform tree) (db.apply write) := by
  constructor
  · rcases named.perform_cases with ⟨rest, new, whole, -⟩ | ⟨rest, children, whole, -⟩
    · rw [whole]
      exact represents.sorted.setAt named.chat rest new
    · rw [whole]
      exact represents.sorted.updateAt named.chat rest children
  · intro chat isName
    rw [named.child_perform, db.apply_eq]
    split
    · exact (represents.holds chat isName).apply write.field
    · exact represents.holds chat isName

theorem applyAll {writes : List Write} (represents : Represents tree db)
    (named : ∀ write ∈ writes, write.Named) :
    Represents (writes.foldl (fun tree write => write.perform tree) tree)
      (writes.foldl Database.apply db) := by
  induction writes generalizing tree db with
  | nil => exact represents
  | cons write rest ih =>
    exact ih (represents.apply (named write List.mem_cons_self)) fun other member =>
      named other (List.mem_cons_of_mem write member)

end Represents

/-! ## The writes of a run -/

def NetworkAction.Named : NetworkAction → Prop
  | .chatKey _ key => IsName (interpolate key)
  | .widget _ action => ∀ key ∈ action.newKey, IsName key
  | _ => True

instance : (action : NetworkAction) → Decidable action.Named
  | .chatKey _ key => inferInstanceAs (Decidable (IsName (interpolate key)))
  | .widget _ action => inferInstanceAs (Decidable (∀ key ∈ action.newKey, IsName key))
  | .setUser .. | .dispose _ | .deliver _ => isTrue trivial

structure Filed (db : Database) (network : Network) : Prop where
  widgets : ∀ index, Keyed (fun key => IsName (interpolate key)) (network.widgets index)
  queued : ∀ client, ∀ write ∈ network.outbox client, write.Named
  arrived : ∀ write ∈ network.arrived, write.Named
  applied : network.db = network.arrived.foldl Database.apply db

namespace Filed

variable {db : Database} {network next : Network} {action : NetworkAction}

theorem start (db : Database) (users : Nat → Option Int) : Filed db (Network.start db users) :=
  ⟨fun _ => Keyed.start, by simp [Network.start], by simp [Network.start], rfl⟩

theorem named_writes {user : Option Int} {widget after : ChatWidgetState} {act : WidgetAction}
    {writes : List Write} (keyed : Keyed (fun key => IsName (interpolate key)) widget)
    (named : ∀ key ∈ act.newKey, IsName key)
    (taken : ChatWidgetState.Stepped network.db user widget act after writes) :
    ∀ write ∈ writes, write.Named := by
  intro write member
  refine ⟨(keyed.stepped taken).2 write member, fun posting stores => ?_⟩
  rcases taken.writes_cases with ⟨sent, rfl, allocated⟩ | markers
  · rw [sent.writes_eq] at member
    simp only [List.mem_cons, List.not_mem_nil, or_false] at member
    rcases member with rfl | rfl | rfl
    · rw [Posting.posting_messageWrite] at stores
      cases stores
      exact named _ allocated
    · cases stores
    · cases stores
  · obtain ⟨id, key, field⟩ := markers write member
    obtain ⟨chatKey, _⟩ := write
    cases field
    cases stores

theorem update {widgets : Nat → ChatWidgetState} {index : Nat} {widget : ChatWidgetState}
    {Allowed : Option String → Prop} (all : ∀ index, Keyed Allowed (widgets index))
    (keyed : Keyed Allowed widget) (other : Nat) :
    Keyed Allowed (Function.update widgets index widget other) := by
  by_cases here : other = index
  · subst here
    rw [Function.update_self]
    exact keyed
  · rw [Function.update_of_ne here]
    exact all other

theorem step {owner : Nat → Nat} (filed : Filed db network) (named : action.Named)
    (taken : network.step owner action = some next) : Filed db next := by
  cases action with
  | setUser client user =>
    cases taken
    exact ⟨filed.widgets, filed.queued, filed.arrived, filed.applied⟩
  | chatKey index key =>
    simp only [Network.step] at taken
    split at taken <;> cases taken
    exact ⟨update filed.widgets ((filed.widgets index).onChatKey named), filed.queued,
      filed.arrived, filed.applied⟩
  | widget index act =>
    simp only [Network.step] at taken
    split at taken
    · split at taken
      · next widget writes stepped =>
        cases taken
        have stepped := ChatWidgetState.stepped_of_step stepped
        have keyed := filed.widgets index
        refine ⟨update filed.widgets (keyed.stepped stepped).1, ?_, filed.arrived, filed.applied⟩
        intro client write member
        rcases Network.mem_outbox_added member with old | new
        · exact filed.queued client write old
        · exact named_writes keyed named stepped write new
      · cases taken
    · cases taken
  | dispose index =>
    simp only [Network.step] at taken
    split at taken <;> cases taken
    exact ⟨update filed.widgets (filed.widgets index).dispose, filed.queued, filed.arrived,
      filed.applied⟩
  | deliver client =>
    simp only [Network.step] at taken
    split at taken
    · next write rest waiting =>
      cases taken
      constructor
      · intro index
        change Keyed _ (network.notify write index)
        unfold Network.notify
        split
        · split
          · exact (filed.widgets index).onStored
          · exact filed.widgets index
        · exact filed.widgets index
      · exact fun other queued member => filed.queued other queued
          (Network.mem_outbox_left waiting member)
      · intro other member
        rcases List.mem_append.mp member with old | new
        · exact filed.arrived other old
        · rw [List.mem_singleton.mp new]
          exact filed.queued client write (by simp [waiting])
      · simp only [List.foldl_append, List.foldl_cons, List.foldl_nil, ← filed.applied]
    · cases taken

end Filed

def Network.tree (network : Network) (tree : Value) : Value :=
  network.arrived.foldl (fun tree write => write.perform tree) tree

variable {owner : Nat → Nat} {db : Database} {users : Nat → Option Int} {tree : Value}
  {actions : List NetworkAction} {final : Network}

theorem filed_of_run (named : ∀ action ∈ actions, action.Named)
    (reached : run (Network.step owner) (Network.start db users) actions = some final) :
    Filed db final := by
  refine run_invariant (Filed db) ?_ (Filed.start db users)
    ((meets_iff_forall reached).mpr named) reached
  intro network action next filed named taken
  exact filed.step named taken

theorem represents_of_run (represents : Represents tree db)
    (named : ∀ action ∈ actions, action.Named)
    (reached : run (Network.step owner) (Network.start db users) actions = some final) :
    Represents (final.tree tree) final.db := by
  have filed := filed_of_run named reached
  rw [filed.applied]
  exact represents.applyAll filed.arrived

/-! ## Reading messages -/

theorem Encodes.decodes {entry : String × Value} {message : Messages}
    (encodes : Encodes entry message) : decodeMessage entry = .ok message.decoded := by
  obtain ⟨json, map, typed, read⟩ := encodes.typed
  rw [decodeMessage, map, ← read]
  have decoded := Session.Messages.fromJson_of_typed json typed
  simp only [Value.toMap, Value.asMap, bind, Except.bind, decoded]
  rfl

theorem Query.window_related {entries : Entries} {stored : List Messages} (query : Query)
    (all : List.Forall₂ Encodes entries stored) :
    List.Forall₂ Encodes (query.window Prod.fst entries) (query.window Messages.key stored) := by
  have bounded : List.Forall₂ Encodes
      (query.bound.elim entries fun bound => endAt Prod.fst bound entries)
      (query.bound.elim stored fun bound => endAt Messages.key bound stored) := by
    cases query.bound with
    | none => exact all
    | some bound =>
      refine List.rel_filter ?_ all
      intro entry message encodes
      simp only [encodes.key]
  unfold Query.window limitToLast
  rw [bounded.length_eq]
  exact List.forall₂_drop _ bounded

theorem mapM_decodeMessage {reply : Entries} {response : List Messages}
    (all : List.Forall₂ Encodes reply response) :
    reply.mapM decodeMessage = .ok (response.map Messages.decoded) := by
  induction all with
  | nil => rfl
  | cons first rest ih =>
    rw [List.mapM_cons, first.decodes, ih]
    rfl

/-- Whatever was sent by whom and arrived in whichever order, a query below the messages
of a conversation is answered with its window of the log, and each entry is decoded. -/
theorem reads_decode (represents : Represents tree db) (named : ∀ action ∈ actions, action.Named)
    (reached : run (Network.step owner) (Network.start db users) actions = some final)
    {chatKey : Option String} (chat : IsName (interpolate chatKey)) (query : Query)
    {reply : Entries} (replied : reply.Perm
      (query.window Prod.fst ((final.tree tree).getAt (messagesPath chatKey)).entries)) :
    ∃ response : List Messages,
      response.Perm (query.window Messages.key (final.db (interpolate chatKey)).stored) ∧
      reply.mapM decodeMessage = .ok (response.map Messages.decoded) := by
  have holds := (represents_of_run represents named reached).holds _ chat
  rw [messagesPath_eq chat] at replied
  obtain ⟨response, encoded, same⟩ :=
    List.perm_comp_forall₂ replied (query.window_related holds.messages.entries)
  exact ⟨response, same, mapM_decodeMessage encoded⟩

def newChatTree : Value :=
  .map [("a", .map [("lastTimeStamp", .int 5), ("users", .map [("7", .map [("userId", .int 7)])])])]

def newChatDb : Database :=
  Function.update (fun _ => Conversation.empty) "a" { Conversation.empty with lastTimeStamp := some 5 }

theorem newChat_represents : Represents newChatTree newChatDb := by
  refine ⟨⟨by decide, by decide⟩, fun chat _ => ?_⟩
  by_cases here : chat = "a"
  · subst here
    have unmarked : ∀ id, (child newChatTree.entries "a").getAt ["users", idKey id, "lastSeen"] =
        .null := by
      intro id
      change child (child [("7", Value.map [("userId", .int 7)])] (idKey id)).entries "lastSeen" = _
      by_cases user : idKey id = "7"
      · rw [user]
        rfl
      · have stranger : child [("7", Value.map [("userId", .int 7)])] (idKey id) = .null := by
          rw [child, lookup_entry, if_neg user]
          rfl
        rw [stranger]
        rfl
    have stored : newChatDb "a" = { Conversation.empty with lastTimeStamp := some 5 } :=
      Function.update_self _ _ _
    rw [stored]
    exact ⟨rfl, ⟨.nil, rfl⟩, ⟨rfl, rfl⟩, rfl, by decide, unmarked⟩
  · have absent : child newChatTree.entries chat = .null := by
      change child [("a", _)] chat = _
      rw [child, lookup_entry, if_neg here]
      rfl
    have stored : newChatDb chat = Conversation.empty := Function.update_of_ne here _ _
    rw [absent, stored]
    exact ⟨rfl, ⟨.nil, rfl⟩, ⟨rfl, rfl⟩, rfl, rfl, fun _ => rfl⟩

def helloInA : List NetworkAction :=
  [.chatKey 0 (some "a"), .widget 0 (.firstReadServed 0), .widget 0 (.firstReadDone 0 []),
   .widget 0 (.subscribed 0), .widget 0 (.send "hello" 9 "k1"), .deliver 0, .deliver 0, .deliver 0,
   .widget 0 (.childAdded 0), .deliver 0]

theorem helloInA_decodes : ∃ final,
    run (Network.step id) (Network.start newChatDb fun _ => some 7) helloInA = some final ∧
      (limitToLast 11 ((final.tree newChatTree).getAt (messagesPath (some "a"))).entries).mapM
        decodeMessage = .ok [⟨some "k1", some ⟨some "hello", some 9, some 1⟩, some 7⟩] := by
  have found : (run (Network.step id) (Network.start newChatDb fun _ => some 7) helloInA).any
      (fun final => decide ((final.db "a").stored = [⟨"k1", ⟨some "hello", 9, 1⟩, 7⟩])) = true := by
    decide
  obtain ⟨final, reached, test⟩ := exists_of_run found
  have chat : IsName (interpolate (some "a")) := by decide
  obtain ⟨response, same, decoded⟩ :=
    reads_decode newChat_represents (by decide) reached chat ⟨none, 11⟩ (List.Perm.refl _)
  have stored : (final.db "a").stored = _ := of_decide_eq_true test
  simp only [Query.window, interpolate, stored, Option.elim_none] at same
  rw [List.perm_singleton.mp same] at decoded
  exact ⟨final, reached, decoded⟩

end SparSomnong.Chat
