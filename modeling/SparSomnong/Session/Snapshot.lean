import Mathlib.Algebra.Order.Ring.Int
import Mathlib.Data.List.Sort
import SparSomnong.Semantics.Value

/-! A snapshot of a user's chats, and its two readers.

MainPage counts the chats and compares raw maps; LastChatProduct decodes every
chat and sorts the list. Both listen to the same query, which returns the chats
with an entry of the user under `users`, or null where there is none.
-/

set_option autoImplicit false

namespace SparSomnong.Session

open Semantics

/-! ## Decoding -/

structure LastMessage where
  data : Option String
  key : Option String
  type : Option Int
  deriving DecidableEq, Repr

structure Message where
  data : Option String
  lastTimeStamp : Option Int
  type : Option Int
  deriving DecidableEq, Repr

structure User where
  lastSeen : Option String
  userId : Option Int
  deriving DecidableEq, Repr

structure Messages where
  key : Option String
  message : Option Message
  userId : Option Int
  deriving DecidableEq, Repr

structure ChatResponse where
  key : Option String
  lastMessage : Option LastMessage
  lastTimeStamp : Option Int
  messages : Option (List (String × Option Messages))
  users : Option (List (String × Option User))
  deriving DecidableEq, Repr

def nestedMap {T : Type} (fromJson : Entries → Except Thrown T) (value : Value) :
    Except Thrown (Option (List (String × Option T))) := do
  match ← value.asMap with
  | none => return none
  | some entries => return some (← entries.mapM fun entry => do
      return (entry.1, ← nested fromJson entry.2))

def LastMessage.fromJson (json : Entries) : Except Thrown LastMessage := do
  return ⟨← (child json "data").asString, ← (child json "key").asString,
    ← (child json "type").asInt⟩

def Message.fromJson (json : Entries) : Except Thrown Message := do
  return ⟨← (child json "data").asString, ← (child json "lastTimeStamp").asInt,
    ← (child json "type").asInt⟩

def User.fromJson (json : Entries) : Except Thrown User := do
  return ⟨← (child json "lastSeen").asString, ← (child json "userId").asInt⟩

def Messages.fromJson (json : Entries) : Except Thrown Messages := do
  return ⟨← (child json "key").asString, ← nested Message.fromJson (child json "message"),
    ← (child json "userId").asInt⟩

def ChatResponse.fromJson (json : Entries) : Except Thrown ChatResponse := do
  return ⟨← (child json "key").asString, ← nested LastMessage.fromJson (child json "lastMessage"),
    ← (child json "lastTimeStamp").asInt, ← nestedMap Messages.fromJson (child json "messages"),
    ← nestedMap User.fromJson (child json "users")⟩

/-! ## The readers -/

/-- What the ChatProvider keeps of the chats. -/
structure ChatSummary where
  numberOfChat : Nat := 0
  hasSeenAll : Bool := true
  deriving DecidableEq, Repr

def idKey (userId : Int) : String := toString userId

/-- The tests of MainPage on one chat: true where the flag is cleared. -/
def unseen (userId : Int) (chat : Value) : Except Thrown Bool := do
  let lastMessage ← chat.index "lastMessage"
  if lastMessage.isNull then return false
  let key ← lastMessage.index "key"
  let users ← chat.index "users"
  let user ← users.index (idKey userId)
  let lastSeen ← user.index "lastSeen"
  return !key.same lastSeen

def seenAll (userId : Int) : Entries → Bool → Except Thrown Bool
  | [], hasSeenAll => .ok hasSeenAll
  | (_, chat) :: rest, hasSeenAll => do
    if ← unseen userId chat then seenAll userId rest false else seenAll userId rest hasSeenAll

def onChatChange (userId : Int) (value : Value) (summary : ChatSummary) : ChatSummary :=
  -- the number is stored before the loop, the flag after it; for null, `value.values` throws
  -- in between
  match value.asMap with
  | .error _ => summary
  | .ok none => { summary with numberOfChat := 0 }
  | .ok (some chats) =>
    let counted := { summary with numberOfChat := chats.length }
    match seenAll userId chats true with
    | .ok hasSeenAll => { counted with hasSeenAll }
    | .error _ => counted

/-- `b.lastTimeStamp - a.lastTimeStamp`, in 64 bits. -/
def compareTime (a b : ChatResponse) : Int :=
  Int.bmod (b.lastTimeStamp.getD 0 - a.lastTimeStamp.getD 0) (2 ^ 64)

def sortByTime (chatList : List ChatResponse) : Except Thrown (List ChatResponse) :=
  -- with two or more chats each is compared with another one, and the subtraction throws where
  -- a time stamp is missing
  if chatList.length ≤ 1 then .ok chatList
  else if chatList.all fun chat => chat.lastTimeStamp.isSome then
    .ok (chatList.insertionSort fun a b => compareTime a b ≤ 0)
  else .error .noSuchMethod

def decodeEntry (entry : String × Value) : Except Thrown ChatResponse := do
  let json ← entry.2.toMap
  let chat ← ChatResponse.fromJson json
  return { chat with key := some entry.1 }

def listenToProductChatFirstTime (value : Value) : Except Thrown (List ChatResponse) := do
  -- the list LastChatProduct adds to its stream
  let chats ← value.toMap
  let chatList ← chats.mapM decodeEntry
  sortByTime chatList

def lastSeenOf (users : List (String × Option User)) (id : Int) : Option String :=
  ((users.lookup (idKey id)).join).bind User.lastSeen

def ChatResponse.showBadge (id : Int) (data : ChatResponse) : Bool :=
  match data.users, data.lastMessage with
  | some users, some lastMessage =>
    if lastMessage.key = lastSeenOf users id then false else true
  | _, _ => false

/-! ## Records of the declared types

A stored record has the fields its model class declares, each of the declared
type or absent, and perhaps others. On such records decoding is a total function.
-/

def LastMessage.typed (json : Entries) : Bool :=
  (child json "data").isString && (child json "key").isString && (child json "type").isInt

def Message.typed (json : Entries) : Bool :=
  (child json "data").isString && (child json "lastTimeStamp").isInt && (child json "type").isInt

def User.typed (json : Entries) : Bool :=
  (child json "lastSeen").isString && (child json "userId").isInt

def Messages.typed (json : Entries) : Bool :=
  (child json "key").isString && (child json "message").isMapOf Message.typed &&
    (child json "userId").isInt

def typedMap (typed : Entries → Bool) (entries : Entries) : Bool :=
  entries.all fun entry => entry.2.isMapOf typed

def ChatResponse.typed (json : Entries) : Bool :=
  (child json "key").isString && (child json "lastMessage").isMapOf LastMessage.typed &&
    (child json "lastTimeStamp").isInt &&
    (child json "messages").isMapOf (typedMap Messages.typed) &&
    (child json "users").isMapOf (typedMap User.typed)

def LastMessage.read (json : Entries) : LastMessage :=
  ⟨(child json "data").string?, (child json "key").string?, (child json "type").int?⟩

def Message.read (json : Entries) : Message :=
  ⟨(child json "data").string?, (child json "lastTimeStamp").int?, (child json "type").int?⟩

def User.read (json : Entries) : User :=
  ⟨(child json "lastSeen").string?, (child json "userId").int?⟩

def Messages.read (json : Entries) : Messages :=
  ⟨(child json "key").string?, (child json "message").map?.map Message.read,
    (child json "userId").int?⟩

def readMap {T : Type} (read : Entries → T) (entries : Entries) : List (String × Option T) :=
  entries.map fun entry => (entry.1, entry.2.map?.map read)

def ChatResponse.read (json : Entries) : ChatResponse :=
  ⟨(child json "key").string?, (child json "lastMessage").map?.map LastMessage.read,
    (child json "lastTimeStamp").int?,
    (child json "messages").map?.map (readMap Messages.read),
    (child json "users").map?.map (readMap User.read)⟩

section
variable {T : Type} {fromJson : Entries → Except Thrown T} {typed : Entries → Bool}
  {read : Entries → T}

theorem nestedMap_of_typed (decodes : ∀ json, typed json = true → fromJson json = .ok (read json))
    {value : Value} (wellTyped : value.isMapOf (typedMap typed) = true) :
    nestedMap fromJson value = .ok (value.map?.map (readMap read)) := by
  rcases Value.isMapOf_iff.mp wellTyped with rfl | ⟨entries, rfl, good⟩
  · rfl
  · have each : entries.mapM (fun entry => do return (entry.1, ← nested fromJson entry.2)) =
        .ok (readMap read entries) := by
      apply mapM_of_ok
      intro entry member
      rw [nested_of_typed decodes (List.all_eq_true.mp good entry member)]
      rfl
    simp only [nestedMap, Value.asMap, Value.map?, Option.map_some]
    exact congrArg (fun decoded => do return some (← decoded)) each

end

theorem LastMessage.fromJson_of_typed (json : Entries) (wellTyped : LastMessage.typed json = true) :
    LastMessage.fromJson json = .ok (LastMessage.read json) := by
  simp only [LastMessage.typed, Bool.and_eq_true] at wellTyped
  obtain ⟨⟨data, key⟩, type⟩ := wellTyped
  rw [LastMessage.fromJson, Value.asString_of_isString data, Value.asString_of_isString key,
    Value.asInt_of_isInt type]
  rfl

theorem Message.fromJson_of_typed (json : Entries) (wellTyped : Message.typed json = true) :
    Message.fromJson json = .ok (Message.read json) := by
  simp only [Message.typed, Bool.and_eq_true] at wellTyped
  obtain ⟨⟨data, time⟩, type⟩ := wellTyped
  rw [Message.fromJson, Value.asString_of_isString data, Value.asInt_of_isInt time,
    Value.asInt_of_isInt type]
  rfl

theorem User.fromJson_of_typed (json : Entries) (wellTyped : User.typed json = true) :
    User.fromJson json = .ok (User.read json) := by
  simp only [User.typed, Bool.and_eq_true] at wellTyped
  rw [User.fromJson, Value.asString_of_isString wellTyped.1, Value.asInt_of_isInt wellTyped.2]
  rfl

theorem Messages.fromJson_of_typed (json : Entries) (wellTyped : Messages.typed json = true) :
    Messages.fromJson json = .ok (Messages.read json) := by
  simp only [Messages.typed, Bool.and_eq_true] at wellTyped
  obtain ⟨⟨key, message⟩, user⟩ := wellTyped
  rw [Messages.fromJson, Value.asString_of_isString key, Value.asInt_of_isInt user,
    nested_of_typed Message.fromJson_of_typed message]
  rfl

theorem ChatResponse.fromJson_of_typed (json : Entries)
    (wellTyped : ChatResponse.typed json = true) :
    ChatResponse.fromJson json = .ok (ChatResponse.read json) := by
  simp only [ChatResponse.typed, Bool.and_eq_true] at wellTyped
  obtain ⟨⟨⟨⟨key, last⟩, time⟩, messages⟩, users⟩ := wellTyped
  rw [ChatResponse.fromJson, Value.asString_of_isString key, Value.asInt_of_isInt time,
    nested_of_typed LastMessage.fromJson_of_typed last,
    nestedMap_of_typed Messages.fromJson_of_typed messages,
    nestedMap_of_typed User.fromJson_of_typed users]
  rfl

end SparSomnong.Session
