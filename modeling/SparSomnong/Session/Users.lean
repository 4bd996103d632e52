import SparSomnong.Semantics.Value

/-! Users, as the server describes them, and the UserProvider that holds the one
who is logged in. -/

set_option autoImplicit false

namespace SparSomnong.Session

open Semantics

structure Position where
  id : Option Int
  name_kh : Option String
  name_en : Option String
  name_ch : Option String
  deriving DecidableEq, Repr

structure UserModel where
  token : Option String := none
  id : Option Int := none
  client_id : Option Int := none
  uid : Option String := none
  name : Option String := none
  position_id : Option Int := none
  phone : Option String := none
  email : Option String := none
  photo : Option String := none
  position : Option Position := none
  deriving DecidableEq, Repr

structure UserResponse where
  message : Option String
  data : Option UserModel
  success : Option Bool
  code : Option Int
  deriving DecidableEq, Repr

def Position.fromJson (json : Entries) : Except Thrown Position := do
  return ⟨← (child json "id").asInt, ← (child json "name_kh").asString,
    ← (child json "name_en").asString, ← (child json "name_ch").asString⟩

def UserModel.fromJson (json : Entries) : Except Thrown UserModel := do
  return {
    token := ← (child json "token").asString
    id := ← (child json "id").asInt
    client_id := ← (child json "client_id").asInt
    uid := ← (child json "uid").asString
    name := ← (child json "name").asString
    position_id := ← (child json "position_id").asInt
    phone := ← (child json "phone").asString
    email := ← (child json "email").asString
    photo := ← (child json "photo").asString
    position := ← nested Position.fromJson (child json "position") }

def UserResponse.fromJson (json : Entries) : Except Thrown UserResponse := do
  return ⟨← (child json "message").asString, ← nested UserModel.fromJson (child json "data"),
    ← (child json "success").asBool, ← (child json "code").asInt⟩

/-- What comes of a request: nothing, or a status and a body. -/
inductive Reply where
  | failed
  | answered (statusCode : Nat) (body : Value)
  deriving Repr

def getUser : Reply → Except Thrown (Option UserModel)
  -- null on 401; every other status than 200 throws
  | .failed => .error (.exception 0)
  | .answered statusCode body =>
    if statusCode = 200 then do
      let userResponse ← UserResponse.fromJson (← body.toMap)
      return userResponse.data
    else if statusCode = 401 then .ok none
    else .error (.exception statusCode)

def post : Reply → Except Thrown UserResponse
  -- the client throws on every status but 2xx and 304
  | .failed => .error (.exception 0)
  | .answered statusCode body =>
    if 200 ≤ statusCode ∧ statusCode < 300 ∨ statusCode = 304 then do
      UserResponse.fromJson (← body.toMap)
    else .error (.exception statusCode)

structure CurrencyModel where
  key : Option String
  id : Option Int
  name : Option String
  amount : Option Rat
  deriving DecidableEq, Repr

def CurrencyModel.fromJson (json : Entries) : Except Thrown CurrencyModel := do
  return ⟨← (child json "key").asString, ← (child json "id").asInt, ← (child json "name").asString,
    ← (child json "amount").asDouble⟩

/-- `addAll` of one entry: a key that is there keeps its place. -/
def addEntry {T : Type} (key : String) (value : T) (entries : List (String × T)) :
    List (String × T) :=
  if entries.any fun entry => entry.1 = key then
    entries.map fun entry => if entry.1 = key then (key, value) else entry
  else entries ++ [(key, value)]

theorem lookup_addEntry {T : Type} (key : String) (value : T) (entries : List (String × T)) :
    (addEntry key value entries).lookup key = some value := by
  unfold addEntry
  induction entries with
  | nil => simp
  | cons first rest ih =>
    obtain ⟨name, other⟩ := first
    by_cases here : name = key
    · simp [here]
    · have later : ¬ key = name := fun same => here same.symm
      by_cases found : rest.any (fun entry => decide (entry.1 = key)) = true
      · rw [if_pos found] at ih
        rw [if_pos (by simp only [List.any_cons, found, Bool.or_true]), List.map_cons,
          if_neg here, List.lookup_cons, beq_eq_false_iff_ne.mpr later]
        exact ih
      · rw [if_neg found] at ih
        rw [if_neg (by simpa [here] using found), List.cons_append, List.lookup_cons,
          beq_eq_false_iff_ne.mpr later]
        exact ih

def dollar : CurrencyModel := ⟨some "dollar", some 0, some "dollar", some 1⟩

def getCurrency : Reply → Except Thrown (Option (List (String × CurrencyModel)))
  -- the first of the list under each key, and the dollar
  | .failed => .error (.exception 0)
  | .answered statusCode body =>
    if statusCode = 200 then do
      let data ← (← body.index "data").toMap
      let currency ← data.mapM fun (key, value) => do
        return (key, ← CurrencyModel.fromJson (← (← value.item 0).toMap))
      return some (addEntry "dollar" dollar currency)
    else if statusCode = 401 then .ok none
    else .error (.exception statusCode)

theorem lookup_dollar_of_getCurrency {reply : Reply} {currency : List (String × CurrencyModel)}
    (decoded : getCurrency reply = .ok (some currency)) : currency.lookup "dollar" = some dollar := by
  cases reply with
  | failed => cases decoded
  | answered statusCode body =>
    unfold getCurrency at decoded
    dsimp only at decoded
    by_cases found : statusCode = 200
    · rw [if_pos found] at decoded
      obtain ⟨value, -, decoded⟩ := bind_eq_ok decoded
      obtain ⟨data, -, decoded⟩ := bind_eq_ok decoded
      obtain ⟨entries, -, decoded⟩ := bind_eq_ok decoded
      cases decoded
      exact lookup_addEntry "dollar" dollar entries
    · rw [if_neg found] at decoded
      split at decoded
      · cases decoded
      · cases decoded

structure UserProvider where
  user : Option UserModel := none
  currencyModel : Option (List (String × CurrencyModel)) := none
  currencyKey : Option String := none
  deriving DecidableEq, Repr

inductive UserOperation where
  | setUser (user : Option UserModel)
  | setCurrency (currencyModel : Option (List (String × CurrencyModel)))
  | setCurrencyKey (value : Option String)
  | clearCurrency
  | clear
  deriving DecidableEq, Repr

namespace UserProvider

def perform (provider : UserProvider) : UserOperation → UserProvider
  | .setUser user => { provider with user }
  | .setCurrency currencyModel => { provider with currencyModel }
  | .setCurrencyKey value => { provider with currencyKey := value }
  | .clearCurrency => { provider with currencyModel := provider.currencyModel.map fun _ => [] }
  | .clear => { provider with user := none }

def notifies (provider : UserProvider) : UserOperation → Bool
  -- `clear` leaves it out, and `clearCurrency` throws where there is no table
  | .clear => false
  | .clearCurrency => provider.currencyModel.isSome
  | _ => true

end UserProvider

end SparSomnong.Session
