import Mathlib.Data.Rat.Defs

/-! Values of the type `dynamic`, as JSON and the database hand them over.

Reading a child of null, casting to the wrong type and indexing past the end
throw. A cast of null succeeds and yields null.
-/

set_option autoImplicit false

namespace SparSomnong.Semantics

inductive Value where
  | null
  | bool (value : Bool)
  | int (value : Int)
  | double (value : Rat)
  | string (value : String)
  | list (items : List Value)
  | map (entries : List (String × Value))
  deriving Repr

/-- Exceptions of the reads, and those thrown with the status of a reply. -/
inductive Thrown where
  | noSuchMethod
  | typeError
  | rangeError
  | exception (statusCode : Nat)
  deriving DecidableEq, Repr

abbrev Entries := List (String × Value)

/-- The value under a key of a map, null where there is none. -/
def child (entries : Entries) (key : String) : Value :=
  (entries.lookup key).getD .null

namespace Value

def isNull : Value → Bool
  | null => true
  | _ => false

/-- `value[key]` with a string. -/
def index (key : String) : Value → Except Thrown Value
  | map entries => .ok (child entries key)
  | list _ | string _ => .error .typeError
  | _ => .error .noSuchMethod

/-- `value[position]` with a number. The keys of a map are strings. -/
def item (position : Nat) : Value → Except Thrown Value
  | list items =>
    match items[position]? with
    | some found => .ok found
    | none => .error .rangeError
  | map _ => .ok .null
  | string text =>
    match text.toList[position]? with
    | some letter => .ok (.string (String.singleton letter))
    | none => .error .rangeError
  | _ => .error .noSuchMethod

def asString : Value → Except Thrown (Option String)
  | null => .ok none
  | string value => .ok (some value)
  | _ => .error .typeError

def asInt : Value → Except Thrown (Option Int)
  | null => .ok none
  | int value => .ok (some value)
  | _ => .error .typeError

def asDouble : Value → Except Thrown (Option Rat)
  -- an integer is not a double
  | null => .ok none
  | double value => .ok (some value)
  | _ => .error .typeError

def asBool : Value → Except Thrown (Option Bool)
  | null => .ok none
  | bool value => .ok (some value)
  | _ => .error .typeError

def asMap : Value → Except Thrown (Option Entries)
  | null => .ok none
  | map entries => .ok (some entries)
  | _ => .error .typeError

def asList : Value → Except Thrown (Option (List Value))
  | null => .ok none
  | list items => .ok (some items)
  | _ => .error .typeError

/-- The double nearest to an integer, the even one of two. -/
def toDouble (value : Int) : Rat :=
  let unit := Nat.pow 2 (value.natAbs.log2 - 52)
  let quotient := value.natAbs / unit
  let remainder := value.natAbs % unit
  let rounded :=
    if unit < 2 * remainder ∨ unit = 2 * remainder ∧ quotient % 2 = 1 then quotient + 1
    else quotient
  Rat.ofInt (value.sign * Int.ofNat (rounded * unit))

def asNum : Value → Except Thrown (Option Rat)
  | null => .ok none
  | int value => .ok (some (toDouble value))
  | double value => .ok (some value)
  | _ => .error .typeError

/-- A map whose methods are called at once, so that null throws as well. -/
def toMap (value : Value) : Except Thrown Entries :=
  match value.asMap with
  | .ok (some entries) => .ok entries
  | .ok none => .error .noSuchMethod
  | .error thrown => .error thrown

/-- `==`: by value, except that lists and maps are equal to themselves only. -/
def same : Value → Value → Bool
  | null, null => true
  | bool a, bool b => a == b
  | int a, int b => a == b
  | double a, double b => a == b
  | int a, double b => (a : Rat) == b
  | double a, int b => a == (b : Rat)
  | string a, string b => a == b
  | _, _ => false

end Value

/-- `value == null ? null : T.fromJson(value as Map)`. -/
def nested {T : Type} (fromJson : Entries → Except Thrown T) (value : Value) :
    Except Thrown (Option T) := do
  match ← value.asMap with
  | none => return none
  | some json => return some (← fromJson json)

def nestedList {T : Type} (fromJson : Entries → Except Thrown T) (value : Value) :
    Except Thrown (Option (List (Option T))) := do
  match ← value.asList with
  | none => return none
  | some items => return some (← items.mapM (nested fromJson))

/-! ## Decoders that call themselves -/

theorem sizeOf_child_le (json : Entries) (key : String) : sizeOf (child json key) ≤ sizeOf json := by
  unfold child
  induction json with
  | nil => exact Nat.le_refl 1
  | cons entry rest ih =>
    obtain ⟨name, value⟩ := entry
    rw [List.lookup_cons, List.cons.sizeOf_spec, Prod.mk.sizeOf_spec]
    cases key == name with
    | true =>
      dsimp only [Option.getD_some]
      omega
    | false =>
      dsimp only
      omega

/-- `nested`, for a decoder of smaller maps only. -/
def nestedWithin {T : Type} (value : Value)
    (fromJson : (json : Entries) → sizeOf json < sizeOf value → Except Thrown T) :
    Except Thrown (Option T) :=
  match value with
  | .null => .ok none
  | .map json => do return some (← fromJson json (by rw [Value.map.sizeOf_spec]; omega))
  | _ => .error .typeError

def nestedListWithin {T : Type} (value : Value)
    (fromJson : (json : Entries) → sizeOf json < sizeOf value → Except Thrown T) :
    Except Thrown (Option (List (Option T))) :=
  match value with
  | .null => .ok none
  | .list items => do
    return some (← items.attach.mapM fun item => nestedWithin item.1 fun json smaller =>
      fromJson json (by
        have within := List.sizeOf_lt_of_mem item.2
        rw [Value.list.sizeOf_spec]
        omega))
  | _ => .error .typeError

theorem nestedWithin_eq {T : Type} (value : Value) (fromJson : Entries → Except Thrown T) :
    (nestedWithin value fun json _ => fromJson json) = nested fromJson value := by
  cases value <;> rfl

theorem nestedListWithin_eq {T : Type} (value : Value) (fromJson : Entries → Except Thrown T) :
    (nestedListWithin value fun json _ => fromJson json) = nestedList fromJson value := by
  cases value with
  | list items =>
    unfold nestedListWithin nestedList
    simp only [nestedWithin_eq, Value.asList]
    rw [List.mapM_subtype (fun _ _ => rfl), List.unattach_attach]
    rfl
  | _ => rfl

namespace Value

/-- What an optional part is written as. -/
def orNull {T : Type} (write : T → Value) (value : Option T) : Value :=
  value.elim .null write

/-! ## Types of values -/

def isString : Value → Bool
  | null | string _ => true
  | _ => false

def isInt : Value → Bool
  | null | int _ => true
  | _ => false

def isMapOf (p : Entries → Bool) : Value → Bool
  | null => true
  | map entries => p entries
  | _ => false

def string? : Value → Option String
  | string value => some value
  | _ => none

def int? : Value → Option Int
  | int value => some value
  | _ => none

def map? : Value → Option Entries
  | map entries => some entries
  | _ => none

@[simp] theorem map?_map (entries : Entries) : (map entries).map? = some entries := rfl

theorem isString_orNull (text : Option String) : (orNull .string text).isString = true := by
  cases text <;> rfl

theorem string?_orNull (text : Option String) : (orNull .string text).string? = text := by
  cases text <;> rfl

theorem isInt_orNull (number : Option Int) : (orNull .int number).isInt = true := by
  cases number <;> rfl

theorem map?_eq_some {value : Value} {entries : Entries} :
    value.map? = some entries ↔ value = .map entries := by
  cases value <;> simp [map?]

theorem asString_of_isString {value : Value} (typed : value.isString = true) :
    value.asString = .ok value.string? := by
  cases value <;> simp_all [isString, asString, string?]

theorem asInt_of_isInt {value : Value} (typed : value.isInt = true) :
    value.asInt = .ok value.int? := by
  cases value <;> simp_all [isInt, asInt, int?]

theorem same_of_isString {a b : Value} (first : a.isString = true) (second : b.isString = true) :
    a.same b = decide (a.string? = b.string?) := by
  cases a <;> cases b <;> simp_all [isString, same, string?, beq_eq_decide]

theorem isMapOf_iff {p : Entries → Bool} {value : Value} :
    value.isMapOf p = true ↔ value = .null ∨ ∃ entries, value = .map entries ∧ p entries = true := by
  cases value <;> simp [isMapOf]

end Value

section
variable {T : Type} {fromJson : Entries → Except Thrown T} {typed : Entries → Bool}
  {read : Entries → T}

theorem nested_of_typed (decodes : ∀ json, typed json = true → fromJson json = .ok (read json))
    {value : Value} (wellTyped : value.isMapOf typed = true) :
    nested fromJson value = .ok (value.map?.map read) := by
  rcases Value.isMapOf_iff.mp wellTyped with rfl | ⟨json, rfl, good⟩
  · rfl
  · simp only [nested, Value.asMap, Value.map?, Option.map_some]
    exact congrArg (fun decoded => do return some (← decoded)) (decodes json good)

end

theorem bind_eq_ok {A B : Type} {task : Except Thrown A} {rest : A → Except Thrown B} {value : B}
    (returned : (task >>= rest) = .ok value) :
    ∃ middle, task = .ok middle ∧ rest middle = .ok value := by
  cases task with
  | error thrown => cases returned
  | ok middle => exact ⟨middle, rfl, returned⟩

theorem mapM_of_ok {A B : Type} {f : A → Except Thrown B} {g : A → B} {list : List A}
    (succeeds : ∀ a ∈ list, f a = .ok (g a)) : list.mapM f = .ok (list.map g) := by
  induction list with
  | nil => rfl
  | cons first rest ih =>
    rw [List.mapM_cons, succeeds first (by simp), ih fun a member => succeeds a (by simp [member])]
    rfl

end SparSomnong.Semantics
