import SparSomnong.Semantics.Value

/-! Declared types of JSON data, and the records that a schema declares by name.

Null belongs to every type, an absent child counts as null, and children that are not
declared are passed over. A decoder that follows the schema returns what a value holds
of its type and throws where it is of another.
-/

set_option autoImplicit false

namespace SparSomnong.Semantics

inductive Shape (Name : Type) where
  | bool
  | int
  | num
  | double
  | string
  | list (items : Shape Name)
  | dictionary (values : Shape Name)
  | record (name : Name)
  deriving DecidableEq, Repr

/-- The children a record declares. -/
abbrev Schema (Name : Type) := Name → List (String × Shape Name)

/-! ## What a value holds of a type -/

section
variable {Name : Type}

mutual

/-- None where the value, or a part of it that is declared, is of another type. -/
def trim (schema : Schema Name) : Value → Shape Name → Option Value
  | .null, _ => some .null
  | .bool value, .bool => some (.bool value)
  | .int value, .int => some (.int value)
  | .int value, .num => some (.double (Value.toDouble value))
  | .double value, .num => some (.double value)
  | .double value, .double => some (.double value)
  | .string value, .string => some (.string value)
  | .list items, .list shape => (trimItems schema items shape).map .list
  | .map entries, .dictionary shape => (trimEntries schema entries shape).map .map
  | .map entries, .record name => ((schema name).mapM fun field =>
      (trimChild schema entries field.1 field.2).map (field.1, ·)).map .map
  | _, _ => none

def trimItems (schema : Schema Name) : List Value → Shape Name → Option (List Value)
  | [], _ => some []
  | item :: rest, shape => do return (← trim schema item shape) :: (← trimItems schema rest shape)

def trimEntries (schema : Schema Name) : List (String × Value) → Shape Name → Option Entries
  | [], _ => some []
  | (key, value) :: rest, shape => do
    return (key, ← trim schema value shape) :: (← trimEntries schema rest shape)

def trimChild (schema : Schema Name) : List (String × Value) → String → Shape Name → Option Value
  -- by recursion on the entries, since a child is no part of their list by itself
  | [], _, _ => some .null
  | (name, value) :: rest, key, shape =>
    if key == name then trim schema value shape else trimChild schema rest key shape

end

/-- What a map holds of a record. -/
def record (schema : Schema Name) (name : Name) (json : Entries) : Option Entries :=
  (schema name).mapM fun field => (trim schema (child json field.1) field.2).map (field.1, ·)

variable {schema : Schema Name}

theorem trimItems_eq (items : List Value) (shape : Shape Name) :
    trimItems schema items shape = items.mapM (trim schema · shape) := by
  induction items with
  | nil => rfl
  | cons item rest ih =>
    rw [List.mapM_cons, ← ih]
    rfl

theorem trimEntries_eq (entries : Entries) (shape : Shape Name) :
    trimEntries schema entries shape =
      entries.mapM fun entry => (trim schema entry.2 shape).map (entry.1, ·) := by
  induction entries with
  | nil => rfl
  | cons entry rest ih =>
    rw [List.mapM_cons, ← ih]
    conv_lhs => unfold trimEntries
    cases trim schema entry.2 shape <;> rfl

theorem trimChild_eq (entries : Entries) (key : String) (shape : Shape Name) :
    trimChild schema entries key shape = trim schema (child entries key) shape := by
  induction entries with
  | nil =>
    unfold trimChild
    cases shape <;> rfl
  | cons entry rest ih =>
    obtain ⟨name, value⟩ := entry
    unfold trimChild child
    by_cases here : (key == name) = true
    · rw [if_pos here, List.lookup_cons, here]
      rfl
    · rw [if_neg here, List.lookup_cons, eq_false_of_ne_true here]
      exact ih

@[simp] theorem trim_null (shape : Shape Name) : trim schema .null shape = some .null := by
  cases shape <;> rfl

theorem trim_record (json : Entries) (name : Name) :
    trim schema (.map json) (.record name) = (record schema name json).map .map := by
  unfold trim record
  simp only [trimChild_eq]

@[simp] theorem child_cons (name key : String) (value : Value) (rest : Entries) :
    child ((name, value) :: rest) key = if key = name then value else child rest key := by
  unfold child
  rw [List.lookup_cons]
  by_cases here : key = name
  · rw [if_pos here, beq_iff_eq.mpr here]
    rfl
  · rw [if_neg here, beq_eq_false_iff_ne.mpr here]

theorem record_eq_some {name : Name} {json kept : Entries}
    (named : (schema name).map (fun field => (field.1, child kept field.1)) = kept)
    (held : ∀ field ∈ schema name, trim schema (child json field.1) field.2 =
      some (child kept field.1)) :
    record schema name json = some kept := by
  unfold record
  rw [← named]
  generalize schema name = fields at held
  induction fields with
  | nil => rfl
  | cons field rest ih =>
    rw [List.mapM_cons, held field (List.mem_cons_self ..),
      ih fun other member => held other (List.mem_cons_of_mem _ member)]
    rfl

theorem child_of_record {name : Name} {json kept : Entries}
    (held : record schema name json = some kept) (distinct : ((schema name).map Prod.fst).Nodup)
    {field : String × Shape Name} (member : field ∈ schema name) :
    trim schema (child json field.1) field.2 = some (child kept field.1) := by
  unfold record at held
  generalize schema name = fields at held distinct member
  induction fields generalizing kept with
  | nil => cases member
  | cons first rest ih =>
    obtain ⟨fresh, distinct⟩ := List.nodup_cons.mp distinct
    rw [List.mapM_cons, Option.bind_eq_bind, Option.bind_eq_some_iff] at held
    obtain ⟨entry, found, held⟩ := held
    rw [Option.bind_eq_bind, Option.bind_eq_some_iff] at held
    obtain ⟨others, onward, whole⟩ := held
    obtain ⟨value, trimmed, rfl⟩ := Option.map_eq_some_iff.mp found
    cases whole
    rcases List.mem_cons.mp member with rfl | later
    · rw [child_cons, if_pos rfl, trimmed]
    · have different : field.1 ≠ first.1 := by
        intro same
        exact fresh (same ▸ List.mem_map_of_mem later)
      rw [child_cons, if_neg different]
      exact ih onward distinct later

theorem record_eq_none {name : Name} {json : Entries} {field : String × Shape Name}
    (member : field ∈ schema name) (foreign : trim schema (child json field.1) field.2 = none) :
    record schema name json = none := by
  unfold record
  generalize schema name = fields at member
  induction fields with
  | nil => cases member
  | cons first rest ih =>
    rw [List.mapM_cons]
    rcases List.mem_cons.mp member with rfl | later
    · rw [foreign]
      rfl
    · rw [ih later]
      cases (trim schema (child json first.1) first.2).map (first.1, ·) <;> rfl

end

/-! ## Reading -/

/-- A read that returns what is held, or throws a type error where nothing is. -/
inductive Reads {T Held : Type} (write : T → Held) : Except Thrown T → Option Held → Prop where
  | ok (value : T) : Reads write (.ok value) (some (write value))
  | typeError : Reads write (.error .typeError) none

namespace Reads

section
variable {T U Held : Type} {write : T → Held} {task : Except Thrown T} {held : Option Held}

theorem held_of_ok (reads : Reads write task held) {value : T} (returned : task = .ok value) :
    held = some (write value) := by
  cases reads with
  | ok read =>
    cases returned
    rfl
  | typeError => cases returned

theorem error_iff (reads : Reads write task held) (thrown : Thrown) :
    task = .error thrown ↔ thrown = .typeError ∧ held = none := by
  cases reads with
  | ok value => simp
  | typeError => simp [eq_comm]

theorem bind {Kept : Type} {written : U → Kept} {rest : T → Except Thrown U}
    {follow : Held → Option Kept} (reads : Reads write task held)
    (next : ∀ value, Reads written (rest value) (follow (write value))) :
    Reads written (task >>= rest) (held >>= follow) := by
  cases reads with
  | ok value => exact next value
  | typeError => exact .typeError

theorem map {Kept : Type} {wrap : T → U} {keep : Held → Kept} {written : U → Kept}
    (reads : Reads write task held) (same : ∀ value, written (wrap value) = keep (write value)) :
    Reads written (do return wrap (← task)) (held.map keep) := by
  rw [Option.map_eq_bind]
  refine reads.bind fun value => ?_
  rw [Function.comp_apply, ← same]
  exact .ok (wrap value)

end

theorem mapM {A T Held : Type} {write : T → Held} {read : A → Except Thrown T}
    {hold : A → Option Held} {items : List A}
    (reads : ∀ item ∈ items, Reads write (read item) (hold item)) :
    Reads (List.map write) (items.mapM read) (items.mapM hold) := by
  induction items with
  | nil => exact .ok []
  | cons item rest ih =>
    have others := ih fun other member => reads other (List.mem_cons_of_mem _ member)
    rw [List.mapM_cons, List.mapM_cons]
    refine (reads item (List.mem_cons_self ..)).bind fun value => ?_
    exact others.bind fun values => .ok (value :: values)

end Reads

section
variable {Name T : Type} {schema : Schema Name}

theorem reads_bool (value : Value) :
    Reads (Value.orNull .bool) value.asBool (trim schema value .bool) := by
  cases value with
  | null => exact .ok none
  | bool value => exact .ok (some value)
  | _ => exact .typeError

theorem reads_int (value : Value) :
    Reads (Value.orNull .int) value.asInt (trim schema value .int) := by
  cases value with
  | null => exact .ok none
  | int value => exact .ok (some value)
  | _ => exact .typeError

theorem reads_num (value : Value) :
    Reads (Value.orNull .double) value.asNum (trim schema value .num) := by
  cases value with
  | null => exact .ok none
  | int value => exact .ok (some (Value.toDouble value))
  | double value => exact .ok (some value)
  | _ => exact .typeError

theorem reads_double (value : Value) :
    Reads (Value.orNull .double) value.asDouble (trim schema value .double) := by
  cases value with
  | null => exact .ok none
  | double value => exact .ok (some value)
  | _ => exact .typeError

theorem reads_string (value : Value) :
    Reads (Value.orNull .string) value.asString (trim schema value .string) := by
  cases value with
  | null => exact .ok none
  | string value => exact .ok (some value)
  | _ => exact .typeError

def Value.ofRecord (toJson : T → Entries) : Option T → Value := orNull fun value => .map (toJson value)

def Value.ofRecords (toJson : T → Entries) : Option (List (Option T)) → Value :=
  orNull fun items => .list (items.map (ofRecord toJson))

variable {name : Name} {fromJson : Entries → Except Thrown T} {toJson : T → Entries}

theorem reads_nested {value : Value} (decodes : ∀ json, value = .map json →
      Reads toJson (fromJson json) (record schema name json)) :
    Reads (Value.ofRecord toJson) (nested fromJson value) (trim schema value (.record name)) := by
  cases value with
  | null => exact .ok none
  | map json =>
    rw [trim_record]
    exact (decodes json rfl).map fun _ => rfl
  | _ => exact .typeError

theorem reads_nestedList {value : Value} (decodes : ∀ items json, value = .list items →
      .map json ∈ items → Reads toJson (fromJson json) (record schema name json)) :
    Reads (Value.ofRecords toJson) (nestedList fromJson value)
      (trim schema value (.list (.record name))) := by
  cases value with
  | null => exact .ok none
  | list items =>
    have each : ∀ item ∈ items, Reads (Value.ofRecord toJson) (nested fromJson item)
        (trim schema item (.record name)) := by
      intro item member
      apply reads_nested
      rintro json rfl
      exact decodes items json rfl member
    unfold trim
    rw [trimItems_eq]
    exact (Reads.mapM each).map fun _ => rfl
  | _ => exact .typeError

theorem reads_entries {entries : Entries} {shape : Shape Name} {write : T → Value}
    {read : Value → Except Thrown T}
    (reads : ∀ entry ∈ entries, Reads write (read entry.2) (trim schema entry.2 shape)) :
    Reads (List.map fun entry => (entry.1, write entry.2))
      (entries.mapM fun entry => do return (entry.1, ← read entry.2))
      (trimEntries schema entries shape) := by
  rw [trimEntries_eq]
  apply Reads.mapM
  intro entry member
  exact (reads entry member).map fun _ => rfl

end

/-! ## Records, child by child -/

section
variable {Name T : Type} {schema : Schema Name} {json : Entries} {toJson : T → Entries}

/-- Reading the children `fields` and a record of them; those in `known` have been read. -/
inductive ReadsFields (schema : Schema Name) (json : Entries) (toJson : T → Entries)
    (fields : List (String × Shape Name)) (known : Entries) : Except Thrown T → Prop where
  | ok (value : T) (written : known.map (fun entry => (entry.1, child (toJson value) entry.1)) = known)
      (held : ∀ field ∈ fields, trim schema (child json field.1) field.2 =
        some (child (toJson value) field.1)) :
      ReadsFields schema json toJson fields known (.ok value)
  | typeError (field : String × Shape Name) (member : field ∈ fields)
      (foreign : trim schema (child json field.1) field.2 = none) :
      ReadsFields schema json toJson fields known (.error .typeError)

namespace ReadsFields

theorem done {known : Entries} {value : T}
    (written : known.map (fun entry => (entry.1, child (toJson value) entry.1)) = known) :
    ReadsFields schema json toJson [] known (pure value) :=
  .ok value written fun _ member => by cases member

theorem field {A : Type} {key : String} {shape : Shape Name} {fields : List (String × Shape Name)}
    {known : Entries} {write : A → Value} {task : Except Thrown A} {rest : A → Except Thrown T}
    (reads : Reads write task (trim schema (child json key) shape))
    (next : ∀ value, ReadsFields schema json toJson fields ((key, write value) :: known)
      (rest value)) :
    ReadsFields schema json toJson ((key, shape) :: fields) known (task >>= rest) := by
  revert reads
  generalize trimmed : trim schema (child json key) shape = held
  intro reads
  cases reads with
  | typeError => exact .typeError (key, shape) (List.mem_cons_self ..) trimmed
  | ok value =>
    have later := next value
    change ReadsFields schema json toJson _ known (rest value)
    revert later
    generalize rest value = remaining
    intro later
    cases later with
    | typeError field member foreign =>
      exact .typeError field (List.mem_cons_of_mem _ member) foreign
    | ok result written kept =>
      obtain ⟨here, before⟩ := List.cons.inj written
      refine .ok result before fun field member => ?_
      rcases List.mem_cons.mp member with rfl | later
      · rw [trimmed, (Prod.mk.inj here).2]
      · exact kept field later

end ReadsFields

/-- The children may be read in any order. -/
theorem Reads.record {name : Name} {fields : List (String × Shape Name)} {task : Except Thrown T}
    (read : ReadsFields schema json toJson fields [] task) (order : fields.Perm (schema name))
    (named : ∀ value, (schema name).map (fun field => (field.1, child (toJson value) field.1)) =
      toJson value) :
    Reads toJson task (record schema name json) := by
  cases read with
  | ok value written held =>
    rw [record_eq_some (named value) fun field member => held field (order.mem_iff.mpr member)]
    exact .ok value
  | typeError field member foreign =>
    rw [record_eq_none (order.mem_iff.mp member) foreign]
    exact .typeError

end

/-! ## Decoders -/

/-- A decoder and the encoder that goes with it follow the schema. -/
structure Decodes {Name T : Type} (schema : Schema Name) (name : Name)
    (fromJson : Entries → Except Thrown T) (toJson : T → Entries) : Prop where
  reads : ∀ json, Reads toJson (fromJson json) (record schema name json)
  returns : ∀ value, fromJson (toJson value) = .ok value

namespace Decodes

variable {Name T : Type} {schema : Schema Name} {name : Name}
  {fromJson : Entries → Except Thrown T} {toJson : T → Entries}

theorem ok_iff (decodes : Decodes schema name fromJson toJson) (json : Entries) (value : T) :
    fromJson json = .ok value ↔ record schema name json = some (toJson value) := by
  constructor
  · intro returned
    exact (decodes.reads json).held_of_ok returned
  · intro held
    cases returned : fromJson json with
    | error thrown =>
      have missing := ((decodes.reads json).error_iff thrown).mp returned
      rw [missing.2] at held
      cases held
    | ok other =>
      rw [(decodes.reads json).held_of_ok returned, Option.some.injEq] at held
      have same := decodes.returns other
      rw [held, decodes.returns value] at same
      exact same.symm

theorem error_iff (decodes : Decodes schema name fromJson toJson) (json : Entries)
    (thrown : Thrown) :
    fromJson json = .error thrown ↔ thrown = .typeError ∧ record schema name json = none :=
  (decodes.reads json).error_iff thrown

end Decodes

section
variable {T : Type}

@[simp] theorem asBool_orNull (value : Option Bool) :
    (Value.orNull .bool value).asBool = .ok value := by
  cases value <;> rfl

@[simp] theorem asInt_orNull (value : Option Int) :
    (Value.orNull .int value).asInt = .ok value := by
  cases value <;> rfl

@[simp] theorem asNum_orNull (value : Option Rat) :
    (Value.orNull .double value).asNum = .ok value := by
  cases value <;> rfl

@[simp] theorem asDouble_orNull (value : Option Rat) :
    (Value.orNull .double value).asDouble = .ok value := by
  cases value <;> rfl

@[simp] theorem asString_orNull (value : Option String) :
    (Value.orNull .string value).asString = .ok value := by
  cases value <;> rfl

variable {fromJson : Entries → Except Thrown T} {toJson : T → Entries}

@[simp] theorem ok_bind {U : Type} (value : T) (rest : T → Except Thrown U) :
    ((.ok value : Except Thrown T) >>= rest) = rest value := rfl

theorem nested_ofRecord {value : Option T}
    (returns : ∀ found, value = some found → fromJson (toJson found) = .ok found) :
    nested fromJson (Value.ofRecord toJson value) = .ok value := by
  cases value with
  | none => rfl
  | some found => exact congrArg (fun task => do return some (← task)) (returns found rfl)

theorem nestedList_ofRecords {value : Option (List (Option T))}
    (returns : ∀ items found, value = some items → some found ∈ items →
      fromJson (toJson found) = .ok found) :
    nestedList fromJson (Value.ofRecords toJson value) = .ok value := by
  cases value with
  | none => rfl
  | some items =>
    have each : ∀ item ∈ items, nested fromJson (Value.ofRecord toJson item) = .ok item := by
      intro item member
      apply nested_ofRecord
      rintro found rfl
      exact returns items found rfl member
    have all : (items.map (Value.ofRecord toJson)).mapM (nested fromJson) = .ok items := by
      rw [List.mapM_map]
      exact (mapM_of_ok each).trans (congrArg _ (List.map_id items))
    exact congrArg (fun task => do return some (← task)) all

end

end SparSomnong.Semantics
