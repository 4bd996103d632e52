import Mathlib.Data.String.Basic
import SparSomnong.Semantics.KeyedLog
import SparSomnong.Semantics.Value

/-! A database that is one tree of values, read and written below paths.

A node with children is a map with its entries in the order of their names. A node
without children does not exist and reads as null, so writing null removes a node.
-/

set_option autoImplicit false

namespace SparSomnong.Semantics

/-! ## Paths -/

/-- The names in a path; empty ones do not count. -/
def segments (path : String) : List String :=
  ((path.toList.splitOn '/').filter fun name => !name.isEmpty).map String.ofList

structure IsName (name : String) : Prop where
  filled : name ≠ ""
  plain : '/' ∉ name.toList

instance (name : String) : Decidable (IsName name) :=
  decidable_of_iff (name ≠ "" ∧ '/' ∉ name.toList)
    ⟨fun facts => ⟨facts.1, facts.2⟩, fun isName => ⟨isName.filled, isName.plain⟩⟩

theorem IsName.not_empty {name : String} (isName : IsName name) : name.toList.isEmpty = false := by
  rw [List.isEmpty_eq_false_iff]
  exact fun none => isName.filled (String.toList_eq_nil_iff.mp none)

theorem segments_join {name rest : String} (isName : IsName name) :
    segments (name ++ "/" ++ rest) = name :: segments rest := by
  have letters : (name ++ "/" ++ rest).toList = name.toList ++ '/' :: rest.toList := by
    rw [String.toList_append, String.toList_append, List.append_assoc]
    rfl
  rw [segments, letters, List.splitOn_append_cons_self_of_not_mem isName.plain,
    List.filter_cons_of_pos (by simp [isName.not_empty]), List.map_cons, String.ofList_toList]
  rfl

theorem segments_name {name : String} (isName : IsName name) : segments name = [name] := by
  have single : name.toList.splitOn '/' = [name.toList] := by
    have free : ∀ part ∈ [name.toList], '/' ∉ part := by simpa using isName.plain
    have whole := List.splitOn_intercalate '/' free (List.cons_ne_nil _ _)
    rwa [List.intercalate_singleton] at whole
  rw [segments, single, List.filter_cons_of_pos (by simp [isName.not_empty])]
  simp

/-! ## Children -/

theorem lookup_entry (name other : String) (value : Value) (rest : Entries) :
    List.lookup other ((name, value) :: rest) =
      if other = name then some value else rest.lookup other := by
  rw [List.lookup_cons]
  by_cases same : other = name
  · simp [same]
  · rw [beq_false_of_ne same, if_neg same]

theorem lookup_put (name other : String) (value : Value) (entries : Entries) :
    (put Prod.fst (name, value) entries).lookup other =
      if other = name then some value else entries.lookup other := by
  induction entries with
  | nil => exact lookup_entry name other value []
  | cons head rest ih =>
    obtain ⟨key, old⟩ := head
    simp only [put]
    split
    · exact lookup_entry name other value _
    · split
      · next _ here =>
        subst here
        rw [lookup_entry, lookup_entry]
        split <;> rfl
      · next _ away =>
        rw [lookup_entry, lookup_entry, ih]
        by_cases here : other = key
        · subst here
          simp [Ne.symm away]
        · simp [here]

theorem lookup_filter (name other : String) (entries : Entries) :
    (entries.filter fun entry => entry.1 ≠ name).lookup other =
      if other = name then none else entries.lookup other := by
  induction entries with
  | nil => simp
  | cons head rest ih =>
    obtain ⟨key, old⟩ := head
    rw [lookup_entry]
    by_cases gone : key = name
    · subst gone
      rw [List.filter_cons_of_neg (by simp), ih]
      split <;> rfl
    · rw [List.filter_cons_of_pos (by simpa using gone), lookup_entry, ih]
      by_cases same : other = key
      · subst same
        simp [gone]
      · simp [same]

/-- A child is put in place of the old one; null leaves none. -/
def setChild (name : String) (value : Value) (entries : Entries) : Entries :=
  if value.isNull then entries.filter fun entry => entry.1 ≠ name
  else put Prod.fst (name, value) entries

theorem child_setChild (name other : String) (value : Value) (entries : Entries) :
    child (setChild name value entries) other =
      if other = name then value else child entries other := by
  unfold child setChild
  split
  · next null =>
    rw [lookup_filter]
    split
    · cases value with
      | null => rfl
      | _ => cases null
    · rfl
  · rw [lookup_put]
    split <;> rfl

theorem mem_of_put {α κ : Type} [LinearOrder κ] {key : α → κ} {entry a : α} {entries : List α}
    (member : a ∈ put key entry entries) : a = entry ∨ a ∈ entries := by
  induction entries with
  | nil => simpa [put] using member
  | cons head rest ih =>
    simp only [put] at member
    split at member
    · exact List.mem_cons.mp member
    · split at member
      · exact (List.mem_cons.mp member).imp_right (List.mem_cons_of_mem head)
      · rcases List.mem_cons.mp member with rfl | later
        · exact Or.inr List.mem_cons_self
        · exact (ih later).imp_right (List.mem_cons_of_mem head)

theorem mem_setChild {name : String} {value : Value} {entries : Entries} {entry : String × Value}
    (member : entry ∈ setChild name value entries) : entry = (name, value) ∨ entry ∈ entries := by
  unfold setChild at member
  split at member
  · exact Or.inr (List.mem_of_mem_filter member)
  · exact mem_of_put member

theorem ordered_setChild {name : String} {value : Value} {entries : Entries}
    (ordered : Ordered Prod.fst entries) : Ordered Prod.fst (setChild name value entries) := by
  unfold setChild
  split
  · exact ordered.sublist List.filter_sublist
  · exact ordered_put ordered

theorem child_of_mem {name : String} {value : Value} {entries : Entries}
    (ordered : Ordered Prod.fst entries) (member : (name, value) ∈ entries) :
    child entries name = value := by
  unfold child
  induction entries with
  | nil => cases member
  | cons head rest ih =>
    obtain ⟨before, tail⟩ := List.pairwise_cons.mp ordered
    obtain ⟨key, old⟩ := head
    rw [lookup_entry]
    rcases List.mem_cons.mp member with same | later
    · cases same
      rw [if_pos rfl]
      rfl
    · have less : key < name := before _ later
      rw [if_neg less.ne']
      exact ih tail later

theorem mem_of_child {name : String} {entries : Entries} (present : child entries name ≠ .null) :
    (name, child entries name) ∈ entries := by
  unfold child at present ⊢
  cases found : entries.lookup name with
  | none => simp [found] at present
  | some value =>
    obtain ⟨before, after, rfl, -⟩ := List.lookup_eq_some_iff.mp found
    simp

namespace Value

def entries : Value → Entries
  | map entries => entries
  | _ => []

def ofEntries : Entries → Value
  | [] => null
  | entries => map entries

@[simp] theorem entries_ofEntries (entries : Entries) : (ofEntries entries).entries = entries := by
  cases entries <;> rfl

theorem eq_map_of_child (name : String) {value : Value}
    (present : child value.entries name ≠ null) : value = map value.entries := by
  cases value with
  | map entries => rfl
  | _ => exact absurd rfl present

/-! ## Reading and writing -/

def getAt : List String → Value → Value
  | [], value => value
  | name :: rest, value => getAt rest (child value.entries name)

/-- `set`: the node at a path is replaced. -/
def setAt : List String → Value → Value → Value
  | [], new, _ => new
  | name :: rest, new, value =>
    ofEntries (setChild name (setAt rest new (child value.entries name)) value.entries)

/-- `update`: the named children of the node at a path are replaced. -/
def updateAt (path : List String) (children : Entries) (value : Value) : Value :=
  children.foldl (fun value entry => setAt (path ++ [entry.1]) entry.2 value) value

/-- A map as the database keeps it: without its nulls, and in order. -/
def record (children : Entries) : Value := updateAt [] children null

theorem getAt_append (path more : List String) (value : Value) :
    getAt (path ++ more) value = getAt more (getAt path value) := by
  induction path generalizing value with
  | nil => rfl
  | cons name rest ih => exact ih _

theorem getAt_setAt_append (path more : List String) (new value : Value) :
    getAt path (setAt (path ++ more) new value) = setAt more new (getAt path value) := by
  induction path generalizing value with
  | nil => rfl
  | cons name rest ih =>
    rw [List.cons_append, setAt, getAt, entries_ofEntries, child_setChild, if_pos rfl, ih]
    rfl

theorem getAt_setAt (path : List String) (new value : Value) :
    getAt path (setAt path new value) = new := by
  have whole := getAt_setAt_append path [] new value
  rwa [List.append_nil] at whole

theorem getAt_setAt_apart {name other : String} (different : other ≠ name)
    (path below more : List String) (new value : Value) :
    getAt (path ++ other :: more) (setAt (path ++ name :: below) new value) =
      getAt (path ++ other :: more) value := by
  rw [getAt_append, getAt_setAt_append, getAt_append, setAt, getAt, entries_ofEntries,
    child_setChild, if_neg different]
  rfl

theorem getAt_updateAt_append (path more : List String) (children : Entries) (value : Value) :
    getAt path (updateAt (path ++ more) children value) =
      updateAt more children (getAt path value) := by
  induction children generalizing value with
  | nil => rfl
  | cons entry rest ih =>
    simp only [updateAt, List.foldl_cons] at ih ⊢
    rw [ih, List.append_assoc, getAt_setAt_append]

theorem getAt_updateAt (path : List String) (children : Entries) (value : Value) :
    getAt path (updateAt path children value) = updateAt [] children (getAt path value) := by
  have whole := getAt_updateAt_append path [] children value
  rwa [List.append_nil] at whole

theorem getAt_updateAt_apart {name other : String} (different : other ≠ name)
    (path below more : List String) (children : Entries) (value : Value) :
    getAt (path ++ other :: more) (updateAt (path ++ name :: below) children value) =
      getAt (path ++ other :: more) value := by
  induction children generalizing value with
  | nil => rfl
  | cons entry rest ih =>
    simp only [updateAt, List.foldl_cons] at ih ⊢
    rw [ih, List.append_assoc, List.cons_append, getAt_setAt_apart different]

structure Sorted (p : String → Prop) (value : Value) : Prop where
  ordered : Ordered Prod.fst value.entries
  names : ∀ entry ∈ value.entries, p entry.1

section
variable {p : String → Prop} {value : Value} {name : String}

theorem Sorted.setAt (sorted : value.Sorted p) (named : p name) (rest : List String) (new : Value) :
    (setAt (name :: rest) new value).Sorted p := by
  constructor
  · rw [Value.setAt, entries_ofEntries]
    exact ordered_setChild sorted.ordered
  · intro entry member
    rw [Value.setAt, entries_ofEntries] at member
    rcases mem_setChild member with rfl | old
    · exact named
    · exact sorted.names entry old

theorem Sorted.updateAt (sorted : value.Sorted p) (named : p name) (rest : List String)
    (children : Entries) : (updateAt (name :: rest) children value).Sorted p := by
  induction children generalizing value with
  | nil => exact sorted
  | cons entry later ih => exact ih (sorted.setAt named (rest ++ [entry.1]) entry.2)

end

/-- A child after an update: its own new value, or what it was. -/
theorem child_updateAt (children : Entries) (value : Value) (name : String) :
    child (updateAt [] children value).entries name =
      (((children.reverse).lookup name).getD (child value.entries name)) := by
  induction children using List.reverseRecOn with
  | nil => rfl
  | append_singleton before last ih =>
    obtain ⟨key, new⟩ := last
    have one : updateAt [] (before ++ [(key, new)]) value =
        setAt [key] new (updateAt [] before value) := by
      simp [updateAt]
    rw [one, setAt, entries_ofEntries, child_setChild, List.reverse_append, List.reverse_singleton,
      List.singleton_append, lookup_entry, ih]
    split <;> rfl

end Value

end SparSomnong.Semantics
