import SparSomnong.Semantics.Separated

/-! Regular expressions over classes of letters, matched against a whole text.

A text is matched by taking one derivative of the expression for each letter.
-/

set_option autoImplicit false

namespace SparSomnong.Semantics

inductive Regex (Letter : Type) where
  | never
  | empty
  | one (belongs : Letter → Bool)
  | either (first second : Regex Letter)
  | next (first second : Regex Letter)
  | many (each : Regex Letter)

namespace Regex

variable {Letter : Type}

/-- The texts an expression stands for. -/
inductive Matches : Regex Letter → List Letter → Prop
  | empty : Matches empty []
  | one {belongs : Letter → Bool} {letter : Letter} (member : belongs letter = true) :
      Matches (one belongs) [letter]
  | first {first second : Regex Letter} {text : List Letter} (found : Matches first text) :
      Matches (either first second) text
  | second {first second : Regex Letter} {text : List Letter} (found : Matches second text) :
      Matches (either first second) text
  | next {first second : Regex Letter} {text rest : List Letter} (start : Matches first text)
      (tail : Matches second rest) : Matches (next first second) (text ++ rest)
  | stop {each : Regex Letter} : Matches (many each) []
  | again {each : Regex Letter} {text rest : List Letter} (start : Matches each text)
      (tail : Matches (many each) rest) : Matches (many each) (text ++ rest)

def nullable : Regex Letter → Bool
  | never | one _ => false
  | empty | many _ => true
  | either first second => first.nullable || second.nullable
  | next first second => first.nullable && second.nullable

/-- What is left to match behind a letter. -/
def derivative (letter : Letter) : Regex Letter → Regex Letter
  | never | empty => never
  | one belongs => if belongs letter = true then empty else never
  | either first second => either (first.derivative letter) (second.derivative letter)
  | next first second =>
    if first.nullable = true then
      either (next (first.derivative letter) second) (second.derivative letter)
    else next (first.derivative letter) second
  | many each => next (each.derivative letter) (many each)

/-- `^...$` has a match in the text. -/
def hasMatch (regex : Regex Letter) : List Letter → Bool
  | [] => regex.nullable
  | letter :: rest => (regex.derivative letter).hasMatch rest

def some (each : Regex Letter) : Regex Letter := next each (many each)

def maybe (each : Regex Letter) : Regex Letter := either each empty

theorem matches_either_iff {first second : Regex Letter} {text : List Letter} :
    Matches (either first second) text ↔ Matches first text ∨ Matches second text := by
  constructor
  · intro found
    cases found with
    | first found => exact Or.inl found
    | second found => exact Or.inr found
  · rintro (found | found)
    · exact .first found
    · exact .second found

theorem matches_next_iff {first second : Regex Letter} {text : List Letter} :
    Matches (next first second) text ↔
      ∃ start tail, text = start ++ tail ∧ Matches first start ∧ Matches second tail := by
  constructor
  · intro found
    cases found with
    | next found rest => exact ⟨_, _, rfl, found, rest⟩
  · rintro ⟨start, tail, rfl, found, rest⟩
    exact .next found rest

theorem matches_one_iff {belongs : Letter → Bool} {text : List Letter} :
    Matches (one belongs) text ↔ ∃ letter, text = [letter] ∧ belongs letter = true := by
  constructor
  · intro found
    cases found with
    | one member => exact ⟨_, rfl, member⟩
  · rintro ⟨letter, rfl, member⟩
    exact .one member

theorem matches_maybe_iff {each : Regex Letter} {text : List Letter} :
    Matches (maybe each) text ↔ Matches each text ∨ text = [] := by
  rw [maybe, matches_either_iff]
  apply or_congr_right
  constructor
  · intro found
    cases found
    rfl
  · rintro rfl
    exact .empty

theorem matches_many_iff {each : Regex Letter} {Part : Type} {Good : Part → Prop}
    {write : Part → List Letter}
    (parts : ∀ text, Matches each text ↔ ∃ part, Good part ∧ text = write part)
    {text : List Letter} :
    Matches (many each) text ↔
      ∃ written : List Part, (∀ part ∈ written, Good part) ∧ text = written.flatMap write := by
  constructor
  · intro found
    generalize kind : many each = regex at found
    induction found with
    | stop => exact ⟨[], nofun, rfl⟩
    | again start tail _ ih =>
      cases kind
      obtain ⟨part, good, rfl⟩ := (parts _).mp start
      obtain ⟨written, all, rfl⟩ := ih rfl
      exact ⟨part :: written, List.forall_mem_cons.mpr ⟨good, all⟩, rfl⟩
    | _ => cases kind
  · rintro ⟨written, all, rfl⟩
    induction written with
    | nil => exact .stop
    | cons part rest ih =>
      obtain ⟨good, others⟩ := List.forall_mem_cons.mp all
      exact .again ((parts _).mpr ⟨part, good, rfl⟩) (ih others)

theorem matches_some_iff {each : Regex Letter} {Part : Type} {Good : Part → Prop}
    {write : Part → List Letter}
    (parts : ∀ text, Matches each text ↔ ∃ part, Good part ∧ text = write part)
    {text : List Letter} :
    Matches (some each) text ↔ ∃ written : List Part, written ≠ [] ∧
      (∀ part ∈ written, Good part) ∧ text = written.flatMap write := by
  rw [some, matches_next_iff]
  constructor
  · rintro ⟨start, tail, rfl, first, rest⟩
    obtain ⟨part, good, rfl⟩ := (parts _).mp first
    obtain ⟨written, all, rfl⟩ := (matches_many_iff parts).mp rest
    exact ⟨part :: written, List.cons_ne_nil _ _, List.forall_mem_cons.mpr ⟨good, all⟩, rfl⟩
  · rintro ⟨written, filled, all, rfl⟩
    cases written with
    | nil => exact absurd rfl filled
    | cons part rest =>
      obtain ⟨good, others⟩ := List.forall_mem_cons.mp all
      exact ⟨write part, rest.flatMap write, rfl, (parts _).mpr ⟨part, good, rfl⟩,
        (matches_many_iff parts).mpr ⟨rest, others, rfl⟩⟩

theorem matches_some_one_iff {belongs : Letter → Bool} {text : List Letter} :
    Matches (some (one belongs)) text ↔ text ≠ [] ∧ ∀ letter ∈ text, belongs letter = true := by
  have letters : ∀ text, Matches (one belongs) text ↔
      ∃ letter, belongs letter = true ∧ text = [letter] := by
    intro text
    rw [matches_one_iff]
    exact exists_congr fun letter => and_comm
  rw [matches_some_iff letters]
  constructor
  · rintro ⟨written, filled, all, rfl⟩
    rw [List.flatMap_singleton']
    exact ⟨filled, all⟩
  · rintro ⟨filled, all⟩
    exact ⟨text, filled, all, (List.flatMap_singleton' text).symm⟩

theorem matches_joined_iff {each joint : Regex Letter} {mark : Letter}
    (marked : ∀ text, Matches joint text ↔ text = [mark]) {text : List Letter} :
    Matches (next each (many (next joint each))) text ↔
      ∃ parts, parts ≠ [] ∧ (∀ part ∈ parts, Matches each part) ∧
        text = [mark].intercalate parts := by
  have behind : ∀ text, Matches (next joint each) text ↔
      ∃ part, Matches each part ∧ text = mark :: part := by
    intro text
    rw [matches_next_iff]
    constructor
    · rintro ⟨start, part, rfl, first, found⟩
      rw [(marked start).mp first]
      exact ⟨part, found, rfl⟩
    · rintro ⟨part, found, rfl⟩
      exact ⟨[mark], part, rfl, (marked _).mpr rfl, found⟩
  rw [matches_next_iff]
  constructor
  · rintro ⟨first, tail, rfl, found, rest⟩
    obtain ⟨parts, all, rfl⟩ := (matches_many_iff behind).mp rest
    refine ⟨first :: parts, List.cons_ne_nil _ _, List.forall_mem_cons.mpr ⟨found, all⟩, ?_⟩
    exact (intercalate_cons first parts).symm
  · rintro ⟨parts, filled, all, rfl⟩
    cases parts with
    | nil => exact absurd rfl filled
    | cons first parts =>
      obtain ⟨found, others⟩ := List.forall_mem_cons.mp all
      exact ⟨first, parts.flatMap (mark :: ·), intercalate_cons first parts, found,
        (matches_many_iff behind).mpr ⟨parts, others, rfl⟩⟩

theorem nullable_iff (regex : Regex Letter) : regex.nullable = true ↔ Matches regex [] := by
  induction regex with
  | never => exact ⟨nofun, nofun⟩
  | empty => exact ⟨fun _ => .empty, fun _ => rfl⟩
  | one belongs => exact ⟨nofun, nofun⟩
  | either first second ihFirst ihSecond =>
    rw [nullable, Bool.or_eq_true, ihFirst, ihSecond, matches_either_iff]
  | next first second ihFirst ihSecond =>
    rw [nullable, Bool.and_eq_true, ihFirst, ihSecond, matches_next_iff]
    constructor
    · rintro ⟨start, tail⟩
      exact ⟨[], [], rfl, start, tail⟩
    · rintro ⟨start, tail, whole, found, rest⟩
      obtain ⟨rfl, rfl⟩ := List.append_eq_nil_iff.mp whole.symm
      exact ⟨found, rest⟩
  | many each ih => exact ⟨fun _ => .stop, fun _ => rfl⟩

theorem matches_many_cons {each : Regex Letter} {letter : Letter} {text : List Letter}
    (found : Matches (many each) (letter :: text)) :
    ∃ start tail, text = start ++ tail ∧ Matches each (letter :: start) ∧
      Matches (many each) tail := by
  generalize kind : many each = regex at found
  generalize whole : letter :: text = all at found
  induction found with
  | stop => cases whole
  | @again each' start tail first rest _ ih =>
    cases kind
    cases start with
    | nil => exact ih rfl whole
    | cons head start =>
      cases whole
      exact ⟨start, tail, rfl, first, rest⟩
  | _ => cases kind

theorem matches_next_cons {first second : Regex Letter} {letter : Letter} {text : List Letter} :
    Matches (next first second) (letter :: text) ↔
      (∃ start tail, text = start ++ tail ∧ Matches first (letter :: start) ∧
        Matches second tail) ∨
      Matches first [] ∧ Matches second (letter :: text) := by
  rw [matches_next_iff]
  constructor
  · rintro ⟨start, tail, whole, found, rest⟩
    cases start with
    | nil =>
      rw [List.nil_append] at whole
      subst whole
      exact Or.inr ⟨found, rest⟩
    | cons head start =>
      cases whole
      exact Or.inl ⟨start, tail, rfl, found, rest⟩
  · rintro (⟨start, tail, rfl, found, rest⟩ | ⟨found, rest⟩)
    · exact ⟨letter :: start, tail, rfl, found, rest⟩
    · exact ⟨[], letter :: text, rfl, found, rest⟩

theorem derivative_iff (regex : Regex Letter) (letter : Letter) (text : List Letter) :
    Matches (regex.derivative letter) text ↔ Matches regex (letter :: text) := by
  -- on the expression, for every text
  induction regex generalizing text with
  | never => exact ⟨nofun, nofun⟩
  | empty => exact ⟨nofun, nofun⟩
  | one belongs =>
    unfold derivative
    split
    · next member =>
      constructor
      · intro found
        cases found
        exact .one member
      · intro found
        cases found
        exact .empty
    · next other =>
      refine ⟨nofun, fun found => ?_⟩
      cases found with
      | one member => exact absurd member other
  | either first second ihFirst ihSecond =>
    rw [derivative, matches_either_iff, matches_either_iff, ihFirst, ihSecond]
  | next first second ihFirst ihSecond =>
    rw [matches_next_cons, derivative]
    split
    · next nullable =>
      rw [matches_either_iff, matches_next_iff, ihSecond]
      simp only [ihFirst, (nullable_iff first).mp nullable, true_and]
    · next filled =>
      rw [matches_next_iff]
      simp only [ihFirst, mt (nullable_iff first).mpr filled, false_and, or_false]
  | many each ih =>
    rw [derivative, matches_next_iff]
    constructor
    · rintro ⟨start, tail, rfl, found, rest⟩
      exact .again ((ih start).mp found) rest
    · intro found
      obtain ⟨start, tail, whole, first, rest⟩ := matches_many_cons found
      exact ⟨start, tail, whole, (ih start).mpr first, rest⟩

theorem hasMatch_iff (regex : Regex Letter) (text : List Letter) :
    regex.hasMatch text = true ↔ Matches regex text := by
  induction text generalizing regex with
  | nil => exact nullable_iff regex
  | cons letter rest ih => exact (ih _).trans (derivative_iff regex letter rest)

end Regex

end SparSomnong.Semantics
