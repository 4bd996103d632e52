import SparSomnong.Session.SignUpForm

/-! What the pattern of the two e-mail validators accepts. -/

set_option autoImplicit false

namespace SparSomnong.Session

open Semantics

/-- The second copy. No field of its form has it as a validator. -/
def EditProfileScreen.validateEmail (value : Units) : Option String :=
  if SignUpScreen.emailPattern.hasMatch value = false then some "enter_valid_email" else none

namespace SignUpScreen

def isSpace (unit : Nat) : Bool := isWhitespace unit && unit != 0x85

def Group (text : Units) : Prop :=
  text ≠ [] ∧ text.length ≤ 3 ∧ ∀ unit ∈ text, isDigit unit = true

def Label (text : Units) : Prop :=
  text ≠ [] ∧ ∀ unit ∈ text, isLetter unit = true ∨ isDigit unit = true ∨ unit = 0x2D

def Atom (text : Units) : Prop :=
  text ≠ [] ∧ ∀ unit ∈ text, isSpace unit = false ∧ unit ∉ units "<>()[]\\.,;:@\""

def Bracketed (domain : Units) : Prop :=
  ∃ groups : List Units, groups.length = 4 ∧ (∀ group ∈ groups, Group group) ∧
    domain = units "[" ++ (units ".").intercalate groups ++ units "]"

def Labelled (domain : Units) : Prop :=
  ∃ (labels : List Units) (last : Units), labels ≠ [] ∧ (∀ label ∈ labels, Label label) ∧
    2 ≤ last.length ∧ (∀ unit ∈ last, isLetter unit = true) ∧
    domain = labels.flatMap (· ++ units ".") ++ last

def Quoted (mailbox : Units) : Prop :=
  ∃ text : Units, text ≠ [] ∧ (∀ unit ∈ text, isAny unit = true) ∧
    mailbox = units "\"" ++ text ++ units "\""

def Dotted (mailbox : Units) : Prop :=
  ∃ atoms : List Units, atoms ≠ [] ∧ (∀ atom ∈ atoms, Atom atom) ∧
    mailbox = (units ".").intercalate atoms

def WellFormed (value : Units) : Prop :=
  ∃ mailbox domain : Units, value = mailbox ++ units "@" ++ domain ∧ '@'.toNat ∉ domain ∧
    (Bracketed domain ∨ Labelled domain) ∧ (Quoted mailbox ∨ Dotted mailbox)

/-- One `@`, dots only between other units of the mailbox, and behind the last dot of a domain
without brackets at least two letters. -/
def Plain (value : Units) : Prop :=
  ∃ mailbox domain : Units, value = mailbox ++ units "@" ++ domain ∧
    '@'.toNat ∉ mailbox ∧ '@'.toNat ∉ domain ∧ Spaced '.'.toNat mailbox ∧
    (units "[" <+: domain ∨ ∃ before last : Units, domain = before ++ units "." ++ last ∧
      '.'.toNat ∉ last ∧ 2 ≤ last.length ∧ ∀ unit ∈ last, isLetter unit = true)

section
open Regex

theorem matches_exactly_iff {letter : Char} {text : Units} :
    Matches (exactly letter) text ↔ text = [letter.toNat] := by
  rw [exactly, matches_one_iff]
  simp

theorem matches_atom_iff {text : Units} : Matches (Regex.some (.one isAtom)) text ↔ Atom text := by
  rw [matches_some_one_iff]
  apply and_congr_right
  intro _
  apply forall₂_congr
  intro unit _
  have apart : isAtom unit = !(unit ∈ units "<>()[]\\.,;:@\"" || isSpace unit) := rfl
  rw [apart]
  simp [and_comm]

theorem matches_mailbox_iff {text : Units} :
    Matches mailbox text ↔ Quoted text ∨ Dotted text := by
  rw [mailbox, matches_either_iff, or_comm]
  apply or_congr
  · simp only [matches_next_iff, matches_exactly_iff, matches_some_one_iff]
    constructor
    · rintro ⟨_, _, rfl, rfl, quoted, _, rfl, ⟨filled, any⟩, rfl⟩
      exact ⟨quoted, filled, any, (List.append_assoc _ _ _).symm⟩
    · rintro ⟨quoted, filled, any, rfl⟩
      exact ⟨_, _, List.append_assoc _ _ _, rfl, quoted, _, rfl, ⟨filled, any⟩, rfl⟩
  · rw [matches_joined_iff fun _ => matches_exactly_iff]
    simp only [matches_atom_iff]
    exact Iff.rfl

theorem matches_byte_iff {text : Units} : Matches byte text ↔ Group text := by
  simp only [byte, matches_next_iff, matches_maybe_iff, matches_one_iff]
  constructor
  · rintro ⟨_, _, rfl, ⟨first, rfl, digit⟩, _, _, rfl, ⟨second, rfl, another⟩ | rfl,
      ⟨third, rfl, last⟩ | rfl⟩
    all_goals simp_all [Group]
  · rintro ⟨filled, short, digits⟩
    rcases text with _ | ⟨first, _ | ⟨second, _ | ⟨third, _ | ⟨fourth, rest⟩⟩⟩⟩
    · exact absurd rfl filled
    · exact ⟨[first], [], rfl, ⟨first, rfl, digits _ (by simp)⟩, [], [], rfl, .inr rfl, .inr rfl⟩
    · exact ⟨[first], [second], rfl, ⟨first, rfl, digits _ (by simp)⟩, [second], [], rfl,
        .inl ⟨second, rfl, digits _ (by simp)⟩, .inr rfl⟩
    · exact ⟨[first], [second, third], rfl, ⟨first, rfl, digits _ (by simp)⟩, [second], [third],
        rfl, .inl ⟨second, rfl, digits _ (by simp)⟩, .inl ⟨third, rfl, digits _ (by simp)⟩⟩
    · simp only [List.length_cons] at short
      omega

theorem matches_address_iff {text : Units} : Matches address text ↔ Bracketed text := by
  simp only [address, matches_next_iff, matches_exactly_iff, matches_byte_iff]
  constructor
  · rintro ⟨_, _, rfl, rfl, first, _, rfl, one, _, _, rfl, rfl, second, _, rfl, two, _, _, rfl, rfl,
      third, _, rfl, three, _, _, rfl, rfl, fourth, _, rfl, four, rfl⟩
    refine ⟨[first, second, third, fourth], rfl, by simp [one, two, three, four], ?_⟩
    simp only [List.intercalate_cons_cons, List.intercalate_singleton, List.append_assoc]
    rfl
  · rintro ⟨groups, count, all, rfl⟩
    rcases groups with _ | ⟨first, _ | ⟨second, _ | ⟨third, _ | ⟨fourth, rest⟩⟩⟩⟩
    iterate 4 cases count
    obtain rfl : rest = [] := List.eq_nil_of_length_eq_zero (by simpa using count)
    simp only [List.forall_mem_cons] at all
    obtain ⟨one, two, three, four, -⟩ := all
    simp only [List.intercalate_cons_cons, List.intercalate_singleton, List.append_assoc]
    exact ⟨_, _, rfl, rfl, first, _, rfl, one, _, _, rfl, rfl, second, _, rfl, two, _, _, rfl, rfl,
      third, _, rfl, three, _, _, rfl, rfl, fourth, _, rfl, four, rfl⟩

theorem matches_domain_iff {text : Units} : Matches domain text ↔ Labelled text := by
  have label : ∀ text, Matches (next (Regex.some (one fun unit =>
      isLetter unit || isDigit unit || unit == 0x2D)) (exactly '.')) text ↔
        ∃ label, Label label ∧ text = label ++ units "." := by
    intro text
    simp only [matches_next_iff, matches_exactly_iff, matches_some_one_iff]
    constructor
    · rintro ⟨label, _, rfl, ⟨filled, all⟩, rfl⟩
      exact ⟨label, ⟨filled, by simpa [or_assoc] using all⟩, rfl⟩
    · rintro ⟨label, ⟨filled, all⟩, rfl⟩
      exact ⟨label, _, rfl, ⟨filled, by simpa [or_assoc] using all⟩, rfl⟩
  rw [domain, matches_next_iff]
  simp only [matches_some_iff label, matches_next_iff, matches_one_iff, matches_some_one_iff]
  constructor
  · rintro ⟨_, _, rfl, ⟨labels, filled, all, rfl⟩, _, rest, rfl, ⟨first, rfl, letter⟩, more, letters⟩
    refine ⟨labels, first :: rest, filled, all, ?_, ?_, rfl⟩
    · exact Nat.succ_le_succ (List.length_pos_iff.mpr more)
    · exact List.forall_mem_cons.mpr ⟨letter, letters⟩
  · rintro ⟨labels, last, filled, all, long, letters, rfl⟩
    rcases last with _ | ⟨first, rest⟩
    · simp at long
    · obtain ⟨letter, others⟩ := List.forall_mem_cons.mp letters
      exact ⟨_, first :: rest, rfl, ⟨labels, filled, all, rfl⟩, [first], rest, rfl,
        ⟨first, rfl, letter⟩, List.length_pos_iff.mp (Nat.le_of_succ_le_succ long), others⟩

end

theorem Bracketed.no_at {domain : Units} (bracketed : Bracketed domain) : '@'.toNat ∉ domain := by
  obtain ⟨groups, -, all, rfl⟩ := bracketed
  simp only [List.mem_append, not_or]
  refine ⟨⟨by decide, fun member => ?_⟩, by decide⟩
  rcases mem_intercalate member with dot | ⟨group, among, inside⟩
  · exact absurd dot (by decide)
  · exact absurd ((all group among).2.2 _ inside) (by decide)

theorem Labelled.no_at {domain : Units} (labelled : Labelled domain) : '@'.toNat ∉ domain := by
  obtain ⟨labels, last, -, all, -, letters, rfl⟩ := labelled
  simp only [List.mem_append, List.mem_flatMap, not_or, not_exists, not_and]
  refine ⟨fun label among => ⟨fun inside => ?_, by decide⟩, fun inside => ?_⟩
  · exact absurd ((all label among).2 _ inside) (by decide)
  · exact absurd (letters _ inside) (by decide)

theorem Labelled.last {domain : Units} (labelled : Labelled domain) :
    ∃ before last : Units, domain = before ++ units "." ++ last ∧ '.'.toNat ∉ last ∧
      2 ≤ last.length ∧ ∀ unit ∈ last, isLetter unit = true := by
  obtain ⟨labels, last, filled, -, long, letters, rfl⟩ := labelled
  refine ⟨labels.dropLast.flatMap (· ++ units ".") ++ labels.getLast filled, last, ?_, ?_, long,
    letters⟩
  · have whole := List.dropLast_append_getLast filled
    have written := congrArg (List.flatMap (· ++ units ".")) whole
    rw [List.flatMap_append, List.flatMap_singleton] at written
    rw [← written, List.append_assoc _ _ (units ".")]
  · intro dot
    exact absurd (letters _ dot) (by decide)

theorem Dotted.no_at {mailbox : Units} (dotted : Dotted mailbox) : '@'.toNat ∉ mailbox := by
  obtain ⟨atoms, -, all, rfl⟩ := dotted
  intro member
  rcases mem_intercalate member with dot | ⟨atom, among, inside⟩
  · exact absurd dot (by decide)
  · exact ((all atom among).2 _ inside).2 (by decide)

theorem Dotted.spaced {mailbox : Units} (dotted : Dotted mailbox) :
    Spaced '.'.toNat mailbox := by
  obtain ⟨atoms, filled, all, rfl⟩ := dotted
  apply spaced_intercalate filled
  · exact fun atom among => (all atom among).1
  · exact fun atom among inside => ((all atom among).2 _ inside).2 (by decide)

theorem matches_emailPattern_iff {value : Units} :
    Regex.Matches emailPattern value ↔ WellFormed value := by
  simp only [emailPattern, Regex.matches_next_iff, matches_exactly_iff, matches_mailbox_iff,
    Regex.matches_either_iff, matches_address_iff, matches_domain_iff]
  constructor
  · rintro ⟨mailbox, _, rfl, box, _, domain, rfl, rfl, host⟩
    refine ⟨mailbox, domain, (List.append_assoc _ _ _).symm, ?_, host, box⟩
    rcases host with bracketed | labelled
    · exact bracketed.no_at
    · exact labelled.no_at
  · rintro ⟨mailbox, domain, rfl, -, host, box⟩
    exact ⟨mailbox, _, List.append_assoc _ _ _, box, _, domain, rfl, rfl, host⟩

theorem WellFormed.plain {value : Units} (well : WellFormed value) :
    units "\"" <+: value ∨ Plain value := by
  obtain ⟨mailbox, domain, rfl, only, host, ⟨text, -, -, rfl⟩ | dotted⟩ := well
  · left
    simp only [List.append_assoc]
    exact List.prefix_append _ _
  · refine Or.inr ⟨mailbox, domain, rfl, dotted.no_at, only, dotted.spaced, ?_⟩
    rcases host with ⟨groups, -, -, rfl⟩ | labelled
    · left
      rw [List.append_assoc]
      exact List.prefix_append _ _
    · exact Or.inr labelled.last

end SignUpScreen

open SignUpScreen

/-- Both validators accept the well-formed addresses and no others. -/
theorem validateEmail_iff (value : Units) :
    (SignUpScreen.validateEmail value = none ↔ WellFormed value) ∧
      (EditProfileScreen.validateEmail value = none ↔ WellFormed value) ∧
      (WellFormed value → units "\"" <+: value ∨ Plain value) := by
  have accepted : SignUpScreen.validateEmail value = none ↔ WellFormed value := by
    rw [← matches_emailPattern_iff, ← Regex.hasMatch_iff, SignUpScreen.validateEmail]
    simp
  exact ⟨accepted, accepted, WellFormed.plain⟩

example : WellFormed (units "\"a@b\"@[192.168.0.1]") :=
  matches_emailPattern_iff.mp ((Regex.hasMatch_iff _ _).mp (by decide +kernel))

end SparSomnong.Session
