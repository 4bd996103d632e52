import SparSomnong.Semantics.Value

/-! Strings by their UTF-16 code units, which are what `length` counts and `substring` cuts.

The encoding is prefix free: a string begins with another in units if and only if
it does in characters.
-/

set_option autoImplicit false

namespace SparSomnong.Semantics

abbrev Units := List Nat

def charUnits (c : Char) : Units :=
  if c.toNat < 0x10000 then [c.toNat]
  else [0xD800 + (c.toNat - 0x10000) / 0x400, 0xDC00 + (c.toNat - 0x10000) % 0x400]

def listUnits (text : List Char) : Units := text.flatMap charUnits

def units (text : String) : Units := listUnits text.toList

def substring (start : Nat) (text : Units) : Except Thrown Units :=
  if start ≤ text.length then .ok (text.drop start) else .error .rangeError

def slice (start stop : Nat) (text : Units) : Except Thrown Units :=
  if start ≤ stop ∧ stop ≤ text.length then .ok ((text.take stop).drop start)
  else .error .rangeError

/-- `text.indexOf(pattern)`: the first place where the pattern stands, or -1. -/
def indexOf (pattern : Units) : Units → Int
  | [] => if pattern = [] then 0 else -1
  | unit :: rest =>
    if pattern <+: unit :: rest then 0
    else
      let later := indexOf pattern rest
      if later < 0 then -1 else later + 1

def contains (pattern text : Units) : Bool := decide (0 ≤ indexOf pattern text)

/-- White space of Unicode, and the byte order mark. -/
def isWhitespace (unit : Nat) : Bool :=
  (0x9 ≤ unit && unit ≤ 0xD) || (0x2000 ≤ unit && unit ≤ 0x200A) ||
    unit ∈ [0x20, 0x85, 0xA0, 0x1680, 0x2028, 0x2029, 0x202F, 0x205F, 0x3000, 0xFEFF]

def trimLeft (text : Units) : Units := text.dropWhile isWhitespace

theorem charUnits_cases (c : Char) :
    (charUnits c = [c.toNat] ∧ (c.toNat < 0xD800 ∨ 0xE000 ≤ c.toNat)) ∨
      ∃ high low, charUnits c = [high, low] ∧ 0xD800 ≤ high ∧ high < 0xDC00 ∧
        c.toNat = 0x10000 + 0x400 * (high - 0xD800) + (low - 0xDC00) := by
  have valid : c.toNat < 0xD800 ∨ 0xDFFF < c.toNat ∧ c.toNat < 0x110000 := c.valid
  unfold charUnits
  split
  · exact Or.inl ⟨rfl, by omega⟩
  · exact Or.inr ⟨_, _, rfl, by omega, by omega, by omega⟩

theorem charUnits_append {first second : Char} {rest others : Units}
    (same : charUnits first ++ rest = charUnits second ++ others) :
    first = second ∧ rest = others := by
  rcases charUnits_cases first with ⟨one, range⟩ | ⟨high, low, two, lower, upper, value⟩ <;>
    rcases charUnits_cases second with ⟨one', range'⟩ | ⟨high', low', two', lower', upper', value'⟩
  · rw [one, one'] at same
    obtain ⟨number, tail⟩ := List.cons.inj same
    exact ⟨Char.toNat_inj.mp number, tail⟩
  · rw [one, two'] at same
    obtain ⟨number, -⟩ := List.cons.inj same
    omega
  · rw [two, one'] at same
    obtain ⟨number, -⟩ := List.cons.inj same
    omega
  · rw [two, two'] at same
    obtain ⟨highs, tail⟩ := List.cons.inj same
    obtain ⟨lows, tail⟩ := List.cons.inj tail
    exact ⟨Char.toNat_inj.mp (by omega), tail⟩

theorem charUnits_ne_nil (c : Char) : charUnits c ≠ [] := by
  rcases charUnits_cases c with ⟨one, -⟩ | ⟨high, low, two, -⟩
  · simp [one]
  · simp [two]

theorem listUnits_cons (c : Char) (text : List Char) :
    listUnits (c :: text) = charUnits c ++ listUnits text := rfl

theorem listUnits_append (first second : List Char) :
    listUnits (first ++ second) = listUnits first ++ listUnits second :=
  List.flatMap_append

theorem units_append (first second : String) :
    units (first ++ second) = units first ++ units second := by
  rw [units, String.toList_append, listUnits_append]
  rfl

theorem isPrefix_of_listUnits {start text : List Char} {rest : Units}
    (begins : listUnits text = listUnits start ++ rest) : start <+: text := by
  induction start generalizing text with
  | nil => exact List.nil_prefix
  | cons c start ih =>
    rw [listUnits_cons, List.append_assoc] at begins
    cases text with
    | nil =>
      have empty : charUnits c = [] := (List.append_eq_nil_iff.mp begins.symm).1
      exact absurd empty (charUnits_ne_nil c)
    | cons first text =>
      rw [listUnits_cons] at begins
      obtain ⟨rfl, tail⟩ := charUnits_append begins
      exact List.prefix_cons_inj _ |>.mpr (ih tail)

theorem units_prefix_iff {start text : String} :
    (∃ rest, units text = units start ++ rest) ↔ ∃ rest, text = start ++ rest := by
  constructor
  · rintro ⟨rest, begins⟩
    obtain ⟨tail, whole⟩ := isPrefix_of_listUnits begins
    refine ⟨String.ofList tail, String.toList_inj.mp ?_⟩
    rw [String.toList_append, String.toList_ofList, whole]
  · rintro ⟨rest, rfl⟩
    exact ⟨units rest, units_append start rest⟩

/-- Cutting off a start and putting it back yields the text it was in, if it was there. -/
theorem substring_append_iff {start text : Units} :
    (∃ rest, substring start.length text = .ok rest ∧ start ++ rest = text) ↔
      ∃ rest, text = start ++ rest := by
  unfold substring
  constructor
  · rintro ⟨rest, -, whole⟩
    exact ⟨rest, whole.symm⟩
  · rintro ⟨rest, rfl⟩
    refine ⟨rest, ?_, rfl⟩
    rw [if_pos (by simp), List.drop_left]

theorem indexOf_eq_zero_iff {pattern text : Units} :
    indexOf pattern text = 0 ↔ pattern <+: text := by
  cases text with
  | nil => simp [indexOf]
  | cons unit rest =>
    unfold indexOf
    by_cases found : pattern <+: unit :: rest
    · simp [found]
    · simp only [found, if_false, iff_false]
      split <;> omega

theorem contains_iff {pattern text : Units} : contains pattern text = true ↔ pattern <:+: text := by
  unfold contains
  rw [decide_eq_true_iff]
  induction text with
  | nil =>
    unfold indexOf
    split <;> simp_all
  | cons unit rest ih =>
    unfold indexOf
    rw [List.infix_cons_iff, ← ih]
    by_cases found : pattern <+: unit :: rest
    · simp [found]
    · simp only [found, if_false, false_or]
      split <;> omega

end SparSomnong.Semantics
