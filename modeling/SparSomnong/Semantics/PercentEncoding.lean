import Mathlib.Data.List.Basic

/-! Percent-encoding, and the reading of a query.

Characters that an encoder does not keep are written as the escapes of their UTF-8
bytes. The reader takes the part between the first question mark and the number
sign, splits it into fields, reads a plus sign as a space, and undoes the escapes.
-/

set_option autoImplicit false

namespace SparSomnong.Semantics

def hexDigits : List Char :=
  ['0', '1', '2', '3', '4', '5', '6', '7', '8', '9', 'A', 'B', 'C', 'D', 'E', 'F']

def hexDigit (value : Nat) : Char := hexDigits.getD value '0'

def hexValue (digit : Char) : Option Nat := hexDigits.idxOf? digit.toUpper

theorem hexValue_hexDigit : ∀ value < 16, hexValue (hexDigit value) = some value := by decide

theorem hexDigit_mem (value : Nat) : hexDigit value ∈ hexDigits := by
  unfold hexDigit
  rw [List.getD_eq_getElem?_getD]
  cases found : hexDigits[value]? with
  | none => decide
  | some digit => exact List.mem_of_getElem? found

/-- One byte, escaped. -/
def escape (byte : UInt8) : List Char :=
  ['%', hexDigit (byte.toNat / 16), hexDigit (byte.toNat % 16)]

def utf8 (text : List Char) : List UInt8 := text.flatMap String.utf8EncodeChar

section
variable {kept : Char → Bool} {text : List Char} {c : Char}

def encodeChar (kept : Char → Bool) (c : Char) : List Char :=
  if kept c then [c] else (String.utf8EncodeChar c).flatMap escape

def encode (kept : Char → Bool) (text : List Char) : List Char := text.flatMap (encodeChar kept)

theorem encode_append (kept : Char → Bool) (first rest : List Char) :
    encode kept (first ++ rest) = encode kept first ++ encode kept rest :=
  List.flatMap_append

theorem encode_of_kept (all : ∀ c ∈ text, kept c = true) : encode kept text = text := by
  induction text with
  | nil => rfl
  | cons first rest ih =>
    have here := all first (by simp)
    have tail := ih fun c member => all c (by simp [member])
    unfold encode at tail ⊢
    simp [encodeChar, here, tail]

theorem encode_of_all (all : text.all kept = true) : encode kept text = text :=
  encode_of_kept (List.all_eq_true.mp all)

theorem mem_of_mem_encode (member : c ∈ encode kept text) (other : c ∉ '%' :: hexDigits) :
    c ∈ text := by
  obtain ⟨source, inside, written⟩ := List.mem_flatMap.mp member
  unfold encodeChar at written
  split at written
  · rwa [List.mem_singleton.mp written]
  · obtain ⟨byte, -, escaped⟩ := List.mem_flatMap.mp written
    simp only [escape, List.mem_cons, List.not_mem_nil, or_false] at escaped
    refine absurd ?_ other
    rcases escaped with rfl | rfl | rfl
    · simp
    · exact List.mem_cons_of_mem _ (hexDigit_mem _)
    · exact List.mem_cons_of_mem _ (hexDigit_mem _)

/-! ## Reading -/

/-- The bytes of a field; none where an escape is broken. -/
def formBytes : List Char → Option (List UInt8)
  | [] => some []
  | c :: rest =>
    if c = '%' then
      match rest with
      | high :: low :: tail =>
        match hexValue high, hexValue low with
        | some high, some low => (formBytes tail).map (UInt8.ofNat (16 * high + low) :: ·)
        | _, _ => none
      | _ => none
    else (formBytes rest).map (String.utf8EncodeChar (if c = '+' then ' ' else c) ++ ·)

def formText (field : List Char) : Option String :=
  (formBytes field).bind fun bytes => String.fromUTF8? bytes.toByteArray

theorem fromUTF8_utf8 (text : List Char) :
    String.fromUTF8? (utf8 text).toByteArray = some (String.ofList text) := by
  unfold String.fromUTF8?
  rw [dif_pos ⟨text, rfl⟩]
  rfl

theorem formBytes_plain (plain : c ≠ '%') (rest : List Char) :
    formBytes (c :: rest) =
      (formBytes rest).map (String.utf8EncodeChar (if c = '+' then ' ' else c) ++ ·) := by
  conv_lhs => unfold formBytes
  exact if_neg plain

theorem formBytes_escape (byte : UInt8) (rest : List Char) :
    formBytes (escape byte ++ rest) = (formBytes rest).map (byte :: ·) := by
  have bound : byte.toNat < 256 := byte.toNat_lt
  have whole : 16 * (byte.toNat / 16) + byte.toNat % 16 = byte.toNat := by omega
  simp [escape, formBytes, hexValue_hexDigit (byte.toNat / 16) (by omega),
    hexValue_hexDigit (byte.toNat % 16) (by omega), whole]

theorem formBytes_escapes (bytes : List UInt8) (rest : List Char) :
    formBytes (bytes.flatMap escape ++ rest) = (formBytes rest).map (bytes ++ ·) := by
  induction bytes with
  | nil => simp
  | cons byte tail ih =>
    rw [List.flatMap_cons, List.append_assoc, formBytes_escape, ih]
    cases formBytes rest <;> rfl

def received (kept : Char → Bool) (c : Char) : Char :=
  if kept c && c == '+' then ' ' else c

/-- Where the percent sign is not kept, reading undoes the encoding. -/
theorem formBytes_encode (percent : kept '%' = false) (text : List Char) :
    formBytes (encode kept text) = some (utf8 (text.map (received kept))) := by
  induction text with
  | nil => rfl
  | cons c rest ih =>
    have cut : encode kept (c :: rest) = encodeChar kept c ++ encode kept rest := rfl
    rw [cut]
    unfold encodeChar
    split
    · next keeps =>
      have plain : c ≠ '%' := by
        rintro rfl
        simp [percent] at keeps
      have char : received kept c = if c = '+' then ' ' else c := by simp [received, keeps]
      rw [List.singleton_append, formBytes_plain plain, ih, List.map_cons, char]
      rfl
    · next drops =>
      have char : received kept c = c := by simp [received, drops]
      rw [formBytes_escapes, ih, List.map_cons, char]
      rfl

theorem formText_encode (percent : kept '%' = false) (text : List Char) :
    formText (encode kept text) = some (String.ofList (text.map (received kept))) := by
  rw [formText, formBytes_encode percent, Option.bind_some, fromUTF8_utf8]

theorem map_received_eq_iff (plus : kept '+' = true) :
    text.map (received kept) = text ↔ '+' ∉ text := by
  induction text with
  | nil => simp
  | cons c rest ih =>
    rw [List.map_cons, List.cons.injEq, ih, List.mem_cons, not_or]
    refine and_congr_left fun _ => ?_
    by_cases same : c = '+'
    · subst same
      simp [received, plus]
    · simp [received, same, Ne.symm same]

end

/-! ## The query of a URL -/

def query (url : List Char) : List Char :=
  ((url.takeWhile (· ≠ '#')).dropWhile (· ≠ '?')).drop 1

/-- The name and the value of a field, cut at its first equals sign. -/
def readField (field : List Char) : Option (String × String) :=
  match formText (field.takeWhile (· ≠ '=')), formText ((field.dropWhile (· ≠ '=')).drop 1) with
  | some name, some value => some (name, value)
  | _, _ => none

def parseQuery (url : List Char) : Option (List (String × String)) :=
  ((query url).splitOn '&').mapM readField

theorem query_append {address rest : List Char} (noFragment : '#' ∉ address)
    (noQuery : '?' ∉ address) :
    query (address ++ '?' :: rest) = rest.takeWhile (· ≠ '#') := by
  have plain : ∀ c ∈ address, decide (c ≠ '#') = true := fun c member =>
    decide_eq_true fun same => noFragment (same ▸ member)
  have before : ∀ c ∈ address, decide (c ≠ '?') = true := fun c member =>
    decide_eq_true fun same => noQuery (same ▸ member)
  rw [query, List.takeWhile_append_of_pos plain, List.takeWhile_cons_of_pos (by decide),
    List.dropWhile_append_of_pos before, List.dropWhile_cons_of_neg (by decide)]
  rfl

theorem readField_append {name value : List Char} (whole : '=' ∉ name) :
    readField (name ++ '=' :: value) =
      match formText name, formText value with
      | some name, some value => some (name, value)
      | _, _ => none := by
  have plain : ∀ c ∈ name, decide (c ≠ '=') = true := fun c member =>
    decide_eq_true fun same => whole (same ▸ member)
  rw [readField, List.takeWhile_append_of_pos plain, List.takeWhile_cons_of_neg (by decide),
    List.dropWhile_append_of_pos plain, List.dropWhile_cons_of_neg (by decide), List.append_nil]
  rfl

end SparSomnong.Semantics
