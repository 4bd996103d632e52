import Mathlib.Data.List.TakeWhile
import SparSomnong.Semantics.PercentEncoding

/-! The address `searchProduct` asks.

`Uri.encodeFull` is applied to the whole address and keeps the characters that
separate its parts, also where they come from the keyword.
-/

set_option autoImplicit false

namespace SparSomnong.Catalogue

open Semantics

/-- The letters, digits, reserved characters and marks. -/
def keptByEncodeFull (c : Char) : Bool :=
  c.isAlphanum || c ∈ [';', ',', '/', '?', ':', '@', '&', '=', '+', '$', '#', '-', '_', '.', '!',
    '~', '*', Char.ofNat 39, '(', ')']

def encodeFull (text : String) : String := String.ofList (encode keptByEncodeFull text.toList)

def baseUrl : String := "http://192.168.4.2:8001"

def searchUrl (keyword : String) (page limit : Int) : String :=
  encodeFull (baseUrl ++ "/api/products?keyword=" ++ keyword ++ "&page=" ++ toString page ++
    "&limit=" ++ toString limit)

theorem kept_of_digit {c : Char} (digit : c.isDigit = true) : keptByEncodeFull c = true := by
  simp [keptByEncodeFull, Char.isAlphanum, digit]

theorem mem_toString {number : Int} {c : Char} (member : c ∈ (toString number).toList) :
    c = '-' ∨ c.isDigit = true := by
  cases number with
  | ofNat n =>
    change c ∈ (Nat.repr n).toList at member
    have digit : c ∈ Nat.toDigits 10 n := by simpa [Nat.repr] using member
    exact Or.inr (Nat.isDigit_of_mem_toDigits (by decide) (by decide) digit)
  | negSucc n =>
    change c ∈ ("-" ++ Nat.repr (n + 1)).toList at member
    have split : c = '-' ∨ c ∈ Nat.toDigits 10 (n + 1) := by simpa [Nat.repr] using member
    exact split.imp_right (Nat.isDigit_of_mem_toDigits (by decide) (by decide))

theorem encode_toString (number : Int) :
    encode keptByEncodeFull (toString number).toList = (toString number).toList := by
  refine encode_of_kept fun c member => ?_
  rcases mem_toString member with rfl | digit
  · decide
  · exact kept_of_digit digit

theorem separator_not_mem_toString (number : Int) {c : Char} (other : c.isDigit = false)
    (notMinus : c ≠ '-') : c ∉ (toString number).toList := by
  intro member
  rcases mem_toString member with minus | digit
  · exact notMinus minus
  · rw [other] at digit
    cases digit

/-! ## The parts of the address, character by character -/

def keywordName : List Char := ['k', 'e', 'y', 'w', 'o', 'r', 'd']

def pageName : List Char := ['p', 'a', 'g', 'e']

def limitName : List Char := ['l', 'i', 'm', 'i', 't']

def address : List Char :=
  baseUrl.toList ++ ['/', 'a', 'p', 'i', '/', 'p', 'r', 'o', 'd', 'u', 'c', 't', 's']

def field (name value : List Char) : List Char := name ++ '=' :: value

theorem searchUrl_toList (keyword : String) (page limit : Int) :
    (searchUrl keyword page limit).toList = address ++ '?' ::
      (field keywordName (encode keptByEncodeFull keyword.toList) ++ '&' ::
        (field pageName (toString page).toList ++ '&' ::
          field limitName (toString limit).toList)) := by
  have base : encode keptByEncodeFull baseUrl.toList = baseUrl.toList :=
    encode_of_all (by decide)
  have path : encode keptByEncodeFull "/api/products?keyword=".toList =
      ['/', 'a', 'p', 'i', '/', 'p', 'r', 'o', 'd', 'u', 'c', 't', 's'] ++
        '?' :: (keywordName ++ ['=']) := by
    rw [encode_of_all (by decide)]
    simp [keywordName]
  have pages : encode keptByEncodeFull "&page=".toList = '&' :: (pageName ++ ['=']) := by
    rw [encode_of_all (by decide)]
    simp [pageName]
  have limits : encode keptByEncodeFull "&limit=".toList = '&' :: (limitName ++ ['=']) := by
    rw [encode_of_all (by decide)]
    simp [limitName]
  unfold searchUrl encodeFull
  rw [String.toList_ofList]
  simp only [String.toList_append, encode_append, base, path, pages, limits, encode_toString,
    address, field, List.append_assoc, List.cons_append, List.nil_append]

/-! ## What the server reads -/

/-- Text of kept characters other than the plus sign is read as it stands. -/
theorem formText_plain {text : List Char} (kept : ∀ c ∈ text, keptByEncodeFull c = true)
    (noPlus : '+' ∉ text) : formText text = some (String.ofList text) := by
  have percent : keptByEncodeFull '%' = false := by decide
  have plus : keptByEncodeFull '+' = true := by decide
  calc formText text = formText (encode keptByEncodeFull text) := by rw [encode_of_kept kept]
    _ = some (String.ofList (text.map (received keptByEncodeFull))) := formText_encode percent text
    _ = some (String.ofList text) := by rw [(map_received_eq_iff plus).mpr noPlus]

theorem read_keyword (keyword : List Char) :
    readField (field keywordName (encode keptByEncodeFull keyword)) =
      some ("keyword", String.ofList (keyword.map (received keptByEncodeFull))) := by
  have percent : keptByEncodeFull '%' = false := by decide
  have name : formText keywordName = some "keyword" :=
    formText_plain (List.all_eq_true.mp (by decide)) (by decide)
  rw [field, readField_append (by decide : '=' ∉ keywordName), name, formText_encode percent]

theorem read_number {name : List Char} (kept : name.all keptByEncodeFull = true)
    (noPlus : '+' ∉ name) (whole : '=' ∉ name) (number : Int) :
    readField (field name (toString number).toList) =
      some (String.ofList name, toString number) := by
  have value : formText (toString number).toList = some (toString number) := by
    have noSign : '+' ∉ (toString number).toList :=
      separator_not_mem_toString number (by decide) (by decide)
    rw [formText_plain ?_ noSign, String.ofList_toList]
    intro c member
    rcases mem_toString member with rfl | digit
    · decide
    · exact kept_of_digit digit
  rw [field, readField_append whole, formText_plain (List.all_eq_true.mp kept) noPlus, value]

theorem not_mem_numberField {name : List Char} {c : Char} (free : c ∉ name) (noEquals : c ≠ '=')
    (noDigit : c.isDigit = false) (noMinus : c ≠ '-') (number : Int) :
    c ∉ field name (toString number).toList := by
  rw [field, List.mem_append, List.mem_cons]
  rintro (inName | same | inValue)
  · exact free inName
  · exact noEquals same
  · exact separator_not_mem_toString number noDigit noMinus inValue

theorem not_mem_keywordField {keyword : List Char} {c : Char} (free : c ∉ keyword)
    (noEquals : c ≠ '=') (noName : c ∉ keywordName) (noEscape : c ∉ '%' :: hexDigits) :
    c ∉ field keywordName (encode keptByEncodeFull keyword) := by
  rw [field, List.mem_append, List.mem_cons]
  rintro (inName | same | inValue)
  · exact noName inName
  · exact noEquals same
  · exact free (mem_of_mem_encode inValue noEscape)

theorem fields_of_free {keyword : List Char} (noAnd : '&' ∉ keyword) (noHash : '#' ∉ keyword)
    (page limit : Int) :
    ((field keywordName (encode keptByEncodeFull keyword) ++ '&' ::
        (field pageName (toString page).toList ++ '&' ::
          field limitName (toString limit).toList)).takeWhile (· ≠ '#')).splitOn '&' =
      [field keywordName (encode keptByEncodeFull keyword),
        field pageName (toString page).toList, field limitName (toString limit).toList] := by
  have hashFree := not_mem_keywordField noHash (by decide) (by decide) (by decide)
  have hashPage : '#' ∉ field pageName (toString page).toList :=
    not_mem_numberField (by decide) (by decide) (by decide) (by decide) page
  have hashLimit : '#' ∉ field limitName (toString limit).toList :=
    not_mem_numberField (by decide) (by decide) (by decide) (by decide) limit
  have andFree := not_mem_keywordField noAnd (by decide) (by decide) (by decide)
  have andPage : '&' ∉ field pageName (toString page).toList :=
    not_mem_numberField (by decide) (by decide) (by decide) (by decide) page
  have andLimit : '&' ∉ field limitName (toString limit).toList :=
    not_mem_numberField (by decide) (by decide) (by decide) (by decide) limit
  rw [List.takeWhile_eq_self_iff.mpr, List.splitOn_append_cons_self_of_not_mem andFree,
    List.splitOn_append_cons_self_of_not_mem andPage, List.splitOn_eq_singleton andLimit]
  intro c member
  rw [decide_eq_true_iff]
  rintro rfl
  simp only [List.mem_append, List.mem_cons, hashFree, hashPage, hashLimit, or_false, false_or]
    at member
  revert member
  decide

theorem exists_first {test : Char → Prop} {text : List Char} (fails : ¬ ∀ c ∈ text, test c) :
    ∃ before c after, text = before ++ c :: after ∧ (∀ c ∈ before, test c) ∧ ¬ test c := by
  induction text with
  | nil => exact absurd (by simp) fails
  | cons first rest ih =>
    by_cases passes : test first
    · obtain ⟨before, c, after, rfl, free, here⟩ := ih fun all =>
        fails (List.forall_mem_cons.mpr ⟨passes, all⟩)
      exact ⟨first :: before, c, after, rfl, List.forall_mem_cons.mpr ⟨passes, free⟩, here⟩
    · exact ⟨[], first, rest, rfl, by simp, passes⟩

/-- A separator in the keyword ends its field. -/
theorem fields_of_separator {before after : List Char} {c : Char} (noAnd : '&' ∉ before)
    (noHash : '#' ∉ before) (separator : c = '&' ∨ c = '#') (others : List Char) :
    ∃ rest, ((field keywordName (encode keptByEncodeFull (before ++ c :: after)) ++
        others).takeWhile (· ≠ '#')).splitOn '&' =
      field keywordName (encode keptByEncodeFull before) :: rest := by
  have hashFree := not_mem_keywordField noHash (by decide) (by decide) (by decide)
  have andFree := not_mem_keywordField noAnd (by decide) (by decide) (by decide)
  have kept : keptByEncodeFull c = true := by rcases separator with rfl | rfl <;> decide
  have cut : field keywordName (encode keptByEncodeFull (before ++ c :: after)) ++ others =
      field keywordName (encode keptByEncodeFull before) ++
        c :: (encode keptByEncodeFull after ++ others) := by
    have here : encode keptByEncodeFull (c :: after) = c :: encode keptByEncodeFull after := by
      simp [encode, encodeChar, kept]
    rw [encode_append, here]
    simp [field]
  have plain : ∀ other ∈ field keywordName (encode keptByEncodeFull before),
      decide (other ≠ '#') = true := fun other member =>
    decide_eq_true fun same => hashFree (same ▸ member)
  rw [cut, List.takeWhile_append_of_pos plain]
  rcases separator with rfl | rfl
  · rw [List.takeWhile_cons_of_pos (by decide), List.splitOn_append_cons_self_of_not_mem andFree]
    exact ⟨_, rfl⟩
  · rw [List.takeWhile_cons_of_neg (by decide), List.append_nil, List.splitOn_eq_singleton andFree]
    exact ⟨[], rfl⟩

theorem address_plain : '#' ∉ address ∧ '?' ∉ address := by decide

theorem read_first {keyword : List Char} {rest : List (List Char)} {value : String}
    {others : List (String × String)}
    (read : (field keywordName (encode keptByEncodeFull keyword) :: rest).mapM readField =
      some (("keyword", value) :: others)) :
    value = String.ofList (keyword.map (received keptByEncodeFull)) := by
  rw [List.mapM_cons, read_keyword] at read
  cases tail : rest.mapM readField with
  | none => simp [tail] at read
  | some fields =>
    have same : value = String.ofList (keyword.map (received keptByEncodeFull)) ∧
        others = fields := by simpa [tail, eq_comm] using read
    exact same.1

theorem read_of_free {keyword : String} (noAnd : '&' ∉ keyword.toList)
    (noHash : '#' ∉ keyword.toList) (page limit : Int) :
    parseQuery (searchUrl keyword page limit).toList =
      some [("keyword", String.ofList (keyword.toList.map (received keptByEncodeFull))),
        ("page", toString page), ("limit", toString limit)] := by
  have pageRead : readField (field pageName (toString page).toList) =
      some ("page", toString page) := read_number (by decide) (by decide) (by decide) page
  have limitRead : readField (field limitName (toString limit).toList) =
      some ("limit", toString limit) := read_number (by decide) (by decide) (by decide) limit
  rw [parseQuery, searchUrl_toList, query_append address_plain.1 address_plain.2,
    fields_of_free noAnd noHash]
  simp only [List.mapM_cons, List.mapM_nil, read_keyword, pageRead, limitRead]
  rfl

theorem read_of_separator {keyword value : String} {before after : List Char} {c : Char}
    (cut : keyword.toList = before ++ c :: after) (noAnd : '&' ∉ before) (noHash : '#' ∉ before)
    (separator : c = '&' ∨ c = '#') {page limit : Int} {others : List (String × String)}
    (read : parseQuery (searchUrl keyword page limit).toList =
      some (("keyword", value) :: others)) :
    value = String.ofList (before.map (received keptByEncodeFull)) := by
  rw [parseQuery, searchUrl_toList, query_append address_plain.1 address_plain.2, cut] at read
  obtain ⟨rest, fields⟩ := fields_of_separator noAnd noHash separator _
  rw [fields] at read
  exact read_first read

/-- The server reads the keyword, the page and the limit exactly when the keyword
has none of the characters that stand for something else in a query. -/
theorem search_read_iff (keyword : String) (page limit : Int) :
    parseQuery (searchUrl keyword page limit).toList =
        some [("keyword", keyword), ("page", toString page), ("limit", toString limit)] ↔
      '&' ∉ keyword.toList ∧ '#' ∉ keyword.toList ∧ '+' ∉ keyword.toList := by
  have plus : keptByEncodeFull '+' = true := by decide
  by_cases free : ∀ c ∈ keyword.toList, c ≠ '&' ∧ c ≠ '#'
  · have noAnd : '&' ∉ keyword.toList := fun member => (free _ member).1 rfl
    have noHash : '#' ∉ keyword.toList := fun member => (free _ member).2 rfl
    rw [read_of_free noAnd noHash, ← map_received_eq_iff plus]
    constructor
    · intro read
      have same : String.ofList (keyword.toList.map (received keptByEncodeFull)) = keyword := by
        simpa using read
      refine ⟨noAnd, noHash, ?_⟩
      conv_rhs => rw [← same, String.toList_ofList]
    · rintro ⟨-, -, same⟩
      rw [same, String.ofList_toList]
  · -- the field of the keyword ends too early
    obtain ⟨before, c, after, cut, clean, here⟩ := exists_first free
    have separator : c = '&' ∨ c = '#' := by
      by_contra neither
      exact here (not_or.mp neither)
    refine iff_of_false (fun read => ?_) ?_
    · have part := read_of_separator cut (fun member => (clean _ member).1 rfl)
        (fun member => (clean _ member).2 rfl) separator read
      have lengths := congrArg (fun text => text.toList.length) part
      simp [cut] at lengths
    · rintro ⟨noAnd, noHash, -⟩
      exact free fun c member =>
        ⟨fun same => noAnd (same ▸ member), fun same => noHash (same ▸ member)⟩

theorem separators_misread :
    (parseQuery (searchUrl "rice+corn" 1 10).toList =
        some [("keyword", "rice corn"), ("page", "1"), ("limit", "10")] ∧
      parseQuery (searchUrl "rice+corn" 1 10).toList ≠
        some [("keyword", "rice+corn"), ("page", toString (1 : Int)),
          ("limit", toString (10 : Int))]) ∧
      ∀ value others, parseQuery (searchUrl "salt&pepper" 1 10).toList =
        some (("keyword", value) :: others) → value = "salt" := by
  have spaced : parseQuery (searchUrl "rice+corn" 1 10).toList =
      some [("keyword", "rice corn"), ("page", "1"), ("limit", "10")] :=
    read_of_free (by decide) (by decide) 1 10
  refine ⟨⟨spaced, ?_⟩, ?_⟩
  · rw [spaced]
    simp
  · intro value others read
    have cut : "salt&pepper".toList = ['s', 'a', 'l', 't'] ++ '&' :: ['p', 'e', 'p', 'p', 'e', 'r'] := by
      decide
    exact read_of_separator cut (by decide) (by decide) (Or.inl rfl) read

end SparSomnong.Catalogue
