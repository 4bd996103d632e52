import Mathlib.Tactic.Linarith
import SparSomnong.Session.Images

/-! The price of a product on its card and in the table of the detail screen.

The card finds out about a discount when its state is created, and takes the discount
off the price; the table shows it as the new price. Only the first of the two converts
the result into the selected currency.

The classes of products stand here with the fields that the two read.
-/

set_option autoImplicit false

namespace SparSomnong.Catalogue

open Semantics Localisation Session

structure OUM where
  name_en : Option String
  name_kh : Option String
  name_ch : Option String
  deriving DecidableEq, Repr

structure Price where
  price : Rat
  discount_dollar : Option Rat
  uom : Option OUM
  deriving DecidableEq, Repr

structure ProductCategory where
  item_img : Option Units
  name_kh : Option String
  name_en : Option String
  name_ch : Option String
  prices : Option (List Price)
  deriving DecidableEq, Repr

def namesToJson (name_en name_kh name_ch : Option String) : Entries :=
  [("name_en", Value.orNull .string name_en), ("name_kh", Value.orNull .string name_kh),
    ("name_ch", Value.orNull .string name_ch)]

def OUM.toJson (uom : OUM) : Entries := namesToJson uom.name_en uom.name_kh uom.name_ch

def ProductCategory.toJson (product : ProductCategory) : Entries :=
  namesToJson product.name_en product.name_kh product.name_ch

inductive Currency where
  | dollar
  | riel
  | yuan
  deriving DecidableEq, Repr

def Currency.key : Currency → String
  | dollar => "dollar"
  | riel => "riel"
  | yuan => "yuan"

/-- The language and the currency that are selected, with a table that has the dollar and
a rate of the currency. -/
structure Selection where
  locale : String
  currency : Currency
  currencyValue : List (String × CurrencyModel)
  dollar : currencyValue.lookup "dollar" = some Session.dollar
  rated : ((currencyValue.lookup currency.key).bind CurrencyModel.amount).isSome = true

/-- An amount of money for a unit, behind the sign of its currency. -/
structure Quote where
  currency : Currency
  amount : Rat
  unit : Option String
  deriving DecidableEq, Repr

/-- A price of `some none` is the text `N/A`. -/
structure Card where
  image : ImageProvider
  name : String
  price : Option Quote
  lineThrough : Bool
  discounted : Option (Option Quote)
  deriving DecidableEq, Repr

structure Cell where
  price : Quote
  lineThrough : Bool
  discounted : Option Quote
  deriving DecidableEq, Repr

def nonNull {T : Type} : Option T → Except Thrown T
  | some value => .ok value
  | none => .error .noSuchMethod

namespace Selection

def getCurrencyValue (selection : Selection) (val : Rat) : Except Thrown (Currency × Rat) := do
  let currency ← nonNull (selection.currencyValue.lookup selection.currency.key)
  let amount ← nonNull currency.amount
  return (selection.currency, amount * val)

def rate (selection : Selection) (currency : Currency) : Rat :=
  ((selection.currencyValue.lookup currency.key).bind CurrencyModel.amount).getD 0

def worth (selection : Selection) (quote : Quote) : Rat := quote.amount / selection.rate quote.currency

end Selection

namespace ProductItem

structure ProductItemState where
  dis : Bool := false
  deriving DecidableEq, Repr

def initState : Option ProductCategory → Except Thrown ProductItemState
  | some product =>
    match product.prices with
    | some (price :: _) => do
      let discount ← nonNull price.discount_dollar
      return { dis := decide (0 < discount) }
    | some [] | none => .ok {}
  | none => .ok {}

def image : Option Units → Except Thrown ImageProvider
  -- the other branch is a Container, which is no ImageProvider
  | some item_img =>
    if item_img ≠ [] ∧ contains (units "base64") item_img = false then
      .ok (.network (if contains (units "http") item_img then item_img else underBase item_img))
    else .error .typeError
  | none => .error .typeError

def original : List Price → Except Thrown (Option Quote)
  | price :: _ => do
    let uom ← nonNull price.uom
    return some ⟨.dollar, price.price, uom.name_en⟩
  | [] => return none

def discounted (selection : Selection) (prices : List Price) : Except Thrown (Option Quote) :=
  match prices with
  | price :: _ => do
    let discount ← nonNull price.discount_dollar
    let (currency, amount) ← selection.getCurrencyValue (price.price - discount)
    let uom ← nonNull price.uom
    let unit ← getTextByKey selection.locale uom.toJson "name"
    return some ⟨currency, amount, some unit⟩
  | [] => return none

def build (state : ProductItemState) (selection : Selection) (product : ProductCategory) :
    Except Thrown Card := do
  let image ← image product.item_img
  let name ← getTextByKey selection.locale product.toJson "name"
  let prices ← nonNull product.prices
  let price ← original prices
  if state.dis then
    let discounted ← discounted selection prices
    return ⟨image, name, price, true, some discounted⟩
  else return ⟨image, name, price, false, none⟩

end ProductItem

/-- `discount_dollar != null && discount_dollar > 0` -/
def Price.Discounted (price : Price) : Prop :=
  ∃ discount, price.discount_dollar = some discount ∧ 0 < discount

instance (price : Price) : Decidable price.Discounted :=
  match found : price.discount_dollar with
  | some discount =>
    decidable_of_iff (0 < discount) (by simp [Price.Discounted, found])
  | none => isFalse (by simp [Price.Discounted, found])

def priceCell (selection : Selection) (price : Price) : Except Thrown Cell := do
  let uom ← nonNull price.uom
  let unit ← getTextByKey selection.locale uom.toJson "name"
  return ⟨⟨.dollar, price.price, some unit⟩, decide price.Discounted,
    if price.Discounted then price.discount_dollar.map (⟨.dollar, ·, some unit⟩) else none⟩

def ProductCategory.firstPrice (product : ProductCategory) : Option Price :=
  product.prices.bind List.head?

/-- The card shows a discount where there is one, of the amount the table shows, and in
the currency of the price above it. -/
structure Agrees (selection : Selection) (entry : Price) (card : Card) (cell : Cell) : Prop where
  shown : card.discounted ≠ none ↔ entry.Discounted
  worth : ∀ quote, card.discounted = some (some quote) →
    ∃ other, cell.discounted = some other ∧ selection.worth quote = selection.worth other
  currency : ∀ quote, card.discounted = some (some quote) →
    ∀ original, card.price = some original → quote.currency = original.currency

/-- A card that was created for the first of the products before, and is built for this
one, agrees with the table. -/
def SamePrices (selection : Selection) (before : List ProductCategory) (product : ProductCategory)
    (entry : Price) : Prop :=
  ∃ state card cell, ProductItem.initState (some (before.headD product)) = .ok state ∧
    ProductItem.build state selection product = .ok card ∧
    priceCell selection entry = .ok cell ∧ Agrees selection entry card cell

/-- The card can be built, it was created for a product that is discounted like this
one, and what is paid after the discount is the discount, in dollars. -/
structure Fair (selection : Selection) (first product : ProductCategory) (entry : Price) :
    Prop where
  image : ∃ item_img, product.item_img = some item_img ∧ item_img ≠ [] ∧
    contains (units "base64") item_img = false
  unit : entry.uom ≠ none
  known : ∀ price, first.firstPrice = some price → price.discount_dollar ≠ none
  -- a product without prices is not discounted
  same : (∃ price, first.firstPrice = some price ∧ price.Discounted) ↔ entry.Discounted
  half : ∀ discount, entry.discount_dollar = some discount → 0 < discount →
    selection.currency = .dollar ∧ entry.price = 2 * discount

variable {selection : Selection} {product : ProductCategory} {entry : Price} {rest : List Price}

theorem getTextByKey_names (locale : String) (name_en name_kh name_ch : Option String) :
    ∃ text, getTextByKey locale (namesToJson name_en name_kh name_ch) "name" = .ok text :=
  getTextByKey_completes locale ⟨_, rfl⟩ ⟨_, rfl⟩ ⟨_, rfl⟩

theorem Selection.rate_dollar (selection : Selection) : selection.rate .dollar = 1 := by
  unfold Selection.rate
  rw [Currency.key, selection.dollar]
  rfl

theorem Selection.getCurrencyValue_eq (selection : Selection) (val : Rat) :
    selection.getCurrencyValue val =
      .ok (selection.currency, selection.rate selection.currency * val) := by
  have rated := selection.rated
  unfold Selection.getCurrencyValue Selection.rate
  cases found : selection.currencyValue.lookup selection.currency.key with
  | none => simp [found] at rated
  | some currency =>
    cases amount : currency.amount with
    | none => simp [found, amount] at rated
    | some rate =>
      rw [Option.bind_some, amount]
      change (do
        let amount ← nonNull currency.amount
        return (selection.currency, amount * val)) = _
      rw [amount]
      rfl

namespace ProductItem

theorem initState_iff (product : ProductCategory) (state : ProductItemState) :
    initState (some product) = .ok state ↔
      (∀ price, product.firstPrice = some price → price.discount_dollar ≠ none) ∧
        (state.dis = true ↔ ∃ price, product.firstPrice = some price ∧ price.Discounted) := by
  obtain ⟨item_img, name_kh, name_en, name_ch, prices⟩ := product
  obtain ⟨dis⟩ := state
  rcases prices with _ | _ | ⟨price, rest⟩
  · cases dis <;> simp [initState, ProductCategory.firstPrice]
  · cases dis <;> simp [initState, ProductCategory.firstPrice]
  · simp only [initState, ProductCategory.firstPrice, Option.bind_some, List.head?_cons,
      Option.some.injEq, forall_eq', exists_eq_left', Price.Discounted]
    cases price.discount_dollar with
    | none => simp [nonNull, bind, Except.bind]
    | some discount =>
      cases dis <;> simp [nonNull, bind, Except.bind, pure, Except.pure]

theorem build_eq (state : ProductItemState) (priced : product.prices = some (entry :: rest))
    {uom : OUM} (unit : entry.uom = some uom) {shown : ImageProvider}
    (pictured : image product.item_img = .ok shown) :
    ∃ name text, build state selection product =
      if state.dis then (do
        let discount ← nonNull entry.discount_dollar
        return ⟨shown, name, some ⟨.dollar, entry.price, uom.name_en⟩, true,
          some (some ⟨selection.currency,
            selection.rate selection.currency * (entry.price - discount), some text⟩)⟩)
      else .ok ⟨shown, name, some ⟨.dollar, entry.price, uom.name_en⟩, false, none⟩ := by
  obtain ⟨name, named⟩ := getTextByKey_names selection.locale product.name_en product.name_kh
    product.name_ch
  obtain ⟨text, called⟩ := getTextByKey_names selection.locale uom.name_en uom.name_kh uom.name_ch
  refine ⟨name, text, ?_⟩
  have first : original (entry :: rest) = .ok (some ⟨.dollar, entry.price, uom.name_en⟩) := by
    rw [original, unit]
    rfl
  have second : discounted selection (entry :: rest) = (do
      let discount ← nonNull entry.discount_dollar
      return some ⟨selection.currency,
        selection.rate selection.currency * (entry.price - discount), some text⟩) := by
    simp only [discounted, Selection.getCurrencyValue_eq, unit, OUM.toJson]
    cases entry.discount_dollar with
    | none => rfl
    | some discount => simp only [nonNull, bind, Except.bind, called]
  simp only [build, pictured, ProductCategory.toJson, named, priced, nonNull, bind, Except.bind,
    first]
  cases state.dis with
  | false => rfl
  | true =>
    simp only [if_true, second]
    cases entry.discount_dollar <;> rfl

theorem parts_of_build {state : ProductItemState} {card : Card}
    (priced : product.prices = some (entry :: rest))
    (built : build state selection product = .ok card) :
    (∃ shown, image product.item_img = .ok shown) ∧ ∃ uom, entry.uom = some uom := by
  obtain ⟨name, named⟩ := getTextByKey_names selection.locale product.name_en product.name_kh
    product.name_ch
  cases pictured : image product.item_img with
  | error thrown =>
    simp only [build, pictured] at built
    cases built
  | ok shown =>
    cases unit : entry.uom with
    | none =>
      have thrown : original (entry :: rest) = .error .noSuchMethod := by
        rw [original, unit]
        rfl
      simp only [build, pictured, ProductCategory.toJson, named, priced, nonNull, bind, Except.bind,
        thrown] at built
      cases built
    | some uom => exact ⟨⟨shown, rfl⟩, uom, rfl⟩

theorem image_completes_iff (item_img : Option Units) :
    (∃ shown, image item_img = .ok shown) ↔
      ∃ text, item_img = some text ∧ text ≠ [] ∧ contains (units "base64") text = false := by
  cases item_img with
  | none => simp [image]
  | some text =>
    unfold image
    by_cases loaded : text ≠ [] ∧ contains (units "base64") text = false
    · simp [loaded]
    · simp [loaded]

end ProductItem

open ProductItem

theorem priceCell_eq {uom : OUM} (unit : entry.uom = some uom) :
    ∃ text, priceCell selection entry = .ok ⟨⟨.dollar, entry.price, some text⟩,
      decide entry.Discounted,
      if entry.Discounted then entry.discount_dollar.map (⟨.dollar, ·, some text⟩) else none⟩ := by
  obtain ⟨text, called⟩ := getTextByKey_names selection.locale uom.name_en uom.name_kh uom.name_ch
  refine ⟨text, ?_⟩
  simp only [priceCell, unit, nonNull, bind, Except.bind, OUM.toJson, called]
  rfl

/-- In dollars, what is left of the price is the discount where it is half the price. -/
theorem worth_eq_iff (price discount : Rat) (unit other : Option String) :
    selection.worth ⟨.dollar, selection.rate .dollar * (price - discount), unit⟩ =
        selection.worth ⟨.dollar, discount, other⟩ ↔ price = 2 * discount := by
  unfold Selection.worth
  rw [selection.rate_dollar]
  simp only [one_mul, div_one]
  constructor
  · intro same
    linarith
  · intro half
    linarith

theorem agrees_plain_iff {card : Card} {cell : Cell} (plain : card.discounted = none) :
    Agrees selection entry card cell ↔ ¬ entry.Discounted := by
  constructor
  · intro agrees discounted
    exact agrees.shown.mpr discounted plain
  · intro undiscounted
    constructor
    · exact iff_of_false (fun some => some plain) undiscounted
    · intro quote shown
      rw [plain] at shown
      cases shown
    · intro quote shown
      rw [plain] at shown
      cases shown

theorem agrees_discounted_iff {card : Card} {cell : Cell} {discount : Rat}
    {unit text other : Option String} (known : entry.discount_dollar = some discount)
    (first : card.price = some ⟨.dollar, entry.price, unit⟩)
    (second : card.discounted = some (some ⟨selection.currency,
      selection.rate selection.currency * (entry.price - discount), text⟩))
    (listed : cell.discounted =
      if entry.Discounted then entry.discount_dollar.map (⟨.dollar, ·, other⟩) else none) :
    Agrees selection entry card cell ↔
      entry.Discounted ∧ selection.currency = .dollar ∧ entry.price = 2 * discount := by
  rw [known, Option.map_some] at listed
  constructor
  · intro agrees
    have discounted : entry.Discounted := agrees.shown.mp (by rw [second]; exact Option.some_ne_none _)
    rw [if_pos discounted] at listed
    have currency : selection.currency = .dollar := agrees.currency _ second _ first
    obtain ⟨shown, found, same⟩ := agrees.worth _ second
    rw [listed] at found
    obtain rfl := Option.some.inj found
    rw [currency, worth_eq_iff] at same
    exact ⟨discounted, currency, same⟩
  · rintro ⟨discounted, currency, half⟩
    rw [if_pos discounted] at listed
    constructor
    · rw [second]
      exact iff_of_true (Option.some_ne_none _) discounted
    · intro quote shown
      rw [second] at shown
      obtain rfl := Option.some.inj (Option.some.inj shown)
      refine ⟨_, listed, ?_⟩
      rw [currency, worth_eq_iff]
      exact half
    · intro quote shown original found
      rw [second] at shown
      rw [first] at found
      obtain rfl := Option.some.inj (Option.some.inj shown)
      obtain rfl := Option.some.inj found
      exact currency

theorem discounted_iff {discount : Rat} (known : entry.discount_dollar = some discount) :
    entry.Discounted ↔ 0 < discount := by
  simp [Price.Discounted, known]

theorem exists_built_iff {first : Card} {second : Cell} :
    (∃ card cell, (Except.ok first : Except Thrown Card) = .ok card ∧
      (Except.ok second : Except Thrown Cell) = .ok cell ∧ Agrees selection entry card cell) ↔
    Agrees selection entry first second := by
  constructor
  · rintro ⟨card, cell, built, listed, agrees⟩
    cases built
    cases listed
    exact agrees
  · exact fun agrees => ⟨first, second, rfl, rfl, agrees⟩

theorem build_agrees_iff (state : ProductItemState)
    (priced : product.prices = some (entry :: rest)) {uom : OUM} (unit : entry.uom = some uom)
    {shown : ImageProvider} (loaded : ProductItem.image product.item_img = .ok shown) :
    (∃ card cell, build state selection product = .ok card ∧ priceCell selection entry = .ok cell ∧
      Agrees selection entry card cell) ↔
    (state.dis = true ↔ entry.Discounted) ∧
      ∀ discount, entry.discount_dollar = some discount → 0 < discount →
        selection.currency = .dollar ∧ entry.price = 2 * discount := by
  obtain ⟨name, text, built⟩ := @build_eq selection _ _ _ state priced _ unit _ loaded
  obtain ⟨other, listed⟩ := @priceCell_eq selection _ _ unit
  rw [built, listed]
  cases state.dis with
  | false =>
    rw [if_neg Bool.false_ne_true, exists_built_iff, agrees_plain_iff rfl]
    simp only [Bool.false_eq_true, false_iff]
    refine (and_iff_left_of_imp fun undiscounted discount known positive => ?_).symm
    exact absurd ⟨discount, known, positive⟩ undiscounted
  | true =>
    cases known : entry.discount_dollar with
    | none =>
      refine iff_of_false ?_ fun fair => ?_
      · rintro ⟨card, cell, thrown, -⟩
        cases thrown
      · obtain ⟨discount, found, -⟩ := fair.1.mp rfl
        rw [known] at found
        cases found
    | some discount =>
      rw [if_pos rfl]
      change (∃ card cell, Except.ok _ = Except.ok card ∧ Except.ok _ = Except.ok cell ∧ _) ↔ _
      rw [exists_built_iff, agrees_discounted_iff known rfl rfl (by rw [known]),
        discounted_iff known]
      simp only [true_iff, Option.some.injEq, forall_eq']
      exact and_congr_right fun positive => ⟨fun half _ => half, fun half => half positive⟩

/-- The card and the table quote the same prices exactly where this is fair. -/
theorem samePrices_iff_fair (selection : Selection) (before : List ProductCategory)
    (product : ProductCategory) (entry : Price) (rest : List Price)
    (priced : product.prices = some (entry :: rest)) :
    SamePrices selection before product entry ↔
      Fair selection (before.headD product) product entry := by
  constructor
  · rintro ⟨state, card, cell, created, built, listed, agrees⟩
    obtain ⟨known, flag⟩ := (initState_iff _ _).mp created
    obtain ⟨⟨shown, loaded⟩, uom, unit⟩ := parts_of_build priced built
    obtain ⟨same, half⟩ :=
      (build_agrees_iff state priced unit loaded).mp ⟨card, cell, built, listed, agrees⟩
    constructor
    · exact (image_completes_iff product.item_img).mp ⟨shown, loaded⟩
    · simp [unit]
    · exact known
    · exact flag.symm.trans same
    · exact half
  · rintro ⟨image, present, known, same, half⟩
    obtain ⟨shown, loaded⟩ := (image_completes_iff product.item_img).mpr image
    obtain ⟨uom, unit⟩ := Option.ne_none_iff_exists'.mp present
    have created := (initState_iff (before.headD product) ⟨decide entry.Discounted⟩).mpr
      ⟨known, decide_eq_true_iff.trans same.symm⟩
    obtain ⟨card, cell, built, listed, agrees⟩ :=
      (build_agrees_iff ⟨decide entry.Discounted⟩ priced unit loaded).mpr
        ⟨decide_eq_true_iff, half⟩
    exact ⟨_, card, cell, created, built, listed, agrees⟩

def Selection.ofTable (locale : String) (currency : Currency) {reply : Reply}
    {table : List (String × CurrencyModel)} (decoded : getCurrency reply = .ok (some table))
    (rated : ((table.lookup currency.key).bind CurrencyModel.amount).isSome = true) : Selection :=
  ⟨locale, currency, table, lookup_dollar_of_getCurrency decoded, rated⟩

def inDollars : Selection := ⟨"en", .dollar, [("dollar", Session.dollar)], rfl, rfl⟩

def inRiel : Selection :=
  ⟨"en", .riel, [("riel", ⟨some "riel", some 1, some "riel", some 4000⟩),
    ("dollar", Session.dollar)], rfl, rfl⟩

def box (price : Rat) (discount : Option Rat) : Price :=
  ⟨price, discount, some ⟨some "box", none, none⟩⟩

def sold (entry : Price) : ProductCategory :=
  ⟨some (units "p.jpg"), none, some "Screws", none, some [entry]⟩

theorem halfPrice_same : SamePrices inDollars [] (sold (box 10 (some 5))) (box 10 (some 5)) := by
  refine (samePrices_iff_fair inDollars [] _ _ [] rfl).mpr ?_
  constructor
  · exact ⟨units "p.jpg", rfl, by decide, by decide⟩
  · exact Option.some_ne_none _
  · rintro price ⟨⟩
    exact Option.some_ne_none _
  · constructor
    · rintro ⟨price, ⟨⟩, discounted⟩
      exact discounted
    · exact fun discounted => ⟨_, rfl, discounted⟩
  · rintro discount ⟨⟩ -
    exact ⟨rfl, by norm_num [box]⟩

/-- At a discount of 4 on 10 the card shows 6 and the table 4. The card shows the half of
10 in riel below dollars. A card that was created for a product without a discount shows
none. -/
theorem prices_differ :
    ¬ SamePrices inDollars [] (sold (box 10 (some 4))) (box 10 (some 4)) ∧
      ¬ SamePrices inRiel [] (sold (box 10 (some 5))) (box 10 (some 5)) ∧
      ¬ SamePrices inDollars [sold (box 8 (some 0))] (sold (box 10 (some 5)))
        (box 10 (some 5)) := by
  refine ⟨?_, ?_, ?_⟩
  · rintro ⟨state, card, cell, -, built, listed, agrees⟩
    have half := ((build_agrees_iff state rfl rfl rfl).mp ⟨card, cell, built, listed, agrees⟩).2
    exact absurd (half 4 rfl (by norm_num)).2 (by norm_num [box])
  · rintro ⟨state, card, cell, -, built, listed, agrees⟩
    have half := ((build_agrees_iff state rfl rfl rfl).mp ⟨card, cell, built, listed, agrees⟩).2
    exact absurd (half 5 rfl (by norm_num)).1 (by decide)
  · rintro ⟨state, card, cell, created, built, listed, agrees⟩
    have same := ((build_agrees_iff state rfl rfl rfl).mp ⟨card, cell, built, listed, agrees⟩).1
    have flag := ((initState_iff _ _).mp created).2
    obtain ⟨price, ⟨⟩, zero, ⟨⟩, positive⟩ := flag.mp (same.mpr ⟨5, rfl, by norm_num⟩)
    exact absurd positive (by norm_num)

end SparSomnong.Catalogue
