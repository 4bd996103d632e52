import SparSomnong.Catalogue.Prices
import SparSomnong.Models.Records

/-! What the cards and the price table read of the products that were decoded.

They calculate with amounts of money. A product one of whose prices has no amount,
or is null, has no reading.
-/

set_option autoImplicit false

namespace SparSomnong.Models

open Semantics Session Localisation

def OUM.reading (uom : OUM) : Catalogue.OUM := ⟨uom.name_en, uom.name_kh, uom.name_ch⟩

def Price.reading (price : Price) : Option Catalogue.Price :=
  price.price.map fun amount => ⟨amount, price.discount_dollar, price.uom.map OUM.reading⟩

def readingOf (prices : List (Option Price)) : Option (List Catalogue.Price) :=
  prices.mapM fun price => price.bind Price.reading

def ProductCategory.reading (product : ProductCategory) : Option Catalogue.ProductCategory :=
  let withPrices (prices : Option (List Catalogue.Price)) : Catalogue.ProductCategory :=
    ⟨product.item_img.map units, product.name_kh, product.name_en, product.name_ch, prices⟩
  match product.prices with
  | some prices => (readingOf prices).map fun quoted => withPrices (some quoted)
  | none => some (withPrices none)

theorem getTextByKey_oum (locale : String) (uom : OUM) :
    getTextByKey locale uom.reading.toJson "name" = getTextByKey locale uom.toJson "name" :=
  getTextByKey_congr locale rfl rfl rfl

section
variable {product : ProductCategory} {reading : Catalogue.ProductCategory}

theorem reading_cases (read : product.reading = some reading) :
    reading.name_kh = product.name_kh ∧ reading.name_en = product.name_en ∧
      reading.name_ch = product.name_ch ∧ reading.item_img = product.item_img.map units ∧
      ((product.prices = none ∧ reading.prices = none) ∨
        ∃ prices quoted, product.prices = some prices ∧ reading.prices = some quoted ∧
          readingOf prices = some quoted) := by
  unfold ProductCategory.reading at read
  cases priced : product.prices with
  | none =>
    rw [priced] at read
    cases read
    exact ⟨rfl, rfl, rfl, rfl, Or.inl ⟨rfl, rfl⟩⟩
  | some prices =>
    rw [priced] at read
    obtain ⟨quoted, mapped, rfl⟩ := Option.map_eq_some_iff.mp read
    exact ⟨rfl, rfl, rfl, rfl, Or.inr ⟨prices, quoted, rfl, rfl, mapped⟩⟩

theorem getTextByKey_product (locale : String) (read : product.reading = some reading) :
    getTextByKey locale reading.toJson "name" = getTextByKey locale product.toJson "name" := by
  obtain ⟨kh, en, ch, -, -⟩ := reading_cases read
  rw [Catalogue.ProductCategory.toJson, kh, en, ch]
  obtain ⟨id, item_img, name_kh, name_en, name_ch, vdo_url, prices⟩ := product
  exact getTextByKey_congr locale rfl rfl rfl

theorem firstPrice_reading (read : product.reading = some reading) {price : Catalogue.Price}
    (first : reading.firstPrice = some price) :
    ∃ entry rest, product.prices = some (some entry :: rest) ∧ Price.reading entry = some price := by
  obtain ⟨-, -, -, -, ⟨-, none⟩ | ⟨prices, quoted, priced, same, mapped⟩⟩ := reading_cases read
  · simp [Catalogue.ProductCategory.firstPrice, none] at first
  · rw [Catalogue.ProductCategory.firstPrice, same, Option.bind_some] at first
    cases prices with
    | nil =>
      cases mapped
      cases first
    | cons item rest =>
      rw [readingOf, List.mapM_cons, Option.bind_eq_bind, Option.bind_eq_some_iff] at mapped
      obtain ⟨head, found, mapped⟩ := mapped
      obtain ⟨others, -, mapped⟩ := Option.bind_eq_some_iff.mp mapped
      cases mapped
      cases first
      obtain ⟨entry, present, found⟩ := Option.bind_eq_some_iff.mp found
      exact ⟨entry, rest, by rw [priced, present], found⟩

theorem shown_of_build {state : Catalogue.ProductItem.ProductItemState}
    {selection : Catalogue.Selection} {card : Catalogue.Card}
    (built : Catalogue.ProductItem.build state selection reading = .ok card) :
    getTextByKey selection.locale reading.toJson "name" = .ok card.name ∧
      ∃ prices, reading.prices = some prices ∧
        Catalogue.ProductItem.original prices = .ok card.price := by
  obtain ⟨image, -, built⟩ := bind_eq_ok built
  obtain ⟨name, named, built⟩ := bind_eq_ok built
  obtain ⟨prices, priced, built⟩ := bind_eq_ok built
  obtain ⟨price, original, built⟩ := bind_eq_ok built
  have held : reading.prices = some prices := by
    cases found : reading.prices with
    | none =>
      rw [found] at priced
      cases priced
    | some list =>
      rw [found] at priced
      cases priced
      rfl
  split at built
  · obtain ⟨discounted, -, built⟩ := bind_eq_ok built
    cases built
    exact ⟨named, prices, held, original⟩
  · cases built
    exact ⟨named, prices, held, original⟩

theorem amount_of_original {prices : List Catalogue.Price} {quote : Catalogue.Quote}
    (original : Catalogue.ProductItem.original prices = .ok (some quote)) :
    ∃ price rest, prices = price :: rest ∧ quote.amount = price.price := by
  cases prices with
  | nil => cases original
  | cons price rest =>
    obtain ⟨uom, -, original⟩ := bind_eq_ok original
    cases original
    exact ⟨price, rest, rfl, rfl⟩

/-- A card shows the name of the model in the language, and a price of the amount that
the first price of the model has. -/
theorem card_of_reading (read : product.reading = some reading)
    {state : Catalogue.ProductItem.ProductItemState} {selection : Catalogue.Selection}
    {card : Catalogue.Card} (built : Catalogue.ProductItem.build state selection reading = .ok card) :
    getTextByKey selection.locale product.toJson "name" = .ok card.name ∧
      ∀ quote ∈ card.price, ∃ entry rest, product.prices = some (some entry :: rest) ∧
        entry.price = some quote.amount := by
  obtain ⟨named, prices, held, original⟩ := shown_of_build built
  rw [← getTextByKey_product _ read]
  refine ⟨named, ?_⟩
  intro quote quoted
  rw [Option.mem_def.mp quoted] at original
  obtain ⟨price, others, rfl, amount⟩ := amount_of_original original
  have first : reading.firstPrice = some price := by
    rw [Catalogue.ProductCategory.firstPrice, held]
    rfl
  obtain ⟨entry, rest, same, reads⟩ := firstPrice_reading read first
  obtain ⟨value, has, reads⟩ := Option.map_eq_some_iff.mp reads
  cases reads
  exact ⟨entry, rest, same, has.trans (congrArg some amount.symm)⟩

end

theorem cell_of_reading {entry : Price} {price : Catalogue.Price}
    (read : Price.reading entry = some price) {selection : Catalogue.Selection}
    {cell : Catalogue.Cell} (built : Catalogue.priceCell selection price = .ok cell) :
    entry.price = some cell.price.amount ∧
      ∃ uom unit, entry.uom = some uom ∧
        getTextByKey selection.locale uom.toJson "name" = .ok unit ∧ cell.price.unit = some unit := by
  obtain ⟨amount, has, reads⟩ := Option.map_eq_some_iff.mp read
  cases reads
  obtain ⟨reading, present, built⟩ := bind_eq_ok built
  obtain ⟨unit, called, built⟩ := bind_eq_ok built
  cases built
  refine ⟨has, ?_⟩
  cases found : entry.uom with
  | none =>
    rw [found] at present
    cases present
  | some uom =>
    rw [found] at present
    cases present
    exact ⟨uom, unit, rfl, getTextByKey_oum _ uom ▸ called, rfl⟩

end SparSomnong.Models
