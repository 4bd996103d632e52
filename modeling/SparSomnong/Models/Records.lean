import SparSomnong.Semantics.Schema
import SparSomnong.Session.EditProfile
import SparSomnong.Session.Snapshot

/-! The model classes of the app, with their decoders and encoders.

`toJson` encodes a model with all it refers to, as a reply of the server would have it.
The generated `toJson` of a class leaves those instances in its map as they are, and
agrees with this one on the fields that are no instances.
-/

set_option autoImplicit false

namespace SparSomnong.Models

open Semantics Value Session

/-! ## Products -/

structure OUM where
  id : Option Int
  name_en : Option String
  name_kh : Option String
  name_ch : Option String
  deriving DecidableEq, Repr

/-- `Product` is the class of products, which has prices in turn. -/
structure PriceOf (Product : Type) where
  productCategory : Option Product
  id : Option Int
  variation : Option String
  price : Option Rat
  discount_dollar : Option Rat
  uom : Option OUM
  deriving Repr

structure ProductCategory where
  id : Option Int
  item_img : Option String
  name_kh : Option String
  name_en : Option String
  name_ch : Option String
  vdo_url : Option String
  prices : Option (List (Option (PriceOf ProductCategory)))
  deriving Repr

abbrev Price := PriceOf ProductCategory

structure Company where
  id : Option Int
  name : Option String
  logo : Option String
  deriving DecidableEq, Repr

structure Mobile where
  id : Option Int
  item_id : Option Int
  company_phone_id : Option Int
  phone : Option String
  company : Option Company
  deriving DecidableEq, Repr

structure ProductDetail where
  id : Option Int
  item_img : Option String
  name_en : Option String
  name_kh : Option String
  name_ch : Option String
  description_en : Option String
  description_kh : Option String
  description_ch : Option String
  specification_en : Option String
  specification_kh : Option String
  specification_ch : Option String
  categories_id : Option Int
  vdo_url : Option String
  view_cnt : Option Int
  prices : Option (List (Option Price))
  mobile : Option (List (Option Mobile))
  deriving Repr

def OUM.fromJson (json : Entries) : Except Thrown OUM := do
  return {
    id := ← (child json "id").asInt
    name_en := ← (child json "name_en").asString
    name_ch := ← (child json "name_ch").asString
    name_kh := ← (child json "name_kh").asString }

def OUM.toJson (uom : OUM) : Entries :=
  [("id", orNull .int uom.id), ("name_en", orNull .string uom.name_en),
    ("name_kh", orNull .string uom.name_kh), ("name_ch", orNull .string uom.name_ch)]

mutual

def Price.fromJson (json : Entries) : Except Thrown Price := do
  return {
    productCategory := ← nestedWithin (child json "productCategory") fun inner _ =>
      ProductCategory.fromJson inner
    id := ← (child json "id").asInt
    variation := ← (child json "variation").asString
    price := ← (child json "price").asNum
    discount_dollar := ← (child json "discount_dollar").asNum
    uom := ← nested OUM.fromJson (child json "uom") }
termination_by sizeOf json
decreasing_by
  have within := sizeOf_child_le json "productCategory"
  omega

def ProductCategory.fromJson (json : Entries) : Except Thrown ProductCategory := do
  return {
    id := ← (child json "id").asInt
    item_img := ← (child json "item_img").asString
    name_kh := ← (child json "name_kh").asString
    name_en := ← (child json "name_en").asString
    name_ch := ← (child json "name_ch").asString
    vdo_url := ← (child json "vdo_url").asString
    prices := ← nestedListWithin (child json "prices") fun inner _ => Price.fromJson inner }
termination_by sizeOf json
decreasing_by
  have within := sizeOf_child_le json "prices"
  omega

end

mutual

def ProductCategory.toJson : ProductCategory → Entries
  | ⟨id, item_img, name_kh, name_en, name_ch, vdo_url, prices⟩ =>
    [("id", orNull .int id), ("item_img", orNull .string item_img),
      ("name_kh", orNull .string name_kh), ("name_en", orNull .string name_en),
      ("name_ch", orNull .string name_ch), ("vdo_url", orNull .string vdo_url),
      ("prices", pricesToJson prices)]

def pricesToJson : Option (List (Option Price)) → Value
  | none => .null
  | some prices => .list (eachToJson prices)

def eachToJson : List (Option Price) → List Value
  | [] => []
  | none :: rest => .null :: eachToJson rest
  | some price :: rest => .map (Price.toJson price) :: eachToJson rest

def Price.toJson : Price → Entries
  | ⟨productCategory, id, variation, price, discount_dollar, uom⟩ =>
    [("productCategory", productToJson productCategory), ("id", orNull .int id),
      ("variation", orNull .string variation), ("price", orNull .double price),
      ("discount_dollar", orNull .double discount_dollar), ("uom", ofRecord OUM.toJson uom)]

def productToJson : Option ProductCategory → Value
  | none => .null
  | some product => .map product.toJson

end

def Company.fromJson (json : Entries) : Except Thrown Company := do
  return {
    id := ← (child json "id").asInt
    name := ← (child json "name").asString
    logo := ← (child json "logo").asString }

def Company.toJson (company : Company) : Entries :=
  [("id", orNull .int company.id), ("name", orNull .string company.name),
    ("logo", orNull .string company.logo)]

def Mobile.fromJson (json : Entries) : Except Thrown Mobile := do
  return {
    id := ← (child json "id").asInt
    item_id := ← (child json "item_id").asInt
    company_phone_id := ← (child json "company_phone_id").asInt
    phone := ← (child json "phone").asString
    company := ← nested Company.fromJson (child json "company") }

def Mobile.toJson (mobile : Mobile) : Entries :=
  [("id", orNull .int mobile.id), ("item_id", orNull .int mobile.item_id),
    ("company_phone_id", orNull .int mobile.company_phone_id),
    ("phone", orNull .string mobile.phone), ("company", ofRecord Company.toJson mobile.company)]

def ProductDetail.fromJson (json : Entries) : Except Thrown ProductDetail := do
  return {
    id := ← (child json "id").asInt
    item_img := ← (child json "item_img").asString
    name_kh := ← (child json "name_kh").asString
    name_en := ← (child json "name_en").asString
    name_ch := ← (child json "name_ch").asString
    description_en := ← (child json "description_en").asString
    description_kh := ← (child json "description_kh").asString
    description_ch := ← (child json "description_ch").asString
    specification_en := ← (child json "specification_en").asString
    specification_kh := ← (child json "specification_kh").asString
    specification_ch := ← (child json "specification_ch").asString
    categories_id := ← (child json "categories_id").asInt
    vdo_url := ← (child json "vdo_url").asString
    prices := ← nestedList Price.fromJson (child json "prices")
    mobile := ← nestedList Mobile.fromJson (child json "mobile")
    view_cnt := ← (child json "view_cnt").asInt }

def ProductDetail.toJson (detail : ProductDetail) : Entries :=
  [("id", orNull .int detail.id), ("item_img", orNull .string detail.item_img),
    ("name_en", orNull .string detail.name_en), ("name_kh", orNull .string detail.name_kh),
    ("name_ch", orNull .string detail.name_ch),
    ("description_en", orNull .string detail.description_en),
    ("description_kh", orNull .string detail.description_kh),
    ("description_ch", orNull .string detail.description_ch),
    ("specification_en", orNull .string detail.specification_en),
    ("specification_kh", orNull .string detail.specification_kh),
    ("specification_ch", orNull .string detail.specification_ch),
    ("categories_id", orNull .int detail.categories_id),
    ("vdo_url", orNull .string detail.vdo_url), ("view_cnt", orNull .int detail.view_cnt),
    ("prices", ofRecords Price.toJson detail.prices),
    ("mobile", ofRecords Mobile.toJson detail.mobile)]

/-! ## The other records of the server -/

structure Category where
  id : Option Int
  name_kh : Option String
  name_en : Option String
  name_ch : Option String
  icon : Option String
  deriving DecidableEq, Repr

def Category.fromJson (json : Entries) : Except Thrown Category := do
  return {
    id := ← (child json "id").asInt
    name_kh := ← (child json "name_kh").asString
    name_en := ← (child json "name_en").asString
    name_ch := ← (child json "name_ch").asString
    icon := ← (child json "icon").asString }

def Category.toJson (category : Category) : Entries :=
  [("id", orNull .int category.id), ("name_kh", orNull .string category.name_kh),
    ("name_en", orNull .string category.name_en), ("name_ch", orNull .string category.name_ch),
    ("icon", orNull .string category.icon)]

structure Favourite where
  id : Option Int
  item_img : Option String
  name_en : Option String
  name_kh : Option String
  name_ch : Option String
  vdo_url : Option String
  deriving DecidableEq, Repr

def Favourite.fromJson (json : Entries) : Except Thrown Favourite := do
  return {
    id := ← (child json "id").asInt
    item_img := ← (child json "item_img").asString
    name_kh := ← (child json "name_kh").asString
    name_en := ← (child json "name_en").asString
    name_ch := ← (child json "name_ch").asString
    vdo_url := ← (child json "vdo_url").asString }

def Favourite.toJson (favourite : Favourite) : Entries :=
  [("id", orNull .int favourite.id), ("item_img", orNull .string favourite.item_img),
    ("name_en", orNull .string favourite.name_en), ("name_kh", orNull .string favourite.name_kh),
    ("name_ch", orNull .string favourite.name_ch), ("vdo_url", orNull .string favourite.vdo_url)]

structure File where
  type : Option String
  file : Option String
  deriving DecidableEq, Repr

def File.fromJson (json : Entries) : Except Thrown File := do
  return { type := ← (child json "type").asString, file := ← (child json "file").asString }

def File.toJson (file : File) : Entries :=
  [("type", orNull .string file.type), ("file", orNull .string file.file)]

def UserModel.toJson (user : UserModel) : Entries :=
  [("token", orNull .string user.token), ("id", orNull .int user.id),
    ("client_id", orNull .int user.client_id), ("uid", orNull .string user.uid),
    ("name", orNull .string user.name), ("position_id", orNull .int user.position_id),
    ("phone", orNull .string user.phone), ("email", orNull .string user.email),
    ("photo", orNull .string user.photo), ("position", ofRecord Position.toJson user.position)]

structure LastChat where
  id : Option Int
  user_id : Option Int
  item_id : Option Int
  client_id : Option Int
  chat_key : Option String
  product : Option ProductCategory
  user : Option UserModel
  deriving Repr

def LastChat.fromJson (json : Entries) : Except Thrown LastChat := do
  return {
    id := ← (child json "id").asInt
    user_id := ← (child json "user_id").asInt
    item_id := ← (child json "item_id").asInt
    client_id := ← (child json "client_id").asInt
    chat_key := ← (child json "chat_key").asString
    product := ← nested ProductCategory.fromJson (child json "product")
    user := ← nested UserModel.fromJson (child json "user") }

def LastChat.toJson (chat : LastChat) : Entries :=
  [("id", orNull .int chat.id), ("user_id", orNull .int chat.user_id),
    ("item_id", orNull .int chat.item_id), ("client_id", orNull .int chat.client_id),
    ("chat_key", orNull .string chat.chat_key),
    ("product", ofRecord ProductCategory.toJson chat.product),
    ("user", ofRecord UserModel.toJson chat.user)]

def CurrencyModel.toJson (currency : CurrencyModel) : Entries :=
  [("key", orNull .string currency.key), ("id", orNull .int currency.id),
    ("name", orNull .string currency.name), ("amount", orNull .double currency.amount)]

/-! ## Replies -/

structure Response (Data : Type) where
  message : Option String
  data : Option Data
  success : Option Bool
  code : Option Int
  deriving DecidableEq, Repr

/-- The decoders of the replies differ in how they read the data only. -/
def Response.fromJson {Data : Type} (data : Value → Except Thrown (Option Data)) (json : Entries) :
    Except Thrown (Response Data) := do
  return {
    message := ← (child json "message").asString
    data := ← data (child json "data")
    success := ← (child json "success").asBool
    code := ← (child json "code").asInt }

def Response.toJson {Data : Type} (data : Option Data → Value) (response : Response Data) :
    Entries :=
  [("success", orNull .bool response.success), ("code", orNull .int response.code),
    ("message", orNull .string response.message), ("data", data response.data)]

abbrev ProductCategoryResponse := Response (List (Option ProductCategory))

def ProductCategoryResponse.fromJson : Entries → Except Thrown ProductCategoryResponse :=
  Response.fromJson (nestedList ProductCategory.fromJson)

def ProductCategoryResponse.toJson : ProductCategoryResponse → Entries :=
  Response.toJson (ofRecords ProductCategory.toJson)

abbrev ProductDetailResponse := Response ProductDetail

def ProductDetailResponse.fromJson : Entries → Except Thrown ProductDetailResponse :=
  Response.fromJson (nested ProductDetail.fromJson)

def ProductDetailResponse.toJson : ProductDetailResponse → Entries :=
  Response.toJson (ofRecord ProductDetail.toJson)

abbrev FavouriteResponse := Response (List (Option Favourite))

def FavouriteResponse.fromJson : Entries → Except Thrown FavouriteResponse :=
  Response.fromJson (nestedList Favourite.fromJson)

def FavouriteResponse.toJson : FavouriteResponse → Entries :=
  Response.toJson (ofRecords Favourite.toJson)

abbrev PositionResponse := Response (List (Option Position))

def PositionResponse.fromJson : Entries → Except Thrown PositionResponse :=
  Response.fromJson (nestedList Position.fromJson)

def PositionResponse.toJson : PositionResponse → Entries :=
  Response.toJson (ofRecords Position.toJson)

abbrev LastChatResponse := Response LastChat

def LastChatResponse.fromJson : Entries → Except Thrown LastChatResponse :=
  Response.fromJson (nested LastChat.fromJson)

def LastChatResponse.toJson : LastChatResponse → Entries := Response.toJson (ofRecord LastChat.toJson)

abbrev FileResponse := Response File

def FileResponse.fromJson : Entries → Except Thrown FileResponse :=
  Response.fromJson (nested File.fromJson)

def FileResponse.toJson : FileResponse → Entries := Response.toJson (ofRecord File.toJson)

def UserResponse.toJson (response : UserResponse) : Entries :=
  [("success", orNull .bool response.success), ("code", orNull .int response.code),
    ("message", orNull .string response.message),
    ("data", ofRecord UserModel.toJson response.data)]

structure CategoryResponse extends Response (List (Option Category)) where
  count : Option Int
  deriving DecidableEq, Repr

def CategoryResponse.fromJson (json : Entries) : Except Thrown CategoryResponse := do
  return {
    message := ← (child json "message").asString
    data := ← nestedList Category.fromJson (child json "data")
    success := ← (child json "success").asBool
    code := ← (child json "code").asInt
    count := ← (child json "count").asInt }

def CategoryResponse.toJson (response : CategoryResponse) : Entries :=
  [("success", orNull .bool response.success), ("code", orNull .int response.code),
    ("message", orNull .string response.message), ("count", orNull .int response.count),
    ("data", ofRecords Category.toJson response.data)]

/-! ## Chats -/

def ofDictionary {T : Type} (toJson : T → Entries) : Option (List (String × Option T)) → Value :=
  orNull fun entries => .map (entries.map fun entry => (entry.1, ofRecord toJson entry.2))

def LastMessage.toJson (last : LastMessage) : Entries :=
  [("data", orNull .string last.data), ("key", orNull .string last.key),
    ("type", orNull .int last.type)]

def Message.toJson (message : Message) : Entries :=
  [("data", orNull .string message.data), ("lastTimeStamp", orNull .int message.lastTimeStamp),
    ("type", orNull .int message.type)]

def User.toJson (user : User) : Entries :=
  [("lastSeen", orNull .string user.lastSeen), ("userId", orNull .int user.userId)]

def Messages.toJson (messages : Messages) : Entries :=
  [("key", orNull .string messages.key), ("message", ofRecord Message.toJson messages.message),
    ("userId", orNull .int messages.userId)]

def ChatResponse.toJson (chat : ChatResponse) : Entries :=
  [("key", orNull .string chat.key),
    ("lastMessage", ofRecord LastMessage.toJson chat.lastMessage),
    ("lastTimeStamp", orNull .int chat.lastTimeStamp),
    ("messages", ofDictionary Messages.toJson chat.messages),
    ("users", ofDictionary User.toJson chat.users)]

end SparSomnong.Models
