import SparSomnong.Models.Records

/-! The data that the decoders of the model classes accept, and what they make of it. -/

set_option autoImplicit false

namespace SparSomnong.Models

open Semantics Value Session Localisation

inductive ModelClass where
  | oum
  | price
  | productCategory
  | productCategoryResponse
  | company
  | mobile
  | productDetail
  | productDetailResponse
  | category
  | categoryResponse
  | favourite
  | favouriteResponse
  | position
  | positionResponse
  | userModel
  | userResponse
  | lastChat
  | lastChatResponse
  | file
  | fileResponse
  | currencyModel
  | lastMessage
  | message
  | user
  | messages
  | chatResponse
  deriving DecidableEq, Repr

def replyFields (data : Shape ModelClass) : List (String × Shape ModelClass) :=
  [("success", .bool), ("code", .int), ("message", .string), ("data", data)]

/-- The declared fields of each class. -/
def schema : Schema ModelClass
  | .oum => [("id", .int), ("name_en", .string), ("name_kh", .string), ("name_ch", .string)]
  | .price => [("productCategory", .record .productCategory), ("id", .int), ("variation", .string),
      ("price", .num), ("discount_dollar", .num), ("uom", .record .oum)]
  | .productCategory => [("id", .int), ("item_img", .string), ("name_kh", .string),
      ("name_en", .string), ("name_ch", .string), ("vdo_url", .string),
      ("prices", .list (.record .price))]
  | .productCategoryResponse => replyFields (.list (.record .productCategory))
  | .company => [("id", .int), ("name", .string), ("logo", .string)]
  | .mobile => [("id", .int), ("item_id", .int), ("company_phone_id", .int), ("phone", .string),
      ("company", .record .company)]
  | .productDetail => [("id", .int), ("item_img", .string), ("name_en", .string),
      ("name_kh", .string), ("name_ch", .string), ("description_en", .string),
      ("description_kh", .string), ("description_ch", .string), ("specification_en", .string),
      ("specification_kh", .string), ("specification_ch", .string), ("categories_id", .int),
      ("vdo_url", .string), ("view_cnt", .int), ("prices", .list (.record .price)),
      ("mobile", .list (.record .mobile))]
  | .productDetailResponse => replyFields (.record .productDetail)
  | .category => [("id", .int), ("name_kh", .string), ("name_en", .string), ("name_ch", .string),
      ("icon", .string)]
  | .categoryResponse => [("success", .bool), ("code", .int), ("message", .string),
      ("count", .int), ("data", .list (.record .category))]
  | .favourite => [("id", .int), ("item_img", .string), ("name_en", .string),
      ("name_kh", .string), ("name_ch", .string), ("vdo_url", .string)]
  | .favouriteResponse => replyFields (.list (.record .favourite))
  | .position => [("id", .int), ("name_kh", .string), ("name_en", .string), ("name_ch", .string)]
  | .positionResponse => replyFields (.list (.record .position))
  | .userModel => [("token", .string), ("id", .int), ("client_id", .int), ("uid", .string),
      ("name", .string), ("position_id", .int), ("phone", .string), ("email", .string),
      ("photo", .string), ("position", .record .position)]
  | .userResponse => replyFields (.record .userModel)
  | .lastChat => [("id", .int), ("user_id", .int), ("item_id", .int), ("client_id", .int),
      ("chat_key", .string), ("product", .record .productCategory), ("user", .record .userModel)]
  | .lastChatResponse => replyFields (.record .lastChat)
  | .file => [("type", .string), ("file", .string)]
  | .fileResponse => replyFields (.record .file)
  | .currencyModel => [("key", .string), ("id", .int), ("name", .string), ("amount", .double)]
  | .lastMessage => [("data", .string), ("key", .string), ("type", .int)]
  | .message => [("data", .string), ("lastTimeStamp", .int), ("type", .int)]
  | .user => [("lastSeen", .string), ("userId", .int)]
  | .messages => [("key", .string), ("message", .record .message), ("userId", .int)]
  | .chatResponse => [("key", .string), ("lastMessage", .record .lastMessage),
      ("lastTimeStamp", .int), ("messages", .dictionary (.record .messages)),
      ("users", .dictionary (.record .user))]

/-! ## Products -/

theorem OUM.decodes : Decodes schema .oum OUM.fromJson OUM.toJson where
  reads json := .record (.field (reads_int _) fun id => .field (reads_string _) fun name_en =>
    .field (reads_string _) fun name_ch => .field (reads_string _) fun name_kh => .done rfl)
    (by decide) fun _ => rfl
  returns uom := by simp [OUM.fromJson, OUM.toJson]

theorem eachToJson_eq (prices : List (Option Price)) :
    eachToJson prices = prices.map (ofRecord Price.toJson) := by
  induction prices with
  | nil => rfl
  | cons price rest ih =>
    rw [List.map_cons, ← ih]
    cases price <;> rfl

theorem pricesToJson_eq : pricesToJson = ofRecords Price.toJson := by
  funext prices
  cases prices with
  | none => rfl
  | some prices => exact congrArg Value.list (eachToJson_eq prices)

theorem productToJson_eq : productToJson = ofRecord ProductCategory.toJson := by
  funext product
  cases product <;> rfl

mutual

theorem Price.reads (json : Entries) :
    Reads Price.toJson (Price.fromJson json) (record schema .price json) := by
  have product : Reads productToJson
      (nested ProductCategory.fromJson (child json "productCategory"))
      (trim schema (child json "productCategory") (.record .productCategory)) := by
    rw [productToJson_eq]
    exact reads_nested fun inner found => ProductCategory.reads inner
  unfold Price.fromJson
  rw [nestedWithin_eq]
  exact .record (.field product fun productCategory => .field (reads_int _) fun id =>
    .field (reads_string _) fun variation => .field (reads_num _) fun price =>
    .field (reads_num _) fun discount_dollar =>
    .field (reads_nested fun inner _ => OUM.decodes.reads inner) fun uom => .done rfl)
    (by decide) fun price => by cases price; rfl
termination_by sizeOf json
decreasing_by
  have within := sizeOf_child_le json "productCategory"
  rw [found, Value.map.sizeOf_spec] at within
  omega

theorem ProductCategory.reads (json : Entries) :
    Reads ProductCategory.toJson (ProductCategory.fromJson json)
      (record schema .productCategory json) := by
  have each : Reads pricesToJson (nestedList Price.fromJson (child json "prices"))
      (trim schema (child json "prices") (.list (.record .price))) := by
    rw [pricesToJson_eq]
    exact reads_nestedList fun items inner found member => Price.reads inner
  unfold ProductCategory.fromJson
  rw [nestedListWithin_eq]
  exact .record (.field (reads_int _) fun id => .field (reads_string _) fun item_img =>
    .field (reads_string _) fun name_kh => .field (reads_string _) fun name_en =>
    .field (reads_string _) fun name_ch => .field (reads_string _) fun vdo_url =>
    .field each fun prices => .done rfl)
    (by decide) fun product => by cases product; rfl
termination_by sizeOf json
decreasing_by
  have within := sizeOf_child_le json "prices"
  have inside := List.sizeOf_lt_of_mem member
  rw [found, Value.list.sizeOf_spec] at within
  rw [Value.map.sizeOf_spec] at inside
  omega

end

mutual

theorem ProductCategory.returns :
    (product : ProductCategory) → ProductCategory.fromJson product.toJson = .ok product
  | ⟨id, item_img, name_kh, name_en, name_ch, vdo_url, prices⟩ => by
    have each := pricesToJson_returns prices
    unfold ProductCategory.fromJson
    rw [nestedListWithin_eq]
    simp [ProductCategory.toJson, each]

theorem pricesToJson_returns :
    (prices : Option (List (Option Price))) →
      nestedList Price.fromJson (pricesToJson prices) = .ok prices
  | none => rfl
  | some prices => congrArg (fun task => do return some (← task)) (eachToJson_returns prices)

theorem eachToJson_returns :
    (prices : List (Option Price)) →
      (eachToJson prices).mapM (nested Price.fromJson) = .ok prices
  | [] => rfl
  | none :: rest => by
    rw [eachToJson, List.mapM_cons, eachToJson_returns rest]
    rfl
  | some price :: rest => by
    have first : nested Price.fromJson (.map (Price.toJson price)) = .ok (some price) :=
      congrArg (fun task => do return some (← task)) (Price.returns price)
    rw [eachToJson, List.mapM_cons, eachToJson_returns rest, first]
    rfl

theorem Price.returns : (price : Price) → Price.fromJson (Price.toJson price) = .ok price
  | ⟨productCategory, id, variation, price, discount_dollar, uom⟩ => by
    have product := productToJson_returns productCategory
    have unit : nested OUM.fromJson (ofRecord OUM.toJson uom) = .ok uom :=
      nested_ofRecord fun found _ => OUM.decodes.returns found
    unfold Price.fromJson
    rw [nestedWithin_eq]
    simp [Price.toJson, product, unit]

theorem productToJson_returns :
    (product : Option ProductCategory) →
      nested ProductCategory.fromJson (productToJson product) = .ok product
  | none => rfl
  | some product =>
    congrArg (fun task => do return some (← task)) (ProductCategory.returns product)

end

theorem Price.decodes : Decodes schema .price Price.fromJson Price.toJson :=
  ⟨Price.reads, Price.returns⟩

theorem ProductCategory.decodes :
    Decodes schema .productCategory ProductCategory.fromJson ProductCategory.toJson :=
  ⟨ProductCategory.reads, ProductCategory.returns⟩

section
variable {name : ModelClass} {T : Type} {fromJson : Entries → Except Thrown T} {toJson : T → Entries}

theorem reads_one (decodes : Decodes schema name fromJson toJson) (value : Value) :
    Reads (ofRecord toJson) (nested fromJson value) (trim schema value (.record name)) :=
  reads_nested fun json _ => decodes.reads json

theorem reads_each (decodes : Decodes schema name fromJson toJson) (value : Value) :
    Reads (ofRecords toJson) (nestedList fromJson value)
      (trim schema value (.list (.record name))) :=
  reads_nestedList fun _ json _ _ => decodes.reads json

theorem reads_dictionary (decodes : Decodes schema name fromJson toJson) (value : Value) :
    Reads (ofDictionary toJson) (nestedMap fromJson value)
      (trim schema value (.dictionary (.record name))) := by
  cases value with
  | null => exact .ok none
  | map entries =>
    unfold trim
    exact (reads_entries fun entry _ => reads_one decodes entry.2).map fun _ => rfl
  | _ => exact .typeError

theorem returns_one (decodes : Decodes schema name fromJson toJson) (value : Option T) :
    nested fromJson (ofRecord toJson value) = .ok value :=
  nested_ofRecord fun found _ => decodes.returns found

theorem returns_each (decodes : Decodes schema name fromJson toJson)
    (value : Option (List (Option T))) : nestedList fromJson (ofRecords toJson value) = .ok value :=
  nestedList_ofRecords fun _ found _ _ => decodes.returns found

theorem returns_dictionary (decodes : Decodes schema name fromJson toJson)
    (value : Option (List (String × Option T))) :
    nestedMap fromJson (ofDictionary toJson value) = .ok value := by
  cases value with
  | none => rfl
  | some entries =>
    have each : ∀ entry ∈ entries, (do
        return (entry.1, ← nested fromJson (ofRecord toJson entry.2)) :
          Except Thrown (String × Option T)) = .ok entry := by
      intro entry _
      rw [returns_one decodes entry.2]
      rfl
    have all : (entries.map fun entry => (entry.1, ofRecord toJson entry.2)).mapM
        (fun entry => do return (entry.1, ← nested fromJson entry.2)) = .ok entries := by
      rw [List.mapM_map]
      exact (mapM_of_ok each).trans (congrArg _ (List.map_id entries))
    exact congrArg (fun task => do return some (← task)) all

end

theorem Company.decodes : Decodes schema .company Company.fromJson Company.toJson where
  reads json := .record (.field (reads_int _) fun id => .field (reads_string _) fun name =>
    .field (reads_string _) fun logo => .done rfl)
    (by decide) fun _ => rfl
  returns company := by simp [Company.fromJson, Company.toJson]

theorem Mobile.decodes : Decodes schema .mobile Mobile.fromJson Mobile.toJson where
  reads json := .record (.field (reads_int _) fun id => .field (reads_int _) fun item_id =>
    .field (reads_int _) fun company_phone_id => .field (reads_string _) fun phone =>
    .field (reads_one Company.decodes _) fun company => .done rfl)
    (by decide) fun _ => rfl
  returns mobile := by
    simp [Mobile.fromJson, Mobile.toJson, returns_one Company.decodes]

theorem ProductDetail.decodes :
    Decodes schema .productDetail ProductDetail.fromJson ProductDetail.toJson where
  reads json := .record (.field (reads_int _) fun id => .field (reads_string _) fun item_img =>
    .field (reads_string _) fun name_kh => .field (reads_string _) fun name_en =>
    .field (reads_string _) fun name_ch => .field (reads_string _) fun description_en =>
    .field (reads_string _) fun description_kh => .field (reads_string _) fun description_ch =>
    .field (reads_string _) fun specification_en =>
    .field (reads_string _) fun specification_kh =>
    .field (reads_string _) fun specification_ch => .field (reads_int _) fun categories_id =>
    .field (reads_string _) fun vdo_url => .field (reads_each Price.decodes _) fun prices =>
    .field (reads_each Mobile.decodes _) fun mobile => .field (reads_int _) fun view_cnt =>
    .done rfl)
    (by decide) fun _ => rfl
  returns detail := by
    simp [ProductDetail.fromJson, ProductDetail.toJson, returns_each Price.decodes,
      returns_each Mobile.decodes]

/-! ## The other records of the server -/

theorem Category.decodes : Decodes schema .category Category.fromJson Category.toJson where
  reads json := .record (.field (reads_int _) fun id => .field (reads_string _) fun name_kh =>
    .field (reads_string _) fun name_en => .field (reads_string _) fun name_ch =>
    .field (reads_string _) fun icon => .done rfl)
    (by decide) fun _ => rfl
  returns category := by simp [Category.fromJson, Category.toJson]

theorem Favourite.decodes : Decodes schema .favourite Favourite.fromJson Favourite.toJson where
  reads json := .record (.field (reads_int _) fun id => .field (reads_string _) fun item_img =>
    .field (reads_string _) fun name_kh => .field (reads_string _) fun name_en =>
    .field (reads_string _) fun name_ch => .field (reads_string _) fun vdo_url => .done rfl)
    (by decide) fun _ => rfl
  returns favourite := by simp [Favourite.fromJson, Favourite.toJson]

theorem Position.decodes : Decodes schema .position Position.fromJson Position.toJson where
  reads json := .record (.field (reads_int _) fun id => .field (reads_string _) fun name_kh =>
    .field (reads_string _) fun name_en => .field (reads_string _) fun name_ch =>
    .done rfl)
    (by decide) fun _ => rfl
  returns position := by simp [Position.fromJson, Position.toJson]

theorem UserModel.decodes : Decodes schema .userModel UserModel.fromJson UserModel.toJson where
  reads json := .record (.field (reads_string _) fun token => .field (reads_int _) fun id =>
    .field (reads_int _) fun client_id => .field (reads_string _) fun uid =>
    .field (reads_string _) fun name => .field (reads_int _) fun position_id =>
    .field (reads_string _) fun phone => .field (reads_string _) fun email =>
    .field (reads_string _) fun photo => .field (reads_one Position.decodes _) fun position =>
    .done rfl)
    (by decide) fun _ => rfl
  returns user := by
    simp [UserModel.fromJson, UserModel.toJson, returns_one Position.decodes]

theorem LastChat.decodes : Decodes schema .lastChat LastChat.fromJson LastChat.toJson where
  reads json := .record (.field (reads_int _) fun id => .field (reads_int _) fun user_id =>
    .field (reads_int _) fun item_id => .field (reads_int _) fun client_id =>
    .field (reads_string _) fun chat_key =>
    .field (reads_one ProductCategory.decodes _) fun product =>
    .field (reads_one UserModel.decodes _) fun user => .done rfl)
    (by decide) fun _ => rfl
  returns chat := by
    simp [LastChat.fromJson, LastChat.toJson, returns_one ProductCategory.decodes,
      returns_one UserModel.decodes]

theorem File.decodes : Decodes schema .file File.fromJson File.toJson where
  reads json := .record (.field (reads_string _) fun type => .field (reads_string _) fun file =>
    .done rfl)
    (by decide) fun _ => rfl
  returns file := by simp [File.fromJson, File.toJson]

theorem CurrencyModel.decodes :
    Decodes schema .currencyModel CurrencyModel.fromJson CurrencyModel.toJson where
  reads json := .record (.field (reads_string _) fun key => .field (reads_int _) fun id =>
    .field (reads_string _) fun name => .field (reads_double _) fun amount => .done rfl)
    (by decide) fun _ => rfl
  returns currency := by simp [CurrencyModel.fromJson, CurrencyModel.toJson]

/-! ## Replies -/

theorem Response.decodes {Data : Type} {data : Value → Except Thrown (Option Data)}
    {write : Option Data → Value} {shape : Shape ModelClass} {name : ModelClass}
    (declared : schema name = replyFields shape)
    (reads : ∀ value, Reads write (data value) (trim schema value shape))
    (returns : ∀ value, data (write value) = .ok value) :
    Decodes schema name (Response.fromJson data) (Response.toJson write) where
  reads json := by
    have order : ([("message", .string), ("data", shape)] ++ [("success", .bool), ("code", .int)] :
        List (String × Shape ModelClass)).Perm (schema name) :=
      declared ▸ List.perm_append_comm
    have named (response : Response Data) :
        (schema name).map (fun field => (field.1, child (response.toJson write) field.1)) =
          response.toJson write := by
      rw [declared]
      rfl
    exact .record (.field (reads_string _) fun message => .field (reads _) fun data =>
      .field (reads_bool _) fun success => .field (reads_int _) fun code => .done rfl) order named
  returns response := by simp [Response.fromJson, Response.toJson, returns]

theorem CategoryResponse.decodes :
    Decodes schema .categoryResponse CategoryResponse.fromJson CategoryResponse.toJson where
  reads json := .record (.field (reads_string _) fun message =>
    .field (reads_each Category.decodes _) fun data => .field (reads_bool _) fun success =>
    .field (reads_int _) fun code => .field (reads_int _) fun count => .done rfl)
    (by decide) fun _ => rfl
  returns response := by
    simp [CategoryResponse.fromJson, CategoryResponse.toJson, returns_each Category.decodes]

theorem UserResponse.decodes :
    Decodes schema .userResponse UserResponse.fromJson UserResponse.toJson where
  reads json := .record (.field (reads_string _) fun message =>
    .field (reads_one UserModel.decodes _) fun data => .field (reads_bool _) fun success =>
    .field (reads_int _) fun code => .done rfl)
    (by decide) fun _ => rfl
  returns response := by
    simp [UserResponse.fromJson, UserResponse.toJson, returns_one UserModel.decodes]

/-! ## Chats -/

theorem LastMessage.decodes :
    Decodes schema .lastMessage LastMessage.fromJson LastMessage.toJson where
  reads json := .record (.field (reads_string _) fun data => .field (reads_string _) fun key =>
    .field (reads_int _) fun type => .done rfl)
    (by decide) fun _ => rfl
  returns last := by simp [LastMessage.fromJson, LastMessage.toJson]

theorem Message.decodes : Decodes schema .message Message.fromJson Message.toJson where
  reads json := .record (.field (reads_string _) fun data =>
    .field (reads_int _) fun lastTimeStamp => .field (reads_int _) fun type => .done rfl)
    (by decide) fun _ => rfl
  returns message := by simp [Message.fromJson, Message.toJson]

theorem User.decodes : Decodes schema .user User.fromJson User.toJson where
  reads json := .record (.field (reads_string _) fun lastSeen =>
    .field (reads_int _) fun userId => .done rfl)
    (by decide) fun _ => rfl
  returns user := by simp [User.fromJson, User.toJson]

theorem Messages.decodes : Decodes schema .messages Messages.fromJson Messages.toJson where
  reads json := .record (.field (reads_string _) fun key =>
    .field (reads_one Message.decodes _) fun message => .field (reads_int _) fun userId =>
    .done rfl)
    (by decide) fun _ => rfl
  returns messages := by simp [Messages.fromJson, Messages.toJson, returns_one Message.decodes]

theorem ChatResponse.decodes :
    Decodes schema .chatResponse ChatResponse.fromJson ChatResponse.toJson where
  reads json := .record (.field (reads_string _) fun key =>
    .field (reads_one LastMessage.decodes _) fun lastMessage =>
    .field (reads_int _) fun lastTimeStamp =>
    .field (reads_dictionary Messages.decodes _) fun messages =>
    .field (reads_dictionary User.decodes _) fun users => .done rfl)
    (by decide) fun _ => rfl
  returns chat := by
    simp [ChatResponse.fromJson, ChatResponse.toJson, returns_one LastMessage.decodes,
      returns_dictionary Messages.decodes, returns_dictionary User.decodes]

/-! ## All of them -/

namespace ModelClass

def Model : ModelClass → Type
  | oum => OUM
  | price => Price
  | productCategory => ProductCategory
  | productCategoryResponse => ProductCategoryResponse
  | company => Company
  | mobile => Mobile
  | productDetail => ProductDetail
  | productDetailResponse => ProductDetailResponse
  | category => Category
  | categoryResponse => CategoryResponse
  | favourite => Favourite
  | favouriteResponse => FavouriteResponse
  | position => Position
  | positionResponse => PositionResponse
  | userModel => UserModel
  | userResponse => UserResponse
  | lastChat => LastChat
  | lastChatResponse => LastChatResponse
  | file => File
  | fileResponse => FileResponse
  | currencyModel => CurrencyModel
  | lastMessage => LastMessage
  | message => Message
  | user => User
  | messages => Messages
  | chatResponse => ChatResponse

def fromJson : (name : ModelClass) → Entries → Except Thrown name.Model
  | oum => OUM.fromJson
  | price => Price.fromJson
  | productCategory => ProductCategory.fromJson
  | productCategoryResponse => ProductCategoryResponse.fromJson
  | company => Company.fromJson
  | mobile => Mobile.fromJson
  | productDetail => ProductDetail.fromJson
  | productDetailResponse => ProductDetailResponse.fromJson
  | category => Category.fromJson
  | categoryResponse => CategoryResponse.fromJson
  | favourite => Favourite.fromJson
  | favouriteResponse => FavouriteResponse.fromJson
  | position => Position.fromJson
  | positionResponse => PositionResponse.fromJson
  | userModel => UserModel.fromJson
  | userResponse => UserResponse.fromJson
  | lastChat => LastChat.fromJson
  | lastChatResponse => LastChatResponse.fromJson
  | file => File.fromJson
  | fileResponse => FileResponse.fromJson
  | currencyModel => CurrencyModel.fromJson
  | lastMessage => LastMessage.fromJson
  | message => Message.fromJson
  | user => User.fromJson
  | messages => Messages.fromJson
  | chatResponse => ChatResponse.fromJson

def toJson : (name : ModelClass) → name.Model → Entries
  | oum => OUM.toJson
  | price => Price.toJson
  | productCategory => ProductCategory.toJson
  | productCategoryResponse => ProductCategoryResponse.toJson
  | company => Company.toJson
  | mobile => Mobile.toJson
  | productDetail => ProductDetail.toJson
  | productDetailResponse => ProductDetailResponse.toJson
  | category => Category.toJson
  | categoryResponse => CategoryResponse.toJson
  | favourite => Favourite.toJson
  | favouriteResponse => FavouriteResponse.toJson
  | position => Position.toJson
  | positionResponse => PositionResponse.toJson
  | userModel => UserModel.toJson
  | userResponse => UserResponse.toJson
  | lastChat => LastChat.toJson
  | lastChatResponse => LastChatResponse.toJson
  | file => File.toJson
  | fileResponse => FileResponse.toJson
  | currencyModel => CurrencyModel.toJson
  | lastMessage => LastMessage.toJson
  | message => Message.toJson
  | user => User.toJson
  | messages => Messages.toJson
  | chatResponse => ChatResponse.toJson

theorem decodes : (name : ModelClass) → Decodes schema name name.fromJson name.toJson
  | oum => OUM.decodes
  | price => Price.decodes
  | productCategory => ProductCategory.decodes
  | productCategoryResponse =>
    Response.decodes rfl (reads_each ProductCategory.decodes) (returns_each ProductCategory.decodes)
  | company => Company.decodes
  | mobile => Mobile.decodes
  | productDetail => ProductDetail.decodes
  | productDetailResponse =>
    Response.decodes rfl (reads_one ProductDetail.decodes) (returns_one ProductDetail.decodes)
  | category => Category.decodes
  | categoryResponse => CategoryResponse.decodes
  | favourite => Favourite.decodes
  | favouriteResponse =>
    Response.decodes rfl (reads_each Favourite.decodes) (returns_each Favourite.decodes)
  | position => Position.decodes
  | positionResponse =>
    Response.decodes rfl (reads_each Position.decodes) (returns_each Position.decodes)
  | userModel => UserModel.decodes
  | userResponse => UserResponse.decodes
  | lastChat => LastChat.decodes
  | lastChatResponse =>
    Response.decodes rfl (reads_one LastChat.decodes) (returns_one LastChat.decodes)
  | file => File.decodes
  | fileResponse => Response.decodes rfl (reads_one File.decodes) (returns_one File.decodes)
  | currencyModel => CurrencyModel.decodes
  | lastMessage => LastMessage.decodes
  | message => Message.decodes
  | user => User.decodes
  | messages => Messages.decodes
  | chatResponse => ChatResponse.decodes

end ModelClass

/-- A map is decoded to the one instance that holds what the map does of the class, and to
none, with a type error, exactly where a declared part of it is of another type. -/
theorem decoded_iff (name : ModelClass) (json : Entries) :
    (∀ model, name.fromJson json = .ok model ↔
      record schema name json = some (name.toJson model)) ∧
    (∀ thrown, name.fromJson json = .error thrown ↔
      thrown = .typeError ∧ record schema name json = none) ∧
    ∀ model, name.fromJson (name.toJson model) = .ok model :=
  ⟨name.decodes.ok_iff json, name.decodes.error_iff json, name.decodes.returns⟩

/-! ## Labels -/

def labels : List (ModelClass × String) :=
  [(.category, "name"), (.productCategory, "name"), (.productDetail, "name"),
    (.productDetail, "description"), (.productDetail, "specification"), (.favourite, "name"),
    (.position, "name"), (.oum, "name")]

theorem schema_distinct (name : ModelClass) : ((schema name).map Prod.fst).Nodup := by
  cases name <;> decide

theorem declared_of_label {name : ModelClass} {key : String} (label : (name, key) ∈ labels)
    (locale : String) : (key ++ "_" ++ languageKey locale, Shape.string) ∈ schema name := by
  have declared : ∀ entry ∈ labels, ∀ suffix ∈ ["ch", "kh", "en"],
      (entry.2 ++ "_" ++ suffix, Shape.string) ∈ schema entry.1 := by decide
  refine declared (name, key) label _ ?_
  rcases languageKey_cases locale with language | language | language
  all_goals simp [language]

theorem trim_string {value held : Value} (trimmed : trim schema value .string = some held) :
    held = value ∧ value.isString = true := by
  cases value with
  | null =>
    cases trimmed
    exact ⟨rfl, rfl⟩
  | string text =>
    cases trimmed
    exact ⟨rfl, rfl⟩
  | _ => cases trimmed

/-- A label is the text that the reply has for the language, and looking it up in what was
decoded never throws. -/
theorem label_of_decoded {name : ModelClass} {key : String} (label : (name, key) ∈ labels)
    {json : Entries} {model : name.Model} (decoded : name.fromJson json = .ok model)
    (locale : String) :
    getTextByKey locale (name.toJson model) key =
      .ok ((child json (key ++ "_" ++ languageKey locale)).string?.getD "N/A") := by
  have held := (name.decodes.ok_iff json model).mp decoded
  have kept := child_of_record held (schema_distinct name) (declared_of_label label locale)
  obtain ⟨same, text⟩ := trim_string kept
  unfold getTextByKey
  rw [same]
  revert text
  generalize child json (key ++ "_" ++ languageKey locale) = value
  intro text
  cases value with
  | null => rfl
  | string text => rfl
  | _ => cases text

theorem category_labels :
    ∃ model, ModelClass.fromJson .category [("id", .int 3), ("name_kh", .string "ក្រដាស")] =
        .ok model ∧
      getTextByKey "km" (ModelClass.toJson .category model) "name" = .ok "ក្រដាស" ∧
      getTextByKey "ch" (ModelClass.toJson .category model) "name" = .ok "N/A" := by
  have decoded : ModelClass.fromJson .category
      [("id", .int 3), ("name_kh", .string "ក្រដាស")] =
        .ok ⟨some 3, some "ក្រដាស", none, none, none⟩ := rfl
  exact ⟨_, decoded, label_of_decoded (by decide) decoded "km",
    label_of_decoded (by decide) decoded "ch"⟩

end SparSomnong.Models
