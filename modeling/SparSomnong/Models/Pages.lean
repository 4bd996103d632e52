import SparSomnong.Catalogue.ProductLists
import SparSomnong.Models.Decoding

/-! The product lists, fed with the replies as they come over the wire.

The server may answer a request with any body. A page is appended when it has been
decoded; an error in a single row of it discards the page, and is only printed.
-/

set_option autoImplicit false

namespace SparSomnong.Models

open Semantics Value Catalogue

def productCategoriesClient (body : Value) :
    Except Thrown (Option (List (Option ProductCategory))) := do
  let productCategoryResponse ← ProductCategoryResponse.fromJson (← body.toMap)
  return productCategoryResponse.data

def getProductRelatedClient (body : Value) :
    Except Thrown (Option (List (Option ProductCategory))) := do
  let productCategoryResponse ← ProductCategoryResponse.fromJson (← body.toMap)
  return productCategoryResponse.data

abbrev WireList := ProductList (Option ProductCategory)

inductive WireAction where
  | scrollEnd
  | answer (page : Nat) (body : Value)
  | fail (page : Nat)
  deriving Repr

namespace WireList

def client : ListWidget → Value → Except Thrown (Option (List (Option ProductCategory)))
  | .moreCategoryScreen _ | .productListWidget => productCategoriesClient
  | .relatedProductListWidget => getProductRelatedClient

/-- A reply without data. It is the list itself for `initState`, and no argument of
`addAll` for the others. -/
def onNoData (list : WireList) (page : Nat) : ListWidget → WireList
  | .moreCategoryScreen _ | .relatedProductListWidget =>
    if page = 1 then { list with productCategories := none } else list
  | .productListWidget =>
    if page = 1 then { list with productCategories := none, visible := true } else list

def onAnswer (widget : ListWidget) (list : WireList) (page : Nat) (body : Value) : WireList :=
  match client widget body with
  | .ok (some onValue) =>
    ProductList.received widget { list with succeeded := list.succeeded ++ [page] } page onValue
  | .ok none => onNoData list page widget
  | .error _ => list

def step (widget : ListWidget) (list : WireList) : WireAction → Option WireList
  | .scrollEnd =>
    if list.displayed.isEmpty then none
    else some { list with page := list.page + 1, pending := list.pending ++ [list.page + 1] }
  | .answer page body =>
    if page ∈ list.pending then
      some (onAnswer widget { list with pending := list.pending.erase page } page body)
    else none
  | .fail page =>
    if page ∈ list.pending then some { list with pending := list.pending.erase page } else none

end WireList

/-! ## What is on display -/

def rowsOf : Value → List Value
  | .list rows => rows
  | _ => []

/-- The products in a reply that is a page of products throughout. -/
def heldRows : Value → List Value
  | .map json =>
    ((record schema .productCategoryResponse json).map fun held => rowsOf (child held "data")).getD []
  | _ => []

def replies (actions : List WireAction) : List Value :=
  actions.filterMap fun
    | .answer _ body => some body
    | _ => none

def appended (onValue : Except Thrown (Option (List (Option ProductCategory)))) :
    List (Option ProductCategory) :=
  match onValue with
  | .ok data => data.getD []
  | .error _ => []

theorem map_appended_client (widget : ListWidget) (body : Value) :
    (appended (WireList.client widget body)).map (ofRecord ProductCategory.toJson) =
      heldRows body := by
  have same : WireList.client widget body = productCategoriesClient body := by
    cases widget <;> rfl
  rw [same]
  unfold productCategoriesClient
  cases body with
  | map json =>
    have decodes := ModelClass.decodes .productCategoryResponse
    change (appended (do
      let productCategoryResponse ← ProductCategoryResponse.fromJson json
      return productCategoryResponse.data)).map _ = Option.getD (Option.map _ (record _ _ json)) _
    cases decoded : ProductCategoryResponse.fromJson json with
    | error thrown =>
      rw [((decodes.error_iff json thrown).mp decoded).2]
      rfl
    | ok response =>
      rw [(decodes.ok_iff json response).mp decoded]
      obtain ⟨message, data, success, code⟩ := response
      cases data <;> rfl
  | _ => rfl

namespace WireList

structure Paged (list : WireList) : Prop where
  counted : 1 ≤ list.page
  distinct : list.pending.Nodup
  pending_le : ∀ page ∈ list.pending, page ≤ list.page
  first : ∀ page ∈ list.pending, page = 1 ↔ list.productCategories = none

variable {widget : ListWidget} {list next : WireList} {action : WireAction}

theorem Paged.start (widget : ListWidget) : Paged widget.initState := by
  cases widget <;> constructor <;> simp [ListWidget.initState]

/-- A page that is no longer pending, whatever it has brought. -/
theorem Paged.settled (paged : Paged list) {page : Nat} (member : page ∈ list.pending)
    {after : WireList} (counter : after.page = list.page)
    (pending : after.pending = list.pending.erase page)
    (kept : page ≠ 1 → (after.productCategories = none ↔ list.productCategories = none)) :
    Paged after := by
  have within : ∀ other ∈ after.pending, other ≠ page ∧ other ∈ list.pending := by
    intro other still
    rw [pending] at still
    exact paged.distinct.mem_erase_iff.mp still
  constructor
  · rw [counter]
    exact paged.counted
  · rw [pending]
    exact paged.distinct.erase page
  · intro other still
    rw [counter]
    exact paged.pending_le other (within other still).2
  · intro other still
    obtain ⟨different, before⟩ := within other still
    by_cases one : page = 1
    · -- all that is pending beside the first page would be the first page again
      have absent := (paged.first page member).mp one
      exact absurd (((paged.first other before).mpr absent).trans one.symm) different
    · rw [kept one]
      exact paged.first other before

/-- A reply without data leaves no list where there is none. -/
theorem onNoData_eq (list : WireList) (page : Nat) (widget : ListWidget)
    (first : page = 1 → list.productCategories = none) :
    ∃ visible, onNoData list page widget = { list with visible } := by
  by_cases one : page = 1
  · have absent := first one
    cases widget with
    | productListWidget => exact ⟨true, by simp only [onNoData, if_pos one, ← absent]⟩
    | _ => exact ⟨list.visible, by simp only [onNoData, if_pos one, ← absent]⟩
  · refine ⟨list.visible, ?_⟩
    cases widget <;> exact if_neg one

theorem Paged.answered (widget : ListWidget) (paged : Paged list) {page : Nat}
    (member : page ∈ list.pending) (body : Value) :
    let after := onAnswer widget { list with pending := list.pending.erase page } page body
    Paged after ∧ after.displayed = list.displayed ++ appended (client widget body) := by
  intro after
  cases came : client widget body with
  | error thrown =>
    have same : after = { list with pending := list.pending.erase page } := by
      simp only [after, onAnswer, came]
    rw [same]
    exact ⟨paged.settled member rfl rfl fun _ => Iff.rfl, (List.append_nil _).symm⟩
  | ok data =>
    cases data with
    | none =>
      have same : after = onNoData { list with pending := list.pending.erase page } page widget := by
        simp only [after, onAnswer, came]
      obtain ⟨visible, ignored⟩ := onNoData_eq
        { list with pending := list.pending.erase page } page widget (paged.first page member).mp
      rw [same, ignored]
      exact ⟨paged.settled member rfl rfl fun _ => Iff.rfl, (List.append_nil _).symm⟩
    | some onValue =>
      have same : after = ProductList.received widget
          { list with
            pending := list.pending.erase page
            succeeded := list.succeeded ++ [page] } page onValue := by
        simp only [after, onAnswer, came]
      obtain ⟨visible, received⟩ := ProductList.received_eq widget
        { list with
          pending := list.pending.erase page
          succeeded := list.succeeded ++ [page] } page onValue (paged.first page member)
      rw [same, received]
      refine ⟨paged.settled member rfl rfl fun later => ?_, rfl⟩
      exact iff_of_false (by simp) (mt (paged.first page member).mpr later)

theorem Paged.scrolled (paged : Paged list) (shown : list.displayed.isEmpty = false) :
    Paged { list with page := list.page + 1, pending := list.pending ++ [list.page + 1] } := by
  have counted := paged.counted
  have present : list.productCategories ≠ none := by
    intro absent
    simp [ProductList.displayed, absent] at shown
  constructor
  · exact Nat.le_add_right_of_le counted
  · rw [List.nodup_append]
    refine ⟨paged.distinct, List.nodup_singleton _, ?_⟩
    intro page member new fresh same
    have bound := paged.pending_le page member
    rw [same, List.mem_singleton.mp fresh] at bound
    omega
  · intro page member
    rcases List.mem_append.mp member with old | new
    · exact Nat.le_succ_of_le (paged.pending_le page old)
    · exact Nat.le_of_eq (List.mem_singleton.mp new)
  · intro page member
    rcases List.mem_append.mp member with old | new
    · exact paged.first page old
    · rw [List.mem_singleton.mp new]
      exact iff_of_false (by omega) present

theorem Paged.step (paged : Paged list) (taken : WireList.step widget list action = some next) :
    Paged next ∧ next.displayed.map (ofRecord ProductCategory.toJson) =
      list.displayed.map (ofRecord ProductCategory.toJson) ++ (replies [action]).flatMap heldRows := by
  cases action with
  | scrollEnd =>
    simp only [WireList.step] at taken
    split at taken
    · cases taken
    · next shown =>
      cases taken
      exact ⟨paged.scrolled (eq_false_of_ne_true shown), (List.append_nil _).symm⟩
  | answer page body =>
    simp only [WireList.step] at taken
    split at taken
    · next member =>
      cases taken
      obtain ⟨after, displayed⟩ := paged.answered widget member body
      refine ⟨after, ?_⟩
      rw [displayed, List.map_append, map_appended_client]
      simp [replies]
    · cases taken
  | fail page =>
    simp only [WireList.step] at taken
    split at taken
    · next member =>
      cases taken
      exact ⟨paged.settled member rfl rfl fun _ => Iff.rfl, (List.append_nil _).symm⟩
    · cases taken

end WireList

/-- In every run, whatever the server answers, the products on display are the rows of
the replies in the order in which they came. A reply with a single value of another type
than declared adds none of its rows. -/
theorem displayed_of_replies {widget : ListWidget} {actions : List WireAction} {final : WireList}
    (reached : run (WireList.step widget) widget.initState actions = some final) :
    final.displayed.map (ofRecord ProductCategory.toJson) = (replies actions).flatMap heldRows := by
  have start : WireList.Paged widget.initState ∧
      (widget.initState : WireList).displayed.map (ofRecord ProductCategory.toJson) = [] := by
    refine ⟨WireList.Paged.start widget, ?_⟩
    cases widget <;> rfl
  suffices shown : WireList.Paged final ∧
      final.displayed.map (ofRecord ProductCategory.toJson) = (replies actions).flatMap heldRows from
    shown.2
  refine run_history (fun before list => WireList.Paged list ∧
    list.displayed.map (ofRecord ProductCategory.toJson) = (replies before).flatMap heldRows)
    ?_ start reached
  rintro before list action next ⟨paged, shown⟩ taken
  obtain ⟨after, displayed⟩ := paged.step taken
  refine ⟨after, ?_⟩
  rw [displayed, shown, ← List.flatMap_append]
  unfold replies
  rw [← List.filterMap_append]

def productRow (id : Int) (price : Value) : Value :=
  .map [("id", .int id), ("prices", .list [.map [("price", price)]])]

def pageReply (rows : List Value) : Value := .map [("message", .string "success"), ("data", .list rows)]

def spoiltPage : List WireAction :=
  [.answer 1 (pageReply [productRow 1 (.int 2)]), .scrollEnd,
    .answer 2 (pageReply [productRow 2 (.int 3), productRow 3 (.string "4")]), .scrollEnd,
    .answer 3 (pageReply [productRow 4 (.int 5)])]

def productOf (id price : Int) : ProductCategory :=
  ⟨some id, none, none, none, none, none,
    some [some ⟨none, none, none, some (toDouble price), none, none⟩]⟩

theorem client_productRow (id price : Int) :
    productCategoriesClient (pageReply [productRow id (.int price)]) =
      .ok (some [some (productOf id price)]) := by
  have decoded : ProductCategoryResponse.fromJson
      [("message", .string "success"), ("data", .list [productRow id (.int price)])] =
        .ok ⟨some "success", some [some (productOf id price)], none, none⟩ :=
    ((ModelClass.decodes .productCategoryResponse).ok_iff _ _).mpr rfl
  exact congrArg (fun task => do return Response.data (← task)) decoded

theorem client_spoilt :
    productCategoriesClient (pageReply [productRow 2 (.int 3), productRow 3 (.string "4")]) =
      .error .typeError := by
  have refused : ProductCategoryResponse.fromJson [("message", .string "success"),
      ("data", .list [productRow 2 (.int 3), productRow 3 (.string "4")])] = .error .typeError :=
    ((ModelClass.decodes .productCategoryResponse).error_iff _ _).mpr ⟨rfl, rfl⟩
  exact congrArg (fun task => do return Response.data (← task)) refused

theorem spoiltPage_skipped :
    ∃ final, run (WireList.step .productListWidget)
        (ListWidget.initState .productListWidget) spoiltPage = some final ∧
      final.displayed.map (ofRecord ProductCategory.toJson) = (replies spoiltPage).flatMap heldRows ∧
      (replies spoiltPage).flatMap heldRows =
        [ofRecord ProductCategory.toJson (some (productOf 1 2)),
          ofRecord ProductCategory.toJson (some (productOf 4 5))] := by
  have reached : run (WireList.step .productListWidget) (ListWidget.initState .productListWidget)
      spoiltPage = some ⟨3, some [some (productOf 1 2), some (productOf 4 5)], true, [], [1, 3]⟩ := by
    simp [spoiltPage, run, WireList.step, WireList.onAnswer, WireList.client, client_productRow,
      client_spoilt, ListWidget.initState, ProductList.received, ListWidget.onFirstPage,
      ListWidget.onNextPage, ProductList.displayed]
  exact ⟨_, reached, displayed_of_replies reached, rfl⟩

end SparSomnong.Models
