import SparSomnong.Semantics.Pages
import SparSomnong.Semantics.Run

/-! The product lists that load another page at the end of the scroll.

The counter goes up before the request and stays up when it fails, any number of
requests may be in flight, and a page is appended when it comes. The catalogue
does not change.
-/

set_option autoImplicit false

namespace SparSomnong.Catalogue

open Semantics

/-- The widgets; the limit of the first depends on the size of the screen. -/
inductive ListWidget where
  | moreCategoryScreen (limit : Nat)
  | productListWidget
  | relatedProductListWidget
  deriving DecidableEq, Repr

/-- `pending` are the pages asked for; `succeeded` is history, in the order they
came. Only two of the widgets have `visible`. -/
structure ProductList (Product : Type) where
  page : Nat := 1
  productCategories : Option (List Product) := none
  visible : Bool
  pending : List Nat
  succeeded : List Nat := []
  deriving DecidableEq, Repr

inductive ListAction where
  | scrollEnd
  | succeed (page : Nat)
  | fail (page : Nat)
  deriving DecidableEq, Repr

section
variable {Product : Type}

namespace ListWidget

def limit : ListWidget → Nat
  | moreCategoryScreen limit => limit
  | productListWidget => 9
  | relatedProductListWidget => 3

def initState : ListWidget → ProductList Product
  | moreCategoryScreen _ => { visible := false, pending := [1] }
  | productListWidget => { visible := false, pending := [1] }
  | relatedProductListWidget => { visible := true, pending := [1] }

def onFirstPage (onValue : List Product) (list : ProductList Product) :
    ListWidget → ProductList Product
  | moreCategoryScreen _ | relatedProductListWidget =>
    { list with productCategories := some onValue }
  | productListWidget => { list with productCategories := some onValue, visible := true }

def onNextPage (productCategories onValue : List Product) (list : ProductList Product) :
    ListWidget → ProductList Product
  | moreCategoryScreen _ => { list with productCategories := some (productCategories ++ onValue) }
  | productListWidget =>
    if onValue.length > 0 then
      { list with productCategories := some (productCategories ++ onValue) }
    else { list with visible := false }
  | relatedProductListWidget =>
    let added := { list with productCategories := some (productCategories ++ onValue) }
    if onValue.length = 0 then { added with visible := false } else added

end ListWidget

namespace ProductList

def displayed (list : ProductList Product) : List Product := list.productCategories.getD []

def received (widget : ListWidget) (list : ProductList Product) (page : Nat)
    (onValue : List Product) : ProductList Product :=
  -- page 1 is asked for by `initState` only; without a list, `addAll` throws and the error is
  -- caught
  if page = 1 then widget.onFirstPage onValue list
  else
    match list.productCategories with
    | some productCategories => widget.onNextPage productCategories onValue list
    | none => list

def step (widget : ListWidget) (catalogue : List Product) (list : ProductList Product) :
    ListAction → Option (ProductList Product)
  | .scrollEnd =>
    -- only a list with products has the controller
    if list.displayed ≠ [] then
      some { list with page := list.page + 1, pending := list.pending ++ [list.page + 1] }
    else none
  | .succeed page =>
    if page ∈ list.pending then
      some (received widget { list with
          pending := list.pending.erase page
          succeeded := list.succeeded ++ [page] }
        page (pageOf catalogue widget.limit page))
    else none
  | .fail page =>
    if page ∈ list.pending then some { list with pending := list.pending.erase page } else none

/-- Once nothing is pending, a prefix of the catalogue is on display that has every
page up to each one that came. -/
def InOrder (widget : ListWidget) (catalogue : List Product) (list : ProductList Product) : Prop :=
  list.pending = [] → list.displayed <+: catalogue ∧
    ∀ page ∈ list.succeeded, catalogue.take (page * widget.limit) <+: list.displayed

/-- A page with products comes when all pages before it have come, an empty one when
none before it has failed, and no page with products fails once a later one has come. -/
def Successive (widget : ListWidget) (catalogue : List Product) (list : ProductList Product) :
    ListAction → Prop
  | .scrollEnd => True
  | .succeed page => ∀ before < page, 1 ≤ before → Filled catalogue widget.limit before →
      before ∈ list.succeeded ∨ before ∈ list.pending ∧ ¬ Filled catalogue widget.limit page
  | .fail page => Filled catalogue widget.limit page → ∀ later ∈ list.succeeded, later ≤ page

instance (widget : ListWidget) (catalogue : List Product) (list : ProductList Product) :
    (action : ListAction) → Decidable (list.Successive widget catalogue action)
  | .scrollEnd => isTrue trivial
  | .succeed page => Nat.decidableBallLT page _
  | .fail _ => inferInstanceAs (Decidable (_ → _))

variable {widget : ListWidget} {catalogue : List Product} {list next : ProductList Product}
  {action : ListAction}

structure Ledger (widget : ListWidget) (catalogue : List Product) (list : ProductList Product) :
    Prop where
  counted : 1 ≤ list.page
  pending_le : ∀ page ∈ list.pending, 1 ≤ page ∧ page ≤ list.page
  succeeded_le : ∀ page ∈ list.succeeded, 1 ≤ page ∧ page ≤ list.page
  distinct : list.pending.Nodup
  once : ∀ page ∈ list.pending, page ∉ list.succeeded
  first : ∀ page ∈ list.pending, page = 1 ↔ list.productCategories = none
  shown : ∀ item ∈ list.displayed, ∃ page ∈ list.succeeded,
    item ∈ pageOf catalogue widget.limit page

inductive Went (widget : ListWidget) (catalogue : List Product) (list : ProductList Product) :
    ListAction → ProductList Product → Prop
  | scrolled : list.displayed ≠ [] → Went widget catalogue list .scrollEnd
      { list with page := list.page + 1, pending := list.pending ++ [list.page + 1] }
  | came {page : Nat} {next : ProductList Product} : page ∈ list.pending →
      next.page = list.page → next.pending = list.pending.erase page →
      next.succeeded = list.succeeded ++ [page] →
      next.displayed = list.displayed ++ pageOf catalogue widget.limit page →
      next.productCategories ≠ none → Went widget catalogue list (.succeed page) next
  | failed {page : Nat} : page ∈ list.pending → Went widget catalogue list (.fail page)
      { list with pending := list.pending.erase page }

theorem received_eq (widget : ListWidget) (list : ProductList Product) (page : Nat)
    (onValue : List Product) (first : page = 1 ↔ list.productCategories = none) :
    ∃ visible, received widget list page onValue =
      { list with productCategories := some (list.displayed ++ onValue), visible } := by
  unfold received
  split
  · next one =>
    have absent := first.mp one
    cases widget <;> exact ⟨_, by simp [ListWidget.onFirstPage, displayed, absent]; rfl⟩
  · next later =>
    cases present : list.productCategories with
    | none => exact absurd (first.mpr present) later
    | some productCategories =>
      have shown : list.displayed = productCategories := by simp [displayed, present]
      rw [shown]
      cases widget with
      | moreCategoryScreen limit => exact ⟨list.visible, rfl⟩
      | productListWidget =>
        cases onValue with
        | nil => exact ⟨false, by simp [ListWidget.onNextPage, present]⟩
        | cons head tail => exact ⟨list.visible, rfl⟩
      | relatedProductListWidget =>
        cases onValue with
        | nil => exact ⟨false, rfl⟩
        | cons head tail => exact ⟨list.visible, rfl⟩

theorem Ledger.went_of_step (ledger : Ledger widget catalogue list)
    (taken : list.step widget catalogue action = some next) :
    Went widget catalogue list action next := by
  cases action with
  | scrollEnd =>
    simp only [step] at taken
    split at taken
    · next shown =>
      cases taken
      exact .scrolled shown
    · cases taken
  | succeed page =>
    simp only [step] at taken
    split at taken
    · next member =>
      obtain ⟨visible, same⟩ := received_eq widget
        { list with
          pending := list.pending.erase page
          succeeded := list.succeeded ++ [page] }
        page (pageOf catalogue widget.limit page) (ledger.first page member)
      rw [same] at taken
      cases taken
      exact .came member rfl rfl rfl rfl (by simp)
    · cases taken
  | fail page =>
    simp only [step] at taken
    split at taken
    · next member =>
      cases taken
      exact .failed member
    · cases taken

theorem Ledger.start (widget : ListWidget) (catalogue : List Product) :
    Ledger widget catalogue widget.initState := by
  cases widget <;> constructor <;> simp [ListWidget.initState, displayed]

theorem Ledger.scrolled (ledger : Ledger widget catalogue list) (shown : list.displayed ≠ []) :
    Ledger widget catalogue
      { list with page := list.page + 1, pending := list.pending ++ [list.page + 1] } := by
  have counted := ledger.counted
  have present : list.productCategories ≠ none := by
    intro absent
    exact shown (by simp [displayed, absent])
  -- the new page is larger than all before
  have fresh : ∀ page ∈ list.pending, page ≠ list.page + 1 := by
    intro page member same
    have bound := (ledger.pending_le page member).2
    omega
  constructor
  · exact Nat.le_add_right_of_le counted
  · intro page member
    rcases List.mem_append.mp member with old | new
    · exact (ledger.pending_le page old).imp_right Nat.le_succ_of_le
    · rw [List.mem_singleton.mp new]
      exact ⟨Nat.le_add_left 1 list.page, Nat.le_refl _⟩
  · intro page member
    exact (ledger.succeeded_le page member).imp_right Nat.le_succ_of_le
  · rw [List.nodup_append]
    refine ⟨ledger.distinct, List.nodup_singleton _, ?_⟩
    intro page member new same
    rw [List.mem_singleton.mp same]
    exact fresh page member
  · intro page member came
    rcases List.mem_append.mp member with old | new
    · exact ledger.once page old came
    · have bound := (ledger.succeeded_le page came).2
      rw [List.mem_singleton.mp new] at bound
      omega
  · intro page member
    rcases List.mem_append.mp member with old | new
    · exact ledger.first page old
    · rw [List.mem_singleton.mp new]
      exact iff_of_false (by omega) present
  · exact ledger.shown

theorem Ledger.went (ledger : Ledger widget catalogue list)
    (went : Went widget catalogue list action next) : Ledger widget catalogue next := by
  cases went with
  | scrolled shown => exact ledger.scrolled shown
  | @came page next member counter pending succeeded displayed present =>
    constructor
    · rw [counter]
      exact ledger.counted
    · rw [pending, counter]
      intro other still
      exact ledger.pending_le other (List.mem_of_mem_erase still)
    · rw [succeeded, counter]
      intro other came
      rcases List.mem_append.mp came with old | new
      · exact ledger.succeeded_le other old
      · rw [List.mem_singleton.mp new]
        exact ledger.pending_le page member
    · rw [pending]
      exact ledger.distinct.erase page
    · rw [pending, succeeded]
      intro other still came
      obtain ⟨different, still⟩ := ledger.distinct.mem_erase_iff.mp still
      rcases List.mem_append.mp came with old | new
      · exact ledger.once other still old
      · exact different (List.mem_singleton.mp new)
    · rw [pending]
      intro other still
      obtain ⟨different, still⟩ := ledger.distinct.mem_erase_iff.mp still
      refine iff_of_false ?_ present
      intro one
      have absent := (ledger.first other still).mp one
      exact different (one.trans ((ledger.first page member).mpr absent).symm)
    · rw [displayed, succeeded]
      intro item shown
      rcases List.mem_append.mp shown with old | new
      · obtain ⟨from_, came, found⟩ := ledger.shown item old
        exact ⟨from_, List.mem_append_left _ came, found⟩
      · exact ⟨page, by simp, new⟩
  | @failed page member =>
    constructor
    · exact ledger.counted
    · intro other still
      exact ledger.pending_le other (List.mem_of_mem_erase still)
    · exact ledger.succeeded_le
    · exact ledger.distinct.erase page
    · intro other still
      exact ledger.once other (List.mem_of_mem_erase still)
    · intro other still
      exact ledger.first other (List.mem_of_mem_erase still)
    · exact ledger.shown

/-! ## Pages in order -/

/-- The first pages have come and are on display, whatever else has come is empty, and
the pages before it are on their way. -/
structure Gapless (widget : ListWidget) (catalogue : List Product) (list : ProductList Product) :
    Prop where
  ledger : Ledger widget catalogue list
  pages : ∃ shown, list.displayed = catalogue.take (shown * widget.limit) ∧
    (∀ page, 1 ≤ page → page ≤ shown → page ∈ list.succeeded) ∧
    ∀ page ∈ list.succeeded, page ≤ shown ∨ ¬ Filled catalogue widget.limit page
  awaited : ∀ page ∈ list.succeeded, ∀ before, 1 ≤ before → before < page →
    Filled catalogue widget.limit before → before ∈ list.succeeded ∨ before ∈ list.pending

theorem Gapless.start (widget : ListWidget) (catalogue : List Product) :
    Gapless widget catalogue widget.initState := by
  refine ⟨Ledger.start widget catalogue, ⟨0, ?_, ?_, ?_⟩, ?_⟩
  all_goals cases widget
  all_goals simp [ListWidget.initState, displayed]
  all_goals omega

theorem Gapless.exhausted (gapless : Gapless widget catalogue list) (settled : list.pending = [])
    (positive : 0 < widget.limit) {page shown : Nat} (member : page ∈ list.succeeded)
    (empty : ¬ Filled catalogue widget.limit page)
    (rest : ∀ page ∈ list.succeeded, page ≤ shown ∨ ¬ Filled catalogue widget.limit page) :
    catalogue.length ≤ shown * widget.limit := by
  by_contra short
  have filled : Filled catalogue widget.limit (shown + 1) := filled_succ positive (by omega)
  have before : shown + 1 < page := by
    by_contra after
    exact empty (filled.mono (by omega))
  rcases gapless.awaited page member (shown + 1) (by omega) before filled with here | pending
  · rcases rest (shown + 1) here with within | empty
    · omega
    · exact empty filled
  · rw [settled] at pending
    cases pending

theorem Gapless.inOrder (gapless : Gapless widget catalogue list) :
    list.InOrder widget catalogue := by
  intro settled
  obtain ⟨shown, displayed, came, rest⟩ := gapless.pages
  rw [displayed]
  refine ⟨List.take_prefix _ _, ?_⟩
  intro page member
  rcases rest page member with within | empty
  · exact List.take_prefix_take_left (Nat.mul_le_mul_right widget.limit within)
  · rcases Nat.eq_zero_or_pos widget.limit with zero | positive
    · simp [zero]
    · rw [List.take_of_length_le (gapless.exhausted settled positive member empty rest)]
      exact List.take_prefix _ _

theorem Gapless.turn (gapless : Gapless widget catalogue list) {page shown : Nat}
    (member : page ∈ list.pending) (filled : Filled catalogue widget.limit page)
    (allowed : list.Successive widget catalogue (.succeed page))
    (came : ∀ page, 1 ≤ page → page ≤ shown → page ∈ list.succeeded)
    (rest : ∀ page ∈ list.succeeded, page ≤ shown ∨ ¬ Filled catalogue widget.limit page) :
    shown = page - 1 := by
  have positive := (gapless.ledger.pending_le page member).1
  have notBefore : shown < page := by
    by_contra after
    exact gapless.ledger.once page member (came page positive (by omega))
  have notAfter : page - 1 ≤ shown := by
    by_contra gap
    have last : Filled catalogue widget.limit (page - 1) := filled.mono (by omega)
    rcases allowed (page - 1) (by omega) (by omega) last with here | ⟨-, empty⟩
    · rcases rest (page - 1) here with within | empty
      · omega
      · exact empty last
    · exact empty filled
  omega

theorem Gapless.went (gapless : Gapless widget catalogue list)
    (allowed : list.Successive widget catalogue action)
    (went : Went widget catalogue list action next) : Gapless widget catalogue next := by
  have ledger := gapless.ledger.went went
  obtain ⟨shown, displays, came, rest⟩ := gapless.pages
  cases went with
  | scrolled =>
    refine ⟨ledger, ⟨shown, displays, came, rest⟩, ?_⟩
    intro page member before positive less filled
    exact (gapless.awaited page member before positive less filled).imp_right
      (List.mem_append_left _)
  | @came page next member counter pending succeeded displayed present =>
    refine ⟨ledger, ?_, ?_⟩
    · rw [displayed, displays, succeeded]
      by_cases filled : Filled catalogue widget.limit page
      · have turn := gapless.turn member filled allowed came rest
        have positive := (gapless.ledger.pending_le page member).1
        refine ⟨page, ?_, ?_, ?_⟩
        · rw [turn, take_append_pageOf positive]
        · intro other positive within
          rcases Nat.lt_or_ge other page with less | same
          · exact List.mem_append_left _ (came other positive (by omega))
          · rw [Nat.le_antisymm within same]
            simp
        · intro other member
          rcases List.mem_append.mp member with old | new
          · exact (rest other old).imp_left (by omega)
          · exact Or.inl (Nat.le_of_eq (List.mem_singleton.mp new))
      · refine ⟨shown, ?_, ?_, ?_⟩
        · rw [pageOf_of_not_filled filled, List.append_nil]
        · intro other positive within
          exact List.mem_append_left _ (came other positive within)
        · intro other member
          rcases List.mem_append.mp member with old | new
          · exact rest other old
          · rw [List.mem_singleton.mp new]
            exact Or.inr filled
    · rw [succeeded, pending]
      intro other heard before positive less filled
      -- what was awaited has come now, or is still awaited
      have moved : before ∈ list.succeeded ∨ before ∈ list.pending →
          before ∈ list.succeeded ++ [page] ∨ before ∈ list.pending.erase page := by
        rintro (here | still)
        · exact Or.inl (List.mem_append_left _ here)
        · by_cases same : before = page
          · exact Or.inl (by simp [same])
          · exact Or.inr (gapless.ledger.distinct.mem_erase_iff.mpr ⟨same, still⟩)
      apply moved
      rcases List.mem_append.mp heard with old | new
      · exact gapless.awaited other old before positive less filled
      · rw [List.mem_singleton.mp new] at less
        exact (allowed before less positive filled).imp_right And.left
  | @failed page member =>
    refine ⟨ledger, ⟨shown, displays, came, rest⟩, ?_⟩
    intro other heard before positive less filled
    apply (gapless.awaited other heard before positive less filled).imp_right
    intro still
    apply gapless.ledger.distinct.mem_erase_iff.mpr
    refine ⟨?_, still⟩
    rintro rfl
    have late := allowed filled other heard
    omega

structure Gapped (widget : ListWidget) (catalogue : List Product) (list : ProductList Product) :
    Prop where
  ledger : Ledger widget catalogue list
  gap : ¬ list.displayed <+: catalogue ∨ ∃ page ∈ list.succeeded, ∃ before, 1 ≤ before ∧
    before < page ∧ Filled catalogue widget.limit before ∧ before ∉ list.succeeded ∧
    before ∉ list.pending

/-- In a catalogue without repetitions, a failed page is nowhere on display. -/
theorem Gapped.not_inOrder (distinct : catalogue.Nodup) (gapped : Gapped widget catalogue list)
    (settled : list.pending = []) : ¬ list.InOrder widget catalogue := by
  intro inOrder
  obtain ⟨ordered, complete⟩ := inOrder settled
  rcases gapped.gap with unordered | ⟨page, member, before, positive, less, filled, missing, -⟩
  · exact unordered ordered
  · obtain ⟨item, first⟩ : ∃ item, catalogue[(before - 1) * widget.limit]? = some item :=
      ⟨_, List.getElem?_eq_getElem filled.2⟩
    have within : (before - 1) * widget.limit < page * widget.limit :=
      Nat.mul_lt_mul_of_pos_right (by omega) filled.1
    have wanted : item ∈ catalogue.take (page * widget.limit) := by
      apply List.mem_of_getElem?
      rw [List.getElem?_take_of_lt within, first]
    have shown := (complete page member).subset wanted
    obtain ⟨source, came, found⟩ := gapped.ledger.shown item shown
    have bound := (gapped.ledger.succeeded_le source came).1
    rw [page_unique distinct positive bound first found] at came
    exact missing came

theorem Gapped.went (gapped : Gapped widget catalogue list)
    (went : Went widget catalogue list action next) : Gapped widget catalogue next := by
  refine ⟨gapped.ledger.went went, ?_⟩
  cases went with
  | scrolled =>
    rcases gapped.gap with unordered | ⟨page, member, before, positive, less, filled, missing, lost⟩
    · exact Or.inl unordered
    · refine Or.inr ⟨page, member, before, positive, less, filled, missing, ?_⟩
      -- a failed page is not asked for again
      have bound := (gapped.ledger.succeeded_le page member).2
      simp only [List.mem_append, List.mem_singleton, not_or]
      exact ⟨lost, by omega⟩
  | @came other next heard counter pending succeeded displayed present =>
    rw [displayed, succeeded, pending]
    rcases gapped.gap with unordered | ⟨page, member, before, positive, less, filled, missing, lost⟩
    · apply Or.inl
      intro ordered
      exact unordered ((List.prefix_append _ _).trans ordered)
    · refine Or.inr ⟨page, List.mem_append_left _ member, before, positive, less, filled, ?_, ?_⟩
      · simp only [List.mem_append, List.mem_singleton, not_or]
        refine ⟨missing, ?_⟩
        rintro rfl
        exact lost heard
      · intro still
        exact lost (List.mem_of_mem_erase still)
  | @failed other heard =>
    rcases gapped.gap with unordered | ⟨page, member, before, positive, less, filled, missing, lost⟩
    · exact Or.inl unordered
    · refine Or.inr ⟨page, member, before, positive, less, filled, missing, ?_⟩
      intro still
      exact lost (List.mem_of_mem_erase still)

theorem Gapless.gapped (distinct : catalogue.Nodup) (gapless : Gapless widget catalogue list)
    (refused : ¬ list.Successive widget catalogue action)
    (went : Went widget catalogue list action next) : Gapped widget catalogue next := by
  refine ⟨gapless.ledger.went went, ?_⟩
  cases went with
  | scrolled => exact absurd trivial refused
  | @came page next member counter pending succeeded displayed present =>
    simp only [Successive, not_forall, not_or, not_and, not_not] at refused
    obtain ⟨before, less, positive, filledBefore, missing, late⟩ := refused
    obtain ⟨shown, displays, came, rest⟩ := gapless.pages
    rw [displayed, displays, succeeded, pending]
    by_cases filled : Filled catalogue widget.limit page
    · apply Or.inl
      apply not_prefix_of_gap distinct filled
      by_contra after
      exact missing (came before positive (by omega))
    · apply Or.inr
      refine ⟨page, by simp, before, positive, less, filledBefore, ?_, ?_⟩
      · simp only [List.mem_append, List.mem_singleton, not_or]
        exact ⟨missing, by omega⟩
      · intro still
        exact filled (late (List.mem_of_mem_erase still))
  | @failed page member =>
    simp only [Successive, not_forall, Nat.not_le] at refused
    obtain ⟨filled, later, heard, less⟩ := refused
    apply Or.inr
    refine ⟨later, heard, page, (gapless.ledger.pending_le page member).1, less, filled,
      gapless.ledger.once page member, ?_⟩
    intro still
    exact (gapless.ledger.distinct.mem_erase_iff.mp still).1 rfl

end ProductList

open ProductList

/-- In every run of every widget: if every step is successive, the list is in order;
and where the catalogue has no product twice, a settled list is in order only then. -/
theorem inOrder_iff_successive {widget : ListWidget} {catalogue : List Product}
    {actions : List ListAction} {final : ProductList Product}
    (reached : run (step widget catalogue) widget.initState actions = some final) :
    (Meets (step widget catalogue) (Successive widget catalogue) widget.initState actions →
      final.InOrder widget catalogue) ∧
    (catalogue.Nodup → final.pending = [] → final.InOrder widget catalogue →
      Meets (step widget catalogue) (Successive widget catalogue) widget.initState actions) := by
  have start := Gapless.start widget catalogue
  have keep : ∀ list action next, Gapless widget catalogue list → True →
      list.Successive widget catalogue action → list.step widget catalogue action = some next →
      Gapless widget catalogue next := by
    intro list action next gapless _ allowed taken
    exact gapless.went allowed (gapless.ledger.went_of_step taken)
  constructor
  · intro meets
    apply Gapless.inOrder
    exact run_invariant _ (fun list action next gapless => keep list action next gapless trivial)
      start meets reached
  · intro distinct settled inOrder
    have leave : ∀ list action next, Gapless widget catalogue list → True →
        ¬ list.Successive widget catalogue action →
        list.step widget catalogue action = some next → Gapped widget catalogue next := by
      intro list action next gapless _ refused taken
      exact gapless.gapped distinct refused (gapless.ledger.went_of_step taken)
    have stay : ∀ list action next, Gapped widget catalogue list → True →
        list.step widget catalogue action = some next → Gapped widget catalogue next := by
      intro list action next gapped _ taken
      exact gapped.went (gapped.ledger.went_of_step taken)
    rcases run_dichotomy _ _ keep leave stay start (meets_true _ actions) reached with
      ⟨meets, -⟩ | ⟨-, gapped⟩
    · exact meets
    · exact absurd inOrder (gapped.not_inOrder distinct settled)

end

def threeScrolls : List ListAction :=
  [.succeed 1, .scrollEnd, .succeed 2, .scrollEnd, .fail 3]

theorem threeScrolls_inOrder :
    ∃ final, run (ProductList.step .relatedProductListWidget (List.range 7))
        (ListWidget.initState .relatedProductListWidget) threeScrolls = some final ∧
      final.displayed = [0, 1, 2, 3, 4, 5] ∧
      final.InOrder .relatedProductListWidget (List.range 7) :=
  ⟨_, rfl, rfl, (@inOrder_iff_successive _ _ _ threeScrolls _ rfl).1 (by decide)⟩

def overtaking : List ListAction :=
  [.succeed 1, .scrollEnd, .scrollEnd, .succeed 3, .succeed 2]

theorem overtaking_outOfOrder :
    ∃ final, run (ProductList.step .relatedProductListWidget (List.range 9))
        (ListWidget.initState .relatedProductListWidget) overtaking = some final ∧
      final.pending = [] ∧ final.displayed = [0, 1, 2, 6, 7, 8, 3, 4, 5] ∧
      ¬ final.InOrder .relatedProductListWidget (List.range 9) := by
  refine ⟨_, rfl, rfl, rfl, ?_⟩
  intro inOrder
  have ordered := (inOrder rfl).1
  exact absurd ordered (by decide)

end SparSomnong.Catalogue
