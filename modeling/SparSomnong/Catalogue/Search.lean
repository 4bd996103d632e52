import Mathlib.Logic.Function.Basic
import SparSomnong.Semantics.Run

/-! The search screen.

A text that rests for a second becomes a query. Its reply ends the spinner and is
put on display when it comes, whichever query was issued last.
-/

set_option autoImplicit false

namespace SparSomnong.Catalogue

open Semantics

/-- A call of `searchProduct` without its reply; queries are numbered as they are
issued. -/
structure Query where
  number : Nat
  keyword : String
  deriving DecidableEq, Repr

/-- `debouncing` is the text whose timer is running and `product` the last value of
`streamController`. The fields from `issued` on are history. -/
structure SearchState (Product : Type) where
  isSearching : Bool := false
  debouncing : Option String := none
  pending : List Query := []
  product : Option (List Product) := none
  issued : Nat := 0
  shown : Option Nat := none
  replies : Nat → Option (List Product) := fun _ => none

inductive SearchAction (Product : Type) where
  | onChanged (value : String)
  | elapsed
  | replied (index : Nat) (product : List Product)
  deriving DecidableEq, Repr

namespace SearchState

section
variable {Product : Type}

def initState : SearchState Product := {}

def getSearch (query : String) (screen : SearchState Product) : SearchState Product :=
  { screen with
    pending := screen.pending ++ [⟨screen.issued, query⟩]
    issued := screen.issued + 1 }

def step (screen : SearchState Product) : SearchAction Product → Option (SearchState Product)
  | .onChanged value =>
    if value ≠ "" then
      -- the timer starts anew with every text
      some { screen with isSearching := true, debouncing := some value }
    else some screen
  | .elapsed =>
    screen.debouncing.map fun query => getSearch query { screen with debouncing := none }
  | .replied index product =>
    screen.pending[index]?.map fun query =>
      { screen with
        isSearching := false
        pending := screen.pending.eraseIdx index
        product := some product
        shown := some query.number
        replies := Function.update screen.replies query.number (some product) }

def LastListed (screen : SearchState Product) : Prop :=
  screen.debouncing = none → screen.pending = [] → 0 < screen.issued →
    screen.isSearching = false ∧ screen.product = screen.replies (screen.issued - 1)

def NoneStale (screen : SearchState Product) : Prop :=
  screen.isSearching = false → ∀ query ∈ screen.pending, ∀ number ∈ screen.shown,
    query.number ≤ number

def Current (screen : SearchState Product) : Prop := screen.LastListed ∧ screen.NoneStale

/-- A query is issued while the spinner turns. A reply comes when no later query is
waiting, and the last one to come is the reply to the last query, or the same list. -/
def InTurn (screen : SearchState Product) : SearchAction Product → Prop
  | .onChanged _ => True
  | .elapsed => screen.isSearching = true
  | .replied index product => ∀ query ∈ screen.pending[index]?,
    (∀ other ∈ screen.pending, other.number ≤ query.number) ∧
      (screen.debouncing = none → screen.pending.length = 1 →
        query.number + 1 = screen.issued ∨
          screen.replies (screen.issued - 1) = some product)

instance [DecidableEq Product] (screen : SearchState Product) : Decidable screen.Current :=
  inferInstanceAs (Decidable ((_ → _ → _ → _ ∧ _) ∧ (_ → ∀ _ ∈ _, ∀ _ ∈ _, _)))

instance [DecidableEq Product] (screen : SearchState Product) :
    (action : SearchAction Product) → Decidable (screen.InTurn action)
  | .onChanged _ => isTrue trivial
  | .elapsed => inferInstanceAs (Decidable (_ = _))
  | .replied .. => inferInstanceAs (Decidable (∀ _ ∈ _, _ ∧ (_ → _ → _ ∨ _)))

structure Numbered (screen : SearchState Product) : Prop where
  pending_lt : ∀ query ∈ screen.pending, query.number < screen.issued
  shown_lt : ∀ number ∈ screen.shown, number < screen.issued
  listed : screen.debouncing ≠ none → screen.isSearching = true ∨ screen.shown ≠ none

variable {screen next : SearchState Product} {action : SearchAction Product}

theorem numbered_initState : Numbered (initState : SearchState Product) := by
  constructor <;> simp [initState]

theorem Numbered.step (numbered : Numbered screen) (taken : screen.step action = some next) :
    Numbered next := by
  cases action with
  | onChanged value =>
    simp only [SearchState.step] at taken
    split at taken
    · cases taken
      exact ⟨numbered.pending_lt, numbered.shown_lt, fun _ => Or.inl rfl⟩
    · cases taken
      exact numbered
  | elapsed =>
    obtain ⟨keyword, rest, rfl⟩ := Option.map_eq_some_iff.mp taken
    refine ⟨?_, fun number shown => Nat.lt_succ_of_lt (numbered.shown_lt number shown),
      fun running => absurd rfl running⟩
    intro query member
    rcases List.mem_append.mp member with old | new
    · exact Nat.lt_succ_of_lt (numbered.pending_lt query old)
    · rw [List.mem_singleton.mp new]
      exact Nat.lt_succ_self _
  | replied index product =>
    obtain ⟨query, found, rfl⟩ := Option.map_eq_some_iff.mp taken
    refine ⟨fun other left => numbered.pending_lt other (List.mem_of_mem_eraseIdx left), ?_,
      fun _ => Or.inr (by simp)⟩
    intro number shown
    obtain rfl := Option.mem_some_iff.mp shown
    exact numbered.pending_lt query (List.mem_of_getElem? found)

/-- A query that is issued while a list is on display makes the list stale. -/
theorem Numbered.current_elapsed (numbered : Numbered screen) {keyword : String}
    (rest : screen.debouncing = some keyword) :
    (getSearch keyword { screen with debouncing := none }).Current ↔
      screen.isSearching = true := by
  constructor
  · intro current
    rcases numbered.listed (by simp [rest]) with turning | shown
    · exact turning
    · by_contra ended
      obtain ⟨number, before⟩ := Option.ne_none_iff_exists'.mp shown
      have less := numbered.shown_lt number before
      have notLess : screen.issued ≤ number :=
        current.2 (eq_false_of_ne_true ended) ⟨screen.issued, keyword⟩
          (by simp [getSearch]) number before
      omega
  · intro turning
    exact ⟨fun _ none => absurd none (by simp [getSearch]),
      fun ended => Bool.noConfusion (ended.symm.trans turning)⟩

/-- A reply is current when no later query waits, and when it is the last one, it
answers the last query. -/
theorem Numbered.current_replied (numbered : Numbered screen) {index : Nat} {query : Query}
    (found : screen.pending[index]? = some query) (product : List Product) :
    Current { screen with
        isSearching := false
        pending := screen.pending.eraseIdx index
        product := some product
        shown := some query.number
        replies := Function.update screen.replies query.number (some product) } ↔
      screen.InTurn (.replied index product) := by
  have inside := (List.getElem?_eq_some_iff.mp found).1
  have member := List.mem_of_getElem? found
  have positive : 0 < screen.issued := Nat.zero_lt_of_lt (numbered.pending_lt query member)
  have last : screen.pending.eraseIdx index = [] ↔ screen.pending.length = 1 := by
    rw [← List.length_eq_zero_iff, List.length_eraseIdx_of_lt inside]
    omega
  have others : (∀ other ∈ screen.pending.eraseIdx index, other.number ≤ query.number) ↔
      ∀ other ∈ screen.pending, other.number ≤ query.number := by
    constructor
    · intro bounded other here
      obtain ⟨place, there⟩ := List.getElem?_of_mem here
      by_cases same : place = index
      · rw [same, found] at there
        cases there
        exact Nat.le_refl _
      · exact bounded other (List.mem_eraseIdx_iff_getElem?.mpr ⟨place, same, there⟩)
    · exact fun bounded other left => bounded other (List.mem_of_mem_eraseIdx left)
  have answers : some product =
      Function.update screen.replies query.number (some product) (screen.issued - 1) ↔
        query.number + 1 = screen.issued ∨ screen.replies (screen.issued - 1) = some product := by
    by_cases same : query.number + 1 = screen.issued
    · have number : screen.issued - 1 = query.number := by omega
      simp [same, number]
    · have other : screen.issued - 1 ≠ query.number := by omega
      simp [same, Function.update_of_ne other, eq_comm]
  simp only [Current, LastListed, NoneStale, InTurn, found, Option.mem_some_iff, forall_eq',
    last, others, answers, positive, true_and, true_implies]
  exact and_comm

theorem Numbered.current_iff (numbered : Numbered screen) (current : screen.Current)
    (taken : screen.step action = some next) : next.Current ↔ screen.InTurn action := by
  cases action with
  | onChanged value =>
    simp only [SearchState.step] at taken
    split at taken
    · cases taken
      exact iff_of_true ⟨(fun none => nomatch none), (fun ended => nomatch ended)⟩ trivial
    · cases taken
      exact iff_of_true current trivial
  | elapsed =>
    obtain ⟨keyword, rest, rfl⟩ := Option.map_eq_some_iff.mp taken
    exact numbered.current_elapsed rest
  | replied index product =>
    obtain ⟨query, found, rfl⟩ := Option.map_eq_some_iff.mp taken
    exact numbered.current_replied found product

/-- The list belongs to the last query throughout a run exactly when every query and
every reply comes in its turn. -/
theorem current_throughout_iff {actions : List (SearchAction Product)}
    {final : SearchState Product} (reached : run step initState actions = some final) :
    Always step Current initState actions ↔ Meets step InTurn initState actions :=
  always_iff_meets Numbered (fun _ _ _ numbered taken => numbered.step taken)
    (fun _ _ _ numbered current taken => numbered.current_iff current taken)
    numbered_initState ⟨(fun _ _ issued => nomatch issued), (fun _ _ none => nomatch none)⟩ reached

end

def typedTwice : List (SearchAction String) :=
  [.onChanged "r", .onChanged "ri", .elapsed, .onChanged "", .onChanged "rice", .elapsed]

theorem typedTwice_current :
    ∃ final, run step initState
        (typedTwice.take 3 ++ [.replied 0 ["rings"], .onChanged "rice", .elapsed,
          .replied 0 ["rice"]]) = some final ∧
      final.product = some ["rice"] ∧ final.issued = 2 ∧
      Always step Current initState
        (typedTwice.take 3 ++ [.replied 0 ["rings"], .onChanged "rice", .elapsed,
          .replied 0 ["rice"]]) := by
  have found : (run step initState (typedTwice.take 3 ++ [.replied 0 ["rings"],
      .onChanged "rice", .elapsed, .replied 0 ["rice"]])).any (fun final =>
        decide (final.product = some ["rice"] ∧ final.issued = 2)) = true := by decide
  obtain ⟨final, reached, test⟩ := exists_of_run found
  obtain ⟨product, issued⟩ := of_decide_eq_true test
  exact ⟨final, reached, product, issued, (current_throughout_iff reached).mpr (by decide)⟩

theorem typedTwice_stale :
    (∃ final, run step initState
        (typedTwice ++ [.replied 1 ["rice"], .replied 0 ["rings"]]) = some final ∧
      final.debouncing = none ∧ final.pending = [] ∧ final.replies 1 = some ["rice"] ∧
      final.product = some ["rings"] ∧ ¬ final.Current) ∧
    ∃ middle, run step initState (typedTwice ++ [.replied 0 ["rings"]]) = some middle ∧
      middle.pending = [⟨1, "rice"⟩] ∧ middle.isSearching = false ∧
      middle.product = some ["rings"] ∧ ¬ middle.Current := by
  have late : (run step initState (typedTwice ++ [.replied 1 ["rice"], .replied 0 ["rings"]])).any
      (fun final => decide (final.debouncing = none ∧ final.pending = [] ∧
        final.replies 1 = some ["rice"] ∧ final.product = some ["rings"] ∧ ¬ final.Current)) =
          true := by decide
  have early : (run step initState (typedTwice ++ [.replied 0 ["rings"]])).any (fun middle =>
      decide (middle.pending = [⟨1, "rice"⟩] ∧ middle.isSearching = false ∧
        middle.product = some ["rings"] ∧ ¬ middle.Current)) = true := by decide
  obtain ⟨final, reachedLate, overtaken⟩ := exists_of_run late
  obtain ⟨middle, reachedEarly, waiting⟩ := exists_of_run early
  exact ⟨⟨final, reachedLate, of_decide_eq_true overtaken⟩,
    ⟨middle, reachedEarly, of_decide_eq_true waiting⟩⟩

end SearchState

end SparSomnong.Catalogue
