import SparSomnong.Semantics.Pages
import SparSomnong.Semantics.Run

/-! The category screen.

It asks for the first page when it starts and again on every build without
categories, and for the next one at the end of the scroll. Whatever comes is
assigned, so that a page replaces the ones before it.
-/

set_option autoImplicit false

namespace SparSomnong.Catalogue

open Semantics

/-- A request in flight; only those made by `build` call `setState` with the reply. -/
structure CategoryRequest where
  page : Nat
  fromBuild : Bool
  deriving DecidableEq, Repr

/-- `listed` says whether the last build showed the list with the controller, and
`arrived` is history. -/
structure CategoryScreen (Category : Type) where
  page : Nat := 1
  categories : Option (List Category) := none
  listed : Bool := false
  pending : List CategoryRequest := []
  arrived : List Nat := []
  deriving DecidableEq, Repr

/-- The replies come in the order of the requests. -/
inductive CategoryAction where
  | build
  | scrollEnd
  | respond
  deriving DecidableEq, Repr

namespace CategoryScreen

section
variable {Category : Type}

def initState : CategoryScreen Category := { pending := [⟨1, false⟩] }

def build (screen : CategoryScreen Category) : CategoryScreen Category :=
  match screen.categories with
  | some categories => { screen with listed := !categories.isEmpty }
  | none => { screen with listed := false, pending := screen.pending ++ [⟨screen.page, true⟩] }

def step (items : List Category) (limit : Nat) (screen : CategoryScreen Category) :
    CategoryAction → Option (CategoryScreen Category)
  | .build => some screen.build
  | .scrollEnd =>
    if screen.listed then
      some (build { screen with
        page := screen.page + 1
        pending := screen.pending ++ [⟨screen.page + 1, false⟩] })
    else none
  | .respond =>
    match screen.pending with
    | [] => none
    | request :: rest =>
      let assigned := { screen with
        categories := some (pageOf items limit request.page)
        pending := rest
        arrived := screen.arrived ++ [request.page] }
      some (if request.fromBuild then assigned.build else assigned)

def Accumulated (items : List Category) (limit : Nat) (screen : CategoryScreen Category) : Prop :=
  ∀ last ∈ screen.arrived, (∀ page ∈ screen.arrived, page ≤ last) →
    screen.categories = some (pagesUpTo items limit last)

instance [DecidableEq Category] (items : List Category) (limit : Nat)
    (screen : CategoryScreen Category) : Decidable (screen.Accumulated items limit) :=
  inferInstanceAs (Decidable (∀ _ ∈ _, _ → _))

/-- Only the first page arrives. -/
def FirstOnly (screen : CategoryScreen Category) (action : CategoryAction) : Prop :=
  action = .respond → ∀ request ∈ screen.pending.head?, request.page = 1

instance (screen : CategoryScreen Category) (action : CategoryAction) :
    Decidable (screen.FirstOnly action) :=
  inferInstanceAs (Decidable (_ → ∀ _ ∈ _, _))

def asked (screen : CategoryScreen Category) : List Nat :=
  screen.arrived ++ screen.pending.map CategoryRequest.page

/-- The pages are asked for one after the other, each at least once, and more than
the first only of a catalogue that has one. -/
structure Queued (items : List Category) (limit : Nat) (screen : CategoryScreen Category) :
    Prop where
  counted : 1 ≤ screen.page
  sorted : screen.asked.Pairwise (· ≤ ·)
  bounded : ∀ page ∈ screen.asked, 1 ≤ page ∧ page ≤ screen.page
  complete : ∀ page, 1 ≤ page → page ≤ screen.page → page ∈ screen.asked
  blank : screen.categories = none → screen.page = 1
  filled : screen.page = 1 ∨ Filled items limit 1
  shown : ∀ categories ∈ screen.categories, categories ≠ [] → Filled items limit 1
  listed : screen.listed = true → screen.categories ≠ none ∧ Filled items limit 1

variable {items : List Category} {limit : Nat} {screen next : CategoryScreen Category}
  {action : CategoryAction}

theorem queued_initState : Queued items limit (initState : CategoryScreen Category) := by
  constructor
  · exact Nat.le_refl 1
  · simp [initState, asked]
  · simp [initState, asked]
  · intro page positive within
    simp only [initState] at within
    simp [initState, asked]
    omega
  · exact fun _ => rfl
  · exact Or.inl rfl
  · simp [initState]
  · simp [initState]

theorem Queued.build (queued : Queued items limit screen) : Queued items limit screen.build := by
  unfold CategoryScreen.build
  split
  · next categories present =>
    refine ⟨queued.counted, queued.sorted, queued.bounded, queued.complete, queued.blank,
      queued.filled, queued.shown, fun listed => ⟨by simp [present], ?_⟩⟩
    exact queued.shown categories present (by simpa using listed)
  · next absent =>
    have first := queued.blank absent
    have asks : asked { screen with
        listed := false
        pending := screen.pending ++ [⟨screen.page, true⟩] } = screen.asked ++ [screen.page] := by
      simp [asked]
    constructor
    · exact queued.counted
    · rw [asks, List.pairwise_append]
      exact ⟨queued.sorted, List.pairwise_singleton _ _, fun page member other last => by
        rw [List.mem_singleton.mp last]
        exact (queued.bounded page member).2⟩
    · rw [asks]
      intro page member
      rcases List.mem_append.mp member with old | new
      · exact queued.bounded page old
      · rw [List.mem_singleton.mp new]
        exact ⟨queued.counted, Nat.le_refl _⟩
    · rw [asks]
      intro page positive within
      exact List.mem_append_left _ (queued.complete page positive within)
    · exact queued.blank
    · exact queued.filled
    · exact queued.shown
    · exact fun none => nomatch none

theorem Queued.scrolled (queued : Queued items limit screen) (listed : screen.listed = true) :
    Queued items limit { screen with
      page := screen.page + 1
      pending := screen.pending ++ [⟨screen.page + 1, false⟩] } := by
  obtain ⟨present, filled⟩ := queued.listed listed
  have asks : asked { screen with
      page := screen.page + 1
      pending := screen.pending ++ [⟨screen.page + 1, false⟩] } =
        screen.asked ++ [screen.page + 1] := by
    simp [asked]
  constructor
  · exact Nat.le_add_left 1 screen.page
  · rw [asks, List.pairwise_append]
    exact ⟨queued.sorted, List.pairwise_singleton _ _, fun page member other last => by
      rw [List.mem_singleton.mp last]
      exact Nat.le_succ_of_le (queued.bounded page member).2⟩
  · rw [asks]
    intro page member
    rcases List.mem_append.mp member with old | new
    · exact (queued.bounded page old).imp_right Nat.le_succ_of_le
    · rw [List.mem_singleton.mp new]
      exact ⟨Nat.le_add_left 1 screen.page, Nat.le_refl _⟩
  · rw [asks]
    intro page positive within
    rcases Nat.lt_or_ge screen.page page with new | old
    · have last : page = screen.page + 1 := Nat.le_antisymm within new
      simp [last]
    · exact List.mem_append_left _ (queued.complete page positive old)
  · exact fun absent => absurd absent present
  · exact Or.inr filled
  · exact queued.shown
  · exact queued.listed

theorem Queued.assigned (queued : Queued items limit screen) {request : CategoryRequest}
    {rest : List CategoryRequest} (first : screen.pending = request :: rest) :
    Queued items limit { screen with
      categories := some (pageOf items limit request.page)
      pending := rest
      arrived := screen.arrived ++ [request.page] } := by
  have asks : asked { screen with
      categories := some (pageOf items limit request.page)
      pending := rest
      arrived := screen.arrived ++ [request.page] } = screen.asked := by
    simp [asked, first]
  have some : ∀ categories ∈ Option.some (pageOf items limit request.page), categories ≠ [] →
      Filled items limit 1 := by
    intro categories assigned nonempty
    obtain rfl := Option.mem_some_iff.mp assigned
    by_contra empty
    have positive := (queued.bounded request.page (by simp [asked, first])).1
    exact nonempty (pageOf_of_not_filled fun filled => empty (filled.mono positive))
  constructor
  · exact queued.counted
  · exact asks ▸ queued.sorted
  · exact asks ▸ queued.bounded
  · exact asks ▸ queued.complete
  · exact fun none => nomatch none
  · exact queued.filled
  · exact some
  · exact fun listed => ⟨by simp, (queued.listed listed).2⟩

theorem Queued.step (queued : Queued items limit screen)
    (taken : screen.step items limit action = some next) : Queued items limit next := by
  cases action with
  | build =>
    cases taken
    exact queued.build
  | scrollEnd =>
    simp only [CategoryScreen.step] at taken
    split at taken
    · next listed =>
      cases taken
      exact (queued.scrolled listed).build
    · cases taken
  | respond =>
    simp only [CategoryScreen.step] at taken
    split at taken
    · cases taken
    · next request rest first =>
      cases taken
      split
      · exact (queued.assigned first).build
      · exact queued.assigned first

theorem build_frame (screen : CategoryScreen Category) :
    screen.build.categories = screen.categories ∧ screen.build.arrived = screen.arrived := by
  unfold build
  split <;> exact ⟨rfl, rfl⟩

theorem accumulated_congr (categories : next.categories = screen.categories)
    (arrived : next.arrived = screen.arrived) :
    next.Accumulated items limit ↔ screen.Accumulated items limit := by
  rw [Accumulated, Accumulated, categories, arrived]

theorem Queued.accumulated_iff (queued : Queued items limit screen)
    (accumulated : screen.Accumulated items limit)
    (taken : screen.step items limit action = some next) :
    next.Accumulated items limit ↔ screen.FirstOnly action := by
  cases action with
  | build =>
    cases taken
    obtain ⟨categories, arrived⟩ := build_frame screen
    rw [accumulated_congr categories arrived]
    exact iff_of_true accumulated (fun none => nomatch none)
  | scrollEnd =>
    simp only [CategoryScreen.step] at taken
    split at taken
    · cases taken
      obtain ⟨categories, arrived⟩ := build_frame { screen with
        page := screen.page + 1
        pending := screen.pending ++ [⟨screen.page + 1, false⟩] }
      rw [accumulated_congr categories arrived]
      exact iff_of_true accumulated (fun none => nomatch none)
    · cases taken
  | respond =>
    simp only [CategoryScreen.step] at taken
    split at taken
    · cases taken
    · next request rest first =>
      have facts : next.categories = some (pageOf items limit request.page) ∧
          next.arrived = screen.arrived ++ [request.page] := by
        cases taken
        split
        · exact build_frame _
        · exact ⟨rfl, rfl⟩
      have member : request.page ∈ screen.asked := by simp [asked, first]
      have last : ∀ page ∈ screen.arrived ++ [request.page], page ≤ request.page := by
        intro page here
        rcases List.mem_append.mp here with old | new
        · exact (List.pairwise_append.mp queued.sorted).2.2 page old request.page (by simp [first])
        · exact Nat.le_of_eq (List.mem_singleton.mp new)
      rw [Accumulated, facts.1, facts.2]
      simp only [FirstOnly, first, List.head?_cons, Option.mem_some_iff, forall_eq', forall_const]
      constructor
      · intro whole
        have same := Option.some.inj (whole request.page (by simp) last)
        by_contra later
        have bounds := queued.bounded request.page member
        rcases queued.filled with one | filled
        · omega
        · exact pageOf_ne_pagesUpTo filled (by omega) same
      · intro one page here greatest
        rw [one] at last here greatest ⊢
        have positive : 1 ≤ page := greatest 1 (by simp)
        rw [Nat.le_antisymm (last page here) positive]
        simp [pagesUpTo]

/-- The categories accumulate throughout a run exactly when no page but the first
arrives. -/
theorem accumulated_throughout_iff {actions : List CategoryAction}
    {final : CategoryScreen Category}
    (reached : run (step items limit) initState actions = some final) :
    Always (step items limit) (Accumulated items limit) initState actions ↔
      Meets (step items limit) FirstOnly initState actions :=
  always_iff_meets (Queued items limit) (fun _ _ _ queued taken => queued.step taken)
    (fun _ _ _ queued accumulated taken => queued.accumulated_iff accumulated taken)
    queued_initState (fun _ none => nomatch none) reached

end

def firstPageThrice : List CategoryAction :=
  [.build, .build, .respond, .build, .scrollEnd, .respond, .respond]

theorem firstPageThrice_accumulated :
    ∃ final, run (step ["a", "b", "c"] 2) initState firstPageThrice = some final ∧
      final.arrived = [1, 1, 1] ∧ final.pending = [⟨2, false⟩] ∧
      Always (step ["a", "b", "c"] 2) (Accumulated ["a", "b", "c"] 2) initState
        firstPageThrice := by
  have found : (run (step ["a", "b", "c"] 2) initState firstPageThrice).any (fun final =>
      decide (final.arrived = [1, 1, 1] ∧ final.pending = [⟨2, false⟩])) = true := by decide
  obtain ⟨final, reached, test⟩ := exists_of_run found
  obtain ⟨arrived, pending⟩ := of_decide_eq_true test
  exact ⟨final, reached, arrived, pending, (accumulated_throughout_iff reached).mpr (by decide)⟩

def pastTheEnd : List CategoryAction :=
  [.respond, .build, .scrollEnd, .respond, .scrollEnd, .respond]

theorem pastTheEnd_empty :
    (∃ middle, run (step ["a", "b", "c"] 2) initState (pastTheEnd.take 4) = some middle ∧
      middle.arrived = [1, 2] ∧ middle.categories = some ["c"] ∧
      ¬ middle.Accumulated ["a", "b", "c"] 2) ∧
    ∃ final, run (step ["a", "b", "c"] 2) initState pastTheEnd = some final ∧
      final.arrived = [1, 2, 3] ∧ final.categories = some [] ∧
      ¬ final.Accumulated ["a", "b", "c"] 2 := by
  have two : (run (step ["a", "b", "c"] 2) initState (pastTheEnd.take 4)).any (fun middle =>
      decide (middle.arrived = [1, 2] ∧ middle.categories = some ["c"] ∧
        ¬ middle.Accumulated ["a", "b", "c"] 2)) = true := by decide
  have three : (run (step ["a", "b", "c"] 2) initState pastTheEnd).any (fun final =>
      decide (final.arrived = [1, 2, 3] ∧ final.categories = some [] ∧
        ¬ final.Accumulated ["a", "b", "c"] 2)) = true := by decide
  obtain ⟨middle, reachedTwo, replaced⟩ := exists_of_run two
  obtain ⟨final, reachedThree, empty⟩ := exists_of_run three
  exact ⟨⟨middle, reachedTwo, of_decide_eq_true replaced⟩,
    ⟨final, reachedThree, of_decide_eq_true empty⟩⟩

end CategoryScreen

end SparSomnong.Catalogue
