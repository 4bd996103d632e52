import SparSomnong.Semantics.Run

/-! The navigator of the app and the one of the Home tab.

A screen navigates on the innermost navigator above it: the one of the Home tab
for all that was opened from there, the one of the app for everything else. Each
has a table of its own for the names.
-/

set_option autoImplicit false

namespace SparSomnong.Routing

open Semantics

inductive Screen where
  | splash
  | mainPage
  | home
  | account
  | login
  | signUp
  | category
  | moreCategory
  | productDetail
  | favorite
  | message
  | search
  | editProfile
  | photoViewer
  deriving DecidableEq, Repr

inductive NavigatorKind where
  | root
  | nested
  deriving DecidableEq, Repr

def rootRoutes (name : String) : Option Screen :=
  [("/", Screen.splash), ("/main", .mainPage), ("/home", .home), ("/login", .login),
    ("/account", .account), ("/signup", .signUp)].lookup name

def nestedRoutes (name : String) : Option Screen :=
  [("/", Screen.home), ("/login", .login)].lookup name

def routes : NavigatorKind → String → Option Screen
  | .root => rootRoutes
  | .nested => nestedRoutes

inductive NavigatorCall where
  | pushNamed (name : String)
  | pushReplacementNamed (name : String)
  | push (screen : Screen)
  | pushReplacement (screen : Screen)
  | pop
  deriving DecidableEq, Repr

def NavigatorCall.name? : NavigatorCall → Option String
  | pushNamed name | pushReplacementNamed name => some name
  | _ => none

def appBar : List NavigatorCall := [.push .search, .pop]

/-- The calls in the code of a screen and of its widgets, and the back button of its bar. -/
def Screen.calls : Screen → List NavigatorCall
  | splash => [.pushReplacementNamed "/main"]
  -- a tap on the account tab without a user
  | mainPage => [.pushNamed "/login"]
  | home => [.push .category, .pushNamed "/login", .push .favorite, .push .message,
      .push .moreCategory, .push .productDetail] ++ appBar
  -- the last one is `logout`
  | account => [.push .editProfile, .push .favorite, .pushReplacement .mainPage] ++ appBar
  -- the second one is for an account that the server does not know
  | login => [.pop, .pushReplacementNamed "/signup"]
  | signUp => [.pop]
  | category => .push .moreCategory :: appBar
  | moreCategory => .push .productDetail :: appBar
  | productDetail => [.pushNamed "/login", .push .productDetail, .push .photoViewer] ++ appBar
  | favorite => .push .productDetail :: appBar
  | message => .push .photoViewer :: appBar
  | search => [.push .productDetail, .pop]
  | editProfile => appBar
  | photoViewer => [.pop]

/-- A route of the root navigator; under MainPage, with the routes of its Home tab from
the top down. A route from a null builder has no screen. -/
structure Page where
  screen : Screen
  nested : List (Option Screen) := []
  deriving DecidableEq, Repr

def Page.ofScreen (screen : Screen) : Page :=
  match screen with
  | .mainPage => ⟨.mainPage, [nestedRoutes "/"]⟩
  | _ => ⟨screen, []⟩

/-- The pages from the top down. `unresolved` is history: the names that were not found. -/
structure Navigators where
  root : List Page
  unresolved : List (NavigatorKind × String) := []
  deriving DecidableEq, Repr

inductive Place where
  | page (index : Nat)
  | accountTab (index : Nat)
  | homeTab (index position : Nat)
  deriving DecidableEq, Repr

def Place.innermost : Place → NavigatorKind
  | page _ | accountTab _ => .root
  | homeTab _ _ => .nested

inductive NavigationStep where
  | call (place : Place) (call : NavigatorCall)
  | back
  | selectHomeTab (index : Nat)
  deriving DecidableEq, Repr

/-- What a call does to a stack of routes. A name without a route throws, and the last
route is not popped. -/
def NavigatorCall.onStack {Route : Type} (find : String → Option Route) (wrap : Screen → Route)
    (stack : List Route) : NavigatorCall → List Route
  | pushNamed name =>
    match find name with
    | some route => route :: stack
    | none => stack
  | pushReplacementNamed name =>
    match find name with
    | some route => route :: stack.tail
    | none => stack
  | push screen => wrap screen :: stack
  | pushReplacement screen => wrap screen :: stack.tail
  | pop => if stack.tail.isEmpty then stack else stack.tail

def NavigatorCall.opened {Route : Type} (find : String → Option Route) (wrap : Screen → Route) :
    NavigatorCall → Option Route
  | pushNamed name | pushReplacementNamed name => find name
  | push screen | pushReplacement screen => some (wrap screen)
  | pop => none

theorem mem_onStack {Route : Type} {find : String → Option Route} {wrap : Screen → Route}
    {stack : List Route} {call : NavigatorCall} {route : Route}
    (member : route ∈ call.onStack find wrap stack) :
    route ∈ stack ∨ call.opened find wrap = some route := by
  cases call with
  | pushNamed name =>
    simp only [NavigatorCall.onStack] at member
    split at member
    · next found =>
      rcases List.mem_cons.mp member with new | old
      · exact Or.inr (new ▸ found)
      · exact Or.inl old
    · exact Or.inl member
  | pushReplacementNamed name =>
    simp only [NavigatorCall.onStack] at member
    split at member
    · next found =>
      rcases List.mem_cons.mp member with new | old
      · exact Or.inr (new ▸ found)
      · exact Or.inl (List.mem_of_mem_tail old)
    · exact Or.inl member
  | push screen =>
    rcases List.mem_cons.mp member with new | old
    · exact Or.inr (congrArg some new.symm)
    · exact Or.inl old
  | pushReplacement screen =>
    rcases List.mem_cons.mp member with new | old
    · exact Or.inr (congrArg some new.symm)
    · exact Or.inl (List.mem_of_mem_tail old)
  | pop =>
    simp only [NavigatorCall.onStack] at member
    split at member
    · exact Or.inl member
    · exact Or.inl (List.mem_of_mem_tail member)

/-- `onGenerateRoute` of the NestedNavigator makes a route of every name. -/
def nestedRoute (name : String) : Option (Option Screen) := some (nestedRoutes name)

/-- A name that the MaterialApp does not know has no route. -/
def rootRoute (name : String) : Option Page := (rootRoutes name).map Page.ofScreen

namespace Navigators

def start : Navigators := { root := (rootRoute "/").toList }

def screenAt (navigators : Navigators) : Place → Option Screen
  | .page index => navigators.root[index]?.map Page.screen
  | .accountTab index =>
    match navigators.root[index]? with
    | some page => if page.screen = .mainPage then some .account else none
    | none => none
  | .homeTab index position =>
    match navigators.root[index]? with
    | some page => page.nested[position]?.join
    | none => none

def modifyHome (navigators : Navigators) (index : Nat)
    (change : List (Option Screen) → List (Option Screen)) : Navigators :=
  { navigators with root := navigators.root.modify index fun page =>
      { page with nested := change page.nested } }

def navigate (navigators : Navigators) (call : NavigatorCall) : Place → Navigators
  | .homeTab index _ => navigators.modifyHome index (call.onStack nestedRoute some)
  | .page _ | .accountTab _ => { navigators with
      root := call.onStack rootRoute Page.ofScreen navigators.root }

def missing (kind : NavigatorKind) (call : NavigatorCall) : List (NavigatorKind × String) :=
  match call.name? with
  | some name => if (routes kind name).isNone then [(kind, name)] else []
  | none => []

def step (navigators : Navigators) : NavigationStep → Option Navigators
  | .call place call =>
    match navigators.screenAt place with
    | some screen =>
      if call ∈ screen.calls then
        some { navigators.navigate call place with
          unresolved := navigators.unresolved ++ missing place.innermost call }
      else none
    | none => none
  | .back =>
    -- `onWillPop` of the Home tab comes first
    match navigators.root with
    | page :: rest =>
      if 1 < page.nested.length then
        some { navigators with root := { page with nested := page.nested.tail } :: rest }
      else if rest.isEmpty then none
      else some { navigators with root := rest }
    | [] => none
  | .selectHomeTab index =>
    -- `popUntil` the initial route
    some (navigators.modifyHome index fun stack => stack.getLast?.toList)

/-- Every name was found in the table of the navigator it was looked up in. -/
def Resolves (navigators : Navigators) : Prop := navigators.unresolved = []

instance (navigators : Navigators) : Decidable navigators.Resolves :=
  inferInstanceAs (Decidable (_ = _))

/-- No screen of the Home tab asks for "/signup": no LoginScreen there is told that the
server does not know the account. -/
def KnownAccount (_ : Navigators) : NavigationStep → Prop
  | .call place call => place.innermost = .nested → call ≠ .pushReplacementNamed "/signup"
  | _ => True

instance (navigators : Navigators) : (action : NavigationStep) → Decidable (navigators.KnownAccount action)
  | .call _ _ => inferInstanceAs (Decidable (_ → _))
  | .back | .selectHomeTab _ => isTrue trivial

/-! ## What is opened where -/

def underHome : Screen → Bool
  | .home | .login | .category | .moreCategory | .productDetail | .favorite | .message | .search
  | .photoViewer => true
  | _ => false

def Placed (navigators : Navigators) : Prop :=
  ∀ page ∈ navigators.root, ∀ screen, some screen ∈ page.nested → underHome screen = true

theorem underHome_opened {screen opened : Screen} {call : NavigatorCall}
    (here : underHome screen = true) (made : call ∈ screen.calls)
    (opens : call.opened nestedRoute some = some (some opened)) : underHome opened = true := by
  have all : ∀ call ∈ screen.calls, ∀ route ∈ call.opened nestedRoute some,
      ∀ opened ∈ route, underHome opened = true := by
    cases screen <;> first | decide | simp [underHome] at here
  exact all call made _ opens opened rfl

theorem routes_root {screen : Screen} {call : NavigatorCall} {name : String}
    (made : call ∈ screen.calls) (named : call.name? = some name) :
    routes .root name ≠ none := by
  have all : ∀ call ∈ screen.calls, ∀ name ∈ call.name?, routes .root name ≠ none := by
    cases screen <;> decide
  exact all call made name named

/-- The one of the Home tab knows all names that are used there, but for "/signup". -/
theorem routes_nested {screen : Screen} {call : NavigatorCall} {name : String}
    (here : underHome screen = true) (made : call ∈ screen.calls)
    (named : call.name? = some name) :
    routes .nested name ≠ none ↔ call ≠ .pushReplacementNamed "/signup" := by
  have all : ∀ call ∈ screen.calls, ∀ name ∈ call.name?,
      (routes .nested name ≠ none ↔ call ≠ .pushReplacementNamed "/signup") := by
    cases screen <;> first | decide | simp [underHome] at here
  exact all call made name named

variable {navigators next : Navigators} {action : NavigationStep}

theorem placed_ofScreen (screen : Screen) :
    ∀ shown, some shown ∈ (Page.ofScreen screen).nested → underHome shown = true := by
  cases screen <;> simp [Page.ofScreen, nestedRoutes, underHome]

theorem Placed.start : Placed start := by
  intro page member
  rw [List.mem_singleton.mp member]
  exact placed_ofScreen .splash

theorem Placed.modifyHome (placed : navigators.Placed) {index : Nat}
    {change : List (Option Screen) → List (Option Screen)}
    (keeps : ∀ page, navigators.root[index]? = some page →
      ∀ screen, some screen ∈ change page.nested → underHome screen = true) :
    (navigators.modifyHome index change).Placed := by
  intro page member screen shown
  obtain ⟨place, here⟩ := List.mem_iff_getElem?.mp member
  simp only [Navigators.modifyHome, List.getElem?_modify] at here
  obtain ⟨former, found, same⟩ := Option.map_eq_some_iff.mp here
  split at same
  · next changed =>
    subst same changed
    exact keeps former found screen shown
  · subst same
    exact placed _ (List.mem_of_getElem? found) screen shown

theorem Placed.rootCall (placed : navigators.Placed) (call : NavigatorCall) :
    Placed { navigators with root := call.onStack rootRoute Page.ofScreen navigators.root } := by
  intro page member
  rcases mem_onStack member with old | opened
  · exact placed page old
  · obtain ⟨screen, rfl⟩ : ∃ screen, page = Page.ofScreen screen := by
      cases call with
      | pushNamed name =>
        obtain ⟨screen, -, same⟩ := Option.map_eq_some_iff.mp opened
        exact ⟨screen, same.symm⟩
      | pushReplacementNamed name =>
        obtain ⟨screen, -, same⟩ := Option.map_eq_some_iff.mp opened
        exact ⟨screen, same.symm⟩
      | push screen => exact ⟨screen, (Option.some.inj opened).symm⟩
      | pushReplacement screen => exact ⟨screen, (Option.some.inj opened).symm⟩
      | pop => cases opened
    exact placed_ofScreen screen

theorem Placed.screenAt {index position : Nat} {screen : Screen} (placed : navigators.Placed)
    (here : navigators.screenAt (.homeTab index position) = some screen) :
    underHome screen = true := by
  simp only [Navigators.screenAt] at here
  split at here
  · next page found =>
    have member := List.mem_of_getElem? (Option.join_eq_some_iff.mp here)
    exact placed page (List.mem_of_getElem? found) screen member
  · cases here

theorem Placed.call {place : Place} {call : NavigatorCall} {screen : Screen}
    (placed : navigators.Placed) (here : navigators.screenAt place = some screen)
    (made : call ∈ screen.calls) : (navigators.navigate call place).Placed := by
  cases place with
  | page index => exact placed.rootCall call
  | accountTab index => exact placed.rootCall call
  | homeTab index position =>
    apply placed.modifyHome
    intro page found opened shown
    rcases mem_onStack shown with old | opens
    · exact placed page (List.mem_of_getElem? found) opened old
    · exact underHome_opened (placed.screenAt here) made opens

theorem Placed.step (placed : navigators.Placed)
    (taken : navigators.step action = some next) : next.Placed := by
  cases action with
  | call place call =>
    simp only [Navigators.step] at taken
    split at taken
    · next screen here =>
      split at taken
      · next made =>
        cases taken
        exact placed.call here made
      · cases taken
    · cases taken
  | back =>
    simp only [Navigators.step] at taken
    split at taken
    · next top rest stacked =>
      have below : ∀ page ∈ rest, page ∈ navigators.root := by
        intro page member
        rw [stacked]
        exact List.mem_cons_of_mem _ member
      split at taken
      · cases taken
        intro page member screen shown
        rcases List.mem_cons.mp member with new | old
        · subst new
          exact placed top (by rw [stacked]; exact List.mem_cons_self) screen
            (List.mem_of_mem_tail shown)
        · exact placed page (below page old) screen shown
      · split at taken
        · cases taken
        · cases taken
          intro page member
          exact placed page (below page member)
    · cases taken
  | selectHomeTab index =>
    cases taken
    apply placed.modifyHome
    intro page found screen shown
    apply placed page (List.mem_of_getElem? found) screen
    exact List.mem_of_getLast? (Option.mem_toList.mp shown)

theorem missing_iff {screen : Screen} {kind : NavigatorKind} {call : NavigatorCall}
    (made : call ∈ screen.calls) (under : kind = .nested → underHome screen = true) :
    missing kind call = [] ↔ (kind = .nested → call ≠ .pushReplacementNamed "/signup") := by
  unfold missing
  cases named : call.name? with
  | none =>
    apply iff_of_true rfl
    rintro - rfl
    cases named
  | some name =>
    cases kind with
    | root =>
      have known := routes_root made named
      simp [Option.isNone_iff_eq_none, known]
    | nested =>
      have known := routes_nested (under rfl) made named
      simp [Option.isNone_iff_eq_none, ← known]

theorem resolves_step (placed : navigators.Placed) (resolves : navigators.Resolves)
    (taken : navigators.step action = some next) :
    next.Resolves ↔ navigators.KnownAccount action := by
  unfold Resolves at resolves ⊢
  cases action with
  | call place call =>
    simp only [step] at taken
    split at taken
    · next screen here =>
      split at taken
      · next made =>
        cases taken
        simp only [resolves, List.nil_append]
        apply missing_iff made
        intro nested
        cases place with
        | page index => cases nested
        | accountTab index => cases nested
        | homeTab index position => exact placed.screenAt here
      · cases taken
    · cases taken
  | back =>
    apply iff_of_true _ trivial
    simp only [step] at taken
    split at taken
    · split at taken
      · cases taken
        exact resolves
      · split at taken
        · cases taken
        · cases taken
          exact resolves
    · cases taken
  | selectHomeTab index =>
    cases taken
    exact iff_of_true resolves trivial

end Navigators

/-- In every sequence of navigation steps, all names are found if and only if no screen
of the Home tab asks for "/signup". -/
theorem resolves_iff_knownAccount {actions : List NavigationStep} {final : Navigators}
    (reached : run Navigators.step .start actions = some final) :
    Always Navigators.step Navigators.Resolves .start actions ↔
      Meets Navigators.step Navigators.KnownAccount .start actions :=
  always_iff_meets Navigators.Placed (fun _ _ _ placed taken => placed.step taken)
    (fun _ _ _ placed resolves taken => Navigators.resolves_step placed resolves taken)
    Navigators.Placed.start rfl reached

def knownVisitor : List NavigationStep :=
  [.call (.page 0) (.pushReplacementNamed "/main"), .call (.homeTab 0 0) (.push .productDetail),
    .call (.homeTab 0 0) (.pushNamed "/login"), .call (.homeTab 0 0) .pop,
    .call (.page 0) (.pushNamed "/login"), .call (.page 0) (.pushReplacementNamed "/signup")]

theorem knownVisitor_resolves :
    ∃ final, run Navigators.step .start knownVisitor = some final ∧
      Always Navigators.step Navigators.Resolves .start knownVisitor :=
  ⟨_, rfl, (resolves_iff_knownAccount rfl).mpr (by decide)⟩

def newVisitor : List NavigationStep :=
  [.call (.page 0) (.pushReplacementNamed "/main"), .call (.homeTab 0 0) (.pushNamed "/login"),
    .call (.homeTab 0 0) (.pushReplacementNamed "/signup")]

theorem newVisitor_unresolved :
    (∃ final, run Navigators.step .start newVisitor = some final ∧
      final.root = [⟨.mainPage, [none, some .home]⟩] ∧
      final.unresolved = [(.nested, "/signup")]) ∧
    ¬ Always Navigators.step Navigators.Resolves .start newVisitor := by
  constructor
  · exact ⟨_, rfl, rfl, rfl⟩
  · intro always
    have last : Navigators.Resolves _ := always.2.2.2
    exact absurd last (by decide)

end SparSomnong.Routing
