import SparSomnong.Favourites.Paging
import SparSomnong.Semantics.Async
import SparSomnong.Semantics.Value

/-! Pulling the home screen and the favourites down to load them again.

The home screen drops its categories before it asks for new ones. The favourites
ask for the page they have scrolled to, and the answer goes to a stream that no
widget listens to.
-/

set_option autoImplicit false

namespace SparSomnong.Catalogue

open Semantics Async Favourites

variable {Item : Type}

/-- What a request for a page comes to: the page, a response without a list, or an
exception. -/
inductive PageReply where
  | page
  | noData
  | failed (thrown : Thrown)
  deriving DecidableEq, Repr

def PageReply.received (reply : PageReply) (items : List Item) (page limit : Nat) :
    Except Thrown (Option (List Item)) :=
  match reply with
  | .page => .ok (some (pageOf items limit page))
  | .noData => .ok none
  | .failed thrown => .error thrown

structure Home (Category : Type) where
  categories : Option (List Category) := none
  deriving DecidableEq, Repr

def Home.refresh {Category : Type} (items : List Category) (reply : PageReply) :
    Async Thrown (Home Category) Unit := do
  modify fun home => { home with categories := none }
  let categoriesList ← await (reply.received items 1 9)
  modify fun home => { home with categories := categoriesList }

/-- The screen with the last event of its stream. -/
structure FavouriteStream extends FavoriteScreen where
  favouriteStreamBuilder : Option (List Favourite) := none
  deriving DecidableEq, Repr

def FavouriteStream.refresh (items : List Favourite) (reply : PageReply) :
    Async Thrown FavouriteStream Unit := do
  let screen ← get
  let categoriesList ← await (reply.received items screen.page limit)
  modify fun screen => { screen with favouriteStreamBuilder := categoriesList }

/-- A refresh that succeeds shows the first page the server has now, and one that
fails shows what was there. -/
def AllOrNothing (items : List Item) (limit : Nat) (reply : PageReply)
    (before after : Option (List Item)) : Prop :=
  match reply with
  | .page => ∃ shown, after = some shown ∧ pageOf items limit 1 <+: shown
  | .noData | .failed _ => after = before

def Home.Refreshes {Category : Type} (home : Home Category) (items : List Category)
    (reply : PageReply) : Prop :=
  (Home.refresh items reply).Ends
    (fun after => AllOrNothing items 9 reply home.categories after.categories) home

def FavouriteStream.Refreshes (screen : FavouriteStream) (items : List Favourite)
    (reply : PageReply) : Prop :=
  (FavouriteStream.refresh items reply).Ends
    (fun after => AllOrNothing items limit reply screen.favourites after.favourites) screen

theorem Home.refresh_ends {Category : Type} (home : Home Category) (items : List Category)
    (reply : PageReply) (post : Home Category → Prop) :
    (Home.refresh items reply).Ends post home ↔
      post { home with categories := match reply with
        | .page => some (pageOf items 9 1)
        | .noData | .failed _ => none } := by
  cases reply <;> rfl

theorem FavouriteStream.refresh_ends (screen : FavouriteStream) (items : List Favourite)
    (reply : PageReply) (post : FavouriteStream → Prop) :
    (FavouriteStream.refresh items reply).Ends post screen ↔
      post { screen with favouriteStreamBuilder := match reply with
        | .page => some (pageOf items limit screen.page)
        | .noData => none
        | .failed _ => screen.favouriteStreamBuilder } := by
  cases reply <;> rfl

theorem Home.refreshes_iff {Category : Type} (home : Home Category) (items : List Category)
    (reply : PageReply) :
    home.Refreshes items reply ↔ reply = .page ∨ home.categories = none := by
  unfold Home.Refreshes
  rw [Home.refresh_ends]
  cases reply with
  | page => simp [AllOrNothing]
  | noData => simp [AllOrNothing, eq_comm]
  | failed thrown => simp [AllOrNothing, eq_comm]

theorem FavouriteStream.refreshes_iff (screen : FavouriteStream) (items : List Favourite)
    (reply : PageReply) :
    screen.Refreshes items reply ↔
      reply ≠ .page ∨ ∃ shown, screen.favourites = some shown ∧ pageOf items limit 1 <+: shown := by
  unfold FavouriteStream.Refreshes
  rw [FavouriteStream.refresh_ends]
  cases reply with
  | page => simp [AllOrNothing]
  | noData => simp [AllOrNothing]
  | failed thrown => simp [AllOrNothing]

/-- The home screen keeps nothing through a failure, and the favourites show nothing
of a success. -/
theorem allOrNothing_iff {Category : Type} (home : Home Category) (categories : List Category)
    (screen : FavouriteStream) (items : List Favourite) (reply : PageReply) :
    (home.Refreshes categories reply ↔ reply = .page ∨ home.categories = none) ∧
      (screen.Refreshes items reply ↔
        reply ≠ .page ∨
          ∃ shown, screen.favourites = some shown ∧ pageOf items limit 1 <+: shown) :=
  ⟨home.refreshes_iff categories reply, screen.refreshes_iff items reply⟩

/-- Rows that are what the server has now begin with its first page. -/
theorem refreshes_of_full {browsing : Browsing} (full : Browsing.Full browsing) (reply : PageReply) :
    FavouriteStream.Refreshes ⟨browsing.screen, none⟩ browsing.account.favourites reply := by
  rw [FavouriteStream.refreshes_iff]
  obtain ⟨rows, present⟩ := Option.ne_none_iff_exists'.mp full.rest.present
  have whole := full.whole
  simp only [FavoriteScreen.rows, present, Option.getD_some] at whole
  refine Or.inr ⟨rows, present, ?_⟩
  have counted : 1 * limit ≤ browsing.screen.page * limit :=
    Nat.mul_le_mul_right limit full.rest.counted
  rw [whole, pageOf, Nat.sub_self, Nat.zero_mul, List.drop_zero]
  rw [Nat.one_mul] at counted
  exact List.take_prefix_take_left counted

/-- A request that fails leaves the home screen without its categories. The row that
a removal has kept from the favourites does not come with a refresh either. -/
theorem pulled_in_vain :
    ¬ Home.Refreshes ⟨some ["Bolts"]⟩ ["Bolts", "Nuts"] (.failed (.exception 0)) ∧
      ∃ browsing, run Browsing.step (Browsing.start Browsing.sixteen) [.remove 0] = some browsing ∧
        ¬ FavouriteStream.Refreshes ⟨browsing.screen, none⟩ browsing.account.favourites .page := by
  constructor
  · intro kept
    have gone : (none : Option (List String)) = some ["Bolts"] := kept
    cases gone
  have found : (run Browsing.step (Browsing.start Browsing.sixteen) [.remove 0]).any (fun browsing =>
      decide (browsing.screen.rows.length < (pageOf browsing.account.favourites limit 1).length)) =
        true := by decide
  obtain ⟨browsing, reached, test⟩ := exists_of_run found
  refine ⟨browsing, reached, fun refreshed => ?_⟩
  obtain ⟨shown, present, begins⟩ := refreshed
  have fewer := of_decide_eq_true test
  have rows : browsing.screen.rows = shown := congrArg (Option.getD · []) present
  rw [rows] at fewer
  exact absurd begins.length_le (Nat.not_le.mpr fewer)

end SparSomnong.Catalogue
