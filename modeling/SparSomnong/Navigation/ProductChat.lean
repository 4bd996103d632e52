import SparSomnong.Chat.Keyed
import SparSomnong.Navigation.Screens

/-! Which conversation a product screen chats in.

Every mounted ChatWidget has the latest value of the shared stream as its key,
whichever screen added it. A visible product screen therefore chats about its
own product as long as the latest value is one returned for it.
-/

set_option autoImplicit false

namespace SparSomnong.Navigation

open Semantics Chat

namespace App

/-- The visible product screen chats in a conversation returned for its product. -/
def OwnChat (app : App) : Prop :=
  ∀ top ∈ app.screens.head?, ∀ product ∈ top.product, top.isChatted = true →
    ∀ widget ∈ top.chat, ∃ key, (product, key) ∈ app.returned ∧
      widget.chatKey = key ∧ widget.oldKey = key

def chatting : List Screen → Option Int
  | top :: _ => if top.chat.isSome then top.product else none
  | [] => none

/-- The product whose ChatWidget an action brings up. -/
def reveals (app : App) : AppAction → Option Int
  | .back => chatting app.screens.tail
  | .frame 0 => app.screens.head?.bind Screen.product
  | _ => none

/-- While a product screen with a ChatWidget is visible, only keys returned for
its product are added to the stream. When its ChatWidget comes up, the latest
value is such a key. -/
def Own (app : App) (action : AppAction) : Prop :=
  (∀ value ∈ app.pushes action, ∀ product ∈ chatting app.screens,
    (product, value) ∈ app.returned ++ app.returns action) ∧
  ∀ product ∈ app.reveals action, ∃ value ∈ app.chatKeyStream.value, (product, value) ∈ app.returned

instance (app : App) (action : AppAction) : Decidable (app.Own action) :=
  inferInstanceAs (Decidable (_ ∧ _))

def owner : List (Option Int × Option ChatWidgetState) → Option Int
  | (product, some _) :: _ => product
  | _ => none

theorem chatting_map (change : ChatWidgetState → ChatWidgetState) (screens : List Screen) :
    chatting (screens.map fun screen => { screen with chat := screen.chat.map change }) =
      chatting screens := by
  cases screens with
  | nil => rfl
  | cons top rest => simp [chatting]

theorem owner_view (app : App) : owner app.view = chatting app.screens := by
  unfold view chatting
  cases app.screens with
  | nil => rfl
  | cons top rest => cases shown : top.chat <;> simp [owner, shown]

end App

structure Owning (app : App) : Prop where
  opened : app.chatKeyStream.closed = false
  synced : ∀ entry ∈ app.view, ∀ widget ∈ entry.2, ∀ value ∈ app.chatKeyStream.value,
    widget.chatKey = value ∧ widget.oldKey = value
  own : ∀ product ∈ App.owner app.view, ∃ value ∈ app.chatKeyStream.value,
    (product, value) ∈ app.returned

namespace Owning

variable {app next : App} {action : AppAction}

theorem start (db : Database) (user : Option Int) : Owning (App.start db user) :=
  ⟨rfl, by simp [App.start, App.view], by simp [App.start, App.view, App.owner]⟩

theorem onChatKey_keys (user : Option Int) (value : Option String) (widget : ChatWidgetState) :
    (widget.onChatKey user value).chatKey = value ∧ (widget.onChatKey user value).oldKey = value := by
  by_cases same : value = widget.oldKey
  · rw [ChatWidgetState.onChatKey_same same]
    exact ⟨rfl, same.symm⟩
  · rw [ChatWidgetState.onChatKey_switch same]
    exact ⟨rfl, rfl⟩

theorem frame (owning : Owning app) (stream : next.chatKeyStream = app.chatKeyStream)
    (returned : ∀ pair ∈ app.returned, pair ∈ next.returned)
    (fewer : ∀ entry ∈ next.view, ∀ widget ∈ entry.2, ∃ before ∈ app.view, ∃ old ∈ before.2,
      widget.chatKey = old.chatKey ∧ widget.oldKey = old.oldKey)
    (own : ∀ product ∈ App.owner next.view, ∃ value ∈ app.chatKeyStream.value,
      (product, value) ∈ app.returned) : Owning next := by
  refine ⟨stream ▸ owning.opened, ?_, ?_⟩
  · intro entry member widget shown value latest
    obtain ⟨before, inside, old, had, keys⟩ := fewer entry member widget shown
    rw [keys.1, keys.2]
    exact owning.synced before inside old had value (stream ▸ latest)
  · rw [stream]
    intro product visible
    obtain ⟨value, latest, pair⟩ := own product visible
    exact ⟨value, latest, returned _ pair⟩

theorem sameView (owning : Owning app) (stream : next.chatKeyStream = app.chatKeyStream)
    (returned : ∀ pair ∈ app.returned, pair ∈ next.returned) (view : next.view = app.view) :
    Owning next := by
  refine owning.frame stream returned ?_ (view ▸ owning.own)
  rw [view]
  exact fun entry member widget shown => ⟨entry, member, widget, shown, rfl, rfl⟩

theorem push {value : Option String} (owning : Owning app)
    (own : ∀ product ∈ App.owner app.view, (product, value) ∈ app.returned) :
    Owning (app.push value) := by
  rw [App.push_open owning.opened]
  refine ⟨rfl, ?_, ?_⟩
  · intro entry member widget shown latest same
    obtain ⟨screen, inside, rfl⟩ := List.mem_map.mp member
    obtain ⟨old, -, rfl⟩ := List.mem_map.mp inside
    obtain ⟨before, had, rfl⟩ := Option.map_eq_some_iff.mp shown
    cases same
    exact onChatKey_keys app.user value before
  · intro product visible
    refine ⟨value, rfl, own product ?_⟩
    rw [App.owner_view] at visible ⊢
    rw [← App.chatting_map]
    exact visible

theorem hear (owning : Owning app) (request : Request) (answer : Option LastChatResponse) :
    Owning (app.hear request answer) := by
  unfold App.hear
  split
  · exact owning.sameView rfl (fun _ member => List.mem_append_left _ member) rfl
  · exact owning

theorem replied {request : Request} {answer : Option LastChatResponse}
    {index statusCode : Nat} {response : LastChatResponse} {requests : List Request}
    (owning : Owning app) (own : app.Own (.reply index statusCode response))
    (pushes : app.pushes (.reply index statusCode response) = request.pushes answer)
    (returns : app.returns (.reply index statusCode response) = request.returns answer) :
    Owning ((App.hear { app with requests } request answer).replied request answer) := by
  have rest : Owning { app with requests } :=
    owning.sameView rfl (fun _ member => member) rfl
  have heard := rest.hear request answer
  have view : (App.hear { app with requests } request answer).view = app.view := by
    unfold App.hear
    split <;> rfl
  obtain ⟨change, keeps, same⟩ :=
    (App.hear { app with requests } request answer).replied_cases request answer
  have flagged : Owning ((App.hear { app with requests } request answer).setState
      request.screen change) :=
    heard.sameView rfl (fun _ member => member) (App.view_setState keeps)
  rw [same]
  cases added : request.pushes answer with
  | none => exact flagged
  | some value =>
    apply flagged.push
    rw [App.view_setState keeps, view, App.owner_view]
    intro product visible
    have known := own.1 value (pushes.trans added) product visible
    rw [returns] at known
    exact (App.hear_returned _ request answer).symm ▸ known

theorem set {index : Nat} {screen : Screen} {widget : ChatWidgetState} {writes : List Write}
    (owning : Owning app) (found : app.screens[index]? = some screen)
    (keys : ∀ value ∈ app.chatKeyStream.value, widget.chatKey = value ∧ widget.oldKey = value)
    (own : index = 0 → ∀ product ∈ screen.product, ∃ value ∈ app.chatKeyStream.value,
      (product, value) ∈ app.returned) :
    Owning { app with
      screens := app.screens.set index { screen with chat := some widget }
      writes } := by
  refine ⟨owning.opened, ?_, ?_⟩
  · intro entry member other shown value latest
    obtain ⟨changed, inside, rfl⟩ := List.mem_map.mp member
    rcases List.mem_or_eq_of_mem_set inside with old | rfl
    · exact owning.synced _ (List.mem_map_of_mem old) other shown value latest
    · cases shown
      exact keys value latest
  · intro product visible
    cases stack : app.screens with
    | nil => simp [stack] at found
    | cons top rest =>
      cases index with
      | zero =>
        simp only [stack, List.getElem?_cons_zero, Option.some.injEq] at found
        subst found
        exact own rfl product (by simpa [App.view, App.owner, stack] using visible)
      | succ position =>
        apply owning.own product
        rw [App.owner_view] at visible ⊢
        simpa [stack, App.chatting] using visible

theorem subscribed_keys (app : App) : ∀ value ∈ app.chatKeyStream.value,
    app.subscribed.chatKey = value ∧ app.subscribed.oldKey = value := by
  intro value latest
  unfold App.subscribed
  rw [Option.mem_def.mp latest]
  exact onChatKey_keys app.user value {}

theorem went (owning : Owning app) (own : app.Own action) (taken : App.Went app action next) :
    Owning next := by
  cases taken with
  | @append chat message newest =>
    refine owning.frame rfl (fun _ member => member) ?_ ?_
    · intro entry member widget shown
      obtain ⟨screen, inside, rfl⟩ := List.mem_map.mp member
      obtain ⟨old, before, rfl⟩ := List.mem_map.mp inside
      obtain ⟨previous, had, rfl⟩ := Option.map_eq_some_iff.mp shown
      exact ⟨_, List.mem_map_of_mem before, previous, had, rfl, rfl⟩
    · intro product visible
      apply owning.own product
      rw [App.owner_view] at visible ⊢
      rw [← App.chatting_map]
      exact visible
  | quote quoted => exact owning.sameView rfl (fun _ member => member) rfl
  | setUser => exact owning.sameView rfl (fun _ member => member) rfl
  | opened _ hidden =>
    refine owning.frame rfl (fun _ member => member) ?_ ?_
    · intro entry member widget shown
      rcases List.mem_cons.mp member with rfl | old
      · simp [hidden] at shown
      · exact ⟨entry, old, widget, shown, rfl, rfl⟩
    · simp [App.view, App.owner, hidden]
  | @back top rest stack =>
    refine owning.frame rfl (fun _ member => member) ?_ ?_
    · intro entry member widget shown
      refine ⟨entry, ?_, widget, shown, rfl, rfl⟩
      rw [App.view, stack]
      exact List.mem_cons_of_mem _ member
    · intro product visible
      rw [App.owner_view] at visible
      exact own.2 product (by simpa [App.reveals, stack] using visible)
  | flagged _ keeps =>
    exact owning.sameView rfl (fun _ member => member) (App.view_setState keeps)
  | unanswered => exact owning.sameView rfl (fun _ member => member) rfl
  | @unheard _ _ _ requests request answer =>
    have rest : Owning { app with requests } :=
      owning.sameView rfl (fun _ member => member) rfl
    exact rest.hear request answer
  | replied pushes returns => exact owning.replied own pushes returns
  | @frame index screen found =>
    apply owning.set found (subscribed_keys app)
    rintro rfl product about
    apply own.2 product
    have first : app.screens.head? = some screen := by rw [List.head?_eq_getElem?, found]
    simpa [App.reveals, first] using about
  | counted => exact owning.sameView rfl (fun _ member => member) rfl
  | closed =>
    refine owning.frame rfl (fun _ member => member) ?_ ?_
    · intro entry member widget shown
      obtain ⟨screen, after, rfl⟩ := List.mem_map.mp member
      have inside := App.mem_of_closeMessages after shown
      exact ⟨_, List.mem_map_of_mem inside, widget, shown, rfl, rfl⟩
    · intro product visible
      apply owning.own product
      rw [App.owner_view] at visible ⊢
      cases stack : app.screens with
      | nil => simp [App.closeMessages, stack, App.chatting] at visible
      | cons top rest =>
        cases about : top.product with
        | none => simp [App.closeMessages, stack, about, App.chatting] at visible
        | some id => simpa [App.closeMessages, stack, about, App.chatting] using visible
  | chatSnapshot named => exact owning.sameView rfl (fun _ member => member) rfl
  | @tap index chat found =>
    have told : Owning (app.push chat.key) := by
      refine owning.push fun product visible => ?_
      rw [App.owner_view] at visible
      have known := own.1 chat.key (by simp [App.pushes, found]) product visible
      simpa [App.returns] using known
    exact told.sameView rfl (fun _ member => member) rfl
  | @widget index screen widget after act writes found shown stepped =>
    have before : (screen.product, screen.chat) ∈ app.view :=
      List.mem_map_of_mem (List.mem_of_getElem? found)
    obtain ⟨newKey, oldKey⟩ := Keyed.keys_of_stepped (ChatWidgetState.stepped_of_step stepped)
    refine owning.set found ?_ ?_
    · intro value latest
      rw [newKey, oldKey]
      exact owning.synced _ before widget shown value latest
    · rintro rfl product about
      apply owning.own product
      have first : app.screens.head? = some screen := by rw [List.head?_eq_getElem?, found]
      obtain ⟨rest, stack⟩ := List.head?_eq_some_iff.mp first
      simpa [App.view, stack, App.owner, shown] using about
  | gone found stepped => exact owning.sameView rfl (fun _ member => member) rfl

theorem ownChat (owning : Owning app) : app.OwnChat := by
  intro top first product about _ widget shown
  obtain ⟨rest, stack⟩ := List.head?_eq_some_iff.mp first
  have visible : App.owner app.view = some product := by
    simpa [App.view, stack, App.owner, Option.mem_def.mp shown] using about
  obtain ⟨key, latest, pair⟩ := owning.own product visible
  have entry : (top.product, top.chat) ∈ app.view := by simp [App.view, stack]
  exact ⟨key, pair, owning.synced _ entry widget shown key latest⟩

end Owning

/-- In every run in which only keys of the visible product are added while it is
visible, and are the latest when its ChatWidget comes up, a product screen chats
about its own product. -/
theorem own_chat {db : Database} {user : Option Int} {actions : List AppAction} {final : App}
    (meets : Meets App.step App.Own (App.start db user) actions)
    (reached : run App.step (App.start db user) actions = some final) : final.OwnChat :=
  (run_invariant Owning
    (fun _ _ _ owning own taken => owning.went own (App.went_of_step taken))
    (Owning.start db user) meets reached).ownChat

def chattedProduct : List AppAction :=
  [.openProduct 1, .detailLoaded 0, .reply 0 200 ⟨some ⟨some "a"⟩⟩, .frame 0]

def earlyBack : List AppAction :=
  chattedProduct ++ [.openProduct 2, .detailLoaded 0, .back, .reply 0 200 ⟨some ⟨some "b"⟩⟩]

def App.shows (app : App) : Option (Option Int × Bool × Option (Option String × Option String)) :=
  app.screens.head?.map fun top => (top.product, top.isChatted,
    top.chat.map fun widget => (widget.chatKey, widget.oldKey))

theorem earlyBack_own :
    ∃ final, run App.step (App.start twoChats (some 7)) earlyBack = some final ∧
      final.shows = some (some 1, true, some (some "a", some "a")) ∧ final.OwnChat := by
  have found : (run App.step (App.start twoChats (some 7)) earlyBack).any
      (fun final => decide (final.shows = some (some 1, true, some (some "a", some "a")))) =
        true := by decide
  obtain ⟨final, reached, test⟩ := exists_of_run found
  exact ⟨final, reached, of_decide_eq_true test, own_chat (by decide) reached⟩

def lateBack : List AppAction :=
  chattedProduct ++ [.openProduct 2, .detailLoaded 0, .reply 0 200 ⟨none⟩, .back]

/-- The server returned "a" for product 1, and its ChatWidget has the key null. -/
theorem lateBack_foreign :
    ∃ final, run App.step (App.start twoChats (some 7)) lateBack = some final ∧
      final.shows = some (some 1, true, some (none, none)) ∧
      final.returned = [(1, some "a")] ∧ ¬ final.OwnChat := by
  have found : (run App.step (App.start twoChats (some 7)) lateBack).any
      (fun final => decide (final.shows = some (some 1, true, some (none, none)) ∧
        final.returned = [(1, some "a")])) = true := by decide
  obtain ⟨final, reached, test⟩ := exists_of_run found
  obtain ⟨shows, returned⟩ := of_decide_eq_true test
  refine ⟨final, reached, shows, returned, fun own => ?_⟩
  obtain ⟨top, first, entry⟩ := Option.map_eq_some_iff.mp shows
  simp only [Prod.mk.injEq, Option.map_eq_some_iff] at entry
  obtain ⟨about, chatted, widget, shown, key, -⟩ := entry
  obtain ⟨other, pair, same, -⟩ := own top first 1 about chatted widget shown
  rw [returned, ← same, key] at pair
  exact absurd pair (by decide)

end SparSomnong.Navigation
