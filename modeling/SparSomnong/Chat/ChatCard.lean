import Mathlib.Data.List.Perm.Basic
import SparSomnong.Catalogue.Prices
import SparSomnong.Semantics.Endless
import SparSomnong.Semantics.Run

/-! One card of the list of recent chats.

The card stays at its place while the chats are sorted again, so that it is given one
chat after the other. Each build asks for the product of the chat it has then. What
comes is written into one object, whichever chat it was asked for, and the rebuild this
leads to asks again.
-/

set_option autoImplicit false

namespace SparSomnong.Chat

open Semantics Catalogue

def blank : ProductCategory := ⟨some [], some "", some "", some "", some []⟩

/-- What a request for a chat comes to: an exception, null on 401, a response without data,
or one with the product of the chat. -/
inductive CardReply where
  | failed
  | refused
  | noData
  | data
  deriving DecidableEq, Repr

/-- What the FutureBuilder has: nothing or an error, a blank product, or the object that
the card writes into. -/
inductive CardSnapshot where
  | spinner
  | blank
  | shared
  deriving DecidableEq, Repr

structure CardRequest where
  number : Nat
  fireBaseKey : String
  deriving DecidableEq, Repr

/-- The FutureBuilder listens to the request that was issued last. The fields from `owner`
on are history: the chat whose product was written last, the reply to the last request,
and what each tap put into the providers. -/
structure ChatCard where
  key : String
  productCategory : ProductCategory := blank
  snapshot : CardSnapshot := .spinner
  requests : List CardRequest := []
  issued : Nat := 0
  dirty : Bool := false
  owner : Option String := none
  latestReply : Option CardReply := none
  taps : List (String × ProductCategory) := []
  deriving DecidableEq, Repr

inductive CardAction where
  | chatSnapshot (key : String)
  | frame
  | reply (index : Nat) (reply : CardReply)
  | tap
  deriving DecidableEq, Repr

namespace ChatCard

def build (card : ChatCard) : ChatCard :=
  -- `_futureCategory` is called by every build
  { card with
    requests := card.requests ++ [⟨card.issued, card.key⟩]
    issued := card.issued + 1
    dirty := false
    latestReply := none }

def start (key : String) : ChatCard := build { key }

section
variable (productOf : String → Option ProductCategory)

def write (card : ChatCard) (key : String) (product : ProductCategory) : ChatCard :=
  -- null prices are replaced by a string, which is no list of prices, and the exception leaves
  -- out `setState`
  let named := { card.productCategory with
    item_img := some (product.item_img.getD [])
    name_en := some (product.name_en.getD "")
    name_ch := some (product.name_ch.getD "")
    name_kh := some (product.name_kh.getD "") }
  match product.prices with
  | some prices => { card with
      productCategory := { named with prices := some prices }
      dirty := true
      owner := some key }
  | none => { card with productCategory := named, owner := some key }

def futureCategory (card : ChatCard) (key : String) : CardReply → ChatCard × CardSnapshot
  | .failed => (card, .spinner)
  | .refused | .noData => (card, .shared)
  | .data =>
    match productOf key with
    | some product => (write card key product, .shared)
    | none => (card, .blank)

def onReply (card : ChatCard) (index : Nat) (request : CardRequest) (reply : CardReply) :
    ChatCard :=
  let (done, snapshot) := futureCategory productOf
    { card with requests := card.requests.eraseIdx index } request.fireBaseKey reply
  if request.number + 1 = card.issued then { done with snapshot, latestReply := some reply }
  else done

def step (card : ChatCard) : CardAction → Option ChatCard
  | .chatSnapshot key => some (build { card with key })
  | .frame => if card.dirty = true then some card.build else none
  | .reply index reply =>
    card.requests[index]?.map fun request => onReply productOf card index request reply
  | .tap => some { card with taps := card.taps ++ [(card.key, card.productCategory)] }

def display (card : ChatCard) : Option ProductCategory :=
  match card.snapshot with
  | .spinner => none
  | .blank => some Chat.blank
  | .shared => some card.productCategory

def productShown (key : String) : ProductCategory :=
  match productOf key with
  | some product => ⟨some (product.item_img.getD []), some (product.name_kh.getD ""),
      some (product.name_en.getD ""), some (product.name_ch.getD ""), product.prices⟩
  | none => blank

/-- The card shows its chat once nothing is awaited, and each tap opened one chat. -/
structure OneChat (card : ChatCard) : Prop where
  shown : card.requests = [] → card.display = some (productShown productOf card.key)
  opened : ∀ tap ∈ card.taps, tap.2 = productShown productOf tap.1

def Owned (key : String) (owner : Option String) : Prop :=
  owner = some key ∨ owner = none ∧ productOf key = none

def writer (card : ChatCard) (request : CardRequest) (reply : CardReply) : Option String :=
  if reply = .data ∧ (productOf request.fireBaseKey).isSome = true then some request.fireBaseKey
  else card.owner

def heard (card : ChatCard) (request : CardRequest) (reply : CardReply) : Option CardReply :=
  if request.number + 1 = card.issued then some reply else card.latestReply

def Settles (key : String) (heard : Option CardReply) (owner : Option String) : Prop :=
  heard = some .data ∧ productOf key = none ∨
    heard ≠ none ∧ heard ≠ some .failed ∧ Owned productOf key owner

/-- The reply to a request comes with prices. If it is the last that is awaited, the last
request has not failed and the product written last is that of the card's chat. So it is
at a tap. -/
def InTime (card : ChatCard) : CardAction → Prop
  | .reply index reply => ∀ request ∈ card.requests[index]?,
      (reply = .data → ∀ product ∈ productOf request.fireBaseKey, product.prices ≠ none) ∧
      (card.requests.length = 1 → Settles productOf card.key (heard card request reply)
        (writer productOf card request reply))
  | .tap => Owned productOf card.key card.owner
  | .chatSnapshot _ | .frame => True

variable {productOf}

theorem futureCategory_of_priced (card : ChatCard) {key : String} {product : ProductCategory}
    (found : productOf key = some product) (priced : product.prices ≠ none) :
    futureCategory productOf card key .data = ({ card with
      productCategory := productShown productOf key
      dirty := true
      owner := some key }, .shared) := by
  obtain ⟨prices, listed⟩ := Option.ne_none_iff_exists'.mp priced
  simp [futureCategory, write, productShown, found, listed]

def redraws (productOf : String → Option ProductCategory) (key : String) : Bool :=
  ((productOf key).bind ProductCategory.prices).isSome

def snapshotOf (productOf : String → Option ProductCategory) (key : String) :
    CardReply → CardSnapshot
  | .failed => .spinner
  | .refused | .noData => .shared
  | .data => if productOf key = none then .blank else .shared

structure Replied (productOf : String → Option ProductCategory) (card : ChatCard) (index : Nat)
    (request : CardRequest) (reply : CardReply) (next : ChatCard) : Prop where
  key : next.key = card.key
  requests : next.requests = card.requests.eraseIdx index
  issued : next.issued = card.issued
  taps : next.taps = card.taps
  owner : next.owner = writer productOf card request reply
  latestReply : next.latestReply = heard card request reply
  dirty : next.dirty = (card.dirty || reply = .data && redraws productOf request.fireBaseKey)
  snapshot : next.snapshot = if request.number + 1 = card.issued
    then snapshotOf productOf request.fireBaseKey reply else card.snapshot

theorem replied (productOf : String → Option ProductCategory) (card : ChatCard) (index : Nat)
    (request : CardRequest) (reply : CardReply) :
    Replied productOf card index request reply (onReply productOf card index request reply) := by
  cases reply with
  | failed | refused | noData =>
    by_cases last : request.number + 1 = card.issued <;>
      constructor <;> simp [onReply, futureCategory, writer, heard, snapshotOf, last]
  | data =>
    cases found : productOf request.fireBaseKey with
    | none =>
      by_cases last : request.number + 1 = card.issued <;>
        constructor <;>
        simp [onReply, futureCategory, writer, heard, redraws, snapshotOf, found, last]
    | some product =>
      cases listed : product.prices <;>
        by_cases last : request.number + 1 = card.issued <;>
        constructor <;>
        simp [onReply, futureCategory, write, writer, heard, redraws, snapshotOf, found, listed,
          last]

theorem onReply_productCategory {card : ChatCard} {request : CardRequest} {reply : CardReply}
    (priced : reply = .data → ∀ product ∈ productOf request.fireBaseKey, product.prices ≠ none)
    (index : Nat) :
    (onReply productOf card index request reply).productCategory =
      if reply = .data ∧ (productOf request.fireBaseKey).isSome = true
      then productShown productOf request.fireBaseKey else card.productCategory := by
  cases reply with
  | failed | refused | noData =>
    by_cases last : request.number + 1 = card.issued <;> simp [onReply, futureCategory, last]
  | data =>
    cases found : productOf request.fireBaseKey with
    | none =>
      by_cases last : request.number + 1 = card.issued <;>
        simp [onReply, futureCategory, found, last]
    | some product =>
      have written := futureCategory_of_priced
        { card with requests := card.requests.eraseIdx index } found (priced rfl product found)
      by_cases last : request.number + 1 = card.issued <;> simp [onReply, written, last]

theorem step_reply {card next : ChatCard} {index : Nat} {reply : CardReply}
    (taken : step productOf card (.reply index reply) = some next) :
    ∃ request, card.requests[index]? = some request ∧
      next = onReply productOf card index request reply := by
  obtain ⟨request, pending, same⟩ := Option.map_eq_some_iff.mp taken
  exact ⟨request, pending, same.symm⟩

theorem step_frame {card next : ChatCard} (taken : step productOf card .frame = some next) :
    card.dirty = true ∧ next = card.build := by
  obtain ⟨dirty, built⟩ := Option.ite_none_right_eq_some.mp taken
  exact ⟨dirty, (Option.some.inj built).symm⟩

structure Inv (productOf : String → Option ProductCategory) (card : ChatCard) : Prop where
  written : card.productCategory =
    match card.owner with
    | some key => productShown productOf key
    | none => blank
  numbered : ∀ request ∈ card.requests, request.number < card.issued
  latest : ∀ request ∈ card.requests, request.number + 1 = card.issued →
    request.fireBaseKey = card.key
  settled : ∀ reply ∈ card.latestReply, card.snapshot = snapshotOf productOf card.key reply
  awaited : card.requests = [] → Settles productOf card.key card.latestReply card.owner
  opened : ∀ tap ∈ card.taps, tap.2 = productShown productOf tap.1

theorem Inv.display_of_owned {card : ChatCard} (inv : Inv productOf card)
    (owned : Owned productOf card.key card.owner) :
    card.productCategory = productShown productOf card.key := by
  rw [inv.written]
  rcases owned with owner | ⟨owner, absent⟩
  · rw [owner]
  · rw [owner]
    simp [productShown, absent]

theorem Inv.oneChat {card : ChatCard} (inv : Inv productOf card) : OneChat productOf card := by
  refine ⟨fun idle => ?_, inv.opened⟩
  rcases inv.awaited idle with ⟨last, absent⟩ | ⟨some_reply, not_failed, owned⟩
  · have shown := inv.settled _ last
    simp [display, shown, snapshotOf, productShown, absent]
  · obtain ⟨reply, last⟩ := Option.ne_none_iff_exists'.mp some_reply
    have shown := inv.settled _ last
    have mine := inv.display_of_owned owned
    cases reply with
    | failed => exact absurd last not_failed
    | refused | noData => simp [display, shown, snapshotOf, mine]
    | data =>
      cases found : productOf card.key with
      | none => simp [display, shown, snapshotOf, productShown, found]
      | some product => simp [display, shown, snapshotOf, mine, found]

theorem Inv.build {card : ChatCard} (inv : Inv productOf card) (key : String) :
    Inv productOf (build { card with key }) where
  written := inv.written
  numbered := by
    intro request mem
    rcases List.mem_append.mp mem with old | new
    · exact Nat.lt_succ_of_lt (inv.numbered request old)
    · rw [List.mem_singleton.mp new]
      exact Nat.lt_succ_self _
  latest := by
    intro request mem last
    rcases List.mem_append.mp mem with old | new
    · have := inv.numbered request old
      have : request.number + 1 = card.issued + 1 := last
      omega
    · rw [List.mem_singleton.mp new]
      rfl
  settled := by
    intro reply none
    cases none
  awaited := by
    intro none
    exact absurd none (List.append_ne_nil_of_right_ne_nil _ (List.cons_ne_nil _ _))
  opened := inv.opened

theorem Inv.reply {card : ChatCard} (inv : Inv productOf card) {index : Nat}
    {request : CardRequest} {reply : CardReply} (pending : card.requests[index]? = some request)
    (inTime : InTime productOf card (.reply index reply)) :
    Inv productOf (onReply productOf card index request reply) := by
  obtain ⟨priced, settles⟩ := inTime request pending
  have next := replied productOf card index request reply
  have mem := List.mem_of_getElem? pending
  constructor
  · rw [onReply_productCategory priced, next.owner, inv.written]
    unfold writer
    split <;> rfl
  · rw [next.requests, next.issued]
    intro other among
    exact inv.numbered other (List.mem_of_mem_eraseIdx among)
  · rw [next.requests, next.issued, next.key]
    intro other among
    exact inv.latest other (List.mem_of_mem_eraseIdx among)
  · rw [next.latestReply, next.snapshot, next.key]
    unfold heard
    split
    next last =>
      intro heard same
      cases same
      rw [inv.latest request mem last]
    next => exact inv.settled
  · rw [next.requests, next.key, next.latestReply, next.owner]
    intro none
    apply settles
    have bound := (List.getElem?_eq_some_iff.mp pending).1
    have length := List.length_eraseIdx_of_lt bound
    rw [none, List.length_nil] at length
    omega
  · rw [next.taps]
    exact inv.opened

theorem Inv.tap {card : ChatCard} (inv : Inv productOf card)
    (owned : Owned productOf card.key card.owner) :
    Inv productOf { card with taps := card.taps ++ [(card.key, card.productCategory)] } where
  written := inv.written
  numbered := inv.numbered
  latest := inv.latest
  settled := inv.settled
  awaited := inv.awaited
  opened := by
    intro tap mem
    rcases List.mem_append.mp mem with old | new
    · exact inv.opened tap old
    · rw [List.mem_singleton.mp new]
      exact inv.display_of_owned owned

theorem inv_start (key : String) : Inv productOf (start key) where
  written := rfl
  numbered := by simp [start, build]
  latest := by simp [start, build]
  settled := by simp [start, build]
  awaited := by simp [start, build]
  opened := by simp [start, build]

theorem inv_of_step (card : ChatCard) (action : CardAction) (next : ChatCard)
    (inv : Inv productOf card) (inTime : InTime productOf card action)
    (taken : step productOf card action = some next) : Inv productOf next := by
  cases action with
  | chatSnapshot key =>
    cases taken
    exact inv.build key
  | frame =>
    obtain ⟨-, rfl⟩ := step_frame taken
    exact inv.build card.key
  | reply index reply =>
    obtain ⟨request, pending, rfl⟩ := step_reply taken
    exact inv.reply pending inTime
  | tap =>
    cases taken
    exact inv.tap inTime

/-- Where the chat's own product is written last, the card shows and opens one chat. -/
theorem oneChat_of_inTime (key : String) (actions : List CardAction) (final : ChatCard)
    (inTime : Meets (step productOf) (InTime productOf) (start key) actions)
    (reached : run (step productOf) (start key) actions = some final) :
    OneChat productOf final :=
  (run_invariant (Inv productOf) inv_of_step (inv_start key) inTime reached).oneChat

def twoProducts : String → Option ProductCategory
  | "k1" => some ⟨some [], some "phka", some "flower", some "hua", some []⟩
  | "k2" => some ⟨some [], some "srov", some "rice", some "mi", some []⟩
  | _ => none

instance (key : String) (owner : Option String) : Decidable (Owned productOf key owner) :=
  inferInstanceAs (Decidable (_ ∨ _ ∧ _))

instance (key : String) (heard : Option CardReply) (owner : Option String) :
    Decidable (Settles productOf key heard owner) :=
  inferInstanceAs (Decidable (_ ∨ _ ∧ _ ∧ _))

instance (card : ChatCard) : (action : CardAction) → Decidable (InTime productOf card action)
  | .reply index _ => inferInstanceAs (Decidable (∀ request ∈ card.requests[index]?, _ ∧ _))
  | .tap => inferInstanceAs (Decidable (Owned productOf card.key card.owner))
  | .chatSnapshot _ | .frame => isTrue trivial

def inOrder : List CardAction :=
  [.reply 0 .data, .tap, .frame, .chatSnapshot "k2", .reply 0 .data, .reply 0 .data, .tap]

theorem inOrder_oneChat : ∃ final,
    run (step twoProducts) (start "k1") inOrder = some final ∧
    (final.requests = [] ∧ final.key = "k2") ∧ OneChat twoProducts final := by
  have found : (run (step twoProducts) (start "k1") inOrder).any (fun final =>
      decide (final.requests = [] ∧ final.key = "k2")) = true := by decide
  obtain ⟨final, reached, idle⟩ := exists_of_run found
  exact ⟨final, reached, of_decide_eq_true idle,
    oneChat_of_inTime "k1" inOrder final (by decide) reached⟩

def overtaken : List CardAction := [.chatSnapshot "k2", .reply 1 .data, .reply 0 .data, .tap]

theorem overtaken_shows_other : ∃ final,
    run (step twoProducts) (start "k1") overtaken = some final ∧
    final.key = "k2" ∧ final.requests = [] ∧
    final.display = some (productShown twoProducts "k1") ∧
    final.taps = [("k2", productShown twoProducts "k1")] ∧
    ¬ OneChat twoProducts final := by
  have found : (run (step twoProducts) (start "k1") overtaken).any (fun final =>
      decide (final.key = "k2" ∧ final.requests = [] ∧
        final.display = some (productShown twoProducts "k1") ∧
        final.taps = [("k2", productShown twoProducts "k1")])) = true := by decide
  obtain ⟨final, reached, seen⟩ := exists_of_run found
  obtain ⟨key, idle, display, taps⟩ := of_decide_eq_true seen
  refine ⟨final, reached, key, idle, display, taps, ?_⟩
  intro one
  have opened := one.opened ("k2", productShown twoProducts "k1") (by simp [taps])
  have other : productShown twoProducts "k1" ≠ productShown twoProducts "k2" := by decide
  exact other opened

/-! By itself, a card with requests and frames to come. -/

section
variable (productOf)

/-- What happens without a new snapshot and without the user. -/
def Internal (card next : ChatCard) : Prop :=
  (∃ index reply, step productOf card (.reply index reply) = some next) ∨
    step productOf card .frame = some next

def Bounded (card : ChatCard) : Prop :=
  ∃ most, ∀ final, Relation.ReflTransGen (Internal productOf) card final → final.issued ≤ most

/-- By itself the card comes to an end, and asks only finitely often. -/
structure Rests (card : ChatCard) : Prop where
  ends : ¬ Endless (Internal productOf) card
  finite : Bounded productOf card

/-- The card's own product draws the card again, and a frame is due or will be. -/
def Live (card : ChatCard) : Prop :=
  redraws productOf card.key = true ∧
    (card.dirty = true ∨ ∃ request ∈ card.requests, redraws productOf request.fireBaseKey = true)

/-- A reply may lead to a frame, and a frame to one more request. -/
def weight (request : CardRequest) : Nat :=
  if redraws productOf request.fireBaseKey = true then 3 else 1

def measure (card : ChatCard) : Nat :=
  (card.requests.map (weight productOf)).sum + if card.dirty = true then 2 else 0

end

theorem internal_cases {card next : ChatCard} (taken : Internal productOf card next) :
    (∃ index request reply, card.requests[index]? = some request ∧
      next = onReply productOf card index request reply) ∨
    (card.dirty = true ∧ next = card.build) := by
  rcases taken with ⟨index, reply, taken⟩ | taken
  · obtain ⟨request, pending, same⟩ := step_reply taken
    exact Or.inl ⟨index, request, reply, pending, same⟩
  · exact Or.inr (step_frame taken)

theorem internal_reply {card : ChatCard} {index : Nat} {request : CardRequest}
    (pending : card.requests[index]? = some request) (reply : CardReply) :
    Internal productOf card (onReply productOf card index request reply) :=
  Or.inl ⟨index, reply, by rw [step, pending, Option.map_some]⟩

theorem onward (card : ChatCard) (live : Live productOf card) :
    ∃ next, Internal productOf card next ∧ Live productOf next := by
  obtain ⟨own, due⟩ := live
  by_cases dirty : card.dirty = true
  · have asked : (⟨card.issued, card.key⟩ : CardRequest) ∈ card.build.requests :=
      List.mem_append_right _ (List.mem_singleton_self _)
    exact ⟨card.build, Or.inr (if_pos dirty), own, Or.inr ⟨_, asked, own⟩⟩
  · obtain ⟨request, mem, redrawn⟩ := due.resolve_left dirty
    obtain ⟨index, pending⟩ := List.mem_iff_getElem?.mp mem
    have next := replied productOf card index request .data
    refine ⟨_, internal_reply pending .data, ?_, Or.inl ?_⟩
    · rw [next.key]
      exact own
    · rw [next.dirty, redrawn]
      simp

theorem sum_weight (productOf : String → Option ProductCategory) {card : ChatCard} {index : Nat}
    {request : CardRequest}
    (pending : card.requests[index]? = some request) :
    (card.requests.map (weight productOf)).sum =
      weight productOf request + ((card.requests.eraseIdx index).map (weight productOf)).sum := by
  obtain ⟨bound, rfl⟩ := List.getElem?_eq_some_iff.mp pending
  have apart := (List.getElem_cons_eraseIdx_perm bound).map (weight productOf)
  rw [← apart.sum_nat, List.map_cons, List.sum_cons]

theorem measure_onReply (productOf : String → Option ProductCategory) {card : ChatCard}
    {index : Nat} {request : CardRequest}
    (pending : card.requests[index]? = some request) (reply : CardReply) :
    measure productOf (onReply productOf card index request reply) < measure productOf card := by
  have next := replied productOf card index request reply
  have split_off := sum_weight productOf pending
  unfold measure
  rw [next.requests, next.dirty, split_off, weight]
  cases redraws productOf request.fireBaseKey <;> cases card.dirty <;>
    by_cases data : reply = .data <;> simp [data]
  all_goals omega

theorem measure_build {card : ChatCard} (dirty : card.dirty = true)
    (own : ¬ redraws productOf card.key = true) :
    measure productOf card.build + 1 = measure productOf card := by
  unfold measure
  simp [build, weight, dirty, own]

/-- Without such a product each step lowers the measure, by more than the request it makes. -/
theorem lower (card next : ChatCard) (calm : ¬ Live productOf card)
    (taken : Internal productOf card next) :
    ¬ Live productOf next ∧ measure productOf next < measure productOf card ∧
      next.issued + measure productOf next ≤ card.issued + measure productOf card := by
  rcases internal_cases taken with ⟨index, request, reply, pending, rfl⟩ | ⟨dirty, rfl⟩
  · have next := replied productOf card index request reply
    have less := measure_onReply productOf pending reply
    refine ⟨?_, less, ?_⟩
    · rintro ⟨own, due⟩
      rw [next.key] at own
      rw [next.dirty, next.requests] at due
      apply calm
      refine ⟨own, ?_⟩
      rcases due with dirty | ⟨other, among, redrawn⟩
      · rcases (Bool.or_eq_true _ _).mp dirty with before | written
        · exact Or.inl before
        · have redrawn := ((Bool.and_eq_true _ _).mp written).2
          exact Or.inr ⟨request, List.mem_of_getElem? pending, redrawn⟩
      · exact Or.inr ⟨other, List.mem_of_mem_eraseIdx among, redrawn⟩
    · rw [next.issued]
      omega
  · have own : ¬ redraws productOf card.key = true := fun own => calm ⟨own, Or.inl dirty⟩
    have less := measure_build dirty own
    refine ⟨fun live => own live.1, by omega, ?_⟩
    show card.issued + 1 + _ ≤ _
    omega

theorem endless_iff_live (card : ChatCard) :
    Endless (Internal productOf) card ↔ Live productOf card :=
  endless_iff (Live productOf) (measure productOf) onward
    (fun card next calm taken =>
      ⟨(lower card next calm taken).1, (lower card next calm taken).2.1⟩) card

theorem bounded_of_calm {card : ChatCard} (calm : ¬ Live productOf card) :
    Bounded productOf card := by
  refine ⟨card.issued + measure productOf card, ?_⟩
  intro final reached
  apply count_le_of_measure (fun card => ¬ Live productOf card) (measure productOf) issued _
    calm reached
  intro card next calm taken
  exact ⟨(lower card next calm taken).1, (lower card next calm taken).2.2⟩

/-- The card comes to rest exactly where its own product has no prices, or no request or
frame is left that would draw it again. -/
theorem rests_iff (card : ChatCard) :
    Rests productOf card ↔ (redraws productOf card.key = true → card.dirty = false ∧
      ∀ request ∈ card.requests, redraws productOf request.fireBaseKey = false) := by
  have calm : ¬ Live productOf card ↔ (redraws productOf card.key = true → card.dirty = false ∧
      ∀ request ∈ card.requests, redraws productOf request.fireBaseKey = false) := by
    simp [Live]
  rw [← calm]
  constructor
  · intro rests live
    exact rests.ends ((endless_iff_live card).mpr live)
  · intro calm
    exact ⟨fun endless => calm ((endless_iff_live card).mp endless), bounded_of_calm calm⟩

theorem issued_of_steps {states : Nat → ChatCard}
    (taken : ∀ n, Internal productOf (states n) (states (n + 1))) (n : Nat) :
    2 * (states n).issued + (states 0).requests.length =
      2 * (states 0).issued + (states n).requests.length + n := by
  induction n with
  | zero => rfl
  | succ n ih =>
    rcases internal_cases (taken n) with ⟨index, request, reply, pending, same⟩ | ⟨-, same⟩
    · have next := replied productOf (states n) index request reply
      have bound := (List.getElem?_eq_some_iff.mp pending).1
      have one := List.length_eraseIdx_of_lt bound
      rw [same, next.issued, next.requests, one]
      omega
    · have one : (states n).build.requests.length = (states n).requests.length + 1 := by
        simp [build]
      rw [same, one]
      show 2 * ((states n).issued + 1) + _ = _
      omega

theorem not_bounded_of_endless {card : ChatCard} (endless : Endless (Internal productOf) card) :
    ¬ Bounded productOf card := by
  obtain ⟨states, rfl, taken⟩ := endless
  rintro ⟨most, bounded⟩
  have few := bounded _ (reached_of_steps taken (2 * most + (states 0).requests.length + 1))
  have count := issued_of_steps taken (2 * most + (states 0).requests.length + 1)
  omega

theorem idle_card_endless :
    Endless (Internal twoProducts) (start "k1") ∧ ¬ Bounded twoProducts (start "k1") := by
  have live : Live twoProducts (start "k1") :=
    ⟨by decide, Or.inr ⟨⟨0, "k1"⟩, List.mem_singleton_self _, by decide⟩⟩
  have endless := (endless_iff_live (start "k1")).mpr live
  exact ⟨endless, not_bounded_of_endless endless⟩

end

end ChatCard

end SparSomnong.Chat
