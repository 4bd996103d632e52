import SparSomnong.Semantics.Run
import SparSomnong.Session.Snapshot

/-! The badge of the home screen, the badges of the chats, and the list of chats.

On a snapshot of the stored form both readers compute the same thing. They do
not keep up with every sequence of snapshots: null aborts both of them, and a
chat without a time stamp aborts the sort.
-/

set_option autoImplicit false

namespace SparSomnong.Session

open Semantics

def membership (userId : Int) (chat : Entries) : Option Entries :=
  (child chat "users").map?.bind fun users => (child users (idKey userId)).map?

/-- A chat of the declared types with `users/<id>/userId = id`, as the query asks. -/
def storedChat (userId : Int) : Value → Bool
  | .map chat => ChatResponse.typed chat &&
      (membership userId chat).any fun user => (child user "userId").int? == some userId
  | _ => false

/-- What the query for a user delivers: null, or a map of stored chats. -/
structure Snapshot (userId : Int) where
  value : Value
  stored : value.isMapOf (fun chats => chats.all fun entry => storedChat userId entry.2) = true

def Snapshot.chats {userId : Int} (snapshot : Snapshot userId) : Entries :=
  snapshot.value.map?.getD []

def fields (chat : Value) : Entries := chat.map?.getD []

@[simp] theorem fields_map (chat : Entries) : fields (.map chat) = chat := rfl

/-- The chat has no `lastMessage`, or its key is the `lastSeen` of the user. -/
def seen (userId : Int) (chat : Value) : Bool :=
  match (child (fields chat) "lastMessage").map?, membership userId (fields chat) with
  | some lastMessage, some user =>
    (child lastMessage "key").string? == (child user "lastSeen").string?
  | _, _ => true

def readEntry (entry : String × Value) : ChatResponse :=
  { ChatResponse.read (fields entry.2) with key := some entry.1 }

/-! ## Both readers on a stored chat -/

theorem lookup_of_child {entries json : Entries} {key : String}
    (found : child entries key = .map json) : entries.lookup key = some (.map json) := by
  cases located : entries.lookup key with
  | none => simp [child, located] at found
  | some value =>
    simp only [child, located, Option.getD_some] at found
    rw [found]

theorem index_of_membership {userId : Int} {chat user : Entries}
    (found : membership userId chat = some user) :
    ∃ users, child chat "users" = .map users ∧ child users (idKey userId) = .map user := by
  obtain ⟨users, list, entry⟩ := Option.bind_eq_some_iff.mp found
  exact ⟨users, Value.map?_eq_some.mp list, Value.map?_eq_some.mp entry⟩

theorem storedChat_cases {userId : Int} {value : Value} (stored : storedChat userId value = true) :
    ∃ chat user, value = .map chat ∧ ChatResponse.typed chat = true ∧
      membership userId chat = some user ∧ User.typed user = true := by
  cases value with
  | map chat =>
    simp only [storedChat, Bool.and_eq_true, Option.any_eq_true] at stored
    obtain ⟨typed, user, found, -⟩ := stored
    refine ⟨chat, user, rfl, typed, found, ?_⟩
    obtain ⟨users, list, entry⟩ := index_of_membership found
    simp only [ChatResponse.typed, Bool.and_eq_true, list, Value.isMapOf] at typed
    have each := List.all_eq_true.mp typed.2
    obtain ⟨before, after, split, -⟩ := List.lookup_eq_some_iff.mp (lookup_of_child entry)
    exact each (idKey userId, .map user) (by simp [split])
  | _ => simp [storedChat] at stored

theorem unseen_of_stored {userId : Int} {value : Value} (stored : storedChat userId value = true) :
    unseen userId value = .ok (!seen userId value) := by
  obtain ⟨chat, user, rfl, typed, found, typedUser⟩ := storedChat_cases stored
  obtain ⟨users, list, entry⟩ := index_of_membership found
  simp only [ChatResponse.typed, Bool.and_eq_true] at typed
  rcases Value.isMapOf_iff.mp typed.1.1.1.2 with absent | ⟨last, present, typedLast⟩
  · simp [unseen, seen, Value.index, Value.map?, absent, Value.isNull, bind, Except.bind,
      pure, Except.pure]
  · simp only [LastMessage.typed, User.typed, Bool.and_eq_true] at typedLast typedUser
    have compared := Value.same_of_isString typedLast.1.2 typedUser.1
    simp [unseen, seen, Value.index, present, Value.isNull, list, entry, found,
      compared, bind, Except.bind, pure, Except.pure, beq_eq_decide]

theorem lookup_readMap {T : Type} (read : Entries → T) (entries : Entries) (key : String) :
    (readMap read entries).lookup key = (entries.lookup key).map fun value => value.map?.map read := by
  induction entries with
  | nil => rfl
  | cons first rest ih =>
    obtain ⟨name, value⟩ := first
    simp only [readMap, List.map_cons, List.lookup_cons] at ih ⊢
    split
    · rfl
    · exact ih

theorem showBadge_of_stored {userId : Int} (key : String) {value : Value}
    (stored : storedChat userId value = true) :
    (readEntry (key, value)).showBadge userId = !seen userId value := by
  obtain ⟨chat, user, rfl, typed, found, -⟩ := storedChat_cases stored
  obtain ⟨users, list, entry⟩ := index_of_membership found
  have lastSeen : lastSeenOf (readMap User.read users) userId = (child user "lastSeen").string? := by
    rw [lastSeenOf, lookup_readMap, lookup_of_child entry]
    rfl
  have users : (readEntry (key, .map chat)).users = some (readMap User.read users) := by
    simp [readEntry, ChatResponse.read, list]
  have last : (readEntry (key, .map chat)).lastMessage =
      (child chat "lastMessage").map?.map LastMessage.read := rfl
  rw [ChatResponse.showBadge, users, last, seen, fields_map, found]
  cases (child chat "lastMessage").map? with
  | none => rfl
  | some json =>
    simp only [Option.map_some, LastMessage.read, lastSeen]
    split
    · next same => simp [same]
    · next differ => simp [differ]

/-! ## Both readers on a snapshot -/

theorem seenAll_of_stored {userId : Int} {chats : Entries} (flag : Bool)
    (stored : ∀ entry ∈ chats, storedChat userId entry.2 = true) :
    seenAll userId chats flag = .ok (flag && chats.all fun entry => seen userId entry.2) := by
  -- on the chats, for every value of the flag
  induction chats generalizing flag with
  | nil => simp [seenAll]
  | cons first rest ih =>
    obtain ⟨key, chat⟩ := first
    have tail := fun flag => ih flag fun entry member => stored entry (by simp [member])
    have head := unseen_of_stored (stored (key, chat) (by simp))
    simp only at head
    cases known : seen userId chat with
    | true => simp [seenAll, head, known, tail, bind, Except.bind]
    | false => simp [seenAll, head, known, tail, bind, Except.bind]

theorem decodeEntry_of_stored {userId : Int} {entry : String × Value}
    (stored : storedChat userId entry.2 = true) : decodeEntry entry = .ok (readEntry entry) := by
  obtain ⟨key, value⟩ := entry
  obtain ⟨chat, user, same, typed, -, -⟩ := storedChat_cases stored
  simp only at same
  subst same
  have decoded := ChatResponse.fromJson_of_typed chat typed
  simp [decodeEntry, readEntry, Value.toMap, Value.asMap, decoded, bind, Except.bind, pure,
    Except.pure]

/-- One chat at most, or time stamps in all of them. -/
def Sortable (chatList : List ChatResponse) : Prop :=
  chatList.length ≤ 1 ∨ ∀ chat ∈ chatList, chat.lastTimeStamp ≠ none

instance (chatList : List ChatResponse) : Decidable (Sortable chatList) :=
  inferInstanceAs (Decidable (_ ∨ _))

theorem Sortable.perm {first second : List ChatResponse} (sortable : Sortable first)
    (same : first.Perm second) : Sortable second := by
  rcases sortable with short | stamped
  · exact Or.inl (same.length_eq ▸ short)
  · exact Or.inr fun chat member => stamped chat (same.mem_iff.mpr member)

/-- The sort arranges the list, or throws. -/
theorem sortByTime_cases (chatList : List ChatResponse) :
    (Sortable chatList ∧ ∃ sorted, sortByTime chatList = .ok sorted ∧ sorted.Perm chatList) ∨
    (¬ Sortable chatList ∧ sortByTime chatList = .error .noSuchMethod) := by
  unfold sortByTime
  by_cases short : chatList.length ≤ 1
  · rw [if_pos short]
    exact Or.inl ⟨Or.inl short, chatList, rfl, List.Perm.refl _⟩
  · rw [if_neg short]
    by_cases stamped : (chatList.all fun chat => chat.lastTimeStamp.isSome) = true
    · rw [if_pos stamped]
      refine Or.inl ⟨Or.inr ?_, _, rfl, List.perm_insertionSort _ _⟩
      intro chat member absent
      simpa [absent] using List.all_eq_true.mp stamped chat member
    · rw [if_neg stamped]
      refine Or.inr ⟨?_, rfl⟩
      rintro (few | all)
      · exact short few
      · apply stamped
        apply List.all_eq_true.mpr
        exact fun chat member => Option.isSome_iff_ne_none.mpr (all chat member)

namespace Snapshot

variable {userId : Int} (snapshot : Snapshot userId)

theorem value_cases : snapshot.value = .null ∨ snapshot.value = .map snapshot.chats := by
  rcases Value.isMapOf_iff.mp snapshot.stored with absent | ⟨chats, present, -⟩
  · exact Or.inl absent
  · right
    simp [Snapshot.chats, present]

theorem chats_of_null (absent : snapshot.value = .null) : snapshot.chats = [] := by
  simp [Snapshot.chats, absent, Value.map?]

theorem isNull_of_map (present : snapshot.value = .map snapshot.chats) :
    snapshot.value.isNull = false := by
  rw [present]
  rfl

theorem stored_of_mem {entry : String × Value} (member : entry ∈ snapshot.chats) :
    storedChat userId entry.2 = true := by
  rcases Value.isMapOf_iff.mp snapshot.stored with absent | ⟨chats, present, good⟩
  · simp [snapshot.chats_of_null absent] at member
  · simp only [Snapshot.chats, present, Value.map?_map, Option.getD_some] at member
    exact List.all_eq_true.mp good entry member

def entries : List ChatResponse := snapshot.chats.map readEntry

def AllSeen : Prop := ∀ entry ∈ snapshot.chats, seen userId entry.2 = true

instance : Decidable snapshot.AllSeen := inferInstanceAs (Decidable (∀ _ ∈ _, _))

theorem onChatChange_of_map {summary : ChatSummary} (present : snapshot.value = .map snapshot.chats) :
    onChatChange userId snapshot.value summary =
      ⟨snapshot.chats.length, decide snapshot.AllSeen⟩ := by
  have stored : ∀ entry ∈ snapshot.chats, storedChat userId entry.2 = true :=
    fun _ member => snapshot.stored_of_mem member
  have loop := seenAll_of_stored true stored
  have flag : (snapshot.chats.all fun entry => seen userId entry.2) = decide snapshot.AllSeen := by
    rw [Bool.eq_iff_iff, List.all_eq_true, decide_eq_true_iff]
    rfl
  rw [onChatChange, present]
  simp only [Value.asMap, loop, Bool.true_and, flag]

theorem onChatChange_of_null {summary : ChatSummary} (absent : snapshot.value = .null) :
    onChatChange userId snapshot.value summary = { summary with numberOfChat := 0 } := by
  rw [onChatChange, absent]
  rfl

theorem listen_of_map (present : snapshot.value = .map snapshot.chats) :
    listenToProductChatFirstTime snapshot.value = sortByTime snapshot.entries := by
  have decoded : snapshot.chats.mapM decodeEntry = .ok snapshot.entries :=
    mapM_of_ok fun entry member => decodeEntry_of_stored (snapshot.stored_of_mem member)
  rw [listenToProductChatFirstTime, present]
  simp only [Value.toMap, Value.asMap, decoded, bind, Except.bind]

theorem listen_of_null (absent : snapshot.value = .null) :
    listenToProductChatFirstTime snapshot.value = .error .noSuchMethod := by
  rw [listenToProductChatFirstTime, absent]
  rfl

end Snapshot

/-! ## The badges agree -/

/-- The home badge and the badges of the chats agree on every snapshot with chats
that have time stamps. -/
theorem badges_agree {userId : Int} (snapshot : Snapshot userId) (summary : ChatSummary)
    (nonEmpty : snapshot.chats ≠ [])
    (stamped : ∀ entry ∈ snapshot.chats, (child (fields entry.2) "lastTimeStamp").int? ≠ none) :
    ∃ chatList, listenToProductChatFirstTime snapshot.value = .ok chatList ∧
      ((onChatChange userId snapshot.value summary).hasSeenAll = true ↔
        ∀ chat ∈ chatList, chat.showBadge userId ≠ true) ∧
      (onChatChange userId snapshot.value summary).numberOfChat = chatList.length := by
  have present : snapshot.value = .map snapshot.chats := by
    rcases snapshot.value_cases with absent | present
    · exact absurd (snapshot.chats_of_null absent) nonEmpty
    · exact present
  have times : ∀ chat ∈ snapshot.entries, chat.lastTimeStamp ≠ none := by
    intro chat member
    obtain ⟨entry, inside, rfl⟩ := List.mem_map.mp member
    exact stamped entry inside
  rcases sortByTime_cases snapshot.entries with ⟨-, sorted, arranged, same⟩ | ⟨unsortable, -⟩
  · refine ⟨sorted, (snapshot.listen_of_map present).trans arranged, ?_, ?_⟩
    · rw [snapshot.onChatChange_of_map present, decide_eq_true_iff]
      constructor
      · intro all chat member
        obtain ⟨entry, inside, rfl⟩ := List.mem_map.mp (same.mem_iff.mp member)
        have badge := showBadge_of_stored entry.1 (snapshot.stored_of_mem inside)
        simp [badge, all entry inside]
      · intro none entry inside
        have badge := showBadge_of_stored entry.1 (snapshot.stored_of_mem inside)
        have hidden := none (readEntry entry) (same.mem_iff.mpr (List.mem_map_of_mem inside))
        simpa [badge] using hidden
    · rw [snapshot.onChatChange_of_map present, same.length_eq, Snapshot.entries, List.length_map]
  · exact absurd (Or.inr times) unsortable

def sampleChat (time : Option Int) (key lastSeen : String) : Value :=
  .map [("lastTimeStamp", (time.map Value.int).getD .null),
    ("lastMessage", .map [("data", .string "hello"), ("key", .string key), ("type", .int 1)]),
    ("users", .map [("7", .map [("userId", .int 7), ("lastSeen", .string lastSeen)])])]

def halfSeen : Snapshot 7 :=
  ⟨.map [("a", sampleChat (some 1) "k1" "k1"), ("b", sampleChat (some 2) "k3" "k2")], by decide⟩

theorem halfSeen_agree :
    ∃ chatList, listenToProductChatFirstTime halfSeen.value = .ok chatList ∧
      ((onChatChange 7 halfSeen.value {}).hasSeenAll = true ↔
        ∀ chat ∈ chatList, chat.showBadge 7 ≠ true) ∧
      (onChatChange 7 halfSeen.value {}).numberOfChat = chatList.length :=
  badges_agree halfSeen {} (by decide) (by decide)

/-! ## The latest snapshot -/

/-- Both listeners. The last two fields are history: the snapshot each has handled
last. -/
structure Lists (userId : Int) where
  summary : ChatSummary
  published : Option (List ChatResponse) := none
  heard : Option (Snapshot userId) := none
  listed : Option (Snapshot userId) := none

/-- A snapshot is delivered to MainPage or to LastChatProduct. -/
inductive Delivered (userId : Int) where
  | chatChange (snapshot : Snapshot userId)
  | productChats (snapshot : Snapshot userId)

namespace Lists

variable {userId : Int}

def step (lists : Lists userId) : Delivered userId → Option (Lists userId)
  | .chatChange snapshot => some { lists with
      summary := onChatChange userId snapshot.value lists.summary
      heard := some snapshot }
  | .productChats snapshot => some { lists with
      published := match listenToProductChatFirstTime snapshot.value with
        | .ok chatList => some chatList
        | .error _ => lists.published
      listed := some snapshot }

/-- The state is that of the latest snapshots. -/
structure Reflects (lists : Lists userId) : Prop where
  number : ∀ snapshot ∈ lists.heard, lists.summary.numberOfChat = snapshot.chats.length
  seen : ∀ snapshot ∈ lists.heard, (lists.summary.hasSeenAll = true ↔ snapshot.AllSeen)
  list : ∀ snapshot ∈ lists.listed, ∃ chatList, lists.published = some chatList ∧
    chatList.Perm snapshot.entries

/-- Null comes only where it changes nothing, and two chats or more all have time
stamps. -/
def Complete (lists : Lists userId) : Delivered userId → Prop
  | .chatChange snapshot => snapshot.value.isNull = false ∨ lists.summary.hasSeenAll = true
  | .productChats snapshot => Sortable snapshot.entries ∧
      (snapshot.value.isNull = false ∨ lists.published = some [])

def PublishedSortable (lists : Lists userId) : Prop :=
  ∀ chatList ∈ lists.published, Sortable chatList

theorem step_total (lists : Lists userId) (delivered : Delivered userId) :
    ∃ next, lists.step delivered = some next := by
  cases delivered <;> exact ⟨_, rfl⟩

theorem published_of_listen (snapshot : Snapshot userId) :
    (snapshot.value.isNull = true ∧ listenToProductChatFirstTime snapshot.value =
        .error .noSuchMethod) ∨
    (snapshot.value.isNull = false ∧ ¬ Sortable snapshot.entries ∧
      listenToProductChatFirstTime snapshot.value = .error .noSuchMethod) ∨
    (snapshot.value.isNull = false ∧ Sortable snapshot.entries ∧
      ∃ chatList, listenToProductChatFirstTime snapshot.value = .ok chatList ∧
        chatList.Perm snapshot.entries) := by
  rcases snapshot.value_cases with absent | present
  · exact Or.inl ⟨by simp [absent, Value.isNull], snapshot.listen_of_null absent⟩
  · have real := snapshot.isNull_of_map present
    rw [snapshot.listen_of_map present]
    rcases sortByTime_cases snapshot.entries with ⟨sortable, sorted⟩ | ⟨unsortable, thrown⟩
    · exact Or.inr (Or.inr ⟨real, sortable, sorted⟩)
    · exact Or.inr (Or.inl ⟨real, unsortable, thrown⟩)

theorem publishedSortable_step {lists next : Lists userId} {delivered : Delivered userId}
    (before : lists.PublishedSortable) (taken : lists.step delivered = some next) :
    next.PublishedSortable := by
  cases delivered with
  | chatChange snapshot =>
    cases taken
    exact before
  | productChats snapshot =>
    cases taken
    intro chatList added
    rcases published_of_listen snapshot with ⟨-, thrown⟩ | ⟨-, -, thrown⟩ | ⟨-, sortable, sorted⟩
    · simp only [thrown] at added
      exact before chatList added
    · simp only [thrown] at added
      exact before chatList added
    · obtain ⟨result, listened, same⟩ := sorted
      simp only [listened] at added
      cases added
      exact sortable.perm same.symm

/-- What MainPage keeps is right again exactly when the snapshot is not null, or
everything had been seen before. -/
theorem summary_reflects (snapshot : Snapshot userId) (summary : ChatSummary) :
    ((onChatChange userId snapshot.value summary).numberOfChat = snapshot.chats.length ∧
      ((onChatChange userId snapshot.value summary).hasSeenAll = true ↔ snapshot.AllSeen)) ↔
    (snapshot.value.isNull = false ∨ summary.hasSeenAll = true) := by
  rcases snapshot.value_cases with absent | present
  · have all : snapshot.AllSeen := by
      intro entry member
      simp [snapshot.chats_of_null absent] at member
    rw [snapshot.onChatChange_of_null absent, snapshot.chats_of_null absent]
    simp [absent, Value.isNull, all]
  · rw [snapshot.onChatChange_of_map present]
    simp [snapshot.isNull_of_map present]

/-- The list is right again exactly when the sort goes through, and null comes only
where the list is empty already. -/
theorem published_reflects (snapshot : Snapshot userId) {published : Option (List ChatResponse)}
    (sortable : ∀ chatList ∈ published, Sortable chatList) :
    (∃ chatList, (match listenToProductChatFirstTime snapshot.value with
        | .ok chatList => some chatList
        | .error _ => published) = some chatList ∧ chatList.Perm snapshot.entries) ↔
    (Sortable snapshot.entries ∧ (snapshot.value.isNull = false ∨ published = some [])) := by
  rcases published_of_listen snapshot with ⟨null, thrown⟩ | ⟨real, unsortable, thrown⟩ |
    ⟨real, sorts, chatList, listened, same⟩
  · have absent : snapshot.entries = [] := by
      rcases snapshot.value_cases with absent | present
      · simp [Snapshot.entries, snapshot.chats_of_null absent]
      · simp [present, Value.isNull] at null
    simp [thrown, null, absent, Sortable]
  · simp only [thrown]
    constructor
    · rintro ⟨chatList, kept, same⟩
      exact absurd ((sortable chatList kept).perm same) unsortable
    · exact fun complete => absurd complete.1 unsortable
  · simp only [listened]
    exact ⟨fun _ => ⟨sorts, Or.inl real⟩, fun _ => ⟨chatList, rfl, same⟩⟩

theorem reflects_step {lists next : Lists userId} {delivered : Delivered userId}
    (sortable : lists.PublishedSortable) (before : lists.Reflects)
    (taken : lists.step delivered = some next) : next.Reflects ↔ lists.Complete delivered := by
  cases delivered with
  | chatChange snapshot =>
    cases taken
    rw [Complete, ← summary_reflects]
    constructor
    · exact fun after => ⟨after.number snapshot rfl, after.seen snapshot rfl⟩
    · rintro ⟨number, seen⟩
      refine ⟨?_, ?_, before.list⟩
      · rintro latest ⟨⟩
        exact number
      · rintro latest ⟨⟩
        exact seen
  | productChats snapshot =>
    cases taken
    rw [Complete, ← published_reflects snapshot sortable]
    constructor
    · exact fun after => after.list snapshot rfl
    · intro list
      refine ⟨before.number, before.seen, ?_⟩
      rintro latest ⟨⟩
      exact list

end Lists

/-- For every sequence of snapshots, the state is that of the latest ones throughout
if and only if every delivery is complete. -/
theorem reflects_iff_complete {userId : Int} (summary : ChatSummary)
    (deliveries : List (Delivered userId)) :
    Always Lists.step Lists.Reflects { summary } deliveries ↔
      Meets Lists.step Lists.Complete { summary } deliveries := by
  obtain ⟨final, reached⟩ := run_of_total Lists.step_total { summary } deliveries
  refine always_iff_meets Lists.PublishedSortable ?_ ?_ ?_ ?_ reached
  · exact fun _ _ _ before taken => Lists.publishedSortable_step before taken
  · exact fun _ _ _ sortable before taken => Lists.reflects_step sortable before taken
  · simp [Lists.PublishedSortable]
  · constructor <;> simp

def noChats : Snapshot 7 := ⟨.null, rfl⟩

def emptied : List (Delivered 7) :=
  [.chatChange halfSeen, .productChats halfSeen, .chatChange noChats, .productChats noChats]

/-- After the empty snapshot the number is 0, but the badge and the list are those
of the snapshot before. -/
theorem emptied_carriedOver :
    (∃ final, run Lists.step (⟨{}, none, none, none⟩ : Lists 7) emptied = some final ∧
      final.summary = ⟨0, false⟩ ∧ final.published.map List.length = some 2) ∧
    ¬ Always Lists.step Lists.Reflects (⟨{}, none, none, none⟩ : Lists 7) emptied := by
  constructor
  · have found : (run Lists.step (⟨{}, none, none, none⟩ : Lists 7) emptied).any
        (fun final => decide (final.summary = ⟨0, false⟩ ∧
          final.published.map List.length = some 2)) = true := by decide
    obtain ⟨final, reached, test⟩ := exists_of_run found
    exact ⟨final, reached, of_decide_eq_true test⟩
  · intro always
    have third := always.2.2.2.first
    have flag : (false = true) ↔ noChats.AllSeen := third.seen noChats rfl
    exact absurd (flag.mpr (by decide)) (by decide)

end SparSomnong.Session
