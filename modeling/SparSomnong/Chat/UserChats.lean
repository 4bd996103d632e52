import SparSomnong.Chat.Storage
import SparSomnong.Session.RecentChats

/-! The chats of a user, whatever is going on in them.

MainPage and LastChatProduct ask for the chats with an entry of the user. What the chat
screens write never adds or removes one, and both readers show what the database holds.
-/

set_option autoImplicit false

namespace SparSomnong.Chat

open Semantics Session

/-- `users/<id>/userId` of a chat is the user's. -/
def isOf (userId : Int) (chat : Value) : Bool :=
  (chat.getAt ["users", idKey userId, "userId"]).int? == some userId

/-- `orderByChild('users/<id>/userId').equalTo(id)`. -/
def chatsOf (userId : Int) (tree : Value) : Entries :=
  tree.entries.filter fun entry => isOf userId entry.2

/-- There is no summary, or the user has seen the message it quotes. -/
def Conversation.SeenBy (conversation : Conversation) (userId : Int) : Prop :=
  ∀ last ∈ conversation.lastMessage, conversation.lastSeen userId = some last.key

instance (conversation : Conversation) (userId : Int) :
    Decidable (conversation.SeenBy userId) :=
  inferInstanceAs (Decidable (∀ last ∈ conversation.lastMessage, _ = some last.key))

/-! ## The node of a chat -/

theorem Encodes.isMapOf {entry : String × Value} {message : Messages}
    (encodes : Encodes entry message) : entry.2.isMapOf Session.Messages.typed = true := by
  obtain ⟨json, map, typed, -⟩ := encodes.typed
  rw [map]
  exact typed

theorem parts_of_isOf {userId : Int} {node : Value} (member : isOf userId node = true) :
    ∃ json users user, node = .map json ∧ child json "users" = .map users ∧
      child users (idKey userId) = .map user ∧ (child user "userId").int? = some userId := by
  have found : (child (child (child node.entries "users").entries (idKey userId)).entries
      "userId").int? = some userId := beq_iff_eq.mp member
  -- a node with a child is a map
  have inner : child (child (child node.entries "users").entries (idKey userId)).entries
      "userId" ≠ .null := by
    intro null
    rw [null] at found
    cases found
  have user := Value.eq_map_of_child "userId" inner
  have users : child node.entries "users" = _ := Value.eq_map_of_child (idKey userId) (by
    rw [user]
    intro null
    cases null)
  have chat : node = _ := Value.eq_map_of_child "users" (by
    rw [users]
    intro null
    cases null)
  exact ⟨_, _, _, chat, users, user, found⟩

namespace Holds

variable {node : Value} {conversation : Conversation} {userId : Int}

theorem typedMessages (holds : Holds node conversation) :
    (node.getAt [fireBaseMessages]).isMapOf (typedMap Session.Messages.typed) = true := by
  have each : ∀ entries stored, List.Forall₂ Encodes entries stored →
      typedMap Session.Messages.typed entries = true := by
    intro entries stored all
    induction all with
    | nil => rfl
    | cons first rest ih => exact Bool.and_eq_true_iff.mpr ⟨first.isMapOf, ih⟩
  have typed := each _ _ holds.messages.entries
  rw [holds.messages.whole]
  generalize (node.getAt [fireBaseMessages]).entries = entries at typed
  cases entries with
  | nil => rfl
  | cons first rest => exact typed

theorem storedChat (holds : Holds node conversation) (member : isOf userId node = true) :
    Session.storedChat userId node = true := by
  have messages := holds.typedMessages
  obtain ⟨json, users, user, rfl, list, entry, id⟩ := parts_of_isOf member
  have typed : Session.ChatResponse.typed json = true := by
    simp only [Session.ChatResponse.typed, Bool.and_eq_true]
    have time := (congrArg Value.isInt holds.time).trans (Value.isInt_orNull _)
    exact ⟨⟨⟨⟨holds.key, holds.summary.typed⟩, time⟩, messages⟩, holds.markers.typed⟩
  have own : membership userId json = some user := by
    rw [membership, list, Value.map?_map, Option.bind_some, entry, Value.map?_map]
  rw [Session.storedChat, typed, own, Option.any_some, id, beq_self_eq_true]
  rfl

theorem seen_iff (holds : Holds node conversation) (member : isOf userId node = true) :
    Session.seen userId node = true ↔ conversation.SeenBy userId := by
  obtain ⟨json, users, user, rfl, list, entry, id⟩ := parts_of_isOf member
  have own : membership userId json = some user := by
    rw [membership, list, Value.map?_map, Option.bind_some, entry, Value.map?_map]
  have marker : child user "lastSeen" = Value.orNull .string (conversation.lastSeen userId) := by
    have read := holds.markers.read userId
    change child (child (child json "users").entries (idKey userId)).entries "lastSeen" = _ at read
    rw [list] at read
    change child (child users (idKey userId)).entries "lastSeen" = _ at read
    rw [entry] at read
    exact read
  have summary := holds.summary.read
  change (child json "lastMessage").map?.map Session.LastMessage.read = _ at summary
  rw [Session.seen, fields_map, own, Conversation.SeenBy]
  cases present : (child json "lastMessage").map? with
  | none =>
    rw [present] at summary
    have absent : conversation.lastMessage = none := by simpa using summary.symm
    simp [absent]
  | some last =>
    rw [present] at summary
    obtain ⟨quoted, there, read⟩ := Option.map_eq_some_iff.mp summary.symm
    have key : (child last "key").string? = some quoted.key :=
      (congrArg Session.LastMessage.key read).symm
    simp only [there, key, marker, Value.string?_orNull, Option.mem_def, Option.some.injEq,
      forall_eq', beq_iff_eq]
    exact eq_comm

end Holds

/-! ## The chats stay the same -/

/-- No write changes who is in a chat. -/
theorem isOf_perform (userId : Int) (field : Field) (node : Value) :
    isOf userId (field.perform node) = isOf userId node := by
  have same : (field.perform node).getAt ["users", idKey userId, "userId"] =
      node.getAt ["users", idKey userId, "userId"] := by
    cases field with
    | lastSeen marked key =>
      by_cases here : idKey userId = idKey marked
      · rw [here]
        have apart : "userId" ≠ "lastSeen" := by decide
        exact Value.getAt_setAt_apart apart ["users", idKey marked] [] [] (.string key) node
      · exact Value.getAt_setAt_apart here ["users"] ["lastSeen"] ["userId"] (.string key) node
    | _ =>
      exact Field.perform_apart (by simp [Field.child, fireBaseMessages, fireBaseLastMessage]) _ _
  rw [isOf, same, isOf]

section
variable {tree other : Value} {userId : Int}

theorem mem_chatsOf (sorted : tree.Sorted IsName) {entry : String × Value} :
    entry ∈ chatsOf userId tree ↔
      child tree.entries entry.1 = entry.2 ∧ isOf userId entry.2 = true := by
  rw [chatsOf, List.mem_filter]
  refine and_congr_left fun member => ⟨fun inside => child_of_mem sorted.ordered inside, ?_⟩
  intro found
  obtain ⟨json, users, user, map, -⟩ := parts_of_isOf member
  have present : child tree.entries entry.1 ≠ .null := by
    rw [found, map]
    intro null
    cases null
  have inside := mem_of_child present
  rw [found] at inside
  exact inside

theorem names_chatsOf (sorted : tree.Sorted IsName) (sortedOther : other.Sorted IsName)
    (same : ∀ chat, isOf userId (child tree.entries chat) =
      isOf userId (child other.entries chat)) :
    (chatsOf userId tree).map Prod.fst = (chatsOf userId other).map Prod.fst := by
  have ordered : ∀ {tree : Value}, tree.Sorted IsName →
      ((chatsOf userId tree).map Prod.fst).Pairwise (· < ·) := by
    intro tree sorted
    exact List.pairwise_map.mpr (sorted.ordered.sublist List.filter_sublist)
  have names : ∀ {tree : Value}, tree.Sorted IsName → ∀ chat,
      chat ∈ (chatsOf userId tree).map Prod.fst ↔ isOf userId (child tree.entries chat) = true := by
    intro tree sorted chat
    rw [List.mem_map]
    constructor
    · rintro ⟨entry, member, rfl⟩
      obtain ⟨found, own⟩ := (mem_chatsOf sorted).mp member
      rw [found]
      exact own
    · intro own
      exact ⟨(chat, child tree.entries chat), (mem_chatsOf sorted).mpr ⟨rfl, own⟩, rfl⟩
  refine (ordered sorted).eq_of_mem_iff (ordered sortedOther) fun chat => ?_
  rw [names sorted, names sortedOther, same]

end

theorem isOf_performAll (userId : Int) {writes : List Write} (named : ∀ write ∈ writes, write.Named)
    (tree : Value) (chat : String) :
    isOf userId (child (writes.foldl (fun tree write => write.perform tree) tree).entries chat) =
      isOf userId (child tree.entries chat) := by
  induction writes generalizing tree with
  | nil => rfl
  | cons write rest ih =>
    rw [List.foldl_cons, ih fun other member => named other (List.mem_cons_of_mem write member),
      (named write List.mem_cons_self).child_perform]
    split
    · exact isOf_perform userId write.field _
    · rfl

/-- A chat keeps its time stamp, or gets another one. -/
theorem stamped_of_writes {db : Database} {chat : String} (writes : List Write)
    (stamped : (db chat).lastTimeStamp ≠ none) :
    (writes.foldl Database.apply db chat).lastTimeStamp ≠ none := by
  induction writes generalizing db with
  | nil => exact stamped
  | cons write rest ih =>
    apply ih
    rw [db.lastTimeStamp_apply]
    cases write.stampIn chat with
    | none => exact stamped
    | some time => exact Option.some_ne_none time

/-! ## What the readers are given -/

section
variable {tree : Value} {db : Database} {userId : Int} {reply : Entries}

theorem holds_of_replied (represents : Represents tree db)
    (replied : reply.Perm (chatsOf userId tree)) {entry : String × Value} (member : entry ∈ reply) :
    Holds entry.2 (db entry.1) ∧ isOf userId entry.2 = true := by
  have inside := replied.subset member
  have name := represents.sorted.names entry (List.mem_of_mem_filter inside)
  obtain ⟨found, own⟩ := (mem_chatsOf represents.sorted).mp inside
  exact ⟨found ▸ represents.holds entry.1 name, own⟩

def snapshotOf (represents : Represents tree db) (replied : reply.Perm (chatsOf userId tree)) :
    Snapshot userId :=
  ⟨.ofEntries reply, by
    have stored : ∀ entry ∈ reply, storedChat userId entry.2 = true := by
      intro entry member
      obtain ⟨holds, own⟩ := holds_of_replied represents replied member
      exact holds.storedChat own
    cases reply with
    | nil => rfl
    | cons first rest => exact List.all_eq_true.mpr stored⟩

theorem chats_snapshotOf (represents : Represents tree db)
    (replied : reply.Perm (chatsOf userId tree)) :
    (snapshotOf represents replied).chats = reply := by
  cases reply <;> rfl

theorem map_of_replied (represents : Represents tree db)
    (replied : reply.Perm (chatsOf userId tree)) (some : reply ≠ []) :
    (snapshotOf represents replied).value = .map (snapshotOf represents replied).chats := by
  rw [chats_snapshotOf]
  cases reply with
  | nil => exact absurd rfl some
  | cons first rest => rfl

theorem Holds.read {node : Value} {conversation : Conversation} (key : String)
    (holds : Holds node conversation) (own : isOf userId node = true) :
    (readEntry (key, node)).lastMessage = conversation.lastMessage.map LastMessage.decoded ∧
      (readEntry (key, node)).lastTimeStamp = conversation.lastTimeStamp ∧
      (readEntry (key, node)).showBadge userId = !decide (conversation.SeenBy userId) := by
  refine ⟨?_, ?_, ?_⟩
  · obtain ⟨json, -, -, rfl, -⟩ := parts_of_isOf own
    exact holds.summary.read
  · obtain ⟨json, -, -, rfl, -⟩ := parts_of_isOf own
    have time : child json "lastTimeStamp" = _ := holds.time
    change (child json "lastTimeStamp").int? = _
    rw [time]
    cases conversation.lastTimeStamp <;> rfl
  · rw [showBadge_of_stored key (holds.storedChat own)]
    congr 1
    rw [Bool.eq_iff_iff, holds.seen_iff own, decide_eq_true_iff]

end

/-! ## The readers during a run -/

variable {owner : Nat → Nat} {db : Database} {users : Nat → Option Int} {tree : Value}
  {actions : List NetworkAction} {final : Network} {userId : Int} {reply : Entries}

theorem names_of_replied (represents : Represents tree db)
    (named : ∀ action ∈ actions, action.Named)
    (reached : run (Network.step owner) (Network.start db users) actions = some final)
    (replied : reply.Perm (chatsOf userId (final.tree tree))) :
    (reply.map Prod.fst).Perm ((chatsOf userId tree).map Prod.fst) := by
  have now := represents_of_run represents named reached
  have arrived := (filed_of_run named reached).arrived
  rw [← names_chatsOf now.sorted represents.sorted fun chat =>
    isOf_performAll userId arrived tree chat]
  exact replied.map Prod.fst

/-- MainPage counts the chats the user had before the run, and its badge is off where the
user has seen the last message of each of them. -/
theorem home_of_run (represents : Represents tree db) (named : ∀ action ∈ actions, action.Named)
    (reached : run (Network.step owner) (Network.start db users) actions = some final)
    (replied : reply.Perm (chatsOf userId (final.tree tree)))
    (member : chatsOf userId tree ≠ []) (summary : ChatSummary) :
    onChatChange userId (.ofEntries reply) summary =
      ⟨(chatsOf userId tree).length,
        decide (∀ chat ∈ (chatsOf userId tree).map Prod.fst, (final.db chat).SeenBy userId)⟩ := by
  have now := represents_of_run represents named reached
  have names := names_of_replied represents named reached replied
  have size : reply.length = (chatsOf userId tree).length := by simpa using names.length_eq
  have chats := chats_snapshotOf now replied
  have present := map_of_replied now replied (fun none => member (by simpa [none] using names))
  have handled : onChatChange userId _ summary = _ :=
    (snapshotOf now replied).onChatChange_of_map present
  rw [chats, size] at handled
  refine handled.trans ?_
  congr 1
  rw [decide_eq_decide, Snapshot.AllSeen, chats]
  constructor
  · intro all chat inside
    obtain ⟨entry, among, rfl⟩ := List.mem_map.mp (names.mem_iff.mpr inside)
    obtain ⟨holds, own⟩ := holds_of_replied now replied among
    exact (holds.seen_iff own).mp (all entry among)
  · intro all entry among
    obtain ⟨holds, own⟩ := holds_of_replied now replied among
    exact (holds.seen_iff own).mpr (all _ (names.subset (List.mem_map_of_mem among)))

theorem helloInA_home : ∃ final, run (Network.step id) (Network.start newChatDb fun _ => some 7)
      helloInA = some final ∧
    onChatChange 7 (.ofEntries (chatsOf 7 (final.tree newChatTree))) {} = ⟨1, true⟩ := by
  have found : (run (Network.step id) (Network.start newChatDb fun _ => some 7) helloInA).any
      (fun final => decide (∀ chat ∈ (chatsOf 7 newChatTree).map Prod.fst,
        (final.db chat).SeenBy 7)) = true := by decide
  obtain ⟨final, reached, test⟩ := exists_of_run found
  have member : chatsOf 7 newChatTree ≠ [] := by decide
  have home := home_of_run newChat_represents (by decide) reached (List.Perm.refl _) member {}
  rw [test] at home
  exact ⟨final, reached, home⟩

/-- LastChatProduct lists those chats, the latest first, with the summaries and badges of
the database, if all of them had a time stamp before the run. -/
theorem list_of_run (represents : Represents tree db) (named : ∀ action ∈ actions, action.Named)
    (reached : run (Network.step owner) (Network.start db users) actions = some final)
    (replied : reply.Perm (chatsOf userId (final.tree tree)))
    (member : chatsOf userId tree ≠ [])
    (stamped : ∀ chat ∈ (chatsOf userId tree).map Prod.fst, (db chat).lastTimeStamp ≠ none)
    (timed : ∀ chat ∈ (chatsOf userId tree).map Prod.fst,
      ∀ time ∈ (final.db chat).lastTimeStamp, 0 ≤ time ∧ time < 2 ^ 63) :
    ∃ chatList, listenToProductChatFirstTime (.ofEntries reply) = .ok chatList ∧
      (chatList.map Session.ChatResponse.key).Perm
        (((chatsOf userId tree).map Prod.fst).map some) ∧
      (chatList.filterMap Session.ChatResponse.lastTimeStamp).Pairwise (fun a b => b ≤ a) ∧
      ∀ response ∈ chatList, ∃ chat, response.key = some chat ∧
        response.lastMessage = (final.db chat).lastMessage.map LastMessage.decoded ∧
        response.lastTimeStamp = (final.db chat).lastTimeStamp ∧
        response.showBadge userId = !decide ((final.db chat).SeenBy userId) := by
  have now := represents_of_run represents named reached
  have names := names_of_replied represents named reached replied
  have chats := chats_snapshotOf now replied
  have read : ∀ entry ∈ reply, _ := fun entry among =>
    (holds_of_replied now replied among).1.read entry.1 (holds_of_replied now replied among).2
  have entries : (snapshotOf now replied).entries = reply.map readEntry := by
    rw [Snapshot.entries, chats]
  have present := map_of_replied now replied (fun none => member (by simpa [none] using names))
  have sortable : Sortable (snapshotOf now replied).entries := by
    refine Or.inr fun response inside => ?_
    rw [entries] at inside
    obtain ⟨entry, among, rfl⟩ := List.mem_map.mp inside
    rw [(read entry among).2.1, (filed_of_run named reached).applied]
    exact stamped_of_writes _ (stamped _ (names.subset (List.mem_map_of_mem among)))
  have times : ∀ response ∈ (snapshotOf now replied).entries, Timed response := by
    intro response inside time stamp
    rw [entries] at inside
    obtain ⟨entry, among, rfl⟩ := List.mem_map.mp inside
    rw [(read entry among).2.1] at stamp
    exact timed _ (names.subset (List.mem_map_of_mem among)) time stamp
  rcases sortByTime_cases (snapshotOf now replied).entries with
    ⟨-, chatList, sorted, complete⟩ | ⟨unsortable, -⟩
  swap
  · exact absurd sortable unsortable
  have listed := ((snapshotOf now replied).listen_of_map present).trans sorted
  refine ⟨chatList, listed, ?_, sortByTime_ordered times sorted, ?_⟩
  · rw [entries] at complete
    have keys : (reply.map readEntry).map Session.ChatResponse.key = (reply.map Prod.fst).map some := by
      rw [List.map_map, List.map_map]
      rfl
    have keyed := complete.map Session.ChatResponse.key
    rw [keys] at keyed
    exact keyed.trans (names.map some)
  · intro response inside
    have among := complete.subset inside
    rw [entries] at among
    obtain ⟨entry, listed, rfl⟩ := List.mem_map.mp among
    exact ⟨entry.1, rfl, read entry listed⟩

theorem helloInA_list : ∃ final chatList,
    run (Network.step id) (Network.start newChatDb fun _ => some 7) helloInA = some final ∧
      listenToProductChatFirstTime (.ofEntries (chatsOf 7 (final.tree newChatTree))) =
        .ok chatList ∧
      (chatList.map Session.ChatResponse.key).Perm [some "a"] ∧
      (chatList.filterMap Session.ChatResponse.lastTimeStamp).Pairwise (fun a b => b ≤ a) := by
  have found : (run (Network.step id) (Network.start newChatDb fun _ => some 7) helloInA).any
      (fun final => decide (∀ chat ∈ (chatsOf 7 newChatTree).map Prod.fst,
        ∀ time ∈ (final.db chat).lastTimeStamp, 0 ≤ time ∧ time < 2 ^ 63)) = true := by decide
  obtain ⟨final, reached, test⟩ := exists_of_run found
  have member : chatsOf 7 newChatTree ≠ [] := by decide
  obtain ⟨chatList, listed, keys, ordered, -⟩ := list_of_run newChat_represents (by decide) reached
    (List.Perm.refl _) member (by decide) (of_decide_eq_true test)
  exact ⟨final, chatList, reached, listed, keys, ordered⟩

end SparSomnong.Chat
