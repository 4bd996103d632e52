import SparSomnong.Session.Badges

/-! The order of the list of recent chats.

The comparator subtracts time stamps in 64 bits. Between non-negative ones no
subtraction overflows, so it orders them as numbers; where one is missing it throws.
-/

set_option autoImplicit false

namespace SparSomnong.Session

open Semantics

/-- A time stamp that is there is a non-negative integer of 64 bits. -/
def Timed (chat : ChatResponse) : Prop :=
  ∀ time, chat.lastTimeStamp = some time → 0 ≤ time ∧ time < 2 ^ 63

structure Listed {userId : Int} (snapshot : Snapshot userId) (chatList : List ChatResponse) :
    Prop where
  complete : chatList.Perm snapshot.entries
  ordered : (chatList.filterMap ChatResponse.lastTimeStamp).Pairwise fun a b => b ≤ a

variable {chatList : List ChatResponse}

theorem compareTime_le_iff {a b : ChatResponse} {first second : Int}
    (time : a.lastTimeStamp = some first) (other : b.lastTimeStamp = some second)
    (timed : Timed a) (timedOther : Timed b) : compareTime a b ≤ 0 ↔ second ≤ first := by
  obtain ⟨positive, small⟩ := timed first time
  obtain ⟨positiveOther, smallOther⟩ := timedOther second other
  have exact : compareTime a b = second - first := by
    unfold compareTime
    rw [time, other, Option.getD_some, Option.getD_some]
    -- the difference of two non-negative numbers of 64 bits is one of 64 bits
    apply Int.bmod_eq_of_le <;> omega
  rw [exact]
  omega

theorem map_time_insertionSort (stamped : ∀ chat ∈ chatList, chat.lastTimeStamp ≠ none)
    (timed : ∀ chat ∈ chatList, Timed chat) :
    (chatList.insertionSort fun a b => compareTime a b ≤ 0).map (·.lastTimeStamp.getD 0) =
      (chatList.map (·.lastTimeStamp.getD 0)).insertionSort fun a b => b ≤ a := by
  apply List.map_insertionSort
  intro a memberA b memberB
  obtain ⟨first, time⟩ := Option.ne_none_iff_exists'.mp (stamped a memberA)
  obtain ⟨second, other⟩ := Option.ne_none_iff_exists'.mp (stamped b memberB)
  rw [time, other]
  exact compareTime_le_iff time other (timed a memberA) (timed b memberB)

theorem filterMap_time_of_stamped (stamped : ∀ chat ∈ chatList, chat.lastTimeStamp ≠ none) :
    chatList.filterMap ChatResponse.lastTimeStamp = chatList.map (·.lastTimeStamp.getD 0) := by
  induction chatList with
  | nil => rfl
  | cons chat rest ih =>
    obtain ⟨time, present⟩ := Option.ne_none_iff_exists'.mp (stamped chat List.mem_cons_self)
    have tail := ih fun other member => stamped other (List.mem_cons_of_mem chat member)
    rw [List.filterMap_cons_some present, List.map_cons, tail, present]
    rfl

theorem sortByTime_ordered (timed : ∀ chat ∈ chatList, Timed chat) {sorted : List ChatResponse}
    (arranged : sortByTime chatList = .ok sorted) :
    (sorted.filterMap ChatResponse.lastTimeStamp).Pairwise fun a b => b ≤ a := by
  unfold sortByTime at arranged
  split at arranged
  · next short =>
    cases arranged
    have one := Nat.le_trans (List.length_filterMap_le ChatResponse.lastTimeStamp chatList) short
    cases times : chatList.filterMap ChatResponse.lastTimeStamp with
    | nil => exact List.Pairwise.nil
    | cons time rest =>
      rw [times, List.length_cons] at one
      have none : rest = [] := List.eq_nil_of_length_eq_zero (by omega)
      rw [none]
      exact List.pairwise_singleton _ time
  · split at arranged
    · next all =>
      cases arranged
      have stamped : ∀ chat ∈ chatList, chat.lastTimeStamp ≠ none := fun chat member =>
        Option.isSome_iff_ne_none.mp (List.all_eq_true.mp all chat member)
      rw [filterMap_time_of_stamped fun chat member =>
          stamped chat ((List.perm_insertionSort _ _).mem_iff.mp member),
        map_time_insertionSort stamped timed]
      exact List.pairwise_insertionSort _ _
    · cases arranged

/-- The list of recent chats is complete and in order exactly when there is one chat
only or all of them have time stamps. -/
theorem listed_iff_sortable {userId : Int} (snapshot : Snapshot userId)
    (nonEmpty : snapshot.chats ≠ []) (timed : ∀ chat ∈ snapshot.entries, Timed chat) :
    (∃ chatList, listenToProductChatFirstTime snapshot.value = .ok chatList ∧
      Listed snapshot chatList) ↔ Sortable snapshot.entries := by
  have present : snapshot.value = .map snapshot.chats := by
    rcases snapshot.value_cases with absent | present
    · exact absurd (snapshot.chats_of_null absent) nonEmpty
    · exact present
  rw [snapshot.listen_of_map present]
  rcases sortByTime_cases snapshot.entries with ⟨sortable, sorted, arranged, same⟩ |
    ⟨unsortable, thrown⟩
  · exact iff_of_true ⟨sorted, arranged, same, sortByTime_ordered timed arranged⟩ sortable
  · refine iff_of_false ?_ unsortable
    rintro ⟨chatList, listed, -⟩
    rw [thrown] at listed
    cases listed

theorem halfSeen_listed :
    ∃ chatList, listenToProductChatFirstTime halfSeen.value = .ok chatList ∧
      Listed halfSeen chatList := by
  refine (listed_iff_sortable halfSeen (by decide) ?_).mpr (by decide)
  intro chat member time stamp
  have stamps : halfSeen.entries.map ChatResponse.lastTimeStamp = [some 1, some 2] := rfl
  have found : some time ∈ halfSeen.entries.map ChatResponse.lastTimeStamp :=
    stamp ▸ List.mem_map_of_mem member
  rw [stamps] at found
  simp at found
  omega

def newChat : Snapshot 7 :=
  ⟨.map [("a", sampleChat (some 1) "k1" "k1"),
    ("b", .map [("users", .map [("7", .map [("userId", .int 7)])])])], by decide⟩

theorem newChat_throws :
    listenToProductChatFirstTime newChat.value = .error .noSuchMethod ∧
      ¬ ∃ chatList, listenToProductChatFirstTime newChat.value = .ok chatList ∧
        Listed newChat chatList := by
  have thrown : listenToProductChatFirstTime newChat.value = .error .noSuchMethod := rfl
  refine ⟨thrown, ?_⟩
  rintro ⟨chatList, listed, -⟩
  rw [thrown] at listed
  cases listed

end SparSomnong.Session
