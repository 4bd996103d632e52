import SparSomnong.Chat.Handover

/-! What one conversation shows: its messages in order, each once, and none
left out.

Order and uniqueness hold in every run, as long as page requests do not
overlap. Completeness fails exactly when a message is stored between the
snapshot of the read and the start of the live feed.
-/

set_option autoImplicit false

namespace SparSomnong.Chat

open Semantics

variable {db : Database} {user : Option Int} {key : Option String} {actions : List RoomAction}
  {final : Room}

theorem messages_sublist_of_paced
    (meets : Meets Room.step (Room.Paced key) (Room.start db user) actions)
    (reached : run Room.step (Room.start db user) actions = some final) :
    final.widget.messages.Sublist (final.stored key) := by
  refine Handover.messages_sublist (run_invariant
    (fun room => Handover (fun _ => True) key (room.stored key) room.widget) ?_
    (Handover.start trivial) meets reached)
  intro room action next handover paced taken
  exact handover.moved paced (Or.inl trivial) (fun _ _ _ _ _ _ => trivial)
    (Room.moved_of_step taken)

/-- The read and the live feed neither duplicate nor misorder. -/
theorem unscrolled_keys_increasing
    (meets : Meets Room.step (Room.Unscrolled key) (Room.start db user) actions)
    (reached : run Room.step (Room.start db user) actions = some final) :
    Ordered Messages.key final.widget.messages := by
  have paced := meets.mono fun _ _ unscrolled => unscrolled.paced
  exact (final.db.stored_ordered _).sublist (messages_sublist_of_paced paced reached)

def busyLoad : List RoomAction :=
  [.chatKey (some "a"), .append "a" (sample "k3"), .widget (.firstReadServed 0),
   .append "a" (sample "k4"),
   .widget (.firstReadDone 0 [sample "k3", sample "k1", sample "k2"]),
   .append "a" (sample "k5"), .widget (.subscribed 0), .append "a" (sample "k6"),
   .widget (.childAdded 0), .widget (.childAdded 0)]

theorem busyLoad_increasing :
    ∃ final, run Room.step (Room.start twoChats (some 7)) busyLoad = some final ∧
      final.widget.messages = [sample "k1", sample "k2", sample "k5", sample "k6"] ∧
      Ordered Messages.key final.widget.messages := by
  have found : (run Room.step (Room.start twoChats (some 7)) busyLoad).any
      (fun final => decide (final.widget.messages =
        [sample "k1", sample "k2", sample "k5", sample "k6"])) = true := by decide
  obtain ⟨final, reached, test⟩ := exists_of_run found
  have meets : Meets Room.step (Room.Unscrolled (some "a")) (Room.start twoChats (some 7))
      busyLoad := by decide
  exact ⟨final, reached, of_decide_eq_true test, unscrolled_keys_increasing meets reached⟩

/-! ## Scrolling back -/

/-- Scrolling back shows no message twice and keeps the order, if a page is only
asked for when none is outstanding or none is left. -/
theorem paced_pages_increasing
    (meets : Meets Room.step (Room.Paced key) (Room.start db user) actions)
    (reached : run Room.step (Room.start db user) actions = some final) :
    (∀ message ∈ final.stored key, final.widget.messages.count message ≤ 1) ∧
      Ordered Messages.key final.widget.messages := by
  have ordered : Ordered Messages.key final.widget.messages :=
    (final.db.stored_ordered _).sublist (messages_sublist_of_paced meets reached)
  refine ⟨fun message _ => ?_, ordered⟩
  refine List.nodup_iff_count_le_one.mp ?_ message
  exact ordered.imp fun less same => less.ne (congrArg Messages.key same)

def longLog : List Messages :=
  ["k01", "k02", "k03", "k04", "k05", "k06", "k07", "k08", "k09", "k10", "k11", "k12", "k13"].map
    sample

def longChat : Database
  | "a" => Conversation.ofLog longLog (by decide)
  | _ => Conversation.empty

def pacedPages : List RoomAction :=
  [.chatKey (some "a"), .widget (.firstReadServed 0),
   .widget (.firstReadDone 0 (longLog.drop 2)),
   .widget .scrollToTop, .append "a" (sample "k14"), .widget (.previousReadServed 0),
   .widget (.previousReadDone 0 (longLog.take 3)),
   .widget .scrollToTop, .widget .scrollToTop, .widget (.previousReadServed 1),
   .widget (.previousReadDone 1 (longLog.take 1))]

theorem pacedPages_increasing :
    ∃ final, run Room.step (Room.start longChat (some 7)) pacedPages = some final ∧
      final.widget.messages = longLog.take 12 ∧
      (∀ message ∈ final.stored (some "a"), final.widget.messages.count message ≤ 1) ∧
      Ordered Messages.key final.widget.messages := by
  have found : (run Room.step (Room.start longChat (some 7)) pacedPages).any
      (fun final => decide (final.widget.messages = longLog.take 12)) = true := by decide
  obtain ⟨final, reached, test⟩ := exists_of_run found
  have meets : Meets Room.step (Room.Paced (some "a")) (Room.start longChat (some 7))
      pacedPages := by decide
  exact ⟨final, reached, of_decide_eq_true test, paced_pages_increasing meets reached⟩

def overlappingPages : List RoomAction :=
  [.chatKey (some "a"), .widget (.firstReadServed 0),
   .widget (.firstReadDone 0 (longLog.drop 2)),
   .widget .scrollToTop, .widget .scrollToTop,
   .widget (.previousReadServed 0), .widget (.previousReadServed 1),
   .widget (.previousReadDone 0 (longLog.take 3)), .widget (.previousReadDone 0 (longLog.take 3))]

theorem overlappingPages_duplicated :
    ∃ final, run Room.step (Room.start longChat (some 7)) overlappingPages = some final ∧
      sample "k01" ∈ final.stored (some "a") ∧
      final.widget.messages.count (sample "k01") = 2 ∧
      ¬ Ordered Messages.key final.widget.messages := by
  have found : (run Room.step (Room.start longChat (some 7)) overlappingPages).any
      (fun final => decide (sample "k01" ∈ final.stored (some "a") ∧
        final.widget.messages.count (sample "k01") = 2 ∧
        ¬ Ordered Messages.key final.widget.messages)) = true := by decide
  obtain ⟨final, reached, test⟩ := exists_of_run found
  exact ⟨final, reached, of_decide_eq_true test⟩

/-! ## Nothing is lost -/

/-- No load is pending and the live feed of `key` has delivered everything. -/
def Room.CaughtUp (key : Option String) (room : Room) : Prop :=
  room.widget.firstReads = [] ∧ ∃ sub ∈ room.widget.subscriptions,
    sub.chatKey = key ∧ sub.established = true ∧ sub.queue = []

instance (key : Option String) (room : Room) : Decidable (room.CaughtUp key) :=
  inferInstanceAs (Decidable (_ ∧ _))

/-- Every message from the oldest shown one on is shown. -/
def Room.NoneLost (key : Option String) (room : Room) : Prop :=
  ∀ message ∈ room.stored key,
    (∃ oldest ∈ room.widget.messages, oldest.key ≤ message.key) → message ∈ room.widget.messages

instance (key : Option String) (room : Room) : Decidable (room.NoneLost key) :=
  inferInstanceAs (Decidable (∀ _ ∈ _, _ → _))

def RoomAction.stores : RoomAction → Option String
  | .append chat _ => some chat
  | _ => none

/-- Nothing is stored between the snapshot of the read and the start of the live
feed, unless the read keeps no message. -/
def Room.Quiet (key : Option String) (room : Room) (action : RoomAction) : Prop :=
  action.stores = some (interpolate key) → ∀ shown ∈ room.widget.kept, shown = []

instance (key : Option String) (room : Room) (action : RoomAction) :
    Decidable (room.Quiet key action) :=
  inferInstanceAs (Decidable (_ → _))

theorem noneLost_of_handover {room : Room} (caughtUp : room.CaughtUp key)
    (handover : Handover (fun gap => gap = false) key (room.stored key) room.widget) :
    room.NoneLost key := by
  obtain ⟨done, sub, member, -, established, delivered⟩ := caughtUp
  obtain ⟨part, fits, closed⟩ := handover.parts done
  have pending : part.pending = [] := by rw [← fits.live sub member established, delivered]
  have order := fits.order
  rw [pending, List.append_nil] at order
  have suffix : room.widget.messages <:+ room.stored key := by
    rw [fits.messages, fits.split, order]
    simp only [gap, Bool.and_eq_false_iff, Bool.not_eq_false', List.isEmpty_iff] at closed
    rcases closed with noneShown | noWindow
    · -- nothing is shown from the read, so the log may have been cut anywhere
      have last : part.last <:+ part.dropped.toList ++ part.window := by
        rw [Part.last, ← limitToLast_one]
        exact limitToLast_suffix 1 _
      obtain ⟨before, whole⟩ := last
      refine ⟨part.rest ++ before, ?_⟩
      simp only [noneShown, List.append_nil, List.nil_append, List.append_assoc] at whole ⊢
      rw [← List.append_assoc before, whole, List.append_assoc]
    · refine ⟨part.rest, ?_⟩
      cases dropped : part.dropped <;> simp [Part.last, noWindow, dropped]
  rintro message stored ⟨oldest, shown, below⟩
  exact (room.db.stored_ordered _).mem_of_suffix suffix stored shown below

structure Gapped (key : Option String) (room : Room) : Prop where
  handover : Handover (fun gap => gap = true) key (room.stored key) room.widget
  served : ∀ read ∈ room.widget.firstReads, read.snapshot ≠ none

namespace Gapped

variable {room next : Room} {action : RoomAction}

/-- The dropped message is older than the window the live feed starts after. -/
theorem lost (gapped : Gapped key room) (caughtUp : room.CaughtUp key) : ¬ room.NoneLost key := by
  obtain ⟨done, sub, member, -, established, delivered⟩ := caughtUp
  obtain ⟨part, fits, wide⟩ := gapped.handover.parts done
  have pending : part.pending = [] := by rw [← fits.live sub member established, delivered]
  have order := fits.order
  rw [pending, List.append_nil] at order
  simp only [gap, Bool.and_eq_true, Bool.not_eq_true', List.isEmpty_eq_false_iff] at wide
  obtain ⟨someShown, someWindow⟩ := wide
  cases dropped : part.dropped with
  | none => exact absurd (fits.whole dropped).2 someShown
  | some message =>
    obtain ⟨oldest, others, shown⟩ := List.exists_cons_of_ne_nil someShown
    have split : room.stored key =
        part.rest ++ part.shown ++ message :: (part.window ++ part.later) := by
      simp [fits.split, dropped]
    have ordered : Ordered Messages.key (room.stored key) := room.db.stored_ordered _
    rw [split] at ordered
    obtain ⟨-, from_message, across⟩ := List.pairwise_append.mp ordered
    have older : ∀ other ∈ part.shown, other.key < message.key :=
      fun other inside => across other (List.mem_append_right _ inside) message (by simp)
    have newer := (List.pairwise_cons.mp from_message).1
    have last : ∀ other ∈ part.last, other ∈ part.window := by
      intro other inside
      rw [Part.last, List.getLast?_append_of_ne_nil _ someWindow] at inside
      exact List.mem_of_getLast? (by simpa using inside)
    -- older than the window, newer than what the read kept, and in neither
    intro whole
    have present := whole message (by simp [split]) ⟨oldest, by simp [fits.messages, shown],
      (older oldest (by simp [shown])).le⟩
    rw [fits.messages, order] at present
    rcases List.mem_append.mp present with inShown | live
    · exact lt_irrefl _ (older message inShown)
    · refine lt_irrefl _ (newer message (List.mem_append.mpr ?_))
      exact (List.mem_append.mp live).imp_left (last message)

/-- A message that falls into the window of a read that kept something. -/
theorem enter {message : Messages}
    (handover : Handover (fun gap => gap = false) key (room.stored key) room.widget)
    (loud : ¬ room.Quiet key (.append (interpolate key) message))
    (newest : room.db.Newest (interpolate key) message) :
    Gapped key { room with
      db := room.db.append (interpolate key) message
      widget := room.widget.onStored (interpolate key) message } := by
  simp only [Room.Quiet, RoomAction.stores, true_implies, not_forall] at loud
  obtain ⟨kept, waiting, some⟩ := loud
  obtain ⟨single, served⟩ := handover.lane.kept_single waiting
  refine ⟨?_, served⟩
  simp only [Room.stored, Database.stored_append newest, if_true]
  refine handover.onStored newest ?_ ?_
  · intro shown member before _
    rw [single, List.mem_singleton] at member
    simpa [member] using some
  · intro none
    simp [none] at waiting

theorem served_of_stepped {widget after : ChatWidgetState} {act : WidgetAction}
    {writes : List Write} (served : ∀ read ∈ widget.firstReads, read.snapshot ≠ none)
    (taken : ChatWidgetState.Stepped db user widget act after writes) :
    ∀ read ∈ after.firstReads, read.snapshot ≠ none := by
  cases taken with
  | firstReadServed found => exact absurd rfl (served _ (List.mem_of_getElem? found))
  | firstReadDone found same =>
    rw [ChatWidgetState.finishFirstTime_firstReads]
    exact fun read left => served read (List.mem_of_mem_eraseIdx left)
  | childAdded found mounted handled =>
    rw [(ChatWidgetState.listenToRealTimeChat_frame handled).1]
    exact served
  | previousReadDone found same =>
    rw [(ChatWidgetState.listenToPreviousChat_frame _ _).1]
    exact served
  | _ => exact served

theorem moved (gapped : Gapped key room) (paced : room.Paced key action)
    (taken : Room.Moved room action next) : Gapped key next := by
  have handover : Handover (fun gap => gap = true) key (next.stored key) next.widget := by
    refine gapped.handover.moved paced (Or.inr gapped.served) ?_ taken
    intro message _ shown _ before wide
    simp only [Bool.and_eq_true] at wide
    exact wide.1
  -- the key is known, so that no second read is asked for
  have known : room.widget.oldKey = key := by
    by_contra other
    obtain ⟨part, fits, wide⟩ := gapped.handover.parts (gapped.handover.idle (Or.inl other))
    have blank := gapped.handover.blank (Or.inl other)
    have empty := fits.messages.symm.trans blank.messages
    simp [gap, (List.append_eq_nil_iff.mp empty).1] at wide
  refine ⟨handover, ?_⟩
  cases taken with
  | @chatKey handed mounted =>
    obtain rfl := paced.1 handed rfl
    simp only [Room.deliver, ChatWidgetState.onChatKey_same known.symm]
    exact gapped.served
  | @tap index chat found mounted =>
    obtain rfl := paced.1 chat.key (Room.incoming_tap found mounted)
    simp only [Room.deliver, ChatWidgetState.onChatKey_same known.symm]
    exact gapped.served
  | @widget action widget writes stepped =>
    rw [Room.note_widget]
    exact served_of_stepped gapped.served stepped
  | append newest => exact gapped.served
  | quote quoted => exact gapped.served
  | setUser => exact gapped.served
  | chatSnapshot => exact gapped.served
  | tapLate found unmounted => exact gapped.served
  | dispose mounted => exact gapped.served

end Gapped

/-- Once everything is delivered, no message is lost if and only if nothing was
stored in the window of a read that kept a message. -/
theorem noneLost_iff_quiet
    (meets : Meets Room.step (Room.Unscrolled key) (Room.start db user) actions)
    (reached : run Room.step (Room.start db user) actions = some final)
    (caughtUp : final.CaughtUp key) :
    final.NoneLost key ↔ Meets Room.step (Room.Quiet key) (Room.start db user) actions := by
  let Closed (room : Room) : Prop :=
    Handover (fun gap => gap = false) key (room.stored key) room.widget
  have start : Closed (Room.start db user) := Handover.start rfl
  have keep : ∀ room action next, Closed room → room.Unscrolled key action →
      room.Quiet key action → room.step action = some next → Closed next := by
    intro room action next handover unscrolled quiet taken
    refine Handover.moved handover unscrolled.paced (Or.inl rfl) ?_ (Room.moved_of_step taken)
    rintro message rfl shown waiting before _
    simp [quiet rfl shown waiting]
  have leave : ∀ room action next, Closed room → room.Unscrolled key action →
      ¬ room.Quiet key action → room.step action = some next → Gapped key next := by
    intro room action next handover unscrolled loud taken
    cases Room.moved_of_step taken with
    | @append chat message newest =>
      have here : chat = interpolate key := by
        by_contra other
        exact loud fun stores => absurd (Option.some.inj stores) other
      subst here
      exact Gapped.enter handover loud newest
    | _ => exact absurd (fun stores => by simp [RoomAction.stores] at stores) loud
  have stay : ∀ room action next, Gapped key room → room.Unscrolled key action →
      room.step action = some next → Gapped key next :=
    fun room action next gapped unscrolled taken =>
      gapped.moved unscrolled.paced (Room.moved_of_step taken)
  rcases run_dichotomy Closed (Gapped key) keep leave stay start meets reached with
    ⟨quiet, handover⟩ | ⟨loud, gapped⟩
  · exact iff_of_true (noneLost_of_handover caughtUp handover) quiet
  · exact iff_of_false (gapped.lost caughtUp) loud

def quietLoad : List RoomAction :=
  [.chatKey (some "a"), .append "a" (sample "k3"), .widget (.firstReadServed 0),
   .widget (.firstReadDone 0 [sample "k3", sample "k1", sample "k2"]),
   .widget (.subscribed 0), .append "a" (sample "k4"),
   .widget (.childAdded 0), .widget (.childAdded 0)]

theorem quietLoad_noneLost :
    ∃ final, run Room.step (Room.start twoChats (some 7)) quietLoad = some final ∧
      final.widget.messages.length = 4 ∧ final.NoneLost (some "a") := by
  have found : (run Room.step (Room.start twoChats (some 7)) quietLoad).any
      (fun final => decide (final.widget.messages.length = 4 ∧ final.CaughtUp (some "a"))) = true := by
    decide
  obtain ⟨final, reached, test⟩ := exists_of_run found
  obtain ⟨four, caughtUp⟩ := of_decide_eq_true test
  have meets : Meets Room.step (Room.Unscrolled (some "a")) (Room.start twoChats (some 7))
      quietLoad := by decide
  exact ⟨final, reached, four, (noneLost_iff_quiet meets reached caughtUp).mpr (by decide)⟩

def windowAppend : List RoomAction :=
  [.chatKey (some "a"), .widget (.firstReadServed 0),
   .widget (.firstReadDone 0 [sample "k1", sample "k2"]),
   .append "a" (sample "k3"), .widget (.subscribed 0), .widget (.childAdded 0)]

/-- "k2" was dropped by the read, and the live feed starts with "k3". -/
theorem windowAppend_lost :
    ∃ final, run Room.step (Room.start twoChats (some 7)) windowAppend = some final ∧
      final.CaughtUp (some "a") ∧ sample "k2" ∈ final.stored (some "a") ∧
      final.widget.messages = [sample "k1", sample "k3"] ∧ ¬ final.NoneLost (some "a") := by
  have found : (run Room.step (Room.start twoChats (some 7)) windowAppend).any
      (fun final => decide (final.CaughtUp (some "a") ∧ sample "k2" ∈ final.stored (some "a") ∧
        final.widget.messages = [sample "k1", sample "k3"] ∧ ¬ final.NoneLost (some "a"))) =
          true := by decide
  obtain ⟨final, reached, test⟩ := exists_of_run found
  exact ⟨final, reached, of_decide_eq_true test⟩

end SparSomnong.Chat
