import SparSomnong.Semantics.Held
import SparSomnong.Semantics.Run

/-! The player of a voice message, in AudioWidget.

A card starts its player in two calls and listens to it after the second. The button
goes by `_isPlaying`, which the first event sets.
-/

set_option autoImplicit false

namespace SparSomnong.Chat

open Semantics

/-- `shown` is what the button was built with last, `live` has the subscriptions that are
neither cancelled nor done, and `playing` says whether the player is. Calls in flight are
counted. `late` is history: `setState` was called after `dispose`. -/
structure AudioState where
  mounted : Bool := true
  isPlaying : Bool := false
  shown : Bool := false
  playerSubscription : Option Nat := none
  live : List Nat := []
  listened : Nat := 0
  starting : Nat := 0
  settingVolume : Nat := 0
  stopping : Nat := 0
  playing : Bool := false
  late : Bool := false
  deriving DecidableEq, Repr

/-- A call of the player returns or throws. The end of the playback may close the stream. -/
inductive AudioAction where
  | tap
  | rebuild
  | startPlayer (ok : Bool)
  | setVolume (ok : Bool)
  | stopPlayer (ok : Bool)
  | position
  | ended (closed : Bool)
  | dispose
  deriving DecidableEq, Repr

namespace AudioState

def setState (audio : AudioState) (isPlaying : Bool) : AudioState :=
  -- on a card that is disposed it throws
  if audio.mounted = true then { audio with isPlaying } else { audio with late := true }

/-- `_startPlayer`, up to the first `await`. -/
def startPlayer (audio : AudioState) : AudioState := { audio with starting := audio.starting + 1 }

def stopPlayer (audio : AudioState) : AudioState := { audio with stopping := audio.stopping + 1 }

def onPressed (audio : AudioState) : AudioState :=
  if audio.shown = true then audio.stopPlayer else audio.startPlayer

def onStarted (audio : AudioState) : AudioState :=
  -- `_startPlayer`, between its two `await`s
  { audio with
    starting := audio.starting - 1
    settingVolume := audio.settingVolume + 1
    playing := true }

def onVolume (audio : AudioState) : AudioState :=
  -- `_startPlayer`, behind the second `await`
  { audio with
    settingVolume := audio.settingVolume - 1
    playerSubscription := some audio.listened
    live := audio.live ++ [audio.listened]
    listened := audio.listened + 1 }

def onStopped (audio : AudioState) : AudioState :=
  -- `_stopPlayer`, behind its `await`
  setState { audio with
    stopping := audio.stopping - 1
    playing := false
    playerSubscription := none
    live := cancel audio.playerSubscription audio.live } false

def onPlayerStateChanged (audio : AudioState) (position : Bool) : AudioState :=
  -- the end of the playback is a `null`
  if position = true then audio.setState true
  else if audio.mounted = true then stopPlayer (audio.setState false) else audio.setState false

def deliver (audio : AudioState) (position : Bool) : AudioState :=
  audio.live.foldl (fun audio _ => audio.onPlayerStateChanged position) audio

def onEnded (audio : AudioState) (closed : Bool) : AudioState :=
  let told := audio.deliver false
  { told with playing := false, live := if closed = true then [] else told.live }

def dispose (audio : AudioState) : AudioState :=
  -- the recorder is stopped, not the player
  { audio with
    mounted := false
    playerSubscription := none
    live := cancel audio.playerSubscription audio.live }

def step (audio : AudioState) : AudioAction → Option AudioState
  | .tap => if audio.mounted = true then some audio.onPressed else none
  | .rebuild => if audio.mounted = true then some { audio with shown := audio.isPlaying } else none
  | .startPlayer true => if 0 < audio.starting then some audio.onStarted else none
  | .startPlayer false =>
    if 0 < audio.starting then some { audio with starting := audio.starting - 1 } else none
  | .setVolume true => if 0 < audio.settingVolume then some audio.onVolume else none
  | .setVolume false =>
    if 0 < audio.settingVolume then
      some { audio with settingVolume := audio.settingVolume - 1 }
    else none
  | .stopPlayer true => if 0 < audio.stopping then some audio.onStopped else none
  | .stopPlayer false =>
    if 0 < audio.stopping then some { audio with stopping := audio.stopping - 1 } else none
  | .position => some (audio.deliver true)
  | .ended closed => some (audio.onEnded closed)
  | .dispose => if audio.mounted = true then some audio.dispose else none

def pending (audio : AudioState) : Nat := audio.starting + audio.settingVolume + audio.stopping

def AtRest (audio : AudioState) : Prop :=
  audio.mounted = false → audio.pending = 0 → audio.playing = false ∧ audio.live = []

/-- The card has control of its player. -/
structure Controlled (audio : AudioState) : Prop where
  single : Single audio.playerSubscription audio.live
  quiet : audio.late = false
  rest : audio.AtRest

def NotLast (audio : AudioState) : Prop :=
  audio.mounted = false → audio.pending = 1 → audio.playing = false ∧ audio.live = []

/-- A start gets to its subscription while there is none, and not as the last call of a
disposed card; a stop returns, and an event finds a listener, before `dispose`; the card is
disposed with a call in flight or without playing. -/
def InTime (audio : AudioState) : AudioAction → Prop
  | .tap | .rebuild | .startPlayer true => True
  | .setVolume true => audio.live = [] ∧ (audio.mounted = false → audio.pending ≠ 1)
  | .stopPlayer true => audio.mounted = true
  | .startPlayer false | .setVolume false | .stopPlayer false => audio.NotLast
  | .position | .ended _ => audio.live ≠ [] → audio.mounted = true
  | .dispose => audio.pending = 0 → audio.playing = false

instance (audio : AudioState) : Decidable audio.NotLast := inferInstanceAs (Decidable (_ → _))

instance (audio : AudioState) : (action : AudioAction) → Decidable (audio.InTime action)
  | .tap | .rebuild | .startPlayer true => isTrue trivial
  | .setVolume true => inferInstanceAs (Decidable (_ ∧ _))
  | .stopPlayer true => inferInstanceAs (Decidable (_ = _))
  | .startPlayer false | .setVolume false | .stopPlayer false =>
    inferInstanceAs (Decidable (NotLast _))
  | .position | .ended _ | .dispose => inferInstanceAs (Decidable (_ → _))

variable {audio next : AudioState} {action : AudioAction}

theorem setState_of_mounted (mounted : audio.mounted = true) (isPlaying : Bool) :
    audio.setState isPlaying = { audio with isPlaying } := if_pos mounted

theorem setState_of_disposed (disposed : audio.mounted = false) (isPlaying : Bool) :
    audio.setState isPlaying = { audio with late := true } := by
  unfold setState
  rw [disposed, if_neg Bool.false_ne_true]

theorem controlled_of_mounted (mounted : audio.mounted = true)
    (single : Single audio.playerSubscription audio.live) (quiet : audio.late = false) :
    Controlled audio := by
  refine ⟨single, quiet, ?_⟩
  intro disposed
  rw [mounted] at disposed
  cases disposed

theorem Controlled.throws_iff (controlled : Controlled audio)
    (held : next.playerSubscription = audio.playerSubscription) (live : next.live = audio.live)
    (late : next.late = audio.late) (mounted : next.mounted = audio.mounted)
    (playing : next.playing = audio.playing) (pending : next.pending + 1 = audio.pending) :
    Controlled next ↔ audio.NotLast := by
  constructor
  · intro after disposed last
    rw [← playing, ← live]
    exact after.rest (mounted.trans disposed) (by omega)
  · intro notLast
    refine ⟨?_, late.trans controlled.quiet, ?_⟩
    · rw [held, live]
      exact controlled.single
    · intro disposed none
      rw [playing, live]
      exact notLast (mounted.symm.trans disposed) (by omega)

theorem Controlled.onStarted (controlled : Controlled audio) : Controlled audio.onStarted := by
  refine ⟨controlled.single, controlled.quiet, ?_⟩
  -- the second call is in flight
  intro _ none
  unfold pending AudioState.onStarted at none
  dsimp only at none
  omega

theorem Controlled.onVolume_iff (controlled : Controlled audio) (inFlight : 0 < audio.settingVolume) :
    Controlled audio.onVolume ↔
      audio.live = [] ∧ (audio.mounted = false → audio.pending ≠ 1) := by
  have calls : audio.onVolume.pending + 1 = audio.pending := by
    unfold pending onVolume
    dsimp only
    omega
  constructor
  · intro after
    refine ⟨(single_concat_iff audio.listened).mp after.single, ?_⟩
    intro disposed last
    have silent := (after.rest disposed (by omega)).2
    exact List.concat_ne_nil audio.listened audio.live silent
  · rintro ⟨none, more⟩
    refine ⟨(single_concat_iff audio.listened).mpr none, controlled.quiet, ?_⟩
    intro disposed last
    have := more disposed
    omega

theorem Controlled.onStopped_iff (controlled : Controlled audio) :
    Controlled audio.onStopped ↔ audio.mounted = true := by
  unfold AudioState.onStopped
  cases mounted : audio.mounted with
  | false =>
    refine iff_of_false ?_ Bool.false_ne_true
    intro after
    have quiet := after.quiet
    rw [setState_of_disposed rfl] at quiet
    cases quiet
  | true =>
    refine iff_of_true ?_ rfl
    rw [setState_of_mounted rfl]
    refine controlled_of_mounted rfl ?_ controlled.quiet
    rw [controlled.single.cancel_eq_nil]
    exact single_nil none

theorem Controlled.deliver_cases (controlled : Controlled audio) (position : Bool) :
    (audio.live = [] ∧ audio.deliver position = audio) ∨
      (audio.live ≠ [] ∧ audio.deliver position = audio.onPlayerStateChanged position) := by
  unfold deliver
  rcases controlled.single.cases with none | ⟨handle, one, _⟩
  · left
    rw [none]
    exact ⟨rfl, rfl⟩
  · right
    rw [one]
    exact ⟨List.cons_ne_nil _ _, rfl⟩

theorem onPlayerStateChanged_of_disposed (disposed : audio.mounted = false) (position : Bool) :
    audio.onPlayerStateChanged position = { audio with late := true } := by
  unfold onPlayerStateChanged
  rw [setState_of_disposed disposed, setState_of_disposed disposed, disposed,
    if_neg Bool.false_ne_true, ite_self]

theorem Controlled.onPlayerStateChanged_iff (controlled : Controlled audio) (position : Bool) :
    Controlled (audio.onPlayerStateChanged position) ↔ audio.mounted = true := by
  cases mounted : audio.mounted with
  | false =>
    refine iff_of_false ?_ Bool.false_ne_true
    intro after
    rw [onPlayerStateChanged_of_disposed mounted] at after
    cases after.quiet
  | true =>
    refine iff_of_true ?_ rfl
    unfold onPlayerStateChanged
    rw [setState_of_mounted mounted, setState_of_mounted mounted, if_pos mounted]
    split
    · exact controlled_of_mounted mounted controlled.single controlled.quiet
    · exact controlled_of_mounted mounted controlled.single controlled.quiet

theorem Controlled.deliver_iff (controlled : Controlled audio) (position : Bool) :
    Controlled (audio.deliver position) ↔ (audio.live ≠ [] → audio.mounted = true) := by
  rcases controlled.deliver_cases position with ⟨none, same⟩ | ⟨heard, event⟩
  · rw [same]
    exact iff_of_true controlled fun heard => absurd none heard
  · rw [event, controlled.onPlayerStateChanged_iff]
    exact ⟨fun mounted _ => mounted, fun inTime => inTime heard⟩

theorem Controlled.ended (controlled : Controlled audio) (closed : Bool) :
    Controlled { audio with
      playing := false
      live := if closed = true then [] else audio.live } := by
  cases closed with
  | false =>
    refine ⟨controlled.single, controlled.quiet, ?_⟩
    intro disposed none
    exact ⟨rfl, (controlled.rest disposed none).2⟩
  | true =>
    refine ⟨single_nil _, controlled.quiet, ?_⟩
    intro _ _
    exact ⟨rfl, rfl⟩

theorem Controlled.onEnded_iff (controlled : Controlled audio) (closed : Bool) :
    Controlled (audio.onEnded closed) ↔ (audio.live ≠ [] → audio.mounted = true) := by
  constructor
  · intro after heard
    rcases controlled.deliver_cases false with ⟨none, _⟩ | ⟨_, event⟩
    · exact absurd none heard
    · cases mounted : audio.mounted with
      | true => rfl
      | false =>
        -- the end has no more than the event to be heard
        have quiet : (audio.deliver false).late = false := after.quiet
        rw [event, onPlayerStateChanged_of_disposed mounted] at quiet
        cases quiet
  · intro inTime
    exact ((controlled.deliver_iff false).mpr inTime).ended closed

theorem Controlled.dispose_iff (controlled : Controlled audio) :
    Controlled audio.dispose ↔ (audio.pending = 0 → audio.playing = false) := by
  have silent : audio.dispose.live = [] := controlled.single.cancel_eq_nil
  constructor
  · intro after none
    exact (after.rest rfl none).1
  · intro stopped
    refine ⟨?_, controlled.quiet, ?_⟩
    · rw [silent]
      exact single_nil _
    · intro _ none
      exact ⟨stopped none, silent⟩

theorem Controlled.onPressed (controlled : Controlled audio) (mounted : audio.mounted = true) :
    Controlled audio.onPressed := by
  unfold AudioState.onPressed
  split
  · exact controlled_of_mounted mounted controlled.single controlled.quiet
  · exact controlled_of_mounted mounted controlled.single controlled.quiet

theorem Controlled.startPlayer_iff (controlled : Controlled audio) {ok : Bool}
    (taken : step audio (.startPlayer ok) = some next) :
    Controlled next ↔ audio.InTime (.startPlayer ok) := by
  cases ok with
  | true =>
    obtain ⟨_, same⟩ := Option.ite_none_right_eq_some.mp taken
    cases same
    exact iff_of_true controlled.onStarted trivial
  | false =>
    obtain ⟨inFlight, same⟩ := Option.ite_none_right_eq_some.mp taken
    cases same
    refine controlled.throws_iff rfl rfl rfl rfl rfl ?_
    unfold pending
    dsimp only
    omega

theorem Controlled.setVolume_iff (controlled : Controlled audio) {ok : Bool}
    (taken : step audio (.setVolume ok) = some next) :
    Controlled next ↔ audio.InTime (.setVolume ok) := by
  cases ok with
  | true =>
    obtain ⟨inFlight, same⟩ := Option.ite_none_right_eq_some.mp taken
    cases same
    exact controlled.onVolume_iff inFlight
  | false =>
    obtain ⟨inFlight, same⟩ := Option.ite_none_right_eq_some.mp taken
    cases same
    refine controlled.throws_iff rfl rfl rfl rfl rfl ?_
    unfold pending
    dsimp only
    omega

theorem Controlled.stopPlayer_iff (controlled : Controlled audio) {ok : Bool}
    (taken : step audio (.stopPlayer ok) = some next) :
    Controlled next ↔ audio.InTime (.stopPlayer ok) := by
  cases ok with
  | true =>
    obtain ⟨_, same⟩ := Option.ite_none_right_eq_some.mp taken
    cases same
    exact controlled.onStopped_iff
  | false =>
    obtain ⟨inFlight, same⟩ := Option.ite_none_right_eq_some.mp taken
    cases same
    refine controlled.throws_iff rfl rfl rfl rfl rfl ?_
    unfold pending
    dsimp only
    omega

theorem Controlled.step_iff (controlled : Controlled audio)
    (taken : step audio action = some next) : Controlled next ↔ audio.InTime action := by
  cases action with
  | tap =>
    obtain ⟨mounted, same⟩ := Option.ite_none_right_eq_some.mp taken
    cases same
    exact iff_of_true (controlled.onPressed mounted) trivial
  | rebuild =>
    obtain ⟨mounted, same⟩ := Option.ite_none_right_eq_some.mp taken
    cases same
    exact iff_of_true (controlled_of_mounted mounted controlled.single controlled.quiet) trivial
  | startPlayer ok => exact controlled.startPlayer_iff taken
  | setVolume ok => exact controlled.setVolume_iff taken
  | stopPlayer ok => exact controlled.stopPlayer_iff taken
  | position =>
    cases taken
    exact controlled.deliver_iff true
  | ended closed =>
    cases taken
    exact controlled.onEnded_iff closed
  | dispose =>
    obtain ⟨_, same⟩ := Option.ite_none_right_eq_some.mp taken
    cases same
    exact controlled.dispose_iff

theorem controlled_initial : Controlled {} :=
  controlled_of_mounted rfl (single_nil none) rfl

end AudioState

open AudioState

/-- A card has control of its player in every state of a run exactly when every call returns,
every event comes and `dispose` is called in time. -/
theorem controlled_always_iff {actions : List AudioAction} {final : AudioState}
    (reached : run step {} actions = some final) :
    Always step Controlled {} actions ↔ Meets step InTime {} actions :=
  always_iff_meets (fun _ => True) (fun _ _ _ _ _ => trivial)
    (fun _ _ _ _ controlled taken => controlled.step_iff taken)
    trivial controlled_initial reached

def playedTwice : List AudioAction :=
  [.tap, .startPlayer true, .setVolume true, .position, .rebuild, .tap, .stopPlayer true, .rebuild,
    .tap, .startPlayer true, .setVolume true, .position, .ended true, .stopPlayer true, .rebuild,
    .dispose]

theorem playedTwice_controlled : Always step Controlled {} playedTwice := by
  have found : (run step {} playedTwice).any (fun _ => true) = true := by decide
  obtain ⟨final, reached, _⟩ := exists_of_run found
  exact (controlled_always_iff reached).mpr (by decide)

/-- The card is left while its message plays, or its button is tapped again before the first
event. -/
theorem playback_uncontrolled :
    (∃ final, run step {} [.tap, .startPlayer true, .setVolume true, .position, .dispose] =
        some final ∧ final.mounted = false ∧ final.pending = 0 ∧ final.playing = true ∧
        ¬ Controlled final) ∧
      ∃ final, run step {} [.tap, .tap, .startPlayer true, .setVolume true, .startPlayer true,
        .setVolume true] = some final ∧ final.live = [0, 1] ∧
        final.playerSubscription = some 1 ∧ ¬ Controlled final := by
  refine ⟨⟨_, rfl, rfl, rfl, rfl, fun controlled => ?_⟩, _, rfl, rfl, rfl, fun controlled => ?_⟩
  · cases (controlled.rest rfl rfl).1
  · have one : 2 ≤ 1 := controlled.single.one
    omega

end SparSomnong.Chat
