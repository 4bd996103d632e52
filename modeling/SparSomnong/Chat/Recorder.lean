import SparSomnong.Chat.Sending
import SparSomnong.Semantics.Run

/-! Voice recordings of the chat widget, from the microphone to the message.

Cancel and send are one call of `stopRecorder`, and the field `_path` is set only
when a start completes. Recordings are numbered by the order in which they are
ended, so the calls of `stopRecorder` are the recordings ended.
-/

set_option autoImplicit false

namespace SparSomnong.Chat

open Semantics

/-- What a call of `stopRecorder` awaits, or what has come of it. The file of a
recording is known by the recording that was made into it last. -/
inductive Place where
  | stopping
  | reading (path : String)
  | uploading (file : Nat)
  | written (file : Nat) (writes : List Write)
  | skipped
  deriving DecidableEq, Repr

def Place.done : Place → Bool
  | .written _ _ | .skipped => true
  | .stopping | .reading _ | .uploading _ => false

/-- The first field is history: which button was pressed. -/
structure Stop where
  send : Bool
  place : Place
  deriving DecidableEq, Repr

def Stop.file (stop : Stop) : Option Nat :=
  match stop.place with
  | .uploading file | .written file _ => some file
  | .stopping | .reading _ | .skipped => none

def Stop.path (stop : Stop) : Option String :=
  match stop.place with
  | .reading path => some path
  | .stopping | .uploading _ | .written _ _ | .skipped => none

structure Recorder where
  isRecording : Bool := false
  path : Option String := none
  /-- Calls of `startRecorder` in flight. -/
  starts : List Nat := []
  stops : List Stop := []
  /-- The files of the device, with the recording made last into each of them. -/
  files : List (String × Nat) := []
  deriving DecidableEq, Repr

inductive RecorderAction where
  | microphone
  | cancel
  | send
  | started (index : Nat) (path : String)
  | stopped (recording : Nat)
  | read (recording : Nat)
  | uploaded (recording : Nat) (statusCode : Nat) (file : Option String) (now : Int)
      (newKey : String)
  deriving DecidableEq, Repr

namespace Recorder

def stopRecorder (recorder : Recorder) (send : Bool) : Recorder :=
  { recorder with
    isRecording := false
    stops := recorder.stops ++ [⟨send, .stopping⟩] }

def proceed (recorder : Recorder) (recording : Nat) (stop : Stop) (place : Place) : Recorder :=
  { recorder with stops := recorder.stops.set recording { stop with place } }

def step (chatKey : Option String) (userId : Int) (recorder : Recorder) :
    RecorderAction → Option Recorder
  -- uploads succeed
  | .microphone =>
    if recorder.isRecording then none
    else some { recorder with
      isRecording := true
      starts := recorder.starts ++ [recorder.stops.length] }
  | .cancel => if recorder.isRecording then some (recorder.stopRecorder false) else none
  | .send => if recorder.isRecording then some (recorder.stopRecorder true) else none
  | .started index path =>
    match recorder.starts[index]? with
    | some recording => some { recorder with
        path := some path
        starts := recorder.starts.eraseIdx index
        files := (path, recording) :: recorder.files }
    | none => none
  | .stopped recording =>
    match recorder.stops[recording]? with
    | some stop =>
      if stop.place = .stopping then
        match recorder.path with
        | some path => some (recorder.proceed recording stop (.reading path))
        | none => some (recorder.proceed recording stop .skipped)
      else none
    | none => none
  | .read recording =>
    match recorder.stops[recording]? with
    | some stop =>
      match stop.place with
      | .reading path =>
        match recorder.files.lookup path with
        | some file => some (recorder.proceed recording stop (.uploading file))
        -- the exception is caught
        | none => some (recorder.proceed recording stop .skipped)
      | _ => none
    | none => none
  | .uploaded recording statusCode name now newKey =>
    match recorder.stops[recording]? with
    | some stop =>
      match stop.place with
      | .uploading file =>
        let outcome := .replied statusCode ⟨some "success", some ⟨name⟩⟩
        some (recorder.proceed recording stop
          (.written file (Chat.stopRecorder chatKey userId now newKey outcome)))
      | _ => none
    | none => none

def Settled (recorder : Recorder) : Prop := ∀ stop ∈ recorder.stops, stop.place.done = true

instance (recorder : Recorder) : Decidable recorder.Settled :=
  inferInstanceAs (Decidable (∀ stop ∈ recorder.stops, _))

def IsVoice (chatKey : Option String) (userId : Int) (writes : List Write) : Prop :=
  ∃ file now newKey, writes = sendMessage chatKey file 3 userId now newKey

/-- One message for each recording ended with send, of the file of that recording,
and nothing for the others. -/
structure Delivered (chatKey : Option String) (userId : Int) (recorder : Recorder) : Prop where
  sent : ∀ recording : Nat, ∀ stop ∈ recorder.stops[recording]?, stop.send = true →
    ∃ writes, stop.place = .written recording writes ∧ IsVoice chatKey userId writes
  cancelled : ∀ recording : Nat, ∀ stop ∈ recorder.stops[recording]?, stop.send = false →
    stop.place = .skipped
  once : ∀ first : Nat, ∀ stop ∈ recorder.stops[first]?,
    ∀ second : Nat, ∀ other ∈ recorder.stops[second]?,
      ∀ file ∈ stop.file, other.file = some file → first = second

/-- When a recorder stops, a recorder has been started if and only if send was pressed.
When a file is read, it holds the recording it is read for. -/
def Own (recorder : Recorder) : RecorderAction → Prop
  | .stopped recording => ∀ stop ∈ recorder.stops[recording]?,
    (stop.send = true ↔ recorder.path.isSome = true)
  | .read recording => ∀ stop ∈ recorder.stops[recording]?,
    ∀ path ∈ stop.path, recorder.files.lookup path = some recording
  | _ => True

instance (recorder : Recorder) : (action : RecorderAction) → Decidable (recorder.Own action)
  | .stopped recording => inferInstanceAs (Decidable (∀ stop ∈ recorder.stops[recording]?, _))
  | .read recording => inferInstanceAs (Decidable (∀ stop ∈ recorder.stops[recording]?, _))
  | .microphone | .cancel | .send | .started _ _ | .uploaded _ _ _ _ _ => isTrue trivial

structure Held (chatKey : Option String) (userId : Int) (recorder : Recorder) : Prop where
  path : ∀ path ∈ recorder.path, (recorder.files.lookup path).isSome
  reading : ∀ stop ∈ recorder.stops, ∀ path, stop.place = .reading path →
    (recorder.files.lookup path).isSome
  written : ∀ stop ∈ recorder.stops, ∀ file writes, stop.place = .written file writes →
    IsVoice chatKey userId writes

inductive Went (chatKey : Option String) (userId : Int) (recorder : Recorder) :
    RecorderAction → Recorder → Prop where
  | microphone : Went chatKey userId recorder .microphone { recorder with
      isRecording := true
      starts := recorder.starts ++ [recorder.stops.length] }
  | cancel : Went chatKey userId recorder .cancel (recorder.stopRecorder false)
  | send : Went chatKey userId recorder .send (recorder.stopRecorder true)
  | started (index recording : Nat) (path : String) :
      Went chatKey userId recorder (.started index path) { recorder with
        path := some path
        starts := recorder.starts.eraseIdx index
        files := (path, recording) :: recorder.files }
  | stopped {recording : Nat} {stop : Stop} {path : String}
      (found : recorder.stops[recording]? = some stop) (stopping : stop.place = .stopping)
      (set : recorder.path = some path) :
      Went chatKey userId recorder (.stopped recording)
        (recorder.proceed recording stop (.reading path))
  | skipped {recording : Nat} {stop : Stop} (found : recorder.stops[recording]? = some stop)
      (stopping : stop.place = .stopping) (unset : recorder.path = none) :
      Went chatKey userId recorder (.stopped recording)
        (recorder.proceed recording stop .skipped)
  | read {recording file : Nat} {stop : Stop} {path : String}
      (found : recorder.stops[recording]? = some stop) (reading : stop.place = .reading path)
      (there : recorder.files.lookup path = some file) :
      Went chatKey userId recorder (.read recording)
        (recorder.proceed recording stop (.uploading file))
  | unread {recording : Nat} {stop : Stop} {path : String}
      (found : recorder.stops[recording]? = some stop) (reading : stop.place = .reading path)
      (absent : recorder.files.lookup path = none) :
      Went chatKey userId recorder (.read recording) (recorder.proceed recording stop .skipped)
  | uploaded {recording file : Nat} {stop : Stop} {statusCode : Nat} {name : Option String}
      {now : Int} {newKey : String} {writes : List Write}
      (found : recorder.stops[recording]? = some stop) (uploading : stop.place = .uploading file)
      (voice : IsVoice chatKey userId writes) :
      Went chatKey userId recorder (.uploaded recording statusCode name now newKey)
        (recorder.proceed recording stop (.written file writes))

section
variable {chatKey : Option String} {userId : Int} {recorder next : Recorder}
variable {action : RecorderAction} {recording : Nat} {stop : Stop} {place : Place}

theorem went_of_step (taken : recorder.step chatKey userId action = some next) :
    Went chatKey userId recorder action next := by
  cases action with
  | microphone =>
    simp only [step] at taken
    split at taken
    · cases taken
    · cases taken
      exact .microphone
  | cancel =>
    simp only [step] at taken
    split at taken
    · cases taken
      exact .cancel
    · cases taken
  | send =>
    simp only [step] at taken
    split at taken
    · cases taken
      exact .send
    · cases taken
  | started index path =>
    simp only [step] at taken
    split at taken
    · next recording _ =>
      cases taken
      exact .started index recording path
    · cases taken
  | stopped recording =>
    simp only [step] at taken
    split at taken
    · next stop found =>
      split at taken
      · next stopping =>
        split at taken
        · next path set =>
          cases taken
          exact .stopped found stopping set
        · next unset =>
          cases taken
          exact .skipped found stopping unset
      · cases taken
    · cases taken
  | read recording =>
    simp only [step] at taken
    split at taken
    · next stop found =>
      split at taken
      · next path reading =>
        split at taken
        · next file there =>
          cases taken
          exact .read found reading there
        · next absent =>
          cases taken
          exact .unread found reading absent
      · cases taken
    · cases taken
  | uploaded recording statusCode name now newKey =>
    simp only [step] at taken
    split at taken
    · next stop found =>
      split at taken
      · next file uploading =>
        cases taken
        exact .uploaded found uploading ⟨name, now, newKey, rfl⟩
      · cases taken
    · cases taken

theorem isSome_lookup_cons {path other : String} {files : List (String × Nat)} {file : Nat}
    (known : (files.lookup path).isSome) : (List.lookup path ((other, file) :: files)).isSome := by
  rw [List.lookup_cons]
  split
  · rfl
  · exact known

theorem Held.stopRecorder (held : Held chatKey userId recorder) (send : Bool) :
    Held chatKey userId (recorder.stopRecorder send) := by
  refine ⟨held.path, ?_, ?_⟩
  · intro stop member
    rcases List.mem_append.mp member with old | new
    · exact held.reading stop old
    · rw [List.mem_singleton.mp new]
      intro path reading
      cases reading
  · intro stop member
    rcases List.mem_append.mp member with old | new
    · exact held.written stop old
    · rw [List.mem_singleton.mp new]
      intro file writes written
      cases written

theorem Held.proceed (held : Held chatKey userId recorder)
    (reading : ∀ path, place = .reading path → (recorder.files.lookup path).isSome)
    (written : ∀ file writes, place = .written file writes → IsVoice chatKey userId writes) :
    Held chatKey userId (recorder.proceed recording stop place) := by
  refine ⟨held.path, ?_, ?_⟩
  · intro other member
    rcases List.mem_or_eq_of_mem_set member with old | rfl
    · exact held.reading other old
    · exact reading
  · intro other member
    rcases List.mem_or_eq_of_mem_set member with old | rfl
    · exact held.written other old
    · exact written

theorem Held.went (held : Held chatKey userId recorder)
    (went : Went chatKey userId recorder action next) : Held chatKey userId next := by
  cases went with
  | microphone => exact ⟨held.path, held.reading, held.written⟩
  | cancel => exact held.stopRecorder false
  | send => exact held.stopRecorder true
  | started index recording path =>
    refine ⟨?_, ?_, held.written⟩
    · rintro _ ⟨⟩
      simp
    · intro stop member other reading
      exact isSome_lookup_cons (held.reading stop member other reading)
  | stopped found stopping set =>
    refine held.proceed ?_ (fun _ _ same => nomatch same)
    rintro _ ⟨⟩
    exact held.path _ set
  | skipped => exact held.proceed (fun _ same => nomatch same) (fun _ _ same => nomatch same)
  | read => exact held.proceed (fun _ same => nomatch same) (fun _ _ same => nomatch same)
  | unread => exact held.proceed (fun _ same => nomatch same) (fun _ _ same => nomatch same)
  | uploaded found uploading voice =>
    refine held.proceed (fun _ same => nomatch same) ?_
    rintro _ _ ⟨⟩
    exact voice

end

end Recorder

end SparSomnong.Chat
