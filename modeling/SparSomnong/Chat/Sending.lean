import SparSomnong.Chat.Database

/-! The four send paths: text, gallery, camera and voice.

Each path ends in the same three writes, in the same order: the message under
a new push key, the summary `lastMessage`, and `lastTimeStamp`. The paths that
upload a file write what the upload service answered, never the local path.
-/

set_option autoImplicit false

namespace SparSomnong.Chat

def sendMessage (chatKey : Option String) (data : Option String) (type : Int) (userId : Int)
    (now : Int) (newKey : String) : List Write :=
  [⟨chatKey, .message newKey ⟨data, now, type⟩ userId⟩,
   ⟨chatKey, .lastMessage ⟨data, newKey, type⟩⟩,
   ⟨chatKey, .lastTimeStamp now⟩]

def sendToRealTimeChat (chatKey : Option String) (text : String) (userId : Int) (now : Int)
    (newKey : String) : List Write :=
  sendMessage chatKey (some text) 1 userId now newKey

structure File where
  file : Option String
  deriving DecidableEq, Repr

structure FileResponse where
  message : Option String
  data : Option File
  deriving DecidableEq, Repr

def uploadFileService (statusCode : Nat) (fileResponse : FileResponse) :
    Except Nat (Option FileResponse) :=
  -- a success is returned whatever the status; otherwise 401 returns null and every other
  -- status throws
  if fileResponse.message = some "success" then .ok (some fileResponse)
  else if statusCode = 401 then .ok none
  else .error statusCode

/-- How a picture or a recording comes back from what it awaits. -/
inductive UploadOutcome where
  | abandoned
  | replied (statusCode : Nat) (response : FileResponse)
  deriving DecidableEq, Repr

def finishUpload (type : Int) (chatKey : Option String) (userId : Int) (now : Int)
    (newKey : String) : UploadOutcome → List Write
  -- no picture, a failed upload, and a reply without data (the access to its file throws)
  -- write nothing
  | .abandoned => []
  | .replied statusCode fileResponse =>
    match uploadFileService statusCode fileResponse with
    | .ok (some response) =>
      if response.message = some "success" then
        match response.data with
        | some file => sendMessage chatKey file.file type userId now newKey
        | none => []
      else []
    | .ok none => []
    | .error _ => []

def openGallery := finishUpload 2

def openCamera := finishUpload 2

def stopRecorder := finishUpload 3

inductive Source where
  | gallery
  | camera
  | voice
  deriving DecidableEq, Repr

def Source.finish : Source → Option String → Int → Int → String → UploadOutcome → List Write
  | .gallery => openGallery
  | .camera => openCamera
  | .voice => stopRecorder

theorem finishUpload_cases (type : Int) (chatKey : Option String) (userId now : Int)
    (newKey : String) (outcome : UploadOutcome) :
    finishUpload type chatKey userId now newKey outcome = [] ∨
      ∃ data, finishUpload type chatKey userId now newKey outcome =
        sendMessage chatKey data type userId now newKey := by
  cases outcome with
  | abandoned => exact Or.inl rfl
  | replied statusCode fileResponse =>
    simp only [finishUpload]
    split
    · split
      · split
        · next file _ => exact Or.inr ⟨file.file, rfl⟩
        · exact Or.inl rfl
      · exact Or.inl rfl
    · exact Or.inl rfl
    · exact Or.inl rfl

theorem Source.finish_cases (source : Source) (chatKey : Option String) (userId now : Int)
    (newKey : String) (outcome : UploadOutcome) :
    source.finish chatKey userId now newKey outcome = [] ∨
      ∃ data type, source.finish chatKey userId now newKey outcome =
        sendMessage chatKey data type userId now newKey := by
  have cases : ∀ type, finishUpload type chatKey userId now newKey outcome = [] ∨
      ∃ data kind, finishUpload type chatKey userId now newKey outcome =
        sendMessage chatKey data kind userId now newKey := fun type =>
    (finishUpload_cases type chatKey userId now newKey outcome).imp_right
      fun ⟨data, same⟩ => ⟨data, type, same⟩
  cases source with
  | gallery => exact cases 2
  | camera => exact cases 2
  | voice => exact cases 3

theorem chatKey_of_mem_sendMessage {chatKey data : Option String} {type userId now : Int}
    {newKey : String} {write : Write}
    (member : write ∈ sendMessage chatKey data type userId now newKey) :
    write.chatKey = chatKey := by
  simp only [sendMessage, List.mem_cons, List.not_mem_nil, or_false] at member
  rcases member with rfl | rfl | rfl <;> rfl

theorem Source.chatKey_of_mem_finish {source : Source} {chatKey : Option String}
    {userId now : Int} {newKey : String} {outcome : UploadOutcome} {write : Write}
    (member : write ∈ source.finish chatKey userId now newKey outcome) :
    write.chatKey = chatKey := by
  rcases source.finish_cases chatKey userId now newKey outcome with none | ⟨data, type, some⟩
  · rw [none] at member
    cases member
  · rw [some] at member
    exact chatKey_of_mem_sendMessage member

end SparSomnong.Chat
