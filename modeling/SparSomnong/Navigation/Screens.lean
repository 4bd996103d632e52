import SparSomnong.Chat.Room

/-! Product screens, the message screen, and the one key stream between them.

A screen below the top of the stack stays mounted and keeps its ChatWidget. All
mounted ChatWidgets listen to the `chatKeyStream` of the ChatProvider, which
replays its latest value to a new listener. A disposed widget is no listener
any more, but what it awaits still comes back.
-/

set_option autoImplicit false

namespace SparSomnong.Navigation

open Semantics Chat

structure LastChat where
  chat_key : Option String
  deriving DecidableEq, Repr

structure LastChatResponse where
  data : Option LastChat
  deriving DecidableEq, Repr

def decodeChat (statusCode : Nat) (response : LastChatResponse) :
    Except Nat (Option LastChatResponse) :=
  -- null on 401, an exception on every other status than 200
  if statusCode = 200 then .ok (some response)
  else if statusCode = 401 then .ok none
  else .error statusCode

def getChatProductDetail := decodeChat

def createChatProduct := decodeChat

inductive Call where
  | getChatProductDetail
  | createChatProduct
  deriving DecidableEq, Repr

def Call.reply : Call → Nat → LastChatResponse → Except Nat (Option LastChatResponse)
  | .getChatProductDetail => Navigation.getChatProductDetail
  | .createChatProduct => Navigation.createChatProduct

/-- A suspended handler of a ProductDetailScreen. -/
structure Request where
  call : Call
  screen : Nat
  product : Int
  deriving DecidableEq, Repr

/-- A mounted screen: a ProductDetailScreen for a product, or the MessageScreen. -/
structure Screen where
  id : Nat
  product : Option Int
  loaded : Bool := false
  isChatted : Bool := false
  showLoading : Bool := false
  chat : Option ChatWidgetState := none

/-- The screens are listed from the top of the stack down. `gone` are the disposed
ChatWidgets. `returned` and `served` are history: the keys the server returned
for products, and all keys it has served. -/
structure App where
  db : Database
  user : Option Int
  chatKeyStream : BehaviorSubject (Option String)
  numberOfChat : Nat
  chats : List ChatResponse
  screens : List Screen
  nextScreen : Nat
  requests : List Request
  gone : List ChatWidgetState
  writes : List Write
  returned : List (Int × Option String)
  served : List String

inductive AppAction where
  | append (chat : String) (message : Messages)
  | quote (chat : String) (message : Messages)
  | setUser (user : Option Int)
  | openProduct (product : Int)
  | openMessages
  | back
  | detailLoaded (index : Nat)
  | createChat
  | reply (index : Nat) (statusCode : Nat) (response : LastChatResponse)
  | frame (index : Nat)
  | numberOfChat (count : Nat)
  | chatSnapshot (keys : List String)
  | tap (index : Nat)
  | widget (index : Nat) (action : WidgetAction)
  | gone (index : Nat) (action : WidgetAction)
  deriving DecidableEq, Repr

namespace App

def start (db : Database) (user : Option Int) : App :=
  ⟨db, user, {}, 0, [], [], 0, [], [], [], [], []⟩

/-- `chatKeyStream.add`: every mounted ChatWidget is told. -/
def push (app : App) (value : Option String) : App :=
  match app.chatKeyStream.add value with
  | some stream => { app with
      chatKeyStream := stream
      screens := app.screens.map fun screen =>
        { screen with chat := screen.chat.map (ChatWidgetState.onChatKey app.user value) } }
  | none => app

def setState (app : App) (id : Nat) (change : Screen → Screen) : App :=
  { app with screens := app.screens.map fun screen =>
      if screen.id = id then change screen else screen }

def initState (app : App) (product : Int) : App :=
  -- without a user, `user.token` throws before the request
  { app with
    screens := { id := app.nextScreen, product := some product } :: app.screens
    nextScreen := app.nextScreen + 1
    requests := match app.user with
      | some _ => app.requests ++ [⟨.getChatProductDetail, app.nextScreen, product⟩]
      | none => app.requests }

def initStateReplied (app : App) (request : Request) : Option LastChatResponse → App
  -- null is added where the product has no chat
  | some ⟨some data⟩ =>
    (app.setState request.screen fun screen => { screen with isChatted := true }).push
      data.chat_key
  | _ => app.push none

def createChat (app : App) (screen : Screen) (product : Int) : App :=
  -- without a user the login screen is opened instead
  match app.user with
  | some _ =>
    let loading := app.setState screen.id fun screen => { screen with showLoading := true }
    { loading with requests := app.requests ++ [⟨.createChatProduct, screen.id, product⟩] }
  | none => app.setState screen.id fun screen => { screen with showLoading := false }

def createChatReplied (app : App) (request : Request) : Option LastChatResponse → App
  -- a reply without data throws once `isChatted` is set
  | some response =>
    let chatted := app.setState request.screen fun screen =>
      { screen with showLoading := false, isChatted := true }
    match response.data with
    | some data => chatted.push data.chat_key
    -- `createChatResponse.data.chat_key`
    | none => chatted
  | none => app

def replied (app : App) (request : Request) (response : Option LastChatResponse) : App :=
  match request.call with
  | .getChatProductDetail => app.initStateReplied request response
  | .createChatProduct => app.createChatReplied request response

def hear (app : App) (request : Request) (response : Option LastChatResponse) : App :=
  match response with
  | some ⟨some data⟩ => { app with
      returned := app.returned ++ [(request.product, data.chat_key)]
      served := app.served ++ data.chat_key.toList }
  | _ => app

def buildsChat (app : App) (screen : Screen) : Bool :=
  match screen.product with
  | some _ => screen.loaded && screen.isChatted
  | none => decide (0 < app.numberOfChat)

def subscribed (app : App) : ChatWidgetState :=
  -- the stream replays its latest value
  match app.chatKeyStream.value with
  | some value => ChatWidgetState.onChatKey app.user value {}
  | none => {}

/-- The ChatWidget of a MessageScreen without chats is taken out of the tree. -/
def closeMessages (app : App) : App :=
  { app with
    screens := app.screens.map fun screen =>
      if screen.product = none then { screen with chat := none } else screen
    gone := app.gone ++ app.screens.filterMap fun screen =>
      if screen.product = none then screen.chat.map ChatWidgetState.dispose else none }

def step (app : App) : AppAction → Option App
  | .append chat message =>
    if app.db.Newest chat message then
      some { app with
        db := app.db.append chat message
        screens := app.screens.map fun screen =>
          { screen with chat := screen.chat.map (ChatWidgetState.onStored chat message) }
        gone := app.gone.map (ChatWidgetState.onStored chat message) }
    else none
  | .quote chat message =>
    if message ∈ (app.db chat).stored then some { app with db := app.db.quote chat message }
    else none
  | .setUser user => some { app with user }
  | .openProduct product => some (app.initState product)
  | .openMessages =>
    match app.user with
    | some _ => some { app with
        screens := { id := app.nextScreen, product := none } :: app.screens
        nextScreen := app.nextScreen + 1 }
    | none => none
  | .back =>
    match app.screens with
    | top :: rest => some { app with
        screens := rest
        gone := app.gone ++ (top.chat.map ChatWidgetState.dispose).toList }
    | [] => none
  | .detailLoaded index =>
    match app.screens[index]? with
    | some screen =>
      some (app.setState screen.id fun screen => { screen with loaded := true })
    | none => none
  | .createChat =>
    match app.screens with
    | screen :: _ =>
      match screen.product with
      | some product =>
        -- the button stands where the ChatWidget is not
        if screen.loaded && !screen.isChatted then some (app.createChat screen product) else none
      | none => none
    | [] => none
  | .reply index statusCode response =>
    match app.requests[index]? with
    | some request =>
      let rest := { app with requests := app.requests.eraseIdx index }
      match request.call.reply statusCode response with
      | .ok answer =>
        let heard := rest.hear request answer
        -- `setState` and `context` of an unmounted screen throw
        if app.screens.any fun screen => screen.id = request.screen then
          some (heard.replied request answer)
        else some heard
      | .error _ => some rest
    | none => none
  | .frame index =>
    match app.screens[index]? with
    | some screen =>
      if app.buildsChat screen && screen.chat.isNone then
        some { app with
          screens := app.screens.set index { screen with chat := some app.subscribed } }
      else none
    | none => none
  | .numberOfChat count =>
    let counted := { app with numberOfChat := count }
    some (if count = 0 then counted.closeMessages else counted)
  | .chatSnapshot keys =>
    -- a child of the database has a name
    if ∀ key ∈ keys, key ≠ "" then
      some { app with
        chats := keys.map fun key => ⟨some key, (app.db key).lastMessage⟩
        served := app.served ++ keys }
    else none
  | .tap index =>
    match app.screens with
    | screen :: _ =>
      -- the list of chats is part of the message screen
      if screen.product = none ∧ 0 < app.numberOfChat then
        match app.chats[index]? with
        | some chat =>
          let told := app.push chat.key
          some { told with writes := app.writes ++ chat.onTap app.user }
        | none => none
      else none
    | [] => none
  | .widget index action =>
    match app.screens[index]? with
    | some screen =>
      match screen.chat with
      | some widget =>
        -- the user sees the top of the stack only
        if action.byUser = true → index = 0 then
          match widget.step app.db app.user action with
          | some (next, writes) => some { app with
              screens := app.screens.set index { screen with chat := some next }
              writes := app.writes ++ writes }
          | none => none
        else none
      | none => none
    | none => none
  | .gone index action =>
    match app.gone[index]? with
    | some widget =>
      match widget.step app.db app.user action with
      | some (next, writes) => some { app with
          gone := app.gone.set index next
          writes := app.writes ++ writes }
      | none => none
    | none => none

/-! ## What the handlers change -/

def Flags (change : Screen → Screen) : Prop :=
  ∀ screen, (change screen).product = screen.product ∧ (change screen).chat = screen.chat

def view (app : App) : List (Option Int × Option ChatWidgetState) :=
  app.screens.map fun screen => (screen.product, screen.chat)

theorem view_setState {app : App} {id : Nat} {change : Screen → Screen}
    (keeps : Flags change) : (app.setState id change).view = app.view := by
  simp only [view, setState, List.map_map]
  refine List.map_congr_left fun screen _ => ?_
  simp only [Function.comp]
  split
  · simp [keeps screen]
  · rfl

theorem push_open {app : App} {value : Option String}
    (opened : app.chatKeyStream.closed = false) : app.push value = { app with
      chatKeyStream := ⟨some value, false⟩
      screens := app.screens.map fun screen =>
        { screen with chat := screen.chat.map (ChatWidgetState.onChatKey app.user value) } } := by
  simp [push, BehaviorSubject.add, opened]

end App

/-- The value a reply adds to the stream. -/
def Request.pushes (request : Request) : Option LastChatResponse → Option (Option String)
  | some ⟨some data⟩ => some data.chat_key
  | _ =>
    match request.call with
    | .getChatProductDetail => some none
    | .createChatProduct => none

/-- The key in a reply, with the product it is for. -/
def Request.returns (request : Request) : Option LastChatResponse → List (Int × Option String)
  | some ⟨some data⟩ => [(request.product, data.chat_key)]
  | _ => []

namespace App

theorem hear_returned (app : App) (request : Request) (answer : Option LastChatResponse) :
    (app.hear request answer).returned = app.returned ++ request.returns answer := by
  unfold hear Request.returns
  split
  · rfl
  · exact (List.append_nil _).symm

/-- A reply sets flags of its screen and then adds its value. -/
theorem replied_cases (app : App) (request : Request) (answer : Option LastChatResponse) :
    ∃ change : Screen → Screen, Flags change ∧
      app.replied request answer = match request.pushes answer with
        | some value => (app.setState request.screen change).push value
        | none => app.setState request.screen change := by
  have same : app.setState request.screen id = app := by simp [setState]
  obtain ⟨call, screen, product⟩ := request
  cases call with
  | getChatProductDetail =>
    match answer with
    | some ⟨some data⟩ => exact ⟨fun screen => { screen with isChatted := true }, by simp [Flags], rfl⟩
    | some ⟨none⟩ => exact ⟨id, by simp [Flags], congrArg (App.push · none) same.symm⟩
    | none => exact ⟨id, by simp [Flags], congrArg (App.push · none) same.symm⟩
  | createChatProduct =>
    match answer with
    | some ⟨some data⟩ =>
      exact ⟨fun screen => { screen with showLoading := false, isChatted := true }, by simp [Flags], rfl⟩
    | some ⟨none⟩ =>
      exact ⟨fun screen => { screen with showLoading := false, isChatted := true }, by simp [Flags], rfl⟩
    | none => exact ⟨id, by simp [Flags], same.symm⟩

theorem createChat_frame (app : App) (screen : Screen) (product : Int) :
    ∃ change : Screen → Screen, ∃ requests, Flags change ∧
      app.createChat screen product = { app.setState screen.id change with requests } := by
  unfold createChat
  cases app.user with
  | none => exact ⟨fun screen => { screen with showLoading := false }, app.requests, by simp [Flags], rfl⟩
  | some id => exact ⟨fun screen => { screen with showLoading := true }, _, by simp [Flags], rfl⟩

/-- What an action adds to the stream. -/
def pushes (app : App) : AppAction → Option (Option String)
  | .reply index statusCode response =>
    match app.requests[index]? with
    | some request =>
      match request.call.reply statusCode response with
      | .ok answer =>
        if app.screens.any fun screen => screen.id = request.screen then request.pushes answer
        else none
      | .error _ => none
    | none => none
  | .tap index => (app.chats[index]?).map ChatResponse.key
  | _ => none

/-- The key a reply returns for a product. -/
def returns (app : App) : AppAction → List (Int × Option String)
  | .reply index statusCode response =>
    match app.requests[index]? with
    | some request =>
      match request.call.reply statusCode response with
      | .ok answer => request.returns answer
      | .error _ => []
    | none => []
  | _ => []

/-- What an enabled step does. -/
inductive Went (app : App) : AppAction → App → Prop where
  | append {chat : String} {message : Messages} : app.db.Newest chat message →
      Went app (.append chat message) { app with
        db := app.db.append chat message
        screens := app.screens.map fun screen =>
          { screen with chat := screen.chat.map (ChatWidgetState.onStored chat message) }
        gone := app.gone.map (ChatWidgetState.onStored chat message) }
  | quote {chat : String} {message : Messages} : message ∈ (app.db chat).stored →
      Went app (.quote chat message) { app with db := app.db.quote chat message }
  | setUser {user : Option Int} : Went app (.setUser user) { app with user }
  | opened {action : AppAction} {screen : Screen} {nextScreen : Nat} {requests : List Request} :
      app.pushes action = none → screen.chat = none →
      Went app action { app with screens := screen :: app.screens, nextScreen, requests }
  | back {top : Screen} {rest : List Screen} : app.screens = top :: rest →
      Went app .back { app with
        screens := rest
        gone := app.gone ++ (top.chat.map ChatWidgetState.dispose).toList }
  | flagged {action : AppAction} {id : Nat} {change : Screen → Screen} {requests : List Request} :
      app.pushes action = none → Flags change →
      Went app action { app.setState id change with requests }
  | unanswered {index statusCode : Nat} {response : LastChatResponse} {requests : List Request} :
      app.pushes (.reply index statusCode response) = none →
      Went app (.reply index statusCode response) { app with requests }
  | unheard {index statusCode : Nat} {response : LastChatResponse} {requests : List Request}
      {request : Request} {answer : Option LastChatResponse} :
      app.pushes (.reply index statusCode response) = none →
      Went app (.reply index statusCode response) (App.hear { app with requests } request answer)
  | replied {index statusCode : Nat} {response : LastChatResponse} {requests : List Request}
      {request : Request} {answer : Option LastChatResponse} :
      app.pushes (.reply index statusCode response) = request.pushes answer →
      app.returns (.reply index statusCode response) = request.returns answer →
      Went app (.reply index statusCode response)
        ((App.hear { app with requests } request answer).replied request answer)
  | frame {index : Nat} {screen : Screen} : app.screens[index]? = some screen →
      Went app (.frame index) { app with
        screens := app.screens.set index { screen with chat := some app.subscribed } }
  | counted {count : Nat} : Went app (.numberOfChat count) { app with numberOfChat := count }
  | closed : Went app (.numberOfChat 0) (App.closeMessages { app with numberOfChat := 0 })
  | chatSnapshot {keys : List String} : (∀ key ∈ keys, key ≠ "") →
      Went app (.chatSnapshot keys) { app with
        chats := keys.map fun key => ⟨some key, (app.db key).lastMessage⟩
        served := app.served ++ keys }
  | tap {index : Nat} {chat : ChatResponse} : app.chats[index]? = some chat →
      Went app (.tap index)
        { app.push chat.key with writes := app.writes ++ chat.onTap app.user }
  | widget {index : Nat} {screen : Screen} {widget next : ChatWidgetState}
      {action : WidgetAction} {writes : List Write} :
      app.screens[index]? = some screen → screen.chat = some widget →
      widget.step app.db app.user action = some (next, writes) →
      Went app (.widget index action) { app with
        screens := app.screens.set index { screen with chat := some next }
        writes := app.writes ++ writes }
  | gone {index : Nat} {widget next : ChatWidgetState} {action : WidgetAction}
      {writes : List Write} :
      app.gone[index]? = some widget →
      widget.step app.db app.user action = some (next, writes) →
      Went app (.gone index action) { app with
        gone := app.gone.set index next
        writes := app.writes ++ writes }

theorem went_of_reply {app next : App} {index : Nat} {statusCode : Nat} {response : LastChatResponse}
    (taken : app.step (.reply index statusCode response) = some next) :
    Went app (.reply index statusCode response) next := by
  simp only [step] at taken
  split at taken
  · next request found =>
    split at taken
    · next answer decoded =>
      split at taken
      · next mounted =>
        cases taken
        refine .replied ?_ ?_
        · simp only [pushes, found, decoded]
          rw [if_pos mounted]
        · simp only [returns, found, decoded]
      · next unmounted =>
        cases taken
        refine .unheard ?_
        simp only [pushes, found, decoded]
        rw [if_neg unmounted]
    · next thrown =>
      cases taken
      refine .unanswered ?_
      simp only [pushes, found, thrown]
  · cases taken

theorem went_of_step {app next : App} {action : AppAction}
    (taken : app.step action = some next) : Went app action next := by
  cases action with
  | append chat message =>
    simp only [step] at taken
    split at taken
    · next newest =>
      cases taken
      exact .append newest
    · cases taken
  | quote chat message =>
    simp only [step] at taken
    split at taken
    · next member =>
      cases taken
      exact .quote member
    · cases taken
  | setUser user =>
    cases taken
    exact .setUser
  | openProduct product =>
    cases taken
    exact .opened rfl rfl
  | openMessages =>
    simp only [step] at taken
    split at taken <;> cases taken
    exact .opened rfl rfl
  | back =>
    simp only [step] at taken
    split at taken
    · next top rest stack =>
      cases taken
      exact .back stack
    · cases taken
  | detailLoaded index =>
    simp only [step] at taken
    split at taken <;> cases taken
    exact .flagged rfl fun _ => ⟨rfl, rfl⟩
  | createChat =>
    simp only [step] at taken
    split at taken
    · next screen rest stack =>
      split at taken
      · next product _ =>
        split at taken <;> cases taken
        obtain ⟨change, requests, keeps, same⟩ := app.createChat_frame screen product
        rw [same]
        exact .flagged rfl keeps
      · cases taken
    · cases taken
  | reply index statusCode response => exact went_of_reply taken
  | frame index =>
    simp only [step] at taken
    split at taken
    · next screen found =>
      split at taken <;> cases taken
      exact .frame found
    · cases taken
  | numberOfChat count =>
    simp only [step] at taken
    cases taken
    split
    · next zero =>
      subst zero
      exact .closed
    · exact .counted
  | chatSnapshot keys =>
    simp only [step] at taken
    split at taken
    · next named =>
      cases taken
      exact .chatSnapshot named
    · cases taken
  | tap index =>
    simp only [step] at taken
    split at taken
    · split at taken
      · split at taken
        · next chat found =>
          cases taken
          exact .tap found
        · cases taken
      · cases taken
    · cases taken
  | widget index action =>
    simp only [step] at taken
    split at taken
    · next screen found =>
      split at taken
      · next widget shown =>
        split at taken
        · split at taken
          · next stepped =>
            cases taken
            exact .widget found shown stepped
          · cases taken
        · cases taken
      · cases taken
    · cases taken
  | gone index action =>
    simp only [step] at taken
    split at taken
    · next widget found =>
      split at taken
      · next stepped =>
        cases taken
        exact .gone found stepped
      · cases taken
    · cases taken

/-! ## What a list without chats takes away -/

theorem mem_of_closeMessages {app : App} {screen : Screen} {widget : ChatWidgetState}
    (member : screen ∈ app.closeMessages.screens) (shown : screen.chat = some widget) :
    screen ∈ app.screens := by
  obtain ⟨before, inside, rfl⟩ := List.mem_map.mp member
  split at shown
  · cases shown
  · next product =>
    rw [if_neg product]
    exact inside

theorem disposed_of_closeMessages {screens : List Screen} {widget : ChatWidgetState}
    (lost : widget ∈ screens.filterMap fun screen =>
      if screen.product = none then screen.chat.map ChatWidgetState.dispose else none) :
    ∃ screen ∈ screens, ∃ before, screen.chat = some before ∧ widget = before.dispose := by
  obtain ⟨screen, inside, lost⟩ := List.mem_filterMap.mp lost
  split at lost
  · obtain ⟨before, shown, rfl⟩ := Option.map_eq_some_iff.mp lost
    exact ⟨screen, inside, before, shown, rfl⟩
  · cases lost

/-! ## What a step does to the ChatProvider -/

theorem push_stream (app : App) (value : Option String)
    (opened : app.chatKeyStream.closed = false) :
    (app.push value).chatKeyStream = ⟨some value, false⟩ := by
  rw [push_open opened]

theorem hear_frame (app : App) (request : Request) (answer : Option LastChatResponse) :
    (app.hear request answer).chatKeyStream = app.chatKeyStream ∧
      (app.hear request answer).numberOfChat = app.numberOfChat := by
  unfold hear
  split <;> exact ⟨rfl, rfl⟩

theorem push_numberOfChat (app : App) (value : Option String) :
    (app.push value).numberOfChat = app.numberOfChat := by
  unfold push
  split <;> rfl

def streamAfter (stream : BehaviorSubject (Option String)) :
    Option (Option String) → BehaviorSubject (Option String)
  | some value => ⟨some value, false⟩
  | none => stream

theorem replied_stream (app : App) (request : Request) (answer : Option LastChatResponse)
    (opened : app.chatKeyStream.closed = false) :
    (app.replied request answer).chatKeyStream =
      streamAfter app.chatKeyStream (request.pushes answer) := by
  obtain ⟨change, -, same⟩ := app.replied_cases request answer
  rw [same]
  cases request.pushes answer with
  | none => rfl
  | some value => exact push_stream _ _ opened

theorem replied_numberOfChat (app : App) (request : Request) (answer : Option LastChatResponse) :
    (app.replied request answer).numberOfChat = app.numberOfChat := by
  obtain ⟨change, -, same⟩ := app.replied_cases request answer
  rw [same]
  split
  · exact push_numberOfChat _ _
  · rfl

theorem Went.stream {app next : App} {action : AppAction} (went : Went app action next)
    (opened : app.chatKeyStream.closed = false) :
    next.chatKeyStream = streamAfter app.chatKeyStream (app.pushes action) := by
  cases went with
  | opened silent =>
    rw [silent]
    rfl
  | flagged silent =>
    rw [silent]
    rfl
  | unanswered silent =>
    rw [silent]
    rfl
  | unheard silent =>
    rw [silent]
    exact (hear_frame _ _ _).1
  | replied same _ =>
    rw [same, replied_stream]
    · rw [(hear_frame _ _ _).1]
    · rw [(hear_frame _ _ _).1]
      exact opened
  | tap found =>
    simp only [pushes, found, Option.map_some]
    exact push_stream _ _ opened
  | _ => rfl

theorem Went.numberOfChat {app next : App} {action : AppAction} (went : Went app action next)
    (other : ∀ count, action ≠ .numberOfChat count) :
    next.numberOfChat = app.numberOfChat := by
  cases went with
  | unheard => exact (hear_frame _ _ _).2
  | replied => rw [replied_numberOfChat, (hear_frame _ _ _).2]
  | tap found => exact push_numberOfChat _ _
  | counted => exact absurd rfl (other _)
  | closed => exact absurd rfl (other _)
  | _ => rfl

end App

end SparSomnong.Navigation
