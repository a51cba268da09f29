import ChatCore.Lib.Lts

/-!
# `ChatCore.Client.UiSystem`: the log and the prompt of the client

`UiSystem` (`ui_system.cpp`) shows what `ModelSystem` emits. Its slots run on the thread that emits.
The slot of `OnLineAdded` puts the line into a queue under a lock and posts an event to the screen
after that. The slot of `OnChannelNameChanged` stores the name and posts an event too. The thread of
the user interface handles the events, and for `Event::Custom` it takes the whole queue and writes
its lines into the log.

The screen is `ftxui::ScreenInteractive`, which is no part of the repository. Its functions are a
parameter (`Screen`): `PostEvent`, `Exit`, and what `Loop` does next, seen from `UiSystem`.
`Documented` lists what the code relies on. An event is handled after those that were posted before
it. Once the screen has quit, it may drop what is posted. After an event the component is drawn
again. `Loop` waits only when nothing is left to do, and it returns only when `Exit` was called.
`Screen.queue` is a screen that does so. What the input component does with a key is any change of
`input_buffer_`.

A run starts with the loop of the screen. What the other threads did before is arbitrary: there may
be lines in the queue, calls of the slots that are under way, and events that were posted too early
or dropped. A step is one locked section, or one access to shared state outside of the lock.
-/

set_option autoImplicit false

namespace ChatCore.Client

open ChatCore.Lib (Lts)

/-- An event of the screen. -/
inductive ScreenEvent where
  | custom
  | returnKey
  /-- Any other key: the input component leaves this text in `input_buffer_`. -/
  | edit (text : String)
  deriving DecidableEq

/-! ### The screen -/

/-- What was posted to the screen. -/
inductive ScreenTask where
  | event (event : ScreenEvent)
  /-- What `Exit` posts. -/
  | exit
  deriving DecidableEq

/-- What the loop of the screen does next. -/
inductive LoopAction where
  /-- `HandleEvent` is called. -/
  | event (event : ScreenEvent)
  /-- `Render` is called. -/
  | render
  /-- What `Exit` has posted is done. -/
  | exit
  /-- `Loop` returns. -/
  | leave

/-- The functions of `ftxui::ScreenInteractive`, and three views of its state. -/
structure Screen (σ : Type) where
  /-- `PostEvent`, also of an event of the terminal. -/
  postEvent : σ → ScreenEvent → σ
  /-- `Exit`. -/
  exit : σ → σ
  /-- The next action of `Loop`. With `none` it waits. -/
  next : σ → Option (LoopAction × σ)
  /-- What was posted and is not handled yet. -/
  pending : σ → List ScreenTask
  /-- The screen has quit. -/
  quit : σ → Bool
  /-- No event was handled since the component was drawn. -/
  drawn : σ → Bool

namespace Screen

variable {σ : Type}

/-- A function of the screen posts the task, or drops it when the screen has quit. -/
def Posts (S : Screen σ) (task : ScreenTask) (screen screen' : σ) : Prop :=
  (S.pending screen' = S.pending screen ++ [task] ∨
    S.quit screen = true ∧ S.pending screen' = S.pending screen) ∧
  S.quit screen' = S.quit screen ∧ S.drawn screen' = S.drawn screen

/-- What `UiSystem` relies on. -/
structure Documented (S : Screen σ) : Prop where
  /-- Both functions go to the end of what is posted. -/
  postEvent : ∀ screen event, S.Posts (.event event) screen (S.postEvent screen event)
  exit : ∀ screen, S.Posts .exit screen (S.exit screen)
  /-- The oldest event is handled, and the component has to be drawn again. -/
  next_event : ∀ screen event screen', S.next screen = some (.event event, screen') →
    S.pending screen = .event event :: S.pending screen' ∧
      S.quit screen' = S.quit screen ∧ S.drawn screen' = false
  /-- With what `Exit` has posted the screen quits. -/
  next_exit : ∀ screen screen', S.next screen = some (.exit, screen') →
    S.pending screen = .exit :: S.pending screen' ∧ S.quit screen' = true
  /-- The component is drawn when it has to be. -/
  next_render : ∀ screen screen', S.next screen = some (.render, screen') →
    S.pending screen' = S.pending screen ∧ S.quit screen' = S.quit screen ∧
      S.drawn screen = false ∧ S.drawn screen' = true
  /-- The loop returns after `Exit` only. -/
  next_leave : ∀ screen screen', S.next screen = some (.leave, screen') →
    S.pending screen' = S.pending screen ∧ S.quit screen = true ∧ S.quit screen' = true ∧
      S.drawn screen' = S.drawn screen
  /-- The loop waits when it has nothing to do. -/
  next_none : ∀ screen, S.next screen = none →
    S.pending screen = [] ∧ S.quit screen = false ∧ S.drawn screen = true

end Screen

/-- A screen that keeps what is posted in a queue. -/
structure QueueScreen where
  tasks : List ScreenTask := []
  quit : Bool := false
  drawn : Bool := false

namespace QueueScreen

/-- Once the screen has quit, it drops what is posted. -/
def post (s : QueueScreen) (task : ScreenTask) : QueueScreen :=
  if s.quit then s else { s with tasks := s.tasks ++ [task] }

/-- All events that there are, and then a frame if one is due. -/
def next (s : QueueScreen) : Option (LoopAction × QueueScreen) :=
  match s.tasks with
  | .event event :: tasks => some (.event event, { s with tasks := tasks, drawn := false })
  | .exit :: tasks => some (.exit, { s with tasks := tasks, quit := true })
  | [] =>
    if !s.drawn then some (.render, { s with drawn := true })
    else if s.quit then some (.leave, s)
    else none

end QueueScreen

/-- The screen with these functions. -/
def Screen.queue : Screen QueueScreen where
  postEvent s event := s.post (.event event)
  exit s := s.post .exit
  next := QueueScreen.next
  pending := QueueScreen.tasks
  quit := QueueScreen.quit
  drawn := QueueScreen.drawn

/-! ### The system -/

/-- Where the thread of the user interface stands. -/
inductive UiStage where
  | looping
  /-- In `HandleEvent`, before the lock. -/
  | handling (event : ScreenEvent)
  /-- In the loop over the buffer. -/
  | writing
  | ended
  deriving DecidableEq

/-- What `Render` reads. -/
structure Frame where
  log : List String
  prompt : String
  input : String
  deriving DecidableEq

/-- The lines that `Initialize` writes. -/
def banner : List String :=
  ["╭─[ ebroschin::chatcore ]───────────────╮", "│ > multi-threaded chat system in c++23 │",
    "│ > Enter /help for more details        │", "╰───────────────────────────────────────╯"]

/-- `WriteLine`. -/
def writeLine (chatLogViewModel : List String) (line : String) : List String :=
  let chatLogViewModel := chatLogViewModel ++ [line]
  if chatLogViewModel.length < 100 then chatLogViewModel else chatLogViewModel.tail

/-- `UiSystem`, its screen and the calls of its slots that are under way. -/
structure UiSystem (σ : Type) where
  screen : σ
  /-- `message_queue_`. -/
  messageQueue : List String := []
  /-- `chat_log_view_model_`. -/
  chatLogViewModel : List String := banner
  channelName : Option String := none
  inputBuffer : String := ""
  /-- The slot of `OnLineAdded` is subscribed. -/
  subscribed : Bool := true
  stage : UiStage := .looping
  /-- `buffer` of `HandleEvent`. -/
  buffer : List String := []
  /-- What was drawn last. -/
  frame : Option Frame := none
  /-- The calls of the slot of `OnLineAdded` before the lock. -/
  adding : List String := []
  /-- The calls of the slots before `PostEvent`. -/
  posting : Nat := 0
  /-- All lines that have been put into the queue, and how many of them before the loop began. -/
  added : List String := []
  early : Nat := 0
  /-- The lines that have been written since the banner. -/
  shown : List String := []
  /-- The texts that `HandleInput` has been called with. -/
  entered : List String := []

/-- A step of one of the threads. -/
inductive UiOp where
  /-- `AddLine`, up to the lock of the slot. -/
  | addLine (line : String)
  /-- The locked section of the `i`-th pending call. -/
  | emplace (i : Nat)
  /-- `SetChannelName`, up to `PostEvent`. -/
  | setChannelName (channelName : Option String)
  /-- `PostEvent` of a call of one of the slots. -/
  | postEvent
  /-- An event of the terminal. -/
  | post (event : ScreenEvent)
  /-- `Unsubscribe` in `Deinitialize`. -/
  | unsubscribe
  /-- `Exit` in `Shutdown`. -/
  | exit
  /-- The next step of the thread of the user interface. -/
  | advance

/-- The steps that the threads take on their own: they are in the middle of a function. -/
def UiOp.Internal : UiOp → Prop
  | .emplace _ | .postEvent | .advance => True
  | .addLine _ | .setChannelName _ | .post _ | .unsubscribe | .exit => False

namespace UiSystem

variable {σ : Type}

/-- The prompt of `RenderInputField`. -/
def prompt (s : UiSystem σ) : String :=
  match s.channelName with
  | some channelName => "chat::" ++ channelName ++ "> "
  | none => "chat> "

/-- `Render`. -/
def render (s : UiSystem σ) : Frame := ⟨s.chatLogViewModel, s.prompt, s.inputBuffer⟩

/-- `HandleEvent`. Its loop over the buffer is left to the steps that follow. -/
def handleEvent (s : UiSystem σ) : ScreenEvent → UiSystem σ
  | .custom =>
    if s.messageQueue.isEmpty then { s with stage := .looping }
    else { s with messageQueue := [], buffer := s.messageQueue, stage := .writing }
  | .returnKey =>
    if s.inputBuffer = "" then { s with stage := .looping }
    else { s with entered := s.entered ++ [s.inputBuffer], inputBuffer := "", stage := .looping }
  | .edit text => { s with inputBuffer := text, stage := .looping }

variable (S : Screen σ)

/-- The next step of the thread of the user interface. -/
def advance (s : UiSystem σ) : Option (UiSystem σ) :=
  match s.stage with
  | .looping =>
    (S.next s.screen).map fun (action, screen) =>
      match action with
      | .event event => { s with screen, stage := .handling event }
      | .render => { s with screen, frame := some s.render }
      | .exit => { s with screen }
      | .leave => { s with screen, stage := .ended }
  | .handling event => some (s.handleEvent event)
  | .writing =>
    match s.buffer with
    | [] => some { s with stage := .looping }
    | line :: buffer =>
      some { s with
        chatLogViewModel := writeLine s.chatLogViewModel line
        buffer := buffer
        shown := s.shown ++ [line] }
  | .ended => none

/-- One step of the system. -/
def step (s : UiSystem σ) : UiOp → Option (UiSystem σ)
  | .addLine line => some (if s.subscribed then { s with adding := s.adding ++ [line] } else s)
  | .emplace i =>
    s.adding[i]?.map fun line =>
      { s with
        adding := s.adding.eraseIdx i
        messageQueue := s.messageQueue ++ [line]
        posting := s.posting + 1
        added := s.added ++ [line] }
  | .setChannelName channelName =>
    some { s with channelName := channelName, posting := s.posting + 1 }
  | .postEvent =>
    if s.posting = 0 then none
    else some { s with posting := s.posting - 1, screen := S.postEvent s.screen .custom }
  | .post event => some { s with screen := S.postEvent s.screen event }
  | .unsubscribe => some { s with subscribed := false }
  | .exit => some { s with screen := S.exit s.screen }
  | .advance => s.advance S

/-- `Exit` was called: the screen has quit, or will. -/
def Exiting (s : UiSystem σ) : Prop := S.quit s.screen = true ∨ .exit ∈ S.pending s.screen

instance (s : UiSystem σ) : Decidable (s.Exiting S) := inferInstanceAs (Decidable (_ ∨ _))

end UiSystem

/-- The runs of the user interface, from the beginning of the screen's loop. -/
def uiSystems {σ : Type} (S : Screen σ) : Lts (UiSystem σ) UiOp where
  start s := ∃ screen lines adding posting channelName,
    S.quit screen = false ∧ S.drawn screen = false ∧ s =
      { screen := screen, messageQueue := lines, added := lines, early := lines.length,
        adding := adding, posting := posting, channelName := channelName }
  step := UiSystem.step S

end ChatCore.Client
