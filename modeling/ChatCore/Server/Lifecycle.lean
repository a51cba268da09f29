import ChatCore.Lib.Lts
import ChatCore.Server.Handlers

/-!
# `ChatCore.Server.Lifecycle`: the server process from start-up to shutdown

`Application::RunBlocking` initializes the six systems in the order of their registration,
waits for `Quit` and deinitializes them in reverse order. The systems start and stop three
more threads, and this module is the transition system of all four.

- The main thread executes a program (`mainProgram`), one `MainOp` after the other. `Persist`
  and the loop of `ChatMessageStore::Prewarm` take several steps.
- The network thread accepts connections, puts their messages into the queue of the message
  processor, removes a connection and then calls `OnDisconnected`.
- The application thread swaps the queue into a buffer (`ProcessBlocking`) and handles the
  messages of the buffer one after the other. A message of a type without a handler is
  dropped.
- The scheduler thread collects the callback of a due task under its lock and runs the
  callback after it released the lock. Time is left open: the task may be due whenever it
  is in the table.

A handler is one step. The fields `start`, `created` and `disconnected` are ghosts.
-/

set_option autoImplicit false

namespace ChatCore.Server

open ChatCore.Api
open ChatCore.Lib (Lts)

/-- The systems of the server. -/
inductive SystemId where
  | scheduling | tcp | persistence | application | userServer | chatServer

/-- An operation of the main thread. -/
inductive MainOp where
  | startScheduler
  | startApplicationThread
  | startAccept
  | register (type : MessageType)
  | prewarmUsers
  | prewarmChannels
  | prewarmMessageIds
  | prewarmMessageLogs
  | prewarmMessageLog (channel : ChatChannel)
  | schedulePersist
  | waitQuit
  | removeTask
  | persist
  | stopProcessor
  | joinApplicationThread
  | joinScheduler
  deriving DecidableEq

namespace SystemId

/-- `ordered_systems_`, in the order of registration. -/
def orderedSystems : List SystemId :=
  [.scheduling, .tcp, .persistence, .application, .userServer, .chatServer]

/-- `Initialize` of each system. -/
def initializeOps : SystemId → List MainOp
  | .scheduling => [.startScheduler]
  | .tcp => []
  | .persistence => []
  | .application => [.startApplicationThread, .startAccept]
  | .userServer =>
    [.register .createUserRequest, .register .authenticateUserRequest,
      .register .getUsersRequest, .register .getUserRequest, .prewarmUsers]
  | .chatServer =>
    [.register .writeChat, .register .createChannelRequest, .register .joinChatChannelRequest,
      .register .getChatsRequest, .register .getChatChannelsRequest,
      .register .getChatChannelRequest, .register .shutdown, .register .logoutRequest,
      .prewarmChannels, .prewarmMessageIds, .prewarmMessageLogs, .schedulePersist]

/-- `Deinitialize` of each system. -/
def deinitializeOps : SystemId → List MainOp
  | .scheduling => [.joinScheduler]
  | .tcp => [.stopProcessor]
  | .persistence => []
  | .application => [.stopProcessor, .joinApplicationThread]
  | .userServer => []
  | .chatServer => [.removeTask, .persist]

end SystemId

/-- `Application::RunBlocking`. -/
def mainProgram : List MainOp :=
  SystemId.orderedSystems.flatMap SystemId.initializeOps ++ [.waitQuit]
    ++ SystemId.orderedSystems.reverse.flatMap SystemId.deinitializeOps

/-- The state of the server process. -/
structure Process where
  server : ServerState
  /-- What the main thread still has to do. -/
  remaining : List MainOp := mainProgram
  /-- Where the `Persist` of the main thread stands. -/
  mainPersist : PersistStep := .idle
  /-- The message types that have a handler. -/
  registered : List MessageType := []
  accepting : Bool := false
  applicationThread : Bool := false
  schedulerThread : Bool := false
  /-- `tasks_` of the message processor. -/
  tasks : List (Nat × Message) := []
  /-- The buffer of `ProcessBlocking`. -/
  buffer : List (Nat × Message) := []
  stopped : Bool := false
  /-- The persistence task is in the table of the scheduler. -/
  persistTask : Bool := false
  /-- The collected callback of the scheduler thread, and where its `Persist` stands. -/
  callback : Option PersistStep := none
  /-- The connections that are removed and whose `OnDisconnected` has not run yet. -/
  disconnecting : List Nat := []
  start : Database
  /-- The messages that `HandleWriteChatMessage` created, in order. -/
  created : List ChatMessage := []
  /-- The connections whose `OnDisconnected` has run. -/
  disconnected : List Nat := []

/-- A step of one of the threads. -/
inductive ProcessOp where
  | main
  | accept
  | receive (connectionId : Nat) (message : Message)
  | removeConnection (connectionId : Nat)
  | onDisconnected (connectionId : Nat)
  | takeTasks
  | handleTask
  | collect
  | runCallback

namespace Process

/-- A process that is about to execute `RunBlocking`. -/
def begin (db : Database) : Process where
  server := { db := db }
  start := db

/-- An operation of the main thread, with `rest` still to do afterwards. -/
def mainStep (s : Process) (rest : List MainOp) : MainOp → Option Process
  | .startScheduler => some { s with remaining := rest, schedulerThread := true }
  | .startApplicationThread => some { s with remaining := rest, applicationThread := true }
  | .startAccept => some { s with remaining := rest, accepting := true }
  | .register type => some { s with remaining := rest, registered := type :: s.registered }
  | .prewarmUsers =>
    some { s with
      remaining := rest
      server := { s.server with users := s.server.users.prewarm s.server.db } }
  | .prewarmChannels =>
    some { s with
      remaining := rest
      server := { s.server with channels := s.server.channels.prewarm s.server.db } }
  | .prewarmMessageIds =>
    some { s with
      remaining := rest
      server := { s.server with messages := s.server.messages.prewarmIds s.server.db } }
  | .prewarmMessageLogs =>
    -- `GetChatChannels` is read once. Each round of the loop is a step of its own.
    some { s with remaining := s.server.db.getChatChannels.map .prewarmMessageLog ++ rest }
  | .prewarmMessageLog channel =>
    some { s with
      remaining := rest
      server := { s.server with
        messages := MessageStore.prewarmChannel s.server.db s.server.messages channel } }
  | .schedulePersist => some { s with remaining := rest, persistTask := true }
  -- `RunBlocking` waits until a handled `Shutdown` calls `Quit`.
  | .waitQuit => if s.server.running then none else some { s with remaining := rest }
  | .removeTask => some { s with remaining := rest, persistTask := false }
  | .persist =>
    (persistStep s.server.db s.server.messages s.mainPersist).map fun (db, messages, p) =>
      { s with
        server := { s.server with db := db, messages := messages }
        mainPersist := p
        -- `Persist` has returned when it is outside again.
        remaining := if p = .idle then rest else .persist :: rest }
  | .stopProcessor => some { s with remaining := rest, stopped := true }
  | .joinApplicationThread =>
    -- The thread ends when `ProcessBlocking` returns, so it handles its whole buffer before.
    if s.stopped ∧ s.buffer.isEmpty then
      some { s with remaining := rest, applicationThread := false }
    else none
  | .joinScheduler =>
    if s.callback.isNone then some { s with remaining := rest, schedulerThread := false }
    else none

/-- One step of the process. -/
def step (s : Process) : ProcessOp → Option Process
  | .main =>
    match s.remaining with
    | [] => none
    | op :: rest => s.mainStep rest op
  | .accept => if s.accepting then some { s with server := s.server.createConnection } else none
  | .receive connectionId message =>
    if connectionId ∈ s.server.connections then
      -- A stopped processor drops the message.
      if s.stopped then some s
      else some { s with tasks := s.tasks ++ [(connectionId, message)] }
    else none
  | .removeConnection connectionId =>
    if connectionId ∈ s.server.connections then
      some { s with
        server := s.server.removeConnection connectionId
        disconnecting := s.disconnecting ++ [connectionId] }
    else none
  | .onDisconnected connectionId =>
    -- The messages of the connection stay in the queue and in the buffer.
    if connectionId ∈ s.disconnecting then
      some { s with
        server := (s.server.onDisconnected connectionId).1
        disconnecting := s.disconnecting.filter (· ≠ connectionId)
        disconnected := s.disconnected ++ [connectionId] }
    else none
  | .takeTasks =>
    -- `ProcessBlocking` waits for a task or for `Stop`, and returns once it is stopped.
    if s.applicationThread ∧ s.buffer.isEmpty ∧ ¬ s.stopped ∧ ¬ s.tasks.isEmpty then
      some { s with tasks := [], buffer := s.tasks }
    else none
  | .handleTask =>
    match s.buffer with
    | [] => none
    | (connectionId, message) :: rest =>
      if message.type ∈ s.registered then
        let (server, calls) := s.server.handle connectionId message
        some { s with
          server := server
          buffer := rest
          created := s.created ++ calls.flatMap Call.created }
      else some { s with buffer := rest }
  | .collect =>
    if s.schedulerThread ∧ s.persistTask ∧ s.callback.isNone then
      some { s with callback := some .idle }
    else none
  | .runCallback =>
    match s.callback with
    | none => none
    | some p =>
      (persistStep s.server.db s.server.messages p).map fun (db, messages, p) =>
        { s with
          server := { s.server with db := db, messages := messages }
          -- The callback has returned when `Persist` is outside again.
          callback := if p = .idle then none else some p }

/-- The messages of the two calls of `Persist` that are swapped out and not written yet. -/
def inFlight (s : Process) : List ChatMessage :=
  s.mainPersist.inFlight ++ s.callback.elim [] PersistStep.inFlight

/-- The main thread has executed the locked section of `ChatMessageStore::Prewarm`. -/
def IdsLoaded (s : Process) : Prop := .prewarmMessageIds ∉ s.remaining

/-- The `Persist` of `ChatServerSystem::Deinitialize` has not swapped the pending messages
out yet. -/
def FlushOpen (s : Process) : Prop := .persist ∈ s.remaining ∧ s.mainPersist = .idle

instance (s : Process) : Decidable s.IdsLoaded := inferInstanceAs (Decidable (¬ _))

instance (s : Process) : Decidable s.FlushOpen := inferInstanceAs (Decidable (_ ∧ _))

/-- The application thread is about to handle a `WriteChatMessage` that calls
`CreateMessage`: its connection has a session and a channel. -/
def writesNext (s : Process) : Bool :=
  match s.buffer.head? with
  | some (connectionId, .writeChat _) =>
    MessageType.writeChat ∈ s.registered && s.server.users.hasSession connectionId &&
      (s.server.channels.connectionChannelMap.findLeft connectionId).isSome
  | _ => false

/-- The step calls `CreateMessage`. -/
def writes (s : Process) : ProcessOp → Bool
  | .handleTask => s.writesNext
  | _ => false

end Process

/-- The process, over any database. -/
def process : Lts Process ProcessOp where
  start s := ∃ db, s = Process.begin db
  step := Process.step

end ChatCore.Server
