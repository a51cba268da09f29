import ChatCore.Api.RpcCalls
import ChatCore.Apps.OperatorInput
import ChatCore.Lib.Lts

/-!
# `ChatCore.Tester.LoadTest`: the load tester

The load tester (`apps/load-tester/source/testing`) is a `RootClient` and `clientCount`
`TestClient`s in one process. Every client connects, creates its user and authenticates. The root
client then creates a channel and makes the test clients, which join the channel. The test begins
when the last of them has called `SetClientReady`: each test client sends a message with a new
number once a second and notes which of them come back, and ten seconds later `Evaluate` sums up.

Three threads take part. The io thread calls `OnConnected`. The application thread handles messages:
answers to calls, and chat events. The scheduler thread runs tasks and timeouts. `SetClientReady`
schedules one task after the other, while the scheduler thread may already run the first ones, and
the echo of a message may arrive before `Send` has noted the message.

Nothing is assumed about the server: any message may arrive on any connection. The times at which
tasks are due are left open. An empty optional that is read ends the run, and so does an exception
of `std::stoull`, which has no handler.
-/

set_option autoImplicit false

namespace ChatCore.Tester

open ChatCore.Api
open ChatCore.Apps (LoadTesterArguments)
open ChatCore.Lib (Lts stoul)

/-- What ends the process inside of a callback. -/
inductive Abort where
  | emptyOptional
  /-- An exception that nobody catches. -/
  | terminate
  deriving DecidableEq

/-- `operator*` and `operator->` of an optional. -/
def value {α : Type} : Option α → Except Abort α
  | some a => .ok a
  | none => .error .emptyOptional

/-- `std::stoull`. -/
def stoull (text : String) : Except Abort Nat :=
  match stoul text with
  | some n => .ok n
  | none => .error .terminate

/-- `TrackedMessage`. -/
structure TrackedMessage where
  timePoint : Nat
  messageId : Nat

/-- `try_emplace`, with the id of the message as the key. -/
def tryEmplace (messages : List TrackedMessage) (message : TrackedMessage) : List TrackedMessage :=
  if message.messageId ∈ messages.map TrackedMessage.messageId then messages
  else messages ++ [message]

/-- `Client`. -/
structure Client where
  name : String
  connectionId : Option Nat := none
  user : Option User := none

/-- `TestClient`. -/
structure TestClient extends Client where
  channelId : Nat
  /-- `receive_chat_signal_handle_` holds a subscription. -/
  subscribed : Bool := false
  currentSendTaskId : Nat := 0
  incomingMessages : List TrackedMessage := []
  outgoingMessages : List TrackedMessage := []
  /-- The chat events that its slot was called with. A ghost. -/
  heard : List (Nat × ReceiveChatMessage) := []

/-- `ClientReport`. -/
structure ClientReport where
  roundtripTimes : List Int
  sentCount : Nat

namespace ClientReport

/-- `CompletedCount`. -/
def completedCount (r : ClientReport) : Nat := r.roundtripTimes.length

/-- `FailedCount`. -/
def failedCount (r : ClientReport) : Nat := r.sentCount - r.completedCount

end ClientReport

namespace TestClient

/-- The event is about a message of this client. -/
def Accepts (c : TestClient) (connectionId : Nat) (message : ReceiveChatMessage) : Prop :=
  c.connectionId = some connectionId ∧ message.channelId = c.channelId ∧
    c.user.map User.id = some message.userId

/-- The slot for chat events. -/
def receiveChat (c : TestClient) (now connectionId : Nat) (message : ReceiveChatMessage) :
    Except Abort TestClient := do
  let c := { c with heard := c.heard ++ [(connectionId, message)] }
  -- All test clients subscribe to the one message handler of the process.
  if c.connectionId ≠ some connectionId then return c
  if message.channelId ≠ c.channelId then return c
  let user ← value c.user
  if message.userId ≠ user.id then return c
  let messageId ← stoull message.content
  return { c with incomingMessages := tryEmplace c.incomingMessages ⟨now, messageId⟩ }

/-- `Evaluate`. -/
def evaluate (c : TestClient) : ClientReport where
  roundtripTimes := c.outgoingMessages.filterMap fun sent =>
    (c.incomingMessages.find? (·.messageId = sent.messageId)).map fun received =>
      (received.timePoint : Int) - sent.timePoint
  sentCount := c.outgoingMessages.length

end TestClient

/-- The callbacks of a call. -/
inductive Callback where
  | createUser | authenticateUser | createChannel | joinChannel
  deriving DecidableEq

/-- The type of the request. -/
def Callback.requestType : Callback → MessageType
  | .createUser => .createUserRequest
  | .authenticateUser => .authenticateUserRequest
  | .createChannel => .createChannelRequest
  | .joinChannel => .joinChatChannelRequest

/-- A call in `calls_`. The client is `none` for the root client. -/
structure PendingCall where
  requestId : Nat
  connectionId : Nat
  client : Option Nat
  callback : Callback
  deriving DecidableEq

/-- The message answers the call. -/
def PendingCall.AnsweredBy (call : PendingCall) (connectionId : Nat) (message : Message) : Prop :=
  call.connectionId = connectionId ∧ message.requestId = some call.requestId ∧
    (call.callback.requestType.rpcResponse = some message.type ∨
      call.callback.requestType.rpcError = some message.type)

instance (call : PendingCall) (connectionId : Nat) (message : Message) :
    Decidable (call.AnsweredBy connectionId message) :=
  inferInstanceAs (Decidable (_ ∧ _))

/-- A task of the scheduler. -/
inductive TestTask where
  /-- `clients_[i]->Start(phase)`. -/
  | start (i : Nat)
  /-- `Send` of a test client. -/
  | send (i : Nat)
  | evaluate
  deriving DecidableEq

/-- What `Evaluate` logs. The percentiles are left out. -/
structure Report where
  totalSent : Nat
  totalFailed : Nat
  latencies : List Int

/-- The process. `clients_`, `connected_clients_` and `test_channel_id_` belong to the root client,
`next_id` to `TestClient::Send`. -/
structure LoadTest where
  arguments : LoadTesterArguments
  root : Client := { name := "root-tester" }
  testChannelId : Nat := 0
  clients : List TestClient := []
  connectedClients : List Nat := []
  nextConnectionId : Nat := 1
  /-- The clients that have called `Connect` and wait for its end. -/
  connecting : List (Option Nat) := []
  nextRequestId : Nat := 1
  calls : List PendingCall := []
  nextTaskId : Nat := 1
  tasks : List (Nat × TestTask) := []
  /-- The callbacks that the pass of the scheduler has still to call. -/
  callbacks : List TestTask := []
  nextId : Nat := 0
  /-- The client and the message of a `Send` that has not noted the message yet. -/
  sending : Option (Nat × Nat) := none
  /-- The next round of the loop in `SetClientReady`. -/
  starting : Option Nat := none
  now : Nat := 0
  reports : List Report := []
  /-- `Application::Quit` has been called. -/
  quit : Bool := false
  aborted : Option Abort := none
  /-- The messages handed to the `TcpSystem`, with their connections. -/
  sent : List (Nat × Message) := []
  /-- The connections that `Stop` has disconnected. -/
  disconnected : List Nat := []
  /-- The test clients that have called `SetClientReady`, in order. A ghost. -/
  ready : List Nat := []
  /-- The test clients and the numbers of the messages that `Send` has sent. A ghost. -/
  written : List (Nat × Nat) := []
  /-- How often the test has begun. A ghost. -/
  begun : Nat := 0

/-- A step of one of the threads. -/
inductive LoadTestOp where
  /-- `OnConnected` of a client. -/
  | connected (client : Option Nat)
  /-- `OnConnectionFailed` of a client. -/
  | connectionFailed (client : Option Nat)
  /-- The application thread handles an answer. -/
  | answer (connectionId : Nat) (message : Message)
  /-- The slot of a test client is called with a chat event. -/
  | receiveChat (i connectionId : Nat) (message : ReceiveChatMessage)
  /-- The next round of the loop in `SetClientReady`. -/
  | schedule
  /-- The timeout of a call. -/
  | timeout (requestId : Nat)
  /-- The pass of the scheduler finds that a task is due. -/
  | collect (i : Nat)
  /-- The next callback of the pass. -/
  | run
  /-- `Send` after it has called the `TcpSystem`. -/
  | noteSent
  | tick

namespace LoadTest

/-- The part that the root client and the test clients have in common. -/
def client (s : LoadTest) : Option Nat → Option Client
  | none => some s.root
  | some i => (s.clients[i]?).map TestClient.toClient

/-- A change of this part. -/
def modifyClient (s : LoadTest) (f : Client → Client) : Option Nat → LoadTest
  | none => { s with root := f s.root }
  | some i => { s with clients := s.clients.modify i fun c => { c with toClient := f c.toClient } }

/-- `TcpSystem::Send`. -/
def tcpSend (s : LoadTest) (connectionId : Nat) (message : Message) : LoadTest :=
  { s with sent := s.sent ++ [(connectionId, message)] }

/-- `Prepare` of the `RpcSystem` and `Call`, on the connection of a client. -/
def call (s : LoadTest) (client : Option Nat) (callback : Callback) (request : Nat → Message) :
    Except Abort LoadTest := do
  let connectionId ← value ((s.client client).bind Client.connectionId)
  let call : PendingCall := ⟨s.nextRequestId, connectionId, client, callback⟩
  return { s with
    nextRequestId := s.nextRequestId + 1
    calls := s.calls ++ [call] }.tcpSend connectionId (request s.nextRequestId)

/-- `ScheduleAfter`. -/
def scheduleAfter (s : LoadTest) (task : TestTask) : LoadTest :=
  { s with nextTaskId := s.nextTaskId + 1, tasks := s.tasks ++ [(s.nextTaskId, task)] }

/-- `TestPassword`. -/
def testPassword : String := "123"

/-- `OnUserEnsured`. -/
def onUserEnsured (s : LoadTest) (client : Option Nat) : Except Abort LoadTest :=
  let name := ((s.client client).map Client.name).getD ""
  s.call client .authenticateUser fun requestId =>
    .authenticateUserRequest ⟨requestId, name, testPassword⟩

/-- `Client::OnConnected`. -/
def onConnected (s : LoadTest) (client : Option Nat) (connectionId : Nat) : Except Abort LoadTest :=
  let s := s.modifyClient (fun c => { c with connectionId := some connectionId }) client
  let name := ((s.client client).map Client.name).getD ""
  s.call client .createUser fun requestId => .createUserRequest ⟨requestId, name, testPassword⟩

/-- `OnPrepared` of the root client and of a test client. -/
def onPrepared (s : LoadTest) : Option Nat → Except Abort LoadTest
  | none =>
    s.call none .createChannel fun requestId => .createChannelRequest ⟨requestId, "test-channel"⟩
  | some i =>
    let s := { s with clients := s.clients.modify i fun c => { c with subscribed := true } }
    let channelId := ((s.clients[i]?).map TestClient.channelId).getD 0
    s.call (some i) .joinChannel fun requestId => .joinChatChannelRequest ⟨requestId, channelId⟩

/-- `HandleRootClientReady`. -/
def handleRootClientReady (s : LoadTest) : LoadTest :=
  let clients := s.clients ++ (List.range s.arguments.clientCount).map fun i =>
    { name := "tester" ++ toString i, channelId := s.testChannelId }
  { s with
    clients := clients
    connecting := s.connecting ++ (List.range clients.length).map some }

/-- `SetClientReady`, up to its loop. -/
def setClientReady (s : LoadTest) (i connectionId : Nat) : LoadTest :=
  let connectedClients :=
    if connectionId ∈ s.connectedClients then s.connectedClients
    else s.connectedClients ++ [connectionId]
  let s := { s with connectedClients, ready := s.ready ++ [i] }
  if connectedClients.length ≠ s.clients.length then s
  else { s with starting := some 0, begun := s.begun + 1 }

/-- The callbacks of a call, for the success and for the error. -/
def runCallback (s : LoadTest) (client : Option Nat) : Callback → Message → Except Abort LoadTest
  | .createUser, .createUserResponse _ => s.onUserEnsured client
  -- The user may be left from an earlier test.
  | .createUser, .errorResponse _ => s.onUserEnsured client
  | .authenticateUser, .authenticateUserResponse m =>
    (s.modifyClient (fun c => { c with user := some m.user }) client).onPrepared client
  | .createChannel, .createChannelResponse m =>
    .ok { s with testChannelId := m.channel.id }.handleRootClientReady
  | .joinChannel, .joinChatChannelResponse _ => do
    let connectionId ← value ((s.client client).bind Client.connectionId)
    return s.setClientReady (client.getD 0) connectionId
  -- `RegisterDefaultErrorHandler`.
  | _, .errorResponse _ => .ok { s with quit := true }
  -- No other message answers the call.
  | _, _ => .ok s

/-- `HandleCallback` up to the callback. -/
def complete (s : LoadTest) (requestId : Nat) : LoadTest :=
  { s with calls := s.calls.filter (·.requestId ≠ requestId) }

/-- `TestClient::Stop`. -/
def stopClient (s : LoadTest) (c : TestClient) : Except Abort LoadTest := do
  let connectionId ← value c.connectionId
  return { s with
    tasks := s.tasks.filter (·.1 ≠ c.currentSendTaskId)
    disconnected := s.disconnected ++ [connectionId] }

/-- `RootClient::Evaluate`. -/
def evaluate (s : LoadTest) : Except Abort LoadTest := do
  let s ← s.clients.foldlM stopClient s
  let reports := s.clients.map TestClient.evaluate
  let report : Report := {
    totalSent := (reports.map ClientReport.sentCount).sum
    totalFailed := (reports.map ClientReport.failedCount).sum
    latencies := reports.flatMap ClientReport.roundtripTimes }
  return { s with reports := s.reports ++ [report], quit := true }

/-- A callback of the scheduler. `Send` stops after its call of the `TcpSystem`. -/
def runTask (s : LoadTest) : TestTask → Except Abort LoadTest
  | .start i =>
    .ok { s.scheduleAfter (.send i) with
      clients := s.clients.modify i fun c => { c with currentSendTaskId := s.nextTaskId } }
  | .send i => do
    let connectionId ← value ((s.client (some i)).bind Client.connectionId)
    return { s with
      nextId := s.nextId + 1
      sending := some (i, s.nextId)
      written := s.written ++ [(i, s.nextId)] }.tcpSend connectionId
        (.writeChat ⟨toString s.nextId⟩)
  | .evaluate => s.evaluate

/-- The rest of `Send`. -/
def noteSent (s : LoadTest) (i messageId : Nat) : LoadTest :=
  { s.scheduleAfter (.send i) with
    sending := none
    clients := s.clients.modify i fun c =>
      { c with
        outgoingMessages := tryEmplace c.outgoingMessages ⟨s.now, messageId⟩
        currentSendTaskId := s.nextTaskId } }

/-- The state after a callback that may end the process. -/
def finish (s : LoadTest) : Except Abort LoadTest → LoadTest
  | .ok s' => s'
  | .error abort => { s with aborted := some abort }

/-- One step, while the process runs. -/
def advance (s : LoadTest) : LoadTestOp → Option LoadTest
  | .connected client =>
    if client ∈ s.connecting then
      some (s.finish ({ s with
        connecting := s.connecting.erase client
        nextConnectionId := s.nextConnectionId + 1 }.onConnected client s.nextConnectionId))
    else none
  | .connectionFailed client =>
    if client ∈ s.connecting then some { s with connecting := s.connecting.erase client } else none
  | .answer connectionId message =>
    -- The application thread is in the loop of `SetClientReady`.
    if s.starting.isSome then none
    else
      (s.calls.find? (·.AnsweredBy connectionId message)).map fun call =>
        s.finish ((s.complete call.requestId).runCallback call.client call.callback message)
  | .receiveChat i connectionId message =>
    if s.starting.isSome then none
    else
      (s.clients[i]?).bind fun c =>
        if c.subscribed then
          some (s.finish ((c.receiveChat s.now connectionId message).map fun c =>
            { s with clients := s.clients.set i c }))
        else none
  | .schedule =>
    s.starting.map fun i =>
      if i < s.clients.length then { s.scheduleAfter (.start i) with starting := some (i + 1) }
      else { s.scheduleAfter .evaluate with starting := none }
  | .timeout requestId =>
    -- The scheduler thread calls the timeouts, too, and may be in `Send`.
    if requestId ∈ s.calls.map PendingCall.requestId ∧ s.sending.isNone then
      some { s.complete requestId with quit := true }
    else none
  | .collect i =>
    (s.tasks[i]?).map fun task =>
      { s with tasks := s.tasks.eraseIdx i, callbacks := s.callbacks ++ [task.2] }
  | .run =>
    if s.sending.isSome then none
    else
      match s.callbacks with
      | [] => none
      | task :: callbacks => some (s.finish ({ s with callbacks }.runTask task))
  | .noteSent => s.sending.map fun (i, messageId) => s.noteSent i messageId
  | .tick => some { s with now := s.now + 1 }

/-- One step. -/
def step (s : LoadTest) (l : LoadTestOp) : Option LoadTest :=
  if s.aborted.isSome then none else s.advance l

/-- The state after `ApplicationSystem::Initialize`. -/
def begin (arguments : LoadTesterArguments) : LoadTest where
  arguments := arguments
  connecting := [none]

end LoadTest

/-- The runs of the load tester, with any arguments and against any server. -/
def loadTests : Lts LoadTest LoadTestOp where
  start s := ∃ arguments, s = LoadTest.begin arguments
  step := LoadTest.step

end ChatCore.Tester
