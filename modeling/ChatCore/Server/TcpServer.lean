import ChatCore.Network.MessageProcessor
import ChatCore.Network.ReadLoop
import ChatCore.Server.Steps

/-!
# `ChatCore.Server.TcpServer`: the server behind its sockets

`Steps` starts from messages. This module starts from bytes. `BoostTcpAcceptor` accepts sockets, and
`TcpSystem::CreateConnection` gives each of them an id and starts its read loop (`ReadLoop`). A
payload goes through `ReceiveMessage` into the `TcpMessageProcessor`, and the application thread runs
its tasks: the message that a task decodes to goes to the handlers of the server.

All completion handlers run on the one io thread, so none of them runs while that thread is inside
`Enqueue`. A connection that has been removed keeps its read loop as long as a read is outstanding.
The accept handler calls `OnConnected`, which only logs, and starts the next `async_accept`, also
after an error.

Where a write of the connection fails, `HandleError` reports the end of the connection as well. The
bytes of the clients, the order of the completion handlers and the moments of the other two threads
are arbitrary. A task with its handler is one step, and so is `RemoveConnection` with
`OnDisconnected`: what the two threads do to each other inside of them is not part of this module
(see `Disconnect` and `PresenceRun`).
-/

set_option autoImplicit false

namespace ChatCore.Server

open ChatCore.Api
open ChatCore.Lib (Json Lts)
open ChatCore.Network

/-- The server, its connections and its queue. -/
structure TcpServer where
  run : ServerRun
  /-- The read sides of the connections, by their ids. -/
  readers : Nat → ReadRun := fun _ => {}
  processor : MessageProcessor MessageType Json Message := {}

/-- A step of the network or of one of the threads. -/
inductive TcpServerOp where
  /-- The handler of an `async_accept` that has succeeded. -/
  | accept
  /-- Bytes arrive at the socket of a connection. -/
  | arrive (connectionId : Nat) (chunk : List UInt8)
  | readComplete (connectionId : Nat) (movedFrom : List UInt8)
  | readError (connectionId : Nat)
  /-- The handler of a write that has failed. -/
  | writeError (connectionId : Nat)
  /-- The locked section of `Enqueue`. -/
  | emplace
  | swap
  /-- The next task of the buffer, with the handler that it calls. -/
  | run
  /-- A step of `Persist`. -/
  | persist
  /-- `TcpMessageProcessor::Stop`. -/
  | stop

namespace TcpServer

variable (json : JsonLibrary)

/-- `OnDisconnect`: the connection is removed, and `OnDisconnected` is called. -/
def disconnect (s : TcpServer) (connectionId : Nat) : TcpServer :=
  { s with
    run := s.run.record (.disconnect connectionId)
      ((s.run.server.removeConnection connectionId).onDisconnected connectionId) }

/-- `OnReceive` and `OnDisconnect`, as a completion handler calls them. -/
def report (s : TcpServer) (connectionId : Nat) : ConnectionEvent → TcpServer
  | .received bytes =>
    { s with processor := s.processor.enqueue (jsonNetworkCodec json) connectionId bytes }
  | .disconnected => s.disconnect connectionId

/-- The completion handler of a read. -/
def readHandler (s : TcpServer) (connectionId : Nat)
    (result : Option (ReadLoop × List ConnectionEvent)) : Option TcpServer :=
  if s.run.Issued connectionId ∧ s.processor.enqueuing.isEmpty then
    result.map fun result =>
      result.2.foldl (fun s event => s.report json connectionId event)
        { s with
          readers := Function.update s.readers connectionId
            ((s.readers connectionId).handled result) }
  else none

/-- The handler that a task calls: the task decodes its payload and passes on the message. -/
def handleTask (run : ServerRun) (task : Task MessageType Json) : ServerRun :=
  match JsonNetworkCodec.decode task.type task.payload with
  | none => run
  | some message =>
    run.record (.handle task.connectionId message) (run.server.handle task.connectionId message)

/-- One step of the server. -/
def step (s : TcpServer) : TcpServerOp → Option TcpServer
  | .accept =>
    if s.processor.enqueuing.isEmpty then
      some { s with run := s.run.record .connect (s.run.server.createConnection, []) }
    else none
  | .arrive connectionId chunk =>
    if s.run.Issued connectionId then
      ((s.readers connectionId).step (.arrive chunk)).map fun reader =>
        { s with readers := Function.update s.readers connectionId reader }
    else none
  | .readComplete connectionId movedFrom =>
    s.readHandler json connectionId ((s.readers connectionId).toReadLoop.complete movedFrom)
  | .readError connectionId => s.readHandler json connectionId (s.readers connectionId).toReadLoop.fail
  | .writeError connectionId =>
    if s.run.Issued connectionId ∧ s.processor.enqueuing.isEmpty then
      some (s.disconnect connectionId)
    else none
  | .emplace =>
    (s.processor.step (jsonNetworkCodec json) (.emplace 0)).map fun processor =>
      { s with processor }
  | .swap =>
    (s.processor.step (jsonNetworkCodec json) .swap).map fun processor => { s with processor }
  | .run =>
    (s.processor.buffer.head?).bind fun task =>
      (s.processor.step (jsonNetworkCodec json) .run).map fun processor =>
        { s with processor, run := handleTask s.run task }
  | .persist => (s.run.step .persist).map fun run => { s with run }
  | .stop =>
    (s.processor.step (jsonNetworkCodec json) .stop).map fun processor => { s with processor }

end TcpServer

/-- The runs of the server behind its sockets, over any database. -/
def tcpServers (json : JsonLibrary) : Lts TcpServer TcpServerOp where
  start s := ∃ db, s = { run := { server := ServerState.begin db, start := db } }
  step := TcpServer.step json

end ChatCore.Server
