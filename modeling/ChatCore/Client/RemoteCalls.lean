import ChatCore.Network.RpcSystem
import ChatCore.Proofs.WireFormat
import ChatCore.Server.ChatService

/-!
# `ChatCore.Client.RemoteCalls`: the calls of a client, from `Call` to the answer of the server

A client with its `RpcSystem` (`RpcSystem`), one of its connections, and the server
(`ServerRun`). The client knows the connection by `clientId` and the server knows it by
`serverId`. Between the two are the messages that are under way, in each direction a queue: a
message that is sent arrives whole and in the order of the sends, as `Message.received`.

The other connections of the client may receive any message at any time, and the other
connections of the server may send any. On the connection itself the client sends the requests of
its calls and the messages that the user writes. The connection stays open.

`sent` is a ghost: the requests that `Call` has passed to `Send` on the connection, each with the
number of its call.
-/

set_option autoImplicit false

namespace ChatCore.Client

open ChatCore.Api
open ChatCore.Lib (Lts)
open ChatCore.Network
open ChatCore.Server (Event ServerOp ServerRun handedTo serverRuns)

/-- A client and a server with a connection between them. -/
structure RemoteCalls where
  rpc : RpcSystem MessageType Message := {}
  /-- `request_` of each prepared call. -/
  requests : List Message := []
  /-- The messages on the way to the server. -/
  toServer : List Message := []
  server : ServerRun
  /-- The messages on the way to the client. -/
  toClient : List Message := []
  sent : List (Nat × Message) := []

/-- A step of the client, of the server or of the connection. -/
inductive RemoteCallsOp where
  | prepare (request : Message) (connectionId : Nat)
      (callback errorCallback timeoutCallback : Bool) (timeoutDuration : Option Int)
  /-- `Send` at the end of `Call`. -/
  | send (call : Nat)
  /-- Another step of the client, with the messages of its other connections. -/
  | rpc (op : RpcOp MessageType Message)
  /-- `SessionSystem::Send`. -/
  | write (message : WriteChatMessage)
  /-- The server handles the next message of the connection. -/
  | serve
  /-- The server does something else. -/
  | server (op : ServerOp)
  /-- The next message reaches the message handler of the client. -/
  | deliver

namespace RemoteCalls

variable (clientId serverId : Nat)

/-- The steps of the client that have no part in the connection. -/
def Elsewhere : RpcOp MessageType Message → Prop
  | .prepare .. | .send _ => False
  | .emit connectionId _ => connectionId ≠ clientId
  | _ => True

instance : DecidablePred (Elsewhere clientId) := fun op => by
  unfold Elsewhere
  split <;> infer_instance

/-- The steps of the server that have no part in the connection. -/
def OtherConnection : ServerOp → Prop
  | .handle connectionId _ | .disconnect connectionId => connectionId ≠ serverId
  | .connect | .persist => True

instance : DecidablePred (OtherConnection serverId) := fun op => by
  unfold OtherConnection
  split <;> infer_instance

/-- A message on the way takes its next step. -/
def Internal : RemoteCallsOp → Prop
  | .serve | .deliver => True
  | _ => False

/-- A step of the server, with the messages that it sends on the connection. -/
def serverStep (s : RemoteCalls) (op : ServerOp) : Option RemoteCalls :=
  (s.server.step op).map fun server =>
    let calls := (server.trace.drop s.server.trace.length).flatMap Event.calls
    { s with
      server := server
      toClient := s.toClient ++ handedTo server.server.connections calls serverId }

/-- One step of the system. -/
def step (s : RemoteCalls) : RemoteCallsOp → Option RemoteCalls
  | .prepare request connectionId callback errorCallback timeoutCallback timeoutDuration =>
    -- `Prepare` puts the id into the request.
    if request.requestId = some s.rpc.nextId then
      (s.rpc.step chatRpcApi (.prepare request.type connectionId callback errorCallback
        timeoutCallback timeoutDuration)).map fun rpc =>
          { s with rpc, requests := s.requests ++ [request] }
    else none
  | .send call =>
    match s.rpc.prepared[call]?, s.requests[call]? with
    | some builder, some request =>
      (s.rpc.step chatRpcApi (.send call)).map fun rpc =>
        if builder.connectionId = clientId then
          { s with
            rpc
            toServer := s.toServer ++ [request]
            sent := s.sent ++ [(call, request)] }
        else { s with rpc }
    | _, _ => none
  | .rpc op =>
    if Elsewhere clientId op then (s.rpc.step chatRpcApi op).map fun rpc => { s with rpc }
    else none
  | .write message => some { s with toServer := s.toServer ++ [.writeChat message] }
  | .serve =>
    match s.toServer with
    | [] => none
    | message :: rest =>
      { s with toServer := rest }.serverStep serverId (.handle serverId message.received)
  | .server op => if OtherConnection serverId op then s.serverStep serverId op else none
  | .deliver =>
    match s.toClient with
    | [] => none
    | message :: rest =>
      (s.rpc.step chatRpcApi (.emit clientId message.received)).map fun rpc =>
        { s with rpc, toClient := rest }

end RemoteCalls

/-- The runs of a client and a server, from the moment at which the connection is open. -/
def remoteCalls (clientId serverId : Nat) : Lts RemoteCalls RemoteCallsOp where
  start s := ∃ server : ServerRun, serverRuns.Reachable Lts.anyStep server ∧
    serverId ∈ server.server.connections ∧ s = { server := server }
  step := RemoteCalls.step clientId serverId

end ChatCore.Client
