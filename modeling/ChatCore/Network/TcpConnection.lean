import ChatCore.Network.ReadLoop

/-!
# `ChatCore.Network.TcpConnection`: both sides of a connection in a `TcpSystem`

A `BoostTcpConnection` has two chains of completion handlers, the reads (`ReadLoop`) and the
writes (`Connection`). Each of them reports an error through `HandleError`, which calls
`OnDisconnect` and ends that chain. Nothing closes the socket, so the other chain goes on.

`OnDisconnect` removes the connection from `connections_` and calls `OnDisconnected`. A thread
that sends looks the connection up under the lock and calls `SendBytes` later, with the pointer
that it found. The completion handlers run one after the other on the io thread.
-/

set_option autoImplicit false

namespace ChatCore.Network

open ChatCore.Lib (Lts)

/-- A connection that `CreateConnection` has registered and started. -/
structure TcpConnection where
  readLoop : ReadLoop := {}
  sendSide : Connection := {}
  /-- The connection is in `connections_`. -/
  registered : Bool := true
  /-- The messages whose sender has looked the connection up and not called `SendBytes` yet. -/
  sending : List (List UInt8) := []
  /-- The calls of the facade, in order. A ghost. -/
  events : List ConnectionEvent := []

/-- A step of the network, of a sender or of a completion handler. -/
inductive ConnectionOp where
  | arrive (chunk : List UInt8)
  | readComplete (movedFrom : List UInt8)
  | readError
  /-- The lookup of `Send` or `Broadcast`. -/
  | lookup (bytes : List UInt8)
  | sendBytes (i : Nat)
  | sendNext
  | asyncWrite (i : Nat)
  | writeComplete (i : Nat)
  | writeError (i : Nat)

namespace TcpConnection

/-- The calls of the facade: `OnDisconnect` removes the connection. -/
def report (s : TcpConnection) (events : List ConnectionEvent) : TcpConnection :=
  { s with
    registered := s.registered && !events.contains .disconnected
    events := s.events ++ events }

/-- The state after a completion handler of a read. -/
def readHandled (s : TcpConnection) (result : ReadLoop × List ConnectionEvent) : TcpConnection :=
  { s with readLoop := result.1 }.report result.2

/-- A step of the send side. -/
def send (s : TcpConnection) (op : SendOp) : Option TcpConnection :=
  (s.sendSide.step op).map fun sendSide => { s with sendSide }

/-- One step of the connection. -/
def step (s : TcpConnection) : ConnectionOp → Option TcpConnection
  | .arrive chunk =>
    some { s with readLoop := { s.readLoop with buffered := s.readLoop.buffered ++ chunk } }
  | .readComplete movedFrom => (s.readLoop.complete movedFrom).map s.readHandled
  | .readError => s.readLoop.fail.map s.readHandled
  | .lookup bytes => if s.registered then some { s with sending := s.sending ++ [bytes] } else none
  | .sendBytes i =>
    (s.sending[i]?).bind fun bytes =>
      { s with sending := s.sending.eraseIdx i }.send (.sendBytes bytes)
  | .sendNext => s.send .sendNext
  | .asyncWrite i => s.send (.asyncWrite i)
  | .writeComplete i => s.send (.complete i)
  | .writeError i =>
    -- `HandleError` returns true and `SendNext` is not called again.
    if i < s.sendSide.outstanding.length then
      some ({ s with
        sendSide := { s.sendSide with
          outstanding := s.sendSide.outstanding.eraseIdx i } }.report [.disconnected])
    else none

end TcpConnection

/-- The runs of one connection. -/
def tcpConnections : Lts TcpConnection ConnectionOp where
  start s := s = {}
  step := TcpConnection.step

end ChatCore.Network
