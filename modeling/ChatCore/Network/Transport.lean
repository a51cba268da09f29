import ChatCore.Network.MessageProcessor
import ChatCore.Network.ReadLoop

/-!
# `ChatCore.Network.Transport`: a message from one end of a connection to the other

One direction of a connection between two processes, from `TcpSystem::Send` of the one to the
handlers of the other. The parts are the ones of the source: the send side of the sender's
`BoostTcpConnection` (`Connection`), the read side of the receiver's (`ReadLoop`), and the
receiver's `TcpMessageProcessor`. Between the two sides is the wire.

An `async_write` puts the bytes of its buffer on the wire in pieces of any size. Two writes that
are outstanding at the same time may mix their pieces. The wire neither loses nor reorders bytes,
and it delivers them in pieces of any size. `OnReceive` calls `ReceiveMessage`, so the io thread
of the receiver is inside `Enqueue` before it can run the next completion handler.

`sent` is a ghost: the messages in the order in which their `SendBytes` took the lock.
-/

set_option autoImplicit false

namespace ChatCore.Network

open ChatCore.Api
open ChatCore.Lib (Json Lts)

/-- One direction of a connection. -/
structure Transport where
  sendSide : Connection := {}
  /-- For each outstanding write, the bytes that are not on the wire yet. -/
  unsent : List (List UInt8) := []
  /-- The bytes that were written and have not arrived. -/
  wire : List UInt8 := []
  readSide : ReadRun := {}
  processor : MessageProcessor MessageType Json Message := {}
  sent : List Message := []

/-- A step of one of the threads or of the network. -/
inductive TransportOp where
  /-- The locked section of `SendBytes`, for the bytes that `Encode` makes of a message. -/
  | send (message : Message)
  | sendNext
  | asyncWrite (i : Nat)
  /-- The first `n` bytes that the `i`-th outstanding write has left go on the wire. -/
  | transmit (i n : Nat)
  | writeComplete (i : Nat)
  /-- The first `n` bytes of the wire arrive. -/
  | arrive (n : Nat)
  | readComplete (movedFrom : List UInt8)
  | readError
  /-- The locked section of `Enqueue`. -/
  | emplace
  | swap
  | run
  | stop

namespace Transport

variable (json : JsonLibrary) (connectionId : Nat)

/-- `ReceiveMessage` for the payloads that a completion handler passes to `OnReceive`. -/
def receive (s : Transport) (events : List ConnectionEvent) : Transport :=
  { s with
    processor := events.foldl
      (fun processor event =>
        match event with
        | .received bytes => processor.enqueue (jsonNetworkCodec json) connectionId bytes
        | .disconnected => processor) s.processor }

/-- A completion handler of the read side, when the io thread is not inside `Enqueue`. -/
def readHandler (s : Transport) (result : Option (ReadLoop × List ConnectionEvent)) :
    Option Transport :=
  if s.processor.enqueuing.isEmpty then
    result.map fun result =>
      { s with readSide := s.readSide.handled result }.receive json connectionId result.2
  else none

/-- A step of the receiver's processor. -/
def process (s : Transport) (op : ProcessorOp) : Option Transport :=
  (s.processor.step (jsonNetworkCodec json) op).map fun processor => { s with processor }

/-- One step of the transport. -/
def step (s : Transport) : TransportOp → Option Transport
  | .send message =>
    (s.sendSide.step (.sendBytes (JsonNetworkCodec.encode json message))).map fun sendSide =>
      { s with sendSide, sent := s.sent ++ [message] }
  | .sendNext => (s.sendSide.step .sendNext).map fun sendSide => { s with sendSide }
  | .asyncWrite i =>
    (s.sendSide.popped[i]?).bind fun bytes =>
      (s.sendSide.step (.asyncWrite i)).map fun sendSide =>
        { s with sendSide, unsent := s.unsent ++ [bytes] }
  | .transmit i n =>
    (s.unsent[i]?).bind fun bytes =>
      if 0 < n ∧ n ≤ bytes.length then
        some { s with unsent := s.unsent.set i (bytes.drop n), wire := s.wire ++ bytes.take n }
      else none
  | .writeComplete i =>
    -- The completion handler runs when all of the buffer is written.
    if s.unsent[i]? = some [] then
      (s.sendSide.step (.complete i)).map fun sendSide =>
        { s with sendSide, unsent := s.unsent.eraseIdx i }
    else none
  | .arrive n =>
    if 0 < n ∧ n ≤ s.wire.length then
      (s.readSide.step (.arrive (s.wire.take n))).map fun readSide =>
        { s with readSide, wire := s.wire.drop n }
    else none
  | .readComplete movedFrom =>
    s.readHandler json connectionId (s.readSide.toReadLoop.complete movedFrom)
  | .readError => s.readHandler json connectionId s.readSide.toReadLoop.fail
  | .emplace => s.process json (.emplace 0)
  | .swap => s.process json .swap
  | .run => s.process json .run
  | .stop => s.process json .stop

end Transport

/-- The runs of one direction of a connection. The receiver knows the connection by
`connectionId`. -/
def transport (json : JsonLibrary) (connectionId : Nat) : Lts Transport TransportOp where
  start s := s = {}
  step := Transport.step json connectionId

end ChatCore.Network
