import ChatCore.Lib.Lts
import ChatCore.Network.JsonNetworkCodec
import Mathlib.Logic.Function.Basic

/-!
# `ChatCore.Network.MessageProcessor`: the queue between the network and the handlers

`TcpMessageProcessor`. `Enqueue` decodes the envelope and looks the type up on the calling
thread, and puts a task into the queue under the lock, unless `Stop` was called before.
`ProcessBlocking` on the application thread swaps the queue into a buffer of its own and runs
the tasks of the buffer. A task decodes the payload and passes the message to the handler.

Any number of threads may be inside `Enqueue`, between the decoding and the lock. The
application thread waits on the queue only when its buffer is empty. `inputs` and `handled` are
ghosts: the inputs whose `Enqueue` is through, and the calls of `HandleMessage`.
-/

set_option autoImplicit false

namespace ChatCore.Network

open ChatCore.Api
open ChatCore.Lib (Json Lts)

/-- The codec and the message types of a processor. -/
structure NetworkCodec (Kind Payload Message : Type) where
  types : List Kind
  typeId : Kind → Nat
  decodeEnvelope : List UInt8 → Option (Nat × Payload)
  decode : Kind → Payload → Option Message

/-- `CreateMessageHandlerLookup`: the type whose `HandleMessage` is called for an id. -/
def NetworkCodec.createMessageHandlerLookup {Kind Payload Message : Type}
    (codec : NetworkCodec Kind Payload Message) : Nat → Option Kind :=
  codec.types.foldl
    (fun lookup type => Function.update lookup (codec.typeId type) (some type)) fun _ => none

/-- An element of `tasks_`: what the lambda captures. -/
structure Task (Kind Payload : Type) where
  type : Kind
  connectionId : Nat
  payload : Payload

/-- The arguments of a call of `Enqueue`. -/
abbrev Input := Nat × List UInt8

/-- `TcpMessageProcessor`. -/
structure MessageProcessor (Kind Payload Message : Type) where
  tasks : List (Task Kind Payload) := []
  stopped : Bool := false
  /-- The buffer of `ProcessBlocking`. -/
  buffer : List (Task Kind Payload) := []
  /-- The calls of `Enqueue` that have not taken the lock yet. -/
  enqueuing : List (Input × Task Kind Payload) := []
  inputs : List Input := []
  handled : List (Nat × Message) := []

/-- A step of one of the threads. -/
inductive ProcessorOp where
  /-- `Enqueue` up to the lock. -/
  | enqueue (connectionId : Nat) (bytes : List UInt8)
  /-- The locked section of the `i`-th pending call of `Enqueue`. -/
  | emplace (i : Nat)
  /-- The locked section of `ProcessBlocking`. -/
  | swap
  /-- The next task of the buffer. -/
  | run
  | stop

namespace MessageProcessor

variable {Kind Payload Message : Type} (codec : NetworkCodec Kind Payload Message)

/-- `Enqueue` up to the lock. -/
def enqueue (s : MessageProcessor Kind Payload Message) (connectionId : Nat)
    (bytes : List UInt8) : MessageProcessor Kind Payload Message :=
  let dropped := if s.stopped then s else { s with inputs := s.inputs ++ [(connectionId, bytes)] }
  match codec.decodeEnvelope bytes with
  | none => dropped
  | some (typeId, payload) =>
    match codec.createMessageHandlerLookup typeId with
    | none => dropped
    | some type =>
      { s with enqueuing := s.enqueuing ++ [((connectionId, bytes), ⟨type, connectionId, payload⟩)] }

/-- The locked section of a call of `Enqueue`. -/
def emplace (s : MessageProcessor Kind Payload Message) (input : Input)
    (task : Task Kind Payload) : MessageProcessor Kind Payload Message :=
  if s.stopped then s else { s with tasks := s.tasks ++ [task], inputs := s.inputs ++ [input] }

/-- A task: `HandleMessage<TMessage>` of the processor. -/
def runTask (s : MessageProcessor Kind Payload Message) (task : Task Kind Payload) :
    MessageProcessor Kind Payload Message :=
  match codec.decode task.type task.payload with
  | none => s
  | some message => { s with handled := s.handled ++ [(task.connectionId, message)] }

/-- One step of the processor. -/
def step (s : MessageProcessor Kind Payload Message) :
    ProcessorOp → Option (MessageProcessor Kind Payload Message)
  | .enqueue connectionId bytes => some (s.enqueue codec connectionId bytes)
  | .emplace i =>
    (s.enqueuing[i]?).map fun (input, task) =>
      { s with enqueuing := s.enqueuing.eraseIdx i }.emplace input task
  | .swap =>
    -- The wait is over when the processor is stopped or has tasks. A stopped one returns.
    if s.buffer.isEmpty ∧ ¬ s.stopped ∧ ¬ s.tasks.isEmpty then
      some { s with tasks := [], buffer := s.tasks }
    else none
  | .run =>
    match s.buffer with
    | [] => none
    | task :: rest => some ({ s with buffer := rest }.runTask codec task)
  | .stop => some { s with stopped := true }

end MessageProcessor

/-- The runs of a processor. -/
def processing {Kind Payload Message : Type} (codec : NetworkCodec Kind Payload Message) :
    Lts (MessageProcessor Kind Payload Message) ProcessorOp where
  start s := s = {}
  step := MessageProcessor.step codec

/-- What an input means: the message that its bytes decode to, with its connection. -/
def NetworkCodec.receive {Kind Payload Message : Type} (codec : NetworkCodec Kind Payload Message)
    (input : Input) : Option (Nat × Message) := do
  let (typeId, payload) ← codec.decodeEnvelope input.2
  let type ← codec.createMessageHandlerLookup typeId
  let message ← codec.decode type payload
  return (input.1, message)

/-- `JsonNetworkCodec` with `api::MessageTypes`. -/
def jsonNetworkCodec (json : JsonLibrary) : NetworkCodec MessageType Json Message where
  types := messageTypes
  typeId := MessageType.typeId
  decodeEnvelope := JsonNetworkCodec.decodeEnvelope json
  decode := JsonNetworkCodec.decode

end ChatCore.Network
