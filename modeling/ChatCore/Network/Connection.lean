import Mathlib.Algebra.GroupWithZero.Nat
import ChatCore.Lib.Lts

/-!
# `ChatCore.Network.Connection`: the send side of `BoostTcpConnection`

`SendBytes` puts a frame into `outgoing_bytes_` and calls `SendNext` when the frame is the only
one in the queue. `SendNext` pops the front of the queue and passes it to `async_write`, whose
completion handler calls `SendNext` again.

The queue is behind `mutex_`, so a step is one locked section or one call of `async_write`.
Any thread may call `SendBytes`, and any number of calls may stand between two sections. A
call of `SendNext` therefore has two steps, the pop and the `async_write`. The completion
handlers are the successful ones. The fields `handed` and `enqueued` are ghosts.
-/

set_option autoImplicit false

namespace ChatCore.Network

open ChatCore.Lib (Lts)

/-- `htonl(static_cast<std::uint32_t>(length))`, as the four bytes in memory. -/
def networkLength (length : Nat) : List UInt8 :=
  [length / 2 ^ 24, length / 2 ^ 16, length / 2 ^ 8, length].map UInt8.ofNat

/-- The buffer that `SendBytes` builds: the length in network order and the bytes. -/
def frame (bytes : List UInt8) : List UInt8 := networkLength bytes.length ++ bytes

/-- The send side of a connection. -/
structure Connection where
  outgoingBytes : List (List UInt8) := []
  /-- The calls of `SendNext` that have not taken the lock yet. -/
  sendNextCalls : Nat := 0
  /-- The frames that a call of `SendNext` popped and has not passed on yet. -/
  popped : List (List UInt8) := []
  /-- The writes whose completion handler has not run yet. -/
  outstanding : List (List UInt8) := []
  /-- The frames that were passed to `async_write`, in order. -/
  handed : List (List UInt8) := []
  /-- The frames that `SendBytes` put into the queue, in order. -/
  enqueued : List (List UInt8) := []

/-- A step of one of the threads. `asyncWrite` and `complete` choose a frame by its index. -/
inductive SendOp where
  | sendBytes (bytes : List UInt8)
  | sendNext
  | asyncWrite (i : Nat)
  | complete (i : Nat)

namespace Connection

/-- The locked section of `SendBytes`. It returns when the queue has more than one frame, and
goes on to call `SendNext` otherwise. -/
def sendBytes (s : Connection) (bytes : List UInt8) : Connection :=
  let s := { s with
    outgoingBytes := s.outgoingBytes ++ [frame bytes]
    enqueued := s.enqueued ++ [frame bytes] }
  -- The length counts the new frame, and a frame that `SendNext` popped is not in it.
  if s.outgoingBytes.length > 1 then s else { s with sendNextCalls := s.sendNextCalls + 1 }

/-- The locked section of a call of `SendNext`. -/
def sendNext (s : Connection) : Connection :=
  match s.outgoingBytes with
  -- A call that finds the queue empty returns, and no write keeps the chain going.
  | [] => s
  | bytes :: rest => { s with outgoingBytes := rest, popped := s.popped ++ [bytes] }

/-- One step of the send side. -/
def step (s : Connection) : SendOp → Option Connection
  | .sendBytes bytes => some (s.sendBytes bytes)
  | .sendNext =>
    match s.sendNextCalls with
    | 0 => none
    | calls + 1 => some ({ s with sendNextCalls := calls }.sendNext)
  | .asyncWrite i =>
    (s.popped[i]?).map fun bytes =>
      { s with
        popped := s.popped.eraseIdx i
        outstanding := s.outstanding ++ [bytes]
        handed := s.handed ++ [bytes] }
  | .complete i =>
    if i < s.outstanding.length then
      some { s with
        outstanding := s.outstanding.eraseIdx i
        sendNextCalls := s.sendNextCalls + 1 }
    else none

/-- No call of `SendNext` is under way and no write is outstanding. -/
def Idle (s : Connection) : Prop :=
  s.sendNextCalls = 0 ∧ s.popped = [] ∧ s.outstanding = []

instance (s : Connection) : Decidable s.Idle := inferInstanceAs (Decidable (_ ∧ _))

end Connection

/-- The runs of the send side. -/
def sends : Lts Connection SendOp where
  start s := s = {}
  step := Connection.step

end ChatCore.Network
