import ChatCore.Network.MessageProcessor

/-!
# `ChatCore.Network.MessageLoop`: the application thread and its condition variable

`MessageProcessor` says what `TcpMessageProcessor` does to its queue. This module adds when the
threads get to do it. `ApplicationSystem::Initialize` starts the application thread, which calls
`ProcessBlocking` until its stop token is set. `ProcessBlocking` tests the predicate of `cv_.wait`
under the lock, and either releases the lock and blocks in one step, or leaves the wait and ends
its locked section. `Enqueue` and `Stop` notify after they have released the lock.

`ApplicationSystem::Deinitialize` calls `Stop`, and then the assignment to `application_thread_`
requests the stop and joins the thread. `TcpSystem::Deinitialize` calls `Stop` again.

A step is one locked section, or one access to shared state outside of the lock. A notification
reaches the thread only while it is blocked, and a blocked thread may wake up for no reason.
-/

set_option autoImplicit false

namespace ChatCore.Network

open ChatCore.Lib (Lts)

/-- Where the application thread stands. -/
inductive LoopStage where
  /-- Before the test of the stop token. -/
  | testing
  /-- In `ProcessBlocking`, before it has the lock. -/
  | entering
  /-- Blocked in `cv_.wait`. -/
  | waiting
  /-- In the loop over the buffer. -/
  | running
  | ended
  deriving DecidableEq

/-- A processor, its application thread and the calls that are under way. -/
structure MessageLoop (Kind Payload Message : Type) where
  processor : MessageProcessor Kind Payload Message := {}
  stage : LoopStage := .testing
  /-- The stop token of the thread. -/
  stopRequested : Bool := false
  /-- The calls of `Enqueue` before `notify_one`. -/
  enqueued : Nat := 0
  /-- The calls of `Stop` before `notify_all`. -/
  stopping : Nat := 0

/-- A step of one of the threads. -/
inductive LoopOp where
  /-- `Enqueue` up to the lock. -/
  | enqueue (connectionId : Nat) (bytes : List UInt8)
  /-- The locked section of the `i`-th pending call of `Enqueue`. -/
  | emplace (i : Nat)
  /-- `notify_one` of a call of `Enqueue`. -/
  | notifyOne
  /-- The locked section of `Stop`. -/
  | stop
  /-- `notify_all` of a call of `Stop`. -/
  | notifyAll
  /-- `Deinitialize` requests the stop, after its call of `Stop`. -/
  | requestStop
  /-- The thread wakes up for no reason. -/
  | spurious
  /-- The next step of the application thread. -/
  | advance

/-- The steps that the threads take on their own: they are in the middle of a function. -/
def LoopOp.Internal : LoopOp → Prop
  | .emplace _ | .notifyOne | .notifyAll | .advance => True
  | .enqueue .. | .stop | .requestStop | .spurious => False

namespace MessageLoop

variable {Kind Payload Message : Type} (codec : NetworkCodec Kind Payload Message)

/-- A notification of `cv_`. -/
def wake (s : MessageLoop Kind Payload Message) : MessageLoop Kind Payload Message :=
  if s.stage = .waiting then { s with stage := .entering } else s

/-- The next step of the application thread. -/
def advance (s : MessageLoop Kind Payload Message) : Option (MessageLoop Kind Payload Message) :=
  match s.stage with
  | .testing => some { s with stage := if s.stopRequested then .ended else .entering }
  | .entering =>
    if s.processor.stopped then some { s with stage := .testing }
    else if s.processor.tasks.isEmpty then some { s with stage := .waiting }
    else
      (s.processor.step codec .swap).map fun processor =>
        { s with processor := processor, stage := .running }
  | .running =>
    if s.processor.buffer.isEmpty then some { s with stage := .testing }
    else (s.processor.step codec .run).map fun processor => { s with processor := processor }
  | .waiting | .ended => none

/-- One step of the system. -/
def step (s : MessageLoop Kind Payload Message) :
    LoopOp → Option (MessageLoop Kind Payload Message)
  | .enqueue connectionId bytes =>
    (s.processor.step codec (.enqueue connectionId bytes)).map fun processor =>
      { s with processor := processor }
  | .emplace i =>
    (s.processor.step codec (.emplace i)).map fun processor =>
      -- A stopped processor returns before it notifies.
      { s with
        processor := processor
        enqueued := if s.processor.stopped then s.enqueued else s.enqueued + 1 }
  | .notifyOne => if s.enqueued = 0 then none else some { s with enqueued := s.enqueued - 1 }.wake
  | .stop =>
    (s.processor.step codec .stop).map fun processor =>
      { s with processor := processor, stopping := s.stopping + 1 }
  | .notifyAll => if s.stopping = 0 then none else some { s with stopping := s.stopping - 1 }.wake
  | .requestStop =>
    if s.processor.stopped ∧ s.stopping = 0 then some { s with stopRequested := true } else none
  | .spurious => if s.stage = .waiting then some s.wake else none
  | .advance => s.advance codec

end MessageLoop

/-- The runs of a processor with its application thread. -/
def messageLoops {Kind Payload Message : Type} (codec : NetworkCodec Kind Payload Message) :
    Lts (MessageLoop Kind Payload Message) LoopOp where
  start s := s = {}
  step := MessageLoop.step codec

end ChatCore.Network
