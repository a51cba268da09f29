import ChatCore.Api.RpcCalls
import ChatCore.Scheduling.SchedulingSystem
import Mathlib.Logic.Function.Basic

/-!
# `ChatCore.Network.RpcSystem`: remote calls, their subscriptions and their timeouts

`RpcSystem` with `ObservableMessageHandler` and `SchedulerRpcTimeoutHandler`. `Call` subscribes
to the response and to the error type of the request, registers both subscriptions in `calls_`,
schedules the timeout and sends the request. An incoming message is emitted to the slots of its
type. The slot of a call and the timeout task of a call end in `HandleCallback`, which takes the
entry out of `calls_`, cancels the timeout and invokes the callback.

A step is one locked section, or one access to shared state outside the locks. Any number of
calls, of emissions and of threads may be under way. `Call` is run at most once for a prepared
call, because it moves the request and the callbacks out of the builder. The scheduler is the one
of `SchedulingSystem`, and its steps are steps of this system.

The system is generic in the message types, like the source. `next_id_` has 64 bits and does not
wrap around. `received` and `invoked` are ghosts: the messages that were emitted, and the
callbacks that were invoked.
-/

set_option autoImplicit false

namespace ChatCore.Network

open ChatCore.Api (Message MessageType)
open ChatCore.Lib (Lts)
open ChatCore.Scheduling (SchedulingOp SchedulingSystem)

/-- The message types of a system. `response` and `error` are the specialisations of `RpcCall`. -/
structure RpcApi (Kind Message : Type) where
  kind : Message → Kind
  requestId : Message → Option Nat
  response : Kind → Option Kind
  error : Kind → Option Kind

/-- Which of the two subscriptions of a call. -/
inductive Answer where
  | success
  | error
  deriving DecidableEq

/-- `RpcCallBuilder`: a call as `Prepare` and the setters leave it. Of a callback it is recorded
whether it is there. -/
structure RpcCallBuilder (Kind : Type) where
  requestId : Nat
  connectionId : Nat
  responseType : Kind
  errorType : Kind
  callback : Bool
  errorCallback : Bool
  timeoutCallback : Bool
  timeoutDuration : Option Int

/-- The message type that a subscription of the call is for. -/
def RpcCallBuilder.answerType {Kind : Type} (call : RpcCallBuilder Kind) : Answer → Kind
  | .success => call.responseType
  | .error => call.errorType

/-- `SignalSubscription`: a slot of the signal of one message type. -/
structure Subscription (Kind : Type) where
  type : Kind
  id : Nat
  deriving DecidableEq

/-- An element of `slots_`. The slot belongs to the prepared call with the given number, or to
another subscriber of the message handler. -/
structure Slot (Kind : Type) where
  subscription : Subscription Kind
  owner : Option (Nat × Answer)

/-- `RpcPendingCall`. -/
structure RpcPendingCall (Kind : Type) where
  successSubscription : Subscription Kind
  errorSubscription : Subscription Kind

/-- Where `Call` stands. -/
inductive CallStage (Kind : Type) where
  | prepared
  /-- After the first `Subscribe`. -/
  | successSubscribed (success : Subscription Kind)
  /-- After both, before the lock. -/
  | subscribed (success error : Subscription Kind)
  /-- After the locked section. -/
  | emplaced
  /-- In `ScheduleAfter`, which has taken the id of the task. -/
  | scheduling (task : Nat)
  /-- After `ScheduleTimeout`. -/
  | scheduled
  | returned

/-- What a callback is invoked with. -/
inductive Outcome (Message : Type) where
  | answered (answer : Answer) (connectionId : Nat) (message : Message)
  | timedOut

/-- The call has a callback for the outcome. -/
def RpcCallBuilder.hasCallback {Kind Message : Type} (call : RpcCallBuilder Kind) :
    Outcome Message → Bool
  | .answered .success _ _ => call.callback
  | .answered .error _ _ => call.errorCallback
  | .timedOut => call.timeoutCallback

/-- The threads that run `HandleCallback`: the one of an emission, or the scheduler thread. -/
inductive CallbackThread where
  | emission (i : Nat)
  | scheduler
  deriving DecidableEq

/-- Where `HandleCallback` stands. -/
inductive HandleStage (Kind : Type) where
  /-- Before the lock. -/
  | entered
  /-- The entry is out of `calls_`. Its destructor unsubscribes the error first. -/
  | erased (entry : RpcPendingCall Kind)
  | erasedError (success : Subscription Kind)
  /-- Before the lock of `CancelTimeout`. -/
  | cancelling
  /-- Before the lock of `RemoveTask`. -/
  | removing (task : Nat)
  /-- In `RemoveTask`, after the lock. -/
  | notifying (task : Nat)
  /-- Before the callback. -/
  | finishing

/-- A call of `HandleCallback`. -/
structure Handling (Kind Message : Type) where
  call : Nat
  outcome : Outcome Message
  stage : HandleStage Kind

/-- A call of `Emit`, with the ids in `buffer` that are left. -/
structure Emission (Message : Type) where
  connectionId : Nat
  message : Message
  buffer : List Nat

/-- An invocation of a callback. -/
structure Invocation (Message : Type) where
  call : Nat
  outcome : Outcome Message

/-- `RpcSystem`, with the message handler, the timeout handler and the scheduler. -/
structure RpcSystem (Kind Message : Type) where
  nextId : Nat := 1
  /-- The calls that were prepared. -/
  prepared : List (RpcCallBuilder Kind) := []
  stage : Nat → CallStage Kind := fun _ => .prepared
  /-- `calls_`. -/
  calls : Nat → Option (RpcPendingCall Kind) := fun _ => none
  slots : List (Slot Kind) := []
  /-- `id_counter_`, one for each message type. -/
  idCounter : Kind → Nat := fun _ => 0
  emissions : List (Emission Message) := []
  handling : CallbackThread → Option (Handling Kind Message) := fun _ => none
  /-- `timeouts_`. -/
  timeouts : Nat → Option Nat := fun _ => none
  /-- The call that the callback of a task captures, for the tasks of `ScheduleTimeout`. -/
  timeoutTasks : Nat → Option Nat := fun _ => none
  scheduler : SchedulingSystem := {}
  received : List (Nat × Message) := []
  invoked : List (Invocation Message) := []

/-- A step of one of the threads. Calls and emissions are known by their numbers. -/
inductive RpcOp (Kind Message : Type) where
  | prepare (type : Kind) (connectionId : Nat) (callback errorCallback timeoutCallback : Bool)
      (timeoutDuration : Option Int)
  | subscribeSuccess (call : Nat)
  | subscribeError (call : Nat)
  | emplace (call : Nat)
  /-- `ScheduleAfter` up to the lock. `byCallback` says that a task of the scheduler calls it. -/
  | schedule (call : Nat) (byCallback : Bool)
  /-- The locked section of `ScheduleTimeout`. -/
  | record (call : Nat)
  | send (call : Nat)
  /-- Another part of the program subscribes, or drops the subscription of the `i`-th slot. -/
  | subscribe (type : Kind)
  | unsubscribe (i : Nat)
  /-- A message is passed to the message handler. -/
  | emit (connectionId : Nat) (message : Message)
  /-- The emission takes the `i`-th of the ids that are left. -/
  | deliver (emission i : Nat)
  /-- The next step of `HandleCallback`. -/
  | handle (thread : CallbackThread)
  | schedulerStep (op : SchedulingOp)

namespace RpcSystem

variable {Kind Message : Type} [DecidableEq Kind] (api : RpcApi Kind Message)

/-- `SignalState::Subscribe` on the signal of a type: the slot gets the next id. -/
def subscribe (s : RpcSystem Kind Message) (type : Kind) (owner : Option (Nat × Answer)) :
    RpcSystem Kind Message :=
  { s with
    slots := s.slots ++ [⟨⟨type, s.idCounter type⟩, owner⟩]
    idCounter := Function.update s.idCounter type (s.idCounter type + 1) }

/-- `SignalSubscription::Unsubscribe`. -/
def unsubscribe (s : RpcSystem Kind Message) (subscription : Subscription Kind) :
    RpcSystem Kind Message :=
  { s with slots := s.slots.filter (·.subscription ≠ subscription) }

def setStage (s : RpcSystem Kind Message) (call : Nat) (stage : CallStage Kind) :
    RpcSystem Kind Message :=
  { s with stage := Function.update s.stage call stage }

def setHandling (s : RpcSystem Kind Message) (thread : CallbackThread)
    (handling : Option (Handling Kind Message)) : RpcSystem Kind Message :=
  { s with handling := Function.update s.handling thread handling }

/-- `Prepare`, and the setters of the builder. -/
def prepare (s : RpcSystem Kind Message) (type : Kind) (connectionId : Nat)
    (callback errorCallback timeoutCallback : Bool) (timeoutDuration : Option Int) :
    Option (RpcSystem Kind Message) := do
  let responseType ← api.response type
  let errorType ← api.error type
  return { s with
    nextId := s.nextId + 1
    prepared := s.prepared ++ [{
      requestId := s.nextId
      connectionId := connectionId
      responseType := responseType
      errorType := errorType
      callback := callback
      errorCallback := errorCallback
      timeoutCallback := timeoutCallback
      timeoutDuration := timeoutDuration }] }

/-- The locked section of `Call`. Subscriptions that `try_emplace` does not take are destroyed. -/
def emplace (s : RpcSystem Kind Message) (requestId : Nat) (entry : RpcPendingCall Kind) :
    RpcSystem Kind Message :=
  match s.calls requestId with
  | none => { s with calls := Function.update s.calls requestId (some entry) }
  | some _ => (s.unsubscribe entry.errorSubscription).unsubscribe entry.successSubscription

/-- The lambdas that `Call` subscribes, up to `HandleCallback`. -/
def runSlot (s : RpcSystem Kind Message) (thread : CallbackThread) (call : Nat) (answer : Answer)
    (connectionId : Nat) (message : Message) : RpcSystem Kind Message :=
  match s.prepared[call]? with
  | none => s
  | some builder =>
    if builder.connectionId ≠ connectionId then s
    else if api.requestId message ≠ some builder.requestId then s
    else s.setHandling thread (some ⟨call, .answered answer connectionId message, .entered⟩)

/-- A round of the loop of `Emit`, for the id that the emission takes from its buffer. -/
def deliver (s : RpcSystem Kind Message) (i : Nat) (emission : Emission Message) (id : Nat) :
    RpcSystem Kind Message :=
  match s.slots.find? (·.subscription = ⟨api.kind emission.message, id⟩) with
  | none => s
  | some slot =>
    match slot.owner with
    | none => s
    | some (call, answer) =>
      s.runSlot api (.emission i) call answer emission.connectionId emission.message

/-- The lambda that `Call` passes to `ScheduleTimeout`, up to `HandleCallback`, when the scheduler
has called the callback of a task. -/
def runTimeout (s : RpcSystem Kind Message) : RpcSystem Kind Message :=
  match s.scheduler.thread.running.bind s.timeoutTasks with
  | none => s
  | some call => s.setHandling .scheduler (some ⟨call, .timedOut, .entered⟩)

/-- The step is one of the scheduler thread. -/
def ofSchedulerThread : SchedulingOp → Bool
  | .advance | .call _ | .wake => true
  | _ => false

/-- The next step of a call of `HandleCallback`. -/
def handle (s : RpcSystem Kind Message) (thread : CallbackThread)
    (handling : Handling Kind Message) (builder : RpcCallBuilder Kind) :
    Option (RpcSystem Kind Message) :=
  let next (s : RpcSystem Kind Message) (stage : HandleStage Kind) :=
    s.setHandling thread (some { handling with stage := stage })
  match handling.stage with
  | .entered =>
    match s.calls builder.requestId with
    | none => some (s.setHandling thread none)
    | some entry =>
      some (next { s with calls := Function.update s.calls builder.requestId none } (.erased entry))
  | .erased entry =>
    some (next (s.unsubscribe entry.errorSubscription) (.erasedError entry.successSubscription))
  | .erasedError success => some (next (s.unsubscribe success) .cancelling)
  | .cancelling =>
    match s.timeouts builder.requestId with
    | none => some (next s .finishing)
    | some task =>
      some (next { s with timeouts := Function.update s.timeouts builder.requestId none }
        (.removing task))
  | .removing task =>
    (s.scheduler.step (.erase task (thread = .scheduler))).map fun scheduler =>
      next { s with scheduler := scheduler } (.notifying task)
  | .notifying task =>
    -- `RemoveTask` has returned.
    if ⟨task, thread = .scheduler⟩ ∈ s.scheduler.removing then none else some (next s .finishing)
  | .finishing =>
    let s := s.setHandling thread none
    some (if builder.hasCallback handling.outcome then
      { s with invoked := s.invoked ++ [⟨handling.call, handling.outcome⟩] } else s)

/-- One step of the system. -/
def step (s : RpcSystem Kind Message) : RpcOp Kind Message → Option (RpcSystem Kind Message)
  | .prepare type connectionId callback errorCallback timeoutCallback timeoutDuration =>
    s.prepare api type connectionId callback errorCallback timeoutCallback timeoutDuration
  | .subscribeSuccess call =>
    match s.prepared[call]?, s.stage call with
    | some builder, .prepared =>
      some ((s.subscribe builder.responseType (some (call, .success))).setStage call
        (.successSubscribed ⟨builder.responseType, s.idCounter builder.responseType⟩))
    | _, _ => none
  | .subscribeError call =>
    match s.prepared[call]?, s.stage call with
    | some builder, .successSubscribed success =>
      some ((s.subscribe builder.errorType (some (call, .error))).setStage call
        (.subscribed success ⟨builder.errorType, s.idCounter builder.errorType⟩))
    | _, _ => none
  | .emplace call =>
    match s.prepared[call]?, s.stage call with
    | some builder, .subscribed success error =>
      some ((s.emplace builder.requestId ⟨success, error⟩).setStage call .emplaced)
    | _, _ => none
  | .schedule call byCallback =>
    match s.prepared[call]?, s.stage call with
    | some builder, .emplaced =>
      -- `ScheduleTimeout` gets a lambda of `Call`, which is never empty.
      builder.timeoutDuration.bind fun duration =>
        (s.scheduler.step (.addTask duration true byCallback)).map fun scheduler =>
          { s with
            scheduler := scheduler
            timeoutTasks := Function.update s.timeoutTasks s.scheduler.nextId (some call) }.setStage
              call (.scheduling s.scheduler.nextId)
    | _, _ => none
  | .record call =>
    match s.prepared[call]?, s.stage call with
    | some builder, .scheduling task =>
      -- `AddTask` has returned.
      if task ∈ s.scheduler.handles then
        some ({ s with
          timeouts := Function.update s.timeouts builder.requestId (some task) }.setStage
            call .scheduled)
      else none
    | _, _ => none
  | .send call =>
    match s.prepared[call]?, s.stage call with
    | some builder, .emplaced =>
      if builder.timeoutDuration.isNone then some (s.setStage call .returned) else none
    | some _, .scheduled => some (s.setStage call .returned)
    | _, _ => none
  | .subscribe type => some (s.subscribe type none)
  | .unsubscribe i =>
    match s.slots[i]? with
    | some ⟨_, none⟩ => some { s with slots := s.slots.eraseIdx i }
    | _ => none
  | .emit connectionId message =>
    -- `Emit` copies the ids of the slots of the type.
    some { s with
      emissions := s.emissions ++ [{
        connectionId := connectionId
        message := message
        buffer := (s.slots.filter (·.subscription.type = api.kind message)).map
          (·.subscription.id) }]
      received := s.received ++ [(connectionId, message)] }
  | .deliver i j =>
    match s.handling (.emission i), s.emissions[i]? with
    | none, some emission =>
      (emission.buffer[j]?).map fun id =>
        { s with
          emissions := s.emissions.set i { emission with buffer := emission.buffer.eraseIdx j }
        }.deliver api i emission id
    | _, _ => none
  | .handle thread =>
    match s.handling thread with
    | none => none
    | some handling =>
      s.prepared[handling.call]?.bind fun builder => s.handle thread handling builder
  | .schedulerStep op =>
    -- The scheduler thread is in `HandleCallback`, and its other steps have to wait.
    if ofSchedulerThread op ∧ (s.handling .scheduler).isSome then none
    else
      (s.scheduler.step op).map fun scheduler =>
        let s := { s with scheduler := scheduler }
        match op with
        | .call _ => s.runTimeout
        | _ => s

end RpcSystem

/-- `RpcSystem` of the client and of the load tester, with `api::MessageTypes`. -/
def chatRpcApi : RpcApi MessageType Message where
  kind := Message.type
  requestId := Message.requestId
  response := MessageType.rpcResponse
  error := MessageType.rpcError

/-- The runs of the system. -/
def rpcs {Kind Message : Type} [DecidableEq Kind] (api : RpcApi Kind Message) :
    Lts (RpcSystem Kind Message) (RpcOp Kind Message) where
  start s := s = {}
  step := RpcSystem.step api

end ChatCore.Network
