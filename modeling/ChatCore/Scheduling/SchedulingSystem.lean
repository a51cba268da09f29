import ChatCore.Lib.Lts

/-!
# `ChatCore.Scheduling.SchedulingSystem`: the scheduler thread and its clients

`SchedulingSystem`. The scheduler thread (`ProcessTasks`) collects the due callbacks under the
lock, runs them with the lock released, and sleeps on the condition variable until the next task
is due. Any thread may call `AddTask`, `RemoveTask` and `Deinitialize`, and a running callback
may call the first two.

A step is one locked section, one access to shared state outside the lock, or one call of
`notify_one`. `SchedulerThread` says where the scheduler thread stands, and whether it holds the
lock. A notification reaches the thread only while it sleeps. A sleep may end at any time: after
a notification, at its deadline, or for no reason, as the condition variable permits.

Time is in nanoseconds. The callback of a task is known by the id of the task. The callbacks of a
round run in any order, because the map of the tasks is unordered.
-/

set_option autoImplicit false

namespace ChatCore.Scheduling

open ChatCore.Lib (Lts)

/-- `ScheduleTask`, without the callback. -/
structure ScheduleTask where
  id : Nat
  interval : Nat
  scheduledTimePoint : Nat
  once : Bool
  deriving DecidableEq

/-- `15ms`. -/
def minInterval : Nat := 15000000

/-- The interval of a task: short and negative ones become `15ms`. -/
def clampInterval (interval : Int) : Nat :=
  if interval ≤ minInterval then minInterval else interval.toNat

/-- `std::min` of a wake-up time, where `none` is `time_point::max()`, and a time. -/
def earlier (wake : Option Nat) (time : Nat) : Option Nat :=
  some (wake.elim time (min · time))

/-- The wake-up time is not after the time. -/
def noLater (wake : Option Nat) (time : Nat) : Prop := ∃ t, wake = some t ∧ t ≤ time

instance (wake : Option Nat) (time : Nat) : Decidable (noLater wake time) :=
  match wake with
  | none => isFalse fun ⟨_, h, _⟩ => nomatch h
  | some t => decidable_of_iff (t ≤ time)
    ⟨fun h => ⟨t, rfl, h⟩, fun ⟨_, h, hle⟩ => Option.some.inj h ▸ hle⟩

/-- The variables of a round of `ProcessTasks`. `tasks` are the tasks that it has visited. -/
structure Round where
  callbacks : List Nat := []
  deletedTasks : List Nat := []
  nextWakeTime : Option Nat := none
  tasks : List ScheduleTask := []

/-- The body of the loop over the tasks. -/
def Round.visit (now : Nat) (r : Round) (task : ScheduleTask) : Round :=
  if task.scheduledTimePoint ≤ now then
    let task := { task with scheduledTimePoint := now + task.interval }
    let r := { r with callbacks := r.callbacks ++ [task.id], tasks := r.tasks ++ [task] }
    -- A task that runs once does not count for the wake-up time.
    if task.once then { r with deletedTasks := r.deletedTasks ++ [task.id] }
    else { r with nextWakeTime := earlier r.nextWakeTime task.scheduledTimePoint }
  else
    { r with
      tasks := r.tasks ++ [task]
      nextWakeTime := earlier r.nextWakeTime task.scheduledTimePoint }

/-- The loop over the tasks. -/
def round (now : Nat) (tasks : List ScheduleTask) : Round := tasks.foldl (Round.visit now) {}

/-- Where `ProcessTasks` stands. -/
inductive SchedulerThread where
  /-- Before the test of the outer loop. -/
  | outer
  /-- Before the lock is taken. -/
  | locking
  /-- Before the test of the inner loop, with the lock. -/
  | inner
  /-- Running the callbacks of a round, without the lock. -/
  | callbacks (pending : List Nat) (running : Option Nat) (deletedTasks : List Nat)
      (nextWakeTime : Option Nat)
  /-- Before `wait_until`, with the lock. -/
  | aboutToWait (nextWakeTime : Option Nat)
  /-- In `wait_until`. -/
  | sleeping (deadline : Option Nat) (notified : Bool)
  /-- After `wait_until`, with the lock. -/
  | woke
  /-- Before the predicate of `wait`, with the lock. -/
  | predicate
  /-- The predicate was false: before the thread blocks, with the lock. -/
  | blocking
  /-- Blocked in `wait`. -/
  | waiting (notified : Bool)
  /-- After `wait`, with the lock. -/
  | afterWait
  | done
  deriving DecidableEq

namespace SchedulerThread

/-- The thread holds `mutex_`. -/
def holdsLock : SchedulerThread → Bool
  | .inner | .aboutToWait _ | .woke | .predicate | .blocking | .afterWait => true
  | .outer | .locking | .callbacks _ _ _ _ | .sleeping _ _ | .waiting _ | .done => false

/-- The callback that is running. -/
def running : SchedulerThread → Option Nat
  | .callbacks _ running _ _ => running
  | _ => none

/-- The callbacks of the round that have not returned. -/
def unfinished : SchedulerThread → List Nat
  | .callbacks pending running _ _ => running.toList ++ pending
  | _ => []

/-- `notify_one`. -/
def notify : SchedulerThread → SchedulerThread
  | .sleeping deadline _ => .sleeping deadline true
  | .waiting _ => .waiting true
  | thread => thread

end SchedulerThread

/-- A call of `AddTask`. `byCallback` says that the running callback makes it. -/
structure AddCall where
  task : ScheduleTask
  byCallback : Bool
  deriving DecidableEq

/-- A call of `RemoveTask`. -/
structure RemoveCall where
  handle : Nat
  byCallback : Bool
  deriving DecidableEq

/-- `SchedulingSystem`, with the calls that are under way. -/
structure SchedulingSystem where
  /-- `steady_clock::now()`. -/
  now : Nat := 0
  nextId : Nat := 1
  tasks : List ScheduleTask := []
  thread : SchedulerThread := .outer
  /-- The stop token of the thread. -/
  stopRequested : Bool := false
  /-- `Deinitialize` has called `notify_one`. -/
  stopNotified : Bool := false
  /-- The calls of `AddTask` before the lock. -/
  adding : List AddCall := []
  /-- The calls of `AddTask` before `notify_one`. -/
  added : List AddCall := []
  /-- The calls of `RemoveTask` before `notify_one`. -/
  removing : List RemoveCall := []
  /-- The handles that `AddTask` has returned. -/
  handles : List Nat := []
  /-- The handles whose `RemoveTask` has returned, when it was not called by the callback of the
  task itself. A ghost. -/
  removed : List Nat := []

/-- A step of one of the threads. -/
inductive SchedulingOp where
  | tick (elapsed : Nat)
  /-- `AddTask` up to the lock. -/
  | addTask (interval : Int) (once byCallback : Bool)
  /-- The locked section of the `i`-th call in `adding`. -/
  | emplace (i : Nat)
  | notifyAdd (i : Nat)
  /-- The locked section of `RemoveTask`. -/
  | erase (handle : Nat) (byCallback : Bool)
  | notifyRemove (i : Nat)
  | requestStop
  | notifyStop
  /-- The next step of `ProcessTasks`, where it is determined. -/
  | advance
  /-- `ProcessTasks` calls the `i`-th of the callbacks that are left. -/
  | call (i : Nat)
  /-- The sleep of the thread ends, and it takes the lock again. -/
  | wake
  deriving DecidableEq

namespace SchedulingSystem

/-- `cv_.notify_one()`. -/
def notifyOne (s : SchedulingSystem) : SchedulingSystem := { s with thread := s.thread.notify }

/-- The task that `AddTask` makes of its arguments. -/
def newTask (s : SchedulingSystem) (interval : Int) (once : Bool) : ScheduleTask where
  id := s.nextId
  interval := clampInterval interval
  scheduledTimePoint := s.now + clampInterval interval
  once := once

/-- The running callback is inside a call of `AddTask` or `RemoveTask`. -/
def callbackCalls (s : SchedulingSystem) : Bool :=
  s.adding.any (·.byCallback) || s.added.any (·.byCallback) || s.removing.any (·.byCallback)

/-- A round of `ProcessTasks` up to the release of the lock. -/
def collect (s : SchedulingSystem) : SchedulingSystem :=
  let r := round s.now s.tasks
  { s with tasks := r.tasks, thread := .callbacks r.callbacks none r.deletedTasks r.nextWakeTime }

/-- The next step of `ProcessTasks`. -/
def advance (s : SchedulingSystem) : Option SchedulingSystem :=
  match s.thread with
  | .outer => some { s with thread := if s.stopRequested then .done else .locking }
  | .locking => some { s with thread := .inner }
  | .inner => some (if s.tasks.isEmpty then { s with thread := .predicate } else s.collect)
  | .callbacks pending (some _) deleted wake =>
    -- The callback returns, when no call of it is under way.
    if s.callbackCalls then none else some { s with thread := .callbacks pending none deleted wake }
  | .callbacks [] none deleted wake =>
    some { s with
      tasks := s.tasks.filter (·.id ∉ deleted)
      thread := .aboutToWait wake }
  | .callbacks (_ :: _) none _ _ => none
  -- `wait_until` has no predicate, and the stop token is not looked at before it.
  | .aboutToWait wake => some { s with thread := .sleeping wake false }
  | .woke => some { s with thread := if s.stopRequested then .done else .inner }
  | .predicate =>
    some { s with
      thread := if ¬ s.tasks.isEmpty ∨ s.stopRequested then .afterWait else .blocking }
  | .blocking => some { s with thread := .waiting false }
  | .afterWait => some { s with thread := if s.stopRequested then .done else .outer }
  | .sleeping _ _ | .waiting _ | .done => none

/-- One step of the system. -/
def step (s : SchedulingSystem) : SchedulingOp → Option SchedulingSystem
  | .tick elapsed => some { s with now := s.now + elapsed }
  | .addTask interval once byCallback =>
    if byCallback → s.thread.running.isSome then
      some { s with
        nextId := s.nextId + 1
        adding := s.adding ++ [⟨s.newTask interval once, byCallback⟩] }
    else none
  | .emplace i =>
    if s.thread.holdsLock then none
    else
      (s.adding[i]?).map fun call =>
        { s with
          tasks := s.tasks ++ [call.task]
          adding := s.adding.eraseIdx i
          added := s.added ++ [call] }
  | .notifyAdd i =>
    (s.added[i]?).map fun call =>
      { s with added := s.added.eraseIdx i, handles := s.handles ++ [call.task.id] }.notifyOne
  | .erase handle byCallback =>
    if s.thread.holdsLock then none
    -- A handle is one that `AddTask` has returned, or the default.
    else if (handle ∈ s.handles ∨ handle = 0) ∧ (byCallback → s.thread.running.isSome) then
      some { s with
        tasks := s.tasks.filter (·.id ≠ handle)
        removing := s.removing ++ [⟨handle, byCallback⟩] }
    else none
  | .notifyRemove i =>
    (s.removing[i]?).map fun call =>
      let own := call.byCallback ∧ s.thread.running = some call.handle
      { s with
        removing := s.removing.eraseIdx i
        removed := if own then s.removed else s.removed ++ [call.handle] }.notifyOne
  | .requestStop => some { s with stopRequested := true }
  | .notifyStop =>
    if s.stopRequested ∧ ¬ s.stopNotified then
      some { s with stopNotified := true }.notifyOne
    else none
  | .advance => s.advance
  | .call i =>
    match s.thread with
    | .callbacks pending none deleted wake =>
      (pending[i]?).map fun id =>
        { s with thread := .callbacks (pending.eraseIdx i) (some id) deleted wake }
    | _ => none
  | .wake =>
    match s.thread with
    | .sleeping _ _ => some { s with thread := .woke }
    | .waiting _ => some { s with thread := .predicate }
    | _ => none

end SchedulingSystem

/-- The runs of the system, from `Initialize`. -/
def schedulings : Lts SchedulingSystem SchedulingOp where
  start s := s = {}
  step := SchedulingSystem.step

end ChatCore.Scheduling
