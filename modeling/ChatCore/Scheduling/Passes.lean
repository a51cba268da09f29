import ChatCore.Scheduling.SchedulingSystem

/-!
# `ChatCore.Scheduling.Passes`: the scheduler with the history of its passes

A pass is one iteration of the inner loop of `ProcessTasks`, from the sampling of the clock to the
deletion of the tasks that run once. The history of a run has the arguments of every call of
`AddTask`, and for every pass the time that it sampled, the tasks that it saw and the callbacks
that it has called. The scheduler itself does not read the history.
-/

set_option autoImplicit false

namespace ChatCore.Scheduling

open ChatCore.Lib (Lts)

/-- A call of `AddTask`: the id that it returns, its `steady_clock::now()` and its arguments. -/
structure Request where
  id : Nat
  time : Nat
  duration : Int
  once : Bool
  deriving DecidableEq

/-- A pass of `ProcessTasks`. -/
structure Pass where
  /-- `current_time_point`. -/
  time : Nat
  /-- `tasks_` when the time is sampled. -/
  tasks : List ScheduleTask
  /-- The callbacks that the pass has called, by the id of their task. -/
  invoked : List Nat := []
  deriving DecidableEq

/-- The tasks whose scheduled time the pass has reached. -/
def Pass.due (pass : Pass) : List ScheduleTask :=
  pass.tasks.filter (·.scheduledTimePoint ≤ pass.time)

/-- The callbacks that the pass has still to call. -/
def SchedulerThread.pending : SchedulerThread → List Nat
  | .callbacks pending _ _ _ => pending
  | _ => []

/-- The scheduler with its history. The latest pass comes first. -/
structure SchedulingHistory where
  system : SchedulingSystem := {}
  requests : List Request := []
  passes : List Pass := []

namespace SchedulingHistory

/-- The requests after a step. -/
def requestsAfter (h : SchedulingHistory) : SchedulingOp → List Request
  | .addTask interval once _ => h.requests ++ [⟨h.system.nextId, h.system.now, interval, once⟩]
  | _ => h.requests

/-- The passes after a step. -/
def passesAfter (h : SchedulingHistory) : SchedulingOp → List Pass
  | .advance =>
    if h.system.thread = .inner ∧ h.system.tasks ≠ [] then
      { time := h.system.now, tasks := h.system.tasks } :: h.passes
    else h.passes
  | .call i =>
    h.passes.modifyHead fun pass =>
      { pass with invoked := pass.invoked ++ (h.system.thread.pending[i]?).toList }
  | _ => h.passes

/-- One step of the system. -/
def step (h : SchedulingHistory) (op : SchedulingOp) : Option SchedulingHistory :=
  (h.system.step op).map fun system =>
    { system := system, requests := h.requestsAfter op, passes := h.passesAfter op }

end SchedulingHistory

/-- The runs of the scheduler with their history. -/
def schedulingHistories : Lts SchedulingHistory SchedulingOp where
  start h := h = {}
  step := SchedulingHistory.step

end ChatCore.Scheduling
