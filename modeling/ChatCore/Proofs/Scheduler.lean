import Mathlib.Data.List.Induction
import Mathlib.Data.List.Perm.Basic
import ChatCore.Scheduling.SchedulingSystem

/-!
# `ChatCore.Proofs.Scheduler`: when the scheduler sleeps

The wake-up time of a sleep is computed before the callbacks run, with the lock released while
they do. A task that is emplaced in this time is not in the wake-up time, and the notification of
its `AddTask` finds nobody asleep. When it is due before the wake-up time, the thread sleeps past
it. `EmplacedInTime` excludes this, and then no sleep is too long (`Punctual`).

`Deinitialize` does not take the lock, so its two steps may fall between the last look at the stop
token and the sleep that follows. `StopInTime` excludes these windows.
-/

set_option autoImplicit false

namespace ChatCore.Scheduling

open ChatCore.Lib

/-! ### A round -/

/-- The earlier of two times is no later than the second one. -/
theorem noLater_earlier_self (wake : Option Nat) (time : Nat) :
    noLater (earlier wake time) time := by
  cases wake with
  | none => exact ⟨time, rfl, Nat.le_refl _⟩
  | some t => exact ⟨min t time, rfl, Nat.min_le_right _ _⟩

/-- The earlier of two times is no later than the first one. -/
theorem noLater_earlier {wake : Option Nat} {time : Nat} (time' : Nat) (h : noLater wake time) :
    noLater (earlier wake time') time := by
  obtain ⟨t, rfl, hle⟩ := h
  exact ⟨min t time', rfl, Nat.le_trans (Nat.min_le_left _ _) hle⟩

/-- What holds of the variables of a round. -/
structure Round.Collects (r : Round) : Prop where
  /-- A visited task is deleted after the round or counts for the wake-up time. -/
  wake : ∀ task ∈ r.tasks, task.id ∈ r.deletedTasks ∨ noLater r.nextWakeTime task.scheduledTimePoint
  callbacks : ∀ id ∈ r.callbacks, id ∈ r.tasks.map ScheduleTask.id

/-- A visit of a task collects what it has to. -/
theorem Round.Collects.visit {r : Round} (h : r.Collects) (now : Nat) (task : ScheduleTask) :
    (r.visit now task).Collects := by
  have hcallbacks : ∀ {task' : ScheduleTask}, ∀ id ∈ r.callbacks,
      id ∈ (r.tasks ++ [task']).map ScheduleTask.id := fun id hid => by
    rw [List.map_append]
    exact List.mem_append_left _ (h.callbacks id hid)
  have hcallbacks' : ∀ {task' : ScheduleTask}, task'.id = task.id →
      ∀ id ∈ r.callbacks ++ [task.id], id ∈ (r.tasks ++ [task']).map ScheduleTask.id := by
    intro task' hid id hmem
    cases List.mem_append.mp hmem with
    | inl hold => exact hcallbacks id hold
    | inr hnew =>
      rw [List.mem_singleton.mp hnew, List.map_append, ← hid]
      exact List.mem_append_right _ List.mem_cons_self
  unfold Round.visit
  split
  · simp only
    split
    · -- The task runs once: it is deleted, and the others keep their reason.
      refine ⟨fun task' hmem => ?_, hcallbacks' rfl⟩
      cases List.mem_append.mp hmem with
      | inl hold =>
        exact (h.wake task' hold).imp_left fun hid => List.mem_append_left _ hid
      | inr hnew =>
        rw [List.mem_singleton.mp hnew]
        exact .inl (List.mem_append_right _ List.mem_cons_self)
    · refine ⟨fun task' hmem => ?_, hcallbacks' rfl⟩
      cases List.mem_append.mp hmem with
      | inl hold => exact (h.wake task' hold).imp_right (noLater_earlier _)
      | inr hnew =>
        rw [List.mem_singleton.mp hnew]
        exact .inr (noLater_earlier_self _ _)
  · refine ⟨fun task' hmem => ?_, hcallbacks⟩
    -- The task that is not due keeps its time, and the wakeup is no later.
    cases List.mem_append.mp hmem with
    | inl hold => exact (h.wake task' hold).imp_right (noLater_earlier _)
    | inr hnew =>
      rw [List.mem_singleton.mp hnew]
      exact .inr (noLater_earlier_self _ _)

/-- A pass over the table collects what it has to. -/
theorem collects_round (now : Nat) (tasks : List ScheduleTask) : (round now tasks).Collects := by
  have hloop : ∀ (tasks : List ScheduleTask) (r : Round), r.Collects →
      (tasks.foldl (Round.visit now) r).Collects := by
    intro tasks
    induction tasks with
    | nil => exact fun _ h => h
    | cons task tasks ih => exact fun r h => ih _ (h.visit now task)
  refine hloop tasks {} ⟨?_, ?_⟩ <;> exact fun _ h => absurd h List.not_mem_nil

/-- The task after a round at `now`: a due task is scheduled again. -/
def ScheduleTask.reschedule (now : Nat) (task : ScheduleTask) : ScheduleTask :=
  if task.scheduledTimePoint ≤ now then { task with scheduledTimePoint := now + task.interval }
  else task

/-- A task that is scheduled again keeps its id. -/
@[simp] theorem ScheduleTask.reschedule_id (now : Nat) (task : ScheduleTask) :
    (task.reschedule now).id = task.id := by
  unfold ScheduleTask.reschedule
  split <;> rfl

/-- What a round computes of the tasks, their callbacks and the tasks to delete. -/
theorem round_eq (now : Nat) (tasks : List ScheduleTask) :
    (round now tasks).tasks = tasks.map (ScheduleTask.reschedule now) ∧
    (round now tasks).callbacks
      = (tasks.filter (·.scheduledTimePoint ≤ now)).map ScheduleTask.id ∧
    (round now tasks).deletedTasks
      = (tasks.filter fun task => task.scheduledTimePoint ≤ now ∧ task.once).map
          ScheduleTask.id := by
  -- The loop appends to what it has visited, so the last task is taken off.
  induction tasks using List.reverseRecOn with
  | nil => exact ⟨rfl, rfl, rfl⟩
  | append_singleton tasks task ih =>
    obtain ⟨htasks, hcallbacks, hdeleted⟩ := ih
    have hround : round now (tasks ++ [task]) = (round now tasks).visit now task := by
      show (tasks ++ [task]).foldl (Round.visit now) {} = _
      rw [List.foldl_append]
      rfl
    rw [hround]
    unfold Round.visit
    by_cases hdue : task.scheduledTimePoint ≤ now
    · by_cases honce : task.once = true
      · simp [hdue, honce, htasks, hcallbacks, hdeleted, ScheduleTask.reschedule]
      · simp [hdue, honce, htasks, hcallbacks, hdeleted, ScheduleTask.reschedule]
    · simp [hdue, htasks, hcallbacks, hdeleted, ScheduleTask.reschedule]

/-- A round keeps the ids of the tasks. -/
theorem ids_round (now : Nat) (tasks : List ScheduleTask) :
    (round now tasks).tasks.map ScheduleTask.id = tasks.map ScheduleTask.id := by
  rw [(round_eq now tasks).1, List.map_map]
  exact List.map_congr_left fun task _ => ScheduleTask.reschedule_id now task

/-! ### The steps -/

/-- The deadline of a sleep, where `some none` is a sleep without one. -/
def SchedulerThread.sleep : SchedulerThread → Option (Option Nat)
  | .sleeping deadline _ => some deadline
  | .waiting _ => some none
  | _ => none

/-- The sleeping thread has been notified. -/
def SchedulerThread.notified : SchedulerThread → Bool
  | .sleeping _ notified | .waiting notified => notified
  | _ => false

/-- A call of `AddTask` that leaves the list, by the ids of the tasks. -/
theorem map_eraseIdx_perm {calls : List AddCall} {i : Nat} {call : AddCall}
    (hcall : calls[i]? = some call) :
    (call.task.id :: (calls.eraseIdx i).map (·.task.id)).Perm (calls.map (·.task.id)) := by
  obtain ⟨hi, rfl⟩ := List.getElem?_eq_some_iff.mp hcall
  exact (List.getElem_cons_eraseIdx_perm hi).map fun call : AddCall => call.task.id

namespace SchedulingSystem

variable {s s' : SchedulingSystem} {l : SchedulingOp}

/-- What a step of `ProcessTasks` can do. -/
inductive Advance (s : SchedulingSystem) : SchedulingSystem → Prop
  | outer (hthread : s.thread = .outer) :
      Advance s { s with thread := if s.stopRequested then .done else .locking }
  | locking (hthread : s.thread = .locking) : Advance s { s with thread := .inner }
  | empty (hthread : s.thread = .inner) (htasks : s.tasks = []) :
      Advance s { s with thread := .predicate }
  | collect (hthread : s.thread = .inner) (htasks : s.tasks ≠ []) : Advance s s.collect
  | returned {pending : List Nat} {id : Nat} {deleted : List Nat} {wake : Option Nat}
      (hthread : s.thread = .callbacks pending (some id) deleted wake)
      (hcalls : s.callbackCalls = false) :
      Advance s { s with thread := .callbacks pending none deleted wake }
  | delete {deleted : List Nat} {wake : Option Nat}
      (hthread : s.thread = .callbacks [] none deleted wake) :
      Advance s { s with
        tasks := s.tasks.filter (·.id ∉ deleted)
        thread := .aboutToWait wake }
  | sleep {wake : Option Nat} (hthread : s.thread = .aboutToWait wake) :
      Advance s { s with thread := .sleeping wake false }
  | woke (hthread : s.thread = .woke) :
      Advance s { s with thread := if s.stopRequested then .done else .inner }
  | goOn (hthread : s.thread = .predicate) : Advance s { s with thread := .afterWait }
  | block (hthread : s.thread = .predicate) (htasks : s.tasks = [])
      (hstop : s.stopRequested = false) : Advance s { s with thread := .blocking }
  | wait (hthread : s.thread = .blocking) : Advance s { s with thread := .waiting false }
  | afterWait (hthread : s.thread = .afterWait) :
      Advance s { s with thread := if s.stopRequested then .done else .outer }

/-- The scheduler thread takes one of the steps. -/
theorem advance_cases (h : s.advance = some s') : Advance s s' := by
  unfold advance at h
  split at h
  · rename_i hthread
    cases h
    exact .outer hthread
  · rename_i hthread
    cases h
    exact .locking hthread
  · rename_i hthread
    cases h
    split
    · rename_i htasks
      exact .empty hthread (List.isEmpty_iff.mp htasks)
    · rename_i htasks
      exact .collect hthread fun hnil => htasks (List.isEmpty_iff.mpr hnil)
  · -- The callbacks are left only when all of them have returned.
    rename_i hthread
    split at h
    · cases h
    · rename_i hcalls
      cases h
      exact .returned hthread (Bool.not_eq_true _ ▸ hcalls)
  · rename_i hthread
    cases h
    exact .delete hthread
  · cases h
  · rename_i hthread
    cases h
    exact .sleep hthread
  · rename_i hthread
    cases h
    exact .woke hthread
  · rename_i hthread
    cases h
    split
    · exact .goOn hthread
    · rename_i hpredicate
      rw [not_or, Decidable.not_not, Bool.not_eq_true] at hpredicate
      exact .block hthread (List.isEmpty_iff.mp hpredicate.1) hpredicate.2
  · rename_i hthread
    cases h
    exact .wait hthread
  · rename_i hthread
    cases h
    exact .afterWait hthread
  -- A sleeping thread moves by a wake-up only, and a finished one not at all.
  · cases h
  · cases h
  · cases h

/-- What a step of the system can do, with its guards. -/
inductive Transition (s : SchedulingSystem) : SchedulingOp → SchedulingSystem → Prop
  | tick (elapsed : Nat) : Transition s (.tick elapsed) { s with now := s.now + elapsed }
  | addTask {interval : Int} {once byCallback : Bool}
      (hrunning : byCallback = true → s.thread.running.isSome = true) :
      Transition s (.addTask interval once byCallback) { s with
        nextId := s.nextId + 1
        adding := s.adding ++ [⟨s.newTask interval once, byCallback⟩] }
  | emplace {i : Nat} {call : AddCall} (hfree : s.thread.holdsLock = false)
      (hcall : s.adding[i]? = some call) : Transition s (.emplace i)
      { s with
        tasks := s.tasks ++ [call.task]
        adding := s.adding.eraseIdx i
        added := s.added ++ [call] }
  | notifyAdd {i : Nat} {call : AddCall} (hcall : s.added[i]? = some call) :
      Transition s (.notifyAdd i)
        { s with
          added := s.added.eraseIdx i
          handles := s.handles ++ [call.task.id] }.notifyOne
  | erase {handle : Nat} {byCallback : Bool} (hfree : s.thread.holdsLock = false)
      (hhandle : handle ∈ s.handles ∨ handle = 0)
      (hrunning : byCallback = true → s.thread.running.isSome = true) :
      Transition s (.erase handle byCallback) { s with
        tasks := s.tasks.filter (·.id ≠ handle)
        removing := s.removing ++ [⟨handle, byCallback⟩] }
  | notifyRemove {i : Nat} {call : RemoveCall} (hcall : s.removing[i]? = some call) :
      Transition s (.notifyRemove i)
        { s with
          removing := s.removing.eraseIdx i
          removed := if call.byCallback ∧ s.thread.running = some call.handle then s.removed
            else s.removed ++ [call.handle] }.notifyOne
  | requestStop : Transition s .requestStop { s with stopRequested := true }
  | notifyStop (hrequested : s.stopRequested = true) (hnotified : s.stopNotified = false) :
      Transition s .notifyStop { s with stopNotified := true }.notifyOne
  | advance {t : SchedulingSystem} (hadvance : Advance s t) : Transition s .advance t
  | call {i id : Nat} {pending deleted : List Nat} {wake : Option Nat}
      (hthread : s.thread = .callbacks pending none deleted wake) (hid : pending[i]? = some id) :
      Transition s (.call i)
        { s with thread := .callbacks (pending.eraseIdx i) (some id) deleted wake }
  | wakeSleeping {deadline : Option Nat} {notified : Bool}
      (hthread : s.thread = .sleeping deadline notified) :
      Transition s .wake { s with thread := .woke }
  | wakeWaiting {notified : Bool} (hthread : s.thread = .waiting notified) :
      Transition s .wake { s with thread := .predicate }

/-- Every step is one of these. -/
theorem step_transition (h : s.step l = some s') : Transition s l s' := by
  cases l with
  | tick elapsed =>
    cases h
    exact .tick elapsed
  | addTask interval once byCallback =>
    simp only [step] at h
    split at h
    · rename_i hrunning
      cases h
      exact .addTask hrunning
    · cases h
  | emplace i =>
    simp only [step] at h
    split at h
    · cases h
    · rename_i hfree
      obtain ⟨call, hcall, rfl⟩ := Option.map_eq_some_iff.mp h
      exact .emplace (Bool.not_eq_true _ ▸ hfree) hcall
  | notifyAdd i =>
    obtain ⟨call, hcall, rfl⟩ := Option.map_eq_some_iff.mp h
    exact .notifyAdd hcall
  | erase handle byCallback =>
    simp only [step] at h
    split at h
    · cases h
    · rename_i hfree
      split at h
      · -- The handle was given out, and a callback that erases is the running one.
        rename_i hguard
        cases h
        exact .erase (Bool.not_eq_true _ ▸ hfree) hguard.1 hguard.2
      · cases h
  | notifyRemove i =>
    obtain ⟨call, hcall, rfl⟩ := Option.map_eq_some_iff.mp h
    exact .notifyRemove hcall
  | requestStop =>
    cases h
    exact .requestStop
  | notifyStop =>
    simp only [step] at h
    split at h
    · rename_i hguard
      cases h
      exact .notifyStop hguard.1 (Bool.not_eq_true _ ▸ hguard.2)
    · cases h
  | advance => exact .advance (advance_cases h)
  | call i =>
    simp only [step] at h
    split at h
    · rename_i hthread
      obtain ⟨id, hid, rfl⟩ := Option.map_eq_some_iff.mp h
      exact .call hthread hid
    · cases h
  | wake =>
    simp only [step] at h
    split at h
    · rename_i hthread
      cases h
      exact .wakeSleeping hthread
    · rename_i hthread
      cases h
      exact .wakeWaiting hthread
    · cases h

/-! ### Sleeping until a task is due -/

/-- A task that is emplaced while the callbacks of a round run is not due before the wake-up time
of the round. -/
def EmplacedInTime (s : SchedulingSystem) : SchedulingOp → Prop
  | .emplace i => ∀ call ∈ s.adding[i]?, ∀ pending running deleted wake,
      s.thread = .callbacks pending running deleted wake → noLater wake call.task.scheduledTimePoint
  | _ => True

/-- What each place of the thread says about the tasks. -/
def Punctual (thread : SchedulerThread) (tasks : List ScheduleTask) (added : List AddCall) : Prop :=
  match thread with
  | .callbacks _ _ deleted wake =>
    ∀ task ∈ tasks, task.id ∈ deleted ∨ noLater wake task.scheduledTimePoint
  | .aboutToWait wake => ∀ task ∈ tasks, noLater wake task.scheduledTimePoint
  | .blocking => tasks = []
  | .sleeping deadline notified => ∀ task ∈ tasks, noLater deadline task.scheduledTimePoint ∨
      notified = true ∨ ∃ call ∈ added, call.task = task
  | .waiting notified => ∀ task ∈ tasks, notified = true ∨ ∃ call ∈ added, call.task = task
  | _ => True

/-- Fewer tasks, and no fewer calls that will notify. -/
theorem Punctual.mono {thread : SchedulerThread} {tasks tasks' : List ScheduleTask}
    {added added' : List AddCall} (h : Punctual thread tasks added) (htasks : tasks' ⊆ tasks)
    (hadded : added ⊆ added') : Punctual thread tasks' added' := by
  unfold Punctual at h ⊢
  cases thread with
  | callbacks _ _ _ _ | aboutToWait _ => exact fun task hmem => h task (htasks hmem)
  | blocking =>
    rw [show tasks = [] from h] at htasks
    exact List.subset_nil.mp htasks
  | sleeping _ _ =>
    intro task hmem
    refine (h task (htasks hmem)).imp_right (Or.imp_right ?_)
    exact fun ⟨call, hcall, heq⟩ => ⟨call, hadded hcall, heq⟩
  | waiting _ =>
    intro task hmem
    refine (h task (htasks hmem)).imp_right ?_
    exact fun ⟨call, hcall, heq⟩ => ⟨call, hadded hcall, heq⟩
  | _ => trivial

/-- After a notification nothing is asked of a sleeping thread. -/
theorem Punctual.notify {thread : SchedulerThread} {tasks : List ScheduleTask}
    {added added' : List AddCall} (h : Punctual thread tasks added) :
    Punctual thread.notify tasks added' := by
  cases thread with
  | sleeping _ _ => exact fun _ _ => .inr (.inl rfl)
  | waiting _ => exact fun _ _ => .inl rfl
  | _ => exact h

/-- A task that is emplaced in time leaves the thread punctual. -/
theorem punctual_emplace {call : AddCall} (h : Punctual s.thread s.tasks s.added)
    (hfree : s.thread.holdsLock = false)
    (hok : ∀ pending running deleted wake, s.thread = .callbacks pending running deleted wake →
      noLater wake call.task.scheduledTimePoint) :
    Punctual s.thread (s.tasks ++ [call.task]) (s.added ++ [call]) := by
  have hnew : ∃ call' ∈ s.added ++ [call], call'.task = call.task :=
    ⟨call, List.mem_append_right _ List.mem_cons_self, rfl⟩
  have hold := h.mono (List.Subset.refl _) (List.subset_append_left s.added [call])
  cases hthread : s.thread with
  | callbacks pending running deleted wake =>
    rw [hthread] at hold
    intro task hmem
    cases List.mem_append.mp hmem with
    | inl hmem => exact hold task hmem
    | inr hmem =>
      rw [List.mem_singleton.mp hmem]
      exact .inr (hok _ _ _ _ hthread)
  | sleeping deadline notified =>
    rw [hthread] at hold
    intro task hmem
    cases List.mem_append.mp hmem with
    | inl hmem => exact hold task hmem
    | inr hmem =>
      rw [List.mem_singleton.mp hmem]
      exact .inr (.inr hnew)
  | waiting notified =>
    rw [hthread] at hold
    intro task hmem
    cases List.mem_append.mp hmem with
    | inl hmem => exact hold task hmem
    | inr hmem =>
      rw [List.mem_singleton.mp hmem]
      exact .inr hnew
  | outer | locking | done => trivial
  | inner | woke | predicate | afterWait => trivial
  | aboutToWait _ | blocking =>
    -- The lock is taken, and `AddTask` waits for it.
    rw [hthread] at hfree
    cases hfree

/-- A step of the scheduler thread leaves it punctual. -/
theorem punctual_advance (h : Punctual s.thread s.tasks s.added) (hadvance : Advance s s') :
    Punctual s'.thread s'.tasks s'.added := by
  cases hadvance with
  | outer _ | woke _ | afterWait _ =>
    dsimp only
    split <;> trivial
  | locking _ | empty _ _ | goOn _ => trivial
  | collect _ _ => exact (collects_round s.now s.tasks).wake
  | returned hthread _ =>
    rw [hthread] at h
    exact h
  | delete hthread =>
    -- The deleted tasks are gone, so the others are those that count.
    rw [hthread] at h
    intro task hmem
    obtain ⟨hmem, hkept⟩ := List.mem_filter.mp hmem
    exact (h task hmem).resolve_left (of_decide_eq_true hkept)
  | sleep hthread =>
    rw [hthread] at h
    exact fun task hmem => .inl (h task hmem)
  | block _ htasks _ => exact htasks
  | wait hthread =>
    rw [hthread] at h
    intro task hmem
    rw [show s.tasks = [] from h] at hmem
    cases hmem

/-- A step leaves the thread punctual. -/
theorem punctual_step (h : Punctual s.thread s.tasks s.added) (hok : EmplacedInTime s l)
    (hstep : s.step l = some s') : Punctual s'.thread s'.tasks s'.added := by
  cases step_transition hstep with
  | tick _ | addTask _ | requestStop => exact h
  | emplace hfree hcall => exact punctual_emplace h hfree (hok _ hcall)
  | notifyAdd _ | notifyRemove _ | notifyStop _ _ => exact h.notify
  | erase _ _ _ => exact h.mono (fun _ hmem => (List.mem_filter.mp hmem).1) (List.Subset.refl _)
  | advance hadvance => exact punctual_advance h hadvance
  | call hthread _ =>
    rw [hthread] at h
    exact h
  | wakeSleeping _ | wakeWaiting _ => trivial

/-- The thread is punctual in every such run. -/
theorem punctual_reachable (h : schedulings.Reachable EmplacedInTime s) :
    Punctual s.thread s.tasks s.added := by
  refine h.invariant (I := fun s => Punctual s.thread s.tasks s.added) ?_
    fun s l s' ih hok hstep => punctual_step ih hok hstep
  rintro s rfl
  trivial

/-- A step of `ProcessTasks` changes the tasks and its own place, and nothing else. -/
theorem advance_frame (hadvance : Advance s s') :
    s' = { s with tasks := s'.tasks, thread := s'.thread } := by
  cases hadvance <;> rfl

/-- The two steps of `ProcessTasks` that put the thread to sleep. -/
theorem sleep_of_advance {deadline : Option Nat} (hadvance : Advance s s')
    (hsleep : s'.thread.sleep = some deadline) : s'.tasks = s.tasks ∧
      (s.thread = .aboutToWait deadline ∨ s.thread = .blocking ∧ deadline = none) := by
  cases hadvance with
  | sleep hthread =>
    cases hsleep
    exact ⟨rfl, .inl hthread⟩
  | wait hthread =>
    cases hsleep
    exact ⟨rfl, .inr ⟨hthread, rfl⟩⟩
  | outer _ | woke _ | afterWait _ =>
    dsimp only at hsleep
    split at hsleep <;> cases hsleep
  | _ => cases hsleep

/-- When the thread goes to sleep, its deadline is not after the time of any task. While it
sleeps, this stays true of every task, unless the thread has been notified or the `AddTask` of
the task is about to notify it. -/
theorem sleeps_in_time (h : schedulings.Reachable EmplacedInTime s) :
    (∀ s' deadline, s.step .advance = some s' → s'.thread.sleep = some deadline →
      ∀ task ∈ s'.tasks, noLater deadline task.scheduledTimePoint) ∧
    ∀ deadline, s.thread.sleep = some deadline → ∀ task ∈ s.tasks,
      noLater deadline task.scheduledTimePoint ∨ s.thread.notified = true ∨
        ∃ call ∈ s.added, call.task = task := by
  have hpunctual := punctual_reachable h
  constructor
  · intro s' deadline hstep hsleep task hmem
    obtain ⟨htasks, hthread | ⟨hthread, -⟩⟩ := sleep_of_advance (advance_cases hstep) hsleep
    · rw [hthread] at hpunctual
      exact hpunctual task (htasks ▸ hmem)
    · -- The other wait is entered with no task at all.
      rw [hthread] at hpunctual
      rw [htasks, show s.tasks = [] from hpunctual] at hmem
      cases hmem
  · intro deadline hsleep
    cases hthread : s.thread with
    | sleeping _ _ =>
      rw [hthread] at hpunctual hsleep
      cases hsleep
      exact hpunctual
    | waiting _ =>
      rw [hthread] at hpunctual hsleep
      cases hsleep
      exact fun task hmem => .inr (hpunctual task hmem)
    | _ =>
      rw [hthread] at hsleep
      cases hsleep

instance : DecidableRel EmplacedInTime := fun s l =>
  match l with
  | .emplace i =>
    match hcall : s.adding[i]?, hthread : s.thread with
    | some call, .callbacks pending running deleted wake =>
      decidable_of_iff (noLater wake call.task.scheduledTimePoint) (by
        constructor
        · intro h call' hcall' _ _ _ wake' hthread'
          rw [hcall] at hcall'
          rw [hthread] at hthread'
          cases hcall'
          cases hthread'
          exact h
        · intro h
          exact h call hcall pending running deleted wake hthread)
    | none, _ => isTrue fun _ hmem => by rw [hcall] at hmem; cases hmem
    | some _, .outer | some _, .locking | some _, .inner | some _, .aboutToWait _
    | some _, .sleeping _ _ | some _, .woke | some _, .predicate | some _, .blocking
    | some _, .waiting _ | some _, .afterWait | some _, .done =>
      isTrue fun _ _ _ _ _ _ hthread' => by rw [hthread] at hthread'; cases hthread'
  | .tick _ | .addTask _ _ _ | .notifyAdd _ | .erase _ _ | .notifyRemove _ | .requestStop
  | .notifyStop | .advance | .call _ | .wake => inferInstanceAs (Decidable True)

/-- The steps of `ProcessTasks` from its start to its first timed sleep, with one task that is not
due. -/
def firstSleep : List SchedulingOp := List.replicate 5 .advance

/-- A periodic task is added, and the thread sleeps until it is due. -/
theorem sleeps_in_time_periodic : ∃ s, schedulings.Reachable EmplacedInTime s ∧
    s.thread = .sleeping (some 20000000) false ∧
    ∀ task ∈ s.tasks, noLater (some 20000000) task.scheduledTimePoint ∨ s.thread.notified = true ∨
      ∃ call ∈ s.added, call.task = task := by
  have hstart : schedulings.Reachable EmplacedInTime {} := .start rfl
  obtain ⟨s, hreach, hthread⟩ := hstart.exists_of_exec
      ([.addTask 20000000 false false, .emplace 0, .notifyAdd 0] ++ firstSleep)
      (fun s => s.thread = .sleeping (some 20000000) false) (by decide +kernel)
  exact ⟨s, hreach, hthread, (sleeps_in_time hreach).2 _ (by rw [hthread]; rfl)⟩

/-- A task that runs once adds the next one from its callback. The thread sleeps without a
deadline, and the new task is due after `15ms`. -/
theorem sleeps_past_rescheduled :
    ¬ ∀ s, schedulings.Reachable Lts.anyStep s → ∀ deadline, s.thread.sleep = some deadline →
      ∀ task ∈ s.tasks, noLater deadline task.scheduledTimePoint ∨ s.thread.notified = true ∨
        ∃ call ∈ s.added, call.task = task := by
  intro h
  have hstart : schedulings.Reachable Lts.anyStep {} := .start rfl
  obtain ⟨s, hreach, hthread, htasks, hadded⟩ := hstart.exists_of_exec
      ([.addTask 15000000 true false, .emplace 0, .notifyAdd 0] ++ firstSleep ++
        [.tick 15000000, .wake, .advance, .advance, .call 0, .addTask 15000000 true true,
          .emplace 0, .notifyAdd 0, .advance, .advance, .advance])
      (fun s => s.thread = .sleeping none false ∧ s.tasks = [⟨2, 15000000, 30000000, true⟩] ∧
        s.added = []) (by decide +kernel)
  have hlate := h s hreach none (by rw [hthread]; rfl) ⟨2, 15000000, 30000000, true⟩
    (by rw [htasks]; exact List.mem_cons_self)
  rw [hthread, hadded] at hlate
  rcases hlate with ⟨_, hnone, -⟩ | hnotified | ⟨_, hmem, -⟩
  · cases hnone
  · cases hnotified
  · cases hmem

/-! ### Stopping -/

/-- The thread has looked at the stop token for the last time before a sleep. -/
def StopWindow (thread : SchedulerThread) (tasks : List ScheduleTask) : Prop :=
  match thread with
  | .callbacks _ _ _ _ | .aboutToWait _ | .blocking => True
  -- With a task the thread goes on to `wait_until`, without one to the predicate of `wait`.
  | .locking | .inner => tasks ≠ []
  | _ => False

instance (thread : SchedulerThread) (tasks : List ScheduleTask) :
    Decidable (StopWindow thread tasks) :=
  match thread with
  | .callbacks _ _ _ _ | .aboutToWait _ | .blocking => inferInstanceAs (Decidable True)
  | .locking | .inner => inferInstanceAs (Decidable (tasks ≠ []))
  | .outer | .sleeping _ _ | .woke | .predicate | .waiting _ | .afterWait | .done =>
    inferInstanceAs (Decidable False)

/-- `Deinitialize` does not call `notify_one` while the thread is in the window, and after this
call no task brings a thread that is about to lock into it. -/
def StopInTime (s : SchedulingSystem) : SchedulingOp → Prop
  | .notifyStop => ¬ StopWindow s.thread s.tasks
  | .emplace _ => s.stopNotified = true → s.thread ≠ .locking
  | _ => True

/-- What holds after both steps of `Deinitialize`. -/
structure Stopping (s : SchedulingSystem) : Prop where
  requested : s.stopRequested = true
  window : ¬ StopWindow s.thread s.tasks
  notified : s.thread.sleep.isSome = true → s.thread.notified = true

/-- A notification does not change whether the stop can be missed. -/
theorem stopWindow_notify {thread : SchedulerThread} {tasks : List ScheduleTask} :
    StopWindow thread.notify tasks ↔ StopWindow thread tasks := by
  cases thread <;> exact Iff.rfl

/-- A sleeping thread is notified. -/
theorem notified_notify {thread : SchedulerThread} (h : thread.notify.sleep.isSome = true) :
    thread.notify.notified = true := by
  cases thread with
  | sleeping _ _ | waiting _ => rfl
  | _ => cases h

/-- Fewer tasks do not open the window. -/
theorem StopWindow.mono {thread : SchedulerThread} {tasks tasks' : List ScheduleTask}
    (hsub : tasks' ⊆ tasks) (h : StopWindow thread tasks') : StopWindow thread tasks := by
  cases thread with
  | locking | inner => exact fun hnil => h (List.subset_nil.mp (hnil ▸ hsub))
  | _ => exact h

/-- A step of the scheduler thread keeps the stop in sight. -/
theorem stopping_advance (h : Stopping s) (hadvance : Advance s s') : Stopping s' := by
  obtain ⟨hrequested, hwindow, hnotified⟩ := h
  cases hadvance with
  | outer _ | woke _ | afterWait _ =>
    simp only [hrequested, if_true]
    exact ⟨rfl, id, fun h => by cases h⟩
  | locking hthread =>
    rw [hthread] at hwindow
    exact ⟨hrequested, hwindow, fun h => by cases h⟩
  | empty _ _ | goOn _ => exact ⟨hrequested, id, fun h => by cases h⟩
  | collect hthread htasks =>
    rw [hthread] at hwindow
    exact absurd htasks hwindow
  | returned hthread _ | delete hthread | sleep hthread | wait hthread =>
    rw [hthread] at hwindow
    exact absurd trivial hwindow
  | block _ _ hstop =>
    -- The predicate sees the stop token.
    rw [hrequested] at hstop
    cases hstop

/-- A task that is emplaced keeps the stop in sight unless the thread is about to sleep. -/
theorem stopping_emplace {call : AddCall} {adding added : List AddCall} (h : Stopping s)
    (hfree : s.thread.holdsLock = false) (hok : s.thread ≠ .locking) :
    Stopping { s with tasks := s.tasks ++ [call.task], adding := adding, added := added } := by
  refine ⟨h.requested, fun hwindow => h.window ?_, h.notified⟩
  revert hwindow
  show StopWindow s.thread _ → _
  cases hthread : s.thread with
  | locking => exact absurd hthread hok
  | inner =>
    rw [hthread] at hfree
    cases hfree
  | _ => exact id

/-- A step keeps the stop in sight. -/
theorem stopping_step (h : s.stopNotified = true → Stopping s) (hok : StopInTime s l)
    (hstep : s.step l = some s') : s'.stopNotified = true → Stopping s' := by
  intro hstopped
  cases step_transition hstep with
  | tick _ | addTask _ =>
    exact ⟨(h hstopped).requested, (h hstopped).window, (h hstopped).notified⟩
  | emplace hfree _ => exact stopping_emplace (h hstopped) hfree (hok hstopped)
  | notifyAdd _ | notifyRemove _ =>
    exact ⟨(h hstopped).requested, fun hw => (h hstopped).window (stopWindow_notify.mp hw),
      notified_notify⟩
  | erase _ _ _ =>
    refine ⟨(h hstopped).requested, fun hw => (h hstopped).window (hw.mono ?_),
      (h hstopped).notified⟩
    exact fun _ hmem => (List.mem_filter.mp hmem).1
  | requestStop => exact ⟨rfl, (h hstopped).window, (h hstopped).notified⟩
  | notifyStop hrequested _ =>
    exact ⟨hrequested, fun hw => hok (stopWindow_notify.mp hw), notified_notify⟩
  | advance hadvance =>
    rw [advance_frame hadvance] at hstopped
    exact stopping_advance (h hstopped) hadvance
  | call hthread _ =>
    -- The callback phase is in the window, which the stop has closed.
    have hwindow := (h hstopped).window
    rw [hthread] at hwindow
    exact absurd trivial hwindow
  | wakeSleeping _ | wakeWaiting _ =>
    exact ⟨(h hstopped).requested, id, fun h => by cases h⟩

/-- The stop is in sight in every such run. -/
theorem stopping_reachable (h : schedulings.Reachable StopInTime s) :
    s.stopNotified = true → Stopping s := by
  refine h.invariant (I := fun s => s.stopNotified = true → Stopping s) ?_
    fun s l s' ih hok hstep => stopping_step ih hok hstep
  rintro s rfl hstopped
  cases hstopped

/-- After both steps of `Deinitialize` the thread does not sleep without a notification. -/
theorem stop_not_missed (h : schedulings.Reachable StopInTime s)
    (hstopped : s.stopNotified = true) (hsleep : s.thread.sleep.isSome = true) :
    s.thread.notified = true :=
  (stopping_reachable h hstopped).notified hsleep

instance : DecidableRel StopInTime := fun s l =>
  match l with
  | .notifyStop => inferInstanceAs (Decidable (¬ StopWindow s.thread s.tasks))
  | .emplace _ => inferInstanceAs (Decidable (s.stopNotified = true → s.thread ≠ .locking))
  | .tick _ | .addTask _ _ _ | .notifyAdd _ | .erase _ _ | .notifyRemove _ | .requestStop
  | .advance | .call _ | .wake => inferInstanceAs (Decidable True)

/-- `Deinitialize` while the thread sleeps without tasks. -/
theorem stop_not_missed_waiting : ∃ s, schedulings.Reachable StopInTime s ∧
    s.stopRequested = true ∧ s.stopNotified = true ∧ s.thread.sleep = some none ∧
    s.thread.notified = true := by
  have hstart : schedulings.Reachable StopInTime {} := .start rfl
  obtain ⟨s, hreach, hrequested, hstopped, hsleep⟩ := hstart.exists_of_exec
      (List.replicate 5 .advance ++ [.requestStop, .notifyStop])
      (fun s => s.stopRequested = true ∧ s.stopNotified = true ∧ s.thread.sleep = some none)
      (by decide +kernel)
  exact ⟨s, hreach, hrequested, hstopped, hsleep,
    stop_not_missed hreach hstopped (by rw [hsleep]; rfl)⟩

/-- Both steps of `Deinitialize` fall between the predicate and the sleep, and the thread sleeps
for ever. -/
theorem stop_missed_predicate :
    ¬ ∀ s, schedulings.Reachable Lts.anyStep s → s.stopRequested = true →
      s.stopNotified = true → s.thread.sleep.isSome = true → s.thread.notified = true := by
  intro h
  have hstart : schedulings.Reachable Lts.anyStep {} := .start rfl
  obtain ⟨s, hreach, hrequested, hstopped, hthread⟩ := hstart.exists_of_exec
      (List.replicate 4 .advance ++ [.requestStop, .notifyStop, .advance])
      (fun s => s.stopRequested = true ∧ s.stopNotified = true ∧ s.thread = .waiting false)
      (by decide +kernel)
  have hnotified := h s hreach hrequested hstopped (by rw [hthread]; rfl)
  rw [hthread] at hnotified
  cases hnotified

end SchedulingSystem

end ChatCore.Scheduling
