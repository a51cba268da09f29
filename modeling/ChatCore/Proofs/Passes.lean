import Mathlib.Data.List.Nodup
import Mathlib.Data.List.Perm.Basic
import ChatCore.Scheduling.Passes
import ChatCore.Proofs.Scheduler

/-!
# `ChatCore.Proofs.Passes`: tasks fire when they are due

A task is in the map from its `emplace` on, and its scheduled time only grows: at first it is the
time of its request plus its interval, and each pass that collects the task moves it to the time
of the pass plus the interval. So `PassInv.rescheduled` relates the tasks of the map to all
earlier passes. A task that runs once stays in the map until the callbacks of its pass have
returned, and there it is in `deletedTasks`. The next pass begins after the deletion.

The callbacks of a pass are copied when the time is sampled, so what is added and removed
afterwards does not change them (`PassInv.called`).
-/

set_option autoImplicit false

namespace ChatCore.Scheduling

open ChatCore.Lib

/-- The task is that of the request, scheduled at its first time or later. -/
structure Request.Made (request : Request) (task : ScheduleTask) : Prop where
  id : task.id = request.id
  interval : task.interval = clampInterval request.duration
  once : task.once = request.once
  scheduled : request.time + task.interval ≤ task.scheduledTimePoint

/-- `deleted_tasks` while the callbacks of a pass run. -/
def SchedulerThread.deletedTasks : SchedulerThread → List Nat
  | .callbacks _ _ deletedTasks _ => deletedTasks
  | _ => []

/-- The interval is at least the smallest one. -/
theorem clampInterval_eq_max (duration : Int) :
    (clampInterval duration : Int) = max duration minInterval := by
  unfold clampInterval
  split <;> omega

/-- A task that is scheduled again still belongs to its request. -/
theorem Request.Made.reschedule {request : Request} {task : ScheduleTask} {now : Nat}
    (h : request.Made task) : request.Made (task.reschedule now) := by
  unfold ScheduleTask.reschedule
  split
  · rename_i hdue
    refine ⟨h.id, h.interval, h.once, ?_⟩
    show request.time + task.interval ≤ now + task.interval
    have hscheduled := h.scheduled
    omega
  · exact h

namespace Pass

variable {pass : Pass} {task : ScheduleTask}

/-- The tasks that are due in a pass. -/
theorem mem_due : task ∈ pass.due ↔ task ∈ pass.tasks ∧ task.scheduledTimePoint ≤ pass.time := by
  simp [due]

/-- No task is due twice in a pass. -/
theorem nodup_due (h : (pass.tasks.map ScheduleTask.id).Nodup) :
    (pass.due.map ScheduleTask.id).Nodup :=
  h.sublist (List.Sublist.map _ List.filter_sublist)

/-- With unique ids a task that the pass saw is due when its id is among those of the due
tasks. -/
theorem mem_due_of_id (h : (pass.tasks.map ScheduleTask.id).Nodup) (htask : task ∈ pass.tasks)
    (hid : task.id ∈ pass.due.map ScheduleTask.id) : task ∈ pass.due := by
  obtain ⟨task', hdue, heq⟩ := List.mem_map.mp hid
  have hsame : task' = task := List.inj_on_of_nodup_map h (mem_due.mp hdue).1 htask heq
  exact hsame ▸ hdue

end Pass

namespace SchedulingHistory

open SchedulingSystem (Advance Transition step_transition)

variable {h h' : SchedulingHistory} {s : SchedulingSystem} {op : SchedulingOp}

/-- The current pass has called or will call the due tasks, and the earlier ones have called
them. -/
def Called (pending : List Nat) : List Pass → Prop
  | [] => pending = []
  | current :: earlier =>
    (current.invoked ++ pending).Perm (current.due.map ScheduleTask.id) ∧
    ∀ pass ∈ earlier, pass.invoked.Perm (pass.due.map ScheduleTask.id)

section

variable {pending : List Nat} {passes : List Pass}

/-- The last pass has called its due tasks, less those that are still to be called. -/
theorem Called.head (hcalled : Called pending passes) :
    ∀ pass ∈ passes.head?, (pass.invoked ++ pending).Perm (pass.due.map ScheduleTask.id) := by
  intro pass hpass
  cases passes with
  | nil => cases hpass
  | cons current earlier =>
    cases hpass
    exact hcalled.1

/-- Every pass before has called its due tasks. -/
theorem Called.tail (hcalled : Called pending passes) :
    ∀ pass ∈ passes.tail, pass.invoked.Perm (pass.due.map ScheduleTask.id) := by
  intro pass hpass
  cases passes with
  | nil => exact absurd hpass List.not_mem_nil
  | cons current earlier => exact hcalled.2 pass hpass

/-- Each pass has called due tasks, and all of them but for the pending ones. -/
theorem Called.of_mem (hcalled : Called pending passes) {pass : Pass} (hpass : pass ∈ passes) :
    ∃ rest, rest ⊆ pending ∧ (pass.invoked ++ rest).Perm (pass.due.map ScheduleTask.id) := by
  cases passes with
  | nil => exact absurd hpass List.not_mem_nil
  | cons current earlier =>
    rcases List.mem_cons.mp hpass with rfl | hold
    · exact ⟨pending, List.Subset.refl _, hcalled.1⟩
    · refine ⟨[], List.nil_subset _, ?_⟩
      rw [List.append_nil]
      exact hcalled.2 pass hold

end

/-- A due task of the later pass that was due in the earlier one. -/
def Spaced (later earlier : Pass) : Prop :=
  ∀ task ∈ later.due, task.id ∈ earlier.due.map ScheduleTask.id →
    earlier.time + task.interval ≤ later.time ∧ task.once = false

/-- The tasks of the history, with their requests and the passes that have collected them. -/
structure PassInv (h : SchedulingHistory) : Prop where
  requestIds : (h.requests.map Request.id).Nodup
  lt : ∀ request ∈ h.requests, request.id < h.system.nextId
  adding : ∀ call ∈ h.system.adding, ∃ request ∈ h.requests, request.Made call.task
  tasks : ∀ task ∈ h.system.tasks, ∃ request ∈ h.requests, request.Made task
  seen : ∀ pass ∈ h.passes, ∀ task ∈ pass.tasks, ∃ request ∈ h.requests, request.Made task
  ids : (h.system.adding.map (·.task.id) ++ h.system.tasks.map ScheduleTask.id).Nodup
  seenIds : ∀ pass ∈ h.passes, (pass.tasks.map ScheduleTask.id).Nodup
  fresh : ∀ call ∈ h.system.adding, ∀ pass ∈ h.passes,
    call.task.id ∉ pass.due.map ScheduleTask.id
  past : ∀ pass ∈ h.passes, pass.time ≤ h.system.now
  rescheduled : ∀ task ∈ h.system.tasks, ∀ pass ∈ h.passes,
    task.id ∈ pass.due.map ScheduleTask.id →
      pass.time + task.interval ≤ task.scheduledTimePoint ∧
      (task.once = true → task.id ∈ h.system.thread.deletedTasks)
  spaced : h.passes.Pairwise Spaced
  called : Called h.system.thread.pending h.passes

/-- The id of a task that was requested has been given out. -/
theorem PassInv.id_lt {task : ScheduleTask} (hinv : PassInv h)
    (hmade : ∃ request ∈ h.requests, request.Made task) : task.id < h.system.nextId := by
  obtain ⟨request, hmem, hmade⟩ := hmade
  rw [hmade.id]
  exact hinv.lt request hmem

/-! ### The steps -/

/-- A step that adds no task and begins no pass. It may erase tasks, and the tasks that it leaves
are still to be deleted when they were before. -/
theorem PassInv.quiet (hinv : PassInv h) (hnext : s.nextId = h.system.nextId)
    (hadding : s.adding = h.system.adding) (htasks : s.tasks.Sublist h.system.tasks)
    (hnow : h.system.now ≤ s.now) (hpending : s.thread.pending = h.system.thread.pending)
    (hdeleted : ∀ task ∈ s.tasks, task.id ∈ h.system.thread.deletedTasks →
      task.id ∈ s.thread.deletedTasks) :
    PassInv ⟨s, h.requests, h.passes⟩ where
  requestIds := hinv.requestIds
  lt request hmem := by
    show request.id < s.nextId
    rw [hnext]
    exact hinv.lt request hmem
  adding call hcall := hinv.adding call (hadding ▸ hcall)
  tasks task htask := hinv.tasks task (htasks.subset htask)
  seen := hinv.seen
  ids := by
    show (s.adding.map (·.task.id) ++ s.tasks.map ScheduleTask.id).Nodup
    rw [hadding]
    exact hinv.ids.sublist (List.Sublist.append_left (htasks.map _) _)
  seenIds := hinv.seenIds
  fresh call hcall := hinv.fresh call (hadding ▸ hcall)
  past pass hpass := Nat.le_trans (hinv.past pass hpass) hnow
  rescheduled task htask pass hpass hid := by
    obtain ⟨htime, honce⟩ := hinv.rescheduled task (htasks.subset htask) pass hpass hid
    exact ⟨htime, fun h => hdeleted task htask (honce h)⟩
  spaced := hinv.spaced
  called := by
    show Called s.thread.pending h.passes
    rw [hpending]
    exact hinv.called

/-- `AddTask` takes an id that no task has. -/
theorem PassInv.addTask (hinv : PassInv h) (interval : Int) (once byCallback : Bool) :
    PassInv
      ⟨{ h.system with
          nextId := h.system.nextId + 1
          adding := h.system.adding ++ [⟨h.system.newTask interval once, byCallback⟩] },
        h.requests ++ [⟨h.system.nextId, h.system.now, interval, once⟩], h.passes⟩ := by
  -- What belonged to a request still belongs to it.
  have hkeep : ∀ {task : ScheduleTask}, (∃ request ∈ h.requests, request.Made task) →
      ∃ request ∈ h.requests ++ [⟨h.system.nextId, h.system.now, interval, once⟩],
        request.Made task := by
    rintro task ⟨request, hmem, hmade⟩
    exact ⟨request, List.mem_append_left _ hmem, hmade⟩
  refine ⟨?_, ?_, ?_, fun task htask => hkeep (hinv.tasks task htask),
    fun pass hpass task htask => hkeep (hinv.seen pass hpass task htask), ?_, hinv.seenIds, ?_,
    hinv.past, hinv.rescheduled, hinv.spaced, hinv.called⟩
  · rw [List.map_append]
    refine List.Nodup.append hinv.requestIds (List.nodup_singleton _) ?_
    intro id hold hnew
    obtain ⟨request, hmem, rfl⟩ := List.mem_map.mp hold
    have heq : request.id = h.system.nextId := by simpa using hnew
    exact absurd heq (Nat.ne_of_lt (hinv.lt request hmem))
  · intro request hmem
    show request.id < h.system.nextId + 1
    rcases List.mem_append.mp hmem with hold | hnew
    · have hlt := hinv.lt request hold
      omega
    · obtain rfl := List.mem_singleton.mp hnew
      exact Nat.lt_succ_self _
  · intro call hcall
    rcases List.mem_append.mp hcall with hold | hnew
    · exact hkeep (hinv.adding call hold)
    · obtain rfl := List.mem_singleton.mp hnew
      exact ⟨_, List.mem_append_right _ List.mem_cons_self, rfl, rfl, rfl, Nat.le_refl _⟩
  · -- The new id goes to the front, and all others are smaller.
    have hperm : (h.system.nextId ::
        (h.system.adding.map (·.task.id) ++ h.system.tasks.map ScheduleTask.id)).Perm
        ((h.system.adding ++
            [(⟨h.system.newTask interval once, byCallback⟩ : AddCall)]).map (·.task.id)
          ++ h.system.tasks.map ScheduleTask.id) := by
      rw [List.map_append, List.append_assoc]
      exact List.perm_middle.symm
    refine hperm.nodup_iff.mp (List.nodup_cons.mpr ⟨fun hmem => ?_, hinv.ids⟩)
    rcases List.mem_append.mp hmem with hadding | htasks
    · obtain ⟨call, hcall, hid⟩ := List.mem_map.mp hadding
      exact absurd hid (Nat.ne_of_lt (hinv.id_lt (hinv.adding call hcall)))
    · obtain ⟨task, htask, hid⟩ := List.mem_map.mp htasks
      exact absurd hid (Nat.ne_of_lt (hinv.id_lt (hinv.tasks task htask)))
  · intro call hcall pass hpass hid
    rcases List.mem_append.mp hcall with hold | hnew
    · exact hinv.fresh call hold pass hpass hid
    · obtain rfl := List.mem_singleton.mp hnew
      -- The new id is above the ids of all passes.
      obtain ⟨task, hdue, heq⟩ := List.mem_map.mp hid
      exact absurd heq
        (Nat.ne_of_lt (hinv.id_lt (hinv.seen pass hpass task (Pass.mem_due.mp hdue).1)))

/-- A task that is emplaced was in no pass. -/
theorem PassInv.emplace {i : Nat} {call : AddCall} (hinv : PassInv h)
    (hcall : h.system.adding[i]? = some call) :
    PassInv
      ⟨{ h.system with
          tasks := h.system.tasks ++ [call.task]
          adding := h.system.adding.eraseIdx i
          added := h.system.added ++ [call] }, h.requests, h.passes⟩ := by
  have hmem : call ∈ h.system.adding := List.mem_of_getElem? hcall
  refine ⟨hinv.requestIds, hinv.lt, ?_, ?_, hinv.seen, ?_, hinv.seenIds, ?_, hinv.past, ?_,
    hinv.spaced, hinv.called⟩
  · exact fun call' hcall' => hinv.adding call' (List.mem_of_mem_eraseIdx hcall')
  · intro task htask
    rcases List.mem_append.mp htask with hold | hnew
    · exact hinv.tasks task hold
    · obtain rfl := List.mem_singleton.mp hnew
      exact hinv.adding call hmem
  · refine List.Perm.nodup_iff ?_ |>.mp hinv.ids
    refine ((map_eraseIdx_perm hcall).symm.append_right _).trans ?_
    show (_ :: (_ ++ _)).Perm (_ ++ (h.system.tasks ++ [_]).map ScheduleTask.id)
    rw [List.map_append, ← List.append_assoc]
    exact (List.perm_append_singleton _ _).symm
  · exact fun call' hcall' => hinv.fresh call' (List.mem_of_mem_eraseIdx hcall')
  · intro task htask pass hpass hid
    rcases List.mem_append.mp htask with hold | hnew
    · exact hinv.rescheduled task hold pass hpass hid
    · obtain rfl := List.mem_singleton.mp hnew
      exact absurd hid (hinv.fresh call hmem pass hpass)

/-- A callback is called: it moves from the pending ones to those of the current pass. -/
theorem PassInv.call {i id : Nat} {pending deleted : List Nat} {wake : Option Nat}
    (hinv : PassInv h) (hthread : h.system.thread = .callbacks pending none deleted wake)
    (hid : pending[i]? = some id) :
    PassInv
      ⟨{ h.system with thread := .callbacks (pending.eraseIdx i) (some id) deleted wake },
        h.requests, h.passes.modifyHead fun pass =>
          { pass with invoked := pass.invoked ++ (h.system.thread.pending[i]?).toList }⟩ := by
  have hcalled := hinv.called
  have hspaced := hinv.spaced
  rw [hthread] at hcalled ⊢
  cases hpasses : h.passes with
  | nil =>
    -- A callback is pending, so a pass has begun.
    rw [hpasses] at hcalled
    have hnil : pending = [] := hcalled
    rw [hnil] at hid
    cases hid
  | cons current earlier =>
    rw [hpasses] at hcalled hspaced
    obtain ⟨hcurrent, hearlier⟩ := hcalled
    -- Only the callbacks of the current pass change.
    have hsame : ∀ pass ∈ { current with invoked := current.invoked ++ [id] } :: earlier,
        ∃ pass' ∈ h.passes, ∃ invoked, pass = { pass' with invoked := invoked } := by
      intro pass hpass
      rw [hpasses]
      rcases List.mem_cons.mp hpass with rfl | hold
      · exact ⟨current, List.mem_cons_self, _, rfl⟩
      · exact ⟨pass, List.mem_cons_of_mem _ hold, pass.invoked, rfl⟩
    show PassInv ⟨_, h.requests, { current with invoked := current.invoked ++
      (pending[i]?).toList } :: earlier⟩
    rw [hid]
    refine ⟨hinv.requestIds, hinv.lt, hinv.adding, hinv.tasks, ?_, hinv.ids, ?_, ?_, ?_, ?_, ?_, ?_⟩
    · intro pass hpass
      obtain ⟨pass', hmem, invoked, rfl⟩ := hsame pass hpass
      exact hinv.seen pass' hmem
    · intro pass hpass
      obtain ⟨pass', hmem, invoked, rfl⟩ := hsame pass hpass
      exact hinv.seenIds pass' hmem
    · intro call hcall pass hpass
      obtain ⟨pass', hmem, invoked, rfl⟩ := hsame pass hpass
      exact hinv.fresh call hcall pass' hmem
    · intro pass hpass
      obtain ⟨pass', hmem, invoked, rfl⟩ := hsame pass hpass
      exact hinv.past pass' hmem
    · intro task htask pass hpass hdue
      obtain ⟨pass', hmem, invoked, rfl⟩ := hsame pass hpass
      have hold := hinv.rescheduled task htask pass' hmem hdue
      rw [hthread] at hold
      exact hold
    · obtain ⟨hfirst, hrest⟩ := List.pairwise_cons.mp hspaced
      exact List.pairwise_cons.mpr ⟨fun pass hpass => hfirst pass hpass, hrest⟩
    · refine ⟨?_, hearlier⟩
      obtain ⟨hi, rfl⟩ := List.getElem?_eq_some_iff.mp hid
      refine List.Perm.trans ?_ hcurrent
      show (current.invoked ++ [pending[i]] ++ pending.eraseIdx i).Perm _
      rw [List.append_assoc]
      exact (List.getElem_cons_eraseIdx_perm hi).append_left _

/-- A pass begins. No task of it that runs once was in an earlier pass, because nothing is left
to be deleted. -/
theorem PassInv.collect (hinv : PassInv h) (hthread : h.system.thread = .inner) :
    PassInv ⟨h.system.collect, h.requests,
      { time := h.system.now, tasks := h.system.tasks } :: h.passes⟩ := by
  obtain ⟨htasks, hcallbacks, hdeleted⟩ := round_eq h.system.now h.system.tasks
  have hids : (h.system.tasks.map ScheduleTask.id).Nodup := hinv.ids.of_append_right
  have hearlier : ∀ task ∈ h.system.tasks, ∀ pass ∈ h.passes,
      task.id ∈ pass.due.map ScheduleTask.id →
        pass.time + task.interval ≤ task.scheduledTimePoint ∧ task.once = false := by
    intro task htask pass hpass hid
    obtain ⟨htime, honce⟩ := hinv.rescheduled task htask pass hpass hid
    rw [hthread] at honce
    exact ⟨htime, Bool.not_eq_true _ ▸ fun h => absurd (honce h) List.not_mem_nil⟩
  -- The new pass sees the tasks as they were, and the map has them rescheduled.
  refine ⟨hinv.requestIds, hinv.lt, hinv.adding, ?_, ?_, ?_, ?_, ?_, ?_, ?_, ?_, ?_⟩
  · show ∀ task ∈ (round h.system.now h.system.tasks).tasks, _
    rw [htasks]
    intro task hmem
    obtain ⟨old, hold, rfl⟩ := List.mem_map.mp hmem
    obtain ⟨request, hrequest, hmade⟩ := hinv.tasks old hold
    exact ⟨request, hrequest, hmade.reschedule⟩
  · intro pass hpass
    rcases List.mem_cons.mp hpass with rfl | hold
    · exact hinv.tasks
    · exact hinv.seen pass hold
  · show (_ ++ (round h.system.now h.system.tasks).tasks.map ScheduleTask.id).Nodup
    rw [ids_round]
    exact hinv.ids
  · intro pass hpass
    rcases List.mem_cons.mp hpass with rfl | hold
    · exact hids
    · exact hinv.seenIds pass hold
  · intro call hcall pass hpass hid
    rcases List.mem_cons.mp hpass with rfl | hold
    · obtain ⟨task, hdue, heq⟩ := List.mem_map.mp hid
      refine List.disjoint_of_nodup_append hinv.ids (List.mem_map_of_mem hcall) ?_
      exact heq ▸ List.mem_map_of_mem (Pass.mem_due.mp hdue).1
    · exact hinv.fresh call hcall pass hold hid
  · intro pass hpass
    rcases List.mem_cons.mp hpass with rfl | hold
    · exact Nat.le_refl _
    · exact hinv.past pass hold
  · show ∀ task ∈ (round h.system.now h.system.tasks).tasks, ∀ pass ∈ _, _ → _ ∧
      (_ → task.id ∈ (round h.system.now h.system.tasks).deletedTasks)
    rw [htasks, hdeleted]
    intro task hmem pass hpass hid
    obtain ⟨old, hold, rfl⟩ := List.mem_map.mp hmem
    rw [ScheduleTask.reschedule_id] at hid ⊢
    rcases List.mem_cons.mp hpass with rfl | hearlierPass
    · have hdue := (Pass.mem_due.mp (Pass.mem_due_of_id hids hold hid)).2
      have hdue' : old.scheduledTimePoint ≤ h.system.now := hdue
      simp only [ScheduleTask.reschedule, if_pos hdue']
      refine ⟨Nat.le_refl _, fun honce => List.mem_map_of_mem (List.mem_filter.mpr ⟨hold, ?_⟩)⟩
      exact decide_eq_true ⟨hdue', honce⟩
    · obtain ⟨htime, honce⟩ := hearlier old hold pass hearlierPass hid
      have hpast := hinv.past pass hearlierPass
      unfold ScheduleTask.reschedule
      split
      · refine ⟨?_, fun h => absurd (honce.symm.trans h) Bool.false_ne_true⟩
        show pass.time + old.interval ≤ h.system.now + old.interval
        omega
      · exact ⟨htime, fun h => absurd (honce.symm.trans h) Bool.false_ne_true⟩
  · refine List.pairwise_cons.mpr ⟨fun pass hpass task hdue hid => ?_, hinv.spaced⟩
    obtain ⟨htask, hreached⟩ := Pass.mem_due.mp hdue
    obtain ⟨htime, honce⟩ := hearlier task htask pass hpass hid
    exact ⟨Nat.le_trans htime hreached, honce⟩
  · have hcalled := hinv.called
    rw [hthread] at hcalled
    refine ⟨?_, fun pass hpass => ?_⟩
    · show ((round h.system.now h.system.tasks).callbacks).Perm _
      rw [hcallbacks]
      exact List.Perm.refl _
    · -- Nothing is pending between two passes.
      obtain ⟨rest, hrest, hperm⟩ := hcalled.of_mem hpass
      obtain rfl : rest = [] := List.subset_nil.mp hrest
      rw [List.append_nil] at hperm
      exact hperm

/-- A notification changes neither the deleted tasks nor the callbacks to come. -/
theorem deletedTasks_notify (thread : SchedulerThread) :
    thread.notify.deletedTasks = thread.deletedTasks ∧ thread.notify.pending = thread.pending := by
  cases thread <;> exact ⟨rfl, rfl⟩

/-- A step of `ProcessTasks` that does not begin a pass and keeps the tasks. -/
theorem PassInv.advanced {thread : SchedulerThread} (hinv : PassInv h)
    (hno : ¬(h.system.thread = .inner ∧ h.system.tasks ≠ []))
    (hpending : thread.pending = h.system.thread.pending)
    (hdeleted : thread.deletedTasks = h.system.thread.deletedTasks) :
    PassInv ⟨{ h.system with thread := thread }, h.requests, h.passesAfter .advance⟩ := by
  rw [show h.passesAfter .advance = h.passes from if_neg hno]
  refine hinv.quiet rfl rfl (List.Sublist.refl _) (Nat.le_refl _) hpending fun task _ hmem => ?_
  rw [hdeleted]
  exact hmem

/-- A step of the scheduler thread keeps the invariant. -/
theorem PassInv.advance (hinv : PassInv h) (hadvance : Advance h.system s) :
    PassInv ⟨s, h.requests, h.passesAfter .advance⟩ := by
  have hno : h.system.thread ≠ .inner → ¬(h.system.thread = .inner ∧ h.system.tasks ≠ []) :=
    fun hne hboth => hne hboth.1
  cases hadvance with
  | collect hthread htasks =>
    rw [show h.passesAfter .advance = _ from if_pos ⟨hthread, htasks⟩]
    exact hinv.collect hthread
  | empty hthread htasks =>
    refine hinv.advanced (fun hboth => hboth.2 htasks) ?_ ?_ <;> rw [hthread] <;> rfl
  | delete hthread =>
    have hpasses : h.passesAfter .advance = h.passes := if_neg (hno (by simp [hthread]))
    rw [hpasses]
    refine hinv.quiet rfl rfl List.filter_sublist (Nat.le_refl _) ?_ fun task htask hmem => ?_
    · rw [hthread]
      rfl
    · -- What was to be deleted is deleted.
      rw [hthread] at hmem
      exact absurd hmem (of_decide_eq_true (List.mem_filter.mp htask).2)
  | outer hthread | woke hthread | afterWait hthread =>
    refine hinv.advanced (hno (by simp [hthread])) ?_ ?_ <;> rw [hthread] <;> split <;> rfl
  | locking hthread | returned hthread _ | sleep hthread | goOn hthread | block hthread _ _
  | wait hthread =>
    refine hinv.advanced (hno (by simp [hthread])) ?_ ?_ <;> rw [hthread] <;> rfl

/-- A step keeps the invariant. -/
theorem passInv_step (hinv : PassInv h) (hs : h.step op = some h') : PassInv h' := by
  obtain ⟨s, hstep, rfl⟩ := Option.map_eq_some_iff.mp hs
  cases step_transition hstep with
  | addTask _ => exact hinv.addTask _ _ _
  | emplace _ hcall => exact hinv.emplace hcall
  | advance hadvance => exact hinv.advance hadvance
  | call hthread hid => exact hinv.call hthread hid
  | tick elapsed =>
    exact hinv.quiet rfl rfl (List.Sublist.refl _) (Nat.le_add_right _ _) rfl fun _ _ hmem => hmem
  | requestStop =>
    exact hinv.quiet rfl rfl (List.Sublist.refl _) (Nat.le_refl _) rfl fun _ _ hmem => hmem
  | erase _ _ _ =>
    exact hinv.quiet rfl rfl List.filter_sublist (Nat.le_refl _) rfl fun _ _ hmem => hmem
  | notifyAdd _ | notifyRemove _ | notifyStop _ _ =>
    obtain ⟨hdeleted, hpending⟩ := deletedTasks_notify h.system.thread
    refine hinv.quiet rfl rfl (List.Sublist.refl _) (Nat.le_refl _) hpending fun task _ hmem => ?_
    show task.id ∈ h.system.thread.notify.deletedTasks
    rw [hdeleted]
    exact hmem
  | wakeSleeping hthread | wakeWaiting hthread =>
    refine hinv.quiet rfl rfl (List.Sublist.refl _) (Nat.le_refl _) ?_ fun task _ hmem => ?_
    · rw [hthread]
      rfl
    · rw [hthread] at hmem
      exact absurd hmem List.not_mem_nil

/-- The invariant holds in every run. -/
theorem passInv_reachable (hreach : schedulingHistories.Reachable Lts.anyStep h) : PassInv h := by
  refine hreach.invariant (I := PassInv) ?_ fun h op h' ih _ hs => passInv_step ih hs
  rintro h rfl
  refine ⟨List.nodup_nil, ?_, ?_, ?_, ?_, List.nodup_nil, ?_, ?_, ?_, ?_, List.Pairwise.nil, rfl⟩
  all_goals exact fun _ hmem => absurd hmem List.not_mem_nil

/-! ### Invocations -/

/-- The callbacks that a pass has called are those of due tasks, each once. -/
theorem PassInv.invoked (hinv : PassInv h) {pass : Pass} (hpass : pass ∈ h.passes) :
    pass.invoked.Nodup ∧ pass.invoked ⊆ pass.due.map ScheduleTask.id := by
  have hnodup := Pass.nodup_due (hinv.seenIds pass hpass)
  obtain ⟨rest, -, hperm⟩ := hinv.called.of_mem hpass
  refine ⟨(hperm.nodup_iff.mpr hnodup).of_append_left, fun id hid => ?_⟩
  exact hperm.subset (List.mem_append_left _ hid)

/-- The request of an invoked task. -/
theorem PassInv.request_of_due (hinv : PassInv h) {pass : Pass} {request : Request}
    (hpass : pass ∈ h.passes) (hrequest : request ∈ h.requests)
    (hid : request.id ∈ pass.due.map ScheduleTask.id) :
    ∃ task ∈ pass.due, request.Made task := by
  obtain ⟨task, hdue, heq⟩ := List.mem_map.mp hid
  obtain ⟨request', hrequest', hmade⟩ := hinv.seen pass hpass task (Pass.mem_due.mp hdue).1
  have hsame : request' = request :=
    List.inj_on_of_nodup_map hinv.requestIds hrequest' hrequest (hmade.id.symm.trans heq)
  exact ⟨task, hdue, hsame ▸ hmade⟩

/-- An id that no two passes have is invoked at most once in all. -/
theorem count_flatMap_le_one {id : Nat} {passes : List Pass}
    (hnodup : ∀ pass ∈ passes, pass.invoked.Nodup)
    (hapart : passes.Pairwise fun later earlier => id ∈ later.invoked → id ∉ earlier.invoked) :
    (passes.flatMap Pass.invoked).count id ≤ 1 := by
  induction passes with
  | nil => exact Nat.zero_le _
  | cons current earlier ih =>
    obtain ⟨hfirst, hrest⟩ := List.pairwise_cons.mp hapart
    have hrec := ih (fun pass hpass => hnodup pass (List.mem_cons_of_mem _ hpass)) hrest
    have hone := List.nodup_iff_count_le_one.mp (hnodup current List.mem_cons_self) id
    rw [List.flatMap_cons, List.count_append]
    by_cases hmem : id ∈ current.invoked
    · have hzero : (earlier.flatMap Pass.invoked).count id = 0 := by
        refine List.count_eq_zero.mpr fun hold => ?_
        obtain ⟨pass, hpass, hin⟩ := List.mem_flatMap.mp hold
        exact hfirst pass hpass hmem hin
      omega
    · rw [List.count_eq_zero.mpr hmem]
      omega

/-- In every run the requests have different ids. A task is invoked in passes that sampled its
time plus its interval or later. A task that runs once is invoked at most once, and the passes
that invoke a task are an interval apart. Every pass before the current one has invoked the due
tasks of the map that it saw, each once, and the current one has invoked them but for the
pending ones. -/
theorem fires_when_due (hreach : schedulingHistories.Reachable Lts.anyStep h) :
    (h.requests.map Request.id).Nodup ∧
    (∀ pass ∈ h.passes, ∀ id ∈ pass.invoked, ∃ request ∈ h.requests, request.id = id ∧
      request.time + max request.duration minInterval ≤ (pass.time : Int)) ∧
    (∀ request ∈ h.requests, request.once = true →
      (h.passes.flatMap Pass.invoked).count request.id ≤ 1) ∧
    (∀ request ∈ h.requests, h.passes.Pairwise fun later earlier =>
      request.id ∈ later.invoked → request.id ∈ earlier.invoked →
        earlier.time + max request.duration minInterval ≤ (later.time : Int)) ∧
    (∀ pass ∈ h.passes, (pass.tasks.map ScheduleTask.id).Nodup) ∧
    (∀ pass ∈ h.passes.tail, pass.invoked.Perm (pass.due.map ScheduleTask.id)) ∧
    ∀ pass ∈ h.passes.head?,
      (pass.invoked ++ h.system.thread.pending).Perm (pass.due.map ScheduleTask.id) := by
  have hinv := passInv_reachable hreach
  refine ⟨hinv.requestIds, ?_, ?_, ?_, hinv.seenIds, hinv.called.tail, hinv.called.head⟩
  · intro pass hpass id hid
    obtain ⟨task, hdue, rfl⟩ := List.mem_map.mp ((hinv.invoked hpass).2 hid)
    obtain ⟨htask, hreached⟩ := Pass.mem_due.mp hdue
    obtain ⟨request, hrequest, hmade⟩ := hinv.seen pass hpass task htask
    refine ⟨request, hrequest, hmade.id.symm, ?_⟩
    -- A task is due no earlier than its request and its interval say.
    have hscheduled := hmade.scheduled
    rw [← clampInterval_eq_max, ← hmade.interval]
    omega
  · intro request hrequest honce
    refine count_flatMap_le_one (fun pass hpass => (hinv.invoked hpass).1) ?_
    refine hinv.spaced.imp_of_mem ?_
    intro later earlier hlater hearlier hspaced hid hid'
    obtain ⟨task, hdue, hmade⟩ :=
      hinv.request_of_due hlater hrequest ((hinv.invoked hlater).2 hid)
    -- A task that runs once is not in the table of a later pass.
    have hnot := (hspaced task hdue (hmade.id ▸ (hinv.invoked hearlier).2 hid')).2
    rw [hmade.once, honce] at hnot
    cases hnot
  · intro request hrequest
    refine hinv.spaced.imp_of_mem ?_
    intro later earlier hlater hearlier hspaced hid hid'
    obtain ⟨task, hdue, hmade⟩ :=
      hinv.request_of_due hlater hrequest ((hinv.invoked hlater).2 hid)
    have hapart := (hspaced task hdue (hmade.id ▸ (hinv.invoked hearlier).2 hid')).1
    rw [← clampInterval_eq_max, ← hmade.interval]
    omega

/-- A task that runs once and a periodic one. The periodic task is removed by a callback of the
first pass, which invokes it all the same. -/
theorem fires_when_due_removed :
    ∃ h, schedulingHistories.Reachable Lts.anyStep h ∧
      h.passes.map Pass.invoked = [[1, 2]] ∧ h.system.tasks = [] ∧
      (h.requests.map Request.id).Nodup := by
  have hstart : schedulingHistories.Reachable Lts.anyStep {} := .start rfl
  obtain ⟨h, hh, hpasses, htasks⟩ := hstart.exists_of_exec
    [.addTask 1 true false, .emplace 0, .notifyAdd 0, .addTask (-3) false false, .emplace 0,
      .notifyAdd 0, .advance, .advance, .tick 15000000, .advance, .call 0, .erase 2 true,
      .notifyRemove 0, .advance, .call 0, .advance, .advance]
    (fun h => h.passes.map Pass.invoked = [[1, 2]] ∧ h.system.tasks = []) (by decide)
  exact ⟨h, hh, hpasses, htasks, (fires_when_due hh).1⟩

end SchedulingHistory

end ChatCore.Scheduling
