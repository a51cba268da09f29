import ChatCore.Proofs.RpcCalls
import ChatCore.Proofs.TaskRemoval

/-!
# `ChatCore.Proofs.RpcTimeouts`: what a finished call leaves behind

A call with a timeout has a task in the map of the scheduler and an entry in `timeouts_`.
`ScheduleTimeout` makes the task first and the entry later, and `CancelTimeout` finds the task by
the entry. `Timed` says how the two tables and the tasks belong together in every run: a task id
in `timeouts_` or in a `CancelTimeout` is the id of a task of the same call.

A `CancelTimeout` between the two steps of `ScheduleTimeout` finds no entry, and the entry is made
after it. Nobody takes it out again, because the call is finished. `CancelsAfterRecord` excludes
this, and then a call that is past its `CancelTimeout` has no entry (`Cleared`).
-/

set_option autoImplicit false

namespace ChatCore.Network

open ChatCore.Api (MessageType)
open ChatCore.Lib
open ChatCore.Scheduling (ScheduleTask SchedulingOp SchedulingSystem)

variable {Kind Message : Type} {api : RpcApi Kind Message}

/-- `Call` is past `ScheduleTimeout`. -/
def CallStage.recorded : CallStage Kind → Bool
  | .scheduled | .returned => true
  | .prepared | .successSubscribed _ | .subscribed _ _ | .emplaced | .scheduling _ => false

/-- The task that `CancelTimeout` has taken out of `timeouts_`. -/
def HandleStage.task? : HandleStage Kind → Option Nat
  | .removing task | .notifying task => some task
  | _ => none

/-- `HandleCallback` is before the lock of `CancelTimeout`. -/
def HandleStage.cancels : HandleStage Kind → Bool
  | .cancelling => true
  | _ => false

/-- `HandleCallback` has the entry of the call, and `CancelTimeout` is still to come. -/
def HandleStage.uncancelled : HandleStage Kind → Bool
  | .erased _ | .erasedError _ | .cancelling => true
  | .entered | .removing _ | .notifying _ | .finishing => false

deriving instance DecidableEq for CallStage

namespace RpcSystem

variable {s s' : RpcSystem Kind Message} {k : Nat} {thread : CallbackThread}
  {h : Handling Kind Message}

/-! ### The tasks of the calls -/

/-- A `CancelTimeout` of the call has taken the task out of `timeouts_`, and is about to remove
it. -/
def Removing (s : RpcSystem Kind Message) (k t : Nat) : Prop :=
  ∃ thread h, s.handling thread = some h ∧ h.call = k ∧ h.stage = .removing t

/-- A step of another thread leaves a `CancelTimeout` where it is. -/
theorem Removing.setHandling {t : Nat} {new : Option (Handling Kind Message)}
    (hremoving : Removing s k t)
    (hold : ∀ h, s.handling thread = some h → h.stage ≠ .removing t) :
    Removing (s.setHandling thread new) k t := by
  obtain ⟨thread', h, hthread', hcall, hstage⟩ := hremoving
  have hne : thread' ≠ thread := by
    rintro rfl
    exact hold h hthread' hstage
  exact ⟨thread', h, (Function.update_of_ne hne _ _).trans hthread', hcall, hstage⟩

/-- How the tasks of the calls, `timeouts_` and the map of the scheduler belong together. -/
structure Timed (s : RpcSystem Kind Message) : Prop where
  issued : s.scheduler.Issued
  /-- A task of a call was made by `ScheduleTimeout`, which is still in it or has returned. -/
  task : ∀ t k, s.timeoutTasks t = some k → t < s.scheduler.nextId ∧
    (s.stage k = .scheduling t ∨ (s.stage k).recorded = true ∧ t ∈ s.scheduler.handles)
  scheduling : ∀ k t, s.stage k = .scheduling t → s.timeoutTasks t = some k
  timeouts : ∀ id t, s.timeouts id = some t →
    ∃ k, id = k + 1 ∧ s.timeoutTasks t = some k ∧ (s.stage k).recorded = true
  removing : ∀ thread h t, s.handling thread = some h → h.stage.task? = some t →
    s.timeoutTasks t = some h.call
  /-- A task in the map has its entry, or is about to be removed. -/
  table : ∀ k t, (s.stage k).recorded = true → s.timeoutTasks t = some k →
    t ∈ s.scheduler.tasks.map ScheduleTask.id →
    s.timeouts (k + 1) = some t ∨ Removing s k t

/-- A call before `ScheduleTimeout` has no task. -/
theorem Timed.no_task (hs : Timed s) (hstage : s.stage k = .emplaced) (t : Nat) :
    s.timeoutTasks t ≠ some k := by
  intro htask
  have hcases := (hs.task t k htask).2
  rw [hstage] at hcases
  cases hcases with
  | inl hscheduling => cases hscheduling
  | inr hhandle => cases hhandle.1

/-- A step that leaves the tasks alone. -/
theorem Timed.frame (hs : Timed s) (hscheduler : s'.scheduler = s.scheduler)
    (htimeoutTasks : s'.timeoutTasks = s.timeoutTasks) (htimeouts : s'.timeouts = s.timeouts)
    (hhandling : s'.handling = s.handling) (hstage : s'.stage = s.stage) : Timed s' where
  issued := by rw [hscheduler]; exact hs.issued
  task := by rw [hscheduler, htimeoutTasks, hstage]; exact hs.task
  scheduling := by rw [htimeoutTasks, hstage]; exact hs.scheduling
  timeouts := by rw [htimeoutTasks, htimeouts, hstage]; exact hs.timeouts
  removing := by rw [htimeoutTasks, hhandling]; exact hs.removing
  table := by
    unfold Removing
    rw [hscheduler, htimeoutTasks, htimeouts, hhandling, hstage]
    exact hs.table

/-- `Call` goes on outside `ScheduleTimeout`. -/
theorem Timed.setStage {stage : CallStage Kind} (hs : Timed s)
    (hold : ∀ t, s.stage k ≠ .scheduling t) (hnew : ∀ t, stage ≠ .scheduling t)
    (hrecorded : (s.stage k).recorded = true → stage.recorded = true) :
    Timed (s.setStage k stage) := by
  have hkeep : ∀ j, (s.stage j).recorded = true →
      ((s.setStage k stage).stage j).recorded = true := by
    intro j hj
    simp only [RpcSystem.setStage, Function.update_apply]
    split
    · rename_i heq
      exact hrecorded (heq ▸ hj)
    · exact hj
  have hscheduling : ∀ j t, (s.setStage k stage).stage j = .scheduling t ↔
      s.stage j = .scheduling t := by
    intro j t
    simp only [RpcSystem.setStage, Function.update_apply]
    split
    · rename_i heq
      subst heq
      exact iff_of_false (hnew t) (hold t)
    · exact Iff.rfl
  refine ⟨hs.issued, fun t j htask => ?_, fun j t hj => ?_, fun id t hentry => ?_, hs.removing,
    fun j t hj htask hmem => ?_⟩
  · obtain ⟨hlt, hstage⟩ := hs.task t j htask
    refine ⟨hlt, hstage.imp (hscheduling j t).mpr fun hhandle => ?_⟩
    exact ⟨hkeep j hhandle.1, hhandle.2⟩
  · exact hs.scheduling j t ((hscheduling j t).mp hj)
  · obtain ⟨j, hid, htask, hj⟩ := hs.timeouts id t hentry
    exact ⟨j, hid, htask, hkeep j hj⟩
  · cases (hs.task t j htask).2 with
    | inl hstage =>
      -- The call is in `ScheduleTimeout`, and not past it.
      rw [(hscheduling j t).mpr hstage] at hj
      cases hj
    | inr hhandle => exact hs.table j t hhandle.1 htask hmem

/-- `HandleCallback` is entered, returns or moves on, outside `RemoveTask`. -/
theorem Timed.setHandling {new : Option (Handling Kind Message)} (hs : Timed s)
    (hold : ∀ h t, s.handling thread = some h → h.stage ≠ .removing t)
    (hnew : ∀ h', new = some h' → h'.stage.task? = none) :
    Timed (s.setHandling thread new) := by
  refine ⟨hs.issued, hs.task, hs.scheduling, hs.timeouts, fun thread' h' t hthread' ht => ?_,
    fun j t hj htask hmem => ?_⟩
  · simp only [RpcSystem.setHandling, Function.update_apply] at hthread'
    split at hthread'
    · rw [hnew h' hthread'] at ht
      cases ht
    · exact hs.removing thread' h' t hthread' ht
  · refine (hs.table j t hj htask hmem).imp_right fun hremoving => ?_
    exact hremoving.setHandling fun h' => hold h' t

/-- `HandleCallback` moves on, outside `RemoveTask`. -/
theorem Timed.advance {new : Option (Handling Kind Message)} (hs : Timed s)
    (hthread : s.handling thread = some h) (hold : ∀ t, h.stage ≠ .removing t)
    (hnew : ∀ h', new = some h' → h'.stage.task? = none) : Timed (s.setHandling thread new) := by
  refine hs.setHandling (fun h' t hthread' => ?_) hnew
  obtain rfl : h' = h := Option.some.inj (hthread'.symm.trans hthread)
  exact hold t

/-- `HandleCallback` is entered. -/
theorem Timed.enter {j : Nat} {outcome : Outcome Message} (hs : Timed s)
    (hidle : s.handling thread = none) :
    Timed (s.setHandling thread (some ⟨j, outcome, .entered⟩)) := by
  refine hs.setHandling (fun h' t hthread => ?_) (fun h' hh' => ?_)
  · rw [hidle] at hthread
    cases hthread
  · cases hh'
    rfl

/-- A step of the scheduler. -/
theorem Timed.schedulerStep {op : SchedulingOp} {scheduler : SchedulingSystem} (hs : Timed s)
    (hstep : s.scheduler.step op = some scheduler) : Timed { s with scheduler := scheduler } := by
  obtain ⟨hhandles, hnext, hback⟩ := SchedulingSystem.handles_step hs.issued hstep
  refine ⟨SchedulingSystem.issued_step hs.issued hstep, fun t j htask => ?_, hs.scheduling,
    hs.timeouts, hs.removing, fun j t hj htask hmem => ?_⟩
  · obtain ⟨hlt, hstage⟩ := hs.task t j htask
    exact ⟨Nat.lt_of_lt_of_le hlt hnext, hstage.imp_right fun hhandle =>
      ⟨hhandle.1, hhandles hhandle.2⟩⟩
  · cases (hs.task t j htask).2 with
    | inl hstage =>
      dsimp only at hj
      rw [hstage] at hj
      cases hj
    -- The handle of the task is known, so the task was in the map before.
    | inr hhandle => exact hs.table j t hj htask (hback t hhandle.2 hmem)

/-- The first half of `ScheduleTimeout`: the call gets a task with a new id. -/
theorem Timed.schedule {duration : Int} {byCallback : Bool} {scheduler : SchedulingSystem}
    (hs : Timed s) (hstage : s.stage k = .emplaced)
    (hstep : s.scheduler.step (.addTask duration true byCallback) = some scheduler) :
    Timed ({ s with
      scheduler := scheduler
      timeoutTasks := Function.update s.timeoutTasks s.scheduler.nextId (some k) }.setStage k
        (.scheduling s.scheduler.nextId)) := by
  have hnext : s.scheduler.nextId < scheduler.nextId := by
    cases SchedulingSystem.step_transition hstep
    exact Nat.lt_succ_self _
  have hstepped := hs.schedulerStep hstep
  -- The id is new, so no task of a call has it, and the call had no task before.
  have hold : ∀ t j, s.timeoutTasks t = some j → t ≠ s.scheduler.nextId ∧ j ≠ k := by
    intro t j htask
    refine ⟨Nat.ne_of_lt (hs.task t j htask).1, ?_⟩
    rintro rfl
    exact hs.no_task hstage t htask
  have hkeep : ∀ t j, s.timeoutTasks t = some j →
      Function.update s.timeoutTasks s.scheduler.nextId (some k) t = some j := by
    intro t j htask
    rw [Function.update_of_ne (hold t j htask).1, htask]
  refine ⟨hstepped.issued, fun t j htask => ?_, fun j t hj => ?_, fun id t hentry => ?_,
    fun thread h t hthread ht => hkeep t _ (hs.removing thread h t hthread ht),
    fun j t hj htask hmem => ?_⟩
  · -- The new task belongs to a call in `ScheduleTimeout`, the others are where they were.
    simp only [RpcSystem.setStage, Function.update_apply] at htask ⊢
    split at htask
    · rename_i heq
      cases htask
      rw [if_pos rfl, heq]
      exact ⟨hnext, .inl rfl⟩
    · rw [if_neg (hold t j htask).2]
      exact hstepped.task t j htask
  · simp only [RpcSystem.setStage, Function.update_apply] at hj ⊢
    split at hj
    · rename_i heq
      cases hj
      rw [if_pos rfl, heq]
    · have htask := hs.scheduling j t hj
      rw [if_neg (hold t j htask).1, htask]
  · obtain ⟨j, hid, htask, hj⟩ := hs.timeouts id t hentry
    refine ⟨j, hid, hkeep t j htask, ?_⟩
    simp only [RpcSystem.setStage, Function.update_of_ne (hold t j htask).2]
    exact hj
  · -- The call itself is not past `ScheduleTimeout`, so its task needs no entry yet.
    simp only [RpcSystem.setStage, Function.update_apply] at hj htask
    split at hj
    · cases hj
    · rename_i hne
      split at htask
      · cases htask
        exact absurd rfl hne
      · exact hstepped.table j t hj htask hmem

/-- The second half of `ScheduleTimeout`: the entry of the call. -/
theorem Timed.record {task : Nat} (hs : Timed s) (hstage : s.stage k = .scheduling task)
    (htask : task ∈ s.scheduler.handles) :
    Timed ({ s with timeouts := Function.update s.timeouts (k + 1) (some task) }.setStage k
      .scheduled) := by
  have hown : s.timeoutTasks task = some k := hs.scheduling k task hstage
  refine ⟨hs.issued, fun t j ht => ?_, fun j t hj => ?_, fun id t hentry => ?_, hs.removing,
    fun j t hj ht hmem => ?_⟩
  · obtain ⟨hlt, hcases⟩ := hs.task t j ht
    refine ⟨hlt, ?_⟩
    simp only [RpcSystem.setStage, Function.update_apply]
    split
    · -- The call has one task, whose id it kept in a local variable.
      rename_i heq
      subst heq
      rw [hstage] at hcases
      cases hcases with
      | inl heq =>
        cases heq
        exact .inr ⟨rfl, htask⟩
      | inr hhandle => cases hhandle.1
    · exact hcases
  · simp only [RpcSystem.setStage, Function.update_apply] at hj
    split at hj
    · cases hj
    · exact hs.scheduling j t hj
  · -- The new entry has the task of its own call.
    simp only [RpcSystem.setStage, Function.update_apply] at hentry ⊢
    split at hentry
    · rename_i heq
      cases hentry
      exact ⟨k, heq, hown, by rw [if_pos rfl]; rfl⟩
    · obtain ⟨j, hid, ht, hj⟩ := hs.timeouts id t hentry
      refine ⟨j, hid, ht, ?_⟩
      split
      · rfl
      · exact hj
  · simp only [RpcSystem.setStage, Function.update_apply] at hj ⊢
    by_cases heq : j = k
    · subst heq
      rw [if_pos rfl]
      cases (hs.task t j ht).2 with
      | inl hscheduling =>
        rw [hstage] at hscheduling
        cases hscheduling
        exact .inl rfl
      | inr hhandle =>
        rw [hstage] at hhandle
        cases hhandle.1
    · have hne : j + 1 ≠ k + 1 := by omega
      rw [if_neg heq] at hj
      rw [if_neg hne]
      exact hs.table j t hj ht hmem

/-- The locked section of `CancelTimeout`. -/
theorem Timed.takeTimeout {task : Nat} (hs : Timed s) (hthread : s.handling thread = some h)
    (hstage : h.stage = .cancelling) (hentry : s.timeouts (h.call + 1) = some task) :
    Timed ({ s with timeouts := Function.update s.timeouts (h.call + 1) none }.setHandling thread
      (some { h with stage := .removing task })) := by
  refine ⟨hs.issued, hs.task, hs.scheduling, fun id t hid => ?_, fun thread' h' t hthread' ht => ?_,
    fun j t hj ht hmem => ?_⟩
  · simp only [RpcSystem.setHandling, Function.update_apply] at hid
    split at hid
    · cases hid
    · exact hs.timeouts id t hid
  · simp only [RpcSystem.setHandling, Function.update_apply] at hthread'
    split at hthread'
    · cases hthread'
      cases ht
      obtain ⟨j, hj, htask, -⟩ := hs.timeouts _ _ hentry
      obtain rfl : h.call = j := by omega
      exact htask
    · exact hs.removing thread' h' t hthread' ht
  · cases hs.table j t hj ht hmem with
    | inl hold =>
      simp only [RpcSystem.setHandling, Function.update_apply]
      split
      · -- The task of this call: the thread has taken its entry.
        rename_i heq
        obtain rfl : j = h.call := by omega
        obtain rfl : task = t := Option.some.inj (hentry.symm.trans hold)
        exact .inr ⟨thread, _, if_pos rfl, rfl, rfl⟩
      · exact .inl hold
    | inr hremoving =>
      refine .inr (hremoving.setHandling fun h' hthread' heq => ?_)
      obtain rfl : h' = h := Option.some.inj (hthread'.symm.trans hthread)
      rw [hstage] at heq
      cases heq

/-- The locked section of `RemoveTask`. -/
theorem Timed.removeTask {task : Nat} {byCallback : Bool} {scheduler : SchedulingSystem}
    (hs : Timed s) (hthread : s.handling thread = some h) (hstage : h.stage = .removing task)
    (hstep : s.scheduler.step (.erase task byCallback) = some scheduler) :
    Timed ({ s with scheduler := scheduler }.setHandling thread
      (some { h with stage := .notifying task })) := by
  have hgone : task ∉ scheduler.tasks.map ScheduleTask.id := by
    cases SchedulingSystem.step_transition hstep
    simp
  have hstepped := hs.schedulerStep hstep
  refine ⟨hstepped.issued, hstepped.task, hstepped.scheduling, hstepped.timeouts,
    fun thread' h' t hthread' ht => ?_, fun j t hj ht hmem => ?_⟩
  · simp only [RpcSystem.setHandling, Function.update_apply] at hthread'
    split at hthread'
    · cases hthread'
      exact hs.removing thread h t hthread (by rw [hstage]; exact ht)
    · exact hs.removing thread' h' t hthread' ht
  · refine (hstepped.table j t hj ht hmem).imp_right fun hremoving => ?_
    refine hremoving.setHandling fun h' hthread' heq => ?_
    -- The thread was about to remove this task, and now it is gone.
    obtain rfl : h' = h := Option.some.inj (hthread'.symm.trans hthread)
    rw [hstage] at heq
    cases heq
    exact hgone hmem

/-! ### Calls that are past `CancelTimeout` -/

/-- `CancelTimeout` of a call with a timeout runs after `ScheduleTimeout` of the call has made the
entry. -/
def CancelsAfterRecord (s : RpcSystem Kind Message) : RpcOp Kind Message → Prop
  | .handle thread => ∀ h ∈ s.handling thread, h.stage.cancels = true →
      ∀ builder ∈ s.prepared[h.call]?, builder.timeoutDuration.isSome = true →
        (s.stage h.call).recorded = true
  | _ => True

/-- The entry of the call was erased from `calls_`, and `CancelTimeout` was run for it. -/
structure Cancelled (s : RpcSystem Kind Message) (k : Nat) : Prop where
  registered : (s.stage k).registered = true
  calls : s.calls (k + 1) = none
  handling : ∀ thread h, s.handling thread = some h → h.call = k → h.stage.uncancelled = false

/-- The call has no entry in `timeouts_`, and `ScheduleTimeout` will not make one. -/
def Unarmed (s : RpcSystem Kind Message) (k : Nat) : Prop :=
  s.timeouts (k + 1) = none ∧
    ∃ builder, s.prepared[k]? = some builder ∧
      (builder.timeoutDuration.isSome = true → (s.stage k).recorded = true)

/-- A call that is past `CancelTimeout` has no timeout. -/
def Cleared (s : RpcSystem Kind Message) : Prop := ∀ k, Cancelled s k → Unarmed s k

/-- `Call` goes on. -/
theorem Cleared.setStage {stage : CallStage Kind} (hs : Cleared s)
    (hregistered : s.calls (k + 1) = none → stage.registered = true →
      (s.stage k).registered = true)
    (hrecorded : (s.stage k).recorded = true → stage.recorded = true) :
    Cleared (s.setStage k stage) := by
  intro j hj
  have hstage := hj.registered
  by_cases heq : j = k
  · subst heq
    simp only [RpcSystem.setStage, Function.update_self] at hstage
    have hold : Cancelled s j := ⟨hregistered hj.calls hstage, hj.calls, hj.handling⟩
    obtain ⟨htimeouts, builder, hk, htimeout⟩ := hs j hold
    refine ⟨htimeouts, builder, hk, fun hsome => ?_⟩
    simp only [RpcSystem.setStage, Function.update_self]
    exact hrecorded (htimeout hsome)
  · have hsame : (s.setStage k stage).stage j = s.stage j := Function.update_of_ne heq _ _
    rw [hsame] at hstage
    unfold Unarmed
    rw [hsame]
    exact hs j ⟨hstage, hj.calls, hj.handling⟩

/-- `HandleCallback` moves on, and is as far from `CancelTimeout` as before. -/
theorem Cancelled.of_setHandling {new : Option (Handling Kind Message)}
    (hcancelled : Cancelled (s.setHandling thread new) k)
    (hold : ∀ h, s.handling thread = some h → h.call = k → h.stage.uncancelled = true →
      ∃ h', new = some h' ∧ h'.call = k ∧ h'.stage.uncancelled = true) : Cancelled s k := by
  refine ⟨hcancelled.registered, hcancelled.calls, fun thread' h hthread' hcall => ?_⟩
  by_cases heq : thread' = thread
  · subst heq
    rw [← Bool.not_eq_true]
    intro huncancelled
    obtain ⟨h', hnew, hcall', huncancelled'⟩ := hold h hthread' hcall huncancelled
    have hfalse := hcancelled.handling thread' h' ((Function.update_self _ _ _).trans hnew) hcall'
    rw [huncancelled'] at hfalse
    cases hfalse
  · exact hcancelled.handling thread' h ((Function.update_of_ne heq _ _).trans hthread') hcall

/-- A callback that begins keeps what is cleared. -/
theorem Cleared.enter {j : Nat} {outcome : Outcome Message} (hs : Cleared s)
    (hidle : s.handling thread = none) :
    Cleared (s.setHandling thread (some ⟨j, outcome, .entered⟩)) := by
  intro k hk
  refine hs k (hk.of_setHandling fun h hthread => ?_)
  rw [hidle] at hthread
  cases hthread

/-- The locked section of `CancelTimeout`: from here the call has no entry. -/
theorem Cleared.cancel {builder : RpcCallBuilder Kind} {stage : HandleStage Kind}
    {timeouts : Nat → Option Nat} (hs : Cleared s) (hthread : s.handling thread = some h)
    (hk : s.prepared[h.call]? = some builder)
    (hok : builder.timeoutDuration.isSome = true → (s.stage h.call).recorded = true)
    (htimeouts : timeouts = Function.update s.timeouts (h.call + 1) none) :
    Cleared ({ s with timeouts := timeouts }.setHandling thread
      (some { h with stage := stage })) := by
  subst htimeouts
  intro j hj
  by_cases heq : j = h.call
  · subst heq
    exact ⟨Function.update_self _ _ _, builder, hk, hok⟩
  · have hold := hj.of_setHandling fun h' hthread' hcall => by
      obtain rfl : h' = h := Option.some.inj (hthread'.symm.trans hthread)
      exact absurd hcall.symm heq
    have hne : j + 1 ≠ h.call + 1 := by omega
    obtain ⟨hnone, hbuilder⟩ := hs j ⟨hold.registered, hold.calls, hold.handling⟩
    exact ⟨(Function.update_of_ne hne _ _).trans hnone, hbuilder⟩

/-- The second half of `ScheduleTimeout`. The call is not past `CancelTimeout` yet. -/
theorem Cleared.record {task : Nat} {builder : RpcCallBuilder Kind} (hs : Cleared s)
    (hk : s.prepared[k]? = some builder) (htimeout : builder.timeoutDuration.isSome = true)
    (hstage : s.stage k = .scheduling task) :
    Cleared ({ s with timeouts := Function.update s.timeouts (k + 1) (some task) }.setStage k
      .scheduled) := by
  have huncancelled : ¬ Cancelled s k := by
    intro hcancelled
    obtain ⟨-, builder', hk', hrecorded⟩ := hs k hcancelled
    obtain rfl : builder' = builder := Option.some.inj (hk'.symm.trans hk)
    have hfalse := hrecorded htimeout
    rw [hstage] at hfalse
    cases hfalse
  refine Cleared.setStage (s := { s with timeouts := _ }) (fun j hj => ?_)
    (fun _ _ => by rw [hstage]; rfl) fun _ => rfl
  have hold : Cancelled s j := ⟨hj.registered, hj.calls, hj.handling⟩
  have hne : j + 1 ≠ k + 1 := by
    intro heq
    obtain rfl : j = k := by omega
    exact huncancelled hold
  obtain ⟨hnone, hbuilder⟩ := hs j hold
  exact ⟨(Function.update_of_ne hne _ _).trans hnone, hbuilder⟩

/-! ### Finished calls -/

/-- The entry of the call has been erased from `calls_`, and the `HandleCallback` that erased it has
returned. -/
def Completed (s : RpcSystem Kind Message) (k : Nat) (call : RpcCallBuilder Kind) : Prop :=
  s.calls call.requestId = none ∧
    ∀ thread h, s.handling thread = some h → h.call = k → h.stage.claims = false

/-- When `Call` has returned and the call is completed, it has no entry in `timeouts_`, and no task
in the map of the scheduler other than one whose callback is running. -/
def LeavesNoTimeout (s : RpcSystem Kind Message) : Prop :=
  ∀ k call, s.prepared[k]? = some call → s.stage k = .returned → Completed s k call →
    s.timeouts call.requestId = none ∧
    ∀ task ∈ s.scheduler.tasks, s.timeoutTasks task.id = some k →
      s.scheduler.thread.running = some task.id

/-- The task in an entry of `timeouts_`, and the task that a `CancelTimeout` removes, is the task of
the call itself. -/
def RemovesOwnTask (s : RpcSystem Kind Message) : Prop :=
  (∀ k call task, s.prepared[k]? = some call → s.timeouts call.requestId = some task →
    s.timeoutTasks task = some k) ∧
  ∀ thread h task, s.handling thread = some h → h.stage.task? = some task →
    s.timeoutTasks task = some h.call

/-- The task that a call removes is its own. -/
theorem removesOwnTask_of_timed (hmatched : Matched api s) (hs : Timed s) : RemovesOwnTask s := by
  refine ⟨fun k call task hk hentry => ?_, hs.removing⟩
  rw [hmatched.requestId k call hk] at hentry
  obtain ⟨j, hid, htask, -⟩ := hs.timeouts _ _ hentry
  obtain rfl : k = j := by omega
  exact htask

/-- A completed call is past `CancelTimeout`. -/
theorem Completed.cancelled {call : RpcCallBuilder Kind} (hcompleted : Completed s k call)
    (hid : call.requestId = k + 1) (hstage : s.stage k = .returned) : Cancelled s k := by
  refine ⟨by rw [hstage]; rfl, hid ▸ hcompleted.1, fun thread h hthread hcall => ?_⟩
  have hclaims := hcompleted.2 thread h hthread hcall
  cases hh : h.stage with
  | entered => rfl
  | _ =>
    rw [hh] at hclaims
    cases hclaims

/-- A call that is completed leaves no timeout. -/
theorem leavesNoTimeout_of_cleared (hmatched : Matched api s) (htimed : Timed s)
    (hs : Cleared s) : LeavesNoTimeout s := by
  intro k call hk hstage hcompleted
  have hid : call.requestId = k + 1 := hmatched.requestId k call hk
  obtain ⟨hnone, -⟩ := hs k (hcompleted.cancelled hid hstage)
  refine ⟨by rw [hid, hnone], fun task htask hown => ?_⟩
  have hmem : task.id ∈ s.scheduler.tasks.map ScheduleTask.id := List.mem_map_of_mem htask
  -- A task in the map would have an entry, or a `CancelTimeout` would be removing it.
  cases htimed.table k task.id (by rw [hstage]; rfl) hown hmem with
  | inl hentry =>
    rw [hnone] at hentry
    cases hentry
  | inr hremoving =>
    obtain ⟨thread, h, hthread, hcall, hremoving⟩ := hremoving
    have hclaims := hcompleted.2 thread h hthread hcall
    rw [hremoving] at hclaims
    cases hclaims

/-! ### The steps -/

variable [DecidableEq Kind]

/-- Every step of `HandleCallback` keeps the tables together. -/
theorem Timed.handle {builder : RpcCallBuilder Kind} (hs : Timed s)
    (hthread : s.handling thread = some h) (hid : builder.requestId = h.call + 1)
    (hs' : HandleStep s thread h builder s') : Timed s' := by
  have hnone : ∀ h' : Handling Kind Message, none = some h' → h'.stage.task? = none := nofun
  have hsome : ∀ {stage : HandleStage Kind}, stage.task? = none →
      ∀ h', some { h with stage := stage } = some h' → h'.stage.task? = none := by
    intro stage hstage h' hh'
    cases hh'
    exact hstage
  cases hs' with
  | absent hstage _ | noCallback hstage _ =>
    exact hs.advance hthread (by rw [hstage]; exact nofun) hnone
  | callback hstage _ =>
    refine Timed.frame (s := s.setHandling thread none) ?_ rfl rfl rfl rfl rfl
    exact hs.advance hthread (by rw [hstage]; exact nofun) hnone
  | noTimeout hstage _ | removed hstage _ =>
    exact hs.advance hthread (by rw [hstage]; exact nofun) (hsome rfl)
  -- The entry of `calls_` and the slots do not matter.
  | erase hstage _ =>
    refine Timed.advance (s := { s with calls := _ }) ?_ hthread (by rw [hstage]; exact nofun)
      (hsome rfl)
    exact hs.frame rfl rfl rfl rfl rfl
  | unsubscribeError hstage | unsubscribeSuccess hstage =>
    refine Timed.advance (s := s.unsubscribe _) ?_ hthread (by rw [hstage]; exact nofun)
      (hsome rfl)
    exact hs.frame rfl rfl rfl rfl rfl
  | takeTimeout hstage hentry =>
    rw [hid] at hentry ⊢
    exact hs.takeTimeout hthread hstage hentry
  | removeTask hstage hscheduler => exact hs.removeTask hthread hstage hscheduler

/-- `Emplace` changes the calls only. -/
theorem emplace_frame (s : RpcSystem Kind Message) (id : Nat) (entry : RpcPendingCall Kind) :
    s.emplace id entry = { s with
      calls := (s.emplace id entry).calls
      slots := (s.emplace id entry).slots } := by
  unfold RpcSystem.emplace
  split <;> rfl

/-- A transition keeps the timeouts. -/
theorem Timed.transition (hs : Timed s) (hmatched : Matched api s) (ht : Transition api s s') :
    Timed s' := by
  cases ht with
  | prepare _ _ _ | subscribe _ | unsubscribe _ | emit | skip _ =>
    exact hs.frame rfl rfl rfl rfl rfl
  -- `Call` before `ScheduleTimeout`.
  | subscribeSuccess _ hstage | subscribeError _ hstage =>
    refine Timed.setStage (s := s.subscribe _ _) (hs.frame rfl rfl rfl rfl rfl) ?_ nofun ?_
    · exact fun t => hstage ▸ nofun
    · exact fun hrecorded => nomatch hstage ▸ hrecorded
  | emplace _ hstage =>
    rw [emplace_frame]
    refine Timed.setStage (s := { s with calls := _, slots := _ }) (hs.frame rfl rfl rfl rfl rfl) ?_
      nofun ?_
    · exact fun t => hstage ▸ nofun
    · exact fun hrecorded => nomatch hstage ▸ hrecorded
  | schedule _ hstage _ hscheduler => exact hs.schedule hstage hscheduler
  | record hk hstage htask =>
    rw [hmatched.requestId _ _ hk]
    exact hs.record hstage htask
  | send _ hstage =>
    refine hs.setStage (fun t heq => ?_) nofun fun _ => rfl
    rcases hstage with ⟨hstage, -⟩ | hstage
    all_goals
      rw [hstage] at heq
      cases heq
  | answer _ hidle _ _ _ _ _ _ =>
    refine Timed.enter (s := { s with emissions := _ }) ?_ hidle
    exact hs.frame rfl rfl rfl rfl rfl
  | handle hthread hk ht => exact hs.handle hthread (hmatched.requestId _ _ hk) ht
  | schedulerStep hscheduler => exact hs.schedulerStep hscheduler
  | timeout hscheduler hidle _ _ =>
    exact Timed.enter (s := { s with scheduler := _ }) (hs.schedulerStep hscheduler) hidle

/-- The timeouts are right in every run. -/
theorem timed_reachable (h : (rpcs api).Reachable Lts.anyStep s) : Timed s := by
  refine h.invariant_of_reachable ?_ fun s op s' hr hs _ hstep => ?_
  · rintro s rfl
    refine ⟨⟨List.nodup_nil, nofun, Nat.one_pos⟩, nofun, nofun, nofun, nofun, nofun⟩
  · exact hs.transition (tracked_reachable hr).1 (transition_of_step hstep)

/-- A round of `Emit` enters `HandleCallback` on its own thread only. -/
theorem deliver_handling {i id : Nat} {emission : Emission Message}
    (hne : thread ≠ .emission i) : (s.deliver api i emission id).handling thread
      = s.handling thread := by
  unfold RpcSystem.deliver runSlot
  repeat' split
  all_goals first | rfl | exact Function.update_of_ne hne _ _

/-- The other threads do not move a `HandleCallback`. -/
theorem handling_of_step {op : RpcOp Kind Message} (hstep : s.step api op = some s')
    (hop : op ≠ .handle thread) (hthread : s.handling thread = some h) :
    s'.handling thread = some h := by
  cases op with
  | prepare type connectionId callback errorCallback timeoutCallback timeoutDuration =>
    simp only [step, RpcSystem.prepare, Option.bind_eq_bind, Option.bind_eq_some_iff] at hstep
    obtain ⟨_, -, _, -, hstep⟩ := hstep
    cases hstep
    exact hthread
  | subscribe type | emit connectionId message =>
    cases hstep
    exact hthread
  | subscribeSuccess j | subscribeError j | unsubscribe i =>
    simp only [step] at hstep
    split at hstep
    · cases hstep
      exact hthread
    · cases hstep
  | emplace j =>
    simp only [step] at hstep
    split at hstep
    · cases hstep
      rw [emplace_frame]
      exact hthread
    · cases hstep
  | schedule j byCallback =>
    simp only [step] at hstep
    split at hstep
    · obtain ⟨duration, -, hstep⟩ := Option.bind_eq_some_iff.mp hstep
      obtain ⟨scheduler, -, hstep⟩ := Option.map_eq_some_iff.mp hstep
      cases hstep
      exact hthread
    · cases hstep
  | record j =>
    simp only [step] at hstep
    split at hstep
    · split at hstep
      · cases hstep
        exact hthread
      · cases hstep
    · cases hstep
  | send j =>
    simp only [step] at hstep
    split at hstep
    · split at hstep
      · cases hstep
        exact hthread
      · cases hstep
    · cases hstep
      exact hthread
    · cases hstep
  | handle thread' =>
    simp only [step] at hstep
    split at hstep
    · cases hstep
    · obtain ⟨builder, -, hstep⟩ := Option.bind_eq_some_iff.mp hstep
      have hne : thread ≠ thread' := by
        rintro rfl
        exact hop rfl
      rw [(handleFrame (handleStep_of_handle hstep)).other thread hne, hthread]
  -- A thread that enters `HandleCallback` was not in it before.
  | deliver i j =>
    simp only [step] at hstep
    split at hstep
    · rename_i hidle _
      obtain ⟨id, -, hstep⟩ := Option.map_eq_some_iff.mp hstep
      cases hstep
      have hne : thread ≠ .emission i := by
        rintro rfl
        rw [hidle] at hthread
        cases hthread
      rw [deliver_handling hne]
      exact hthread
    · cases hstep
  | schedulerStep op =>
    simp only [step] at hstep
    split at hstep
    · cases hstep
    · rename_i hwait
      obtain ⟨scheduler, -, hstep⟩ := Option.map_eq_some_iff.mp hstep
      cases op with
      | call i =>
        have hidle : s.handling .scheduler = none := by
          simpa [ofSchedulerThread] using hwait
        have hne : thread ≠ .scheduler := by
          rintro rfl
          rw [hidle] at hthread
          cases hthread
        simp only [runTimeout] at hstep
        split at hstep
        · cases hstep
          exact hthread
        · cases hstep
          exact (Function.update_of_ne hne _ _).trans hthread
      | _ =>
        cases hstep
        exact hthread

/-- The step of a `HandleCallback` that is before the lock of `CancelTimeout` is one of its own
thread. -/
theorem recorded_of_step {op : RpcOp Kind Message} {builder : RpcCallBuilder Kind}
    (hok : CancelsAfterRecord s op) (hstep : s.step api op = some s')
    (hthread : s.handling thread = some h) (hcancels : h.stage.cancels = true)
    (hmoved : s'.handling thread ≠ some h) (hk : s.prepared[h.call]? = some builder)
    (htimeout : builder.timeoutDuration.isSome = true) : (s.stage h.call).recorded = true := by
  by_cases hop : op = .handle thread
  · subst hop
    exact hok h hthread hcancels builder hk htimeout
  · exact absurd (handling_of_step hstep hop hthread) hmoved

/-- Every step of `HandleCallback` keeps the finished calls without a timeout. -/
theorem Cleared.handle {builder : RpcCallBuilder Kind} (hs : Cleared s)
    (hthread : s.handling thread = some h) (hk : s.prepared[h.call]? = some builder)
    (hid : builder.requestId = h.call + 1)
    (hok : h.stage.cancels = true → s'.handling thread ≠ some h →
      builder.timeoutDuration.isSome = true → (s.stage h.call).recorded = true)
    (hs' : HandleStep s thread h builder s') : Cleared s' := by
  -- A stage after `CancelTimeout`, or before the entry is found.
  have hpast : ∀ (new : Option (Handling Kind Message)) {j : Nat},
      Cancelled (s.setHandling thread new) j → h.stage.uncancelled = false → Cancelled s j := by
    intro new j hj hstage
    refine hj.of_setHandling fun h' hthread' _ huncancelled => ?_
    obtain rfl : h' = h := Option.some.inj (hthread'.symm.trans hthread)
    rw [hstage] at huncancelled
    cases huncancelled
  -- The stages in between.
  have hbetween : ∀ (stage : HandleStage Kind) {j : Nat}, stage.uncancelled = true →
      Cancelled (s.setHandling thread (some { h with stage := stage })) j → Cancelled s j := by
    intro stage j hstage hj
    refine hj.of_setHandling fun h' hthread' hcall _ => ?_
    obtain rfl : h' = h := Option.some.inj (hthread'.symm.trans hthread)
    exact ⟨_, rfl, hcall, hstage⟩
  have hmoved : ∀ {stage : HandleStage Kind}, stage.cancels = false → h.stage.cancels = true →
      Function.update s.handling thread (some { h with stage := stage }) thread ≠ some h := by
    intro stage hstage hcancels heq
    rw [Function.update_self] at heq
    have hsame : stage = h.stage := congrArg Handling.stage (Option.some.inj heq)
    rw [← hsame, hstage] at hcancels
    cases hcancels
  cases hs' with
  -- The stages that do not touch what `Cancelled` and `Unarmed` look at.
  | absent hstage _ | noCallback hstage _ | removed hstage _ =>
    exact fun j hj => hs j (hpast _ hj (by rw [hstage]; rfl))
  | callback hstage _ =>
    intro j hj
    exact hs j (hpast none ⟨hj.registered, hj.calls, hj.handling⟩ (by rw [hstage]; rfl))
  | erase hstage _ =>
    intro j hj
    -- The call whose entry is erased is not past `CancelTimeout` yet.
    have hne : j ≠ h.call := by
      rintro rfl
      cases hj.handling thread _ (Function.update_self _ _ _) rfl
    have hcalls : s.calls (j + 1) = none := by
      have hne' : j + 1 ≠ builder.requestId := by omega
      rw [← hj.calls]
      exact (Function.update_of_ne hne' _ _).symm
    exact hs j (hbetween (.erased _) rfl ⟨hj.registered, hcalls, hj.handling⟩)
  | unsubscribeError hstage | unsubscribeSuccess hstage =>
    intro j hj
    exact hs j (hbetween _ rfl ⟨hj.registered, hj.calls, hj.handling⟩)
  -- The two ends of the locked section. The condition is needed here only.
  | noTimeout hstage hentry =>
    have hcancels : h.stage.cancels = true := by rw [hstage]; rfl
    rw [hid] at hentry
    refine hs.cancel hthread hk (hok hcancels (hmoved rfl hcancels)) ?_
    rw [← hentry, Function.update_eq_self]
  | takeTimeout hstage _ =>
    have hcancels : h.stage.cancels = true := by rw [hstage]; rfl
    rw [hid]
    exact hs.cancel hthread hk (hok hcancels (hmoved rfl hcancels)) rfl
  | removeTask hstage _ =>
    intro j hj
    exact hs j (hpast _ ⟨hj.registered, hj.calls, hj.handling⟩ (by rw [hstage]; rfl))

/-- The locked section of `Call`. The call has an entry after it. -/
theorem Cleared.emplace {entry : RpcPendingCall Kind} (hs : Cleared s)
    (hstage : (s.stage k).recorded = false) :
    Cleared ((s.emplace (k + 1) entry).setStage k .emplaced) := by
  have hrecorded : (s.stage k).recorded = true →
      (CallStage.emplaced : CallStage Kind).recorded = true := by
    rw [hstage]
    exact nofun
  unfold RpcSystem.emplace
  split
  · have hentry : Function.update s.calls (k + 1) (some entry) (k + 1) ≠ none := by
      rw [Function.update_self]
      exact nofun
    refine Cleared.setStage (s := { s with calls := _ }) (fun j hj => ?_)
      (fun hnone => absurd hnone hentry) hrecorded
    have hne : j + 1 ≠ k + 1 := by
      intro heq
      exact hentry (heq ▸ hj.calls)
    have hcalls : s.calls (j + 1) = none := by
      rw [← hj.calls]
      exact (Function.update_of_ne hne _ _).symm
    exact hs j ⟨hj.registered, hcalls, hj.handling⟩
  · rename_i hentry
    refine Cleared.setStage (s := (s.unsubscribe _).unsubscribe _) (fun j hj => ?_)
      (fun hnone => ?_) hrecorded
    · exact hs j ⟨hj.registered, hj.calls, hj.handling⟩
    · cases hentry.symm.trans hnone

/-- A transition keeps what is cleared when no task is cancelled before it is recorded. -/
theorem Cleared.transition (hs : Cleared s) (htimed : Timed s) (hmatched : Matched api s)
    (hok : ∀ thread h builder, s.handling thread = some h → h.stage.cancels = true →
      s'.handling thread ≠ some h → s.prepared[h.call]? = some builder →
      builder.timeoutDuration.isSome = true → (s.stage h.call).recorded = true)
    (ht : Transition api s s') : Cleared s' := by
  cases ht with
  | prepare _ _ _ =>
    intro j hj
    obtain ⟨htimeouts, hbuilder⟩ := hs j ⟨hj.registered, hj.calls, hj.handling⟩
    exact ⟨htimeouts, exists_prepared_append _ hbuilder⟩
  | subscribe _ | unsubscribe _ | emit | skip _ | schedulerStep _ =>
    exact fun j hj => hs j ⟨hj.registered, hj.calls, hj.handling⟩
  -- Before the locked section `Call` has no entry that could be erased.
  | subscribeSuccess _ hstage | subscribeError _ hstage =>
    refine Cleared.setStage (s := s.subscribe _ _) ?_ (fun _ hregistered => nomatch hregistered) ?_
    · exact fun j hj => hs j ⟨hj.registered, hj.calls, hj.handling⟩
    · exact fun hrecorded => nomatch hstage ▸ hrecorded
  | emplace hk hstage =>
    rw [hmatched.requestId _ _ hk]
    exact hs.emplace (by rw [hstage]; rfl)
  | schedule _ hstage _ _ =>
    refine Cleared.setStage (s := { s with scheduler := _, timeoutTasks := _ }) ?_ ?_ ?_
    · exact fun j hj => hs j ⟨hj.registered, hj.calls, hj.handling⟩
    · exact fun _ _ => by rw [hstage]; rfl
    · exact fun hrecorded => nomatch hstage ▸ hrecorded
  | record hk hstage _ =>
    -- The call has a task, so it has a timeout.
    obtain ⟨builder, hbuilder, htimeout⟩ := hmatched.timeoutTasks _ _ (htimed.scheduling _ _ hstage)
    rw [hmatched.requestId _ _ hk]
    exact hs.record hbuilder htimeout hstage
  | send _ hstage =>
    refine hs.setStage (fun _ _ => ?_) fun _ => rfl
    rcases hstage with ⟨hstage, -⟩ | hstage <;> rw [hstage] <;> rfl
  | answer _ hidle _ _ _ _ _ _ =>
    refine Cleared.enter (s := { s with emissions := _ }) ?_ hidle
    exact fun j hj => hs j ⟨hj.registered, hj.calls, hj.handling⟩
  | handle hthread hk ht =>
    exact hs.handle hthread hk (hmatched.requestId _ _ hk)
      (fun hcancels hmoved => hok _ _ _ hthread hcancels hmoved hk) ht
  | timeout _ hidle _ _ =>
    refine Cleared.enter (s := { s with scheduler := _ }) ?_ hidle
    exact fun j hj => hs j ⟨hj.registered, hj.calls, hj.handling⟩

/-- In every run that cancels after the record, completed calls are cleared. -/
theorem cleared_reachable (h : (rpcs api).Reachable CancelsAfterRecord s) :
    (rpcs api).Reachable Lts.anyStep s ∧ Cleared s := by
  refine h.invariant (I := fun s => (rpcs api).Reachable Lts.anyStep s ∧ Cleared s) ?_ ?_
  · rintro s rfl
    exact ⟨.start rfl, fun k hk => nomatch hk.registered⟩
  · rintro s op s' ⟨hreach, hs⟩ hok hstep
    refine ⟨hreach.step trivial hstep, ?_⟩
    refine hs.transition (timed_reachable hreach) (tracked_reachable hreach).1 ?_
      (transition_of_step hstep)
    intro thread h builder hthread hcancels hmoved
    exact recorded_of_step hok hstep hthread hcancels hmoved

/-! ### Every run -/

/-- In every run a task id is recorded and removed for its own call only. In every run where
`CancelTimeout` comes after the entry is made, a finished call leaves no timeout behind. -/
theorem finished_call_leaves_no_timeout (api : RpcApi Kind Message) (s : RpcSystem Kind Message) :
    ((rpcs api).Reachable Lts.anyStep s → RemovesOwnTask s) ∧
    ((rpcs api).Reachable CancelsAfterRecord s → LeavesNoTimeout s) := by
  constructor
  · intro h
    exact removesOwnTask_of_timed (tracked_reachable h).1 (timed_reachable h)
  · intro h
    obtain ⟨hreach, hcleared⟩ := cleared_reachable h
    exact leavesNoTimeout_of_cleared (tracked_reachable hreach).1 (timed_reachable hreach) hcleared

/-- A call with a callback that was invoked is completed. -/
theorem completed_of_invoked {call : RpcCallBuilder Kind} {i : Invocation Message}
    (h : (rpcs api).Reachable Lts.anyStep s) (hk : s.prepared[k]? = some call) (hi : i ∈ s.invoked)
    (hcall : i.call = k) : Completed s k call := by
  obtain ⟨hmatched, phase, hs⟩ := tracked_reachable h
  have hfinished : phase k = .finished := hcall ▸ hs.invoked i hi
  constructor
  · rw [hmatched.requestId k call hk, ← Option.not_isSome_iff_eq_none]
    intro hsome
    rw [hs.calls k hsome] at hfinished
    cases hfinished
  · intro thread h hthread hown
    rw [← Bool.not_eq_true]
    intro hclaims
    have hclaimed := hs.handling thread h hthread hclaims
    rw [hown, hfinished] at hclaimed
    cases hclaimed

instance : DecidableRel (@CancelsAfterRecord Kind Message) := fun s op =>
  match op with
  | .handle thread =>
    inferInstanceAs (Decidable (∀ h ∈ s.handling thread, h.stage.cancels = true →
      ∀ builder ∈ s.prepared[h.call]?, builder.timeoutDuration.isSome = true →
        (s.stage h.call).recorded = true))
  | .prepare .. | .subscribeSuccess _ | .subscribeError _ | .emplace _ | .schedule .. | .record _
  | .send _ | .subscribe _ | .unsubscribe _ | .emit .. | .deliver .. | .schedulerStep _ =>
    inferInstanceAs (Decidable True)

/-- The call of `raceOps` is over, while its timeout task is running. -/
theorem finished_call_leaves_no_timeout_race : ∃ s : RpcSystem MessageType Api.Message,
    (rpcs chatRpcApi).Reachable CancelsAfterRecord s ∧ s.stage 0 = .returned ∧
    s.scheduler.thread.running = some 1 ∧ s.timeouts 1 = none ∧ RemovesOwnTask s := by
  have hstart : (rpcs chatRpcApi).Reachable CancelsAfterRecord {} := .start rfl
  obtain ⟨s, hreach, hprepared, hinvoked, hstage, hrunning⟩ := hstart.exists_of_exec raceOps
    (fun s => s.prepared.map (·.requestId) = [1] ∧ s.invoked.map (·.call) = [0] ∧
      s.stage 0 = .returned ∧ s.scheduler.thread.running = some 1) (by decide)
  have hany := (cleared_reachable hreach).1
  obtain ⟨call, hcalls, hid⟩ := List.map_eq_singleton_iff.mp hprepared
  obtain ⟨i, hi, hcall⟩ := List.map_eq_singleton_iff.mp hinvoked
  have hk : s.prepared[0]? = some call := by rw [hcalls]; rfl
  have hcompleted : Completed s 0 call :=
    completed_of_invoked hany hk (hi ▸ List.mem_cons_self) hcall
  obtain ⟨hown, hnone⟩ := finished_call_leaves_no_timeout chatRpcApi s
  refine ⟨s, hreach, hstage, hrunning, ?_, hown hany⟩
  rw [← hid]
  exact (hnone hreach 0 call hk hstage hcompleted).1

/-- The thread of `Call` is held up in `ScheduleTimeout` for the length of the timeout. The task
fires and finishes the call, and then its handle is recorded. -/
def lateRecordOps : List (RpcOp MessageType Api.Message) :=
  [.prepare .getChatChannelsRequest 5 true true true (some 0),
    .subscribeSuccess 0, .subscribeError 0, .emplace 0,
    .schedule 0 false, .schedulerStep (.emplace 0), .schedulerStep (.notifyAdd 0),
    .schedulerStep (.tick 15000000), .schedulerStep .advance, .schedulerStep .advance,
    .schedulerStep .advance, .schedulerStep (.call 0),
    .handle .scheduler, .handle .scheduler, .handle .scheduler, .handle .scheduler,
    .handle .scheduler, .schedulerStep .advance, .schedulerStep .advance, .record 0, .send 0]

/-- The record comes after the cancellation, and the task stays. -/
theorem late_record_leaves_timeout :
    ¬ ∀ s : RpcSystem MessageType Api.Message, (rpcs chatRpcApi).Reachable Lts.anyStep s →
      LeavesNoTimeout s ∧ RemovesOwnTask s := by
  intro hall
  have hstart : (rpcs chatRpcApi).Reachable Lts.anyStep {} := .start rfl
  obtain ⟨s, hreach, hprepared, hinvoked, hstage, hentry⟩ := hstart.exists_of_exec lateRecordOps
    (fun s => s.prepared.map (·.requestId) = [1] ∧ s.invoked.map (·.call) = [0] ∧
      s.stage 0 = .returned ∧ s.timeouts 1 = some 1) (by decide)
  obtain ⟨call, hcalls, hid⟩ := List.map_eq_singleton_iff.mp hprepared
  obtain ⟨i, hi, hcall⟩ := List.map_eq_singleton_iff.mp hinvoked
  have hk : s.prepared[0]? = some call := by rw [hcalls]; rfl
  have hcompleted : Completed s 0 call :=
    completed_of_invoked hreach hk (hi ▸ List.mem_cons_self) hcall
  have hnone := ((hall s hreach).1 0 call hk hstage hcompleted).1
  rw [hid, hentry] at hnone
  cases hnone

end RpcSystem

end ChatCore.Network
