import Mathlib.Data.List.Perm.Basic
import ChatCore.Proofs.Scheduler
import ChatCore.Proofs.Shutdown

/-!
# `ChatCore.Proofs.TaskRemoval`: callbacks of removed tasks

`RemoveTask` erases a task from the map. A callback that a round has copied before is not
affected: it runs later, or is running, when `RemoveTask` returns. `ReturnsAfterCallbacks` excludes
this, and then a removed task does not run any more: it is in no round, not in the map, and not in
a call of `AddTask` (`Gone`), because ids are not given out twice (`Issued`).

In the server the task is the periodic `Persist`, which the main thread removes before its own
`Persist`. The two overlap when the callback is collected at the time of the removal.
-/

set_option autoImplicit false

namespace ChatCore.Scheduling

open ChatCore.Lib

namespace SchedulingSystem

variable {s s' : SchedulingSystem} {l : SchedulingOp}

/-! ### Ids -/

/-- The ids that `AddTask` has taken from the counter, by the place of the call. -/
def issued (s : SchedulingSystem) : List Nat :=
  s.adding.map (·.task.id) ++ (s.added.map (·.task.id) ++ s.handles)

/-- No id is given out twice. -/
structure Issued (s : SchedulingSystem) : Prop where
  nodup : s.issued.Nodup
  lt : ∀ id ∈ s.issued, 0 < id ∧ id < s.nextId
  pos : 0 < s.nextId

/-- The order in which the ids were given out does not matter. -/
theorem Issued.of_perm (h : Issued s) (hperm : s'.issued.Perm s.issued)
    (hnext : s'.nextId = s.nextId) : Issued s' :=
  ⟨hperm.nodup_iff.mpr h.nodup, fun id hid => hnext ▸ h.lt id (hperm.mem_iff.mp hid),
    hnext ▸ h.pos⟩

/-- `AddTask` gives out a new id. -/
theorem issued_addTask (h : Issued s) (interval : Int) (once byCallback : Bool) :
    Issued { s with
      nextId := s.nextId + 1
      adding := s.adding ++ [⟨s.newTask interval once, byCallback⟩] } := by
  have hperm : (s.nextId :: s.issued).Perm
      ((s.adding ++ [(⟨s.newTask interval once, byCallback⟩ : AddCall)]).map (·.task.id) ++
        (s.added.map (·.task.id) ++ s.handles)) := by
    rw [List.map_append, List.append_assoc]
    exact List.perm_middle.symm
  refine ⟨hperm.nodup_iff.mp (List.nodup_cons.mpr ⟨fun hmem => ?_, h.nodup⟩), ?_,
    Nat.succ_pos _⟩
  · exact absurd (h.lt _ hmem).2 (Nat.lt_irrefl _)
  · intro id hid
    show 0 < id ∧ id < s.nextId + 1
    cases List.mem_cons.mp (hperm.mem_iff.mpr hid) with
    | inl heq =>
      have hpos := h.pos
      omega
    | inr hold =>
      have hlt := h.lt id hold
      omega

/-- A step gives out no id twice. -/
theorem issued_step (h : Issued s) (hstep : s.step l = some s') : Issued s' := by
  cases step_transition hstep with
  | addTask _ => exact issued_addTask h _ _ _
  -- An id moves from the calls before the locked section to those after it, and then to the
  -- handles.
  | @emplace i call _ hcall =>
    refine h.of_perm ?_ rfl
    show ((s.adding.eraseIdx i).map (·.task.id) ++
      ((s.added ++ [call]).map (·.task.id) ++ s.handles)).Perm s.issued
    refine List.Perm.trans ?_ ((map_eraseIdx_perm hcall).append_right _)
    rw [List.map_append, List.append_assoc, List.cons_append]
    refine (List.Perm.append_left _ List.perm_middle).trans ?_
    exact List.perm_middle
  | @notifyAdd i call hcall =>
    refine h.of_perm ?_ rfl
    show (s.adding.map (·.task.id) ++
      ((s.added.eraseIdx i).map (·.task.id) ++ (s.handles ++ [call.task.id]))).Perm s.issued
    refine List.Perm.append_left _ ?_
    refine List.Perm.trans ?_ ((map_eraseIdx_perm hcall).append_right _)
    rw [← List.append_assoc, List.cons_append]
    exact List.perm_append_singleton _ _
  | advance hadvance =>
    rw [advance_frame hadvance]
    exact ⟨h.nodup, h.lt, h.pos⟩
  | _ => exact ⟨h.nodup, h.lt, h.pos⟩

/-- An id that is not emplaced yet is neither a handle nor the default. -/
theorem Issued.not_handle (h : Issued s) {call : AddCall} (hcall : call ∈ s.adding) :
    call.task.id ∉ s.handles ∧ call.task.id ≠ 0 := by
  have hmem : call.task.id ∈ s.adding.map (·.task.id) := List.mem_map_of_mem hcall
  refine ⟨fun hhandle => ?_, ?_⟩
  · exact (List.disjoint_of_nodup_append h.nodup) hmem (List.mem_append_right _ hhandle)
  · have hlt := h.lt _ (List.mem_append_left _ hmem)
    omega

/-! ### Removed tasks -/

/-- The callback of the task makes the call itself. -/
def OwnCall (s : SchedulingSystem) (call : RemoveCall) : Prop :=
  call.byCallback = true ∧ s.thread.running = some call.handle

/-- A call of `RemoveTask` returns when no callback of the task that a round has collected is
still to run or running, unless the callback makes the call itself. -/
def ReturnsAfterCallbacks (s : SchedulingSystem) : SchedulingOp → Prop
  | .notifyRemove i => ∀ call ∈ s.removing[i]?,
      OwnCall s call ∨ call.handle ∉ s.thread.unfinished
  | _ => True

/-- The tasks that have been erased: they are handles, and not in the map. -/
def Gone (s : SchedulingSystem) (handle : Nat) : Prop :=
  (handle ∈ s.handles ∨ handle = 0) ∧ handle ∉ s.tasks.map ScheduleTask.id

/-- What holds of the removed tasks. -/
structure Retired (s : SchedulingSystem) : Prop where
  removing : ∀ call ∈ s.removing, Gone s call.handle
  removed : ∀ handle ∈ s.removed, Gone s handle ∧ handle ∉ s.thread.unfinished

/-- A notification leaves the callbacks to come. -/
theorem unfinished_notify (thread : SchedulerThread) :
    thread.notify.unfinished = thread.unfinished := by
  cases thread <;> rfl

/-- A step that keeps the handles and the erased tasks out of the map. -/
theorem Gone.mono {handle : Nat} (h : Gone s handle) (hhandles : s.handles ⊆ s'.handles)
    (htasks : s'.tasks.map ScheduleTask.id ⊆ s.tasks.map ScheduleTask.id) : Gone s' handle :=
  ⟨h.1.imp_left fun hmem => hhandles hmem, fun hmem => h.2 (htasks hmem)⟩

/-- A step that brings back no task and no callback keeps the tasks retired. -/
theorem Retired.mono (h : Retired s) (hremoving : s'.removing ⊆ s.removing)
    (hremoved : s'.removed = s.removed) (hhandles : s.handles ⊆ s'.handles)
    (htasks : s'.tasks.map ScheduleTask.id ⊆ s.tasks.map ScheduleTask.id)
    (hunfinished : ∀ handle, Gone s handle → handle ∈ s'.thread.unfinished →
      handle ∈ s.thread.unfinished) : Retired s' := by
  refine ⟨fun call hcall => (h.removing call (hremoving hcall)).mono hhandles htasks,
    fun handle hmem => ?_⟩
  obtain ⟨hgone, hdone⟩ := h.removed handle (hremoved ▸ hmem)
  exact ⟨hgone.mono hhandles htasks, fun hrun => hdone (hunfinished handle hgone hrun)⟩

/-- The ids of some of the tasks are ids of the tasks. -/
theorem filter_ids_subset {tasks : List ScheduleTask} {p : ScheduleTask → Bool} :
    (tasks.filter p).map ScheduleTask.id ⊆ tasks.map ScheduleTask.id :=
  List.map_subset _ fun _ hmem => (List.mem_filter.mp hmem).1

/-- What a step of `ProcessTasks` does to the ids in the map and to the callbacks of the round. -/
theorem advance_tasks (hadvance : Advance s s') :
    s'.tasks.map ScheduleTask.id ⊆ s.tasks.map ScheduleTask.id ∧
      ∀ id ∈ s'.thread.unfinished,
        id ∈ s.thread.unfinished ∨ id ∈ s.tasks.map ScheduleTask.id := by
  cases hadvance with
  | collect _ _ =>
    -- A new round: its callbacks are tasks of the map.
    refine ⟨?_, fun id hmem => .inr ?_⟩
    · show (round s.now s.tasks).tasks.map ScheduleTask.id ⊆ _
      rw [ids_round]
      exact List.Subset.refl _
    · rw [← ids_round s.now s.tasks]
      exact (collects_round s.now s.tasks).callbacks id hmem
  | returned hthread _ =>
    rw [hthread]
    exact ⟨List.Subset.refl _, fun id hmem => .inl (List.mem_cons_of_mem _ hmem)⟩
  | delete _ => exact ⟨filter_ids_subset, fun _ hmem => absurd hmem List.not_mem_nil⟩
  | outer _ | woke _ | afterWait _ =>
    refine ⟨List.Subset.refl _, fun id hmem => ?_⟩
    dsimp only at hmem
    split at hmem <;> cases hmem
  | _ => exact ⟨List.Subset.refl _, fun _ hmem => absurd hmem List.not_mem_nil⟩

/-- A step keeps the handles and the ids that were given out, and a task whose handle is known does
not come into the map. -/
theorem handles_step (hissued : Issued s) (hstep : s.step l = some s') :
    s.handles ⊆ s'.handles ∧ s.nextId ≤ s'.nextId ∧
      ∀ id ∈ s.handles, id ∈ s'.tasks.map ScheduleTask.id → id ∈ s.tasks.map ScheduleTask.id := by
  have hsub : ∀ {α : Type} (xs : List α), xs ⊆ xs := fun xs => List.Subset.refl xs
  cases step_transition hstep with
  | addTask _ => exact ⟨hsub _, Nat.le_succ _, fun _ _ hmem => hmem⟩
  | @emplace i call _ hcall =>
    refine ⟨hsub _, Nat.le_refl _, fun id hhandle hmem => ?_⟩
    rw [List.map_append] at hmem
    cases List.mem_append.mp hmem with
    | inl hold => exact hold
    | inr hnew =>
      -- The id of the call is not a handle before `AddTask` returns.
      rw [List.mem_singleton.mp hnew] at hhandle
      exact absurd hhandle (hissued.not_handle (List.mem_of_getElem? hcall)).1
  | notifyAdd _ =>
    exact ⟨List.subset_append_left _ _, Nat.le_refl _, fun _ _ hmem => hmem⟩
  | erase _ _ _ => exact ⟨hsub _, Nat.le_refl _, fun _ _ hmem => filter_ids_subset hmem⟩
  | advance hadvance =>
    obtain ⟨htasks, -⟩ := advance_tasks hadvance
    rw [advance_frame hadvance]
    exact ⟨hsub _, Nat.le_refl _, fun _ _ hmem => htasks hmem⟩
  | _ => exact ⟨hsub _, Nat.le_refl _, fun _ _ hmem => hmem⟩

/-- `RemoveTask` erases its task. -/
theorem retired_erase {handle : Nat} {byCallback : Bool} (h : Retired s)
    (hhandle : handle ∈ s.handles ∨ handle = 0) :
    Retired { s with
      tasks := s.tasks.filter (·.id ≠ handle)
      removing := s.removing ++ [⟨handle, byCallback⟩] } := by
  refine ⟨fun call hcall => ?_, fun handle' hmem => ?_⟩
  · cases List.mem_append.mp hcall with
    | inl hold => exact (h.removing call hold).mono (List.Subset.refl _) filter_ids_subset
    | inr hnew =>
      rw [List.mem_singleton.mp hnew]
      refine ⟨hhandle, fun hmem => ?_⟩
      obtain ⟨task, htask, hid⟩ := List.mem_map.mp hmem
      exact (of_decide_eq_true (List.mem_filter.mp htask).2) hid
  · obtain ⟨hgone, hdone⟩ := h.removed handle' hmem
    exact ⟨hgone.mono (List.Subset.refl _) filter_ids_subset, hdone⟩

/-- `RemoveTask` returns when the task has no callback to come, or from its own callback. -/
theorem retired_notifyRemove {i : Nat} {call : RemoveCall} (h : Retired s)
    (hcall : s.removing[i]? = some call)
    (hok : OwnCall s call ∨ call.handle ∉ s.thread.unfinished) :
    Retired { s with
      removing := s.removing.eraseIdx i
      removed := if call.byCallback ∧ s.thread.running = some call.handle then s.removed
        else s.removed ++ [call.handle] }.notifyOne := by
  have hremoving : s.removing.eraseIdx i ⊆ s.removing := fun _ => List.mem_of_mem_eraseIdx
  refine ⟨fun call' hmem => h.removing call' (hremoving hmem), fun handle hmem => ?_⟩
  show Gone s handle ∧ handle ∉ s.thread.notify.unfinished
  rw [unfinished_notify]
  dsimp only [notifyOne] at hmem
  split at hmem
  · exact h.removed handle hmem
  · -- The call is not the callback's own, so the condition is about its handle.
    rename_i hown
    cases List.mem_append.mp hmem with
    | inl hold => exact h.removed handle hold
    | inr hnew =>
      rw [List.mem_singleton.mp hnew]
      exact ⟨h.removing call (List.mem_of_getElem? hcall), hok.resolve_left hown⟩

/-- A handle that is gone is not the id of the task that is emplaced. -/
theorem retired_emplace {i : Nat} {call : AddCall} (hissued : Issued s) (h : Retired s)
    (hcall : s.adding[i]? = some call) :
    Retired { s with
      tasks := s.tasks ++ [call.task]
      adding := s.adding.eraseIdx i
      added := s.added ++ [call] } := by
  obtain ⟨hnew, hzero⟩ := hissued.not_handle (List.mem_of_getElem? hcall)
  have hgone : ∀ handle, Gone s handle →
      (handle ∈ s.handles ∨ handle = 0) ∧
        handle ∉ (s.tasks ++ [call.task]).map ScheduleTask.id := by
    intro handle hgone
    refine ⟨hgone.1, fun hmem => ?_⟩
    rw [List.map_append] at hmem
    cases List.mem_append.mp hmem with
    | inl hold => exact hgone.2 hold
    | inr hlast =>
      have heq : handle = call.task.id := List.mem_singleton.mp hlast
      cases hgone.1 with
      | inl hhandle => exact hnew (heq ▸ hhandle)
      | inr hdefault => exact hzero (heq ▸ hdefault)
  exact ⟨fun call' hmem => hgone _ (h.removing call' hmem),
    fun handle hmem => (h.removed handle hmem).imp_left (hgone handle)⟩

/-- A step keeps the tasks retired. -/
theorem retired_step (hissued : Issued s) (h : Retired s) (hok : ReturnsAfterCallbacks s l)
    (hstep : s.step l = some s') : Retired s' := by
  have hsub : ∀ {α : Type} (xs : List α), xs ⊆ xs := fun xs => List.Subset.refl xs
  cases step_transition hstep with
  | tick _ | addTask _ | requestStop =>
    exact h.mono (hsub _) rfl (hsub _) (hsub _) fun _ _ hmem => hmem
  | emplace _ hcall => exact retired_emplace hissued h hcall
  | notifyAdd _ =>
    refine h.mono (hsub _) rfl (List.subset_append_left _ _) (hsub _) fun handle _ hmem => ?_
    rw [← unfinished_notify]
    exact hmem
  | erase _ hhandle _ => exact retired_erase h hhandle
  | notifyRemove hcall => exact retired_notifyRemove h hcall (hok _ hcall)
  | notifyStop _ _ =>
    refine h.mono (hsub _) rfl (hsub _) (hsub _) fun handle _ hmem => ?_
    rw [← unfinished_notify]
    exact hmem
  | advance hadvance =>
    obtain ⟨htasks, hunfinished⟩ := advance_tasks hadvance
    rw [advance_frame hadvance]
    -- A round collects only tasks of the map, so it cannot bring a gone handle back.
    refine h.mono (hsub _) rfl (hsub _) htasks fun handle hgone hmem => ?_
    exact (hunfinished handle hmem).resolve_right hgone.2
  | call hthread hid =>
    refine h.mono (hsub _) rfl (hsub _) (hsub _) fun handle _ hmem => ?_
    rw [hthread]
    cases List.mem_cons.mp hmem with
    | inl heq => exact heq ▸ List.mem_of_getElem? hid
    | inr hrest => exact List.mem_of_mem_eraseIdx hrest
  | wakeSleeping _ | wakeWaiting _ =>
    exact h.mono (hsub _) rfl (hsub _) (hsub _) fun _ _ hmem => absurd hmem List.not_mem_nil

/-- The tasks are retired in every such run. -/
theorem retired_reachable (h : schedulings.Reachable ReturnsAfterCallbacks s) : Retired s := by
  have hboth : Issued s ∧ Retired s := by
    refine h.invariant (I := fun s => Issued s ∧ Retired s) ?_
      fun s l s' ih hok hstep => ⟨issued_step ih.1 hstep, retired_step ih.1 ih.2 hok hstep⟩
    rintro s rfl
    refine ⟨⟨List.nodup_nil, ?_, Nat.one_pos⟩, ?_, ?_⟩
    all_goals exact fun _ hmem => absurd hmem List.not_mem_nil
  exact hboth.2

end SchedulingSystem

end ChatCore.Scheduling

namespace ChatCore.Server

open ChatCore.Lib

namespace Process

variable {s s' : Process} {l : ProcessOp}

/-! ### The periodic `Persist` -/

/-- The main thread removes the persistence task when its callback is not collected. -/
def RemovesAfterCallback (s : Process) : ProcessOp → Prop
  | .main => s.remaining.head? = some .removeTask → s.callback = none
  | _ => True

/-- The task is removed after it is scheduled, and before the `Persist` of `Deinitialize`. -/
theorem removal_order {ops : List MainOp} (h : ops <:+ mainProgram) :
    (ops.head? = some .schedulePersist → .removeTask ∈ ops.tail) ∧
    (ops.head? = some .persist → .removeTask ∉ ops) := by
  have hall : ∀ ops ∈ mainProgram.tails,
      (ops.head? = some .schedulePersist → .removeTask ∈ ops.tail) ∧
      (ops.head? = some .persist → .removeTask ∉ ops) := by decide
  exact hall ops ((List.mem_tails ops mainProgram).mpr h)

/-- After the removal the task is not in the table and its callback is not collected. -/
def CallbackGone (s : Process) : Prop :=
  .removeTask ∉ s.remaining → s.persistTask = false ∧ s.callback = none

/-- A step of the main thread keeps the callback gone. -/
theorem callbackGone_mainStep {op : MainOp} {rest : List MainOp} (hcontrol : ControlInv s)
    (h : CallbackGone s) (hremaining : s.remaining = op :: rest)
    (hok : s.remaining.head? = some .removeTask → s.callback = none)
    (hs : MainStepped s rest op s') : CallbackGone s' := by
  have hkeep : op ≠ .removeTask → .removeTask ∉ rest → s.persistTask = false ∧ s.callback = none :=
    fun hop hrest => h fun hmem => by
      rw [hremaining] at hmem
      cases List.mem_cons.mp hmem with
      | inl heq => exact hop heq.symm
      | inr hmem => exact hrest hmem
  intro hleft
  cases hs with
  | removeTask => exact ⟨rfl, hok (by rw [hremaining]; rfl)⟩
  | schedulePersist =>
    -- The removal is still to come.
    have horder := (removal_order hcontrol.suffix).1
    rw [filter_remaining hremaining rfl] at horder
    exact absurd (List.mem_filter.mp (horder rfl)).1 hleft
  | prewarmMessageLogs =>
    exact hkeep (fun heq => nomatch heq) fun hmem => hleft (List.mem_append_right _ hmem)
  | @persist db messages p hstep =>
    refine hkeep (fun heq => nomatch heq) fun hmem => hleft ?_
    show .removeTask ∈ if p = .idle then rest else .persist :: rest
    split
    · exact hmem
    · exact List.mem_cons_of_mem _ hmem
  | _ => exact hkeep (fun heq => nomatch heq) hleft

/-- A step keeps the callback gone. -/
theorem callbackGone_step (hcontrol : ControlInv s) (h : CallbackGone s)
    (hok : RemovesAfterCallback s l) (hs : s.step l = some s') : CallbackGone s' := by
  cases stepped_of_step hs with
  | main hremaining hmain => exact callbackGone_mainStep hcontrol h hremaining hok hmain
  | collected _ htask _ =>
    intro hleft
    rw [(h hleft).1] at htask
    cases htask
  | ran hcallback _ =>
    intro hleft
    rw [(h hleft).2] at hcallback
    cases hcallback
  | _ => exact h

/-- The `Persist` of `Deinitialize` does not overlap the periodic one. -/
theorem callback_of_persist (h : process.Reachable RemovesAfterCallback s)
    (hpersist : s.remaining.head? = some .persist) : s.callback = none := by
  obtain ⟨-, hcontrol⟩ := controlled_reachable h
  have hgone : CallbackGone s := by
    refine h.invariant_of_reachable (I := CallbackGone) ?_ ?_
    · rintro s ⟨db, rfl⟩ -
      exact ⟨rfl, rfl⟩
    · exact fun s l s' hr ih hok hs => callbackGone_step (controlled_reachable hr).2 ih hok hs
  obtain ⟨rest, hremaining⟩ : ∃ rest, s.remaining = .persist :: rest := by
    cases hlist : s.remaining with
    | nil =>
      rw [hlist] at hpersist
      cases hpersist
    | cons op rest =>
      rw [hlist] at hpersist
      cases hpersist
      exact ⟨rest, rfl⟩
  -- The program has `RemoveTask` before the `Persist` that is next now.
  refine (hgone fun hmem => ?_).2
  have hfilter := filter_remaining hremaining rfl
  refine (removal_order hcontrol.suffix).2 (by rw [hfilter]; rfl) ?_
  exact List.mem_filter.mpr ⟨hmem, rfl⟩

end Process

end ChatCore.Server

namespace ChatCore.Scheduling.SchedulingSystem

open ChatCore.Lib ChatCore.Server

/-- When `RemoveTask` returns after the callbacks, a removed task does not run any more: no
collected callback of it is running or left to run. When the main thread removes the persistence
task while its callback is not collected, the `Persist` of `Deinitialize` overlaps no periodic
one. -/
theorem removed_not_run (s : SchedulingSystem) (p : Process) :
    (schedulings.Reachable ReturnsAfterCallbacks s →
      ∀ handle ∈ s.removed, handle ∉ s.thread.unfinished) ∧
    (process.Reachable Process.RemovesAfterCallback p →
      p.remaining.head? = some .persist → p.callback = none) :=
  ⟨fun h handle hmem => ((retired_reachable h).removed handle hmem).2,
    fun h => Process.callback_of_persist h⟩

instance (s : SchedulingSystem) (call : RemoveCall) : Decidable (OwnCall s call) :=
  inferInstanceAs (Decidable (_ ∧ _))

instance : DecidableRel ReturnsAfterCallbacks := fun s l =>
  match l with
  | .notifyRemove i =>
    inferInstanceAs (Decidable (∀ call ∈ s.removing[i]?,
      OwnCall s call ∨ call.handle ∉ s.thread.unfinished))
  | .tick _ | .addTask _ _ _ | .emplace _ | .notifyAdd _ | .erase _ _ | .requestStop
  | .notifyStop | .advance | .call _ | .wake => inferInstanceAs (Decidable True)

instance : DecidableRel Process.RemovesAfterCallback := fun p l =>
  match l with
  | .main => inferInstanceAs (Decidable (p.remaining.head? = some .removeTask → p.callback = none))
  | .accept | .receive _ _ | .removeConnection _ | .onDisconnected _ | .takeTasks | .handleTask
  | .collect | .runCallback => inferInstanceAs (Decidable True)

/-- A task is removed after its callback has returned, and the server is shut down between two
periodic calls of `Persist`. -/
theorem removed_not_run_finished :
    (∃ s, schedulings.Reachable ReturnsAfterCallbacks s ∧ s.removed = [1] ∧
      1 ∉ s.thread.unfinished) ∧
    ∃ p, process.Reachable Process.RemovesAfterCallback p ∧ p.mainPersist ≠ .idle ∧
      p.callback = none := by
  constructor
  · have hstart : schedulings.Reachable ReturnsAfterCallbacks {} := .start rfl
    obtain ⟨s, hreach, hremoved⟩ := hstart.exists_of_exec
        [.addTask 0 false false, .emplace 0, .notifyAdd 0, .tick 15000000, .advance, .advance,
          .advance, .call 0, .erase 1 false, .advance, .notifyRemove 0]
        (fun s => s.removed = [1]) (by decide +kernel)
    have hmem : 1 ∈ s.removed := by
      rw [hremoved]
      exact List.mem_cons_self
    exact ⟨s, hreach, hremoved, (removed_not_run s (Process.begin .empty)).1 hreach 1 hmem⟩
  · have hstart : process.Reachable Process.RemovesAfterCallback (Process.begin .empty) :=
      .start ⟨_, rfl⟩
    obtain ⟨p, hreach, hhead, hinside⟩ := hstart.exists_of_exec
      (Process.joinThen [.writeChat ⟨"hi"⟩, .shutdown ⟨⟩] ++ List.replicate 3 .main)
      (fun p => p.remaining.head? = some .persist ∧ p.mainPersist ≠ .idle) (by decide +kernel)
    exact ⟨p, hreach, hinside, (removed_not_run {} p).2 hreach hhead⟩

/-- A task is removed between the collection of its callback and the call of it, and the callback
of the removed task runs. In the server, both calls of `Persist` hold a batch at the same time. -/
theorem removed_runs :
    ¬ ((∀ s, schedulings.Reachable Lts.anyStep s →
        ∀ handle ∈ s.removed, handle ∉ s.thread.unfinished) ∨
      ∀ p, process.Reachable Lts.anyStep p →
        p.remaining.head? = some .persist → p.callback = none) := by
  rintro (h | h)
  · have hstart : schedulings.Reachable Lts.anyStep {} := .start rfl
    obtain ⟨s, hreach, hremoved, hrunning, hunfinished⟩ := hstart.exists_of_exec
        [.addTask 0 false false, .emplace 0, .notifyAdd 0, .tick 15000000, .advance, .advance,
          .advance, .erase 1 false, .notifyRemove 0, .call 0]
        (fun s => s.removed = [1] ∧ s.thread.running = some 1 ∧ s.thread.unfinished = [1])
        (by decide +kernel)
    have hdone := h s hreach 1 (by rw [hremoved]; exact List.mem_cons_self)
    rw [hunfinished] at hdone
    exact hdone List.mem_cons_self
  · have hstart : process.Reachable Lts.anyStep (Process.begin .empty) := .start ⟨_, rfl⟩
    obtain ⟨p, hreach, hhead, hmain, hcallback⟩ := hstart.exists_of_exec
      (Process.joinThen [.writeChat ⟨"a"⟩] ++ [.collect, .runCallback,
        .receive 1 (.writeChat ⟨"b"⟩), .receive 1 (.shutdown ⟨⟩), .takeTasks, .handleTask,
        .handleTask] ++ List.replicate 3 .main)
      (fun p => p.remaining.head? = some .persist ∧ p.mainPersist = .swapped [⟨1, 1, 1, "b"⟩] ∧
        p.callback = some (.swapped [⟨0, 1, 1, "a"⟩])) (by decide +kernel)
    have hnone := h p hreach hhead
    rw [hcallback] at hnone
    cases hnone

end ChatCore.Scheduling.SchedulingSystem
