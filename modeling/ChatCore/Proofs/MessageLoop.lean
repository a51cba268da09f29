import ChatCore.Lib.Wakeup
import ChatCore.Network.MessageLoop
import ChatCore.Proofs.MessageOrder
import Mathlib.Data.Multiset.AddSub

/-!
# `ChatCore.Proofs.MessageLoop`: no message waits for ever, and the thread ends

The condition variable only delays the steps of `MessageProcessor`: what the thread does to the
processor is a run of `processing` (`processor_reachable`), so the order of the messages is the one
of `Ordered`.

The predicate of `cv_.wait` becomes true in a locked section that is followed by a notification,
so no wakeup is lost (`notLost`). The internal steps decrease `work`. Before a stop they end
with the thread blocked on an empty queue. After a stop was requested they end with the thread.
Between `Stop` and the request the thread does not rest: it enters `ProcessBlocking` and returns.
-/

set_option autoImplicit false

namespace ChatCore.Network

open ChatCore.Lib

namespace MessageLoop

variable {Kind Payload Message : Type} {codec : NetworkCodec Kind Payload Message}
  {s s' : MessageLoop Kind Payload Message}

/-! ### The steps -/

/-- What a step does. -/
inductive Stepped (codec : NetworkCodec Kind Payload Message)
    (s : MessageLoop Kind Payload Message) : LoopOp → MessageLoop Kind Payload Message → Prop
  | enqueue (connectionId : Nat) (bytes : List UInt8) : Stepped codec s
      (.enqueue connectionId bytes)
      { s with processor := s.processor.enqueue codec connectionId bytes }
  | emplace {i : Nat} {input : Input} {task : Task Kind Payload} :
      s.processor.enqueuing[i]? = some (input, task) → s.processor.stopped = false →
      Stepped codec s (.emplace i) { s with
        processor := { s.processor with
          enqueuing := s.processor.enqueuing.eraseIdx i
          tasks := s.processor.tasks ++ [task]
          inputs := s.processor.inputs ++ [input] }
        enqueued := s.enqueued + 1 }
  | drop {i : Nat} {input : Input} {task : Task Kind Payload} :
      s.processor.enqueuing[i]? = some (input, task) → s.processor.stopped = true →
      Stepped codec s (.emplace i) { s with
        processor := { s.processor with enqueuing := s.processor.enqueuing.eraseIdx i } }
  | notifyOne : 0 < s.enqueued →
      Stepped codec s .notifyOne { s with enqueued := s.enqueued - 1 }.wake
  | stop : Stepped codec s .stop { s with
      processor := { s.processor with stopped := true }
      stopping := s.stopping + 1 }
  | notifyAll : 0 < s.stopping →
      Stepped codec s .notifyAll { s with stopping := s.stopping - 1 }.wake
  | requestStop : s.processor.stopped = true →
      Stepped codec s .requestStop { s with stopRequested := true }
  | spurious : s.stage = .waiting → Stepped codec s .spurious s.wake
  | ends : s.stage = .testing → s.stopRequested = true →
      Stepped codec s .advance { s with stage := .ended }
  | enters : s.stage = .testing → s.stopRequested = false →
      Stepped codec s .advance { s with stage := .entering }
  | leaves : s.stage = .entering → s.processor.stopped = true →
      Stepped codec s .advance { s with stage := .testing }
  | blocks : s.stage = .entering → s.processor.stopped = false → s.processor.tasks = [] →
      Stepped codec s .advance { s with stage := .waiting }
  | swaps : s.stage = .entering → s.processor.stopped = false → s.processor.tasks ≠ [] →
      s.processor.buffer = [] →
      Stepped codec s .advance { s with
        processor := { s.processor with tasks := [], buffer := s.processor.tasks }
        stage := .running }
  | returns : s.stage = .running → s.processor.buffer = [] →
      Stepped codec s .advance { s with stage := .testing }
  | runs {task : Task Kind Payload} {rest : List (Task Kind Payload)} : s.stage = .running →
      s.processor.buffer = task :: rest →
      Stepped codec s .advance { s with
        processor := { s.processor with buffer := rest }.runTask codec task }

/-- The application thread takes one of the steps. -/
theorem stepped_advance (hs : s.advance codec = some s') : Stepped codec s .advance s' := by
  unfold advance at hs
  split at hs
  · rename_i hstage
    obtain rfl := Option.some.inj hs
    -- The condition of the loop.
    by_cases hrequested : s.stopRequested = true
    · rw [if_pos hrequested]
      exact .ends hstage hrequested
    · rw [if_neg hrequested]
      exact .enters hstage (by simpa using hrequested)
  · rename_i hstage
    split at hs
    · -- The predicate of the wait: stopped, or something is in the queue.
      rename_i hstopped
      obtain rfl := Option.some.inj hs
      exact .leaves hstage hstopped
    · rename_i hstopped
      have hrunning : s.processor.stopped = false := by simpa using hstopped
      split at hs
      · rename_i htasks
        obtain rfl := Option.some.inj hs
        exact .blocks hstage hrunning (List.isEmpty_iff.mp htasks)
      · rename_i htasks
        obtain ⟨processor, hswap, rfl⟩ := Option.map_eq_some_iff.mp hs
        simp only [MessageProcessor.step, Option.ite_none_right_eq_some] at hswap
        obtain ⟨⟨hbuffer, -, -⟩, hswap⟩ := hswap
        obtain rfl := Option.some.inj hswap
        exact .swaps hstage hrunning (by simpa using htasks) (List.isEmpty_iff.mp hbuffer)
  · rename_i hstage
    split at hs
    · rename_i hbuffer
      obtain rfl := Option.some.inj hs
      exact .returns hstage (List.isEmpty_iff.mp hbuffer)
    · obtain ⟨processor, hrun, rfl⟩ := Option.map_eq_some_iff.mp hs
      simp only [MessageProcessor.step] at hrun
      split at hrun
      · cases hrun
      · rename_i task rest hbuffer
        obtain rfl := Option.some.inj hrun
        exact .runs hstage hbuffer
  · cases hs
  · cases hs

/-- Every step is one of these. -/
theorem stepped_of_step {l : LoopOp} (hs : s.step codec l = some s') : Stepped codec s l s' := by
  cases l with
  | enqueue connectionId bytes =>
    cases hs
    exact .enqueue connectionId bytes
  | emplace i =>
    simp only [step] at hs
    obtain ⟨processor, hemplace, rfl⟩ := Option.map_eq_some_iff.mp hs
    obtain ⟨⟨input, task⟩, hget, rfl⟩ := Option.map_eq_some_iff.mp hemplace
    by_cases hstopped : s.processor.stopped = true
    · simp only [MessageProcessor.emplace, if_pos hstopped]
      exact .drop hget hstopped
    · simp only [MessageProcessor.emplace, if_neg hstopped]
      exact .emplace hget (by simpa using hstopped)
  | notifyOne =>
    simp only [step, Option.ite_none_left_eq_some] at hs
    obtain ⟨hpos, hs⟩ := hs
    cases hs
    exact .notifyOne (by omega)
  | stop =>
    cases hs
    exact .stop
  | notifyAll =>
    simp only [step, Option.ite_none_left_eq_some] at hs
    obtain ⟨hpos, hs⟩ := hs
    cases hs
    exact .notifyAll (by omega)
  | requestStop =>
    simp only [step, Option.ite_none_right_eq_some] at hs
    obtain ⟨⟨hstopped, -⟩, hs⟩ := hs
    cases hs
    exact .requestStop hstopped
  | spurious =>
    simp only [step, Option.ite_none_right_eq_some] at hs
    obtain ⟨hstage, hs⟩ := hs
    cases hs
    exact .spurious hstage
  | advance => exact stepped_advance hs

/-- To wake the thread changes nothing in the processor. -/
@[simp] theorem wake_processor : s.wake.processor = s.processor := by
  unfold wake
  split <;> rfl

/-- It requests no stop. -/
@[simp] theorem wake_stopRequested : s.wake.stopRequested = s.stopRequested := by
  unfold wake
  split <;> rfl

/-- It leaves the calls of `Enqueue` before `notify_one`. -/
@[simp] theorem wake_enqueued : s.wake.enqueued = s.enqueued := by
  unfold wake
  split <;> rfl

/-- It leaves the calls of `Stop` before `notify_one`. -/
@[simp] theorem wake_stopping : s.wake.stopping = s.stopping := by
  unfold wake
  split <;> rfl

/-- Only a waiting thread goes on. -/
theorem wake_stage : s.wake.stage = if s.stage = .waiting then .entering else s.stage := by
  unfold wake
  split <;> rfl

/-! ### The processor -/

/-- A step of the loop is a step of the processor, or it leaves the processor alone. -/
theorem step_processor {l : LoopOp} (hs : s.step codec l = some s') :
    s'.processor = s.processor ∨ ∃ op, s.processor.step codec op = some s'.processor := by
  cases stepped_of_step hs with
  | enqueue connectionId bytes => exact .inr ⟨.enqueue connectionId bytes, rfl⟩
  | @emplace i input task hget hstopped =>
    refine .inr ⟨.emplace i, ?_⟩
    simp [MessageProcessor.step, hget, MessageProcessor.emplace, hstopped]
  | @drop i input task hget hstopped =>
    refine .inr ⟨.emplace i, ?_⟩
    simp [MessageProcessor.step, hget, MessageProcessor.emplace, hstopped]
  | stop => exact .inr ⟨.stop, rfl⟩
  | swaps _ hstopped htasks hbuffer =>
    refine .inr ⟨.swap, ?_⟩
    simp [MessageProcessor.step, hstopped, htasks, hbuffer]
  | @runs task rest _ hbuffer =>
    refine .inr ⟨.run, ?_⟩
    simp [MessageProcessor.step, hbuffer]
  | notifyOne _ | notifyAll _ | spurious _ => exact .inl wake_processor
  | requestStop _ | ends _ _ | enters _ _ | leaves _ _ | blocks _ _ _ | returns _ _ =>
    exact .inl rfl

/-- With its condition variable the processor does nothing that `processing` does not do. -/
theorem processor_reachable (h : (messageLoops codec).Reachable Lts.anyStep s) :
    (processing codec).Reachable Lts.anyStep s.processor := by
  induction h with
  | start hstart =>
    obtain rfl := hstart
    exact .start rfl
  | step _ _ hs ih =>
    cases step_processor hs with
    | inl heq =>
      rw [heq]
      exact ih
    | inr hstep =>
      obtain ⟨op, hop⟩ := hstep
      exact .step ih trivial hop

/-! ### Invariants -/

/-- The buffer is empty outside of its loop, and the stop token is set after `Stop`. -/
structure LoopInv (s : MessageLoop Kind Payload Message) : Prop where
  buffer : s.stage ≠ .running → s.processor.buffer = []
  stopped : s.stopRequested = true → s.processor.stopped = true
  ended : s.stage = .ended → s.stopRequested = true

/-- To wake the thread keeps the invariant. -/
theorem LoopInv.wake (h : LoopInv s) : LoopInv s.wake := by
  unfold MessageLoop.wake
  split
  · rename_i hstage
    exact ⟨fun _ => h.buffer (by simp [hstage]), h.stopped, fun hended => by cases hended⟩
  · exact h

/-- What `Enqueue` leaves alone before its lock. -/
theorem enqueue_frame (c : NetworkCodec Kind Payload Message)
    (p : MessageProcessor Kind Payload Message) (connectionId : Nat) (bytes : List UInt8) :
    (p.enqueue c connectionId bytes).tasks = p.tasks ∧
      (p.enqueue c connectionId bytes).buffer = p.buffer ∧
      (p.enqueue c connectionId bytes).stopped = p.stopped := by
  have hdropped : ∀ input : Input,
      (if p.stopped then p else { p with inputs := p.inputs ++ [input] }).tasks = p.tasks ∧
      (if p.stopped then p else { p with inputs := p.inputs ++ [input] }).buffer = p.buffer ∧
      (if p.stopped then p else { p with inputs := p.inputs ++ [input] }).stopped = p.stopped := by
    intro input
    split <;> exact ⟨rfl, rfl, rfl⟩
  simp only [MessageProcessor.enqueue]
  split
  · exact hdropped _
  · split
    · exact hdropped _
    · exact ⟨rfl, rfl, rfl⟩

/-- What a task leaves alone. -/
theorem runTask_frame (c : NetworkCodec Kind Payload Message)
    (p : MessageProcessor Kind Payload Message) (task : Task Kind Payload) :
    (p.runTask c task).tasks = p.tasks ∧ (p.runTask c task).buffer = p.buffer ∧
      (p.runTask c task).stopped = p.stopped ∧ (p.runTask c task).enqueuing = p.enqueuing ∧
      (p.runTask c task).inputs = p.inputs := by
  unfold MessageProcessor.runTask
  split <;> exact ⟨rfl, rfl, rfl, rfl, rfl⟩

/-- A step keeps the invariant. -/
theorem loopInv_step {l : LoopOp} (h : LoopInv s) (hs : s.step codec l = some s') :
    LoopInv s' := by
  cases stepped_of_step hs with
  | enqueue connectionId bytes =>
    obtain ⟨-, hbuffer, hstopped⟩ := enqueue_frame codec s.processor connectionId bytes
    exact ⟨fun hstage => hbuffer.trans (h.buffer hstage),
      fun hrequested => hstopped.trans (h.stopped hrequested), h.ended⟩
  | emplace _ _ | drop _ _ => exact ⟨h.buffer, h.stopped, h.ended⟩
  | notifyOne _ | notifyAll _ => exact LoopInv.wake ⟨h.buffer, h.stopped, h.ended⟩
  | spurious _ => exact h.wake
  | stop => exact ⟨h.buffer, fun _ => rfl, h.ended⟩
  | requestStop hstopped => exact ⟨h.buffer, fun _ => hstopped, fun _ => rfl⟩
  | ends hstage hrequested =>
    exact ⟨fun _ => h.buffer (by simp [hstage]), h.stopped, fun _ => hrequested⟩
  | enters hstage _ | leaves hstage _ | blocks hstage _ _ =>
    exact ⟨fun _ => h.buffer (by simp [hstage]), h.stopped, fun hended => by cases hended⟩
  | swaps _ _ _ _ =>
    exact ⟨fun hstage => absurd rfl hstage, h.stopped, fun hended => by cases hended⟩
  | returns _ hbuffer => exact ⟨fun _ => hbuffer, h.stopped, fun hended => by cases hended⟩
  | @runs task rest hstage hbuffer =>
    obtain ⟨-, -, hstopped, -, -⟩ :=
      runTask_frame codec { s.processor with buffer := rest } task
    exact ⟨fun hnot => absurd hstage hnot,
      fun hrequested => hstopped.trans (h.stopped hrequested), h.ended⟩

/-- The invariant holds in every run. -/
theorem loopInv_reachable (h : (messageLoops codec).Reachable Lts.anyStep s) : LoopInv s := by
  refine h.invariant (I := LoopInv) ?_ fun s l s' ih _ hs => loopInv_step ih hs
  rintro s rfl
  refine ⟨fun _ => rfl, fun hrequested => ?_, fun hended => ?_⟩
  · cases hrequested
  · cases hended

/-- The thread sleeps in `cv_.wait`, and the predicate is what it waits for. -/
def sleep : Wakeup (MessageLoop Kind Payload Message) where
  asleep s := s.stage = .waiting
  ready s := s.processor.stopped = true ∨ s.processor.tasks ≠ []
  signals s := s.enqueued + s.stopping

/-- A notification finds the thread awake or wakes it. -/
theorem awake_wake (s : MessageLoop Kind Payload Message) : ¬ sleep.asleep s.wake := by
  show s.wake.stage ≠ .waiting
  rw [wake_stage]
  split
  · simp
  · assumption

/-- No step loses a wakeup. -/
theorem move_step {l : LoopOp} (hs : s.step codec l = some s') : sleep.Move s s' := by
  cases stepped_of_step hs with
  | enqueue connectionId bytes =>
    obtain ⟨htasks, -, hstopped⟩ := enqueue_frame codec s.processor connectionId bytes
    refine .keeps id (fun hready => ?_) (Nat.le_refl _)
    show s.processor.stopped = true ∨ s.processor.tasks ≠ []
    rw [← htasks, ← hstopped]
    exact hready
  | emplace _ _ =>
    refine .signal ?_
    show 0 < s.enqueued + 1 + s.stopping
    omega
  | drop _ _ => exact .keeps id id (Nat.le_refl _)
  | notifyOne _ | notifyAll _ | spurious _ => exact .awake (awake_wake _)
  | stop =>
    refine .signal ?_
    show 0 < s.enqueued + (s.stopping + 1)
    omega
  | requestStop _ => exact .keeps id id (Nat.le_refl _)
  | blocks _ hstopped htasks =>
    -- The thread blocks in the step that has found the predicate false.
    refine .unready fun hready => ?_
    cases hready with
    | inl hready => exact absurd hready (by simp [hstopped])
    | inr hready => exact hready htasks
  | ends _ _ | enters _ _ | leaves _ _ | swaps _ _ _ _ | returns _ _ =>
    exact .awake fun hasleep => by cases hasleep
  | runs hstage _ =>
    refine .awake fun hasleep => ?_
    have hwaiting : s.stage = .waiting := hasleep
    rw [hstage] at hwaiting
    cases hwaiting

/-- No wakeup is lost in any run. -/
theorem notLost (h : (messageLoops codec).Reachable Lts.anyStep s) : sleep.NotLost s := by
  refine Wakeup.notLost_reachable ?_ (fun s l s' hs => move_step hs) h
  intro s hstart hasleep
  obtain rfl := hstart
  cases hasleep

/-! ### Progress -/

/-- The steps that are left of one round of the thread, while nothing is stopped. -/
def LoopStage.rest : LoopStage → Nat
  | .running => 3
  | .testing => 2
  | .entering => 1
  | .waiting | .ended => 0

/-- The steps that are left of the thread after a stop was requested. -/
def LoopStage.restStopped : LoopStage → Nat
  | .running => 3
  | .entering => 2
  | .testing => 1
  | .waiting | .ended => 0

/-- A measure of the internal steps. -/
def work (s : MessageLoop Kind Payload Message) : Nat :=
  if s.processor.stopped then
    s.processor.enqueuing.length + s.processor.buffer.length + 3 * (s.enqueued + s.stopping)
      + LoopStage.restStopped s.stage
  else
    7 * s.processor.enqueuing.length + 4 * s.processor.tasks.length + s.processor.buffer.length
      + 2 * (s.enqueued + s.stopping) + LoopStage.rest s.stage

/-- The inputs whose `Enqueue` has been called. -/
def requested (s : MessageLoop Kind Payload Message) : Multiset Input :=
  s.processor.inputs + s.processor.enqueuing.map Prod.fst

/-- What is left to do while the processor runs. -/
theorem work_of_running (h : s.processor.stopped = false) :
    s.work = 7 * s.processor.enqueuing.length + 4 * s.processor.tasks.length
      + s.processor.buffer.length + 2 * (s.enqueued + s.stopping) + LoopStage.rest s.stage := by
  simp [work, h]

/-- The work decreases when this sum does. -/
theorem work_lt_of_running (h : s.processor.stopped = false) (h' : s'.processor.stopped = false)
    (hlt : 7 * s'.processor.enqueuing.length + 4 * s'.processor.tasks.length
        + s'.processor.buffer.length + 2 * (s'.enqueued + s'.stopping) + LoopStage.rest s'.stage
      < 7 * s.processor.enqueuing.length + 4 * s.processor.tasks.length
        + s.processor.buffer.length + 2 * (s.enqueued + s.stopping) + LoopStage.rest s.stage) :
    s'.work < s.work := by
  rw [work_of_running h, work_of_running h']
  exact hlt

/-- What is left to do once the processor is stopped. -/
theorem work_of_stopped (h : s.processor.stopped = true) :
    s.work = s.processor.enqueuing.length + s.processor.buffer.length
      + 3 * (s.enqueued + s.stopping) + LoopStage.restStopped s.stage := by
  simp [work, h]

/-- The work decreases when this sum does. -/
theorem work_lt_of_stopped (h : s.processor.stopped = true) (h' : s'.processor.stopped = true)
    (hlt : s'.processor.enqueuing.length + s'.processor.buffer.length
        + 3 * (s'.enqueued + s'.stopping) + LoopStage.restStopped s'.stage
      < s.processor.enqueuing.length + s.processor.buffer.length
        + 3 * (s.enqueued + s.stopping) + LoopStage.restStopped s.stage) :
    s'.work < s.work := by
  rw [work_of_stopped h, work_of_stopped h']
  exact hlt

/-- A notification costs less than it was counted for. -/
theorem work_wake (s : MessageLoop Kind Payload Message) :
    s.wake.work ≤ s.work + if s.processor.stopped then 2 else 1 := by
  have hprocessor : s.wake.processor = s.processor := wake_processor
  cases hstopped : s.processor.stopped with
  | true =>
    rw [work_of_stopped (hprocessor ▸ hstopped), work_of_stopped hstopped]
    simp only [wake_processor, wake_enqueued, wake_stopping, wake_stage, if_true]
    split
    · rename_i hstage
      rw [hstage]
      show _ + 2 ≤ _ + 0 + 2
      omega
    · omega
  | false =>
    rw [work_of_running (hprocessor ▸ hstopped), work_of_running hstopped]
    simp only [wake_processor, wake_enqueued, wake_stopping, wake_stage, Bool.false_eq_true,
      if_false]
    split
    · rename_i hstage
      rw [hstage]
      show _ + 1 ≤ _ + 0 + 1
      omega
    · omega

/-- A notification that is on its way counts more than what it causes. -/
theorem work_notify {t : MessageLoop Kind Payload Message} (hprocessor : t.processor = s.processor)
    (hstage : t.stage = s.stage)
    (hsignals : t.enqueued + t.stopping + 1 = s.enqueued + s.stopping) : t.wake.work < s.work := by
  have hwake := work_wake t
  cases hstopped : s.processor.stopped with
  | true =>
    have ht : t.processor.stopped = true := by rw [hprocessor, hstopped]
    rw [work_of_stopped ht, ht, if_pos rfl, hprocessor, hstage] at hwake
    rw [work_of_stopped hstopped]
    omega
  | false =>
    have ht : t.processor.stopped = false := by rw [hprocessor, hstopped]
    rw [work_of_running ht, ht, if_neg (by simp), hprocessor, hstage] at hwake
    rw [work_of_running hstopped]
    omega

/-- The input of a call moves from the calls to the queue. -/
theorem requested_emplace {input : Input} {task : Task Kind Payload} {i : Nat}
    (hget : s.processor.enqueuing[i]? = some (input, task)) :
    ((s.processor.inputs ++ [input] : List Input)
      + ((s.processor.enqueuing.eraseIdx i).map Prod.fst : List Input) : Multiset Input)
      = s.requested := by
  have hperm : (s.processor.enqueuing.map Prod.fst).Perm
      (input :: (s.processor.enqueuing.eraseIdx i).map Prod.fst) :=
    (perm_eraseIdx_of_get hget).map Prod.fst
  unfold requested
  rw [Multiset.coe_add, Multiset.coe_add, Multiset.coe_eq_coe, List.append_assoc]
  exact (hperm.append_left _).symm

/-- Before a stop an internal step brings the threads nearer to their rest. -/
theorem work_step_running {l : LoopOp} (hinv : LoopInv s) (hstopped : s.processor.stopped = false)
    (hl : l.Internal) (hs : s.step codec l = some s') :
    s'.work < s.work ∧ s'.processor.stopped = false ∧ s'.requested = s.requested := by
  cases stepped_of_step hs with
  | enqueue _ _ | stop | requestStop _ | spurious _ => exact hl.elim
  | @emplace i input task hget _ =>
    -- A call of `Enqueue` becomes a task and a notification.
    have hlength := length_eraseIdx_of_get hget
    refine ⟨?_, hstopped, requested_emplace hget⟩
    refine work_lt_of_running hstopped hstopped ?_
    simp only [List.length_append, List.length_singleton]
    omega
  | drop _ htrue => simp [hstopped] at htrue
  | notifyOne hpos =>
    refine ⟨work_notify rfl rfl ?_, by rw [wake_processor]; exact hstopped, by simp [requested]⟩
    show s.enqueued - 1 + s.stopping + 1 = s.enqueued + s.stopping
    omega
  | notifyAll hpos =>
    refine ⟨work_notify rfl rfl ?_, by rw [wake_processor]; exact hstopped, by simp [requested]⟩
    show s.enqueued + (s.stopping - 1) + 1 = s.enqueued + s.stopping
    omega
  | ends _ hrequested => simp [hinv.stopped hrequested] at hstopped
  | enters hstage _ =>
    refine ⟨?_, hstopped, rfl⟩
    refine work_lt_of_running hstopped hstopped ?_
    rw [hstage]
    exact Nat.lt_succ_self _
  | leaves _ htrue => simp [hstopped] at htrue
  | blocks hstage _ _ =>
    refine ⟨?_, hstopped, rfl⟩
    refine work_lt_of_running hstopped hstopped ?_
    rw [hstage]
    exact Nat.lt_succ_self _
  | swaps hstage _ htasks hbuffer =>
    refine ⟨?_, hstopped, rfl⟩
    -- The queue is not empty, so the swap takes work off it.
    have hpos := List.length_pos_iff.mpr htasks
    refine work_lt_of_running hstopped hstopped ?_
    rw [hstage, hbuffer]
    simp only [LoopStage.rest, List.length_nil]
    omega
  | returns hstage hbuffer =>
    refine ⟨?_, hstopped, rfl⟩
    refine work_lt_of_running hstopped hstopped ?_
    rw [hstage]
    exact Nat.lt_succ_self _
  | @runs task rest hstage hbuffer =>
    obtain ⟨htasks, hrest, hstop, henqueuing, hinputs⟩ :=
      runTask_frame codec { s.processor with buffer := rest } task
    refine ⟨?_, hstop.trans hstopped, ?_⟩
    · refine work_lt_of_running hstopped (hstop.trans hstopped) ?_
      rw [hbuffer]
      simp only [htasks, hrest, henqueuing, List.length_cons]
      omega
    · simp only [requested, hinputs, henqueuing]

/-- After a stop was requested an internal step brings the thread nearer to its end. -/
theorem work_step_stopped {l : LoopOp} (hrequested : s.stopRequested = true)
    (hstopped : s.processor.stopped = true) (hl : l.Internal) (hs : s.step codec l = some s') :
    s'.work < s.work ∧ s'.processor.stopped = true ∧ s'.stopRequested = true ∧
      s'.processor.inputs = s.processor.inputs ∧ s'.processor.tasks = s.processor.tasks := by
  cases stepped_of_step hs with
  | enqueue _ _ | stop | requestStop _ | spurious _ => exact hl.elim
  | emplace _ hfalse => simp [hstopped] at hfalse
  | @drop i input task hget _ =>
    have hlength := length_eraseIdx_of_get hget
    refine ⟨?_, hstopped, hrequested, rfl, rfl⟩
    refine work_lt_of_stopped hstopped hstopped ?_
    dsimp only
    omega
  | notifyOne hpos =>
    refine ⟨work_notify rfl rfl ?_, by rw [wake_processor]; exact hstopped,
      by rw [wake_stopRequested]; exact hrequested, by rw [wake_processor],
      by rw [wake_processor]⟩
    show s.enqueued - 1 + s.stopping + 1 = s.enqueued + s.stopping
    omega
  | notifyAll hpos =>
    refine ⟨work_notify rfl rfl ?_, by rw [wake_processor]; exact hstopped,
      by rw [wake_stopRequested]; exact hrequested, by rw [wake_processor],
      by rw [wake_processor]⟩
    show s.enqueued + (s.stopping - 1) + 1 = s.enqueued + s.stopping
    omega
  | ends hstage _ =>
    refine ⟨?_, hstopped, hrequested, rfl, rfl⟩
    refine work_lt_of_stopped hstopped hstopped ?_
    rw [hstage]
    exact Nat.lt_succ_self _
  | enters _ hfalse => simp [hrequested] at hfalse
  | leaves hstage _ =>
    refine ⟨?_, hstopped, hrequested, rfl, rfl⟩
    refine work_lt_of_stopped hstopped hstopped ?_
    rw [hstage]
    exact Nat.lt_succ_self _
  | blocks _ hfalse _ => simp [hstopped] at hfalse
  | swaps _ hfalse _ _ => simp [hstopped] at hfalse
  | returns hstage hbuffer =>
    refine ⟨?_, hstopped, hrequested, rfl, rfl⟩
    refine work_lt_of_stopped hstopped hstopped ?_
    rw [hstage]
    simp only [LoopStage.restStopped]
    omega
  | @runs task rest hstage hbuffer =>
    obtain ⟨htasks, hrest, hstop, henqueuing, hinputs⟩ :=
      runTask_frame codec { s.processor with buffer := rest } task
    refine ⟨?_, hstop.trans hstopped, hrequested, hinputs, htasks⟩
    refine work_lt_of_stopped hstopped (hstop.trans hstopped) ?_
    rw [hbuffer]
    simp only [hrest, henqueuing, List.length_cons]
    omega

/-- Where the threads rest: no call is under way, and the thread is blocked or at its end. -/
theorem rest_of_quiescent (hinv : LoopInv s)
    (hquiet : ∀ l, LoopOp.Internal l → s.step codec l = none) :
    s.processor.enqueuing = [] ∧ s.enqueued + s.stopping = 0 ∧
      (s.stage = .waiting ∨ s.stage = .ended) := by
  have henqueuing : s.processor.enqueuing = [] := by
    cases hcalls : s.processor.enqueuing with
    | nil => rfl
    | cons call calls =>
      have hnone := hquiet (.emplace 0) trivial
      simp [step, MessageProcessor.step, hcalls] at hnone
  have hone : s.enqueued = 0 := by
    by_contra hne
    have hnone := hquiet .notifyOne trivial
    simp [step, hne] at hnone
  have hall : s.stopping = 0 := by
    by_contra hne
    have hnone := hquiet .notifyAll trivial
    simp [step, hne] at hnone
  refine ⟨henqueuing, by omega, ?_⟩
  have hnone : s.advance codec = none := hquiet .advance trivial
  unfold advance at hnone
  cases hstage : s.stage with
  | waiting => exact .inl rfl
  | ended => exact .inr rfl
  | testing => simp [hstage] at hnone
  | entering =>
    -- The predicate is true and the thread goes on, or it is false and the thread blocks.
    have hbuffer := hinv.buffer (by simp [hstage])
    simp only [hstage] at hnone
    split at hnone
    · cases hnone
    · rename_i hstopped
      split at hnone
      · cases hnone
      · rename_i htasks
        simp [MessageProcessor.step, hbuffer, hstopped, htasks] at hnone
  | running =>
    simp only [hstage] at hnone
    split at hnone
    · cases hnone
    · rename_i hbuffer
      cases hcons : s.processor.buffer with
      | nil => simp [hcons] at hbuffer
      | cons task rest => simp [MessageProcessor.step, hcons] at hnone

/-! ### Results -/

/-- As long as nobody calls `Stop`, no message waits for ever. The internal steps come to an end,
and then the thread is blocked, the queue is empty and every input was handled. Such a state can
always be reached, and the inputs that are then in the queue's history are those of all calls of
`Enqueue` so far, also of the calls that had not taken the lock yet. -/
theorem loop_handles_all (h : (messageLoops codec).Reachable Lts.anyStep s)
    (hstopped : s.processor.stopped = false) :
    (∀ l s', LoopOp.Internal l → s.step codec l = some s' → s'.work < s.work) ∧
    ((∀ l, LoopOp.Internal l → s.step codec l = none) → s.stage = .waiting ∧
      s.processor.handled = s.processor.inputs.filterMap codec.receive) ∧
    ∃ s', (messageLoops codec).Leads LoopOp.Internal s s' ∧
      (messageLoops codec).Reachable Lts.anyStep s' ∧ s'.stage = .waiting ∧
      s'.processor.inputs.Perm (s.processor.inputs ++ s.processor.enqueuing.map Prod.fst) ∧
      s'.processor.handled = s'.processor.inputs.filterMap codec.receive := by
  have hrest : ∀ {t : MessageLoop Kind Payload Message},
      (messageLoops codec).Reachable Lts.anyStep t → t.processor.stopped = false →
      (∀ l, LoopOp.Internal l → t.step codec l = none) → t.stage = .waiting ∧
      t.processor.enqueuing = [] ∧
      t.processor.handled = t.processor.inputs.filterMap codec.receive := by
    intro t ht hrunning hquiet
    have hinv := loopInv_reachable ht
    obtain ⟨henqueuing, hsignals, hstage⟩ := rest_of_quiescent hinv hquiet
    have hwaiting : t.stage = .waiting := by
      cases hstage with
      | inl hwaiting => exact hwaiting
      | inr hended => simp [hinv.stopped (hinv.ended hended)] at hrunning
    -- The predicate is false, so nothing is in the queue, and the buffer is empty anyway.
    have hunready := (notLost ht).unready hwaiting hsignals
    have htasks : t.processor.tasks = [] := by
      by_contra hne
      exact hunready (.inr hne)
    have horder := (MessageProcessor.ordered_reachable (processor_reachable ht)).order
    rw [htasks, hinv.buffer (by simp [hwaiting])] at horder
    exact ⟨hwaiting, henqueuing, by simpa using horder⟩
  refine ⟨fun l s' hl hs => (work_step_running (loopInv_reachable h) hstopped hl hs).1,
    fun hquiet => ?_, ?_⟩
  · obtain ⟨hwaiting, -, hhandled⟩ := hrest h hstopped hquiet
    exact ⟨hwaiting, hhandled⟩
  · obtain ⟨s', hleads, hreach, hkept, hquiet⟩ := h.exists_quiescent (p := LoopOp.Internal) work
      (fun t => (t.processor.stopped, t.requested)) (fun _ _ _ => trivial)
      fun t l t' ht hkept hl hs => by
        have hrunning : t.processor.stopped = false := (Prod.mk.inj hkept).1.trans hstopped
        obtain ⟨hlt, hstopped', hrequested⟩ :=
          work_step_running (loopInv_reachable ht) hrunning hl hs
        exact ⟨by rw [hstopped', hrunning, hrequested], hlt⟩
    obtain ⟨hstopped', hrequested⟩ := Prod.mk.inj hkept
    obtain ⟨hwaiting, henqueuing, hhandled⟩ := hrest hreach (hstopped'.trans hstopped) hquiet
    refine ⟨s', hleads, hreach, hwaiting, ?_, hhandled⟩
    rw [requested, requested, henqueuing, Multiset.coe_add, Multiset.coe_add] at hrequested
    simpa using Multiset.coe_eq_coe.mp hrequested

/-- A message is in the queue while the thread is still blocked. -/
theorem loop_handles_all_blocked :
    let json := JsonNetworkCodec.libraryFor (.writeChat ⟨"hi"⟩) JsonNetworkCodec.writeChatText
    ∃ s, (messageLoops (jsonNetworkCodec json)).Reachable Lts.anyStep s ∧ s.stage = .waiting ∧
      s.processor.handled = [(2, .writeChat ⟨"hi"⟩)] := by
  intro json
  have hstart : (messageLoops (jsonNetworkCodec json)).Reachable Lts.anyStep {} := .start rfl
  obtain ⟨s, hreach, hstage, hstopped, henqueuing, hinputs⟩ := hstart.exists_of_exec
    [.advance, .advance, .enqueue 2 JsonNetworkCodec.writeChatText, .emplace 0]
    (fun s => s.stage = .waiting ∧ s.processor.stopped = false ∧
      s.processor.enqueuing.length = 0 ∧
      s.processor.inputs = [(2, JsonNetworkCodec.writeChatText)]) (by decide)
  obtain ⟨-, -, s', -, hreach', hstage', hperm, hhandled⟩ := loop_handles_all hreach hstopped
  refine ⟨s', hreach', hstage', ?_⟩
  rw [hinputs, List.length_eq_zero_iff.mp henqueuing] at hperm
  rw [hhandled, List.perm_singleton.mp hperm]
  rfl

/-- Once `Deinitialize` has requested the stop, the join comes to an end. The internal steps do,
and then the thread has ended and its buffer is empty: of the messages that were enqueued before
`Stop`, exactly those that were not in the buffer by then are not handled. -/
theorem loop_ends (h : (messageLoops codec).Reachable Lts.anyStep s)
    (hrequested : s.stopRequested = true) :
    (∀ l s', LoopOp.Internal l → s.step codec l = some s' → s'.work < s.work) ∧
    ((∀ l, LoopOp.Internal l → s.step codec l = none) → s.stage = .ended ∧
      s.processor.handled ++ s.processor.tasks.filterMap codec.message
        = s.processor.inputs.filterMap codec.receive) ∧
    ∃ s', (messageLoops codec).Leads LoopOp.Internal s s' ∧
      (messageLoops codec).Reachable Lts.anyStep s' ∧ s'.stage = .ended ∧
      s'.processor.inputs = s.processor.inputs ∧ s'.processor.tasks = s.processor.tasks ∧
      s'.processor.handled ++ s'.processor.tasks.filterMap codec.message
        = s'.processor.inputs.filterMap codec.receive := by
  have hrest : ∀ {t : MessageLoop Kind Payload Message},
      (messageLoops codec).Reachable Lts.anyStep t → t.processor.stopped = true →
      (∀ l, LoopOp.Internal l → t.step codec l = none) → t.stage = .ended ∧
      t.processor.handled ++ t.processor.tasks.filterMap codec.message
        = t.processor.inputs.filterMap codec.receive := by
    intro t ht hstopped hquiet
    have hinv := loopInv_reachable ht
    obtain ⟨-, hsignals, hstage⟩ := rest_of_quiescent hinv hquiet
    have hended : t.stage = .ended := by
      cases hstage with
      | inl hwaiting => exact absurd (.inl hstopped) ((notLost ht).unready hwaiting hsignals)
      | inr hended => exact hended
    have horder := (MessageProcessor.ordered_reachable (processor_reachable ht)).order
    rw [hinv.buffer (by simp [hended]), List.nil_append] at horder
    exact ⟨hended, horder⟩
  have hstopped := (loopInv_reachable h).stopped hrequested
  refine ⟨fun l s' hl hs => (work_step_stopped hrequested hstopped hl hs).1,
    hrest h hstopped, ?_⟩
  obtain ⟨s', hleads, hreach, hkept, hquiet⟩ := h.exists_quiescent (p := LoopOp.Internal) work
    (fun t => (t.processor.stopped, t.stopRequested, t.processor.inputs, t.processor.tasks))
    (fun _ _ _ => trivial)
    fun t l t' ht hkept hl hs => by
      simp only [Prod.mk.injEq] at hkept
      obtain ⟨hstop, hrequest, -, -⟩ := hkept
      obtain ⟨hlt, hstop', hrequest', hinputs, htasks⟩ :=
        work_step_stopped (hrequest.trans hrequested) (hstop.trans hstopped) hl hs
      refine ⟨?_, hlt⟩
      rw [hstop', hrequest', hinputs, htasks, hstop, hrequest, hstopped, hrequested]
  simp only [Prod.mk.injEq] at hkept
  obtain ⟨hstopped', -, hinputs, htasks⟩ := hkept
  obtain ⟨hended, horder⟩ := hrest hreach (hstopped'.trans hstopped) hquiet
  exact ⟨s', hleads, hreach, hended, hinputs, htasks, horder⟩

/-- The thread has one message in its buffer when the stop is requested, and the queue has
another one. -/
theorem loop_ends_buffered :
    let json := JsonNetworkCodec.libraryFor (.writeChat ⟨"hi"⟩) JsonNetworkCodec.writeChatText
    ∃ s, (messageLoops (jsonNetworkCodec json)).Reachable Lts.anyStep s ∧ s.stage = .ended ∧
      s.processor.handled = [(2, .writeChat ⟨"hi"⟩)] := by
  intro json
  have hstart : (messageLoops (jsonNetworkCodec json)).Reachable Lts.anyStep {} := .start rfl
  obtain ⟨s, hreach, hrequested, htasks, hinputs⟩ := hstart.exists_of_exec
    [.enqueue 2 JsonNetworkCodec.writeChatText, .enqueue 3 JsonNetworkCodec.writeChatText,
      .emplace 0, .notifyOne, .advance, .advance, .emplace 0, .stop, .notifyAll, .requestStop]
    (fun s => s.stopRequested = true ∧
      s.processor.tasks.filterMap (jsonNetworkCodec json).message
        = [(3, .writeChat ⟨"hi"⟩)] ∧
      s.processor.inputs.filterMap (jsonNetworkCodec json).receive
        = [(2, .writeChat ⟨"hi"⟩), (3, .writeChat ⟨"hi"⟩)]) (by decide)
  obtain ⟨-, -, s', -, hreach', hstage, hinputs', htasks', hhandled⟩ :=
    loop_ends hreach hrequested
  refine ⟨s', hreach', hstage, ?_⟩
  rw [hinputs', htasks', hinputs, htasks] at hhandled
  have hsplit : s'.processor.handled ++ [(3, .writeChat ⟨"hi"⟩)]
      = [(2, .writeChat ⟨"hi"⟩)] ++ [(3, .writeChat ⟨"hi"⟩)] := hhandled
  exact List.append_cancel_right hsplit

end MessageLoop

end ChatCore.Network
