import ChatCore.Network.RpcSystem
import Mathlib.Data.List.Basic

/-!
# `ChatCore.Proofs.RpcSteps`: what a step of the remote calls can do

`Transition` lists the steps of `RpcSystem` with their guards. `Matched` says where the pieces of
a state come from: a slot and a timeout task belong to a prepared call, and the outcome that
`HandleCallback` carries is one that its call accepts. The slots check the connection and the
request id before `HandleCallback`, and the type of the message is the type of the signal.
-/

set_option autoImplicit false

namespace ChatCore.Network

open ChatCore.Lib
open ChatCore.Scheduling (SchedulingOp SchedulingSystem)

variable {Kind Message : Type} {api : RpcApi Kind Message}

/-- The outcome is one that the call may be completed with. -/
def RpcCallBuilder.Accepts (api : RpcApi Kind Message) (received : List (Nat × Message))
    (call : RpcCallBuilder Kind) : Outcome Message → Prop
  | .answered answer connectionId message =>
    api.kind message = call.answerType answer ∧
    api.requestId message = some call.requestId ∧
    connectionId = call.connectionId ∧ (connectionId, message) ∈ received
  | .timedOut => call.timeoutDuration.isSome = true

/-- A call accepts what it accepted before more messages were received. -/
theorem RpcCallBuilder.Accepts.mono {received received' : List (Nat × Message)}
    {call : RpcCallBuilder Kind} {outcome : Outcome Message} (hsub : received ⊆ received')
    (h : call.Accepts api received outcome) : call.Accepts api received' outcome := by
  cases outcome with
  | answered answer connectionId message =>
    obtain ⟨hkind, hrequest, hconnection, hreceived⟩ := h
    exact ⟨hkind, hrequest, hconnection, hsub hreceived⟩
  | timedOut => exact h

namespace RpcSystem

variable {s s' : RpcSystem Kind Message}

/-- What `HandleCallback` leaves alone. -/
structure HandleFrame (s : RpcSystem Kind Message) (thread : CallbackThread)
    (h : Handling Kind Message) (s' : RpcSystem Kind Message) : Prop where
  nextId : s'.nextId = s.nextId
  prepared : s'.prepared = s.prepared
  received : s'.received = s.received
  emissions : s'.emissions = s.emissions
  timeoutTasks : s'.timeoutTasks = s.timeoutTasks
  slots : s'.slots ⊆ s.slots
  other : ∀ t, t ≠ thread → s'.handling t = s.handling t
  own : ∀ h', s'.handling thread = some h' → h'.call = h.call ∧ h'.outcome = h.outcome
  invoked : s'.invoked = s.invoked ∨ s'.invoked = s.invoked ++ [⟨h.call, h.outcome⟩]

/-- Where the pieces of the system come from. -/
structure Matched (api : RpcApi Kind Message) (s : RpcSystem Kind Message) : Prop where
  nextId : s.nextId = s.prepared.length + 1
  requestId : ∀ k builder, s.prepared[k]? = some builder → builder.requestId = k + 1
  emissions : ∀ e ∈ s.emissions, (e.connectionId, e.message) ∈ s.received
  slots : ∀ slot ∈ s.slots, ∀ k answer, slot.owner = some (k, answer) →
    ∃ builder, s.prepared[k]? = some builder ∧
      slot.subscription.type = builder.answerType answer
  timeoutTasks : ∀ task k, s.timeoutTasks task = some k →
    ∃ builder, s.prepared[k]? = some builder ∧ builder.timeoutDuration.isSome = true
  handling : ∀ thread h, s.handling thread = some h →
    ∃ builder, s.prepared[h.call]? = some builder ∧ builder.Accepts api s.received h.outcome
  invoked : ∀ i ∈ s.invoked,
    ∃ builder, s.prepared[i.call]? = some builder ∧ builder.Accepts api s.received i.outcome

/-- A call that is prepared stays so when others are added. -/
theorem exists_prepared_append {k : Nat} {p : RpcCallBuilder Kind → Prop}
    (added : RpcCallBuilder Kind) (h : ∃ builder, s.prepared[k]? = some builder ∧ p builder) :
    ∃ builder, (s.prepared ++ [added])[k]? = some builder ∧ p builder := by
  obtain ⟨builder, hk, hp⟩ := h
  obtain ⟨hlt, -⟩ := List.getElem?_eq_some_iff.mp hk
  exact ⟨builder, by rw [List.getElem?_append_left hlt, hk], hp⟩

/-- `Prepare` of a call with the next id. -/
theorem Matched.prepare {builder : RpcCallBuilder Kind} (h : Matched api s)
    (hid : builder.requestId = s.nextId) :
    Matched api { s with nextId := s.nextId + 1, prepared := s.prepared ++ [builder] } where
  nextId := by
    show s.nextId + 1 = (s.prepared ++ [builder]).length + 1
    rw [h.nextId, List.length_append, List.length_singleton]
  requestId k call hk := by
    rw [List.getElem?_append] at hk
    split at hk
    · exact h.requestId k call hk
    -- The new call is the last one, and its id is the counter.
    · obtain ⟨hlt, rfl⟩ := List.getElem?_eq_some_iff.mp hk
      rw [List.getElem_singleton, hid, h.nextId]
      simp only [List.length_singleton] at hlt
      omega
  emissions := h.emissions
  slots slot hslot k answer howner :=
    exists_prepared_append builder (h.slots slot hslot k answer howner)
  timeoutTasks task k htask := exists_prepared_append builder (h.timeoutTasks task k htask)
  handling thread h' hthread := exists_prepared_append builder (h.handling thread h' hthread)
  invoked i hi := exists_prepared_append builder (h.invoked i hi)

/-- A message is received, and its emission begins. -/
theorem Matched.emit {connectionId : Nat} {message : Message} {buffer : List Nat}
    (h : Matched api s) : Matched api { s with
      emissions := s.emissions ++ [⟨connectionId, message, buffer⟩]
      received := s.received ++ [(connectionId, message)] } where
  nextId := h.nextId
  requestId := h.requestId
  emissions e he := by
    rcases List.mem_append.mp he with he | he
    · exact List.mem_append_left _ (h.emissions e he)
    · obtain rfl := List.mem_singleton.mp he
      exact List.mem_append_right _ (List.mem_singleton.mpr rfl)
  slots := h.slots
  timeoutTasks := h.timeoutTasks
  handling thread h' hthread := by
    obtain ⟨builder, hk, haccepts⟩ := h.handling thread h' hthread
    exact ⟨builder, hk, haccepts.mono (List.subset_append_left _ _)⟩
  invoked i hi := by
    obtain ⟨builder, hk, haccepts⟩ := h.invoked i hi
    exact ⟨builder, hk, haccepts.mono (List.subset_append_left _ _)⟩

/-- What remains of the state does not matter. -/
theorem Matched.setStage (h : Matched api s) (k : Nat) (stage : CallStage Kind) :
    Matched api (s.setStage k stage) :=
  ⟨h.nextId, h.requestId, h.emissions, h.slots, h.timeoutTasks, h.handling, h.invoked⟩

/-- The callback of a thread changes to one whose outcome its call accepts, or ends. -/
theorem Matched.setHandling {thread : CallbackThread} {new : Option (Handling Kind Message)}
    (h : Matched api s) (hnew : ∀ h', new = some h' →
      ∃ builder, s.prepared[h'.call]? = some builder ∧ builder.Accepts api s.received h'.outcome) :
    Matched api (s.setHandling thread new) where
  nextId := h.nextId
  requestId := h.requestId
  emissions := h.emissions
  slots := h.slots
  timeoutTasks := h.timeoutTasks
  handling t h' ht := by
    simp only [RpcSystem.setHandling, Function.update_apply] at ht
    split at ht
    · exact hnew h' ht
    · exact h.handling t h' ht
  invoked := h.invoked

/-- An emission loses slots of its buffer. -/
theorem Matched.setEmission {i : Nat} {emission : Emission Message} (buffer : List Nat)
    (h : Matched api s) (hi : s.emissions[i]? = some emission) :
    Matched api { s with emissions := s.emissions.set i { emission with buffer := buffer } } where
  nextId := h.nextId
  requestId := h.requestId
  emissions e he := by
    rcases List.mem_or_eq_of_mem_set he with he | rfl
    · exact h.emissions e he
    · exact h.emissions emission (List.mem_of_getElem? hi)
  slots := h.slots
  timeoutTasks := h.timeoutTasks
  handling := h.handling
  invoked := h.invoked

/-- A step of `HandleCallback`, by what it leaves alone. -/
theorem Matched.handle {thread : CallbackThread} {h : Handling Kind Message} (hs : Matched api s)
    (hthread : s.handling thread = some h) (hframe : HandleFrame s thread h s') :
    Matched api s' where
  nextId := by rw [hframe.nextId, hframe.prepared]; exact hs.nextId
  requestId := by rw [hframe.prepared]; exact hs.requestId
  emissions := by rw [hframe.emissions, hframe.received]; exact hs.emissions
  slots slot hslot := by rw [hframe.prepared]; exact hs.slots slot (hframe.slots hslot)
  timeoutTasks := by rw [hframe.timeoutTasks, hframe.prepared]; exact hs.timeoutTasks
  handling t h' ht := by
    rw [hframe.prepared, hframe.received]
    by_cases heq : t = thread
    · subst heq
      obtain ⟨hcall, houtcome⟩ := hframe.own h' ht
      rw [hcall, houtcome]
      exact hs.handling t h hthread
    · rw [hframe.other t heq] at ht
      exact hs.handling t h' ht
  invoked i hi := by
    rw [hframe.prepared, hframe.received]
    rcases hframe.invoked with hinvoked | hinvoked <;> rw [hinvoked] at hi
    · exact hs.invoked i hi
    · rcases List.mem_append.mp hi with hi | hi
      · exact hs.invoked i hi
      -- The thread invokes what it was entered with.
      · obtain rfl := List.mem_singleton.mp hi
        exact hs.handling thread h hthread

/-- The thread goes on with the same call and outcome. -/
theorem own_setHandling {thread : CallbackThread} {h h' : Handling Kind Message}
    {stage : HandleStage Kind}
    (hh' : (s.setHandling thread (some { h with stage := stage })).handling thread = some h') :
    h'.call = h.call ∧ h'.outcome = h.outcome := by
  simp only [RpcSystem.setHandling, Function.update_self] at hh'
  cases hh'
  exact ⟨rfl, rfl⟩

variable [DecidableEq Kind]

/-- A subscription of the type that its call waits for. -/
theorem Matched.subscribe {type : Kind} {owner : Option (Nat × Answer)} (h : Matched api s)
    (howner : ∀ k answer, owner = some (k, answer) →
      ∃ builder, s.prepared[k]? = some builder ∧ type = builder.answerType answer) :
    Matched api (s.subscribe type owner) where
  nextId := h.nextId
  requestId := h.requestId
  emissions := h.emissions
  slots slot hslot := by
    rcases List.mem_append.mp hslot with hslot | hslot
    · exact h.slots slot hslot
    · obtain rfl := List.mem_singleton.mp hslot
      exact howner
  timeoutTasks := h.timeoutTasks
  handling := h.handling
  invoked := h.invoked

/-- What a step of `HandleCallback` can do, with the guards of the source. -/
inductive HandleStep (s : RpcSystem Kind Message) (thread : CallbackThread)
    (h : Handling Kind Message) (builder : RpcCallBuilder Kind) : RpcSystem Kind Message → Prop
  | absent (hstage : h.stage = .entered) (hentry : s.calls builder.requestId = none) :
      HandleStep s thread h builder (s.setHandling thread none)
  | erase {entry : RpcPendingCall Kind} (hstage : h.stage = .entered)
      (hentry : s.calls builder.requestId = some entry) :
      HandleStep s thread h builder ({ s with
        calls := Function.update s.calls builder.requestId none }.setHandling thread
          (some { h with stage := .erased entry }))
  | unsubscribeError {entry : RpcPendingCall Kind} (hstage : h.stage = .erased entry) :
      HandleStep s thread h builder ((s.unsubscribe entry.errorSubscription).setHandling thread
        (some { h with stage := .erasedError entry.successSubscription }))
  | unsubscribeSuccess {success : Subscription Kind} (hstage : h.stage = .erasedError success) :
      HandleStep s thread h builder ((s.unsubscribe success).setHandling thread
        (some { h with stage := .cancelling }))
  | noTimeout (hstage : h.stage = .cancelling) (htimeout : s.timeouts builder.requestId = none) :
      HandleStep s thread h builder
        (s.setHandling thread (some { h with stage := .finishing }))
  | takeTimeout {task : Nat} (hstage : h.stage = .cancelling)
      (htimeout : s.timeouts builder.requestId = some task) :
      HandleStep s thread h builder ({ s with
        timeouts := Function.update s.timeouts builder.requestId none }.setHandling thread
          (some { h with stage := .removing task }))
  | removeTask {task : Nat} {scheduler : SchedulingSystem} (hstage : h.stage = .removing task)
      (hscheduler : s.scheduler.step (.erase task (thread = .scheduler)) = some scheduler) :
      HandleStep s thread h builder ({ s with scheduler := scheduler }.setHandling thread
        (some { h with stage := .notifying task }))
  | removed {task : Nat} (hstage : h.stage = .notifying task)
      (hreturned : ⟨task, thread = .scheduler⟩ ∉ s.scheduler.removing) :
      HandleStep s thread h builder
        (s.setHandling thread (some { h with stage := .finishing }))
  | callback (hstage : h.stage = .finishing) (hcallback : builder.hasCallback h.outcome = true) :
      HandleStep s thread h builder { s.setHandling thread none with
        invoked := s.invoked ++ [⟨h.call, h.outcome⟩] }
  | noCallback (hstage : h.stage = .finishing)
      (hcallback : builder.hasCallback h.outcome = false) :
      HandleStep s thread h builder (s.setHandling thread none)

/-- A step of `HandleCallback` is one of `HandleStep`. -/
theorem handleStep_of_handle {thread : CallbackThread} {h : Handling Kind Message}
    {builder : RpcCallBuilder Kind} (hs' : s.handle thread h builder = some s') :
    HandleStep s thread h builder s' := by
  unfold RpcSystem.handle at hs'
  split at hs'
  · rename_i hstage
    split at hs'
    · rename_i hentry
      cases hs'
      exact .absent hstage hentry
    · rename_i entry hentry
      cases hs'
      exact .erase hstage hentry
  · rename_i entry hstage
    cases hs'
    exact .unsubscribeError hstage
  · rename_i success hstage
    cases hs'
    exact .unsubscribeSuccess hstage
  · rename_i hstage
    split at hs'
    · rename_i htimeout
      cases hs'
      exact .noTimeout hstage htimeout
    · rename_i task htimeout
      cases hs'
      exact .takeTimeout hstage htimeout
  · rename_i task hstage
    obtain ⟨scheduler, hscheduler, hs'⟩ := Option.map_eq_some_iff.mp hs'
    cases hs'
    exact .removeTask hstage hscheduler
  · rename_i task hstage
    split at hs'
    · cases hs'
    · rename_i hreturned
      cases hs'
      exact .removed hstage hreturned
  · rename_i hstage
    split at hs'
    · rename_i hcallback
      cases hs'
      exact .callback hstage hcallback
    · rename_i hcallback
      cases hs'
      exact .noCallback hstage (Bool.not_eq_true _ ▸ hcallback)

/-- What one step can do, with the guards of the source. -/
inductive Transition (api : RpcApi Kind Message) (s : RpcSystem Kind Message) :
    RpcSystem Kind Message → Prop
  | prepare {type : Kind} {builder : RpcCallBuilder Kind} (hid : builder.requestId = s.nextId)
      (hresponse : api.response type = some builder.responseType)
      (herror : api.error type = some builder.errorType) :
      Transition api s
        { s with nextId := s.nextId + 1, prepared := s.prepared ++ [builder] }
  | subscribeSuccess {k : Nat} {builder : RpcCallBuilder Kind}
      (hk : s.prepared[k]? = some builder) (hstage : s.stage k = .prepared) :
      Transition api s ((s.subscribe builder.responseType (some (k, .success))).setStage k
        (.successSubscribed ⟨builder.responseType, s.idCounter builder.responseType⟩))
  | subscribeError {k : Nat} {builder : RpcCallBuilder Kind} {success : Subscription Kind}
      (hk : s.prepared[k]? = some builder) (hstage : s.stage k = .successSubscribed success) :
      Transition api s ((s.subscribe builder.errorType (some (k, .error))).setStage k
        (.subscribed success ⟨builder.errorType, s.idCounter builder.errorType⟩))
  | emplace {k : Nat} {builder : RpcCallBuilder Kind} {success error : Subscription Kind}
      (hk : s.prepared[k]? = some builder) (hstage : s.stage k = .subscribed success error) :
      Transition api s ((s.emplace builder.requestId ⟨success, error⟩).setStage k .emplaced)
  | schedule {k : Nat} {builder : RpcCallBuilder Kind} {duration : Int} {byCallback : Bool}
      {scheduler : SchedulingSystem} (hk : s.prepared[k]? = some builder)
      (hstage : s.stage k = .emplaced) (hduration : builder.timeoutDuration = some duration)
      (hscheduler : s.scheduler.step (.addTask duration true byCallback) = some scheduler) :
      Transition api s ({ s with
        scheduler := scheduler
        timeoutTasks := Function.update s.timeoutTasks s.scheduler.nextId (some k) }.setStage k
          (.scheduling s.scheduler.nextId))
  | record {k task : Nat} {builder : RpcCallBuilder Kind} (hk : s.prepared[k]? = some builder)
      (hstage : s.stage k = .scheduling task) (htask : task ∈ s.scheduler.handles) :
      Transition api s ({ s with
        timeouts := Function.update s.timeouts builder.requestId (some task) }.setStage k .scheduled)
  | send {k : Nat} {builder : RpcCallBuilder Kind} (hk : s.prepared[k]? = some builder)
      (hstage : s.stage k = .emplaced ∧ builder.timeoutDuration = none ∨ s.stage k = .scheduled) :
      Transition api s (s.setStage k .returned)
  | subscribe (type : Kind) : Transition api s (s.subscribe type none)
  | unsubscribe {i : Nat} {subscription : Subscription Kind}
      (hi : s.slots[i]? = some ⟨subscription, none⟩) :
      Transition api s { s with slots := s.slots.eraseIdx i }
  | emit {connectionId : Nat} {message : Message} {buffer : List Nat} :
      Transition api s { s with
        emissions := s.emissions ++ [⟨connectionId, message, buffer⟩]
        received := s.received ++ [(connectionId, message)] }
  | skip {i : Nat} {emission : Emission Message} {buffer : List Nat}
      (hi : s.emissions[i]? = some emission) :
      Transition api s { s with emissions := s.emissions.set i { emission with buffer := buffer } }
  | answer {i k : Nat} {emission : Emission Message} {buffer : List Nat} {slot : Slot Kind}
      {answer : Answer} {builder : RpcCallBuilder Kind}
      (hi : s.emissions[i]? = some emission) (hidle : s.handling (.emission i) = none)
      (hslot : slot ∈ s.slots) (htype : slot.subscription.type = api.kind emission.message)
      (howner : slot.owner = some (k, answer)) (hk : s.prepared[k]? = some builder)
      (hconnection : builder.connectionId = emission.connectionId)
      (hrequest : api.requestId emission.message = some builder.requestId) :
      Transition api s ({ s with
        emissions := s.emissions.set i { emission with buffer := buffer } }.setHandling (.emission i)
          (some ⟨k, .answered answer emission.connectionId emission.message, .entered⟩))
  | handle {thread : CallbackThread} {h : Handling Kind Message} {builder : RpcCallBuilder Kind}
      {t : RpcSystem Kind Message} (hthread : s.handling thread = some h)
      (hk : s.prepared[h.call]? = some builder) (ht : HandleStep s thread h builder t) :
      Transition api s t
  | schedulerStep {op : SchedulingOp} {scheduler : SchedulingSystem}
      (hscheduler : s.scheduler.step op = some scheduler) :
      Transition api s { s with scheduler := scheduler }
  | timeout {i task k : Nat} {scheduler : SchedulingSystem}
      (hscheduler : s.scheduler.step (.call i) = some scheduler)
      (hidle : s.handling .scheduler = none) (hrunning : scheduler.thread.running = some task)
      (htask : s.timeoutTasks task = some k) :
      Transition api s ({ s with scheduler := scheduler }.setHandling .scheduler
        (some ⟨k, .timedOut, .entered⟩))

/-- A delivery to a slot, of an emission that no callback holds up. -/
theorem transition_of_deliver {i : Nat} {emission : Emission Message} {buffer : List Nat} (id : Nat)
    (hi : s.emissions[i]? = some emission) (hidle : s.handling (.emission i) = none) :
    Transition api s (RpcSystem.deliver api { s with
      emissions := s.emissions.set i { emission with buffer := buffer } } i emission id) := by
  unfold RpcSystem.deliver
  -- The slot is gone, it belongs to no call, or its checks fail: nothing happens.
  split
  · exact .skip hi
  · rename_i slot hfind
    have hslot : slot ∈ s.slots := List.mem_of_find?_eq_some hfind
    have hsub : slot.subscription = ⟨api.kind emission.message, id⟩ := by
      simpa using List.find?_some hfind
    split
    · exact .skip hi
    · rename_i k answer howner
      unfold runSlot
      split
      · exact .skip hi
      · rename_i builder hk
        split
        · exact .skip hi
        · rename_i hconnection
          split
          · exact .skip hi
          · rename_i hrequest
            exact .answer hi hidle hslot (by rw [hsub]) howner hk (not_not.mp hconnection)
              (not_not.mp hrequest)

/-- Every step is a transition. -/
theorem transition_of_step {op : RpcOp Kind Message} (h : s.step api op = some s') :
    Transition api s s' := by
  cases op with
  | prepare type connectionId callback errorCallback timeoutCallback timeoutDuration =>
    simp only [step, RpcSystem.prepare, Option.bind_eq_bind, Option.bind_eq_some_iff] at h
    obtain ⟨responseType, hresponse, errorType, herror, h⟩ := h
    cases h
    exact .prepare rfl hresponse herror
  | subscribeSuccess k =>
    simp only [step] at h
    split at h
    · rename_i hk hstage
      cases h
      exact .subscribeSuccess hk hstage
    · cases h
  | subscribeError k =>
    simp only [step] at h
    split at h
    · rename_i hk hstage
      cases h
      exact .subscribeError hk hstage
    · cases h
  | emplace k =>
    simp only [step] at h
    split at h
    · rename_i hk hstage
      cases h
      exact .emplace hk hstage
    · cases h
  | schedule k byCallback =>
    simp only [step] at h
    split at h
    · rename_i hk hstage
      obtain ⟨duration, hduration, h⟩ := Option.bind_eq_some_iff.mp h
      obtain ⟨scheduler, hscheduler, h⟩ := Option.map_eq_some_iff.mp h
      cases h
      exact .schedule hk hstage hduration hscheduler
    · cases h
  | record k =>
    simp only [step] at h
    split at h
    · rename_i hk hstage
      split at h
      · rename_i htask
        cases h
        exact .record hk hstage htask
      · cases h
    · cases h
  | send k =>
    simp only [step] at h
    split at h
    -- Without a timeout the request is sent right after the locked section.
    · rename_i builder hk hstage
      split at h
      · rename_i htimeout
        cases h
        exact .send hk (.inl ⟨hstage, Option.isNone_iff_eq_none.mp htimeout⟩)
      · cases h
    · rename_i hk hstage
      cases h
      exact .send hk (.inr hstage)
    · cases h
  | subscribe type =>
    cases h
    exact .subscribe type
  | unsubscribe i =>
    simp only [step] at h
    split at h
    · rename_i hi
      cases h
      exact .unsubscribe hi
    · cases h
  | emit connectionId message =>
    cases h
    exact .emit
  | deliver i j =>
    simp only [step] at h
    split at h
    · rename_i emission hidle hi
      obtain ⟨id, -, h⟩ := Option.map_eq_some_iff.mp h
      cases h
      exact transition_of_deliver id hi hidle
    · cases h
  | handle thread =>
    simp only [step] at h
    split at h
    · cases h
    · rename_i handling hthread
      obtain ⟨builder, hk, h⟩ := Option.bind_eq_some_iff.mp h
      exact .handle hthread hk (handleStep_of_handle h)
  | schedulerStep op =>
    simp only [step] at h
    split at h
    · cases h
    · rename_i hwait
      obtain ⟨scheduler, hscheduler, h⟩ := Option.map_eq_some_iff.mp h
      -- Only the call of a task can enter `HandleCallback`, for a timeout.
      cases op with
      | call i =>
        have hidle : s.handling .scheduler = none := by
          simpa [ofSchedulerThread] using hwait
        simp only [runTimeout] at h
        split at h
        · cases h
          exact .schedulerStep hscheduler
        · rename_i k hcall
          obtain ⟨task, hrunning, htask⟩ := Option.bind_eq_some_iff.mp hcall
          cases h
          exact .timeout hscheduler hidle hrunning htask
      | _ =>
        cases h
        exact .schedulerStep hscheduler

/-- Every step of `HandleCallback` leaves alone what `HandleFrame` lists. -/
theorem handleFrame {thread : CallbackThread} {h : Handling Kind Message}
    {builder : RpcCallBuilder Kind} (hs' : HandleStep s thread h builder s') :
    HandleFrame s thread h s' := by
  have hnone : ∀ h', Function.update s.handling thread none thread = some h' →
      h'.call = h.call ∧ h'.outcome = h.outcome := by
    intro h' hh'
    rw [Function.update_self] at hh'
    cases hh'
  cases hs' with
  | absent _ _ | noCallback _ _ =>
    exact ⟨rfl, rfl, rfl, rfl, rfl, List.Subset.refl _, fun t ht => Function.update_of_ne ht _ _,
      hnone, .inl rfl⟩
  | callback _ _ =>
    exact ⟨rfl, rfl, rfl, rfl, rfl, List.Subset.refl _, fun t ht => Function.update_of_ne ht _ _,
      hnone, .inr rfl⟩
  | unsubscribeError _ | unsubscribeSuccess _ =>
    exact ⟨rfl, rfl, rfl, rfl, rfl, List.filter_subset_self _,
      fun t ht => Function.update_of_ne ht _ _, fun _ => own_setHandling, .inl rfl⟩
  | erase _ _ | noTimeout _ _ | takeTimeout _ _ | removeTask _ _ | removed _ _ =>
    exact ⟨rfl, rfl, rfl, rfl, rfl, List.Subset.refl _, fun t ht => Function.update_of_ne ht _ _,
      fun _ => own_setHandling, .inl rfl⟩

/-- A call is stored in `calls_`. -/
theorem Matched.emplace {requestId : Nat} {entry : RpcPendingCall Kind} (h : Matched api s) :
    Matched api (s.emplace requestId entry) := by
  unfold RpcSystem.emplace
  split
  · exact ⟨h.nextId, h.requestId, h.emissions, h.slots, h.timeoutTasks, h.handling, h.invoked⟩
  · refine ⟨h.nextId, h.requestId, h.emissions, fun slot hslot => ?_, h.timeoutTasks, h.handling,
      h.invoked⟩
    exact h.slots slot (List.mem_of_mem_filter (List.mem_of_mem_filter hslot))

/-- Every transition keeps `Matched`. -/
theorem Matched.transition (h : Matched api s) (ht : Transition api s s') : Matched api s' := by
  cases ht with
  | prepare hid _ _ => exact h.prepare hid
  | subscribeSuccess hk _ =>
    refine (h.subscribe fun k answer howner => ?_).setStage _ _
    cases howner
    exact ⟨_, hk, rfl⟩
  | subscribeError hk _ =>
    refine (h.subscribe fun k answer howner => ?_).setStage _ _
    cases howner
    exact ⟨_, hk, rfl⟩
  | emplace _ _ => exact h.emplace.setStage _ _
  | schedule hk _ hduration _ =>
    refine ⟨h.nextId, h.requestId, h.emissions, h.slots, fun task k htask => ?_, h.handling,
      h.invoked⟩
    simp only [RpcSystem.setStage, Function.update_apply] at htask
    split at htask
    · -- The new task captures this call.
      cases htask
      exact ⟨_, hk, by rw [hduration]; rfl⟩
    · exact h.timeoutTasks task k htask
  | record _ _ _ =>
    exact ⟨h.nextId, h.requestId, h.emissions, h.slots, h.timeoutTasks, h.handling, h.invoked⟩
  | send _ _ => exact h.setStage _ _
  | subscribe type => exact h.subscribe fun _ _ howner => nomatch howner
  | unsubscribe _ =>
    exact ⟨h.nextId, h.requestId, h.emissions,
      fun slot hslot => h.slots slot (List.mem_of_mem_eraseIdx hslot), h.timeoutTasks, h.handling,
      h.invoked⟩
  | emit => exact h.emit
  | skip hi => exact h.setEmission _ hi
  | answer hi _ hslot htype howner hk hconnection hrequest =>
    refine (h.setEmission _ hi).setHandling fun h' hh' => ?_
    cases hh'
    -- The slot is in the signal of the type of the message, and `Call` put it there.
    obtain ⟨call, hcall, hanswer⟩ := h.slots _ hslot _ _ howner
    obtain rfl : _ = call := Option.some.inj (hk.symm.trans hcall)
    exact ⟨_, hk, htype.symm.trans hanswer, hrequest, hconnection.symm,
      h.emissions _ (List.mem_of_getElem? hi)⟩
  | handle hthread _ ht => exact h.handle hthread (handleFrame ht)
  | schedulerStep _ =>
    exact ⟨h.nextId, h.requestId, h.emissions, h.slots, h.timeoutTasks, h.handling, h.invoked⟩
  | timeout _ _ _ htask =>
    -- The callback of the task captures a call that was prepared with a timeout.
    refine Matched.setHandling (s := { s with scheduler := _ })
      ⟨h.nextId, h.requestId, h.emissions, h.slots, h.timeoutTasks, h.handling, h.invoked⟩
      fun h' hh' => ?_
    cases hh'
    exact h.timeoutTasks _ _ htask

end RpcSystem

end ChatCore.Network
