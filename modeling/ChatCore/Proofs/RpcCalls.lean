import ChatCore.Proofs.RpcSteps
import Mathlib.Data.List.Nodup

/-!
# `ChatCore.Proofs.RpcCalls`: a call completes at most once, and with its own answer

The success slot, the error slot and the timeout task of a call all end in `HandleCallback`, on
any threads. Each call is in one `Phase`, which says who answers for it: `Call` until the locked
section, then the entry of `calls_`, then the one `HandleCallback` that took the entry, then
nobody. A call leaves a phase once and never returns to it. `Tracked` ties the phases to the
state: whoever answers for a call also holds its subscriptions. So when a callback has been
invoked, nobody answers for the call, and no slot of it is left.
-/

set_option autoImplicit false

namespace ChatCore.Network

open ChatCore.Api (Message MessageType)
open ChatCore.Lib

variable {Kind Message : Type} {api : RpcApi Kind Message}

/-- `Call` has passed the locked section. -/
def CallStage.registered : CallStage Kind → Bool
  | .prepared | .successSubscribed _ | .subscribed _ _ => false
  | .emplaced | .scheduling _ | .scheduled | .returned => true

/-- The subscriptions in the local variables of `Call`. -/
def CallStage.subscriptions : CallStage Kind → List (Subscription Kind)
  | .successSubscribed success => [success]
  | .subscribed success error => [success, error]
  | _ => []

def RpcPendingCall.subscriptions (entry : RpcPendingCall Kind) : List (Subscription Kind) :=
  [entry.successSubscription, entry.errorSubscription]

/-- `HandleCallback` has found the entry. -/
def HandleStage.claims : HandleStage Kind → Bool
  | .entered => false
  | _ => true

/-- The subscriptions whose destructor is still to run in `HandleCallback`. -/
def HandleStage.subscriptions : HandleStage Kind → List (Subscription Kind)
  | .erased entry => entry.subscriptions
  | .erasedError success => [success]
  | _ => []

/-- A call that is registered holds no subscription in local variables. -/
theorem CallStage.subscriptions_of_registered {stage : CallStage Kind}
    (h : stage.registered = true) : stage.subscriptions = [] := by
  cases stage <;> first | rfl | cases h

namespace RpcSystem

variable {s s' : RpcSystem Kind Message}

/-- Who answers for a call: `Call` before the locked section, the entry of `calls_`, the
`HandleCallback` that has taken the entry, or nobody any more. -/
inductive Phase where
  | unregistered
  | pending
  | claimed (thread : CallbackThread)
  | finished

/-- The party that answers for the call holds the subscription. -/
def Held (s : RpcSystem Kind Message) (k : Nat) (subscription : Subscription Kind) : Phase → Prop
  | .unregistered => subscription ∈ (s.stage k).subscriptions
  | .pending => ∃ entry, s.calls (k + 1) = some entry ∧ subscription ∈ entry.subscriptions
  | .claimed thread => ∃ h, s.handling thread = some h ∧ subscription ∈ h.stage.subscriptions
  | .finished => False

/-- A subscription stays held when its holder keeps it. -/
theorem Held.imp {k : Nat} {subscription : Subscription Kind} {phase : Phase}
    (h : Held s k subscription phase)
    (hstage : subscription ∈ (s.stage k).subscriptions →
      subscription ∈ (s'.stage k).subscriptions)
    (hcalls : phase = .pending → s'.calls (k + 1) = s.calls (k + 1))
    (hhandling : ∀ thread h', s.handling thread = some h' →
      subscription ∈ h'.stage.subscriptions →
      ∃ h'', s'.handling thread = some h'' ∧ subscription ∈ h''.stage.subscriptions) :
    Held s' k subscription phase := by
  cases phase with
  | unregistered => exact hstage h
  | pending =>
    obtain ⟨entry, hentry, hmem⟩ := h
    exact ⟨entry, (hcalls rfl).trans hentry, hmem⟩
  | claimed thread =>
    obtain ⟨h', hthread, hmem⟩ := h
    exact hhandling thread h' hthread hmem
  | finished => exact h

/-- The state agrees with the phases of the calls. The phase of a call is a function, so no two
parties answer for one call. -/
structure Tracked (s : RpcSystem Kind Message) (phase : Nat → Phase) : Prop where
  stage : ∀ k, (s.stage k).registered = false → phase k = .unregistered
  calls : ∀ k, (s.calls (k + 1)).isSome = true → phase k = .pending
  handling : ∀ thread h, s.handling thread = some h → h.stage.claims = true →
    phase h.call = .claimed thread
  invoked : ∀ i ∈ s.invoked, phase i.call = .finished
  nodup : (s.invoked.map (·.call)).Nodup
  slots : ∀ slot ∈ s.slots, ∀ k answer, slot.owner = some (k, answer) →
    Held s k slot.subscription (phase k)

variable {phase : Nat → Phase} {k : Nat} {thread : CallbackThread} {h : Handling Kind Message}

/-- A step that adds no slot of a call and leaves the rest alone. -/
theorem Tracked.frame (hs : Tracked s phase) (hstage : s'.stage = s.stage)
    (hcalls : s'.calls = s.calls) (hhandling : s'.handling = s.handling)
    (hinvoked : s'.invoked = s.invoked)
    (hslots : ∀ slot ∈ s'.slots, slot ∈ s.slots ∨ slot.owner = none) : Tracked s' phase where
  stage := by rw [hstage]; exact hs.stage
  calls := by rw [hcalls]; exact hs.calls
  handling := by rw [hhandling]; exact hs.handling
  invoked := by rw [hinvoked]; exact hs.invoked
  nodup := by rw [hinvoked]; exact hs.nodup
  slots slot hslot j answer howner := by
    rcases hslots slot hslot with hslot | hnone
    · refine (hs.slots slot hslot j answer howner).imp ?_ ?_ ?_
      · rw [hstage]
        exact id
      · rw [hcalls]
        exact fun _ => rfl
      · intro t h' ht hmem
        exact ⟨h', by rw [hhandling, ht], hmem⟩
    · rw [hnone] at howner
      cases howner

/-- `HandleCallback` moves on, is entered or returns, in the same phase. It holds on to what it
held and what still is subscribed. -/
theorem Tracked.setHandling {new : Option (Handling Kind Message)} (hs : Tracked s phase)
    (hclaims : ∀ h', new = some h' → h'.stage.claims = true → phase h'.call = .claimed thread)
    (hheld : ∀ slot ∈ s.slots, ∀ h', s.handling thread = some h' →
      slot.subscription ∈ h'.stage.subscriptions →
      ∃ h'', new = some h'' ∧ slot.subscription ∈ h''.stage.subscriptions) :
    Tracked (s.setHandling thread new) phase where
  stage := hs.stage
  calls := hs.calls
  handling t h' ht := by
    simp only [RpcSystem.setHandling, Function.update_apply] at ht
    split at ht
    · rename_i heq
      subst heq
      exact hclaims h' ht
    · exact hs.handling t h' ht
  invoked := hs.invoked
  nodup := hs.nodup
  slots slot hslot j answer howner := by
    refine (hs.slots slot hslot j answer howner).imp id (fun _ => rfl) fun t h' ht hmem => ?_
    simp only [RpcSystem.setHandling, Function.update_apply]
    split
    -- A subscription held by this thread is held by what replaces it.
    · rename_i heq
      subst heq
      exact hheld slot hslot h' ht hmem
    · exact ⟨h', ht, hmem⟩

/-- `HandleCallback` is entered on a thread that is not in it. -/
theorem Tracked.enter {j : Nat} {outcome : Outcome Message} (hs : Tracked s phase)
    (hidle : s.handling thread = none) :
    Tracked (s.setHandling thread (some ⟨j, outcome, .entered⟩)) phase := by
  refine hs.setHandling ?_ ?_
  · intro h' hh' hclaims
    cases hh'
    cases hclaims
  · intro slot _ h' ht
    rw [hidle] at ht
    cases ht

/-- `HandleCallback` goes on without subscriptions. -/
theorem Tracked.advance {stage : HandleStage Kind} (hs : Tracked s phase)
    (hthread : s.handling thread = some h) (hclaims : h.stage.claims = true)
    (hsub : h.stage.subscriptions = []) :
    Tracked (s.setHandling thread (some { h with stage := stage })) phase := by
  refine hs.setHandling ?_ ?_
  · intro h' hh' _
    cases hh'
    exact hs.handling thread h hthread hclaims
  · intro slot _ h' ht hmem
    obtain rfl : h' = h := Option.some.inj (ht.symm.trans hthread)
    rw [hsub] at hmem
    cases hmem

/-- `Call` goes on after the locked section. -/
theorem Tracked.setStage {stage : CallStage Kind} (hs : Tracked s phase)
    (hk : (s.stage k).registered = true) (hstage : stage.registered = true) :
    Tracked (s.setStage k stage) phase where
  stage j hj := by
    simp only [RpcSystem.setStage, Function.update_apply] at hj
    split at hj
    · rw [hstage] at hj
      cases hj
    · exact hs.stage j hj
  calls := hs.calls
  handling := hs.handling
  invoked := hs.invoked
  nodup := hs.nodup
  slots slot hslot j answer howner := by
    refine (hs.slots slot hslot j answer howner).imp (fun hmem => ?_) (fun _ => rfl)
      fun t h' ht hmem => ⟨h', ht, hmem⟩
    simp only [RpcSystem.setStage, Function.update_apply]
    split
    -- After the locked section `Call` holds no handle any more.
    · rename_i heq
      subst heq
      rw [CallStage.subscriptions_of_registered hk] at hmem
      cases hmem
    · exact hmem

/-- Moving one call to another phase leaves the calls in the other phases where they are. -/
theorem update_phase_of_ne {j : Nat} {p q : Phase} (hk : phase k = p) (hj : phase j ≠ p) :
    Function.update phase k q j = phase j := by
  have hne : j ≠ k := by
    rintro rfl
    exact hj hk
  exact Function.update_of_ne hne _ _

/-- `HandleCallback` takes the entry of its call. -/
theorem Tracked.erase {entry : RpcPendingCall Kind} (hs : Tracked s phase)
    (hthread : s.handling thread = some h) (hstage : h.stage = .entered)
    (hentry : s.calls (h.call + 1) = some entry) :
    Tracked ({ s with calls := Function.update s.calls (h.call + 1) none }.setHandling thread
      (some { h with stage := .erased entry })) (Function.update phase h.call (.claimed thread)) := by
  -- The entry answers for the call, so `Call` is past it and no other `HandleCallback` has it.
  have hpending : phase h.call = .pending := hs.calls h.call (by rw [hentry]; rfl)
  have hother := fun j => update_phase_of_ne (j := j) (q := .claimed thread) hpending
  refine ⟨?_, ?_, ?_, ?_, hs.nodup, ?_⟩
  · intro j hj
    have hphase := hs.stage j hj
    rw [hother j (by rw [hphase]; exact Phase.noConfusion), hphase]
  · intro j hj
    by_cases heq : j = h.call
    · subst heq
      simp [RpcSystem.setHandling] at hj
    · have hne : j + 1 ≠ h.call + 1 := by omega
      simp only [RpcSystem.setHandling, Function.update_of_ne hne] at hj
      rw [Function.update_of_ne heq]
      exact hs.calls j hj
  · intro t h' ht hclaims
    simp only [RpcSystem.setHandling, Function.update_apply] at ht
    split at ht
    · rename_i heq
      cases ht
      rw [heq, Function.update_self]
    · have hphase := hs.handling t h' ht hclaims
      rw [hother _ (by rw [hphase]; exact Phase.noConfusion), hphase]
  · intro i hi
    have hphase := hs.invoked i hi
    rw [hother _ (by rw [hphase]; exact Phase.noConfusion), hphase]
  · intro slot hslot j answer howner
    have hheld := hs.slots slot hslot j answer howner
    by_cases heq : j = h.call
    · -- The subscriptions of the entry go with it to the thread.
      subst heq
      rw [hpending] at hheld
      obtain ⟨entry', hentry', hmem⟩ := hheld
      obtain rfl : entry' = entry := Option.some.inj (hentry'.symm.trans hentry)
      rw [Function.update_self]
      exact ⟨_, Function.update_self _ _ _, hmem⟩
    · rw [Function.update_of_ne heq]
      refine hheld.imp id (fun _ => ?_) fun t h' ht hmem => ?_
      · have hne : j + 1 ≠ h.call + 1 := by omega
        exact Function.update_of_ne hne _ _
      · -- The thread itself held nothing before the lock.
        have hne : t ≠ thread := by
          rintro rfl
          obtain rfl : h' = h := Option.some.inj (ht.symm.trans hthread)
          rw [hstage] at hmem
          cases hmem
        exact ⟨h', (Function.update_of_ne hne _ _).trans ht, hmem⟩

/-- `HandleCallback` returns to its caller, after the callback if there is one. -/
theorem Tracked.finish {invoked : List (Invocation Message)} (hs : Tracked s phase)
    (hthread : s.handling thread = some h) (hstage : h.stage = .finishing)
    (hinvoked : invoked = s.invoked ∨ invoked = s.invoked ++ [⟨h.call, h.outcome⟩]) :
    Tracked { s.setHandling thread none with invoked := invoked }
      (Function.update phase h.call .finished) := by
  have hclaimed : phase h.call = .claimed thread := hs.handling thread h hthread (by rw [hstage]; rfl)
  have hother := fun j => update_phase_of_ne (j := j) (q := .finished) hclaimed
  -- The call is not finished yet, so none of its callbacks was invoked before.
  have hold : ∀ i ∈ s.invoked, Function.update phase h.call .finished i.call = .finished := by
    intro i hi
    have hphase := hs.invoked i hi
    rw [hother _ (by rw [hphase]; exact Phase.noConfusion), hphase]
  refine ⟨?_, ?_, ?_, ?_, ?_, ?_⟩
  · intro j hj
    have hphase := hs.stage j hj
    rw [hother j (by rw [hphase]; exact Phase.noConfusion), hphase]
  · intro j hj
    have hphase := hs.calls j hj
    rw [hother j (by rw [hphase]; exact Phase.noConfusion), hphase]
  · intro t h' ht hclaims
    simp only [RpcSystem.setHandling, Function.update_apply] at ht
    split at ht
    · cases ht
    · rename_i hne
      have hphase := hs.handling t h' ht hclaims
      rw [hother _ (by rw [hphase]; exact fun heq => hne (Phase.claimed.inj heq)), hphase]
  · intro i hi
    rcases hinvoked with rfl | rfl
    · exact hold i hi
    · rcases List.mem_append.mp hi with hi | hi
      · exact hold i hi
      · obtain rfl := List.mem_singleton.mp hi
        exact Function.update_self _ _ _
  · rcases hinvoked with rfl | rfl
    · exact hs.nodup
    · show (List.map Invocation.call (s.invoked ++ [⟨h.call, h.outcome⟩])).Nodup
      rw [List.map_append, List.nodup_append]
      refine ⟨hs.nodup, List.nodup_singleton _, ?_⟩
      intro a ha b hb
      obtain rfl := List.mem_singleton.mp hb
      obtain ⟨i, hi, rfl⟩ := List.mem_map.mp ha
      intro heq
      have hphase := hs.invoked i hi
      rw [heq, hclaimed] at hphase
      cases hphase
  · intro slot hslot j answer howner
    have hheld := hs.slots slot hslot j answer howner
    -- Both destructors have run, so the thread holds no subscription.
    have hnone : ∀ h', s.handling thread = some h' →
        slot.subscription ∈ h'.stage.subscriptions → False := by
      intro h' ht hmem
      obtain rfl : h' = h := Option.some.inj (ht.symm.trans hthread)
      rw [hstage] at hmem
      cases hmem
    have hne : j ≠ h.call := by
      rintro rfl
      rw [hclaimed] at hheld
      obtain ⟨h', ht, hmem⟩ := hheld
      exact hnone h' ht hmem
    rw [Function.update_of_ne hne]
    refine hheld.imp id (fun _ => rfl) fun t h' ht hmem => ?_
    have hne : t ≠ thread := by
      rintro rfl
      exact hnone h' ht hmem
    exact ⟨h', (Function.update_of_ne hne _ _).trans ht, hmem⟩

variable [DecidableEq Kind]

/-- `Call` subscribes to one of its types. -/
theorem Tracked.subscribe {type : Kind} {answer : Answer} {stage : CallStage Kind}
    (hs : Tracked s phase) (hk : (s.stage k).registered = false)
    (hsub : (s.stage k).subscriptions ⊆ stage.subscriptions)
    (hnew : ⟨type, s.idCounter type⟩ ∈ stage.subscriptions) :
    Tracked ((s.subscribe type (some (k, answer))).setStage k stage) phase := by
  have hphase : phase k = .unregistered := hs.stage k hk
  refine ⟨?_, hs.calls, hs.handling, hs.invoked, hs.nodup, ?_⟩
  · intro j hj
    simp only [RpcSystem.setStage, Function.update_apply] at hj
    split at hj
    · rename_i heq
      rw [heq, hphase]
    · exact hs.stage j hj
  · intro slot hslot j a howner
    rcases List.mem_append.mp hslot with hslot | hslot
    · refine (hs.slots slot hslot j a howner).imp (fun hmem => ?_) (fun _ => rfl)
        fun t h' ht hmem => ⟨h', ht, hmem⟩
      simp only [RpcSystem.setStage, Function.update_apply]
      split
      · rename_i heq
        subst heq
        exact hsub hmem
      · exact hmem
    · -- The new slot belongs to the handle that `Call` keeps in a local variable.
      obtain rfl := List.mem_singleton.mp hslot
      cases howner
      rw [hphase, Held]
      simp only [RpcSystem.setStage, Function.update_self]
      exact hnew

/-- The locked section of `Call`. The entry is new, since nobody else registers the call. -/
theorem Tracked.emplace {success error : Subscription Kind} (hs : Tracked s phase)
    (hstage : s.stage k = .subscribed success error) :
    Tracked ((s.emplace (k + 1) ⟨success, error⟩).setStage k .emplaced)
      (Function.update phase k .pending) := by
  have hphase : phase k = .unregistered := hs.stage k (by rw [hstage]; rfl)
  have hentry : s.calls (k + 1) = none := by
    rw [← Option.not_isSome_iff_eq_none]
    intro hsome
    rw [hs.calls k hsome] at hphase
    cases hphase
  have hother := fun j => update_phase_of_ne (j := j) (q := .pending) hphase
  simp only [RpcSystem.emplace, hentry]
  refine ⟨?_, ?_, ?_, ?_, hs.nodup, ?_⟩
  · intro j hj
    simp only [RpcSystem.setStage, Function.update_apply] at hj ⊢
    split at hj
    · cases hj
    · rename_i hne
      rw [if_neg hne]
      exact hs.stage j hj
  · intro j hj
    by_cases heq : j = k
    · rw [heq, Function.update_self]
    · have hne : j + 1 ≠ k + 1 := by omega
      simp only [RpcSystem.setStage, Function.update_of_ne hne] at hj
      rw [Function.update_of_ne heq]
      exact hs.calls j hj
  · intro t h' ht hclaims
    have hclaimed := hs.handling t h' ht hclaims
    rw [hother _ (by rw [hclaimed]; exact Phase.noConfusion), hclaimed]
  · intro i hi
    have hfinished := hs.invoked i hi
    rw [hother _ (by rw [hfinished]; exact Phase.noConfusion), hfinished]
  · intro slot hslot j answer howner
    have hheld := hs.slots slot hslot j answer howner
    by_cases heq : j = k
    · -- The handles of the local variables are now in the entry.
      subst heq
      rw [hphase, Held, hstage] at hheld
      rw [Function.update_self]
      exact ⟨_, Function.update_self _ _ _, hheld⟩
    · rw [Function.update_of_ne heq]
      refine hheld.imp (fun hmem => ?_) (fun _ => ?_) fun t h' ht hmem => ⟨h', ht, hmem⟩
      · simp only [RpcSystem.setStage, Function.update_of_ne heq]
        exact hmem
      · have hne : j + 1 ≠ k + 1 := by omega
        exact Function.update_of_ne hne _ _

/-- The destructor of an entry that `HandleCallback` has taken. -/
theorem Tracked.unsubscribe {subscription : Subscription Kind} {stage : HandleStage Kind}
    (hs : Tracked s phase) (hthread : s.handling thread = some h)
    (hclaims : h.stage.claims = true)
    (hsub : ∀ x ∈ h.stage.subscriptions, x = subscription ∨ x ∈ stage.subscriptions) :
    Tracked ((s.unsubscribe subscription).setHandling thread (some { h with stage := stage }))
      phase := by
  have hframe : Tracked (s.unsubscribe subscription) phase :=
    hs.frame rfl rfl rfl rfl fun slot hslot => .inl (List.mem_of_mem_filter hslot)
  refine hframe.setHandling ?_ ?_
  · intro h' hh' _
    cases hh'
    exact hs.handling thread h hthread hclaims
  · intro slot hslot h' ht hmem
    obtain rfl : h' = h := Option.some.inj (ht.symm.trans hthread)
    have hne : slot.subscription ≠ subscription := by
      simpa using List.of_mem_filter hslot
    exact ⟨_, rfl, (hsub _ hmem).resolve_left hne⟩

/-- Every step of `HandleCallback` keeps the phases, or moves the call on. -/
theorem Tracked.handle {builder : RpcCallBuilder Kind} (hs : Tracked s phase)
    (hthread : s.handling thread = some h) (hid : builder.requestId = h.call + 1)
    (hs' : HandleStep s thread h builder s') : ∃ phase', Tracked s' phase' := by
  cases hs' with
  | absent hstage _ =>
    refine ⟨phase, hs.setHandling (fun h' hh' => nomatch hh') fun slot _ h' ht hmem => ?_⟩
    obtain rfl : h' = h := Option.some.inj (ht.symm.trans hthread)
    rw [hstage] at hmem
    cases hmem
  | erase hstage hentry =>
    rw [hid] at hentry ⊢
    exact ⟨_, hs.erase hthread hstage hentry⟩
  -- The entry is destroyed member by member, the error subscription first.
  | unsubscribeError hstage =>
    refine ⟨phase, hs.unsubscribe hthread (by rw [hstage]; rfl) fun x hx => ?_⟩
    rw [hstage] at hx
    simpa [HandleStage.subscriptions, RpcPendingCall.subscriptions, or_comm] using hx
  | unsubscribeSuccess hstage =>
    refine ⟨phase, hs.unsubscribe hthread (by rw [hstage]; rfl) fun x hx => ?_⟩
    rw [hstage] at hx
    exact .inl (List.mem_singleton.mp hx)
  | noTimeout hstage _ | removed hstage _ =>
    exact ⟨phase, hs.advance hthread (by rw [hstage]; rfl) (by rw [hstage]; rfl)⟩
  | takeTimeout hstage _ =>
    refine ⟨phase, Tracked.advance (s := { s with timeouts := _ }) ?_ hthread
      (by rw [hstage]; rfl) (by rw [hstage]; rfl)⟩
    exact hs.frame rfl rfl rfl rfl fun _ => .inl
  | removeTask hstage _ =>
    refine ⟨phase, Tracked.advance (s := { s with scheduler := _ }) ?_ hthread
      (by rw [hstage]; rfl) (by rw [hstage]; rfl)⟩
    exact hs.frame rfl rfl rfl rfl fun _ => .inl
  | callback hstage _ => exact ⟨_, hs.finish hthread hstage (.inr rfl)⟩
  | noCallback hstage _ => exact ⟨_, hs.finish hthread hstage (.inl rfl)⟩

/-- A transition keeps the phases of the calls. -/
theorem Tracked.transition (hs : Tracked s phase) (hmatched : Matched api s)
    (ht : Transition api s s') : ∃ phase', Tracked s' phase' := by
  cases ht with
  | prepare _ _ _ => exact ⟨phase, hs.frame rfl rfl rfl rfl fun _ => .inl⟩
  | subscribeSuccess _ hstage =>
    refine ⟨phase, hs.subscribe (by rw [hstage]; rfl) ?_ (List.mem_singleton.mpr rfl)⟩
    rw [hstage]
    exact List.nil_subset _
  | subscribeError _ hstage =>
    refine ⟨phase, hs.subscribe (by rw [hstage]; rfl) ?_ ?_⟩
    · rw [hstage]
      exact List.cons_subset_cons _ (List.nil_subset _)
    · exact List.mem_cons_of_mem _ (List.mem_singleton.mpr rfl)
  | emplace hk hstage =>
    rw [hmatched.requestId _ _ hk]
    exact ⟨_, hs.emplace hstage⟩
  | schedule _ hstage _ _ =>
    refine ⟨phase, Tracked.setStage (s := { s with scheduler := _, timeoutTasks := _ }) ?_
      (by rw [hstage]; rfl) rfl⟩
    exact hs.frame rfl rfl rfl rfl fun _ => .inl
  | record _ hstage _ =>
    refine ⟨phase, Tracked.setStage (s := { s with timeouts := _ }) ?_ (by rw [hstage]; rfl) rfl⟩
    exact hs.frame rfl rfl rfl rfl fun _ => .inl
  | send _ hstage =>
    refine ⟨phase, hs.setStage ?_ rfl⟩
    rcases hstage with ⟨hstage, -⟩ | hstage <;> rw [hstage] <;> rfl
  | subscribe type =>
    refine ⟨phase, hs.frame rfl rfl rfl rfl fun slot hslot => ?_⟩
    rcases List.mem_append.mp hslot with hslot | hslot
    · exact .inl hslot
    · obtain rfl := List.mem_singleton.mp hslot
      exact .inr rfl
  | unsubscribe _ =>
    exact ⟨phase, hs.frame rfl rfl rfl rfl fun slot hslot => .inl (List.mem_of_mem_eraseIdx hslot)⟩
  | emit => exact ⟨phase, hs.frame rfl rfl rfl rfl fun _ => .inl⟩
  | skip _ => exact ⟨phase, hs.frame rfl rfl rfl rfl fun _ => .inl⟩
  -- Entering `HandleCallback` claims nothing yet.
  | answer _ hidle _ _ _ _ _ _ =>
    refine ⟨phase, Tracked.enter (s := { s with emissions := _ }) ?_ hidle⟩
    exact hs.frame rfl rfl rfl rfl fun _ => .inl
  | handle hthread hk ht => exact hs.handle hthread (hmatched.requestId _ _ hk) ht
  | schedulerStep _ => exact ⟨phase, hs.frame rfl rfl rfl rfl fun _ => .inl⟩
  | timeout _ hidle _ _ =>
    refine ⟨phase, Tracked.enter (s := { s with scheduler := _ }) ?_ hidle⟩
    exact hs.frame rfl rfl rfl rfl fun _ => .inl

/-- The two invariants hold in every reachable state. -/
theorem tracked_reachable (h : (rpcs api).Reachable Lts.anyStep s) :
    Matched api s ∧ ∃ phase, Tracked s phase := by
  refine h.invariant (I := fun s => Matched api s ∧ ∃ phase, Tracked s phase) ?_ ?_
  · rintro s rfl
    exact ⟨⟨rfl, fun _ _ => by simp, by simp, by simp, by simp, by simp, by simp⟩,
      fun _ => .unregistered, by simp, by simp, by simp, by simp, by simp, by simp⟩
  · rintro s op s' ⟨hmatched, phase, hs⟩ - hstep
    have ht := transition_of_step hstep
    exact ⟨hmatched.transition ht, hs.transition hmatched ht⟩

/-- In every run, at most one callback of a call is invoked, and at most once. A success or error
callback gets a message of the response or error type of the request that carries the id of the
call and was received on its connection, and a timeout callback belongs to a call with a timeout.
After the callback the call has no entry in `calls_` and no slot in the message handler. -/
theorem call_completes_once (h : (rpcs api).Reachable Lts.anyStep s) {k : Nat}
    {call : RpcCallBuilder Kind} (hk : s.prepared[k]? = some call) :
    s.invoked.countP (·.call = k) ≤ 1 ∧
    ∀ i ∈ s.invoked, i.call = k →
      call.Accepts api s.received i.outcome ∧
      s.calls call.requestId = none ∧
      ∀ slot ∈ s.slots, ∀ answer, slot.owner ≠ some (k, answer) := by
  obtain ⟨hmatched, phase, hs⟩ := tracked_reachable h
  refine ⟨?_, ?_⟩
  · have hcount : (s.invoked.map (·.call)).count k ≤ 1 := List.nodup_iff_count_le_one.mp hs.nodup k
    rw [List.count_eq_countP, List.countP_map] at hcount
    exact hcount
  · rintro i hi rfl
    -- A finished call has no entry, which is pending, and nothing holds a slot for it.
    have hfinished : phase i.call = .finished := hs.invoked i hi
    refine ⟨?_, ?_, ?_⟩
    · obtain ⟨builder, hbuilder, haccepts⟩ := hmatched.invoked i hi
      obtain rfl : builder = call := Option.some.inj (hbuilder.symm.trans hk)
      exact haccepts
    · rw [hmatched.requestId _ _ hk, ← Option.not_isSome_iff_eq_none]
      intro hsome
      rw [hs.calls _ hsome] at hfinished
      cases hfinished
    · intro slot hslot answer howner
      have hheld := hs.slots slot hslot _ answer howner
      rw [hfinished] at hheld
      exact hheld

/-- A client asks for the channels. The response comes twice and the timeout fires before the
first `HandleCallback` has the lock. One callback is invoked. -/
def raceOps : List (RpcOp MessageType Api.Message) :=
  [.prepare .getChatChannelsRequest 5 true true true (some 0),
    .subscribeSuccess 0, .subscribeError 0, .emplace 0,
    .schedule 0 false, .schedulerStep (.emplace 0), .schedulerStep (.notifyAdd 0), .record 0,
    .send 0,
    .emit 5 (.getChatChannelsResponse ⟨1, []⟩), .emit 5 (.getChatChannelsResponse ⟨1, []⟩),
    .deliver 0 0, .deliver 1 0,
    .schedulerStep (.tick 15000000), .schedulerStep .advance, .schedulerStep .advance,
    .schedulerStep .advance, .schedulerStep (.call 0),
    .handle (.emission 1), .handle .scheduler, .handle (.emission 0),
    .handle (.emission 1), .handle (.emission 1), .handle (.emission 1), .handle (.emission 1),
    .schedulerStep (.notifyRemove 0), .handle (.emission 1), .handle (.emission 1)]

/-- An answer and a timeout race for one call. -/
theorem call_completes_once_race : ∃ s : RpcSystem MessageType Api.Message,
    (rpcs chatRpcApi).Reachable Lts.anyStep s ∧ s.invoked.countP (·.call = 0) = 1 ∧
    s.calls 1 = none ∧ ∀ slot ∈ s.slots, ∀ answer, slot.owner ≠ some (0, answer) := by
  have hstart : (rpcs chatRpcApi).Reachable Lts.anyStep {} := .start rfl
  obtain ⟨s, hreach, hprepared, hinvoked⟩ := hstart.exists_of_exec raceOps
    (fun s => s.prepared.map (·.requestId) = [1] ∧ s.invoked.countP (·.call = 0) = 1) (by decide)
  obtain ⟨call, hcalls, hid⟩ := List.map_eq_singleton_iff.mp hprepared
  have hk : s.prepared[0]? = some call := by rw [hcalls]; rfl
  obtain ⟨i, hi, hcall⟩ := List.countP_pos_iff.mp (by omega : 0 < s.invoked.countP (·.call = 0))
  obtain ⟨-, hentry, hslots⟩ := (call_completes_once hreach hk).2 i hi (of_decide_eq_true hcall)
  rw [hid] at hentry
  exact ⟨s, hreach, hinvoked, hentry, hslots⟩

end RpcSystem

end ChatCore.Network
