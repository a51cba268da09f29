import ChatCore.Network.Connection

/-!
# `ChatCore.Proofs.SendQueue`: the frames of a connection, in order

`SendBytes` takes a queue of one frame as the sign that no write is under way. But `SendNext`
pops its frame before it calls `async_write`, so the queue is empty during the write. A call of
`SendBytes` at this moment starts a second write.

`IdleStep` excludes this call: a `SendBytes` that finds the queue empty also finds the send
side idle. Then at most one call or write is under way (`SendInv.single`), and it works through
the queue from the front.
-/

set_option autoImplicit false

namespace ChatCore.Network

open ChatCore.Lib

namespace Connection

variable {s s' : Connection} {l : SendOp}

/-- A `SendBytes` that finds the queue empty finds no call of `SendNext` and no write under
way. -/
def IdleStep (s : Connection) : SendOp → Prop
  | .sendBytes _ => s.outgoingBytes = [] → s.Idle
  | _ => True

instance : DecidableRel IdleStep := fun s l =>
  match l with
  | .sendBytes _ => inferInstanceAs (Decidable (s.outgoingBytes = [] → s.Idle))
  | .sendNext | .asyncWrite _ | .complete _ => inferInstanceAs (Decidable True)

/-- The number of calls and writes under way. -/
def active (s : Connection) : Nat := s.sendNextCalls + s.popped.length + s.outstanding.length

/-- The connection is idle when no `SendNext` and no write is under way. -/
theorem idle_iff_active : s.Idle ↔ s.active = 0 := by
  unfold Idle active
  rw [← List.length_eq_zero_iff, ← List.length_eq_zero_iff (l := s.outstanding)]
  omega

/-- What holds while every step satisfies `IdleStep`. -/
structure SendInv (s : Connection) : Prop where
  single : s.active ≤ 1
  /-- A frame in the queue has a call or a write in front of it. -/
  served : s.outgoingBytes ≠ [] → 0 < s.active
  order : s.handed ++ s.popped ++ s.outgoingBytes = s.enqueued

/-- `SendBytes` keeps the invariant when an empty queue means idle. -/
theorem sendInv_sendBytes {bytes : List UInt8} (h : SendInv s)
    (hok : s.outgoingBytes = [] → s.Idle) : SendInv (s.sendBytes bytes) := by
  have horder : s.handed ++ s.popped ++ (s.outgoingBytes ++ [frame bytes])
      = s.enqueued ++ [frame bytes] := by
    rw [← List.append_assoc, h.order]
  unfold sendBytes
  simp only [List.length_append, List.length_singleton]
  split
  · -- The queue was not empty, so it has its call or write already.
    rename_i hlength
    have hne : s.outgoingBytes ≠ [] := fun hnil => by
      rw [hnil] at hlength
      simp at hlength
    exact ⟨h.single, fun _ => h.served hne, horder⟩
  · -- The queue was empty, and then the call that starts here is the only one.
    rename_i hlength
    have hnil : s.outgoingBytes = [] := List.length_eq_zero_iff.mp (by omega)
    have hidle := idle_iff_active.mp (hok hnil)
    unfold active at hidle
    refine ⟨?_, fun _ => ?_, horder⟩
    · show s.sendNextCalls + 1 + s.popped.length + s.outstanding.length ≤ 1
      omega
    · show 0 < s.sendNextCalls + 1 + s.popped.length + s.outstanding.length
      omega

/-- `SendNext` keeps the invariant. -/
theorem sendInv_sendNext {calls : Nat} (h : SendInv s) (hcalls : s.sendNextCalls = calls + 1) :
    SendInv ({ s with sendNextCalls := calls }.sendNext) := by
  have hsingle := h.single
  unfold active at hsingle
  -- This call is the one that `single` allows, so nothing is popped or outstanding.
  have hpopped : s.popped = [] := List.length_eq_zero_iff.mp (by omega)
  have houtstanding : s.outstanding = [] := List.length_eq_zero_iff.mp (by omega)
  have horder := h.order
  unfold sendNext
  cases hqueue : s.outgoingBytes with
  | nil =>
    rw [hqueue] at horder
    refine ⟨?_, fun hne => absurd rfl hne, horder⟩
    show calls + s.popped.length + s.outstanding.length ≤ 1
    omega
  | cons bytes rest =>
    rw [hqueue, hpopped] at horder
    refine ⟨?_, fun _ => ?_, ?_⟩
    · show calls + (s.popped ++ [bytes]).length + s.outstanding.length ≤ 1
      simp only [hpopped, houtstanding, List.nil_append, List.length_singleton, List.length_nil]
      omega
    · show 0 < calls + (s.popped ++ [bytes]).length + s.outstanding.length
      rw [List.length_append, List.length_singleton]
      omega
    · show s.handed ++ (s.popped ++ [bytes]) ++ rest = s.enqueued
      rw [← horder, hpopped]
      simp

/-- The start of a write keeps the invariant. -/
theorem sendInv_asyncWrite {i : Nat} {bytes : List UInt8} (h : SendInv s)
    (hpopped : s.popped[i]? = some bytes) :
    SendInv { s with
      popped := s.popped.eraseIdx i
      outstanding := s.outstanding ++ [bytes]
      handed := s.handed ++ [bytes] } := by
  have hsingle := h.single
  unfold active at hsingle
  obtain ⟨hi, hget⟩ := List.getElem?_eq_some_iff.mp hpopped
  -- Only one frame is popped, so it is the one that is passed on.
  have hone : s.popped = [bytes] := by
    obtain ⟨x, hx⟩ := List.length_eq_one_iff.mp (show s.popped.length = 1 by omega)
    have hzero : i = 0 := by omega
    subst hzero
    simp only [hx, List.getElem_cons_zero] at hget
    rw [hx, hget]
  have hzero : i = 0 := by
    rw [hone] at hi
    simpa using hi
  have horder := h.order
  rw [hone] at horder hsingle ⊢
  subst hzero
  refine ⟨?_, fun _ => ?_, ?_⟩
  · show s.sendNextCalls + 0 + (s.outstanding ++ [bytes]).length ≤ 1
    rw [List.length_append]
    simp only [List.length_singleton] at hsingle ⊢
    omega
  · show 0 < s.sendNextCalls + 0 + (s.outstanding ++ [bytes]).length
    rw [List.length_append, List.length_singleton]
    omega
  · show s.handed ++ [bytes] ++ [] ++ s.outgoingBytes = s.enqueued
    rw [List.append_nil]
    exact horder

/-- The end of a write keeps the invariant. -/
theorem sendInv_complete {i : Nat} (h : SendInv s) (hi : i < s.outstanding.length) :
    SendInv { s with
      outstanding := s.outstanding.eraseIdx i
      sendNextCalls := s.sendNextCalls + 1 } := by
  have hsingle := h.single
  unfold active at hsingle
  have hlength := List.length_eraseIdx_of_lt hi
  refine ⟨?_, fun _ => ?_, h.order⟩
  · show s.sendNextCalls + 1 + s.popped.length + (s.outstanding.eraseIdx i).length ≤ 1
    omega
  · show 0 < s.sendNextCalls + 1 + s.popped.length + (s.outstanding.eraseIdx i).length
    omega

/-- A step that satisfies `IdleStep` keeps `SendInv`. -/
theorem sendInv_step (h : SendInv s) (hok : s.IdleStep l) (hs : s.step l = some s') :
    SendInv s' := by
  cases l with
  | sendBytes bytes =>
    cases hs
    exact sendInv_sendBytes h hok
  | sendNext =>
    simp only [step] at hs
    split at hs
    · cases hs
    · rename_i calls hcalls
      cases hs
      exact sendInv_sendNext h hcalls
  | asyncWrite i =>
    obtain ⟨bytes, hpopped, rfl⟩ := Option.map_eq_some_iff.mp hs
    exact sendInv_asyncWrite h hpopped
  | complete i =>
    simp only [step] at hs
    split at hs
    · rename_i hi
      cases hs
      exact sendInv_complete h hi
    · cases hs

/-- The invariant holds in every such run. -/
theorem sendInv_reachable (h : sends.Reachable IdleStep s) : SendInv s := by
  refine h.invariant ?_ ?_
  · rintro s rfl
    exact ⟨by decide, fun hne => absurd rfl hne, rfl⟩
  · exact fun s l s' hinv hok hs => sendInv_step hinv hok hs

/-- When every step of a run satisfies `IdleStep`, at most one write is outstanding. The frames
that were passed to `async_write`, then the popped one, then the queue, are the enqueued frames
in order, and an idle send side has passed all of them on. -/
theorem frames_in_order (h : sends.Reachable IdleStep s) :
    s.outstanding.length ≤ 1 ∧ s.handed ++ s.popped ++ s.outgoingBytes = s.enqueued ∧
      (s.Idle → s.handed = s.enqueued) := by
  have hinv := sendInv_reachable h
  refine ⟨?_, hinv.order, fun hidle => ?_⟩
  · have hsingle := hinv.single
    unfold active at hsingle
    omega
  · have hnil : s.outgoingBytes = [] := by
      by_contra hne
      have hactive := hinv.served hne
      rw [idle_iff_active.mp hidle] at hactive
      exact Nat.lt_irrefl 0 hactive
    rw [← hinv.order, hidle.2.1, hnil, List.append_nil, List.append_nil]

/-- Two frames, the second one after the completion of the first write. -/
theorem frames_in_order_two :
    ∃ s, sends.Reachable IdleStep s ∧ s.handed = [frame [1], frame [2]] ∧
      s.outstanding.length ≤ 1 ∧ s.handed = s.enqueued := by
  have hstart : sends.Reachable IdleStep ({} : Connection) := .start rfl
  obtain ⟨s, hs, hhanded, hidle⟩ := hstart.exists_of_exec
    [.sendBytes [1], .sendNext, .asyncWrite 0, .complete 0, .sendNext, .sendBytes [2], .sendNext,
      .asyncWrite 0, .complete 0, .sendNext]
    (fun s => s.handed = [frame [1], frame [2]] ∧ s.Idle) (by decide)
  obtain ⟨hsingle, -, hall⟩ := frames_in_order hs
  exact ⟨s, hs, hhanded, hsingle, hall hidle⟩

/-- A `SendBytes` between the pop of a frame and its `async_write`. Two writes are outstanding,
and the second frame is passed on first. -/
theorem frames_overtake :
    ∃ s, sends.Reachable Lts.anyStep s ∧ s.outstanding.length = 2 ∧
      s.enqueued = [frame [1], frame [2]] ∧ s.handed = [frame [2], frame [1]] := by
  have hstart : sends.Reachable Lts.anyStep ({} : Connection) := .start rfl
  exact hstart.exists_of_exec
    [.sendBytes [1], .sendNext, .sendBytes [2], .sendNext, .asyncWrite 1, .asyncWrite 0]
    (fun s => s.outstanding.length = 2 ∧ s.enqueued = [frame [1], frame [2]] ∧
      s.handed = [frame [2], frame [1]]) (by decide)

end Connection

end ChatCore.Network
