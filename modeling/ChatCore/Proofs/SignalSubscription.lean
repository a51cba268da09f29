import ChatCore.Utility.SignalSubscription

/-!
# `ChatCore.Proofs.SignalSubscription`: a slot lives as long as the handle that owns it

A handle owns a slot when it holds its id and a pointer to its signal (`Owns`). The invariant
`OneOwner` says that a live signal holds exactly the slots that a handle owns and that no two
handles own the same slot. Ids are drawn from one counter for all signals with the same
argument types, so no slot gets an id that a handle still holds.

Every operation is made of a few writes (`Stepped`): `unsubscribe` takes the ownership from one
handle, `moveInto` renames an owner, `subscribed` adds one. `owns_unsubscribe`, `owns_moveInto`
and `owns_subscribed` say what these do to the owners, and the invariant is proved from them.

The second part is about a handle that was moved from or unsubscribed. Its pointer is empty
(`Empty`) until the handle is assigned again, so it has nothing to remove.
-/

set_option autoImplicit false

namespace ChatCore.Utility

open ChatCore.Lib

variable {Slot : Type}

namespace Subscriptions

variable {w w' : Subscriptions Slot} {handle other k n : Nat} {id : Int}
  {self source : SignalSubscription}

/-- The handle owns the slot `id` of the signal `n`. -/
def Owns (w : Subscriptions Slot) (handle n : Nat) (id : Int) : Prop :=
  w.handles handle = some ⟨id, some n⟩

/-- The handle is not alive or points to no signal. -/
def Empty (w : Subscriptions Slot) (handle : Nat) : Prop :=
  ∀ self, w.handles handle = some self → self.signalState = none

/-- An empty handle owns nothing. -/
theorem Empty.not_owns (h : w.Empty handle) : ¬ w.Owns handle n id := by
  intro howns
  cases h _ howns

/-- A handle that was never used is empty. -/
theorem empty_of_eq_none (h : w.handles handle = none) : w.Empty handle := by
  intro self hself
  cases h.symm.trans hself

/-- A handle that is set changes no signal. -/
@[simp] theorem signals_setHandle (subscription : Option SignalSubscription) :
    (w.setHandle handle subscription).signals = w.signals := rfl

/-- The handle has what it is set to. -/
theorem handles_setHandle_self (subscription : Option SignalSubscription) :
    (w.setHandle handle subscription).handles handle = subscription := by
  simp [setHandle]

/-- The other handles stay. -/
theorem handles_setHandle_of_ne (hne : k ≠ handle) (subscription : Option SignalSubscription) :
    (w.setHandle handle subscription).handles k = w.handles k := by
  simp [setHandle, hne]

/-- What is owned after a handle is set. -/
theorem owns_setHandle (subscription : Option SignalSubscription) :
    (w.setHandle handle subscription).Owns k n id ↔
      (k = handle ∧ subscription = some ⟨id, some n⟩) ∨ (k ≠ handle ∧ w.Owns k n id) := by
  by_cases hk : k = handle
  · subst hk
    simp [Owns, handles_setHandle_self]
  · simp [Owns, handles_setHandle_of_ne hk, hk]

/-! ### `Unsubscribe` and the moves -/

/-- What `Unsubscribe` does to the handles. -/
theorem handles_unsubscribe : (w.unsubscribe handle self).handles
    = (w.setHandle handle (some { self with signalState := none })).handles := by
  unfold unsubscribe
  dsimp only
  split <;> rfl

/-- `Unsubscribe` draws no id and makes no signal. -/
theorem counters_unsubscribe : (w.unsubscribe handle self).idCounter = w.idCounter ∧
    (w.unsubscribe handle self).signalCount = w.signalCount := by
  unfold unsubscribe
  dsimp only
  split <;> exact ⟨rfl, rfl⟩

/-- What `Unsubscribe` does to the signals: the signal of the handle, when it is alive, loses
the slot of the handle. -/
theorem signals_unsubscribe (n : Nat) : (w.unsubscribe handle self).signals n
    = (w.signals n).map fun state =>
        if self.signalState = some n then state.unsubscribe self.id else state := by
  cases hself : self.signalState with
  | none => simp [unsubscribe, lock, hself]
  | some m =>
    cases hm : w.signals m with
    | none =>
      by_cases hmn : m = n
      · subst hmn
        simp [unsubscribe, lock, hself, hm]
      · simp [unsubscribe, lock, hself, hm, hmn]
    | some state =>
      by_cases hmn : m = n
      · subst hmn
        simp [unsubscribe, lock, hself, hm, setSignal]
      · simp [unsubscribe, lock, hself, hm, setSignal, hmn, Ne.symm hmn]

/-- What is owned after `Unsubscribe`. -/
theorem owns_unsubscribe :
    (w.unsubscribe handle self).Owns k n id ↔ k ≠ handle ∧ w.Owns k n id := by
  have howns : (w.unsubscribe handle self).Owns k n id ↔
      (w.setHandle handle (some { self with signalState := none })).Owns k n id := by
    unfold Owns
    rw [handles_unsubscribe]
  rw [howns, owns_setHandle]
  simp

/-- The handle is empty after `Unsubscribe`. -/
theorem empty_unsubscribe : (w.unsubscribe handle self).Empty handle := by
  intro self' hself'
  rw [handles_unsubscribe, handles_setHandle_self] at hself'
  cases hself'
  rfl

/-- What is owned after a move. -/
theorem owns_moveInto (hne : handle ≠ other) (hsource : w.handles other = some source) :
    (w.moveInto handle other source).Owns k n id ↔
      (k = handle ∧ w.Owns other n id) ∨ (k ≠ handle ∧ k ≠ other ∧ w.Owns k n id) := by
  obtain ⟨sourceId, sourceState⟩ := source
  rw [moveInto, owns_setHandle, owns_setHandle]
  by_cases hk : k = handle
  · subst hk
    simp [hne, Owns, hsource]
  · simp [hk]

/-- The source is empty after a move. -/
theorem empty_moveInto : (w.moveInto handle other source).Empty other := by
  intro self hself
  rw [moveInto, handles_setHandle_self] at hself
  cases hself
  rfl

/-! ### The operations -/

/-- The state after `Subscribe` on a signal with the given slots. -/
def subscribed (w : Subscriptions Slot) (n : Nat) (slot : Slot) (handle : Nat)
    (state : SignalState Slot) : Subscriptions Slot :=
  ({ w with idCounter := w.idCounter + 1 }.setSignal n
    (some ⟨state.slots.insert w.idCounter slot⟩)).setHandle handle (some ⟨w.idCounter, some n⟩)

/-- What an operation does, with its guards. -/
inductive Stepped (w : Subscriptions Slot) : Operation Slot → Subscriptions Slot → Prop
  | constructSignal : Stepped w .constructSignal
      ({ w with signalCount := w.signalCount + 1 }.setSignal w.signalCount (some {}))
  | destroySignal (signal : Nat) : Stepped w (.destroySignal signal) (w.setSignal signal none)
  | subscribe {signal handle : Nat} {slot : Slot} {state : SignalState Slot}
      (hnone : w.handles handle = none) (hstate : w.signals signal = some state) :
      Stepped w (.subscribe signal slot handle) (w.subscribed signal slot handle state)
  | constructHandle {handle : Nat} (hnone : w.handles handle = none) :
      Stepped w (.constructHandle handle) (w.setHandle handle (some {}))
  | moveConstruct {handle other : Nat} {source : SignalSubscription}
      (hnone : w.handles handle = none) (hsource : w.handles other = some source) :
      Stepped w (.moveConstruct handle other) (w.moveInto handle other source)
  | selfAssign (handle : Nat) : Stepped w (.moveAssign handle handle) w
  | moveAssign {handle other : Nat} {self source : SignalSubscription} (hne : handle ≠ other)
      (hself : w.handles handle = some self)
      (hsource : (w.unsubscribe handle self).handles other = some source) :
      Stepped w (.moveAssign handle other)
        ((w.unsubscribe handle self).moveInto handle other source)
  | unsubscribe {handle : Nat} {self : SignalSubscription} (hself : w.handles handle = some self) :
      Stepped w (.unsubscribe handle) (w.unsubscribe handle self)
  | destroyHandle {handle : Nat} {self : SignalSubscription}
      (hself : w.handles handle = some self) :
      Stepped w (.destroyHandle handle) ((w.unsubscribe handle self).setHandle handle none)

/-- Every operation is one of these. -/
theorem stepped_of_step {op : Operation Slot} (hs : w.step op = some w') : Stepped w op w' := by
  cases op with
  | constructSignal =>
    cases hs
    exact .constructSignal
  | destroySignal signal =>
    obtain ⟨state, -, rfl⟩ := Option.map_eq_some_iff.mp hs
    exact .destroySignal signal
  | subscribe signal slot handle =>
    simp only [step, Option.ite_none_right_eq_some, subscribe, SignalState.subscribe,
      Option.bind_eq_some_iff, Option.map_eq_some_iff] at hs
    obtain ⟨hnone, state, hstate, drawn, ⟨-, hdraw⟩, rfl⟩ := hs
    cases hdraw
    exact .subscribe hnone hstate
  | constructHandle handle =>
    simp only [step, Option.ite_none_right_eq_some, Option.some.injEq] at hs
    obtain ⟨hnone, rfl⟩ := hs
    exact .constructHandle hnone
  | moveConstruct handle other =>
    simp only [step, Option.ite_none_right_eq_some, Option.map_eq_some_iff] at hs
    obtain ⟨hnone, source, hsource, rfl⟩ := hs
    exact .moveConstruct hnone hsource
  | moveAssign handle other =>
    simp only [step, Option.ite_none_left_eq_some] at hs
    obtain ⟨self, hself, hs⟩ := Option.bind_eq_some_iff.mp hs.2
    unfold moveAssign at hs
    split at hs
    · rename_i heq
      cases hs
      subst heq
      exact .selfAssign handle
    · rename_i hne
      obtain ⟨source, hsource, rfl⟩ := Option.map_eq_some_iff.mp hs
      exact .moveAssign hne hself hsource
  | unsubscribe handle =>
    obtain ⟨self, hself, rfl⟩ := Option.map_eq_some_iff.mp hs
    exact .unsubscribe hself
  | destroyHandle handle =>
    obtain ⟨self, hself, rfl⟩ := Option.map_eq_some_iff.mp hs
    exact .destroyHandle hself

/-- What is owned after `Subscribe`. -/
theorem owns_subscribed {slot : Slot} {state : SignalState Slot} {m : Nat} :
    (w.subscribed n slot handle state).Owns k m id ↔
      (k = handle ∧ m = n ∧ id = w.idCounter) ∨ (k ≠ handle ∧ w.Owns k m id) := by
  rw [subscribed, owns_setHandle]
  refine or_congr ?_ Iff.rfl
  simp only [Option.some.injEq, SignalSubscription.mk.injEq]
  grind

/-- `Subscribe` inserts the slot into its signal. -/
theorem signals_subscribed_self {slot : Slot} {state : SignalState Slot} :
    (w.subscribed n slot handle state).signals n
      = some ⟨state.slots.insert w.idCounter slot⟩ :=
  Function.update_self _ _ _

/-- `Subscribe` leaves the other signals alone. -/
theorem signals_subscribed_of_ne {slot : Slot} {state : SignalState Slot} {m : Nat} (hm : m ≠ n) :
    (w.subscribed n slot handle state).signals m = w.signals m :=
  Function.update_of_ne hm _ _

/-- `Subscribe` adds one slot to one signal. -/
theorem mem_slots_subscribed {slot : Slot} {state state' : SignalState Slot} {m : Nat}
    (hstate : w.signals n = some state)
    (hstate' : (w.subscribed n slot handle state).signals m = some state') :
    ∃ old, w.signals m = some old ∧
      ∀ id, id ∈ state'.slots ↔ (m = n ∧ id = w.idCounter) ∨ id ∈ old.slots := by
  by_cases hm : m = n
  · subst hm
    rw [signals_subscribed_self] at hstate'
    cases hstate'
    exact ⟨state, hstate, fun id => (AList.mem_insert _).trans (by simp)⟩
  · rw [signals_subscribed_of_ne hm] at hstate'
    exact ⟨state', hstate', fun id => by simp [hm]⟩

/-! ### One owner for each slot -/

/-- A live signal holds the slots that handles own, and each of them has one owner. -/
structure OneOwner (w : Subscriptions Slot) : Prop where
  held : ∀ k n id state, w.Owns k n id → w.signals n = some state → id ∈ state.slots
  owned : ∀ n id state, w.signals n = some state → id ∈ state.slots → ∃ k, w.Owns k n id
  unique : ∀ k k' n id, w.Owns k n id → w.Owns k' n id → k = k'
  drawn : ∀ k n id, w.Owns k n id → id < w.idCounter ∧ n < w.signalCount
  known : ∀ n state, w.signals n = some state → n < w.signalCount

namespace OneOwner

/-- At the start nothing is owned. -/
theorem start : OneOwner ({} : Subscriptions Slot) where
  held k n id state howns := by cases howns
  owned n id state hs := by cases hs
  unique k k' n id howns := by cases howns
  drawn k n id howns := by cases howns
  known n state hs := by cases hs

/-- `Unsubscribe` takes one owner and its slot. -/
theorem unsubscribe (h : w.OneOwner) (hself : w.handles handle = some self) :
    (w.unsubscribe handle self).OneOwner := by
  refine ⟨?_, ?_, ?_, ?_, ?_⟩
  · intro k n id state' howns hstate'
    rw [owns_unsubscribe] at howns
    rw [signals_unsubscribe, Option.map_eq_some_iff] at hstate'
    obtain ⟨state, hstate, rfl⟩ := hstate'
    have hmem := h.held k n id state howns.2 hstate
    split
    · rename_i hpointer
      refine AList.mem_erase.mpr ⟨fun hid => howns.1 ?_, hmem⟩
      -- The slot that is erased is the one `handle` owns, so `handle` would be `k`.
      refine h.unique k handle n id howns.2 ?_
      rw [Owns, hself, hid, ← hpointer]
    · exact hmem
  · intro n id state' hstate' hmem
    rw [signals_unsubscribe, Option.map_eq_some_iff] at hstate'
    obtain ⟨state, hstate, rfl⟩ := hstate'
    have herased : self ≠ ⟨id, some n⟩ ∧ id ∈ state.slots := by
      split at hmem
      · obtain ⟨hid, hmem⟩ := AList.mem_erase.mp hmem
        refine ⟨?_, hmem⟩
        rintro rfl
        exact hid rfl
      · rename_i hpointer
        refine ⟨?_, hmem⟩
        rintro rfl
        exact hpointer rfl
    obtain ⟨k, hk⟩ := h.owned n id state hstate herased.2
    refine ⟨k, owns_unsubscribe.mpr ⟨?_, hk⟩⟩
    rintro rfl
    exact herased.1 (Option.some.inj (hself.symm.trans hk))
  · intro k k' n id hk hk'
    rw [owns_unsubscribe] at hk hk'
    exact h.unique k k' n id hk.2 hk'.2
  · intro k n id hk
    rw [owns_unsubscribe] at hk
    rw [counters_unsubscribe.1, counters_unsubscribe.2]
    exact h.drawn k n id hk.2
  · intro n state' hstate'
    rw [signals_unsubscribe, Option.map_eq_some_iff] at hstate'
    obtain ⟨state, hstate, -⟩ := hstate'
    rw [counters_unsubscribe.2]
    exact h.known n state hstate

/-- A move renames one owner. -/
theorem moveInto (h : w.OneOwner) (hne : handle ≠ other) (hempty : w.Empty handle)
    (hsource : w.handles other = some source) : (w.moveInto handle other source).OneOwner := by
  -- Each owner after the move stands for one before it.
  have hbefore : ∀ {k n id}, (w.moveInto handle other source).Owns k n id →
      ∃ k', w.Owns k' n id ∧ (k = handle ∧ k' = other ∨ k = k' ∧ k' ≠ other) := by
    intro k n id hk
    rcases (owns_moveInto hne hsource).mp hk with ⟨rfl, hother⟩ | ⟨-, hk', howns⟩
    · exact ⟨other, hother, .inl ⟨rfl, rfl⟩⟩
    · exact ⟨k, howns, .inr ⟨rfl, hk'⟩⟩
  refine ⟨?_, ?_, ?_, ?_, h.known⟩
  · intro k n id state hk hstate
    obtain ⟨k', howns, -⟩ := hbefore hk
    exact h.held k' n id state howns hstate
  · intro n id state hstate hmem
    obtain ⟨k, hk⟩ := h.owned n id state hstate hmem
    by_cases hother : k = other
    · subst hother
      exact ⟨handle, (owns_moveInto hne hsource).mpr (.inl ⟨rfl, hk⟩)⟩
    · refine ⟨k, (owns_moveInto hne hsource).mpr (.inr ⟨?_, hother, hk⟩)⟩
      rintro rfl
      exact hempty.not_owns hk
  · intro k k' n id hk hk'
    -- Two owners of one slot come from one owner before, which is `other` for both or for none.
    obtain ⟨j, hj, hjk⟩ := hbefore hk
    obtain ⟨j', hj', hjk'⟩ := hbefore hk'
    have hjj := h.unique j j' n id hj hj'
    grind
  · intro k n id hk
    obtain ⟨k', howns, -⟩ := hbefore hk
    exact h.drawn k' n id howns

/-- Writing a handle that points to no signal over one that owns nothing. -/
theorem setHandle (h : w.OneOwner) (hempty : w.Empty handle)
    {subscription : Option SignalSubscription}
    (hsub : ∀ self, subscription = some self → self.signalState = none) :
    (w.setHandle handle subscription).OneOwner := by
  have howns : ∀ k n id, (w.setHandle handle subscription).Owns k n id ↔ w.Owns k n id := by
    intro k n id
    rw [owns_setHandle]
    constructor
    · rintro (⟨-, hself⟩ | ⟨-, hk⟩)
      · cases hsub _ hself
      · exact hk
    · intro hk
      refine .inr ⟨?_, hk⟩
      rintro rfl
      exact hempty.not_owns hk
  refine ⟨?_, ?_, ?_, ?_, h.known⟩
  · intro k n id state hk
    exact h.held k n id state ((howns k n id).mp hk)
  · intro n id state hstate hmem
    obtain ⟨k, hk⟩ := h.owned n id state hstate hmem
    exact ⟨k, (howns k n id).mpr hk⟩
  · intro k k' n id hk hk'
    exact h.unique k k' n id ((howns k n id).mp hk) ((howns k' n id).mp hk')
  · intro k n id hk
    exact h.drawn k n id ((howns k n id).mp hk)

/-- `Subscribe` adds a slot and its owner, under an id that no handle holds. -/
theorem subscribe (h : w.OneOwner) (hempty : w.Empty handle) {slot : Slot}
    {state : SignalState Slot} (hstate : w.signals n = some state) :
    (w.subscribed n slot handle state).OneOwner := by
  refine ⟨?_, ?_, ?_, ?_, ?_⟩
  · intro k m id state' hk hstate'
    obtain ⟨old, hold, hslots⟩ := mem_slots_subscribed hstate hstate'
    rw [hslots]
    rcases owns_subscribed.mp hk with ⟨-, hnew⟩ | ⟨-, howns⟩
    · exact .inl hnew
    · exact .inr (h.held k m id old howns hold)
  · intro m id state' hstate' hmem
    obtain ⟨old, hold, hslots⟩ := mem_slots_subscribed hstate hstate'
    rcases (hslots id).mp hmem with hnew | hmem
    · exact ⟨handle, owns_subscribed.mpr (.inl ⟨rfl, hnew⟩)⟩
    · obtain ⟨k, hk⟩ := h.owned m id old hold hmem
      refine ⟨k, owns_subscribed.mpr (.inr ⟨?_, hk⟩)⟩
      rintro rfl
      exact hempty.not_owns hk
  · intro k k' m id hk hk'
    -- The new id is above every id that a handle holds.
    rcases owns_subscribed.mp hk with ⟨rfl, rfl, rfl⟩ | ⟨-, hold⟩ <;>
      rcases owns_subscribed.mp hk' with ⟨rfl, -, hnew'⟩ | ⟨-, hold'⟩
    · rfl
    · have hlt := (h.drawn k' m _ hold').1
      omega
    · have hlt := (h.drawn k m id hold).1
      omega
    · exact h.unique k k' m id hold hold'
  · intro k m id hk
    show id < w.idCounter + 1 ∧ m < w.signalCount
    rcases owns_subscribed.mp hk with ⟨-, rfl, rfl⟩ | ⟨-, hold⟩
    · exact ⟨by omega, h.known m state hstate⟩
    · have hlt := h.drawn k m id hold
      exact ⟨by omega, hlt.2⟩
  · intro m state' hstate'
    obtain ⟨old, hold, -⟩ := mem_slots_subscribed hstate hstate'
    exact h.known m old hold

/-- No handle points to a new signal. -/
theorem constructSignal (h : w.OneOwner) :
    OneOwner ({ w with signalCount := w.signalCount + 1 }.setSignal w.signalCount (some {})) := by
  have hsignals : ∀ n state, ({ w with signalCount := w.signalCount + 1 }.setSignal w.signalCount
      (some {})).signals n = some state →
      (n = w.signalCount ∧ state = {}) ∨ w.signals n = some state := by
    intro n state hstate
    by_cases hn : n = w.signalCount
    · subst hn
      simp only [setSignal, Function.update_self, Option.some.injEq] at hstate
      exact .inl ⟨rfl, hstate.symm⟩
    · simp only [setSignal, Function.update_of_ne hn] at hstate
      exact .inr hstate
  refine ⟨?_, ?_, h.unique, ?_, ?_⟩
  · intro k n id state hk hstate
    rcases hsignals n state hstate with ⟨rfl, -⟩ | hold
    -- The number of the new signal was not given out, so no handle has it.
    · have hlt := (h.drawn k _ id hk).2
      omega
    · exact h.held k n id state hk hold
  · intro n id state hstate hmem
    rcases hsignals n state hstate with ⟨-, rfl⟩ | hold
    · exact absurd hmem (AList.notMem_empty id)
    · exact h.owned n id state hold hmem
  · intro k n id hk
    have hlt := h.drawn k n id hk
    exact ⟨hlt.1, Nat.lt_succ_of_lt hlt.2⟩
  · intro n state hstate
    show n < w.signalCount + 1
    rcases hsignals n state hstate with ⟨rfl, -⟩ | hold
    · omega
    · exact Nat.lt_succ_of_lt (h.known n state hold)

/-- The handles of a destroyed signal stay, with a pointer that has expired. -/
theorem destroySignal (h : w.OneOwner) (n : Nat) : (w.setSignal n none).OneOwner := by
  have hsignals : ∀ m state, (w.setSignal n none).signals m = some state →
      w.signals m = some state := by
    intro m state hstate
    by_cases hm : m = n
    · subst hm
      simp [setSignal] at hstate
    · simpa [setSignal, hm] using hstate
  refine ⟨?_, ?_, h.unique, h.drawn, ?_⟩
  · intro k m id state hk hstate
    exact h.held k m id state hk (hsignals m state hstate)
  · intro m id state hstate
    exact h.owned m id state (hsignals m state hstate)
  · intro m state hstate
    exact h.known m state (hsignals m state hstate)

/-- Every operation keeps one owner for each slot. -/
theorem step (h : w.OneOwner) {op : Operation Slot} (hs : Stepped w op w') : w'.OneOwner := by
  cases hs with
  | constructSignal => exact h.constructSignal
  | destroySignal signal => exact h.destroySignal signal
  | subscribe hnone hstate => exact h.subscribe (empty_of_eq_none hnone) hstate
  | constructHandle hnone =>
    refine h.setHandle (empty_of_eq_none hnone) ?_
    rintro self ⟨⟩
    rfl
  | moveConstruct hnone hsource =>
    refine h.moveInto ?_ (empty_of_eq_none hnone) hsource
    rintro rfl
    cases hnone.symm.trans hsource
  | selfAssign handle => exact h
  -- The assignment releases what `handle` owned before it moves `other` into it.
  | moveAssign hne hself hsource =>
    exact (h.unsubscribe hself).moveInto hne empty_unsubscribe hsource
  | unsubscribe hself => exact h.unsubscribe hself
  | destroyHandle hself =>
    exact (h.unsubscribe hself).setHandle empty_unsubscribe (by rintro self ⟨⟩)

end OneOwner

/-- Every subscription has one owner in every run. -/
theorem oneOwner_reachable (h : (subscriptions Slot).Reachable Lts.anyStep w) : w.OneOwner := by
  refine h.invariant ?_ ?_
  · rintro w rfl
    exact .start
  · intro w op w' hw _ hs
    exact hw.step (stepped_of_step hs)

end Subscriptions

/-! ### Handles without a slot, and the other signals -/

namespace Operation

/-- The operation moves from the handle or unsubscribes it. A self-assignment moves nothing. -/
def Empties (handle : Nat) : Operation Slot → Prop
  | .moveConstruct _ other => other = handle
  | .moveAssign target other => other = handle ∧ target ≠ other
  | .unsubscribe target => target = handle
  | _ => False

/-- The operation constructs the handle or assigns to it. -/
def Fills (handle : Nat) : Operation Slot → Prop
  | .subscribe _ _ target => target = handle
  | .constructHandle target => target = handle
  | .moveConstruct target _ => target = handle
  | .moveAssign target other => target = handle ∧ target ≠ other
  | _ => False

/-- The operation calls `Unsubscribe` of the handle. -/
def Unsubscribes (handle : Nat) : Operation Slot → Prop
  | .moveAssign target _ => target = handle
  | .unsubscribe target => target = handle
  | .destroyHandle target => target = handle
  | _ => False

/-- The operation is one on the signal `n` or on a handle of it. -/
def Concerns (w : Subscriptions Slot) (n : Nat) : Operation Slot → Prop
  | .constructSignal => n = w.signalCount
  | .destroySignal signal => n = signal
  | .subscribe signal _ _ => n = signal
  | .constructHandle _ => False
  | .moveConstruct _ _ => False
  | .moveAssign handle other => handle ≠ other ∧ ∃ id, w.Owns handle n id
  | .unsubscribe handle => ∃ id, w.Owns handle n id
  | .destroyHandle handle => ∃ id, w.Owns handle n id

end Operation

namespace Subscriptions

variable {w w' : Subscriptions Slot} {handle other n : Nat} {op : Operation Slot}
  {self source : SignalSubscription}

/-- `Unsubscribe` changes no signal that the handle does not point to. -/
theorem signals_unsubscribe_of_not_owns (hself : w.handles handle = some self)
    (hn : ∀ id, ¬ w.Owns handle n id) : (w.unsubscribe handle self).signals n = w.signals n := by
  have hpointer : self.signalState ≠ some n := by
    intro hpointer
    refine hn self.id ?_
    rw [Owns, hself, ← hpointer]
  rw [signals_unsubscribe]
  simp [hpointer]

/-- A move changes no signal. -/
theorem signals_moveInto : (w.moveInto handle other source).signals = w.signals := rfl

/-- An operation changes the slots of a signal only when it is one on the signal or on a handle
of it. -/
theorem signals_step (hs : Stepped w op w') (hn : ¬ op.Concerns w n) :
    w'.signals n = w.signals n := by
  cases hs with
  | constructSignal | destroySignal _ => exact Function.update_of_ne hn _ _
  | subscribe _ _ => exact signals_subscribed_of_ne hn
  | constructHandle _ => rw [signals_setHandle]
  | moveConstruct _ _ => rw [signals_moveInto]
  | selfAssign _ => rfl
  | moveAssign hne hself _ =>
    rw [signals_moveInto]
    exact signals_unsubscribe_of_not_owns hself fun id hid => hn ⟨hne, id, hid⟩
  | unsubscribe hself | destroyHandle hself =>
    exact signals_unsubscribe_of_not_owns hself fun id hid => hn ⟨id, hid⟩

/-- `Unsubscribe` of a handle without a slot changes no signal. -/
theorem signals_step_of_empty (h : w.Empty handle) (hop : op.Unsubscribes handle)
    (hs : Stepped w op w') : w'.signals = w.signals := by
  funext n
  refine signals_step hs fun hconcerns => ?_
  cases op with
  | moveAssign target other =>
    cases hop
    obtain ⟨-, id, hid⟩ := hconcerns
    exact h.not_owns hid
  | unsubscribe target =>
    cases hop
    obtain ⟨id, hid⟩ := hconcerns
    exact h.not_owns hid
  | destroyHandle target =>
    cases hop
    obtain ⟨id, hid⟩ := hconcerns
    exact h.not_owns hid
  | _ => cases hop

/-- A handle that is not touched stays empty. -/
theorem Empty.congr {k : Nat} (h : w.Empty k) (heq : w'.handles k = w.handles k) : w'.Empty k := by
  intro self hself
  exact h self (heq ▸ hself)

/-- An empty handle stays empty when another one is unsubscribed. -/
theorem Empty.unsubscribe {k : Nat} (h : w.Empty k) : (w.unsubscribe handle self).Empty k := by
  by_cases hk : k = handle
  · subst hk
    exact empty_unsubscribe
  · exact h.congr (by rw [handles_unsubscribe, handles_setHandle_of_ne hk])

/-- An empty handle stays empty when nothing is moved into it. -/
theorem Empty.moveInto {k : Nat} (h : w.Empty k) (hk : k ≠ handle) :
    (w.moveInto handle other source).Empty k := by
  by_cases hother : k = other
  · subst hother
    exact empty_moveInto
  · refine h.congr ?_
    rw [Subscriptions.moveInto, handles_setHandle_of_ne hother, handles_setHandle_of_ne hk]

/-- A handle that was moved from or unsubscribed is empty. -/
theorem empty_of_empties (hop : op.Empties handle) (hs : Stepped w op w') : w'.Empty handle := by
  cases hs with
  | moveConstruct _ _ =>
    cases hop
    exact empty_moveInto
  | moveAssign _ _ _ =>
    cases hop.1
    exact empty_moveInto
  | selfAssign _ => exact absurd rfl hop.2
  | unsubscribe _ =>
    cases hop
    exact empty_unsubscribe
  | _ => cases hop

/-- An empty handle stays empty until it is constructed or assigned again. -/
theorem Empty.step (h : w.Empty handle) (hop : ¬ op.Fills handle) (hs : Stepped w op w') :
    w'.Empty handle := by
  cases hs with
  | constructSignal | destroySignal _ | selfAssign _ => exact h
  | subscribe _ _ | constructHandle _ => exact h.congr (handles_setHandle_of_ne (Ne.symm hop) _)
  | moveConstruct _ _ => exact h.moveInto (Ne.symm hop)
  | moveAssign hne _ _ =>
    refine h.unsubscribe.moveInto ?_
    rintro rfl
    exact hop ⟨rfl, hne⟩
  | unsubscribe _ => exact h.unsubscribe
  | @destroyHandle target self _ =>
    by_cases hk : handle = target
    · subst hk
      exact empty_of_eq_none (handles_setHandle_self _)
    · exact h.unsubscribe.congr (handles_setHandle_of_ne hk _)

/-- So it does over a run. -/
theorem Empty.exec {ops : List (Operation Slot)} (hops : ∀ op ∈ ops, ¬ op.Fills handle) :
    ∀ {w}, w.Empty handle → (subscriptions Slot).exec Lts.anyStep w ops = some w' →
      w'.Empty handle := by
  induction ops with
  | nil =>
    intro w h hexec
    cases hexec
    exact h
  | cons op ops ih =>
    intro w h hexec
    rw [Lts.exec_cons_anyStep, Option.bind_eq_some_iff] at hexec
    obtain ⟨w₁, hstep, hexec⟩ := hexec
    exact ih (fun op' hop' => hops op' (List.mem_cons_of_mem _ hop'))
      (h.step (hops op (by simp)) (stepped_of_step hstep)) hexec

/-- In every state of every run: a live signal holds a slot if and only if exactly one handle
owns it. A handle that was moved from or unsubscribed removes no slot, until it is constructed
or assigned again. And an operation changes no signal but the one it is on, or the one that the
handle it is on points to. -/
theorem subscription_lives_with_handle (h : (subscriptions Slot).Reachable Lts.anyStep w) :
    (∀ n state id, w.signals n = some state →
      (id ∈ state.slots ↔ ∃! handle, w.Owns handle n id)) ∧
    (∀ handle op w₁ ops w₂ op' w₃, op.Empties handle → w.step op = some w₁ →
      (∀ o ∈ ops, ¬ o.Fills handle) → (subscriptions Slot).exec Lts.anyStep w₁ ops = some w₂ →
      op'.Unsubscribes handle → w₂.step op' = some w₃ → w₃.signals = w₂.signals) ∧
    ∀ op w' n, w.step op = some w' → ¬ op.Concerns w n → w'.signals n = w.signals n := by
  have hone := oneOwner_reachable h
  refine ⟨fun n state id hstate => ⟨fun hmem => ?_, ?_⟩, ?_, ?_⟩
  · obtain ⟨k, hk⟩ := hone.owned n id state hstate hmem
    exact ⟨k, hk, fun k' hk' => hone.unique k' k n id hk' hk⟩
  · rintro ⟨k, hk, -⟩
    exact hone.held k n id state hk hstate
  · intro handle op w₁ ops w₂ op' w₃ hop hs hops hexec hop' hs'
    have hempty := (empty_of_empties hop (stepped_of_step hs)).exec hops hexec
    exact signals_step_of_empty hempty hop' (stepped_of_step hs')
  · intro op w' n hs hn
    exact signals_step (stepped_of_step hs) hn

/-- A slot that moved twice and was assigned over. The handle at `0` was moved from and
destroyed, so the first signal keeps its slot, owned at `1`. -/
theorem subscription_lives_with_moved_handle : ∃ w : Subscriptions String,
    (subscriptions String).Reachable Lts.anyStep w ∧ w.handles 0 = none ∧
    ∃ state, w.signals 0 = some state ∧ (0 ∈ state.slots ↔ ∃! handle, w.Owns handle 0 0) := by
  have hstart : (subscriptions String).Reachable Lts.anyStep {} := .start rfl
  obtain ⟨w, hw, hnone, hsome⟩ := hstart.exists_of_exec
    [.constructSignal, .constructSignal, .subscribe 0 "a" 0, .subscribe 1 "b" 1, .moveAssign 1 0,
      .moveAssign 1 1, .unsubscribe 0, .destroyHandle 0]
    (fun w => w.handles 0 = none ∧ (w.signals 0).isSome) (by decide)
  obtain ⟨state, hstate⟩ := Option.isSome_iff_exists.mp hsome
  exact ⟨w, hw, hnone, state, hstate, (subscription_lives_with_handle hw).1 0 state 0 hstate⟩

end Subscriptions

end ChatCore.Utility
