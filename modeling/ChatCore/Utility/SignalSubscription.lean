import ChatCore.Utility.Signal
import Mathlib.Logic.Function.Basic

/-!
# `ChatCore.Utility.SignalSubscription`: the handles that own slots

`SignalSubscription` of `signal_subscription.cpp` and `Signal::Subscribe`. A handle holds the
id of a slot and a weak pointer to the signal. The pointer names a signal by its number, and
it has expired when no signal with that number is alive. A number is not used twice, as a weak
pointer to a destroyed signal never points to a later one.

`Subscriptions` holds the signals with the same argument types, which share `id_counter_`, and
the handles that are alive, by their addresses. An address can be used again after its handle
was destroyed. `step` is one operation on a signal or a handle, in any order the program
chooses. An operation on a handle that is not alive, or on a signal that is not alive, is not
enabled.
-/

set_option autoImplicit false

namespace ChatCore.Utility

open ChatCore.Lib

/-- `SignalSubscription`. -/
structure SignalSubscription where
  id : Int := -1
  signalState : Option Nat := none
  deriving DecidableEq

/-- The signals with the same argument types and the handles. -/
structure Subscriptions (Slot : Type) where
  idCounter : Int := 0
  signals : Nat → Option (SignalState Slot) := fun _ => none
  signalCount : Nat := 0
  handles : Nat → Option SignalSubscription := fun _ => none

/-- An operation of the program on a signal or a handle. -/
inductive Operation (Slot : Type) where
  | constructSignal
  | destroySignal (signal : Nat)
  /-- `Signal::Subscribe`. The handle it returns is constructed at `handle`. -/
  | subscribe (signal : Nat) (slot : Slot) (handle : Nat)
  | constructHandle (handle : Nat)
  | moveConstruct (handle other : Nat)
  | moveAssign (handle other : Nat)
  | unsubscribe (handle : Nat)
  | destroyHandle (handle : Nat)

namespace Subscriptions

variable {Slot : Type}

/-- Write the handle at an address. -/
def setHandle (w : Subscriptions Slot) (handle : Nat) (subscription : Option SignalSubscription) :
    Subscriptions Slot :=
  { w with handles := Function.update w.handles handle subscription }

/-- Write a signal. -/
def setSignal (w : Subscriptions Slot) (signal : Nat) (state : Option (SignalState Slot)) :
    Subscriptions Slot :=
  { w with signals := Function.update w.signals signal state }

/-- `signal_state_.lock()`. -/
def lock (w : Subscriptions Slot) (self : SignalSubscription) : Option (Nat × SignalState Slot) :=
  self.signalState.bind fun signal => (w.signals signal).map (signal, ·)

/-- `SignalSubscription::Unsubscribe` of the handle at `handle`. -/
def unsubscribe (w : Subscriptions Slot) (handle : Nat) (self : SignalSubscription) :
    Subscriptions Slot :=
  let locked := w.lock self
  let w := w.setHandle handle (some { self with signalState := none })
  match locked with
  | none => w
  | some (signal, state) => w.setSignal signal (some (state.unsubscribe self.id))

/-- The id and the pointer of `other` go to `handle`. The pointer is moved, so `other` is left
with an empty one and keeps its id. -/
def moveInto (w : Subscriptions Slot) (handle other : Nat) (source : SignalSubscription) :
    Subscriptions Slot :=
  (w.setHandle handle (some ⟨source.id, source.signalState⟩)).setHandle other
    (some { source with signalState := none })

/-- The move assignment. -/
def moveAssign (w : Subscriptions Slot) (handle other : Nat) (self : SignalSubscription) :
    Option (Subscriptions Slot) :=
  if handle = other then some w
  else
    let w := w.unsubscribe handle self
    (w.handles other).map (w.moveInto handle other)

/-- `Signal::Subscribe`. -/
def subscribe (w : Subscriptions Slot) (signal : Nat) (slot : Slot) (handle : Nat) :
    Option (Subscriptions Slot) :=
  (w.signals signal).bind fun state =>
    (state.subscribe w.idCounter slot).map fun (state, idCounter) =>
      ({ w with idCounter }.setSignal signal (some state)).setHandle handle
        (some ⟨w.idCounter, some signal⟩)

/-- One operation. -/
def step (w : Subscriptions Slot) : Operation Slot → Option (Subscriptions Slot)
  | .constructSignal =>
    some ({ w with signalCount := w.signalCount + 1 }.setSignal w.signalCount (some {}))
  | .destroySignal signal => (w.signals signal).map fun _ => w.setSignal signal none
  | .subscribe signal slot handle =>
    if w.handles handle = none then w.subscribe signal slot handle else none
  | .constructHandle handle =>
    if w.handles handle = none then some (w.setHandle handle (some {})) else none
  | .moveConstruct handle other =>
    if w.handles handle = none then (w.handles other).map (w.moveInto handle other) else none
  | .moveAssign handle other =>
    if w.handles other = none then none
    else (w.handles handle).bind (w.moveAssign handle other)
  | .unsubscribe handle => (w.handles handle).map (w.unsubscribe handle)
  | .destroyHandle handle =>
    (w.handles handle).map fun self => (w.unsubscribe handle self).setHandle handle none

end Subscriptions

/-- The runs from a program without signals and handles. -/
def subscriptions (Slot : Type) : Lts (Subscriptions Slot) (Operation Slot) where
  start w := w = {}
  step := Subscriptions.step

end ChatCore.Utility
