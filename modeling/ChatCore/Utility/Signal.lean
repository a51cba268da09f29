import ChatCore.Lib.Lts
import Mathlib.Data.List.AList

/-!
# `ChatCore.Utility.Signal`: slots and emissions

`SignalState` of `signal.hpp`. The slots of a signal are an unordered map from ids to
functions, here an `AList`. The ids come from `id_counter_`, a static `int` that all signals
with the same argument types share, so it is a value of its own that `subscribe` reads and
returns. Its increment at the greatest `int` is undefined in the source, and `subscribe` has
no result there.

The body of a slot may do anything with the signal that calls it: subscribe, unsubscribe,
emit again. `Emitter` is the signal together with the stack of the running calls of `Emit`,
and a step (`Action`) is one such operation or one round of the loop of the innermost `Emit`.
Which operations the bodies choose is left to the labels of a run. The order in which an
unordered map is walked is not specified, so the label of an emission names its buffer.

The `history` of an `Emitter` records what happened. No step reads it.
-/

set_option autoImplicit false

namespace ChatCore.Utility

open ChatCore.Lib

/-- `std::numeric_limits<int>::max()`. -/
def intMax : Int := 2147483647

/-- `SignalState`. -/
structure SignalState (Slot : Type) where
  slots : AList (fun _ : Int => Slot) := ∅

namespace SignalState

variable {Slot : Type}

/-- `SignalState::Subscribe`, with the new value of `id_counter_`. The id of the slot is the
old value. -/
def subscribe (state : SignalState Slot) (idCounter : Int) (slot : Slot) :
    Option (SignalState Slot × Int) :=
  if idCounter < intMax then some (⟨state.slots.insert idCounter slot⟩, idCounter + 1)
  else none

/-- `SignalState::Unsubscribe`. -/
def unsubscribe (state : SignalState Slot) (id : Int) : SignalState Slot :=
  ⟨state.slots.erase id⟩

end SignalState

/-- A call of `Emit` that runs. -/
structure Emission (Arguments : Type) where
  number : Nat
  arguments : Arguments
  /-- The ids of `buffer` that the loop has not reached. -/
  buffer : List Int
  /-- Whether the loop waits for a slot to return. -/
  inSlot : Bool

/-- What the history of a signal records. -/
inductive Event (Slot Arguments : Type) where
  | subscribed (id : Int) (slot : Slot)
  | unsubscribed (id : Int)
  | started (emission : Nat) (arguments : Arguments)
  /-- The loop of `Emit` found the slot of `id` and calls it. -/
  | invoked (emission : Nat) (id : Int) (slot : Slot) (arguments : Arguments)
  /-- The loop of `Emit` found no slot for `id`. -/
  | skipped (emission : Nat) (id : Int)
  | finished (emission : Nat)
  deriving DecidableEq

/-- A signal, the calls of `Emit` that run, the innermost first, and its history. -/
structure Emitter (Slot Arguments : Type) where
  idCounter : Int := 0
  state : SignalState Slot := {}
  emissions : List (Emission Arguments) := []
  emissionCount : Nat := 0
  history : List (Event Slot Arguments) := []

/-- What can happen next. -/
inductive Action (Slot Arguments : Type) where
  /-- The running code calls `Subscribe`. -/
  | subscribe (slot : Slot)
  /-- Another signal with the same argument types draws an id. -/
  | subscribeOther
  /-- The running code calls `Unsubscribe`. -/
  | unsubscribe (id : Int)
  /-- The running code calls `Emit`. The loop over `slots_` fills `buffer`. -/
  | emit (arguments : Arguments) (buffer : List Int)
  /-- The innermost `Emit` makes the next round of its loop, or returns. -/
  | next
  /-- The slot that the innermost `Emit` called returns. -/
  | slotReturns

namespace Emitter

variable {Slot Arguments : Type}

/-- Whether the running code is outside the loop of `Emit`: no `Emit` runs, or the innermost
one is inside a slot. -/
def outsideLoop (s : Emitter Slot Arguments) : Bool := s.emissions.head?.all (·.inSlot)

/-- `Subscribe` on the signal. -/
def subscribe (s : Emitter Slot Arguments) (slot : Slot) : Option (Emitter Slot Arguments) :=
  (s.state.subscribe s.idCounter slot).map fun (state, idCounter) =>
    { s with state, idCounter, history := s.history ++ [.subscribed s.idCounter slot] }

/-- `Unsubscribe` on the signal. -/
def unsubscribe (s : Emitter Slot Arguments) (id : Int) : Emitter Slot Arguments :=
  { s with
    state := s.state.unsubscribe id
    history := s.history ++ [.unsubscribed id] }

/-- `Emit` up to its second loop. -/
def emit (s : Emitter Slot Arguments) (arguments : Arguments) (buffer : List Int) :
    Emitter Slot Arguments :=
  { s with
    emissions := ⟨s.emissionCount, arguments, buffer, false⟩ :: s.emissions
    emissionCount := s.emissionCount + 1
    history := s.history ++ [.started s.emissionCount arguments] }

/-- One round of the second loop of `Emit`: find the id again and call its slot. -/
def round (s : Emitter Slot Arguments) (e : Emission Arguments)
    (outer : List (Emission Arguments)) (id : Int) (buffer : List Int) :
    Emitter Slot Arguments :=
  match s.state.slots.lookup id with
  | none =>
    { s with
      emissions := { e with buffer } :: outer
      history := s.history ++ [.skipped e.number id] }
  | some slot =>
    { s with
      emissions := { e with buffer, inSlot := true } :: outer
      history := s.history ++ [.invoked e.number id slot e.arguments] }

/-- The end of `Emit`. -/
def finish (s : Emitter Slot Arguments) (e : Emission Arguments)
    (outer : List (Emission Arguments)) : Emitter Slot Arguments :=
  { s with
    emissions := outer
    history := s.history ++ [.finished e.number] }

/-- One step of the signal. -/
def step (s : Emitter Slot Arguments) : Action Slot Arguments → Option (Emitter Slot Arguments)
  | .subscribe slot => if s.outsideLoop then s.subscribe slot else none
  | .subscribeOther =>
    if s.idCounter < intMax then some { s with idCounter := s.idCounter + 1 } else none
  | .unsubscribe id => if s.outsideLoop then some (s.unsubscribe id) else none
  | .emit arguments buffer =>
    if s.outsideLoop ∧ buffer.Perm s.state.slots.keys then some (s.emit arguments buffer)
    else none
  | .next =>
    match s.emissions with
    | [] => none
    | e :: outer =>
      if e.inSlot then none
      else match e.buffer with
        | [] => some (s.finish e outer)
        | id :: buffer => some (s.round e outer id buffer)
  | .slotReturns =>
    match s.emissions with
    | [] => none
    | e :: outer =>
      if e.inSlot then some { s with emissions := { e with inSlot := false } :: outer }
      else none

end Emitter

/-- The runs of a signal from its construction. -/
def emitter (Slot Arguments : Type) : Lts (Emitter Slot Arguments) (Action Slot Arguments) where
  start s := s = {}
  step := Emitter.step

end ChatCore.Utility
