import ChatCore.Lib.Lts
import Mathlib.Data.List.Perm.Basic

/-!
# `ChatCore.Lib.Wakeup`: a thread that sleeps until a condition holds

A thread tests a condition and falls asleep when it is false. Another thread makes the condition
true and sends a signal afterwards, and a signal wakes the thread if it is asleep. A wakeup is
lost when the thread is asleep, the condition holds and no signal is on its way.

A step cannot lose a wakeup when it is a `Move`: it leaves the thread awake, or the condition
false, or a signal on its way, or it changes nothing for the worse. So one case for each step of a
system shows that none is lost (`notLost_reachable`).

What becomes true is often a queue that gets an entry. The calls that bring the entries are under
way in any order, so a step takes the `i`-th of them. The lemmas at the end say what is left.
-/

set_option autoImplicit false

namespace ChatCore.Lib

/-- What of a state the thread and its signals see. -/
structure Wakeup (State : Type) where
  /-- The thread is asleep. -/
  asleep : State → Prop
  /-- The condition that it waits for. -/
  ready : State → Prop
  /-- The signals that are on their way. -/
  signals : State → Nat

namespace Wakeup

variable {State Label : Type} (w : Wakeup State)

/-- A thread that has what it waits for is awake, or will be woken. -/
def NotLost (s : State) : Prop := w.asleep s → w.ready s → 0 < w.signals s

/-- A step that loses no wakeup. -/
inductive Move (s s' : State) : Prop
  | awake : ¬ w.asleep s' → Move s s'
  | unready : ¬ w.ready s' → Move s s'
  | signal : 0 < w.signals s' → Move s s'
  | keeps : (w.asleep s' → w.asleep s) → (w.ready s' → w.ready s) →
      w.signals s ≤ w.signals s' → Move s s'

variable {w}

/-- A step that is a `Move` does not lose a wakeup. -/
theorem NotLost.move {s s' : State} (h : w.NotLost s) (hmove : w.Move s s') : w.NotLost s' := by
  intro hasleep hready
  cases hmove with
  | awake hawake => exact absurd hasleep hawake
  | unready hunready => exact absurd hready hunready
  | signal hsignal => exact hsignal
  | keeps hasleep' hready' hsignals =>
    have hpos := h (hasleep' hasleep) (hready' hready)
    omega

/-- Without a signal on its way, a thread that is asleep has nothing to do. -/
theorem NotLost.unready {s : State} (h : w.NotLost s) (hasleep : w.asleep s)
    (hnone : w.signals s = 0) : ¬ w.ready s := by
  intro hready
  have hpos := h hasleep hready
  omega

/-- No wakeup is lost in a run of such steps. -/
theorem notLost_reachable {T : Lts State Label} {ok : State → Label → Prop}
    (hstart : ∀ s, T.start s → w.NotLost s)
    (hstep : ∀ s l s', T.step s l = some s' → w.Move s s') {s : State}
    (h : T.Reachable ok s) : w.NotLost s := by
  induction h with
  | start hs => exact hstart _ hs
  | step _ _ hs ih => exact ih.move (hstep _ _ _ hs)

end Wakeup

/-! ### Calls under way -/

section
variable {α : Type} {calls : List α} {i : Nat} {call : α}

/-- The call is taken out and all others stay. -/
theorem perm_eraseIdx_of_get (h : calls[i]? = some call) :
    calls.Perm (call :: calls.eraseIdx i) := by
  obtain ⟨hlt, heq⟩ := List.getElem?_eq_some_iff.mp h
  have hperm := List.getElem_cons_eraseIdx_perm hlt
  rw [heq] at hperm
  exact hperm.symm

/-- One call less is under way. -/
theorem length_eraseIdx_of_get (h : calls[i]? = some call) :
    (calls.eraseIdx i).length + 1 = calls.length := by
  rw [(perm_eraseIdx_of_get h).length_eq, List.length_cons]

end

end ChatCore.Lib
