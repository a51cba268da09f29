import Mathlib.Tactic.Common

/-!
# `ChatCore.Lib.Lts`: labelled transition systems and their reachable states

A system has start states and a partial step function. The label of a step says who moves
and what the environment chooses, so the step itself is a function and a run on a fixed
list of labels can be evaluated (`exec`).

`Reachable T ok s` says that some run from a start state ends in `s` and that each of its
steps satisfies `ok` in the state before the step. With `anyStep` for `ok` this is plain
reachability. `Reachable.invariant` is the induction rule: a predicate that holds at the
start and that each step keeps holds in every reachable state. `Leads p s s'` says that labels of
`p` alone take `s` to `s'`, and `Reachable.exists_quiescent` is the rule for progress.
`Reachable.of_exec` turns an evaluated run into a reachable state.
-/

set_option autoImplicit false

namespace ChatCore.Lib

/-- A labelled transition system. `step s l = none` means that the label `l` is not
enabled in the state `s`. -/
structure Lts (State Label : Type) where
  start : State → Prop
  step : State → Label → Option State

namespace Lts

variable {State Label : Type}

/-- The condition that allows every step. -/
def anyStep : State → Label → Prop := fun _ _ => True

instance : DecidableRel (@anyStep State Label) :=
  fun _ _ => inferInstanceAs (Decidable True)

/-- The states that runs of `T` reach when each step satisfies `ok`. -/
inductive Reachable (T : Lts State Label) (ok : State → Label → Prop) : State → Prop
  | start {s : State} : T.start s → Reachable T ok s
  | step {s s' : State} {l : Label} :
      Reachable T ok s → ok s l → T.step s l = some s' → Reachable T ok s'

/-- The run of `T` on a list of labels, from `s`. It stops with `none` at a label that is
not enabled or that does not satisfy `ok`. -/
def exec (T : Lts State Label) (ok : State → Label → Prop) [DecidableRel ok] :
    State → List Label → Option State
  | s, [] => some s
  | s, l :: ls => if ok s l then (T.step s l).bind fun s' => exec T ok s' ls else none

variable {T : Lts State Label} {ok : State → Label → Prop}

/-- Without a condition a run takes its first step and goes on from there. -/
theorem exec_cons_anyStep (s : State) (l : Label) (ls : List Label) :
    T.exec anyStep s (l :: ls) = (T.step s l).bind fun s' => T.exec anyStep s' ls :=
  if_pos trivial

/-- The invariant rule on top of what is known of the reachable states: `I` holds in every
start state, and every step from a reachable state keeps it. -/
theorem Reachable.invariant_of_reachable {I : State → Prop} (hstart : ∀ s, T.start s → I s)
    (hstep : ∀ s l s', Reachable T ok s → I s → ok s l → T.step s l = some s' → I s')
    {s : State} (h : Reachable T ok s) : I s := by
  induction h with
  | start h0 => exact hstart _ h0
  | step hr hok hs ih => exact hstep _ _ _ hr ih hok hs

/-- The invariant rule: `I` holds in every start state and every step keeps it. -/
theorem Reachable.invariant {I : State → Prop} (hstart : ∀ s, T.start s → I s)
    (hstep : ∀ s l s', I s → ok s l → T.step s l = some s' → I s')
    {s : State} (h : Reachable T ok s) : I s :=
  h.invariant_of_reachable hstart fun s l s' _ => hstep s l s'

/-- A weaker condition on the steps reaches at least as much. -/
theorem Reachable.mono {ok' : State → Label → Prop} (himp : ∀ s l, ok s l → ok' s l) {s : State}
    (h : Reachable T ok s) : Reachable T ok' s := by
  induction h with
  | start h0 => exact .start h0
  | step _ hok hs ih => exact .step ih (himp _ _ hok) hs

/-- So does a run on a list of labels. -/
theorem exec_mono {ok' : State → Label → Prop} [DecidableRel ok] [DecidableRel ok']
    (himp : ∀ s l, ok s l → ok' s l) {s s' : State} {ls : List Label}
    (he : T.exec ok s ls = some s') : T.exec ok' s ls = some s' := by
  induction ls generalizing s with
  | nil => exact he
  | cons l ls ih =>
    simp only [exec, Option.ite_none_right_eq_some] at he ⊢
    obtain ⟨hok, he⟩ := he
    obtain ⟨t, ht, he⟩ := Option.bind_eq_some_iff.mp he
    exact ⟨himp s l hok, Option.bind_eq_some_iff.mpr ⟨t, ht, ih he⟩⟩

/-- Forgetting a part of the state: when every step of `T` is a step of `T'` on what is left,
the reachable states of `T` project to reachable states of `T'`. -/
theorem Reachable.project {State' : Type} {T' : Lts State' Label} (f : State → State')
    (hstart : ∀ s, T.start s → T'.start (f s))
    (hstep : ∀ s l s', T.step s l = some s' → T'.step (f s) l = some (f s'))
    {s : State} (h : Reachable T ok s) : Reachable T' anyStep (f s) := by
  induction h with
  | start h0 => exact .start (hstart _ h0)
  | step _ _ hs ih => exact .step ih trivial (hstep _ _ _ hs)

/-- `s'` is the end of some run from `s` whose labels all satisfy `p`. -/
def Leads (T : Lts State Label) (p : Label → Prop) (s s' : State) : Prop :=
  ∃ ls, (∀ l ∈ ls, p l) ∧ T.exec anyStep s ls = some s'

/-- A state leads to itself, by the empty run. -/
theorem Leads.refl (p : Label → Prop) (s : State) : T.Leads p s s := ⟨[], by simp, rfl⟩

/-- A first step, and then a run from where it ends. -/
theorem Leads.head {p : Label → Prop} {s t s' : State} {l : Label} (hl : p l)
    (ht : T.step s l = some t) (h : T.Leads p t s') : T.Leads p s s' := by
  obtain ⟨ls, hls, hexec⟩ := h
  refine ⟨l :: ls, by simpa [hl] using hls, ?_⟩
  rw [exec_cons_anyStep, ht]
  exact hexec

/-- Two runs one after the other are one run. -/
theorem Leads.trans {p : Label → Prop} {s t s' : State} (h : T.Leads p s t)
    (h' : T.Leads p t s') : T.Leads p s s' := by
  obtain ⟨ls, hls, hexec⟩ := h
  induction ls generalizing s with
  | nil =>
    obtain rfl : s = t := Option.some.inj hexec
    exact h'
  | cons l ls ih =>
    rw [exec_cons_anyStep] at hexec
    obtain ⟨u, hu, hexec⟩ := Option.bind_eq_some_iff.mp hexec
    rw [List.forall_mem_cons] at hls
    exact .head hls.1 hu (ih hls.2 hexec)

/-- Steps that decrease a measure come to an end: some run of them leads from `s` to a state in
which none of them is enabled. What each of them keeps, the run keeps, so it is enough to look
at the states that have kept it. -/
theorem Reachable.exists_quiescent {Kept : Type} {p : Label → Prop} (work : State → Nat)
    (kept : State → Kept) (hok : ∀ s l, p l → ok s l) {s : State}
    (hstep : ∀ t l t', Reachable T ok t → kept t = kept s → p l → T.step t l = some t' →
      kept t' = kept t ∧ work t' < work t)
    (h : Reachable T ok s) :
    ∃ s', T.Leads p s s' ∧ Reachable T ok s' ∧ kept s' = kept s ∧
      ∀ l, p l → T.step s' l = none := by
  induction hwork : work s using Nat.strongRecOn generalizing s with
  | ind n ih =>
    by_cases hquiet : ∀ l, p l → T.step s l = none
    · exact ⟨s, .refl p s, h, rfl, hquiet⟩
    · -- Some label is enabled, and its step is the first one of the run.
      obtain ⟨l, hl, hne⟩ : ∃ l, p l ∧ T.step s l ≠ none := by
        simpa using hquiet
      obtain ⟨t, ht⟩ := Option.ne_none_iff_exists'.mp hne
      obtain ⟨hkept, hlt⟩ := hstep s l t h rfl hl ht
      have hreach_t : Reachable T ok t := .step h (hok s l hl) ht
      obtain ⟨s', hleads, hreach, hkept', hquiet'⟩ := ih (work t) (hwork ▸ hlt)
        (fun u l u' hu hku => hstep u l u' hu (hku.trans hkept)) hreach_t rfl
      exact ⟨s', hleads.head hl ht, hreach, hkept'.trans hkept, hquiet'⟩

/-- An evaluated run from a reachable state ends in a reachable state. -/
theorem Reachable.of_exec [DecidableRel ok] {s s' : State} {ls : List Label}
    (h : Reachable T ok s) (he : T.exec ok s ls = some s') : Reachable T ok s' := by
  induction ls generalizing s with
  | nil =>
    simp only [exec, Option.some.injEq] at he
    exact he ▸ h
  | cons l ls ih =>
    simp only [exec] at he
    split at he
    · rename_i hok
      obtain ⟨t, ht, he⟩ := Option.bind_eq_some_iff.mp he
      exact ih (.step h hok ht) he
    · cases he

/-- A fact about the end of an evaluated run, as `decide` proves it, gives a reachable
state with that fact. -/
theorem Reachable.exists_of_exec [DecidableRel ok] {s : State} (h : Reachable T ok s)
    (ls : List Label) (p : State → Prop) [DecidablePred p]
    (he : (T.exec ok s ls).any (p ·) = true) : ∃ s', Reachable T ok s' ∧ p s' := by
  obtain ⟨s', hs', hp⟩ := Option.any_eq_true _ _ |>.mp he
  exact ⟨s', h.of_exec hs', of_decide_eq_true hp⟩

end Lts

end ChatCore.Lib
