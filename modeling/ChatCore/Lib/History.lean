import Mathlib.Data.List.Basic

/-!
# `ChatCore.Lib.History`: histories that grow at their end

A history is a list with the first event first, and a step appends one event. A statement
about the moments of a history splits it as `before ++ e :: after`. `split_snoc` says where
the split of a history with one more event can stand, so such a statement is kept by a step
when it holds of the new event and held of the history before.
-/

set_option autoImplicit false

namespace ChatCore.Lib

variable {α : Type}

/-- A history with one more event, split at an event: the split is at the last event, or it
is a split of the history before. -/
theorem split_snoc {h before after : List α} {last e : α}
    (heq : h ++ [last] = before ++ e :: after) :
    (after = [] ∧ before = h ∧ e = last) ∨
      ∃ after', after = after' ++ [last] ∧ h = before ++ e :: after' := by
  rcases List.eq_nil_or_concat after with rfl | ⟨after', e', rfl⟩
  · obtain ⟨rfl, hlast⟩ := List.append_inj' heq rfl
    exact .inl ⟨rfl, rfl, by simpa using hlast.symm⟩
  · have hsplit : h ++ [last] = (before ++ e :: after') ++ [e'] := by simpa using heq
    obtain ⟨rfl, hlast⟩ := List.append_inj' hsplit rfl
    exact .inr ⟨after', by simpa using hlast.symm, rfl⟩

end ChatCore.Lib
