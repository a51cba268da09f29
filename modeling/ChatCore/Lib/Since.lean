import Mathlib.Data.List.Induction

/-!
# `ChatCore.Lib.Since`: what happened last in a trace

A trace is a list of events, oldest first. `Since p q l` says that an event with `p` has
happened and that no event with `q` has happened after it. `latest f l` is the value of the
last event on which `f` is defined. Both are described by what one more event does to them.
-/

set_option autoImplicit false

namespace ChatCore.Lib

variable {α β : Type}

/-- Some `p` has happened, and no `q` after it. -/
def Since (p q : α → Prop) (l : List α) : Prop :=
  ∃ before a after, l = before ++ a :: after ∧ p a ∧ ∀ b ∈ after, ¬ q b

/-- Nothing holds since a point of an empty list. -/
@[simp] theorem not_since_nil (p q : α → Prop) : ¬ Since p q [] := by
  intro h
  obtain ⟨before, a, after, hl, -, -⟩ := h
  simp at hl

/-- One more event: it is the `p`, or it is no `q` and the rest has `Since`. -/
theorem since_append_singleton {p q : α → Prop} {l : List α} {x : α} :
    Since p q (l ++ [x]) ↔ p x ∨ (Since p q l ∧ ¬ q x) := by
  constructor
  · intro h
    obtain ⟨before, a, after, hl, ha, hafter⟩ := h
    -- The new event is the last one of `after`, or it is `a` itself.
    rcases List.eq_nil_or_concat after with rfl | ⟨rest, y, rfl⟩
    · have hsplit : l ++ [x] = before ++ [a] := hl
      obtain ⟨-, hx⟩ := List.append_inj' hsplit rfl
      have hxa : x = a := by simpa using hx
      exact Or.inl (hxa ▸ ha)
    · have hsplit : l ++ [x] = (before ++ a :: rest) ++ [y] := by
        rw [hl]
        simp
      obtain ⟨hl', hx⟩ := List.append_inj' hsplit rfl
      have hxy : x = y := by simpa using hx
      refine Or.inr ⟨⟨before, a, rest, hl', ha, fun b hb => hafter b ?_⟩, ?_⟩
      · simp [hb]
      · exact hafter x (by simp [hxy])
  · intro h
    rcases h with hx | ⟨⟨before, a, after, hl, ha, hafter⟩, hq⟩
    · exact ⟨l, x, [], rfl, hx, by simp⟩
    · refine ⟨before, a, after ++ [x], by rw [hl]; simp, ha, fun b hb => ?_⟩
      rcases List.mem_append.mp hb with hb | hb
      · exact hafter b hb
      · rw [List.mem_singleton.mp hb]
        exact hq

/-- The value of the last event on which `f` is defined. -/
def latest (f : α → Option β) (l : List α) : Option β := (l.reverse.findSome? f)

/-- An empty list has no latest value. -/
@[simp] theorem latest_nil (f : α → Option β) : latest f [] = none := rfl

/-- One more event decides, if `f` is defined on it. -/
theorem latest_append_singleton (f : α → Option β) (l : List α) (x : α) :
    latest f (l ++ [x]) = (f x).or (latest f l) := by
  unfold latest
  rw [List.reverse_append, List.reverse_singleton, List.singleton_append, List.findSome?_cons]
  cases f x <;> rfl

/-- The later part of a trace decides, if it says anything. -/
theorem latest_append (f : α → Option β) (l l' : List α) :
    latest f (l ++ l') = (latest f l').or (latest f l) := by
  induction l' using List.reverseRecOn with
  | nil => rw [List.append_nil, latest_nil, Option.none_or]
  | append_singleton l' x ih =>
    rw [← List.append_assoc, latest_append_singleton, latest_append_singleton, ih, Option.or_assoc]

/-- There is no latest value where no element has one. -/
theorem latest_eq_none {f : α → Option β} {l : List α} :
    latest f l = none ↔ ∀ x ∈ l, f x = none := by
  simp [latest]

/-- A trace of one event, which may happen more than once. -/
theorem latest_of_forall_eq {f : α → Option β} {l : List α} {a : α} (h : ∀ x ∈ l, x = a)
    (ha : a ∈ l) : latest f l = f a := by
  cases hf : f a with
  | none => exact latest_eq_none.mpr fun x hx => (h x hx).symm ▸ hf
  | some b =>
    cases hlatest : latest f l with
    | none => exact absurd (latest_eq_none.mp hlatest a ha) (by simp [hf])
    | some b' =>
      obtain ⟨x, hx, hfx⟩ := List.exists_of_findSome?_eq_some hlatest
      rw [h x (List.mem_reverse.mp hx), hf] at hfx
      exact hfx.symm

end ChatCore.Lib
