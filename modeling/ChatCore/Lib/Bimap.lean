import Mathlib.Data.List.Nodup
import Mathlib.Logic.Function.Basic

/-!
# `ChatCore.Lib.Bimap`: maps that are read in both directions

A bimap is a list of pairs that is searched by its left and by its right component.
`MultiBimap` has unique left keys and allows a right key several times. `Bimap` has unique
keys on both sides. The uniqueness is part of the type.

`insert` adds a pair only when no key of it that must be unique is taken. On a conflict it
leaves the map as it is and reports nothing, so a caller that needs the pair to be there
has to rule out the conflict (`mem_insert`).
-/

set_option autoImplicit false

namespace ChatCore.Lib

variable {α β : Type}

/-- Pairs with unique left keys. -/
structure MultiBimap (α β : Type) where
  pairs : List (α × β)
  leftNodup : (pairs.map Prod.fst).Nodup

namespace MultiBimap

instance : Membership (α × β) (MultiBimap α β) := ⟨fun m p => p ∈ m.pairs⟩

/-- The map without pairs. -/
def empty : MultiBimap α β := ⟨[], List.nodup_nil⟩

/-- The right component of the pair with the left key `a`. -/
def findLeft [DecidableEq α] (m : MultiBimap α β) (a : α) : Option β :=
  (m.pairs.find? (·.1 = a)).map Prod.snd

/-- The left components of the pairs with the right key `b`. -/
def rangeRight [DecidableEq β] (m : MultiBimap α β) (b : β) : List α :=
  (m.pairs.filter (·.2 = b)).map Prod.fst

/-- Remove the pair with the left key `a`. -/
def eraseLeft [DecidableEq α] (m : MultiBimap α β) (a : α) : MultiBimap α β where
  pairs := m.pairs.filter (·.1 ≠ a)
  leftNodup := m.leftNodup.sublist (List.filter_sublist.map _)

/-- Add the pair `(a, b)` unless the left key is taken. -/
def insert [DecidableEq α] (m : MultiBimap α β) (a : α) (b : β) : MultiBimap α β :=
  if h : a ∈ m.pairs.map Prod.fst then m
  else ⟨m.pairs ++ [(a, b)], by
    rw [List.map_append]
    exact List.Nodup.append m.leftNodup (by simp) (by simpa using h)⟩

/-- Membership is that of the list of pairs. -/
theorem mem_iff (m : MultiBimap α β) (p : α × β) : p ∈ m ↔ p ∈ m.pairs := Iff.rfl

/-- The empty map has no pair. -/
@[simp] theorem not_mem_empty (p : α × β) : ¬ p ∈ (empty : MultiBimap α β) := List.not_mem_nil

/-- Left keys are unique. -/
theorem right_eq {m : MultiBimap α β} {a : α} {b b' : β} (h : (a, b) ∈ m) (h' : (a, b') ∈ m) :
    b = b' :=
  congrArg Prod.snd (List.inj_on_of_nodup_map m.leftNodup h h' rfl)

/-- `findLeft` finds exactly the pairs of the map. -/
theorem findLeft_eq_some [DecidableEq α] {m : MultiBimap α β} {a : α} {b : β} :
    m.findLeft a = some b ↔ (a, b) ∈ m := by
  unfold findLeft
  constructor
  · intro h
    obtain ⟨⟨a', b'⟩, hfind, rfl⟩ := Option.map_eq_some_iff.mp h
    have ha : a' = a := by simpa using List.find?_some hfind
    exact ha ▸ List.mem_of_find?_eq_some hfind
  · intro h
    cases hfind : m.pairs.find? (·.1 = a) with
    | none =>
      rw [List.find?_eq_none] at hfind
      simpa using hfind (a, b) h
    | some p =>
      obtain ⟨a', b'⟩ := p
      have ha : a' = a := by simpa using List.find?_some hfind
      subst ha
      have hmem : (a', b') ∈ m := List.mem_of_find?_eq_some hfind
      rw [Option.map_some, right_eq hmem h]

/-- `findLeft` fails exactly when no pair has the left key. -/
theorem findLeft_eq_none [DecidableEq α] {m : MultiBimap α β} {a : α} :
    m.findLeft a = none ↔ ∀ b, (a, b) ∉ m := by
  constructor
  · intro h b hb
    rw [findLeft_eq_some.mpr hb] at h
    cases h
  · intro h
    cases hfind : m.findLeft a with
    | none => rfl
    | some b => exact absurd (findLeft_eq_some.mp hfind) (h b)

/-- `rangeRight` lists the left keys of a right key. -/
theorem mem_rangeRight [DecidableEq β] {m : MultiBimap α β} {a : α} {b : β} :
    a ∈ m.rangeRight b ↔ (a, b) ∈ m := by
  unfold rangeRight
  rw [List.mem_map]
  constructor
  · rintro ⟨⟨a', b'⟩, hp, rfl⟩
    obtain ⟨hmem, hb⟩ := List.mem_filter.mp hp
    have hb' : b' = b := by simpa using hb
    exact hb' ▸ hmem
  · intro h
    exact ⟨(a, b), List.mem_filter.mpr ⟨h, by simp⟩, rfl⟩

/-- `rangeRight` lists each left key once. -/
theorem nodup_rangeRight [DecidableEq β] (m : MultiBimap α β) (b : β) : (m.rangeRight b).Nodup :=
  m.leftNodup.sublist (List.filter_sublist.map _)

/-- `eraseLeft` removes all pairs of one left key. -/
@[simp] theorem mem_eraseLeft [DecidableEq α] {m : MultiBimap α β} {a a' : α} {b : β} :
    (a', b) ∈ m.eraseLeft a ↔ (a', b) ∈ m ∧ a' ≠ a := by
  simp [mem_iff, eraseLeft]

/-- The pairs after an `insert`. -/
theorem mem_insert [DecidableEq α] {m : MultiBimap α β} {a a' : α} {b b' : β} :
    (a', b') ∈ m.insert a b ↔ (a', b') ∈ m ∨ (a' = a ∧ b' = b ∧ ∀ x, (a, x) ∉ m) := by
  unfold insert
  split
  · rename_i h
    obtain ⟨⟨x, y⟩, hxy, rfl⟩ := List.mem_map.mp h
    constructor
    · exact Or.inl
    · rintro (h' | ⟨-, -, hfree⟩)
      · exact h'
      · exact absurd hxy (hfree y)
  · rename_i h
    have hfree : ∀ x, (a, x) ∉ m := fun x hx => h (List.mem_map.mpr ⟨(a, x), hx, rfl⟩)
    simp only [mem_iff, List.mem_append, List.mem_singleton, Prod.mk.injEq]
    constructor
    · rintro (h' | ⟨h1, h2⟩)
      · exact Or.inl h'
      · exact Or.inr ⟨h1, h2, hfree⟩
    · rintro (h' | ⟨h1, h2, -⟩)
      · exact Or.inl h'
      · exact Or.inr ⟨h1, h2⟩

/-- After an erasure the left key has no pair, and the other keys have the pairs they had. -/
theorem findLeft_eraseLeft [DecidableEq α] (m : MultiBimap α β) (a : α) :
    (m.eraseLeft a).findLeft = Function.update m.findLeft a none := by
  funext a'
  refine Option.ext fun b => ?_
  rw [findLeft_eq_some, mem_eraseLeft]
  by_cases ha : a' = a
  · simp [ha]
  · rw [Function.update_of_ne ha, findLeft_eq_some]
    simp [ha]

/-- After an insertion of a free left key it has the new pair. -/
theorem findLeft_insert [DecidableEq α] {m : MultiBimap α β} {a : α} (b : β)
    (ha : ∀ x, (a, x) ∉ m) :
    (m.insert a b).findLeft = Function.update m.findLeft a (some b) := by
  funext a'
  refine Option.ext fun b' => ?_
  rw [findLeft_eq_some, mem_insert]
  by_cases ha' : a' = a
  · subst ha'
    rw [Function.update_self]
    constructor
    · rintro (hold | ⟨-, rfl, -⟩)
      · exact absurd hold (ha b')
      · rfl
    · intro h
      exact Or.inr ⟨rfl, (Option.some.inj h).symm, ha⟩
  · rw [Function.update_of_ne ha', findLeft_eq_some]
    simp [ha']

end MultiBimap

/-- Pairs with unique left keys and unique right keys. -/
structure Bimap (α β : Type) extends MultiBimap α β where
  rightNodup : (pairs.map Prod.snd).Nodup

namespace Bimap

instance : Membership (α × β) (Bimap α β) := ⟨fun m p => p ∈ m.toMultiBimap⟩

/-- The map without pairs. -/
def empty : Bimap α β := { MultiBimap.empty with rightNodup := List.nodup_nil }

/-- The left component of the pair with the right key `b`. -/
def findRight [DecidableEq β] (m : Bimap α β) (b : β) : Option α :=
  (m.pairs.find? (·.2 = b)).map Prod.fst

/-- Remove the pair with the left key `a`. -/
def eraseLeft [DecidableEq α] (m : Bimap α β) (a : α) : Bimap α β where
  toMultiBimap := m.toMultiBimap.eraseLeft a
  rightNodup := m.rightNodup.sublist (List.filter_sublist.map _)

/-- Add the pair `(a, b)` unless one of its keys is taken. -/
def insert [DecidableEq α] [DecidableEq β] (m : Bimap α β) (a : α) (b : β) : Bimap α β :=
  if h : a ∈ m.pairs.map Prod.fst ∨ b ∈ m.pairs.map Prod.snd then m
  else
    { pairs := m.pairs ++ [(a, b)]
      leftNodup := by
        rw [List.map_append]
        exact List.Nodup.append m.leftNodup (by simp) (by simpa using (not_or.mp h).1)
      rightNodup := by
        rw [List.map_append]
        exact List.Nodup.append m.rightNodup (by simp) (by simpa using (not_or.mp h).2) }

/-- Membership is that of the underlying map. -/
theorem mem_iff (m : Bimap α β) (p : α × β) : p ∈ m ↔ p ∈ m.toMultiBimap := Iff.rfl

/-- The empty map has no pair. -/
@[simp] theorem not_mem_empty (p : α × β) : ¬ p ∈ (empty : Bimap α β) := List.not_mem_nil

/-- Left keys are unique. -/
theorem right_eq {m : Bimap α β} {a : α} {b b' : β} (h : (a, b) ∈ m) (h' : (a, b') ∈ m) :
    b = b' := MultiBimap.right_eq h h'

/-- Right keys are unique. -/
theorem left_eq {m : Bimap α β} {a a' : α} {b : β} (h : (a, b) ∈ m) (h' : (a', b) ∈ m) :
    a = a' :=
  congrArg Prod.fst (List.inj_on_of_nodup_map m.rightNodup h h' rfl)

/-- A lookup finds the pairs of the map. -/
theorem findLeft_eq_some [DecidableEq α] {m : Bimap α β} {a : α} {b : β} :
    m.findLeft a = some b ↔ (a, b) ∈ m := MultiBimap.findLeft_eq_some

/-- A lookup finds nothing where there is no pair. -/
theorem findLeft_eq_none [DecidableEq α] {m : Bimap α β} {a : α} :
    m.findLeft a = none ↔ ∀ b, (a, b) ∉ m := MultiBimap.findLeft_eq_none

/-- `findRight` finds exactly the pairs of the map. -/
theorem findRight_eq_some [DecidableEq β] {m : Bimap α β} {a : α} {b : β} :
    m.findRight b = some a ↔ (a, b) ∈ m := by
  unfold findRight
  constructor
  · intro h
    obtain ⟨⟨a', b'⟩, hfind, rfl⟩ := Option.map_eq_some_iff.mp h
    have hb : b' = b := by simpa using List.find?_some hfind
    exact hb ▸ List.mem_of_find?_eq_some hfind
  · intro h
    cases hfind : m.pairs.find? (·.2 = b) with
    | none =>
      rw [List.find?_eq_none] at hfind
      simpa using hfind (a, b) h
    | some p =>
      obtain ⟨a', b'⟩ := p
      have hb : b' = b := by simpa using List.find?_some hfind
      subst hb
      have hmem : (a', b') ∈ m := List.mem_of_find?_eq_some hfind
      rw [Option.map_some, left_eq hmem h]

/-- `findRight` fails exactly when no pair has the right key. -/
theorem findRight_eq_none [DecidableEq β] {m : Bimap α β} {b : β} :
    m.findRight b = none ↔ ∀ a, (a, b) ∉ m := by
  constructor
  · intro h a ha
    rw [findRight_eq_some.mpr ha] at h
    cases h
  · intro h
    cases hfind : m.findRight b with
    | none => rfl
    | some a => exact absurd (findRight_eq_some.mp hfind) (h a)

/-- `eraseLeft` removes the pair of one left key. -/
@[simp] theorem mem_eraseLeft [DecidableEq α] {m : Bimap α β} {a a' : α} {b : β} :
    (a', b) ∈ m.eraseLeft a ↔ (a', b) ∈ m ∧ a' ≠ a := MultiBimap.mem_eraseLeft

/-- Erasing a key that is not there changes nothing. -/
theorem eraseLeft_of_not_mem [DecidableEq α] {m : Bimap α β} {a : α} (h : ∀ b, (a, b) ∉ m) :
    m.eraseLeft a = m := by
  have hpairs : m.pairs.filter (fun p => decide (p.1 ≠ a)) = m.pairs := by
    refine List.filter_eq_self.mpr fun p hp => ?_
    have hne : p.1 ≠ a := fun he => h p.2 (he ▸ hp)
    simpa using hne
  obtain ⟨⟨pairs, hleft⟩, hright⟩ := m
  simp only [eraseLeft, MultiBimap.eraseLeft] at hpairs ⊢
  simp only [hpairs]

/-- Whether the keys are free or not, `insert` adds nothing but the pair. -/
theorem mem_of_mem_insert [DecidableEq α] [DecidableEq β] {m : Bimap α β} {a a' : α} {b b' : β}
    (h : (a', b') ∈ m.insert a b) : (a', b') ∈ m ∨ (a' = a ∧ b' = b) := by
  unfold insert at h
  split at h
  · exact .inl h
  · simpa [mem_iff, MultiBimap.mem_iff] using h

/-- With both keys free, `insert` adds the pair and nothing else. -/
theorem mem_insert [DecidableEq α] [DecidableEq β] {m : Bimap α β}
    {a a' : α} {b b' : β} (ha : ∀ x, (a, x) ∉ m)
    (hb : ∀ x, (x, b) ∉ m) :
    (a', b') ∈ m.insert a b ↔ (a', b') ∈ m ∨ (a' = a ∧ b' = b) := by
  have hfree : ¬ (a ∈ m.pairs.map Prod.fst ∨ b ∈ m.pairs.map Prod.snd) := by
    rintro (h | h)
    · obtain ⟨⟨x, y⟩, hxy, rfl⟩ := List.mem_map.mp h
      exact ha y hxy
    · obtain ⟨⟨x, y⟩, hxy, rfl⟩ := List.mem_map.mp h
      exact hb x hxy
  rw [insert, dif_neg hfree]
  simp [mem_iff, MultiBimap.mem_iff]

/-- After an erasure the left key has no pair, and the other keys have the pairs they had. -/
theorem findLeft_eraseLeft [DecidableEq α] (m : Bimap α β) (a : α) :
    (m.eraseLeft a).findLeft = Function.update m.findLeft a none :=
  MultiBimap.findLeft_eraseLeft m.toMultiBimap a

/-- After an insertion of two free keys the left one has the new pair. -/
theorem findLeft_insert [DecidableEq α] [DecidableEq β] {m : Bimap α β} {a : α} {b : β}
    (ha : ∀ x, (a, x) ∉ m) (hb : ∀ x, (x, b) ∉ m) :
    (m.insert a b).findLeft = Function.update m.findLeft a (some b) := by
  funext a'
  refine Option.ext fun b' => ?_
  rw [findLeft_eq_some, mem_insert ha hb]
  by_cases ha' : a' = a
  · subst ha'
    rw [Function.update_self]
    constructor
    · rintro (hold | ⟨-, rfl⟩)
      · exact absurd hold (ha b')
      · rfl
    · intro h
      exact Or.inr ⟨rfl, (Option.some.inj h).symm⟩
  · rw [Function.update_of_ne ha', findLeft_eq_some]
    simp [ha']

end Bimap

end ChatCore.Lib
