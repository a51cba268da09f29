import Mathlib.Data.List.Sort
import Mathlib.Data.List.Destutter
import Mathlib.Data.List.DropRight

/-!
# `ChatCore.Lib.Ascending`: strictly ascending lists and their ends

A vector that is kept sorted and free of duplicates is a strictly ascending list
(`List.SortedLT`). Two such lists with the same members are equal
(`List.SortedLT.eq_of_mem_iff`), so an operation on such a vector is described by its
members. `mem_mergeUnique` and `sortedLT_mergeUnique` do this for the sequence
sort, deduplicate, append, merge in place, deduplicate.

The second part is about the last `k` elements of a list, `List.rtake`. A page read from
the end of a list that is split as `older ++ newer` takes all of `newer` and the rest from
the end of `older` (`rtake_append_of_le`).
-/

set_option autoImplicit false

namespace ChatCore.Lib

section Merge
variable {α : Type} [LinearOrder α]

/-- The merge of two sorted ranges. On equal elements the first range goes first. The
recursion is structural, on the first range and inside it on the second one, so that a merge can
be evaluated. -/
def merge : List α → List α → List α
  | [] => id
  | x :: xs => mergeHead x (merge xs)
where
  /-- Merge `x` followed by `rest` into the second range. -/
  mergeHead (x : α) (rest : List α → List α) : List α → List α
    | [] => x :: rest []
    | y :: ys => if x ≤ y then x :: rest (y :: ys) else y :: mergeHead x rest ys

/-- It is the merge of the library. -/
theorem merge_eq_merge (xs ys : List α) : merge xs ys = List.merge xs ys (· ≤ ·) := by
  induction xs generalizing ys with
  | nil => rw [List.nil_merge]; rfl
  | cons x xs ih =>
    induction ys with
    | nil =>
      show x :: merge xs [] = _
      rw [ih, List.merge_right, List.merge_right]
    | cons y ys ihy =>
      rw [List.cons_merge_cons, ← ih, ← ihy]
      show (if x ≤ y then x :: merge xs (y :: ys) else y :: merge (x :: xs) ys) = _
      simp only [decide_eq_true_eq]

/-- The merge of two sorted ranges is sorted. -/
theorem pairwise_merge {xs ys : List α} (hxs : xs.Pairwise (· ≤ ·)) (hys : ys.Pairwise (· ≤ ·)) :
    (merge xs ys).Pairwise (· ≤ ·) := by
  rw [merge_eq_merge]
  exact hxs.merge hys

/-- Remove each element that equals the element before it. -/
def unique (l : List α) : List α := l.destutter (· ≠ ·)

/-- On a sorted list `unique` keeps the members. -/
theorem mem_unique {l : List α} (h : l.Pairwise (· ≤ ·)) (a : α) : a ∈ unique l ↔ a ∈ l := by
  rw [unique, h.destutter_eq_dedup, List.mem_dedup]

/-- On a sorted list `unique` leaves no duplicate. -/
theorem sortedLT_unique {l : List α} (h : l.Pairwise (· ≤ ·)) : (unique l).SortedLT := by
  rw [List.sortedLT_iff_nodup_and_sortedLE]
  refine ⟨?_, (h.sublist (List.destutter_sublist _ l)).sortedLE⟩
  rw [unique, h.destutter_eq_dedup]
  exact l.nodup_dedup

/-- Sort and deduplicate `ys`, append it to `xs`, merge the two ranges in place and
deduplicate. -/
def mergeUnique (xs ys : List α) : List α :=
  unique (merge xs (unique (ys.insertionSort (· ≤ ·))))

/-- Without its repetitions a sorted list is still sorted. -/
theorem pairwise_sorted_unique (ys : List α) :
    (unique (ys.insertionSort (· ≤ ·))).Pairwise (· ≤ ·) :=
  (List.pairwise_insertionSort (· ≤ ·) ys).sublist (List.destutter_sublist _ _)

/-- The members of `mergeUnique xs ys` are the members of `xs` and of `ys`. -/
theorem mem_mergeUnique {xs : List α} (h : xs.SortedLT) (ys : List α) (a : α) :
    a ∈ mergeUnique xs ys ↔ a ∈ xs ∨ a ∈ ys := by
  have hs := List.pairwise_insertionSort (· ≤ ·) ys
  rw [mergeUnique, mem_unique (pairwise_merge h.sortedLE.pairwise (pairwise_sorted_unique ys)),
    merge_eq_merge, List.mem_merge, mem_unique hs, List.mem_insertionSort]

/-- `mergeUnique` keeps a strictly ascending list strictly ascending. -/
theorem sortedLT_mergeUnique {xs : List α} (h : xs.SortedLT) (ys : List α) :
    (mergeUnique xs ys).SortedLT :=
  sortedLT_unique (pairwise_merge h.sortedLE.pairwise (pairwise_sorted_unique ys))

/-- A value above every value of a strictly ascending list goes to its end. -/
theorem sortedLT_append_singleton {xs : List α} {a : α} (h : xs.SortedLT) (hlt : ∀ x ∈ xs, x < a) :
    (xs ++ [a]).SortedLT := by
  refine (List.pairwise_append.mpr ⟨h.pairwise, List.pairwise_singleton _ a, ?_⟩).sortedLT
  intro x hx y hy
  rw [List.mem_singleton.mp hy]
  exact hlt x hx

/-- A strictly ascending list with the members of `xs` and `ys` is `mergeUnique xs ys`. -/
theorem mergeUnique_eq {xs ys zs : List α} (hx : xs.SortedLT) (hz : zs.SortedLT)
    (hmem : ∀ a, a ∈ zs ↔ a ∈ xs ∨ a ∈ ys) : mergeUnique xs ys = zs := by
  refine (sortedLT_mergeUnique hx ys).eq_of_mem_iff hz fun a => ?_
  rw [mem_mergeUnique hx, hmem]

end Merge

section Rtake
variable {α β : Type}

/-- A list that is short enough is its own end. -/
theorem rtake_of_length_le {l : List α} {k : Nat} (h : l.length ≤ k) : l.rtake k = l := by
  simp [List.rtake, Nat.sub_eq_zero_of_le h]

/-- A page that covers `newer` takes the rest from the end of `older`. -/
theorem rtake_append_of_le {older newer : List α} {k : Nat} (h : newer.length ≤ k) :
    (older ++ newer).rtake k = older.rtake (k - newer.length) ++ newer := by
  have hlen : older.length + newer.length - k = older.length - (k - newer.length) := by omega
  have hle : older.length - (k - newer.length) ≤ older.length := Nat.sub_le _ _
  rw [List.rtake, List.length_append, hlen, List.drop_append_of_le_length hle]
  rfl

/-- A page that `newer` covers does not look at `older`. -/
theorem rtake_append_of_ge {older newer : List α} {k : Nat} (h : k ≤ newer.length) :
    (older ++ newer).rtake k = newer.rtake k := by
  have hlen : older.length + newer.length - k = older.length + (newer.length - k) := by omega
  rw [List.rtake, List.length_append, hlen, List.drop_append]
  simp [List.rtake]

/-- The length of the end of a list. -/
theorem length_rtake (l : List α) (k : Nat) : (l.rtake k).length = min k l.length := by
  simp [List.rtake]
  omega

/-- A function is applied to the end of a list or to the list first. -/
theorem map_rtake (f : α → β) (l : List α) (k : Nat) : (l.rtake k).map f = (l.map f).rtake k := by
  simp [List.rtake, List.map_drop]

/-- What a page leaves out stands before it. -/
theorem take_append_rtake (l : List α) (k : Nat) :
    l.take (l.length - k) ++ l.rtake k = l := List.take_append_drop _ _

/-- What is at the end of a list is in the list. -/
theorem mem_of_mem_rtake {l : List α} {k : Nat} {a : α} (h : a ∈ l.rtake k) : a ∈ l :=
  List.mem_of_mem_drop h

end Rtake

end ChatCore.Lib
