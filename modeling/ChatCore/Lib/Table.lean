import Mathlib.Data.List.Sort

/-!
# `ChatCore.Lib.Table`: tables ordered by an integer primary key

A table with an integer primary key is a list of rows in ascending order of that key. The
order is part of the type, so no two rows share a key.

`insert` is the plain `INSERT` with a given key: it fails when the key is taken.
`insertAll` is a transaction of such inserts: it either stores every row or returns `none`
and leaves the caller with the old table. `append` is the `INSERT` that leaves the choice
of the key to the database: the new row gets the key after the greatest one.
-/

set_option autoImplicit false

namespace ChatCore.Lib

/-- Rows in strictly ascending order of their primary key. -/
structure Table (ρ : Type) (key : ρ → Nat) where
  rows : List ρ
  ascending : (rows.map key).SortedLT

namespace Table

variable {ρ : Type} {key : ρ → Nat}

/-- The table without rows. -/
def empty : Table ρ key := ⟨[], by simp [List.sortedLT_iff_pairwise]⟩

/-- The keys of the table. -/
def keys (t : Table ρ key) : List Nat := t.rows.map key

/-- `SELECT MAX(key)`: the greatest key, `none` for an empty table. -/
def maxKey (t : Table ρ key) : Option Nat := t.rows.getLast?.map key

/-- The key the database chooses: one above the greatest key, and `1` in an empty table. -/
def nextKey (t : Table ρ key) : Nat := t.maxKey.elim 1 (· + 1)

/-- The first row that satisfies `p`, in key order. -/
def find (t : Table ρ key) (p : ρ → Bool) : Option ρ := t.rows.find? p

/-- Insertion of a row in front of the first row with a greater key. -/
def insertRow (key : ρ → Nat) (r : ρ) : List ρ → List ρ
  | [] => [r]
  | x :: xs => if key r < key x then r :: x :: xs else x :: insertRow key r xs

/-- `insertRow` adds the row and keeps the others. -/
theorem mem_insertRow (r x : ρ) : ∀ rows : List ρ,
    x ∈ insertRow key r rows ↔ x = r ∨ x ∈ rows := by
  intro rows
  induction rows with
  | nil => simp [insertRow]
  | cons y rows ih =>
    simp only [insertRow]
    split
    · simp
    · rw [List.mem_cons, ih, List.mem_cons]
      tauto

/-- Insertion with a fresh key keeps the order. -/
theorem pairwise_insertRow (r : ρ) : ∀ rows : List ρ, rows.Pairwise (key · < key ·) →
    key r ∉ rows.map key → (insertRow key r rows).Pairwise (key · < key ·) := by
  intro rows
  induction rows with
  | nil => intro _ _; simp [insertRow]
  | cons y rows ih =>
    intro h hfresh
    obtain ⟨hy, hrows⟩ := List.pairwise_cons.mp h
    simp only [List.map_cons, List.mem_cons, not_or] at hfresh
    simp only [insertRow]
    split
    · rename_i hlt
      refine List.pairwise_cons.mpr ⟨fun x hx => ?_, h⟩
      rcases List.mem_cons.mp hx with rfl | hx
      · exact hlt
      · exact Nat.lt_trans hlt (hy x hx)
    · rename_i hlt
      refine List.pairwise_cons.mpr ⟨fun x hx => ?_, ih hrows hfresh.2⟩
      rcases (mem_insertRow r x rows).mp hx with rfl | hx
      · omega
      · exact hy x hx

/-- A row whose key is above every key goes to the end. -/
theorem insertRow_of_forall_lt (r : ρ) : ∀ rows : List ρ, (∀ x ∈ rows, key x < key r) →
    insertRow key r rows = rows ++ [r] := by
  intro rows
  induction rows with
  | nil => intro _; rfl
  | cons y rows ih =>
    intro h
    have hy : ¬ key r < key y := by have := h y (by simp); omega
    simp only [insertRow, if_neg hy, ih fun x hx => h x (by simp [hx]), List.cons_append]

/-- The order of a table, on its rows. -/
theorem pairwise_rows (t : Table ρ key) : t.rows.Pairwise (key · < key ·) :=
  List.pairwise_map.mp t.ascending.pairwise

/-- `INSERT` with a given primary key. It fails when the key is taken. -/
def insert (t : Table ρ key) (r : ρ) : Option (Table ρ key) :=
  if h : key r ∈ t.rows.map key then none
  else some ⟨insertRow key r t.rows,
    (List.pairwise_map.mpr (pairwise_insertRow r t.rows t.pairwise_rows h)).sortedLT⟩

/-- A transaction of `INSERT`s. One conflict rolls all of them back. -/
def insertAll (t : Table ρ key) : List ρ → Option (Table ρ key)
  | [] => some t
  | r :: rs => (t.insert r).bind fun t' => insertAll t' rs

/-- The greatest key bounds every key. -/
theorem key_le_of_maxKey {t : Table ρ key} {n : Nat} (h : t.maxKey = some n) {r : ρ}
    (hr : r ∈ t.rows) : key r ≤ n := by
  obtain ⟨last, hlast, rfl⟩ := Option.map_eq_some_iff.mp h
  obtain ⟨front, hrows⟩ := List.getLast?_eq_some_iff.mp hlast
  have hp := t.pairwise_rows
  rw [hrows, List.pairwise_append] at hp
  rw [hrows, List.mem_append, List.mem_singleton] at hr
  rcases hr with hr | rfl
  · exact Nat.le_of_lt (hp.2.2 r hr last (by simp))
  · exact Nat.le_refl _

/-- Without a greatest key there are no rows. -/
theorem maxKey_eq_none {t : Table ρ key} : t.maxKey = none ↔ t.rows = [] := by
  simp [maxKey]

/-- The key the database chooses is above every key. -/
theorem key_lt_nextKey (t : Table ρ key) {r : ρ} (hr : r ∈ t.rows) : key r < t.nextKey := by
  unfold nextKey
  cases h : t.maxKey with
  | none =>
    rw [maxKey_eq_none.mp h] at hr
    cases hr
  | some n => exact Nat.lt_succ_of_le (key_le_of_maxKey h hr)

/-- A successful `INSERT` adds exactly its row. -/
theorem mem_rows_insert {t t' : Table ρ key} {r : ρ} (h : t.insert r = some t') (x : ρ) :
    x ∈ t'.rows ↔ x = r ∨ x ∈ t.rows := by
  unfold insert at h
  split at h
  · cases h
  · cases h
    exact mem_insertRow r x t.rows

/-- A successful transaction adds exactly its rows. -/
theorem mem_rows_insertAll {rs : List ρ} : ∀ {t t' : Table ρ key},
    t.insertAll rs = some t' → ∀ x, x ∈ t'.rows ↔ x ∈ rs ∨ x ∈ t.rows := by
  induction rs with
  | nil =>
    intro t t' h x
    cases h
    simp
  | cons r rs ih =>
    intro t t' h x
    obtain ⟨u, hu, h⟩ := Option.bind_eq_some_iff.mp h
    rw [ih h, mem_rows_insert hu, List.mem_cons]
    tauto

/-- A row whose key is above every key is stored at the end. -/
theorem insert_of_forall_lt {t : Table ρ key} {r : ρ} (h : ∀ x ∈ t.rows, key x < key r) :
    ∃ t', t.insert r = some t' ∧ t'.rows = t.rows ++ [r] := by
  have hfresh : key r ∉ t.rows.map key := by
    intro hmem
    obtain ⟨x, hx, he⟩ := List.mem_map.mp hmem
    have := h x hx
    omega
  unfold insert
  rw [dif_neg hfresh]
  exact ⟨_, rfl, insertRow_of_forall_lt r t.rows h⟩

/-- Rows that continue the ascending order of the keys are stored at the end, without a
conflict. -/
theorem insertAll_of_ascending {rs : List ρ} : ∀ {t : Table ρ key},
    ((t.rows ++ rs).map key).SortedLT →
    ∃ t', t.insertAll rs = some t' ∧ t'.rows = t.rows ++ rs := by
  induction rs with
  | nil => intro t _; exact ⟨t, rfl, by simp⟩
  | cons r rs ih =>
    intro t h
    have hp := List.pairwise_map.mp h.pairwise
    have hlt : ∀ x ∈ t.rows, key x < key r := fun x hx =>
      (List.pairwise_append.mp hp).2.2 x hx r (by simp)
    obtain ⟨u, hu, hrows⟩ := insert_of_forall_lt hlt
    obtain ⟨t', ht', hrows'⟩ := ih (t := u) (by
      rw [hrows, List.append_assoc, List.singleton_append]
      exact h)
    refine ⟨t', ?_, ?_⟩
    · simp only [insertAll, hu, Option.bind_some, ht']
    · rw [hrows', hrows, List.append_assoc, List.singleton_append]

/-- `INSERT` without a key: `mk n` is the row when the database chooses the key `n`. -/
def append (t : Table ρ key) (mk : Nat → ρ) (hmk : ∀ n, key (mk n) = n) : Table ρ key where
  rows := t.rows ++ [mk t.nextKey]
  ascending := by
    refine (List.pairwise_map.mpr (List.pairwise_append.mpr
      ⟨t.pairwise_rows, by simp, ?_⟩)).sortedLT
    intro x hx y hy
    rw [List.mem_singleton.mp hy, hmk]
    exact t.key_lt_nextKey hx

/-- Two rows with the same key are the same row. -/
theorem eq_of_key_eq {t : Table ρ key} {r r' : ρ} (hr : r ∈ t.rows) (hr' : r' ∈ t.rows)
    (h : key r = key r') : r = r' :=
  List.inj_on_of_nodup_map t.ascending.nodup hr hr' h

/-- `find` returns exactly the row that satisfies `p`, when at most one row does. -/
theorem find_eq_some {t : Table ρ key} {p : ρ → Bool} {r : ρ}
    (hunique : ∀ x ∈ t.rows, ∀ y ∈ t.rows, p x = true → p y = true → x = y) :
    t.find p = some r ↔ r ∈ t.rows ∧ p r = true := by
  unfold find
  constructor
  · intro h
    exact ⟨List.mem_of_find?_eq_some h, List.find?_some h⟩
  · rintro ⟨hr, hp⟩
    cases hfind : t.rows.find? p with
    | none =>
      rw [List.find?_eq_none] at hfind
      exact absurd hp (hfind r hr)
    | some r' =>
      have hmem := List.mem_of_find?_eq_some hfind
      rw [hunique r' hmem r hr (List.find?_some hfind) hp]

end Table

end ChatCore.Lib
