import ChatCore.Proofs.Replies
import ChatCore.Server.UserCalls

/-!
# `ChatCore.Proofs.UserCache`: the user cache is transparent

`emplace` into `users_` returns the element that is in the way when one of the two keys is taken.
A lookup would then return another user than it was asked for. This cannot happen while the cache
holds rows of the table only, because a row with the same id or the same name is the same row
(`UserStore.cacheUser_spec`). `Rows` is the invariant that says so. It also covers the users that
a caller got from the adapter and may cache later.
-/

set_option autoImplicit false

namespace ChatCore.Server

open ChatCore.Api
open ChatCore.Lib

namespace UserCalls

variable {s s' : UserCalls}

/-- The user is a row of the table. -/
def IsRow (db : Database) (user : User) : Prop := ∃ row ∈ db.users.rows, row.toUser = user

/-- Whatever is cached, and whatever the adapter has returned, is a row of the table. -/
structure Rows (s : UserCalls) : Prop where
  cached : s.store.CachedFrom s.db
  returned : ∀ user ∈ s.returned, IsRow s.db user

/-- The adapter returns rows. -/
theorem Rows.answer (h : Rows s) {users : List User} (hrows : ∀ user ∈ users, IsRow s.db user) :
    Rows (s.answer users) := by
  refine ⟨h.cached, fun user hmem => ?_⟩
  rcases List.mem_append.mp hmem with hold | hnew
  · exact h.returned user hold
  · exact hrows user hnew

/-- The table of users grows. -/
theorem Rows.grow (h : Rows s) {db : Database} (hsub : s.db.users.rows ⊆ db.users.rows) :
    Rows { s with db := db } := by
  refine ⟨h.cached.mono hsub, fun user hmem => ?_⟩
  obtain ⟨row, hrow, heq⟩ := h.returned user hmem
  exact ⟨row, hsub hrow, heq⟩

/-- A user that is created keeps the cached users rows. -/
theorem Rows.createUser (h : Rows s) (name password : String) :
    Rows ({ s with db := (s.db.createUser name password).1 }.answer
      (s.db.createUser name password).2.toList) := by
  cases hcreate : s.db.createUser name password with
  | mk db user =>
    cases user with
    | none =>
      rw [Database.createUser_eq_none hcreate]
      exact h.answer fun user hmem => absurd hmem List.not_mem_nil
    | some user =>
      obtain ⟨hname, hrows, -, -⟩ := Database.createUser_spec hcreate
      have hgrown : Rows { s with db := db } := by
        refine h.grow ?_
        rw [hrows]
        exact List.subset_append_left _ _
      -- The returned user is the new row.
      refine hgrown.answer fun user' hmem => ?_
      obtain rfl := List.mem_singleton.mp hmem
      refine ⟨⟨user'.id, name, password⟩, ?_, ?_⟩
      · show _ ∈ db.users.rows
        rw [hrows]
        exact List.mem_append_right _ List.mem_cons_self
      · show (⟨user'.id, name⟩ : User) = user'
        rw [← hname]

end UserCalls

end ChatCore.Server
