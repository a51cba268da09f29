import ChatCore.Server.SqliteCalls

/-!
# `ChatCore.Proofs.RowIds`: the ids of created channels and users

The last insert rowid belongs to the connection and not to the statement. An insert of a
message between the `INSERT` of `CreateChatChannel` and its `getLastInsertRowid` replaces it,
and the channel gets the id of the message.

`RowidStep` excludes this insert, unless it leaves the rowid as it is, and a rowid that does
not fit into `PersistenceId`. Then the rowid is the key of the new row as long as the call is
between its two SQLite calls (`RowidInv.channel`, `RowidInv.user`).
-/

set_option autoImplicit false

namespace ChatCore.Server

open ChatCore.Api
open ChatCore.Lib

namespace SqliteCalls

variable {s s' : SqliteCalls} {l : SqliteOp}

/-- A message that is inserted between the two SQLite calls of the application thread has the
id of the row that the first one inserted, and the rowid fits into 32 bits. -/
def RowidStep (s : SqliteCalls) : SqliteOp → Prop
  | .insertMessage => s.call ≠ .idle → ∀ m ∈ s.batch.head?, m.id = s.db.lastInsertRowid
  | .getLastInsertRowid => s.db.lastInsertRowid < uint32Size
  | _ => True

instance : DecidableRel RowidStep := fun s l =>
  match l with
  | .insertMessage => inferInstanceAs
      (Decidable (s.call ≠ .idle → ∀ m ∈ s.batch.head?, m.id = s.db.lastInsertRowid))
  | .getLastInsertRowid => inferInstanceAs (Decidable (s.db.lastInsertRowid < uint32Size))
  | .insertChannel _ | .insertUser _ _ | .persistChatMessages _ => inferInstanceAs (Decidable True)

/-! ### What the inserts do -/

/-- The new row of a channel has the last insert rowid as its key. -/
theorem insertChannel_row {db db' : Database} {name : String}
    (h : db.insertChannel name = some db') :
    db'.channels.rows = db.channels.rows ++ [⟨db'.lastInsertRowid, name⟩] ∧
      db'.users = db.users := by
  unfold Database.insertChannel at h
  split at h
  · cases h
  · cases h
    exact ⟨rfl, rfl⟩

/-- The new row of a user has the last insert rowid as its key. -/
theorem insertUser_row {db db' : Database} {name password : String}
    (h : db.insertUser name password = some db') :
    db'.users.rows = db.users.rows ++ [⟨db'.lastInsertRowid, name, password⟩] ∧
      db'.channels = db.channels := by
  unfold Database.insertUser at h
  split at h
  · cases h
  · cases h
    exact ⟨rfl, rfl⟩

/-- An insert of a message sets the rowid to the id of the message. -/
theorem insertMessage_rowid {db db' : Database} {m : ChatMessage}
    (h : db.insertMessage m = some db') :
    db'.lastInsertRowid = m.id ∧ db'.channels = db.channels ∧ db'.users = db.users := by
  obtain ⟨-, h⟩ := Option.ite_none_right_eq_some.mp h
  obtain ⟨messages, -, rfl⟩ := Option.map_eq_some_iff.mp h
  exact ⟨rfl, rfl, rfl⟩

/-! ### The invariant -/

/-- The returned values are rows, and a call between its two SQLite calls finds the key of its
row. -/
structure RowidInv (s : SqliteCalls) : Prop where
  channels : ∀ channel ∈ s.channels, channel ∈ s.db.channels.rows
  users : ∀ user ∈ s.users, ∃ row ∈ s.db.users.rows, row.toUser = user
  channel : ∀ name, s.call = .channelInserted name →
    (⟨s.db.lastInsertRowid, name⟩ : ChatChannel) ∈ s.db.channels.rows
  user : ∀ name, s.call = .userInserted name →
    ∃ row ∈ s.db.users.rows, row.toUser = ⟨s.db.lastInsertRowid, name⟩

/-- The insert of a channel keeps the invariant. -/
theorem rowidInv_insertChannel {name : String} (h : RowidInv s)
    (hs : s.step (.insertChannel name) = some s') : RowidInv s' := by
  simp only [step] at hs
  split at hs
  · split at hs
    · cases hs
      exact h
    · rename_i db hinsert
      cases hs
      obtain ⟨hrows, husers⟩ := insertChannel_row hinsert
      refine ⟨fun channel hmem => ?_, ?_, fun name' hcall => ?_, nofun⟩
      · rw [hrows]
        exact List.mem_append_left _ (h.channels channel hmem)
      · rw [husers]
        exact h.users
      · cases hcall
        rw [hrows]
        exact List.mem_append_right _ List.mem_cons_self
  · cases hs

/-- The insert of a user keeps the invariant. -/
theorem rowidInv_insertUser {name password : String} (h : RowidInv s)
    (hs : s.step (.insertUser name password) = some s') : RowidInv s' := by
  simp only [step] at hs
  split at hs
  · split at hs
    · cases hs
      exact h
    · rename_i db hinsert
      cases hs
      obtain ⟨hrows, hchannels⟩ := insertUser_row hinsert
      refine ⟨?_, fun user hmem => ?_, nofun, fun name' hcall => ?_⟩
      · rw [hchannels]
        exact h.channels
      · obtain ⟨row, hrow, heq⟩ := h.users user hmem
        refine ⟨row, ?_, heq⟩
        rw [hrows]
        exact List.mem_append_left _ hrow
      · cases hcall
        refine ⟨⟨db.lastInsertRowid, name, password⟩, ?_, rfl⟩
        rw [hrows]
        exact List.mem_append_right _ List.mem_cons_self
  · cases hs

/-- `getLastInsertRowid` keeps the invariant, as long as the rowid fits. -/
theorem rowidInv_getLastInsertRowid (h : RowidInv s) (hfits : s.db.lastInsertRowid < uint32Size)
    (hs : s.step .getLastInsertRowid = some s') : RowidInv s' := by
  have hid : s.lastId = s.db.lastInsertRowid := Nat.mod_eq_of_lt hfits
  simp only [step] at hs
  split at hs
  · cases hs
  · rename_i name hcall
    cases hs
    refine ⟨fun channel hmem => ?_, h.users, nofun, nofun⟩
    rcases List.mem_append.mp hmem with hold | hnew
    · exact h.channels channel hold
    · rw [List.mem_singleton.mp hnew, hid]
      exact h.channel name hcall
  · rename_i name hcall
    cases hs
    refine ⟨h.channels, fun user hmem => ?_, nofun, nofun⟩
    rcases List.mem_append.mp hmem with hold | hnew
    · exact h.users user hold
    · rw [List.mem_singleton.mp hnew, hid]
      exact h.user name hcall

/-- The insert of a message keeps the invariant when it changes no rowid that is still to be read.
-/
theorem rowidInv_insertMessage (h : RowidInv s)
    (hok : s.call ≠ .idle → ∀ m ∈ s.batch.head?, m.id = s.db.lastInsertRowid)
    (hs : s.step .insertMessage = some s') : RowidInv s' := by
  simp only [step] at hs
  split at hs
  · cases hs
  · rename_i m rest hbatch
    obtain ⟨db, hinsert, rfl⟩ := Option.map_eq_some_iff.mp hs
    obtain ⟨hrowid, hchannels, husers⟩ := insertMessage_rowid hinsert
    -- Between the two SQLite calls the message has the rowid that is already there.
    have hsame : s.call ≠ .idle → db.lastInsertRowid = s.db.lastInsertRowid := fun hcall =>
      hrowid.trans (hok hcall m (by rw [hbatch]; rfl))
    refine ⟨?_, ?_, fun name hcall => ?_, fun name hcall => ?_⟩
    · rw [hchannels]
      exact h.channels
    · rw [husers]
      exact h.users
    · rw [hchannels, hsame (by rw [show s.call = _ from hcall]; nofun)]
      exact h.channel name hcall
    · rw [husers, hsame (by rw [show s.call = _ from hcall]; nofun)]
      exact h.user name hcall

/-- A step that satisfies `RowidStep` keeps `RowidInv`. -/
theorem rowidInv_step (h : RowidInv s) (hok : s.RowidStep l) (hs : s.step l = some s') :
    RowidInv s' := by
  cases l with
  | insertChannel name => exact rowidInv_insertChannel h hs
  | insertUser name password => exact rowidInv_insertUser h hs
  | getLastInsertRowid => exact rowidInv_getLastInsertRowid h hok hs
  | persistChatMessages messages =>
    simp only [step] at hs
    split at hs
    · cases hs
      exact ⟨h.channels, h.users, h.channel, h.user⟩
    · cases hs
  | insertMessage => exact rowidInv_insertMessage h hok hs

/-- When every step of a run satisfies `RowidStep`, every channel and every user that was
returned has the id of the row with its name. -/
theorem returned_id_is_row (h : sqliteCalls.Reachable RowidStep s) :
    (∀ channel ∈ s.channels, channel ∈ s.db.channels.rows) ∧
      ∀ user ∈ s.users, ∃ row ∈ s.db.users.rows, row.toUser = user := by
  have hinv : RowidInv s := by
    refine h.invariant ?_ fun s l s' hinv hok hs => rowidInv_step hinv hok hs
    rintro s ⟨db, rfl⟩
    exact ⟨nofun, nofun, nofun, nofun⟩
  exact ⟨hinv.channels, hinv.users⟩

/-- A user and a channel, with a message after both calls. -/
theorem returned_id_is_row_both :
    ∃ s, sqliteCalls.Reachable RowidStep s ∧ s.channels = [⟨1, "general"⟩] ∧
      s.users = [⟨1, "ann"⟩] ∧ (∀ channel ∈ s.channels, channel ∈ s.db.channels.rows) ∧
      ∀ user ∈ s.users, ∃ row ∈ s.db.users.rows, row.toUser = user := by
  have hstart : sqliteCalls.Reachable RowidStep { db := Database.empty } := .start ⟨_, rfl⟩
  obtain ⟨s, hs, hchannels, husers⟩ := hstart.exists_of_exec
    [.insertUser "ann" "pw", .getLastInsertRowid, .insertChannel "general", .getLastInsertRowid,
      .persistChatMessages [⟨0, 1, 1, "hi"⟩], .insertMessage]
    (fun s => s.channels = [⟨1, "general"⟩] ∧ s.users = [⟨1, "ann"⟩]) (by decide)
  exact ⟨s, hs, hchannels, husers, returned_id_is_row hs⟩

/-- A message is inserted between the two SQLite calls of the second channel. The channel is
returned with the id of the message, and its row has another key. -/
theorem returned_id_of_message :
    ∃ s, sqliteCalls.Reachable Lts.anyStep s ∧ (⟨0, "random"⟩ : ChatChannel) ∈ s.channels ∧
      s.db.channels.rows = [⟨1, "general"⟩, ⟨2, "random"⟩] := by
  have hstart : sqliteCalls.Reachable Lts.anyStep { db := Database.empty } := .start ⟨_, rfl⟩
  exact hstart.exists_of_exec
    [.insertUser "ann" "pw", .getLastInsertRowid, .insertChannel "general", .getLastInsertRowid,
      .persistChatMessages [⟨0, 1, 1, "hi"⟩], .insertChannel "random", .insertMessage,
      .getLastInsertRowid]
    (fun s => (⟨0, "random"⟩ : ChatChannel) ∈ s.channels ∧
      s.db.channels.rows = [⟨1, "general"⟩, ⟨2, "random"⟩]) (by decide)

end SqliteCalls

end ChatCore.Server
