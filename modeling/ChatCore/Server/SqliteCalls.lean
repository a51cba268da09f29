import ChatCore.Lib.Lts
import ChatCore.Server.Database

/-!
# `ChatCore.Server.SqliteCalls`: two threads on one SQLite connection

`CreateChatChannel` and `CreateUser` execute an `INSERT` and read the rowid of it with
`getLastInsertRowid`. The scheduler thread executes the inserts of `PersistChatMessages` on the
same connection. SQLite serialises the calls, and the calls of the two threads may alternate in
any order, so a step is one SQLite call.

The rowid is an `int64` that the adapters cast to `PersistenceId`. A failed insert of a message
throws in the scheduler thread and ends the process. The fields `channels` and `users` are
ghosts.
-/

set_option autoImplicit false

namespace ChatCore.Server

open ChatCore.Api
open ChatCore.Lib (Lts)

/-- Where the call of the application thread stands. -/
inductive AdapterCall where
  | idle
  /-- `CreateChatChannel` after its `INSERT`. -/
  | channelInserted (name : String)
  /-- `CreateUser` after its `INSERT`. -/
  | userInserted (name : String)
  deriving DecidableEq

/-- The connection and the calls of the two threads. -/
structure SqliteCalls where
  db : Database
  call : AdapterCall := .idle
  /-- What the loop of `PersistChatMessages` still has to insert. -/
  batch : List ChatMessage := []
  /-- The channels that `CreateChatChannel` returned. -/
  channels : List ChatChannel := []
  /-- The users that `CreateUser` returned. -/
  users : List User := []

/-- One SQLite call, or the start of `PersistChatMessages`. -/
inductive SqliteOp where
  | insertChannel (name : String)
  | insertUser (name password : String)
  | getLastInsertRowid
  | persistChatMessages (messages : List ChatMessage)
  | insertMessage

namespace SqliteCalls

/-- `static_cast<api::PersistenceId>(db.getLastInsertRowid())`. -/
def lastId (s : SqliteCalls) : Nat := s.db.lastInsertRowid % uint32Size

/-- One step. -/
def step (s : SqliteCalls) : SqliteOp → Option SqliteCalls
  | .insertChannel name =>
    match s.call with
    | .idle =>
      match s.db.insertChannel name with
      -- `exec` changed no row, and `CreateChatChannel` returns `std::nullopt`.
      | none => some s
      | some db => some { s with db := db, call := .channelInserted name }
    | _ => none
  | .insertUser name password =>
    match s.call with
    | .idle =>
      match s.db.insertUser name password with
      | none => some s
      | some db => some { s with db := db, call := .userInserted name }
    | _ => none
  | .getLastInsertRowid =>
    match s.call with
    | .idle => none
    | .channelInserted name =>
      some { s with call := .idle, channels := s.channels ++ [⟨s.lastId, name⟩] }
    | .userInserted name =>
      some { s with call := .idle, users := s.users ++ [⟨s.lastId, name⟩] }
  | .persistChatMessages messages =>
    -- One thread calls `Persist`, so a batch ends before the next one begins.
    if s.batch.isEmpty then some { s with batch := messages } else none
  | .insertMessage =>
    match s.batch with
    | [] => none
    | message :: rest =>
      (s.db.insertMessage message).map fun db => { s with db := db, batch := rest }

end SqliteCalls

/-- The interleavings of the two threads, over any database. -/
def sqliteCalls : Lts SqliteCalls SqliteOp where
  start s := ∃ db, s = { db := db }
  step := SqliteCalls.step

end ChatCore.Server
