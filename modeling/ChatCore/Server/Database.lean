import ChatCore.Api.Messages
import ChatCore.Lib.Ascending
import ChatCore.Lib.Table

/-!
# `ChatCore.Server.Database`: the SQLite database and its two adapters

The tables `chat_channels`, `chat_users` and `chat_messages`, with the constraints of their
`CREATE TABLE` statements: an integer primary key each (`Lib.Table`) and a `UNIQUE` name
for channels and users. `lastInsertRowid` is what `sqlite3_last_insert_rowid` returns on
the one connection that all threads share.

Every statement of `SqliteChatPersistenceAdapter` and `SqliteUserPersistenceAdapter` that
the server executes is one definition. `CreateChatChannel` and `CreateUser` are made of two
SQLite calls each, the `INSERT` and the read of the last insert rowid, and both calls have
a definition of their own.

The connection has `foreign_keys=ON`, so SQLite also rejects a message whose channel or user has
no row (`ForeignKeys`). `insertMessage` makes this check. `PersistChatMessages` has no definition
of its own with it: `persistChatMessages` is the transaction for messages that satisfy it, and a
run of the whole server asks for `ForeignKeys` at each of its writes (`ServedRun.step`).
-/

set_option autoImplicit false

namespace ChatCore.Server

open ChatCore.Api
open ChatCore.Lib (Table)

/-- A row of `chat_users`. -/
structure UserRow where
  id : Nat
  name : String
  password : String
  deriving DecidableEq

/-- The user that the adapter returns for a row. -/
def UserRow.toUser (r : UserRow) : User := ⟨r.id, r.name⟩

/-- The database file, and the last insert rowid of the connection to it. -/
structure Database where
  channels : Table ChatChannel ChatChannel.id
  channelNames : (channels.rows.map ChatChannel.name).Nodup
  users : Table UserRow UserRow.id
  userNames : (users.rows.map UserRow.name).Nodup
  messages : Table ChatMessage ChatMessage.id
  lastInsertRowid : Nat

namespace Database

/-- The database right after the `CREATE TABLE` statements. -/
def empty : Database where
  channels := Table.empty
  channelNames := List.nodup_nil
  users := Table.empty
  userNames := List.nodup_nil
  messages := Table.empty
  lastInsertRowid := 0

/-! ### `SqliteChatPersistenceAdapter` -/

/-- A fresh name stays unique at the end of a list of names. -/
theorem nodup_names_append {ρ : Type} {name : ρ → String} {rows : List ρ} {r : ρ}
    (h : (rows.map name).Nodup) (hr : name r ∉ rows.map name) :
    ((rows ++ [r]).map name).Nodup := by
  rw [List.map_append]
  exact List.Nodup.append h (by simp) (by simpa using hr)

/-- `INSERT INTO chat_channels (name) VALUES (?) ON CONFLICT(name) DO NOTHING`. The result
is `none` when no row was changed. -/
def insertChannel (db : Database) (name : String) : Option Database :=
  if h : name ∈ db.channels.rows.map ChatChannel.name then none
  else some { db with
    channels := db.channels.append (⟨·, name⟩) fun _ => rfl
    channelNames := nodup_names_append db.channelNames h
    lastInsertRowid := db.channels.nextKey }

/-- `CreateChatChannel`, when no other call falls between its two SQLite calls. -/
def createChatChannel (db : Database) (name : String) : Database × Option ChatChannel :=
  match db.insertChannel name with
  | none => (db, none)
  | some db' => (db', some ⟨db'.lastInsertRowid, name⟩)

/-- `GetChatChannel(id)`. -/
def getChatChannel (db : Database) (id : Nat) : Option ChatChannel :=
  -- The query selects the name. The id of the result is the argument.
  (db.channels.find (·.id = id)).map fun row => ⟨id, row.name⟩

/-- `GetChatChannel(name)`. -/
def getChatChannelByName (db : Database) (name : String) : Option ChatChannel :=
  (db.channels.find (·.name = name)).map fun row => ⟨row.id, name⟩

/-- `GetChatChannels`. -/
def getChatChannels (db : Database) : List ChatChannel := db.channels.rows

/-- `FOREIGN KEY (channel_id)` and `FOREIGN KEY (user_id)`: the channel and the user of the message
have rows. -/
def ForeignKeys (db : Database) (message : ChatMessage) : Prop :=
  message.channelId ∈ db.channels.keys ∧ message.userId ∈ db.users.keys

instance (db : Database) : DecidablePred db.ForeignKeys := fun _ =>
  inferInstanceAs (Decidable (_ ∧ _))

/-- One `INSERT INTO chat_messages (id, channel_id, user_id, content)`. It fails on a primary key
that is taken, and on a foreign key without a row. -/
def insertMessage (db : Database) (message : ChatMessage) : Option Database :=
  if db.ForeignKeys message then
    (db.messages.insert message).map fun messages =>
      { db with messages := messages, lastInsertRowid := message.id }
  else none

/-- `PersistChatMessages`: all inserts in one transaction, of messages that satisfy `ForeignKeys`.
`none` is the exception of a failed insert, with the transaction rolled back. Otherwise it returns
the id of the last message. -/
def persistChatMessages (db : Database) (messages : List ChatMessage) :
    Option (Database × Option Nat) :=
  -- An empty span returns before a transaction begins.
  if messages.isEmpty then some (db, none)
  else
    (db.messages.insertAll messages).map fun table =>
      let lastPersistedId := messages.getLast?.map ChatMessage.id
      ({ db with messages := table, lastInsertRowid := lastPersistedId.getD db.lastInsertRowid },
        lastPersistedId)

/-- `GetChatMessagesBefore`: the inner query takes `limit` rows from the greatest id down,
the outer one turns them into ascending order. -/
def getChatMessagesBefore (db : Database) (channelId messageId limit : Nat) :
    List ChatMessage :=
  -- The rows are in ascending order of the id, so `ORDER BY id DESC` reverses them.
  let selected := db.messages.rows.filter fun m => m.channelId = channelId ∧ m.id < messageId
  (selected.reverse.take limit).reverse

/-- `GetLastChatMessageId`: `SELECT MAX(id) FROM chat_messages`. -/
def getLastChatMessageId (db : Database) : Option Nat := db.messages.maxKey

/-! ### `SqliteUserPersistenceAdapter` -/

/-- `INSERT INTO chat_users (name, password) VALUES (?,?) ON CONFLICT(name) DO NOTHING`. The
result is `none` when no row was changed. -/
def insertUser (db : Database) (name password : String) : Option Database :=
  if h : name ∈ db.users.rows.map UserRow.name then none
  else some { db with
    users := db.users.append (⟨·, name, password⟩) fun _ => rfl
    userNames := nodup_names_append db.userNames h
    lastInsertRowid := db.users.nextKey }

/-- `CreateUser`, when no other call falls between its two SQLite calls. -/
def createUser (db : Database) (name password : String) : Database × Option User :=
  match db.insertUser name password with
  | none => (db, none)
  | some db' => (db', some ⟨db'.lastInsertRowid, name⟩)

/-- `GetUser(id)`. -/
def getUser (db : Database) (id : Nat) : Option User :=
  (db.users.find (·.id = id)).map UserRow.toUser

/-- `GetUser(name)`. -/
def getUserByName (db : Database) (name : String) : Option User :=
  (db.users.find (·.name = name)).map fun row => ⟨row.id, name⟩

/-- `MatchUserCredentials`. -/
def matchUserCredentials (db : Database) (name password : String) : Option User :=
  (db.users.find fun row => row.name = name ∧ row.password = password).map
    fun row => ⟨row.id, name⟩

/-- `GetUsers`. -/
def getUsers (db : Database) : List User := db.users.rows.map UserRow.toUser

/-! ### What the statements return -/

/-- `GetChatMessagesBefore` is the last `limit` messages of the channel below the bound. -/
theorem getChatMessagesBefore_eq (db : Database) (channelId messageId limit : Nat) :
    db.getChatMessagesBefore channelId messageId limit
      = (db.messages.rows.filter
          fun m => m.channelId = channelId ∧ m.id < messageId).rtake limit := by
  rw [List.rtake_eq_reverse_take_reverse]
  rfl

/-- Channel names are unique. -/
theorem channel_eq_of_name {db : Database} {c c' : ChatChannel} (h : c ∈ db.channels.rows)
    (h' : c' ∈ db.channels.rows) (hn : c.name = c'.name) : c = c' :=
  List.inj_on_of_nodup_map db.channelNames h h' hn

/-- User names are unique. -/
theorem user_eq_of_name {db : Database} {u u' : UserRow} (h : u ∈ db.users.rows)
    (h' : u' ∈ db.users.rows) (hn : u.name = u'.name) : u = u' :=
  List.inj_on_of_nodup_map db.userNames h h' hn

/-- `GetUser(id)` finds the row with the id. -/
theorem getUser_eq_some {db : Database} {id : Nat} {u : User} :
    db.getUser id = some u ↔ ∃ row ∈ db.users.rows, row.id = id ∧ row.toUser = u := by
  have hfind : ∀ row, db.users.find (·.id = id) = some row
      ↔ row ∈ db.users.rows ∧ row.id = id := by
    intro row
    rw [Table.find_eq_some, decide_eq_true_eq]
    intro x hx y hy hxid hyid
    exact Table.eq_of_key_eq hx hy
      ((of_decide_eq_true hxid).trans (of_decide_eq_true hyid).symm)
  unfold getUser
  rw [Option.map_eq_some_iff]
  simp only [hfind, and_assoc]

/-- `MatchUserCredentials` finds the row with the name and the password. -/
theorem matchUserCredentials_eq_some {db : Database} {name password : String} {u : User} :
    db.matchUserCredentials name password = some u
      ↔ u.name = name ∧ (⟨u.id, name, password⟩ : UserRow) ∈ db.users.rows := by
  have hfind : ∀ row, db.users.find (fun row => row.name = name ∧ row.password = password)
      = some row ↔ row ∈ db.users.rows ∧ row.name = name ∧ row.password = password := by
    intro row
    rw [Table.find_eq_some, decide_eq_true_eq]
    intro x hx y hy hxname hyname
    exact user_eq_of_name hx hy
      ((of_decide_eq_true hxname).1.trans (of_decide_eq_true hyname).1.symm)
  unfold matchUserCredentials
  rw [Option.map_eq_some_iff]
  constructor
  · rintro ⟨⟨i, n, p⟩, hrow, rfl⟩
    obtain ⟨hmem, rfl, rfl⟩ := (hfind _).mp hrow
    exact ⟨rfl, hmem⟩
  · rintro ⟨rfl, hmem⟩
    exact ⟨_, (hfind _).mpr ⟨hmem, rfl, rfl⟩, rfl⟩

/-- A new user gets the next row of `chat_users`, and its id is the id of that row. -/
theorem createUser_of_fresh {db : Database} {name password : String}
    (h : name ∉ db.users.rows.map UserRow.name) :
    ∃ db', db.createUser name password = (db', some ⟨db.users.nextKey, name⟩) ∧
      db'.users.rows = db.users.rows ++ [⟨db.users.nextKey, name, password⟩] ∧
      db'.channels = db.channels ∧ db'.messages = db.messages := by
  unfold createUser insertUser
  rw [dif_neg h]
  exact ⟨_, rfl, rfl, rfl, rfl⟩

/-- A taken name leaves the database as it is. -/
theorem createUser_of_taken {db : Database} {name : String} (password : String)
    (h : name ∈ db.users.rows.map UserRow.name) : db.createUser name password = (db, none) := by
  unfold createUser insertUser
  rw [dif_pos h]

/-- A transaction of messages changes the table of messages only. -/
theorem persistChatMessages_tables {db db' : Database} {messages : List ChatMessage}
    {last : Option Nat} (h : db.persistChatMessages messages = some (db', last)) :
    db'.channels = db.channels ∧ db'.users = db.users ∧
      ∀ m, m ∈ db'.messages.rows ↔ m ∈ messages ∨ m ∈ db.messages.rows := by
  unfold persistChatMessages at h
  split at h
  · rename_i hempty
    cases h
    simp [List.isEmpty_iff.mp hempty]
  · obtain ⟨table, htable, heq⟩ := Option.map_eq_some_iff.mp h
    cases heq
    exact ⟨rfl, rfl, Table.mem_rows_insertAll htable⟩

end Database

end ChatCore.Server
