import ChatCore.Lib.Lts
import ChatCore.Server.MessageStore

/-!
# `ChatCore.Server.Lifetime`: the message store between two starts of the server

A lifetime begins with a database and the store that `Prewarm` makes from it. Then the
application thread creates channels and messages and serves requests, and the scheduler
thread executes the steps of `Persist`, in any interleaving. `lifetime` is this transition
system. Its start states have any database.

`lifetimes` puts lifetimes over one database after another. A restart needs the scheduler
thread outside of `Persist`. It executes one whole `Persist`, drops the store and begins
the next lifetime with the database. The first database has no messages.

`failingLifetime` is one lifetime in which the write of `Persist` may throw. The transaction
rolls back, and the exception leaves `Persist` with the batch in a local variable.

The fields `start`, `created`, `batches` and `earlier` are ghosts: no operation reads them.
-/

set_option autoImplicit false

namespace ChatCore.Server

open ChatCore.Api
open ChatCore.Lib (Lts)

/-- A server lifetime, as far as the message store is concerned. -/
structure Lifetime where
  db : Database
  store : MessageStore
  persist : PersistStep
  /-- The database that `Prewarm` read. -/
  start : Database
  /-- The messages that `CreateMessage` made since `Prewarm`, in order. -/
  created : List ChatMessage
  /-- The batches that `Persist` swapped out since `Prewarm`, in order. Each of them is what
  the next step hands to `PersistChatMessages`. -/
  batches : List (List ChatMessage)

/-- What a thread does next. -/
inductive LifetimeOp where
  | createChannel (name : String)
  | createMessage (channelId userId : Nat) (content : String)
  | getMessagesBefore (channelId messageId limit : Nat)
  | persist

namespace Lifetime

/-- A process that has just executed `Prewarm`. -/
def begin (db : Database) : Lifetime where
  db := db
  store := ({} : MessageStore).prewarm db
  persist := .idle
  start := db
  created := []
  batches := []

/-- One operation of the application thread, or one step of `Persist`. -/
def step (s : Lifetime) : LifetimeOp → Option Lifetime
  | .createChannel name => some { s with db := (s.db.createChatChannel name).1 }
  | .createMessage channelId userId content =>
    some { s with
      store := s.store.createMessage channelId userId content
      created := s.created ++ [s.store.nextMessage channelId userId content] }
  | .getMessagesBefore channelId messageId limit =>
    some { s with store := (s.store.getMessagesBefore s.db channelId messageId limit).1 }
  | .persist =>
    (persistStep s.db s.store s.persist).map fun (db, store, persist) =>
      { s with
        db := db
        store := store
        persist := persist
        batches := match persist with
          | .swapped batch => s.batches ++ [batch]
          | _ => s.batches }

/-- The greatest id stored at `Prewarm` plus the number of messages created since then is
below `2 ^ 32 - 1`. -/
def IdsFit (s : Lifetime) : Prop :=
  s.start.messages.maxKey.getD 0 + s.created.length < uint32Size - 1

instance (s : Lifetime) : Decidable s.IdsFit :=
  inferInstanceAs (Decidable (_ < _))

/-- The messages of a channel: those that `Prewarm` found in the database and those created
since then, written or not. -/
def channelMessages (s : Lifetime) (channelId : Nat) : List ChatMessage :=
  (s.start.messages.rows ++ s.created).filter (·.channelId = channelId)

/-- No message of the channel has its id at or above the bound of the request and below the
oldest cached id of the channel. -/
def NoGap (s : Lifetime) : LifetimeOp → Prop
  | .getMessagesBefore channelId messageId limit =>
    limit = 0 ∨ ∀ log ∈ s.store.messageLogs channelId, ∀ oldest ∈ log.channelMessageIds.head?,
      ∀ m ∈ s.channelMessages channelId, messageId ≤ m.id → oldest ≤ m.id
  | _ => True

instance : DecidableRel NoGap := fun s o =>
  match o with
  | .getMessagesBefore channelId messageId limit =>
    inferInstanceAs (Decidable (limit = 0 ∨ ∀ log ∈ s.store.messageLogs channelId,
      ∀ oldest ∈ log.channelMessageIds.head?, ∀ m ∈ s.channelMessages channelId,
        messageId ≤ m.id → oldest ≤ m.id))
  | .createChannel _ | .createMessage _ _ _ | .persist => isTrue trivial

end Lifetime

/-- One lifetime, over any database. -/
def lifetime : Lts Lifetime LifetimeOp where
  start s := ∃ db, s = Lifetime.begin db
  step := Lifetime.step

/-- What a thread does next when writes may fail. -/
inductive FailingOp where
  | op (o : LifetimeOp)
  /-- `PersistChatMessages` throws and its transaction rolls back. -/
  | writeFails

namespace Lifetime

/-- The write of `Persist` throws: the function is left without the second locked section, and
the batch goes with its local variable. -/
def writeFails (s : Lifetime) : Option Lifetime :=
  match s.persist with
  | .swapped _ => some { s with persist := .idle }
  | _ => none

/-- One operation, or a write that throws. -/
def failingStep (s : Lifetime) : FailingOp → Option Lifetime
  | .op o => s.step o
  | .writeFails => s.writeFails

end Lifetime

/-- One lifetime in which writes may fail. -/
def failingLifetime : Lts Lifetime FailingOp where
  start s := ∃ db, s = Lifetime.begin db
  step := Lifetime.failingStep

/-- Consecutive lifetimes over one database. -/
structure Lifetimes where
  current : Lifetime
  /-- The messages of the earlier lifetimes, in order of creation. -/
  earlier : List ChatMessage

/-- An operation of the current lifetime, or the start of the next one. -/
inductive LifetimesOp where
  | op (o : LifetimeOp)
  | restart

/-- A call of `Persist` from its entry to its return. -/
def persistToEnd (db : Database) (s : MessageStore) : Option (Database × MessageStore) :=
  (persistStep db s .idle).bind fun (db, s, p) =>
    (persistStep db s p).bind fun (db, s, p) =>
      (persistStep db s p).map fun (db, s, _) => (db, s)

namespace Lifetimes

/-- One operation of the current lifetime, or a restart. -/
def step (s : Lifetimes) : LifetimesOp → Option Lifetimes
  | .op o => (s.current.step o).map ({ s with current := · })
  | .restart =>
    match s.current.persist with
    | .idle =>
      (persistToEnd s.current.db s.current.store).map fun (db, _) =>
        { current := Lifetime.begin db
          earlier := s.earlier ++ s.current.created }
    | _ => none

/-- Every message created so far, in order of creation. -/
def history (s : Lifetimes) : List ChatMessage := s.earlier ++ s.current.created

/-- The messages created in one channel. -/
def channelHistory (s : Lifetimes) (channelId : Nat) : List ChatMessage :=
  s.history.filter (·.channelId = channelId)

end Lifetimes

/-- Lifetimes over one database that starts without messages. -/
def lifetimes : Lts Lifetimes LifetimesOp where
  start s := ∃ db : Database, db.messages.rows = [] ∧ s = ⟨Lifetime.begin db, []⟩
  step := Lifetimes.step

/-- A message is created in a channel of the database, and a request asks for the latest
messages, as `HandleGetChats` does. -/
def servesHistory (s : Lifetimes) : LifetimesOp → Prop
  | .op (.createMessage channelId _ _) => channelId ∈ s.current.db.channels.keys
  | .op (.getMessagesBefore _ messageId _) => messageId = maxMessageId
  | _ => True

instance : DecidableRel servesHistory := fun s o =>
  match o with
  | .op (.createMessage channelId _ _) =>
    inferInstanceAs (Decidable (channelId ∈ s.current.db.channels.keys))
  | .op (.getMessagesBefore _ messageId _) =>
    inferInstanceAs (Decidable (messageId = maxMessageId))
  | .op (.createChannel _) | .op .persist | .restart => isTrue trivial

end ChatCore.Server
