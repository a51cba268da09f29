import ChatCore.Server.Database
import Mathlib.Logic.Function.Basic

/-!
# `ChatCore.Server.MessageStore`: the message cache and its write-behind persistence

`ChatMessageStore` (`chat_message_store.cpp`) and `ChatChannelMessageLog`
(`chat_channel_message_log.cpp`). A log holds the ids of the cached messages of one
channel. The store holds the messages themselves, one log per channel, the next id and the
messages that wait for the background `Persist`.

In the source a log refers back to the store that owns it and caches the messages it reads
through that store. Here `queryAndCacheMessages` and `getMessagesBefore` act on the store
and name the channel.

The application thread calls `createMessage` and `getMessagesBefore`. `Persist` runs on
the scheduler thread and holds the lock only for two short sections, so it is a small
machine of three steps (`PersistStep`, `persistStep`): swap out the pending messages, write
them, publish the last id.
-/

set_option autoImplicit false

namespace ChatCore.Server

open ChatCore.Api
open ChatCore.Lib (mergeUnique)

/-- `ChatChannelMessageLog`, without the references. -/
structure ChannelMessageLog where
  channelMessageIds : List Nat := []
  cacheComplete : Bool := false

namespace ChannelMessageLog

/-- `PrewarmMessageCount`. -/
def prewarmMessageCount : Nat := 100

/-- `AppendMessageId`. An id that is not above the last one is ignored. -/
def appendMessageId (log : ChannelMessageLog) (messageId : Nat) : ChannelMessageLog :=
  if log.channelMessageIds.getLast?.any (messageId ≤ ·) then log
  else { log with channelMessageIds := log.channelMessageIds ++ [messageId] }

/-- `AssignMessageIds`. -/
def assignMessageIds (log : ChannelMessageLog) (messageIds : List Nat) :
    ChannelMessageLog :=
  if messageIds.isEmpty then log
  else { log with channelMessageIds := mergeUnique log.channelMessageIds messageIds }

end ChannelMessageLog

/-- `ChatMessageStore`. The two unordered maps are functions to `Option`. -/
structure MessageStore where
  latestPersistedId : Option Nat := none
  nextId : Nat := 0
  messageCache : Nat → Option ChatMessage := fun _ => none
  pendingMessages : List ChatMessage := []
  messageLogs : Nat → Option ChannelMessageLog := fun _ => none

namespace MessageStore

/-- `message_logs_.try_emplace(channel_id, …)`. -/
def tryEmplaceLog (s : MessageStore) (channelId : Nat) : MessageStore :=
  match s.messageLogs channelId with
  | some _ => s
  | none => { s with messageLogs := Function.update s.messageLogs channelId (some {}) }

/-- A member function of the log of `channelId`. -/
def modifyLog (s : MessageStore) (channelId : Nat)
    (f : ChannelMessageLog → ChannelMessageLog) : MessageStore :=
  { s with messageLogs :=
      Function.update s.messageLogs channelId ((s.messageLogs channelId).map f) }

/-- The test of `AssignMessage`: the message is at most as new as the last one whose write
has been published. -/
def alreadyPersisted (s : MessageStore) (messageId : Nat) : Bool :=
  s.latestPersistedId.any (messageId ≤ ·)

/-- `AssignMessage`. -/
def assignMessage (s : MessageStore) (message : ChatMessage) : MessageStore :=
  let s := { s with messageCache := Function.update s.messageCache message.id (some message) }
  -- A row that a page brought back does not wait for `Persist` when its write is published.
  if s.alreadyPersisted message.id then s
  else { s with pendingMessages := s.pendingMessages ++ [message] }

/-- `CacheMessage`. -/
def cacheMessage (s : MessageStore) (message : ChatMessage) : MessageStore :=
  let s := s.tryEmplaceLog message.channelId
  let s := s.modifyLog message.channelId (·.appendMessageId message.id)
  s.assignMessage message

/-- The message that the next call of `CreateMessage` makes. -/
def nextMessage (s : MessageStore) (channelId userId : Nat) (content : String) : ChatMessage :=
  ⟨s.nextId, channelId, userId, content⟩

/-- `CreateMessage`. `next_id_++` wraps at `2 ^ 32`. -/
def createMessage (s : MessageStore) (channelId userId : Nat) (content : String) :
    MessageStore :=
  { s with nextId := (s.nextId + 1) % uint32Size }.cacheMessage
    (s.nextMessage channelId userId content)

/-- `CacheMessages`. -/
def cacheMessages (s : MessageStore) (channelId : Nat) (messages : List ChatMessage) :
    MessageStore :=
  if messages.isEmpty then s
  else
    -- The messages enter the cache before their ids enter the log.
    let s := messages.foldl assignMessage s
    let s := s.tryEmplaceLog channelId
    s.modifyLog channelId (·.assignMessageIds (messages.map ChatMessage.id))

/-- The locked section of `ChatMessageStore::Prewarm`. -/
def prewarmIds (s : MessageStore) (db : Database) : MessageStore :=
  let latest := db.getLastChatMessageId
  { s with
    latestPersistedId := latest
    nextId := latest.elim 0 fun id => (id + 1) % uint32Size }

/-- `ChatChannelMessageLog::Prewarm`. -/
def prewarmLog (s : MessageStore) (db : Database) (channelId : Nat) : MessageStore :=
  let messages := db.getChatMessagesBefore channelId maxMessageId
    ChannelMessageLog.prewarmMessageCount
  if messages.isEmpty then s else s.cacheMessages channelId messages

/-- One round of the loop of `ChatMessageStore::Prewarm` over the channels. -/
def prewarmChannel (db : Database) (s : MessageStore) (channel : ChatChannel) : MessageStore :=
  (s.tryEmplaceLog channel.id).prewarmLog db channel.id

/-- `ChatMessageStore::Prewarm`. -/
def prewarm (s : MessageStore) (db : Database) : MessageStore :=
  db.getChatChannels.foldl (prewarmChannel db) (s.prewarmIds db)

/-- `QueryAndCacheMessages` of the log of `channelId`. -/
def queryAndCacheMessages (s : MessageStore) (db : Database)
    (channelId messageId limit : Nat) : MessageStore × List Nat :=
  let messages := db.getChatMessagesBefore channelId messageId limit
  -- A page that is shorter than its limit shows that the database has nothing older.
  let s := s.modifyLog channelId fun log =>
    { log with cacheComplete := log.cacheComplete || limit > messages.length }
  (s.cacheMessages channelId messages, messages.map ChatMessage.id)

/-- `ChatChannelMessageLog::GetChatMessagesBefore`, for the log of `channelId`. -/
def getChatMessagesBefore (s : MessageStore) (db : Database) (log : ChannelMessageLog)
    (channelId messageId limit : Nat) : MessageStore × List Nat :=
  if limit = 0 then (s, [])
  -- case 1: none of the requested data is available in cache
  else if log.channelMessageIds.head?.all (messageId ≤ ·) then
    s.queryAndCacheMessages db channelId messageId limit
  else
    -- case 2: `lower_bound` splits the sorted ids at the requested bound
    let available := log.channelMessageIds.takeWhile (· < messageId)
    if available.length = 0 then s.queryAndCacheMessages db channelId messageId limit
    else
      let cachedTakeCount := min available.length limit
      let cachedResult := available.rtake cachedTakeCount
      if log.cacheComplete || limit ≤ cachedTakeCount then (s, cachedResult)
      else
        -- case 3: some of the requested data is only available in persistent storage
        let oldestCachedMessageId := cachedResult.headD 0
        let (s, remaining) :=
          s.queryAndCacheMessages db channelId oldestCachedMessageId (limit - cachedTakeCount)
        (s, remaining ++ cachedResult)

/-- `GetMessage`. -/
def getMessage (s : MessageStore) (messageId : Nat) : Option ChatMessage :=
  s.messageCache messageId

/-- `ChatMessageStore::GetMessagesBefore`. -/
def getMessagesBefore (s : MessageStore) (db : Database) (channelId messageId limit : Nat) :
    MessageStore × List ChatMessage :=
  match s.messageLogs channelId with
  | none => (s, [])
  | some log =>
    let (s, ids) := s.getChatMessagesBefore db log channelId messageId limit
    -- An id without a cached message is skipped.
    (s, ids.filterMap s.getMessage)

end MessageStore

/-- Where a call of `Persist` stands: outside of it, between the swap and the write, or
between the write and the publication. -/
inductive PersistStep where
  | idle
  | swapped (batch : List ChatMessage)
  | written (latestPersistedId : Option Nat)
  deriving DecidableEq

/-- The messages of a call of `Persist` that are swapped out and not written yet. -/
def PersistStep.inFlight : PersistStep → List ChatMessage
  | .swapped batch => batch
  | _ => []

/-- The next step of `Persist`. From `idle` it enters the function. It returns `none` when
the write throws. -/
def persistStep (db : Database) (s : MessageStore) :
    PersistStep → Option (Database × MessageStore × PersistStep)
  | .idle =>
    -- With nothing pending the function returns and does not call the adapter.
    if s.pendingMessages.isEmpty then some (db, s, .idle)
    else some (db, { s with pendingMessages := [] }, .swapped s.pendingMessages)
  | .swapped batch =>
    (db.persistChatMessages batch).map fun (db, latest) => (db, s, .written latest)
  | .written latest => some (db, { s with latestPersistedId := latest }, .idle)

end ChatCore.Server
