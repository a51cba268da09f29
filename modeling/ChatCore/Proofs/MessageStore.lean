import ChatCore.Server.MessageStore

/-!
# `ChatCore.Proofs.MessageStore`: what the operations of the message store change

One lemma per operation and field. Each operation of the application thread writes the
cache, the logs and the pending messages. None of them writes `latest_persisted_id_`, and
only `CreateMessage` writes `next_id_`.

Two facts carry the later proofs. `pendingMessages_cacheMessages`: a batch of cached
messages adds to the pending messages exactly those that `AssignMessage` does not take for
persisted. `getMessagesBefore_store`: a request either leaves the store as it is or reads
one page from the database, and the bound of that page is at most the oldest id of the
channel's log.

`persistStep_cases` says what one step of `Persist` can do.
-/

set_option autoImplicit false

namespace ChatCore.Server

open ChatCore.Api
open ChatCore.Lib

namespace ChannelMessageLog

/-- An id above every id of the log goes to its end. -/
theorem appendMessageId_of_forall_lt {log : ChannelMessageLog} {id : Nat}
    (h : ∀ i ∈ log.channelMessageIds, i < id) :
    log.appendMessageId id
      = { log with channelMessageIds := log.channelMessageIds ++ [id] } := by
  unfold appendMessageId
  have hnot : log.channelMessageIds.getLast?.any (id ≤ ·) = false := by
    cases hlast : log.channelMessageIds.getLast? with
    | none => rfl
    | some last =>
      have hlt := h last (List.mem_of_getLast? hlast)
      simp only [Option.any_some, decide_eq_false_iff_not]
      omega
  rw [hnot]
  rfl

/-- `AssignMessageIds` merges the ids into the log. An empty list changes nothing, so the
early return of the source needs no case of its own. -/
theorem channelMessageIds_assignMessageIds {log : ChannelMessageLog}
    (h : log.channelMessageIds.SortedLT) (ids : List Nat) :
    (log.assignMessageIds ids).channelMessageIds = mergeUnique log.channelMessageIds ids := by
  unfold assignMessageIds
  split
  · rename_i hempty
    rw [List.isEmpty_iff.mp hempty]
    exact (mergeUnique_eq h h (by simp)).symm
  · rfl

/-- `AssignMessageIds` does not make the cache complete. -/
@[simp] theorem cacheComplete_assignMessageIds (log : ChannelMessageLog)
    (ids : List Nat) :
    (log.assignMessageIds ids).cacheComplete = log.cacheComplete := by
  unfold assignMessageIds
  split <;> rfl

end ChannelMessageLog

namespace MessageStore

/-! ### `AssignMessage` and `CacheMessages` -/

/-- A log that is looked up leaves the persisted id alone. -/
@[simp] theorem latestPersistedId_tryEmplaceLog (s : MessageStore) (ch : Nat) :
    (s.tryEmplaceLog ch).latestPersistedId = s.latestPersistedId := by
  unfold tryEmplaceLog; split <;> rfl

/-- It leaves the next id alone. -/
@[simp] theorem nextId_tryEmplaceLog (s : MessageStore) (ch : Nat) :
    (s.tryEmplaceLog ch).nextId = s.nextId := by
  unfold tryEmplaceLog; split <;> rfl

/-- It leaves the cached messages alone. -/
@[simp] theorem messageCache_tryEmplaceLog (s : MessageStore) (ch : Nat) :
    (s.tryEmplaceLog ch).messageCache = s.messageCache := by
  unfold tryEmplaceLog; split <;> rfl

/-- It leaves the pending messages alone. -/
@[simp] theorem pendingMessages_tryEmplaceLog (s : MessageStore) (ch : Nat) :
    (s.tryEmplaceLog ch).pendingMessages = s.pendingMessages := by
  unfold tryEmplaceLog; split <;> rfl

/-- `try_emplace` creates the missing log and keeps every other one. -/
theorem messageLogs_tryEmplaceLog (s : MessageStore) (ch : Nat) :
    (s.tryEmplaceLog ch).messageLogs
      = Function.update s.messageLogs ch (some ((s.messageLogs ch).getD {})) := by
  unfold tryEmplaceLog
  cases h : s.messageLogs ch with
  | none => rfl
  | some log =>
    funext ch'
    by_cases hch : ch' = ch
    · subst hch
      simp [h]
    · simp [Function.update_of_ne hch]

/-- `AssignMessage` leaves the persisted id alone. -/
@[simp] theorem latestPersistedId_assignMessage (s : MessageStore) (m : ChatMessage) :
    (s.assignMessage m).latestPersistedId = s.latestPersistedId := by
  simp only [assignMessage]; split <;> rfl

/-- It leaves the next id alone. -/
@[simp] theorem nextId_assignMessage (s : MessageStore) (m : ChatMessage) :
    (s.assignMessage m).nextId = s.nextId := by
  simp only [assignMessage]; split <;> rfl

/-- It leaves the logs alone. -/
@[simp] theorem messageLogs_assignMessage (s : MessageStore) (m : ChatMessage) :
    (s.assignMessage m).messageLogs = s.messageLogs := by
  simp only [assignMessage]; split <;> rfl

/-- It puts the message into the cache under its id. -/
@[simp] theorem messageCache_assignMessage (s : MessageStore) (m : ChatMessage) :
    (s.assignMessage m).messageCache = Function.update s.messageCache m.id (some m) := by
  simp only [assignMessage]; split <;> rfl

/-- The message is pending unless it is persisted already. -/
theorem pendingMessages_assignMessage (s : MessageStore) (m : ChatMessage) :
    (s.assignMessage m).pendingMessages
      = s.pendingMessages ++ [m].filter fun m => !s.alreadyPersisted m.id := by
  have hcache : ({ s with messageCache := Function.update s.messageCache m.id (some m) } :
      MessageStore).alreadyPersisted m.id = s.alreadyPersisted m.id := rfl
  simp only [assignMessage, hcache]
  cases h : s.alreadyPersisted m.id <;> simp [h]

/-- Whether a message counts as persisted depends on the latest persisted id only. -/
theorem alreadyPersisted_congr {s s' : MessageStore}
    (h : s'.latestPersistedId = s.latestPersistedId) :
    s'.alreadyPersisted = s.alreadyPersisted := by
  funext id
  simp only [alreadyPersisted, h]

/-- The loop of `CacheMessages` over `AssignMessage`, except for the cache. -/
theorem foldl_assignMessage (ms : List ChatMessage) : ∀ s : MessageStore,
    (ms.foldl assignMessage s).latestPersistedId = s.latestPersistedId ∧
    (ms.foldl assignMessage s).nextId = s.nextId ∧
    (ms.foldl assignMessage s).messageLogs = s.messageLogs ∧
    (ms.foldl assignMessage s).pendingMessages
      = s.pendingMessages ++ ms.filter fun m => !s.alreadyPersisted m.id := by
  induction ms with
  | nil => intro s; simp
  | cons m ms ih =>
    intro s
    obtain ⟨hlatest, hnext, hlogs, hpending⟩ := ih (s.assignMessage m)
    have hpers := alreadyPersisted_congr (latestPersistedId_assignMessage s m)
    refine ⟨by simpa using hlatest, by simpa using hnext, by simpa using hlogs, ?_⟩
    rw [List.foldl_cons, hpending, pendingMessages_assignMessage, hpers, List.append_assoc,
      ← List.filter_append, List.singleton_append]

/-- An id that no message of the batch has keeps its cache entry. -/
theorem messageCache_foldl_assignMessage_of_ne {id : Nat} (ms : List ChatMessage) :
    ∀ s : MessageStore, (∀ m ∈ ms, m.id ≠ id) →
      (ms.foldl assignMessage s).messageCache id = s.messageCache id := by
  induction ms with
  | nil => intro s _; rfl
  | cons m ms ih =>
    intro s h
    rw [List.foldl_cons, ih _ fun m' hm' => h m' (by simp [hm']), messageCache_assignMessage,
      Function.update_of_ne (Ne.symm (h m (by simp)))]

/-- A batch with distinct ids caches each of its messages. -/
theorem messageCache_foldl_assignMessage_of_mem {m : ChatMessage} (ms : List ChatMessage) :
    ∀ s : MessageStore, (ms.map ChatMessage.id).Nodup → m ∈ ms →
      (ms.foldl assignMessage s).messageCache m.id = some m := by
  induction ms with
  | nil => intro s _ hm; cases hm
  | cons x ms ih =>
    intro s hnodup hm
    rw [List.map_cons, List.nodup_cons] at hnodup
    rw [List.foldl_cons]
    rcases List.mem_cons.mp hm with rfl | hm
    · have hne : ∀ m' ∈ ms, m'.id ≠ m.id := fun m' hm' he =>
        hnodup.1 (he ▸ List.mem_map_of_mem hm')
      rw [messageCache_foldl_assignMessage_of_ne ms _ hne, messageCache_assignMessage,
        Function.update_self]
    · exact ih _ hnodup.2 hm

/-- The log of the channel is changed. -/
theorem messageLogs_modifyLog_self {s : MessageStore} {ch : Nat}
    {f : ChannelMessageLog → ChannelMessageLog} :
    (s.modifyLog ch f).messageLogs ch = (s.messageLogs ch).map f := by
  simp [modifyLog]

/-- The other logs are not. -/
theorem messageLogs_modifyLog_of_ne {s : MessageStore} {ch ch' : Nat}
    {f : ChannelMessageLog → ChannelMessageLog} (h : ch' ≠ ch) :
    (s.modifyLog ch f).messageLogs ch' = s.messageLogs ch' := by
  simp [modifyLog, h]

/-- `CacheMessages` leaves the persisted id alone. -/
@[simp] theorem latestPersistedId_cacheMessages (s : MessageStore) (ch : Nat)
    (ms : List ChatMessage) :
    (s.cacheMessages ch ms).latestPersistedId = s.latestPersistedId := by
  unfold cacheMessages
  split
  · rfl
  · simp [modifyLog, (foldl_assignMessage ms s).1]

/-- It leaves the next id alone. -/
@[simp] theorem nextId_cacheMessages (s : MessageStore) (ch : Nat)
    (ms : List ChatMessage) : (s.cacheMessages ch ms).nextId = s.nextId := by
  unfold cacheMessages
  split
  · rfl
  · simp [modifyLog, (foldl_assignMessage ms s).2.1]

/-- `CacheMessages` adds to the pending messages what is not persisted yet. -/
theorem pendingMessages_cacheMessages (s : MessageStore) (ch : Nat)
    (ms : List ChatMessage) :
    (s.cacheMessages ch ms).pendingMessages
      = s.pendingMessages ++ ms.filter fun m => !s.alreadyPersisted m.id := by
  unfold cacheMessages
  split
  · rename_i h
    simp [List.isEmpty_iff.mp h]
  · simp [modifyLog, (foldl_assignMessage ms s).2.2.2]

/-- `CacheMessages` merges the ids of the batch into the log of the channel. -/
theorem messageLogs_cacheMessages_self {s : MessageStore} {ch : Nat}
    {log : ChannelMessageLog} (hlog : s.messageLogs ch = some log) (ms : List ChatMessage) :
    (s.cacheMessages ch ms).messageLogs ch
      = some (log.assignMessageIds (ms.map ChatMessage.id)) := by
  unfold cacheMessages
  split
  · rename_i h
    rw [hlog, List.isEmpty_iff.mp h]
    rfl
  · rw [messageLogs_modifyLog_self, messageLogs_tryEmplaceLog, Function.update_self,
      (foldl_assignMessage ms s).2.2.1, hlog]
    rfl

/-- It leaves the logs of other channels alone. -/
theorem messageLogs_cacheMessages_of_ne {s : MessageStore} {ch ch' : Nat}
    (h : ch' ≠ ch) (ms : List ChatMessage) :
    (s.cacheMessages ch ms).messageLogs ch' = s.messageLogs ch' := by
  unfold cacheMessages
  split
  · rfl
  · rw [messageLogs_modifyLog_of_ne h, messageLogs_tryEmplaceLog, Function.update_of_ne h,
      (foldl_assignMessage ms s).2.2.1]

/-- It assigns the messages one by one. -/
theorem messageCache_cacheMessages (s : MessageStore) (ch : Nat)
    (ms : List ChatMessage) :
    (s.cacheMessages ch ms).messageCache = (ms.foldl assignMessage s).messageCache := by
  unfold cacheMessages
  split
  · rename_i h
    rw [List.isEmpty_iff.mp h]
    rfl
  · simp [modifyLog]

/-! ### `CreateMessage` -/

/-- `CreateMessage` leaves the persisted id alone. -/
@[simp] theorem latestPersistedId_createMessage (s : MessageStore) (ch user : Nat)
    (content : String) :
    (s.createMessage ch user content).latestPersistedId = s.latestPersistedId := by
  simp [createMessage, cacheMessage, modifyLog]

/-- It takes the next id, which wraps around. -/
@[simp] theorem nextId_createMessage (s : MessageStore) (ch user : Nat)
    (content : String) :
    (s.createMessage ch user content).nextId = (s.nextId + 1) % uint32Size := by
  simp [createMessage, cacheMessage, modifyLog]

/-- It puts the new message into the cache under the old id. -/
@[simp] theorem messageCache_createMessage (s : MessageStore) (ch user : Nat)
    (content : String) :
    (s.createMessage ch user content).messageCache
      = Function.update s.messageCache s.nextId (some (s.nextMessage ch user content)) := by
  simp [createMessage, cacheMessage, modifyLog, nextMessage]

/-- The new message is pending unless its id is at most the latest persisted one. -/
theorem pendingMessages_createMessage (s : MessageStore) (ch user : Nat)
    (content : String) :
    (s.createMessage ch user content).pendingMessages
      = s.pendingMessages ++
        [s.nextMessage ch user content].filter fun m => !s.alreadyPersisted m.id := by
  simp only [createMessage, cacheMessage]
  rw [pendingMessages_assignMessage, alreadyPersisted_congr (s := s)]
  · simp [modifyLog, nextMessage]
  · simp [modifyLog]

/-- It appends the id to the log of the channel. -/
theorem messageLogs_createMessage_self (s : MessageStore) (ch user : Nat)
    (content : String) :
    (s.createMessage ch user content).messageLogs ch
      = some (((s.messageLogs ch).getD {}).appendMessageId s.nextId) := by
  simp only [createMessage, cacheMessage, messageLogs_assignMessage, nextMessage]
  rw [messageLogs_modifyLog_self, messageLogs_tryEmplaceLog, Function.update_self]
  rfl

/-- It leaves the other logs alone. -/
theorem messageLogs_createMessage_of_ne (s : MessageStore) {ch ch' : Nat} (user : Nat)
    (content : String) (h : ch' ≠ ch) :
    (s.createMessage ch user content).messageLogs ch' = s.messageLogs ch' := by
  simp only [createMessage, cacheMessage, messageLogs_assignMessage, nextMessage]
  rw [messageLogs_modifyLog_of_ne h, messageLogs_tryEmplaceLog, Function.update_of_ne h]

/-! ### `GetMessagesBefore` -/

/-- `QueryAndCacheMessages` leaves the persisted id alone. -/
@[simp] theorem latestPersistedId_queryAndCacheMessages (s : MessageStore) (db : Database)
    (ch bound limit : Nat) :
    (s.queryAndCacheMessages db ch bound limit).1.latestPersistedId = s.latestPersistedId := by
  simp [queryAndCacheMessages, modifyLog]

/-- It leaves the next id alone. -/
@[simp] theorem nextId_queryAndCacheMessages (s : MessageStore) (db : Database)
    (ch bound limit : Nat) :
    (s.queryAndCacheMessages db ch bound limit).1.nextId = s.nextId := by
  simp [queryAndCacheMessages, modifyLog]

/-- A page adds to the pending messages those of its messages that are not persisted yet. -/
theorem pendingMessages_queryAndCacheMessages (s : MessageStore) (db : Database)
    (ch bound limit : Nat) :
    (s.queryAndCacheMessages db ch bound limit).1.pendingMessages
      = s.pendingMessages ++
        (db.getChatMessagesBefore ch bound limit).filter fun m => !s.alreadyPersisted m.id := by
  simp only [queryAndCacheMessages]
  rw [pendingMessages_cacheMessages]
  rfl

/-- The log of the channel after a page. -/
theorem messageLogs_queryAndCacheMessages_self {s : MessageStore} {ch : Nat}
    {log : ChannelMessageLog} (hlog : s.messageLogs ch = some log) (db : Database)
    (bound limit : Nat) :
    (s.queryAndCacheMessages db ch bound limit).1.messageLogs ch
      = some (({ log with
            cacheComplete := (log.cacheComplete ||
              decide (limit > (db.getChatMessagesBefore ch bound limit).length)) } :
          ChannelMessageLog).assignMessageIds
        ((db.getChatMessagesBefore ch bound limit).map ChatMessage.id)) := by
  simp only [queryAndCacheMessages]
  exact messageLogs_cacheMessages_self (by rw [messageLogs_modifyLog_self, hlog]; rfl) _

/-- It leaves the logs of other channels alone. -/
theorem messageLogs_queryAndCacheMessages_of_ne {s : MessageStore} {ch ch' : Nat}
    (h : ch' ≠ ch) (db : Database) (bound limit : Nat) :
    (s.queryAndCacheMessages db ch bound limit).1.messageLogs ch' = s.messageLogs ch' := by
  simp only [queryAndCacheMessages]
  rw [messageLogs_cacheMessages_of_ne h, messageLogs_modifyLog_of_ne h]

/-- A page changes the cache at the ids of its messages only. -/
theorem messageCache_queryAndCacheMessages_of_ne {s : MessageStore} {db : Database}
    {ch bound limit id : Nat}
    (h : ∀ m ∈ db.getChatMessagesBefore ch bound limit, m.id ≠ id) :
    (s.queryAndCacheMessages db ch bound limit).1.messageCache id = s.messageCache id := by
  simp only [queryAndCacheMessages, messageCache_cacheMessages]
  exact messageCache_foldl_assignMessage_of_ne _ _ h

/-- A page is a sublist of the table. -/
theorem sublist_getChatMessagesBefore (db : Database) (ch bound limit : Nat) :
    (db.getChatMessagesBefore ch bound limit).Sublist db.messages.rows := by
  rw [Database.getChatMessagesBefore_eq]
  exact (List.drop_sublist _ _).trans List.filter_sublist

/-- The messages of a page. -/
theorem mem_getChatMessagesBefore {db : Database} {ch bound limit : Nat}
    {m : ChatMessage} (h : m ∈ db.getChatMessagesBefore ch bound limit) :
    m ∈ db.messages.rows ∧ m.channelId = ch ∧ m.id < bound := by
  rw [Database.getChatMessagesBefore_eq] at h
  simpa using List.mem_filter.mp (mem_of_mem_rtake h)

/-- A page caches each of its messages. -/
theorem messageCache_queryAndCacheMessages_of_mem {s : MessageStore} {db : Database}
    {ch bound limit : Nat} {m : ChatMessage}
    (h : m ∈ db.getChatMessagesBefore ch bound limit) :
    (s.queryAndCacheMessages db ch bound limit).1.messageCache m.id = some m := by
  simp only [queryAndCacheMessages, messageCache_cacheMessages]
  refine messageCache_foldl_assignMessage_of_mem _ _ ?_ h
  exact db.messages.ascending.nodup.sublist
    ((sublist_getChatMessagesBefore db ch bound limit).map _)

/-- The first id of a nonempty `takeWhile` is the first id of the list. -/
theorem headD_takeWhile {p : Nat → Bool} {ids : List Nat}
    (h : ids.takeWhile p ≠ []) (d : Nat) : ids.head? = some ((ids.takeWhile p).headD d) := by
  cases ids with
  | nil => exact absurd rfl h
  | cons a ids =>
    cases hp : p a with
    | true => simp [hp]
    | false => exact absurd (by simp [hp]) h

/-- The pages that a request on the log of a channel can read. A bound above the log's
oldest id is only used to cut the cached ids. -/
theorem getChatMessagesBefore_store (s : MessageStore) (db : Database)
    (log : ChannelMessageLog) (ch bound limit : Nat) :
    (s.getChatMessagesBefore db log ch bound limit).1 = s ∨
    ∃ b k, log.channelMessageIds.head?.all (b ≤ ·) = true ∧
      (s.getChatMessagesBefore db log ch bound limit).1
        = (s.queryAndCacheMessages db ch b k).1 := by
  unfold getChatMessagesBefore
  split
  · exact Or.inl rfl
  · split
    · rename_i hhead
      exact Or.inr ⟨bound, limit, hhead, rfl⟩
    · simp only
      split
      · -- `lower_bound` found no smaller id, so the log's oldest id is at least the bound.
        rename_i hhead hzero
        refine Or.inr ⟨bound, limit, ?_, rfl⟩
        cases hids : log.channelMessageIds with
        | nil => rfl
        | cons a ids =>
          rw [hids, List.length_eq_zero_iff, List.takeWhile_cons] at hzero
          split at hzero
          · cases hzero
          · rename_i hlt
            simpa using hlt
      · split
        · exact Or.inl rfl
        · -- The request wants more than the cache has, so the page ends at the oldest id.
          rename_i hzero hcond
          simp only [Bool.or_eq_true, decide_eq_true_eq, not_or, not_le] at hcond
          have hne : log.channelMessageIds.takeWhile (· < bound) ≠ [] := by
            intro h
            rw [h] at hzero
            exact hzero rfl
          have htake : min (log.channelMessageIds.takeWhile (· < bound)).length limit
              = (log.channelMessageIds.takeWhile (· < bound)).length := by omega
          refine Or.inr ⟨_, _, ?_, rfl⟩
          rw [htake, rtake_of_length_le (Nat.le_refl _), headD_takeWhile hne 0]
          simp

/-- A request either leaves the store as it is or reads one page. -/
theorem getMessagesBefore_store (s : MessageStore) (db : Database) (ch bound limit : Nat) :
    (s.getMessagesBefore db ch bound limit).1 = s ∨
    ∃ log b k, s.messageLogs ch = some log ∧ log.channelMessageIds.head?.all (b ≤ ·) = true ∧
      (s.getMessagesBefore db ch bound limit).1 = (s.queryAndCacheMessages db ch b k).1 := by
  unfold getMessagesBefore
  cases hlog : s.messageLogs ch with
  | none => exact Or.inl rfl
  | some log =>
    rcases getChatMessagesBefore_store s db log ch bound limit with h | ⟨b, k, hb, h⟩
    · exact Or.inl h
    · exact Or.inr ⟨log, b, k, rfl, hb, h⟩

/-- A request leaves the logs of the other channels as they are. -/
theorem messageLogs_getMessagesBefore_of_ne {s : MessageStore} {ch ch' : Nat} (h : ch' ≠ ch)
    (db : Database) (bound limit : Nat) :
    (s.getMessagesBefore db ch bound limit).1.messageLogs ch' = s.messageLogs ch' := by
  rcases getMessagesBefore_store s db ch bound limit with heq | ⟨_, b, k, -, -, heq⟩
  · rw [heq]
  · rw [heq, messageLogs_queryAndCacheMessages_of_ne h]

/-- A request removes no log. -/
theorem messageLogs_of_getMessagesBefore_eq_none {s : MessageStore} {db : Database}
    {ch bound limit : Nat}
    (h : (s.getMessagesBefore db ch bound limit).1.messageLogs ch = none) :
    s.messageLogs ch = none := by
  rcases getMessagesBefore_store s db ch bound limit with heq | ⟨_, b, k, hlog, -, heq⟩
  · rwa [heq] at h
  · rw [heq, messageLogs_queryAndCacheMessages_self hlog] at h
    cases h

/-- A request changes the cache at the ids of rows of its channel only. -/
theorem messageCache_getMessagesBefore_of_ne {s : MessageStore} {db : Database} {ch id : Nat}
    (h : ∀ m ∈ db.messages.rows, m.channelId = ch → m.id ≠ id) (bound limit : Nat) :
    (s.getMessagesBefore db ch bound limit).1.messageCache id = s.messageCache id := by
  rcases getMessagesBefore_store s db ch bound limit with heq | ⟨_, b, k, -, -, heq⟩
  · rw [heq]
  · rw [heq, messageCache_queryAndCacheMessages_of_ne]
    intro m hm
    obtain ⟨hrow, hch, -⟩ := mem_getChatMessagesBefore hm
    exact h m hrow hch

/-- `s'` is `s` after rows of the table went into the cache. What is not persisted yet by its
id becomes pending. -/
structure Paged (db : Database) (s s' : MessageStore) : Prop where
  latest : s'.latestPersistedId = s.latestPersistedId
  next : s'.nextId = s.nextId
  pending : ∃ page, (∀ m ∈ page, m ∈ db.messages.rows) ∧
    s'.pendingMessages = s.pendingMessages ++ page

/-- A store is a page of itself. -/
theorem Paged.refl (db : Database) (s : MessageStore) : Paged db s s :=
  ⟨rfl, rfl, [], by simp, (List.append_nil _).symm⟩

/-- A request of messages. -/
theorem paged_getMessagesBefore (s : MessageStore) (db : Database) (ch bound limit : Nat) :
    Paged db s (s.getMessagesBefore db ch bound limit).1 := by
  rcases getMessagesBefore_store s db ch bound limit with heq | ⟨log, b, k, -, -, heq⟩
  · rw [heq]
    exact Paged.refl db s
  · rw [heq]
    refine ⟨latestPersistedId_queryAndCacheMessages s db ch b k,
      nextId_queryAndCacheMessages s db ch b k, _, fun m hm => ?_,
      pendingMessages_queryAndCacheMessages s db ch b k⟩
    exact (mem_getChatMessagesBefore (List.mem_of_mem_filter hm)).1

end MessageStore

/-! ### `Persist` -/

/-- A call of `Persist` returns at once, swaps the pending messages out, writes its batch or
publishes its last id. -/
theorem persistStep_cases {db db' : Database} {s s' : MessageStore} {p p' : PersistStep}
    (h : persistStep db s p = some (db', s', p')) :
    (p = .idle ∧ s.pendingMessages = [] ∧ db' = db ∧ s' = s ∧ p' = .idle) ∨
    (p = .idle ∧ s.pendingMessages ≠ [] ∧ db' = db ∧
      s' = { s with pendingMessages := [] } ∧ p' = .swapped s.pendingMessages) ∨
    (∃ batch latest, p = .swapped batch ∧ db.persistChatMessages batch = some (db', latest) ∧
      s' = s ∧ p' = .written latest) ∨
    (∃ latest, p = .written latest ∧ db' = db ∧
      s' = { s with latestPersistedId := latest } ∧ p' = .idle) := by
  cases p with
  | idle =>
    simp only [persistStep] at h
    split at h
    · rename_i hempty
      cases h
      exact Or.inl ⟨rfl, List.isEmpty_iff.mp hempty, rfl, rfl, rfl⟩
    · rename_i hne
      cases h
      refine Or.inr (Or.inl ⟨rfl, fun he => hne (by simp [he]), rfl, rfl, rfl⟩)
  | swapped batch =>
    obtain ⟨⟨db'', latest⟩, hwrite, heq⟩ := Option.map_eq_some_iff.mp h
    cases heq
    exact Or.inr (Or.inr (Or.inl ⟨batch, latest, rfl, hwrite, rfl, rfl⟩))
  | written latest =>
    cases h
    exact Or.inr (Or.inr (Or.inr ⟨latest, rfl, rfl, rfl, rfl⟩))

/-- `Persist` does not touch the logs, the cache, the next id and the other tables. -/
theorem persistStep_frame {db db' : Database} {s s' : MessageStore} {p p' : PersistStep}
    (h : persistStep db s p = some (db', s', p')) :
    s'.messageLogs = s.messageLogs ∧ s'.messageCache = s.messageCache ∧ s'.nextId = s.nextId ∧
      db'.channels = db.channels ∧ db'.users = db.users := by
  rcases persistStep_cases h with ⟨-, -, rfl, rfl, -⟩ | ⟨-, -, rfl, rfl, -⟩ |
    ⟨batch, latest, -, hwrite, rfl, -⟩ | ⟨latest, -, rfl, rfl, -⟩
  · exact ⟨rfl, rfl, rfl, rfl, rfl⟩
  · exact ⟨rfl, rfl, rfl, rfl, rfl⟩
  · obtain ⟨hchannels, husers, -⟩ := Database.persistChatMessages_tables hwrite
    exact ⟨rfl, rfl, rfl, hchannels, husers⟩
  · exact ⟨rfl, rfl, rfl, rfl, rfl⟩

/-- A step of `Persist` moves messages from the pending ones into the batch, and from the
batch into the table. -/
theorem persistStep_moves {db db' : Database} {st st' : MessageStore} {p p' : PersistStep}
    (h : persistStep db st p = some (db', st', p')) (m : ChatMessage) :
    (m ∈ db.messages.rows → m ∈ db'.messages.rows) ∧
    (m ∈ p.inFlight → m ∈ db'.messages.rows) ∧
    (m ∈ st.pendingMessages → m ∈ st'.pendingMessages ∨ m ∈ p'.inFlight) ∧
    (m ∈ st'.pendingMessages → m ∈ st.pendingMessages) := by
  rcases persistStep_cases h with ⟨rfl, hpending, rfl, rfl, rfl⟩ | ⟨rfl, -, rfl, rfl, rfl⟩ |
    ⟨batch, latest, rfl, hwrite, rfl, rfl⟩ | ⟨latest, rfl, rfl, rfl, rfl⟩
  · exact ⟨id, nofun, .inl, id⟩
  · exact ⟨id, nofun, .inr, nofun⟩
  · have hrows := (Database.persistChatMessages_tables hwrite).2.2 m
    exact ⟨fun hm => hrows.mpr (.inr hm), fun hm => hrows.mpr (.inl hm), .inl, id⟩
  · exact ⟨id, nofun, .inl, id⟩

/-- A step of `Persist` makes no message. -/
theorem persistStep_sources {db db' : Database} {st st' : MessageStore} {p p' : PersistStep}
    (h : persistStep db st p = some (db', st', p')) {m : ChatMessage}
    (hm : m ∈ st'.pendingMessages ∨ m ∈ p'.inFlight ∨ m ∈ db'.messages.rows) :
    m ∈ st.pendingMessages ∨ m ∈ p.inFlight ∨ m ∈ db.messages.rows := by
  rcases persistStep_cases h with ⟨rfl, -, rfl, rfl, rfl⟩ | ⟨rfl, -, rfl, rfl, rfl⟩ |
    ⟨batch, latest, rfl, hwrite, rfl, rfl⟩ | ⟨latest, rfl, rfl, rfl, rfl⟩
  · exact hm
  · rcases hm with hm | hm | hm
    · cases hm
    · exact .inl hm
    · exact .inr (.inr hm)
  · rcases hm with hm | hm | hm
    · exact .inl hm
    · cases hm
    · exact .inr (((Database.persistChatMessages_tables hwrite).2.2 m).mp hm)
  · exact hm

end ChatCore.Server
