import ChatCore.Proofs.MessageStore

/-!
# `ChatCore.Proofs.Prewarm`: the store right after `Prewarm`

`ChatMessageStore::Prewarm` reads the greatest message id of the database and then, for
each channel, the last 100 messages. `prewarmed_prewarm` describes the store that results:
nothing is pending, each channel of the database has a log, and the log holds the ids of
exactly that page (`prewarmPage`).

The loop over the channels is a fold, and its invariant is `Prewarmed`: which channels the
loop has visited decides which logs exist. Every message of a page has an id below the
greatest one, so `AssignMessage` takes it for persisted and leaves the pending messages
alone. This needs the locked section of `Prewarm` to be executed before the loop.
-/

set_option autoImplicit false

namespace ChatCore.Server

open ChatCore.Api
open ChatCore.Lib

namespace Database

/-- The page that `ChatChannelMessageLog::Prewarm` reads. -/
def prewarmPage (db : Database) (channelId : Nat) : List ChatMessage :=
  db.getChatMessagesBefore channelId maxMessageId ChannelMessageLog.prewarmMessageCount

/-- The id that the first message after `Prewarm` gets, without the wrap. -/
def firstId (db : Database) : Nat := db.messages.maxKey.elim 0 (· + 1)

/-- Every stored id is below the next one. -/
theorem id_lt_firstId {db : Database} {m : ChatMessage} (h : m ∈ db.messages.rows) :
    m.id < db.firstId := by
  unfold firstId
  cases hmax : db.messages.maxKey with
  | none =>
    rw [Table.maxKey_eq_none.mp hmax] at h
    cases h
  | some n => exact Nat.lt_succ_of_le (Table.key_le_of_maxKey hmax h)

/-- The ids of a page are strictly ascending. -/
theorem sortedLT_prewarmPage (db : Database) (ch : Nat) :
    ((db.prewarmPage ch).map ChatMessage.id).SortedLT := by
  have hsub := (MessageStore.sublist_getChatMessagesBefore db ch maxMessageId
    ChannelMessageLog.prewarmMessageCount).map ChatMessage.id
  exact (db.messages.ascending.pairwise.sublist hsub).sortedLT

end Database

namespace MessageStore

/-- `ChatChannelMessageLog::Prewarm` caches its page. The early return on an empty page is
the one of `CacheMessages`. -/
theorem prewarmLog_eq (s : MessageStore) (db : Database) (ch : Nat) :
    s.prewarmLog db ch = s.cacheMessages ch (db.prewarmPage ch) := by
  show (if (db.prewarmPage ch).isEmpty then s else s.cacheMessages ch (db.prewarmPage ch)) = _
  split
  · rename_i h
    rw [List.isEmpty_iff.mp h]
    rfl
  · rfl

/-- A round of the loop of `Prewarm`, on any store. -/
theorem paged_prewarmChannel (db : Database) (s : MessageStore) (channel : ChatChannel) :
    Paged db s (prewarmChannel db s channel) := by
  unfold prewarmChannel
  rw [prewarmLog_eq]
  have hpending := pendingMessages_cacheMessages (s.tryEmplaceLog channel.id) channel.id
    (db.prewarmPage channel.id)
  rw [pendingMessages_tryEmplaceLog] at hpending
  refine ⟨by simp, by simp, _, fun m hm => ?_, hpending⟩
  exact (mem_getChatMessagesBefore (List.mem_of_mem_filter hm)).1

/-- The log of a channel right after `Prewarm`. -/
def prewarmedLog (db : Database) (ch : Nat) : ChannelMessageLog :=
  { channelMessageIds := (db.prewarmPage ch).map ChatMessage.id }

/-- What the loop of `Prewarm` has done after the channels `visited`. -/
structure Prewarmed (db : Database) (visited : List Nat) (s : MessageStore) : Prop where
  latest : s.latestPersistedId = db.getLastChatMessageId
  next : s.nextId = db.firstId % uint32Size
  pending : s.pendingMessages = []
  logs : ∀ ch, s.messageLogs ch = if ch ∈ visited then some (prewarmedLog db ch) else none
  cache : ∀ ch ∈ visited, ∀ m ∈ db.prewarmPage ch, s.messageCache m.id = some m

/-- The greatest stored id covers every stored message. -/
theorem alreadyPersisted_of_mem {s : MessageStore} {db : Database}
    (h : s.latestPersistedId = db.getLastChatMessageId) {m : ChatMessage}
    (hm : m ∈ db.messages.rows) : s.alreadyPersisted m.id = true := by
  unfold alreadyPersisted
  rw [h, Database.getLastChatMessageId]
  cases hmax : db.messages.maxKey with
  | none =>
    rw [Table.maxKey_eq_none.mp hmax] at hm
    cases hm
  | some n => simpa using Table.key_le_of_maxKey hmax hm

/-- The locked section of `Prewarm`, on a new store. -/
theorem prewarmed_prewarmIds (db : Database) :
    Prewarmed db [] (({} : MessageStore).prewarmIds db) where
  latest := rfl
  next := by
    simp only [prewarmIds, Database.firstId, Database.getLastChatMessageId]
    cases db.messages.maxKey with
    | none => rfl
    | some n => rfl
  pending := rfl
  logs := fun ch => by simp [prewarmIds]
  cache := fun ch hch => by cases hch

/-- One round of the loop, for a channel that was not visited yet. -/
theorem prewarmed_prewarmChannel {db : Database} {visited : List Nat} {s : MessageStore}
    (h : Prewarmed db visited s) (channel : ChatChannel) (hnew : channel.id ∉ visited) :
    Prewarmed db (channel.id :: visited) (prewarmChannel db s channel) := by
  have hlatest : (s.tryEmplaceLog channel.id).latestPersistedId = db.getLastChatMessageId := by
    rw [latestPersistedId_tryEmplaceLog, h.latest]
  have hpage : ∀ m ∈ db.prewarmPage channel.id, m ∈ db.messages.rows := fun m hm =>
    (mem_getChatMessagesBefore hm).1
  have hlog : (s.tryEmplaceLog channel.id).messageLogs channel.id = some {} := by
    rw [messageLogs_tryEmplaceLog, Function.update_self, h.logs, if_neg hnew]
    rfl
  unfold prewarmChannel
  rw [prewarmLog_eq]
  refine ⟨?_, ?_, ?_, fun ch => ?_, fun ch hch m hm => ?_⟩
  · rw [latestPersistedId_cacheMessages, hlatest]
  · rw [nextId_cacheMessages, nextId_tryEmplaceLog, h.next]
  · -- Every message of the page counts as persisted, so none becomes pending.
    rw [pendingMessages_cacheMessages, pendingMessages_tryEmplaceLog, h.pending,
      List.nil_append, List.filter_eq_nil_iff]
    intro m hm
    simp [alreadyPersisted_of_mem hlatest (hpage m hm)]
  · by_cases hch : ch = channel.id
    · -- The new log is empty, so the merge with the page is the page.
      subst hch
      rw [messageLogs_cacheMessages_self hlog, if_pos (by simp)]
      have hempty : ([] : List Nat).SortedLT := by simp [List.sortedLT_iff_pairwise]
      have hids : (({} : ChannelMessageLog).assignMessageIds
          ((db.prewarmPage channel.id).map ChatMessage.id)).channelMessageIds
            = (db.prewarmPage channel.id).map ChatMessage.id := by
        rw [ChannelMessageLog.channelMessageIds_assignMessageIds hempty]
        exact mergeUnique_eq hempty (db.sortedLT_prewarmPage _) (by simp)
      have hcomplete := ChannelMessageLog.cacheComplete_assignMessageIds {}
        ((db.prewarmPage channel.id).map ChatMessage.id)
      generalize ({} : ChannelMessageLog).assignMessageIds _ = log at hids hcomplete
      cases log
      cases hids
      cases hcomplete
      rfl
    · rw [messageLogs_cacheMessages_of_ne hch, messageLogs_tryEmplaceLog,
        Function.update_of_ne hch, h.logs]
      simp [hch]
  · have hnodup : ((db.prewarmPage channel.id).map ChatMessage.id).Nodup :=
      (db.sortedLT_prewarmPage _).nodup
    rw [messageCache_cacheMessages]
    -- A message of an earlier page that has an id of this page is a message of this page.
    by_cases hid : m.id ∈ (db.prewarmPage channel.id).map ChatMessage.id
    · obtain ⟨m', hm', he⟩ := List.mem_map.mp hid
      have hrow : m ∈ db.messages.rows := (mem_getChatMessagesBefore hm).1
      have heq : m' = m := Table.eq_of_key_eq (hpage m' hm') hrow he
      exact heq ▸ messageCache_foldl_assignMessage_of_mem _ _ hnodup hm'
    · have hne : ∀ m' ∈ db.prewarmPage channel.id, m'.id ≠ m.id := fun m' hm' he =>
        hid (he ▸ List.mem_map_of_mem hm')
      rw [messageCache_foldl_assignMessage_of_ne _ _ hne, messageCache_tryEmplaceLog]
      rcases List.mem_cons.mp hch with rfl | hch
      · exact absurd (List.mem_map_of_mem hm) hid
      · exact h.cache ch hch m hm

/-- The loop of `Prewarm`. -/
theorem prewarmed_foldl {db : Database} : ∀ (channels : List ChatChannel) (visited : List Nat)
    (s : MessageStore), Prewarmed db visited s → (channels.map ChatChannel.id).Nodup →
    (∀ c ∈ channels, c.id ∉ visited) →
    Prewarmed db ((channels.map ChatChannel.id).reverse ++ visited)
      (channels.foldl (prewarmChannel db) s) := by
  intro channels
  induction channels with
  | nil => intro visited s h _ _; exact h
  | cons c channels ih =>
    intro visited s h hnodup hnew
    rw [List.map_cons, List.nodup_cons] at hnodup
    have hstep := prewarmed_prewarmChannel h c (hnew c (by simp))
    have hrest : ∀ c' ∈ channels, c'.id ∉ c.id :: visited := by
      intro c' hc' hmem
      rcases List.mem_cons.mp hmem with he | hmem
      · exact hnodup.1 (he ▸ List.mem_map_of_mem hc')
      · exact hnew c' (by simp [hc']) hmem
    have hfold := ih _ _ hstep hnodup.2 hrest
    rw [List.map_cons, List.reverse_cons, List.append_assoc, List.singleton_append]
    exact hfold

/-- The store after `Prewarm`. The channels of the database are the ones with a log. -/
theorem prewarmed_prewarm (db : Database) :
    Prewarmed db db.channels.keys.reverse (({} : MessageStore).prewarm db) := by
  have h := prewarmed_foldl db.getChatChannels [] _ (prewarmed_prewarmIds db)
    db.channels.ascending.nodup (by simp)
  rw [List.append_nil] at h
  exact h

end MessageStore

end ChatCore.Server
