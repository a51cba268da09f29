import ChatCore.Proofs.Prewarm
import ChatCore.Server.Lifetime

/-!
# `ChatCore.Proofs.Persistence`: no message is lost or written twice

`AssignMessage` decides by a comparison with `latest_persisted_id_` whether a message still
has to be written. This id lags behind the database between the write of a batch and its
publication, and page loads send rows of the database through the same `AssignMessage`. A
row that is written and not published would become pending a second time.

It never is, because a page load cannot return such a row. The row was created since
`Prewarm`, so its id is in the log of its channel, and a page ends before the oldest id of
that log (`getMessagesBefore_store`). The rows of a page are therefore rows that `Prewarm`
found, and these are below every published id.

`PersistInv` is the invariant. The messages created since `Prewarm` are, in this order, the
written ones, the batch in flight and the pending ones, and their ids continue those of the
database without a gap. `persistInv_reachable` proves it for every reachable state. What
follows for the tables and the batches is collected at the end.
-/

set_option autoImplicit false

namespace ChatCore.Server

open ChatCore.Api
open ChatCore.Lib

/-! ### The database -/

/-- A batch that continues the ascending ids of the table is stored at its end. -/
theorem Database.persistChatMessages_of_ascending {db : Database} {batch : List ChatMessage}
    (hne : batch ≠ [])
    (h : ((db.messages.rows ++ batch).map ChatMessage.id).SortedLT) :
    ∃ db' last, db.persistChatMessages batch = some (db', some last.id) ∧
      batch.getLast? = some last ∧ db'.messages.rows = db.messages.rows ++ batch := by
  obtain ⟨last, hlast⟩ := Option.ne_none_iff_exists'.mp (mt List.getLast?_eq_none_iff.mp hne)
  obtain ⟨table, htable, hrows⟩ := Table.insertAll_of_ascending h
  refine ⟨{ db with messages := table, lastInsertRowid := last.id }, last, ?_, hlast, hrows⟩
  unfold persistChatMessages
  rw [if_neg (by simpa using hne), htable, hlast]
  rfl

/-- A new channel leaves the messages alone. -/
theorem Database.messages_createChatChannel (db : Database) (name : String) :
    (db.createChatChannel name).1.messages = db.messages := by
  unfold createChatChannel insertChannel
  split <;> rename_i h
  · rfl
  · split at h
    · cases h
    · cases h
      rfl

/-- A new channel keeps the rows of the other channels. -/
theorem Database.keys_createChatChannel {db : Database} {ch : Nat} (h : ch ∈ db.channels.keys)
    (name : String) : ch ∈ (db.createChatChannel name).1.channels.keys := by
  unfold createChatChannel insertChannel
  split <;> rename_i heq
  · exact h
  · split at heq
    · cases heq
    · cases heq
      unfold Table.keys Table.append
      rw [List.map_append]
      exact List.mem_append_left _ h

namespace Lifetime

/-! ### The invariant -/

/-- The invariant of a lifetime. -/
structure PersistInv (s : Lifetime) : Prop where
  /-- The created messages are the written ones, the batch in flight and the pending ones. -/
  split : ∃ written, s.db.messages.rows = s.start.messages.rows ++ written ∧
    s.batches.flatten = written ++ s.persist.inFlight ∧
    s.created = written ++ s.persist.inFlight ++ s.store.pendingMessages
  /-- Ids ascend, from the database that `Prewarm` read on. -/
  ascending : ((s.start.messages.rows ++ s.created).map ChatMessage.id).SortedLT
  nextId : s.store.nextId = s.start.firstId + s.created.length
  below : ∀ m ∈ s.start.messages.rows ++ s.created, m.id < s.store.nextId
  /-- What `Prewarm` found counts as persisted. -/
  stored : ∀ m ∈ s.start.messages.rows, s.store.alreadyPersisted m.id = true
  /-- The latest persisted id is below everything that still has to be written. -/
  latest : ∀ l, s.store.latestPersistedId = some l →
    l < s.store.nextId ∧ ∀ m ∈ s.persist.inFlight ++ s.store.pendingMessages, l < m.id
  batch : ∀ b, s.persist = .swapped b → b ≠ []
  /-- The id that the next step publishes is not below the published one. -/
  publish : ∀ p, s.persist = .written p → ∃ l, p = some l ∧ l < s.store.nextId ∧
    (∀ l', s.store.latestPersistedId = some l' → l' ≤ l) ∧
    ∀ m ∈ s.store.pendingMessages, l < m.id
  logs : ∀ ch log, s.store.messageLogs ch = some log →
    log.channelMessageIds.SortedLT ∧ ∀ id ∈ log.channelMessageIds, id < s.store.nextId
  /-- The log of a channel knows every message created in the channel since `Prewarm`. -/
  logged : ∀ m ∈ s.created, ∃ log, s.store.messageLogs m.channelId = some log ∧
    m.id ∈ log.channelMessageIds

/-- The ids of a lifetime stay below `2 ^ 32`. -/
theorem firstId_add_lt {s : Lifetime} (h : s.IdsFit) :
    s.start.firstId + s.created.length < uint32Size := by
  unfold IdsFit at h
  unfold Database.firstId
  cases hmax : s.start.messages.maxKey with
  | none => simp only [Option.elim_none]; omega
  | some n =>
    rw [hmax] at h
    simp only [Option.elim_some, Option.getD_some] at h ⊢
    omega

/-- `Prewarm` establishes the invariant. -/
theorem persistInv_begin (db : Database) (hfit : (begin db).IdsFit) :
    PersistInv (begin db) := by
  have hp := MessageStore.prewarmed_prewarm db
  have hnext : (({} : MessageStore).prewarm db).nextId = db.firstId := by
    have hlt := firstId_add_lt hfit
    rw [hp.next]
    exact Nat.mod_eq_of_lt (by simpa [begin] using hlt)
  refine ⟨⟨[], by simp [begin], by simp [begin, PersistStep.inFlight],
    by simp [begin, PersistStep.inFlight, hp.pending]⟩, ?_, ?_, ?_, ?_, ?_, ?_, ?_, ?_, ?_⟩
  · simpa [begin] using db.messages.ascending
  · simpa [begin] using hnext
  · -- `below`: nothing is created yet, and the next id is above the rows.
    intro m hm
    have hm' : m ∈ db.messages.rows := by simpa [begin] using hm
    show m.id < (({} : MessageStore).prewarm db).nextId
    rw [hnext]
    exact Database.id_lt_firstId hm'
  · intro m hm
    exact MessageStore.alreadyPersisted_of_mem hp.latest hm
  · -- `latest`: `Prewarm` loads the greatest id, and no row of its pages becomes pending.
    intro l hl
    have hl' : db.messages.maxKey = some l := by rw [← hl]; exact hp.latest.symm
    refine ⟨?_, ?_⟩
    · show l < (({} : MessageStore).prewarm db).nextId
      rw [hnext, Database.firstId, hl']
      exact Nat.lt_succ_self l
    · intro m hm
      simp [begin, PersistStep.inFlight, hp.pending] at hm
  · intro b hb
    cases hb
  · intro p hpub
    cases hpub
  · -- `logs`: the log of a channel is the page that `Prewarm` read of it.
    intro ch log hlog
    have hlog' : (({} : MessageStore).prewarm db).messageLogs ch = some log := hlog
    rw [hp.logs] at hlog'
    split at hlog'
    · cases hlog'
      refine ⟨db.sortedLT_prewarmPage ch, fun id hid => ?_⟩
      obtain ⟨m, hm, rfl⟩ := List.mem_map.mp hid
      show m.id < (({} : MessageStore).prewarm db).nextId
      rw [hnext]
      exact Database.id_lt_firstId (MessageStore.mem_getChatMessagesBefore hm).1
    · cases hlog'
  · intro m hm
    cases hm

/-! ### Each step keeps the invariant -/

/-- An operation keeps the database that `Prewarm` read and adds to the created messages. -/
theorem step_ghosts {s s' : Lifetime} {o : LifetimeOp} (h : s.step o = some s') :
    s'.start = s.start ∧ ∃ new, s'.created = s.created ++ new := by
  cases o with
  | createChannel name => cases h; exact ⟨rfl, [], by simp⟩
  | createMessage ch user content => cases h; exact ⟨rfl, _, rfl⟩
  | getMessagesBefore ch bound limit => cases h; exact ⟨rfl, [], by simp⟩
  | persist =>
    obtain ⟨⟨db, store, p⟩, -, rfl⟩ := Option.map_eq_some_iff.mp h
    exact ⟨rfl, [], by simp⟩

/-- If the ids fit after a step, they did before it. -/
theorem idsFit_of_step {s s' : Lifetime} {o : LifetimeOp} (h : s.step o = some s')
    (hfit : s'.IdsFit) : s.IdsFit := by
  obtain ⟨hstart, new, hnew⟩ := step_ghosts h
  unfold IdsFit at hfit ⊢
  rw [hstart, hnew, List.length_append] at hfit
  omega

/-- The messages of a page that a request can read count as persisted. -/
theorem alreadyPersisted_page {s : Lifetime} (h : PersistInv s) {ch b k : Nat}
    {log : ChannelMessageLog} (hlog : s.store.messageLogs ch = some log)
    (hb : log.channelMessageIds.head?.all (b ≤ ·) = true) {m : ChatMessage}
    (hm : m ∈ s.db.getChatMessagesBefore ch b k) : s.store.alreadyPersisted m.id = true := by
  obtain ⟨hrow, hch, hlt⟩ := MessageStore.mem_getChatMessagesBefore hm
  obtain ⟨written, hrows, -, hcreated⟩ := h.split
  rw [hrows, List.mem_append] at hrow
  rcases hrow with hrow | hrow
  · exact h.stored m hrow
  · -- A message created since `Prewarm` has its id in the log, at or after the oldest id.
    exfalso
    have hmem : m ∈ s.created := by
      rw [hcreated, List.append_assoc]
      exact List.mem_append_left _ hrow
    obtain ⟨log', hlog', hid⟩ := h.logged m hmem
    rw [hch, hlog] at hlog'
    cases hlog'
    have hsorted := (h.logs ch log hlog).1.pairwise
    cases hids : log.channelMessageIds with
    | nil =>
      rw [hids] at hid
      cases hid
    | cons a ids =>
      rw [hids] at hb hid hsorted
      have hba : b ≤ a := by simpa using hb
      rcases List.mem_cons.mp hid with he | hid
      · omega
      · have := (List.pairwise_cons.mp hsorted).1 m.id hid
        omega

/-- The next id is above the latest persisted one. -/
theorem PersistInv.alreadyPersisted_nextId {s : Lifetime} (h : PersistInv s) :
    s.store.alreadyPersisted s.store.nextId = false := by
  unfold MessageStore.alreadyPersisted
  cases hl : s.store.latestPersistedId with
  | none => rfl
  | some l =>
    have hlt := (h.latest l hl).1
    simp only [Option.any_some, decide_eq_false_iff_not]
    omega

/-- A channel without a log has the empty one, in front of its first message. -/
theorem PersistInv.getD_log {s : Lifetime} (h : PersistInv s) (ch : Nat) :
    ((s.store.messageLogs ch).getD {}).channelMessageIds.SortedLT ∧
      ∀ id ∈ ((s.store.messageLogs ch).getD {}).channelMessageIds, id < s.store.nextId := by
  cases hl : s.store.messageLogs ch with
  | none => simp [List.sortedLT_iff_pairwise]
  | some log => exact h.logs ch log hl

/-- The log of the channel of a new message ends with its id. -/
theorem PersistInv.log_createMessage {s : Lifetime} (h : PersistInv s) (ch user : Nat)
    (content : String) :
    (s.store.createMessage ch user content).messageLogs ch
      = some { (s.store.messageLogs ch).getD {} with
          channelMessageIds :=
            ((s.store.messageLogs ch).getD {}).channelMessageIds ++ [s.store.nextId] } := by
  rw [MessageStore.messageLogs_createMessage_self,
    ChannelMessageLog.appendMessageId_of_forall_lt (h.getD_log ch).2]

/-- The logs stay ascending and below the next id. -/
theorem PersistInv.logs_createMessage {s : Lifetime} (h : PersistInv s) {ch user : Nat}
    {content : String} {ch' : Nat} {log : ChannelMessageLog}
    (hlog : (s.store.createMessage ch user content).messageLogs ch' = some log) :
    log.channelMessageIds.SortedLT ∧ ∀ id ∈ log.channelMessageIds, id < s.store.nextId + 1 := by
  by_cases hch : ch' = ch
  · subst hch
    obtain ⟨hsorted, hlt⟩ := h.getD_log ch'
    cases hlog.symm.trans (h.log_createMessage ch' user content)
    refine ⟨sortedLT_append_singleton hsorted hlt, fun id hid => ?_⟩
    rcases List.mem_append.mp hid with hid | hid
    · exact Nat.lt_succ_of_lt (hlt id hid)
    · rw [List.mem_singleton.mp hid]
      exact Nat.lt_succ_self _
  · have hne := MessageStore.messageLogs_createMessage_of_ne s.store user content hch
    obtain ⟨hsorted, hlt⟩ := h.logs ch' log (hne ▸ hlog)
    exact ⟨hsorted, fun id hid => Nat.lt_succ_of_lt (hlt id hid)⟩

/-- The logs know the created messages and the new one. -/
theorem PersistInv.logged_createMessage {s : Lifetime} (h : PersistInv s) {ch user : Nat}
    {content : String} {m : ChatMessage}
    (hm : m ∈ s.created ++ [s.store.nextMessage ch user content]) :
    ∃ log, (s.store.createMessage ch user content).messageLogs m.channelId = some log ∧
      m.id ∈ log.channelMessageIds := by
  rcases List.mem_append.mp hm with hm | hm
  · obtain ⟨log, hlog, hid⟩ := h.logged m hm
    by_cases hch : m.channelId = ch
    · rw [hch] at hlog
      refine ⟨_, by rw [hch]; exact h.log_createMessage ch user content, ?_⟩
      simp [hlog, hid]
    · exact ⟨log, (MessageStore.messageLogs_createMessage_of_ne _ _ _ hch).trans hlog, hid⟩
  · rw [List.mem_singleton.mp hm]
    exact ⟨_, h.log_createMessage ch user content, List.mem_append_right _ List.mem_cons_self⟩

/-- `CreateMessage` keeps the invariant. -/
theorem persistInv_createMessage {s : Lifetime} (h : PersistInv s) (ch user : Nat)
    (content : String)
    (hfit : ({ s with
      store := s.store.createMessage ch user content
      created := s.created ++ [s.store.nextMessage ch user content] } : Lifetime).IdsFit) :
    PersistInv { s with
      store := s.store.createMessage ch user content
      created := s.created ++ [s.store.nextMessage ch user content] } := by
  set m := s.store.nextMessage ch user content with hm
  have hid : m.id = s.store.nextId := rfl
  -- The new id is above the latest persisted one, so the message becomes pending.
  have hpending : (s.store.createMessage ch user content).pendingMessages
      = s.store.pendingMessages ++ [m] := by
    rw [MessageStore.pendingMessages_createMessage, ← hm,
      List.filter_cons_of_pos (by simp [hid, h.alreadyPersisted_nextId])]
    rfl
  -- The counter does not wrap, since the ids fit.
  have hnext : (s.store.createMessage ch user content).nextId = s.store.nextId + 1 := by
    have hlt := firstId_add_lt hfit
    have hn := h.nextId
    simp only [List.length_append, List.length_singleton] at hlt
    rw [MessageStore.nextId_createMessage, Nat.mod_eq_of_lt (by omega)]
  obtain ⟨written, hrows, hbatches, hcreated⟩ := h.split
  refine ⟨⟨written, hrows, hbatches, ?_⟩, ?_, ?_, ?_, ?_, ?_, h.batch, ?_, ?_, ?_⟩
  · show s.created ++ [m] = _
    rw [hpending, hcreated]
    simp only [List.append_assoc]
  · show ((s.start.messages.rows ++ (s.created ++ [m])).map ChatMessage.id).SortedLT
    rw [← List.append_assoc, List.map_append]
    refine sortedLT_append_singleton h.ascending fun i hi => ?_
    obtain ⟨x, hx, rfl⟩ := List.mem_map.mp hi
    exact h.below x hx
  · show (s.store.createMessage ch user content).nextId
      = s.start.firstId + (s.created ++ [m]).length
    rw [hnext, h.nextId, List.length_append, List.length_singleton, Nat.add_assoc]
  · intro x hx
    show x.id < (s.store.createMessage ch user content).nextId
    rw [hnext]
    rw [← List.append_assoc, List.mem_append, List.mem_singleton] at hx
    rcases hx with hx | rfl
    · exact Nat.lt_succ_of_lt (h.below x hx)
    · exact Nat.lt_succ_self _
  · -- `stored`: `CreateMessage` does not write the latest persisted id.
    intro x hx
    have hlatest := MessageStore.latestPersistedId_createMessage s.store ch user content
    rw [MessageStore.alreadyPersisted_congr hlatest]
    exact h.stored x hx
  · -- `latest`: the new message is pending, and its id is above the latest persisted one.
    intro l hl
    have hl' : s.store.latestPersistedId = some l := by simpa using hl
    obtain ⟨hlt, hall⟩ := h.latest l hl'
    refine ⟨?_, fun x hx => ?_⟩
    · show l < (s.store.createMessage ch user content).nextId
      omega
    · have hx' : x ∈ s.persist.inFlight ++ s.store.pendingMessages ∨ x = m := by
        simpa [hpending, or_assoc] using hx
      rcases hx' with hx' | rfl
      · exact hall x hx'
      · exact hlt
  · -- `publish`: a batch is written, and the new message is above its last id.
    intro p hp
    obtain ⟨l, rfl, hlt, hle, hall⟩ := h.publish p hp
    refine ⟨l, rfl, ?_, ?_, fun x hx => ?_⟩
    · show l < (s.store.createMessage ch user content).nextId
      omega
    · intro l' hl'
      exact hle l' (by simpa using hl')
    · have hx' : x ∈ s.store.pendingMessages ∨ x = m := by simpa [hpending] using hx
      rcases hx' with hx' | rfl
      · exact hall x hx'
      · exact hlt
  · intro ch' log' hlog'
    show log'.channelMessageIds.SortedLT ∧
      ∀ id ∈ log'.channelMessageIds, id < (s.store.createMessage ch user content).nextId
    rw [hnext]
    exact h.logs_createMessage hlog'
  · exact fun x hx => h.logged_createMessage hx

/-- `GetMessagesBefore` keeps the invariant. -/
theorem persistInv_getMessagesBefore {s : Lifetime} (h : PersistInv s) (ch bound limit : Nat) :
    PersistInv { s with store := (s.store.getMessagesBefore s.db ch bound limit).1 } := by
  rcases MessageStore.getMessagesBefore_store s.store s.db ch bound limit
    with heq | ⟨log, b, k, hlog, hb, heq⟩
  · rw [heq]
    exact h
  · rw [heq]
    have hpage : ∀ m ∈ s.db.getChatMessagesBefore ch b k, s.store.alreadyPersisted m.id = true :=
      fun m hm => alreadyPersisted_page h hlog hb hm
    -- So the page adds nothing to the pending messages.
    have hpending : (s.store.queryAndCacheMessages s.db ch b k).1.pendingMessages
        = s.store.pendingMessages := by
      rw [MessageStore.pendingMessages_queryAndCacheMessages,
        List.filter_eq_nil_iff.mpr fun m hm => by simp [hpage m hm], List.append_nil]
    have hself := MessageStore.messageLogs_queryAndCacheMessages_self hlog s.db b k
    obtain ⟨hsorted, hlt⟩ := h.logs ch log hlog
    -- The merged log: ascending, and made of its old ids and the ids of the page.
    have hids := @ChannelMessageLog.channelMessageIds_assignMessageIds
      { log with cacheComplete := (log.cacheComplete ||
        decide (k > (s.db.getChatMessagesBefore ch b k).length)) } hsorted
      ((s.db.getChatMessagesBefore ch b k).map ChatMessage.id)
    obtain ⟨written, hrows, hbatches, hcreated⟩ := h.split
    have hrowlt : ∀ m ∈ s.db.messages.rows, m.id < s.store.nextId := by
      intro m hm
      refine h.below m ?_
      rw [hrows, List.mem_append] at hm
      rw [List.mem_append, hcreated, List.append_assoc]
      exact hm.imp_right (List.mem_append_left _)
    refine ⟨⟨written, hrows, hbatches, ?_⟩, h.ascending, ?_, ?_, ?_, ?_, h.batch, ?_, ?_, ?_⟩
    · rw [hpending]
      exact hcreated
    · rw [MessageStore.nextId_queryAndCacheMessages]
      exact h.nextId
    · rw [MessageStore.nextId_queryAndCacheMessages]
      exact h.below
    · rw [MessageStore.alreadyPersisted_congr
        (MessageStore.latestPersistedId_queryAndCacheMessages s.store s.db ch b k)]
      exact h.stored
    · rw [MessageStore.nextId_queryAndCacheMessages,
        MessageStore.latestPersistedId_queryAndCacheMessages, hpending]
      exact h.latest
    · rw [MessageStore.nextId_queryAndCacheMessages,
        MessageStore.latestPersistedId_queryAndCacheMessages, hpending]
      exact h.publish
    · intro ch' log' hlog'
      rw [MessageStore.nextId_queryAndCacheMessages]
      by_cases hch : ch' = ch
      · subst hch
        have he := hself.symm.trans hlog'
        cases he
        rw [hids]
        -- The new ids are ids of rows, and every row is below the next id.
        refine ⟨sortedLT_mergeUnique hsorted _, fun id hid => ?_⟩
        rcases (mem_mergeUnique hsorted _ id).mp hid with hid | hid
        · exact hlt id hid
        · obtain ⟨m, hm, rfl⟩ := List.mem_map.mp hid
          exact hrowlt m (MessageStore.mem_getChatMessagesBefore hm).1
      · exact h.logs ch' log'
          ((MessageStore.messageLogs_queryAndCacheMessages_of_ne hch s.db b k).symm.trans hlog')
    · -- `logged`: a merge keeps the ids that the log has.
      intro m hm
      obtain ⟨log', hlog', hid⟩ := h.logged m hm
      by_cases hch : m.channelId = ch
      · rw [hch, hlog] at hlog'
        cases hlog'
        refine ⟨_, by rw [hch]; exact hself, ?_⟩
        rw [hids]
        exact (mem_mergeUnique hsorted _ _).mpr (Or.inl hid)
      · exact ⟨log',
          (MessageStore.messageLogs_queryAndCacheMessages_of_ne hch s.db b k).trans hlog', hid⟩

/-- The batch in flight continues the ids of the table. -/
theorem PersistInv.ascending_write {s : Lifetime} (h : PersistInv s) {batch : List ChatMessage}
    (hp : s.persist = .swapped batch) :
    ((s.db.messages.rows ++ batch).map ChatMessage.id).SortedLT := by
  obtain ⟨written, hrows, -, hcreated⟩ := h.split
  have hall := h.ascending
  rw [hcreated, hp, ← List.append_assoc, ← List.append_assoc, ← hrows, List.map_append] at hall
  exact (List.pairwise_append.mp hall.pairwise).1.sortedLT

/-- The swap: the pending messages become the batch in flight. -/
theorem persistInv_swap {s : Lifetime} (h : PersistInv s) (hp : s.persist = .idle)
    (hne : s.store.pendingMessages ≠ []) :
    PersistInv { s with
      store := { s.store with pendingMessages := [] }
      persist := .swapped s.store.pendingMessages
      batches := s.batches ++ [s.store.pendingMessages] } := by
  obtain ⟨written, hrows, hbatches, hcreated⟩ := h.split
  rw [hp] at hbatches hcreated
  simp only [PersistStep.inFlight, List.append_nil] at hbatches hcreated
  refine ⟨⟨written, hrows, ?_, ?_⟩, h.ascending, h.nextId, h.below, h.stored, ?_, ?_, ?_, h.logs,
    h.logged⟩
  · simp [PersistStep.inFlight, hbatches]
  · simpa [PersistStep.inFlight] using hcreated
  · -- `latest`: what is in flight was pending before.
    intro l hl
    obtain ⟨hlt, hall⟩ := h.latest l hl
    refine ⟨hlt, fun m hm => hall m ?_⟩
    rw [hp]
    simpa [PersistStep.inFlight] using hm
  · intro b hb
    cases hb
    exact hne
  · intro p' hp'
    cases hp'

/-- The write: no insert conflicts, and the id to publish is the last of the batch. -/
theorem persistInv_write {s : Lifetime} (h : PersistInv s) {batch : List ChatMessage}
    {db : Database} {latest : Option Nat} (hp : s.persist = .swapped batch)
    (hwrite : s.db.persistChatMessages batch = some (db, latest)) :
    PersistInv { s with db := db, persist := .written latest } := by
  obtain ⟨db', last, hwrite', hlast, hrows'⟩ :=
    Database.persistChatMessages_of_ascending (h.batch batch hp) (h.ascending_write hp)
  cases hwrite.symm.trans hwrite'
  obtain ⟨written, hrows, hbatches, hcreated⟩ := h.split
  rw [hp] at hbatches hcreated
  simp only [PersistStep.inFlight] at hbatches hcreated
  have hlastmem : last ∈ batch := List.mem_of_getLast? hlast
  refine ⟨⟨written ++ batch, ?_, ?_, ?_⟩, h.ascending, h.nextId, h.below, h.stored, ?_, ?_, ?_,
    h.logs, h.logged⟩
  · rw [hrows', hrows, List.append_assoc]
  · simpa [PersistStep.inFlight] using hbatches
  · simpa [PersistStep.inFlight] using hcreated
  · intro l hl
    obtain ⟨hlt, hall⟩ := h.latest l hl
    refine ⟨hlt, fun m hm => hall m ?_⟩
    exact List.mem_append_right _ (by simpa [PersistStep.inFlight] using hm)
  · intro b hb
    cases hb
  · intro p' hp'
    cases hp'
    -- The last id was created, it is above the published one, and below what is pending.
    refine ⟨last.id, rfl, ?_, ?_, ?_⟩
    · refine h.below last (List.mem_append_right _ ?_)
      rw [hcreated]
      simp [hlastmem]
    · intro l' hl'
      have hmem : last ∈ s.persist.inFlight ++ s.store.pendingMessages := by
        rw [hp]
        exact List.mem_append_left _ hlastmem
      exact Nat.le_of_lt ((h.latest l' hl').2 last hmem)
    · intro m hm
      have hall := h.ascending
      rw [hcreated, ← List.append_assoc, List.map_append] at hall
      refine (List.pairwise_append.mp hall.pairwise).2.2 last.id ?_ m.id
        (List.mem_map_of_mem hm)
      exact List.mem_map_of_mem (by simp [hlastmem])

/-- The publication: the published id grows and stays below what is pending. -/
theorem persistInv_publish {s : Lifetime} (h : PersistInv s) {latest : Option Nat}
    (hp : s.persist = .written latest) :
    PersistInv { s with
      store := { s.store with latestPersistedId := latest }
      persist := .idle } := by
  obtain ⟨written, hrows, hbatches, hcreated⟩ := h.split
  obtain ⟨l, rfl, hlt, hle, hall⟩ := h.publish latest hp
  rw [hp] at hbatches hcreated
  refine ⟨⟨written, hrows, hbatches, hcreated⟩, h.ascending, h.nextId, h.below, ?_, ?_, ?_, ?_,
    h.logs, h.logged⟩
  · -- `stored`: what counted as persisted still does.
    intro m hm
    have hold := h.stored m hm
    unfold MessageStore.alreadyPersisted at hold ⊢
    obtain ⟨l', hl', hml⟩ := (Option.any_eq_true _ _).mp hold
    have hle' := hle l' hl'
    simp only [Option.any_some, decide_eq_true_eq] at hml ⊢
    omega
  · intro l' hl'
    cases hl'
    exact ⟨hlt, fun m hm => hall m (by simpa [PersistStep.inFlight] using hm)⟩
  · intro b hb
    cases hb
  · intro p' hp'
    cases hp'

/-- A step of `Persist` keeps the invariant. -/
theorem persistInv_persist {s s' : Lifetime} (h : PersistInv s)
    (hs : s.step .persist = some s') : PersistInv s' := by
  obtain ⟨⟨db, store, p⟩, hstep, rfl⟩ := Option.map_eq_some_iff.mp hs
  rcases persistStep_cases hstep with ⟨hp, hempty, rfl, rfl, rfl⟩ | ⟨hp, hne, rfl, rfl, rfl⟩ |
    ⟨batch, latest, hp, hwrite, rfl, rfl⟩ | ⟨latest, hp, rfl, rfl, rfl⟩
  · -- Nothing is pending: `Persist` returns at once.
    obtain ⟨db, store, persist, start, created, batches⟩ := s
    subst hp
    exact h
  · exact persistInv_swap h hp hne
  · exact persistInv_write h hp hwrite
  · exact persistInv_publish h hp

/-- Every operation keeps the invariant, as long as the ids fit. -/
theorem persistInv_step {s s' : Lifetime} {o : LifetimeOp} (h : PersistInv s)
    (hs : s.step o = some s') (hfit : s'.IdsFit) : PersistInv s' := by
  cases o with
  | createChannel name =>
    cases hs
    have hmsg := s.db.messages_createChatChannel name
    refine ⟨?_, h.ascending, h.nextId, h.below, h.stored, h.latest, h.batch, h.publish, h.logs,
      h.logged⟩
    rw [hmsg]
    exact h.split
  | createMessage ch user content =>
    cases hs
    exact persistInv_createMessage h ch user content hfit
  | getMessagesBefore ch bound limit =>
    cases hs
    exact persistInv_getMessagesBefore h ch bound limit
  | persist => exact persistInv_persist h hs

/-- The invariant holds in every reachable state whose ids fit. -/
theorem persistInv_reachable {s : Lifetime} (h : lifetime.Reachable Lts.anyStep s) :
    s.IdsFit → PersistInv s := by
  refine h.invariant (I := fun s => s.IdsFit → PersistInv s) ?_ ?_
  · rintro s ⟨db, rfl⟩ hfit
    exact persistInv_begin db hfit
  · intro s o s' ih _ hs hfit
    exact persistInv_step (ih (idsFit_of_step hs hfit)) hs hfit

/-! ### What follows for the tables and the batches -/

/-- The rows of a channel below `b`, when the messages of the channel below `b` are in the
database since `Prewarm`. -/
theorem PersistInv.rows_below {s : Lifetime} (h : PersistInv s) {ch b : Nat}
    (hold : ∀ m ∈ s.channelMessages ch, m.id < b → m ∈ s.start.messages.rows) :
    s.db.messages.rows.filter (fun m => m.channelId = ch ∧ m.id < b)
      = (s.channelMessages ch).filter (·.id < b) := by
  obtain ⟨written, hrows, -, hcreated⟩ := h.split
  -- The messages are the rows of the database followed by what is not written yet.
  have hboth : (s.channelMessages ch).filter (·.id < b)
      = s.db.messages.rows.filter (fun m => m.channelId = ch ∧ m.id < b)
        ++ (s.persist.inFlight ++ s.store.pendingMessages).filter
          (fun m => m.channelId = ch ∧ m.id < b) := by
    rw [channelMessages, List.filter_filter, ← List.filter_append, hcreated, hrows]
    simp only [List.append_assoc, Bool.decide_and, Bool.and_comm]
  -- What is not written yet was created after `Prewarm`, so it is not below `b`.
  have hnone : (s.persist.inFlight ++ s.store.pendingMessages).filter
      (fun m => m.channelId = ch ∧ m.id < b) = [] := by
    refine List.eq_nil_iff_forall_not_mem.mpr fun m hm => ?_
    have hbelow : m ∈ (s.channelMessages ch).filter (·.id < b) :=
      hboth ▸ List.mem_append_right _ hm
    obtain ⟨hmessage, hlt⟩ := List.mem_filter.mp hbelow
    have hstart := hold m hmessage (of_decide_eq_true hlt)
    have hmem : m ∈ s.created := by
      rw [hcreated, List.append_assoc]
      exact List.mem_append_right _ (List.mem_filter.mp hm).1
    have hnodup := h.ascending.nodup
    rw [List.map_append] at hnodup
    exact List.disjoint_of_nodup_append hnodup (List.mem_map_of_mem hstart)
      (List.mem_map_of_mem hmem)
  rw [hboth, hnone, List.append_nil]

/-- The messages in the table, in flight and pending have pairwise distinct ids. -/
theorem PersistInv.nodup_ids {s : Lifetime} (h : PersistInv s) :
    ((s.db.messages.rows ++ s.persist.inFlight ++ s.store.pendingMessages).map
      ChatMessage.id).Nodup := by
  obtain ⟨written, hrows, -, hcreated⟩ := h.split
  have hasc := h.ascending
  rw [hcreated, ← List.append_assoc, ← List.append_assoc, ← hrows] at hasc
  exact hasc.nodup

/-- A message created since `Prewarm` is in exactly one place. -/
theorem PersistInv.count_eq_one {s : Lifetime} (h : PersistInv s) {m : ChatMessage}
    (hm : m ∈ s.created) :
    s.store.pendingMessages.count m + s.persist.inFlight.count m + s.db.messages.rows.count m
      = 1 := by
  obtain ⟨written, hrows, -, hcreated⟩ := h.split
  have hmem : m ∈ s.db.messages.rows ++ s.persist.inFlight ++ s.store.pendingMessages := by
    rw [hcreated] at hm
    rw [hrows]
    simp only [List.mem_append] at hm ⊢
    tauto
  have hone := List.count_eq_one_of_mem h.nodup_ids.of_map hmem
  rw [List.count_append, List.count_append] at hone
  omega

/-- The batches of a lifetime hand out each id at most once. -/
theorem PersistInv.nodup_batches {s : Lifetime} (h : PersistInv s) :
    (s.batches.flatten.map ChatMessage.id).Nodup := by
  obtain ⟨written, -, hbatches, hcreated⟩ := h.split
  have hasc := h.ascending
  rw [hcreated, ← hbatches, List.map_append, List.map_append] at hasc
  exact hasc.nodup.of_append_right.of_append_left

/-- A batch in flight has no id of the database, and its write succeeds. -/
theorem PersistInv.write_succeeds {s : Lifetime} (h : PersistInv s) {batch : List ChatMessage}
    (hp : s.persist = .swapped batch) :
    (∀ m ∈ batch, m.id ∉ s.db.messages.keys) ∧ (s.db.persistChatMessages batch).isSome := by
  have hnodup := h.nodup_ids
  rw [hp, List.map_append, List.map_append] at hnodup
  refine ⟨fun m hm hin => ?_, ?_⟩
  · have hdisjoint := List.disjoint_of_nodup_append hnodup.of_append_left
    exact hdisjoint hin (List.mem_map_of_mem hm)
  · obtain ⟨db', last, hwrite, -⟩ :=
      Database.persistChatMessages_of_ascending (h.batch batch hp) (h.ascending_write hp)
    rw [hwrite]
    rfl

/-- No operation lowers the latest persisted id. -/
theorem PersistInv.latest_mono {s s' : Lifetime} {o : LifetimeOp} (h : PersistInv s)
    (hs : s.step o = some s') {l : Nat} (hl : s.store.latestPersistedId = some l) :
    ∃ l', s'.store.latestPersistedId = some l' ∧ l ≤ l' := by
  cases o with
  | createChannel name => cases hs; exact ⟨l, hl, Nat.le_refl l⟩
  | createMessage ch user content =>
    cases hs
    exact ⟨l, by simpa using hl, Nat.le_refl l⟩
  | getMessagesBefore ch bound limit =>
    cases hs
    refine ⟨l, ?_, Nat.le_refl l⟩
    show (s.store.getMessagesBefore s.db ch bound limit).1.latestPersistedId = some l
    rcases MessageStore.getMessagesBefore_store s.store s.db ch bound limit
      with heq | ⟨log, b, k, -, -, heq⟩
    · rw [heq, hl]
    · rw [heq, MessageStore.latestPersistedId_queryAndCacheMessages, hl]
  | persist =>
    obtain ⟨⟨db, store, p⟩, hstep, rfl⟩ := Option.map_eq_some_iff.mp hs
    rcases persistStep_cases hstep with ⟨-, -, -, rfl, -⟩ | ⟨-, -, -, rfl, -⟩ |
      ⟨_, _, -, -, rfl, -⟩ | ⟨latest, hp, -, rfl, -⟩
    · exact ⟨l, hl, Nat.le_refl l⟩
    · exact ⟨l, hl, Nat.le_refl l⟩
    · exact ⟨l, hl, Nat.le_refl l⟩
    · -- Only the publication writes the id, and it publishes the id of a later message.
      obtain ⟨l', rfl, -, hle, -⟩ := h.publish latest hp
      exact ⟨l', rfl, hle l hl⟩

/-- Background persistence loses no message and writes none twice. In every state that any
interleaving reaches after `Prewarm`, while the ids fit: each created message is pending, in
flight or stored, exactly once. No batch hands out an id that another batch or the database
has, so its write succeeds. No step lowers the latest persisted id. -/
theorem created_written_once {s : Lifetime} (h : lifetime.Reachable Lts.anyStep s)
    (hfit : s.IdsFit) :
    (∀ m ∈ s.created, s.store.pendingMessages.count m + s.persist.inFlight.count m
      + s.db.messages.rows.count m = 1) ∧
    (s.batches.flatten.map ChatMessage.id).Nodup ∧
    (∀ batch, s.persist = .swapped batch →
      (∀ m ∈ batch, m.id ∉ s.db.messages.keys) ∧ (s.db.persistChatMessages batch).isSome) ∧
    (∀ o s' l, s.step o = some s' → s.store.latestPersistedId = some l →
      ∃ l', s'.store.latestPersistedId = some l' ∧ l ≤ l') := by
  have hinv := persistInv_reachable h hfit
  exact ⟨fun m hm => hinv.count_eq_one hm, hinv.nodup_batches,
    fun batch hp => hinv.write_succeeds hp, fun o s' l hs hl => hinv.latest_mono hs hl⟩

/-- A run that reaches a batch in flight next to a pending message. -/
theorem created_written_once_run :
    ∃ s, lifetime.Reachable Lts.anyStep s ∧ s.IdsFit ∧ s.created.length = 2 ∧
      s.persist.inFlight.length = 1 ∧ s.store.pendingMessages.length = 1 ∧
      ∀ m ∈ s.created, s.store.pendingMessages.count m + s.persist.inFlight.count m
        + s.db.messages.rows.count m = 1 := by
  have hstart : lifetime.Reachable Lts.anyStep (begin Database.empty) :=
    .start ⟨Database.empty, rfl⟩
  obtain ⟨s, hs, hfit, hcreated, hflight, hpending⟩ := hstart.exists_of_exec
    [.createMessage 1 1 "a", .persist, .createMessage 1 2 "b", .getMessagesBefore 1 9 9]
    (fun s => s.IdsFit ∧ s.created.length = 2 ∧ s.persist.inFlight.length = 1 ∧
      s.store.pendingMessages.length = 1) (by decide)
  exact ⟨s, hs, hfit, hcreated, hflight, hpending, (created_written_once hs hfit).1⟩

end Lifetime

end ChatCore.Server
