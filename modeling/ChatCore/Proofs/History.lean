import ChatCore.Proofs.Persistence

/-!
# `ChatCore.Proofs.History`: a request returns the end of the channel's history

The answer to `HandleGetChats` comes from the log of the channel and, when the log is too
short, from one page of the database. The log holds the ids of the newest messages of the
channel, and what it lacks is in the database, because it was there when `Prewarm` ran.

`HoldsSuffix` says this for one log: the channel's history is `older ++ newer`, and the log
and the cache hold `newer`. The flag `cache_complete_` and an empty log both mean that
`older` is empty. `HistoryInv` puts the logs of all channels together. Each operation keeps
it, and so does a restart, because the completed `Persist` before it leaves the whole history
in the database (`rows_persistToEnd`).

With arbitrary bounds a page can leave a gap below the log. Here every request asks for the
newest messages, so a page always ends at the oldest id of the log
(`getMessagesBefore_recent`).
-/

set_option autoImplicit false

namespace ChatCore.Server

open ChatCore.Api
open ChatCore.Lib

namespace MessageStore

/-! ### A request for the newest messages -/

/-- A request whose bound is above every id of the log. The cached ids come first, and a
page that ends at the oldest of them gives the rest. -/
theorem getMessagesBefore_recent {s : MessageStore} {ch bound : Nat} {log : ChannelMessageLog}
    (hlog : s.messageLogs ch = some log) (hlt : ∀ id ∈ log.channelMessageIds, id < bound)
    (db : Database) {limit : Nat} (hlimit : limit ≠ 0) :
    s.getMessagesBefore db ch bound limit =
      if log.channelMessageIds = [] then
        let q := s.queryAndCacheMessages db ch bound limit
        (q.1, q.2.filterMap q.1.getMessage)
      else if log.cacheComplete = true ∨ limit ≤ log.channelMessageIds.length then
        (s, (log.channelMessageIds.rtake limit).filterMap s.getMessage)
      else
        let q := s.queryAndCacheMessages db ch (log.channelMessageIds.headD 0)
          (limit - log.channelMessageIds.length)
        (q.1, (q.2 ++ log.channelMessageIds).filterMap q.1.getMessage) := by
  unfold getMessagesBefore getChatMessagesBefore
  rw [hlog]
  simp only [if_neg hlimit]
  cases hids : log.channelMessageIds with
  | nil => rfl
  | cons a ids =>
    rw [hids] at hlt
    have hhead : ¬ bound ≤ a := Nat.not_le_of_lt (hlt a List.mem_cons_self)
    have hall : (a :: ids).takeWhile (· < bound) = a :: ids :=
      List.takeWhile_eq_self_iff.mpr fun id hid => by simpa using hlt id hid
    simp only [hall, List.head?_cons, Option.all_some, decide_eq_true_eq, if_neg hhead,
      List.length_cons, Nat.succ_ne_zero, if_false, reduceCtorEq]
    -- The cached part is the whole log or the last `limit` ids of it.
    by_cases hle : limit ≤ ids.length + 1
    · simp [hle]
    · have hmin : min (ids.length + 1) limit = ids.length + 1 := by omega
      have hfull : (a :: ids).rtake (ids.length + 1) = a :: ids := rtake_of_length_le (by simp)
      have hmore : (a :: ids).rtake limit = a :: ids :=
        rtake_of_length_le (by rw [List.length_cons]; omega)
      simp only [hmin, hfull, hmore, hle, decide_false, Bool.or_false, or_false]
      split <;> rfl

/-! ### One log -/

/-- The log holds the part `newer` of a history `older ++ newer`, and the cache its
messages. -/
structure HoldsSuffix (s : MessageStore) (log : ChannelMessageLog)
    (older newer : List ChatMessage) : Prop where
  ids : log.channelMessageIds = newer.map ChatMessage.id
  cached : ∀ m ∈ newer, s.messageCache m.id = some m
  /-- A log is empty only if the channel has no messages. -/
  nonempty : newer = [] → older = []
  complete : log.cacheComplete = true → older = []

/-- Cached messages are found again by their ids. -/
theorem filterMap_getMessage {s : MessageStore} {ms : List ChatMessage}
    (h : ∀ m ∈ ms, s.messageCache m.id = some m) :
    (ms.map ChatMessage.id).filterMap s.getMessage = ms := by
  rw [List.filterMap_map]
  refine (List.filterMap_congr (g := some) fun m hm => ?_).trans List.filterMap_some
  exact h m hm

/-- What a page of the database below a log returns: the end of `older`. -/
structure PagesBelow (db : Database) (ch bound : Nat) (older newer : List ChatMessage) :
    Prop where
  /-- Below the oldest message of the log. -/
  below : ∀ first ∈ newer.head?, ∀ k, db.getChatMessagesBefore ch first.id k = older.rtake k
  /-- Below the bound of the request, for an empty log. -/
  none : newer = [] → ∀ k, db.getChatMessagesBefore ch bound k = []

/-- A page below the log moves the split of the history down. -/
theorem holdsSuffix_page {s : MessageStore} {db : Database} {ch b k : Nat}
    {log : ChannelMessageLog} {older newer : List ChatMessage}
    (hlog : s.messageLogs ch = some log) (h : HoldsSuffix s log older newer)
    (hasc : ((older ++ newer).map ChatMessage.id).SortedLT)
    (hpage : db.getChatMessagesBefore ch b k = older.rtake k) :
    ∃ log', (s.queryAndCacheMessages db ch b k).1.messageLogs ch = some log' ∧
      HoldsSuffix (s.queryAndCacheMessages db ch b k).1 log'
        (older.take (older.length - k)) (older.rtake k ++ newer) := by
  have hself := messageLogs_queryAndCacheMessages_self hlog db b k
  rw [hpage] at hself
  have hnewer : (newer.map ChatMessage.id).SortedLT := by
    rw [List.map_append] at hasc
    exact (List.pairwise_append.mp hasc.pairwise).2.1.sortedLT
  have hmerged : ((older.rtake k ++ newer).map ChatMessage.id).SortedLT := by
    have hsub := ((List.drop_sublist (older.length - k) older).append_right newer).map
      ChatMessage.id
    exact (hasc.pairwise.sublist hsub).sortedLT
  refine ⟨_, hself, ?_, ?_, ?_, ?_⟩
  · rw [ChannelMessageLog.channelMessageIds_assignMessageIds (by rw [h.ids]; exact hnewer), h.ids]
    refine mergeUnique_eq hnewer hmerged fun id => ?_
    rw [List.map_append, List.mem_append, or_comm]
  · intro m hm
    rcases List.mem_append.mp hm with hm | hm
    · exact messageCache_queryAndCacheMessages_of_mem (by rw [hpage]; exact hm)
    · -- The page has no id of the log, so it keeps the cached message.
      rw [messageCache_queryAndCacheMessages_of_ne, h.cached m hm]
      intro x hx
      rw [hpage] at hx
      rw [List.map_append] at hmerged
      have := (List.pairwise_append.mp hmerged.pairwise).2.2 x.id (List.mem_map_of_mem hx)
        m.id (List.mem_map_of_mem hm)
      omega
  · intro hnil
    have hold := h.nonempty (List.append_eq_nil_iff.mp hnil).2
    rw [hold, List.take_nil]
  · intro hcomplete
    simp only [ChannelMessageLog.cacheComplete_assignMessageIds, Bool.or_eq_true,
      decide_eq_true_eq, length_rtake] at hcomplete
    rcases hcomplete with hcomplete | hcomplete
    · rw [h.complete hcomplete, List.take_nil]
    · -- A page shorter than its limit reached the beginning of the history.
      have : older.length - k = 0 := by omega
      rw [this, List.take_zero]

/-- A request for the newest messages returns the end of the history, and the log still
holds a suffix afterwards. -/
theorem getMessagesBefore_of_holdsSuffix {s : MessageStore} {db : Database} {ch bound : Nat}
    {log : ChannelMessageLog} {older newer : List ChatMessage}
    (hlog : s.messageLogs ch = some log) (h : HoldsSuffix s log older newer)
    (hasc : ((older ++ newer).map ChatMessage.id).SortedLT)
    (hlt : ∀ m ∈ newer, m.id < bound) (hpages : PagesBelow db ch bound older newer)
    (limit : Nat) :
    (s.getMessagesBefore db ch bound limit).2 = (older ++ newer).rtake limit ∧
    ∃ log' older' newer',
      (s.getMessagesBefore db ch bound limit).1.messageLogs ch = some log' ∧
      older ++ newer = older' ++ newer' ∧ older'.Sublist older ∧
      HoldsSuffix (s.getMessagesBefore db ch bound limit).1 log' older' newer' := by
  have hids : ∀ id ∈ log.channelMessageIds, id < bound := by
    intro id hid
    rw [h.ids] at hid
    obtain ⟨m, hm, rfl⟩ := List.mem_map.mp hid
    exact hlt m hm
  by_cases hlimit : limit = 0
  · -- `limit 0`: nothing is returned and nothing is read.
    have hzero : s.getMessagesBefore db ch bound limit = (s, []) := by
      unfold getMessagesBefore getChatMessagesBefore
      rw [hlog, hlimit]
      rfl
    rw [hzero, hlimit]
    exact ⟨by simp [List.rtake], log, older, newer, hlog, rfl, List.Sublist.refl _, h⟩
  rw [getMessagesBefore_recent hlog hids db hlimit]
  have hlen : log.channelMessageIds.length = newer.length := by rw [h.ids, List.length_map]
  cases hnewer : newer with
  | nil =>
    -- An empty log: the channel has no messages, in the database neither.
    have holder : older = [] := h.nonempty hnewer
    have hpage : db.getChatMessagesBefore ch bound limit = ([] : List ChatMessage).rtake limit := by
      rw [hpages.none hnewer limit, List.rtake_nil]
    rw [hnewer, holder] at h hasc
    obtain ⟨log', hlog', hsuffix⟩ := holdsSuffix_page hlog h hasc hpage
    rw [if_pos (by rw [h.ids]; rfl), holder]
    rw [List.length_nil, Nat.zero_sub, List.take_nil, List.rtake_nil] at hsuffix
    refine ⟨?_, log', [], [], hlog', rfl, List.Sublist.refl _, hsuffix⟩
    simp [queryAndCacheMessages, hpage]
  | cons first rest =>
    have hne : log.channelMessageIds ≠ [] := by
      rw [h.ids, hnewer]
      simp
    rw [if_neg hne, hlen, ← hnewer]
    by_cases hcached : log.cacheComplete = true ∨ limit ≤ newer.length
    · -- The cache answers the request.
      rw [if_pos hcached]
      refine ⟨?_, log, older, newer, hlog, rfl, List.Sublist.refl _, h⟩
      show (log.channelMessageIds.rtake limit).filterMap s.getMessage = _
      rw [h.ids, ← map_rtake, filterMap_getMessage fun m hm => h.cached m (mem_of_mem_rtake hm)]
      rcases hcached with hcomplete | hle
      · rw [h.complete hcomplete, List.nil_append]
      · rw [rtake_append_of_ge hle]
    · -- The cache is short, and a page that ends at its oldest id gives the rest.
      rw [if_neg hcached]
      obtain ⟨-, hmore⟩ := not_or.mp hcached
      have hhead : log.channelMessageIds.headD 0 = first.id := by rw [h.ids, hnewer]; rfl
      have hpage := hpages.below first (by rw [hnewer]; rfl) (limit - newer.length)
      obtain ⟨log', hlog', hsuffix⟩ := holdsSuffix_page hlog h hasc hpage
      rw [hhead]
      refine ⟨?_, log', _, _, hlog', ?_, List.take_sublist _ _, hsuffix⟩
      · show ((db.getChatMessagesBefore ch first.id (limit - newer.length)).map ChatMessage.id
          ++ log.channelMessageIds).filterMap _ = _
        rw [hpage, h.ids, ← List.map_append, filterMap_getMessage hsuffix.cached,
          rtake_append_of_le (by omega)]
      · rw [← List.append_assoc, take_append_rtake]

/-- A created message goes to the end of the part that its log holds. Before it the log may be
missing. -/
theorem holdsSuffix_createMessage {s : MessageStore} {ch : Nat} {older newer : List ChatMessage}
    (hnewer : ((s.messageLogs ch).getD {}).channelMessageIds = newer.map ChatMessage.id)
    (hcached : ∀ m ∈ newer, s.messageCache m.id = some m)
    (hcomplete : ((s.messageLogs ch).getD {}).cacheComplete = true → older = [])
    (hlt : ∀ m ∈ newer, m.id < s.nextId) (user : Nat) (content : String) :
    ∃ log', (s.createMessage ch user content).messageLogs ch = some log' ∧
      HoldsSuffix (s.createMessage ch user content) log' older
        (newer ++ [s.nextMessage ch user content]) := by
  have hids : ∀ id ∈ ((s.messageLogs ch).getD {}).channelMessageIds, id < s.nextId := by
    intro id hid
    rw [hnewer] at hid
    obtain ⟨m, hm, rfl⟩ := List.mem_map.mp hid
    exact hlt m hm
  have hself := messageLogs_createMessage_self s ch user content
  rw [ChannelMessageLog.appendMessageId_of_forall_lt hids] at hself
  refine ⟨_, hself, ?_, ?_, ?_, hcomplete⟩
  · show ((s.messageLogs ch).getD {}).channelMessageIds ++ [s.nextId] = _
    rw [hnewer, List.map_append]
    rfl
  · intro m hm
    rw [messageCache_createMessage]
    rcases List.mem_append.mp hm with hm | hm
    · rw [Function.update_of_ne (Nat.ne_of_lt (hlt m hm)), hcached m hm]
    · rw [List.mem_singleton.mp hm]
      exact Function.update_self ..
  · intro hnil
    simp at hnil

/-- A log of another channel is not touched by a created message. -/
theorem holdsSuffix_createMessage_of_ne {s : MessageStore} {log : ChannelMessageLog}
    {older newer : List ChatMessage} (h : HoldsSuffix s log older newer)
    (hlt : ∀ m ∈ newer, m.id < s.nextId) (ch user : Nat) (content : String) :
    HoldsSuffix (s.createMessage ch user content) log older newer := by
  refine ⟨h.ids, fun m hm => ?_, h.nonempty, h.complete⟩
  rw [messageCache_createMessage, Function.update_of_ne (Nat.ne_of_lt (hlt m hm)), h.cached m hm]

end MessageStore

/-! ### A completed `Persist` -/

/-- A completed `Persist` leaves every message of the lifetime in the database. -/
theorem rows_persistToEnd {s : Lifetime} (h : s.PersistInv) (hidle : s.persist = .idle)
    {db' : Database} {store' : MessageStore}
    (hs : persistToEnd s.db s.store = some (db', store')) :
    db'.messages.rows = s.start.messages.rows ++ s.created ∧ db'.channels = s.db.channels := by
  obtain ⟨written, hrows, -, hcreated⟩ := h.split
  rw [hidle] at hcreated
  simp only [PersistStep.inFlight, List.append_nil] at hcreated
  unfold persistToEnd at hs
  -- With nothing pending `Persist` returns at once. Otherwise its batch is written in order.
  by_cases hempty : s.store.pendingMessages = []
  · have hstep : persistStep s.db s.store .idle = some (s.db, s.store, .idle) := by
      simp [persistStep, hempty]
    rw [hstep, Option.bind_some] at hs
    simp only [hstep, Option.bind_some, Option.map_some, Option.some.injEq, Prod.mk.injEq] at hs
    obtain ⟨rfl, -⟩ := hs
    rw [hrows, hcreated, hempty, List.append_nil]
    exact ⟨rfl, rfl⟩
  · have hasc := h.ascending
    rw [hcreated, ← List.append_assoc, ← hrows] at hasc
    obtain ⟨db'', last, hwrite, -, hrows'⟩ :=
      Database.persistChatMessages_of_ascending hempty hasc
    have hswap : persistStep s.db s.store .idle = some (s.db,
        { s.store with pendingMessages := [] }, .swapped s.store.pendingMessages) := by
      simp [persistStep, hempty]
    rw [hswap, Option.bind_some] at hs
    simp only [persistStep, hwrite, Option.map_some, Option.bind_some, Option.some.injEq,
      Prod.mk.injEq] at hs
    obtain ⟨rfl, -⟩ := hs
    refine ⟨?_, (Database.persistChatMessages_tables hwrite).1⟩
    rw [hrows', hrows, hcreated, List.append_assoc]

namespace Lifetimes

/-! ### The invariant -/

/-- The invariant of consecutive lifetimes. -/
structure HistoryInv (s : Lifetimes) : Prop where
  persist : s.current.PersistInv
  history : s.current.start.messages.rows ++ s.current.created = s.history
  /-- The database started without messages, so the ids count from 0. -/
  ids : s.history.map ChatMessage.id = List.range s.history.length
  channels : ∀ m ∈ s.history, m.channelId ∈ s.current.db.channels.keys
  /-- A channel without a log has no messages. -/
  unlogged : ∀ ch, s.current.store.messageLogs ch = none → s.channelHistory ch = []
  /-- Every log holds a suffix, and what it lacks is in the database since `Prewarm`. -/
  logged : ∀ ch log, s.current.store.messageLogs ch = some log →
    ∃ older newer, s.channelHistory ch = older ++ newer ∧
      (∀ m ∈ older, m ∈ s.current.start.messages.rows) ∧
      s.current.store.HoldsSuffix log older newer

/-- Messages of the history with the same id are the same. -/
theorem HistoryInv.eq_of_id {s : Lifetimes} (h : HistoryInv s) {m m' : ChatMessage}
    (hm : m ∈ s.history) (hm' : m' ∈ s.history) (hid : m.id = m'.id) : m = m' := by
  have hnodup : (s.history.map ChatMessage.id).Nodup := by
    rw [h.ids]
    exact List.nodup_range
  exact List.inj_on_of_nodup_map hnodup hm hm' hid

/-- The rows of the database are part of the history. -/
theorem HistoryInv.mem_history_of_mem_rows {s : Lifetimes} (h : HistoryInv s) {m : ChatMessage}
    (hm : m ∈ s.current.db.messages.rows) : m ∈ s.history := by
  obtain ⟨written, hrows, -, hcreated⟩ := h.persist.split
  rw [hrows, List.mem_append] at hm
  rw [← h.history, List.mem_append, hcreated, List.append_assoc]
  exact hm.imp_right (List.mem_append_left _)

/-- The history of a channel has ascending ids. -/
theorem HistoryInv.ascending {s : Lifetimes} (h : HistoryInv s) (ch : Nat) :
    ((s.channelHistory ch).map ChatMessage.id).SortedLT := by
  have hasc := h.persist.ascending
  rw [h.history] at hasc
  exact (hasc.pairwise.sublist (List.filter_sublist.map _)).sortedLT

/-- Every id of the history is below the bound that `HandleGetChats` uses. -/
theorem HistoryInv.id_lt {s : Lifetimes} (h : HistoryInv s)
    (hlen : s.history.length < uint32Size - 1) {m : ChatMessage} (hm : m ∈ s.history) :
    m.id < maxMessageId := by
  have hid : m.id ∈ List.range s.history.length := h.ids ▸ List.mem_map_of_mem hm
  have hlt := List.mem_range.mp hid
  show m.id < uint32Size - 1
  omega

/-- Ids that count from 0 continue with the number of rows. -/
theorem firstId_of_range {db : Database}
    (h : db.messages.rows.map ChatMessage.id = List.range db.messages.rows.length) :
    db.firstId = db.messages.rows.length := by
  unfold Database.firstId Table.maxKey
  rw [← List.getLast?_map, h]
  cases db.messages.rows.length with
  | zero => rfl
  | succ n => simp [List.range_succ]

/-- The greatest id is at most the number of rows. -/
theorem maxKey_le_of_range {db : Database}
    (h : db.messages.rows.map ChatMessage.id = List.range db.messages.rows.length) :
    db.messages.maxKey.getD 0 ≤ db.messages.rows.length := by
  have hfirst := firstId_of_range h
  unfold Database.firstId at hfirst
  cases hmax : db.messages.maxKey with
  | none => exact Nat.zero_le _
  | some n =>
    rw [hmax, Option.elim_some] at hfirst
    simp only [Option.getD_some]
    omega

/-- The ids at the last `Prewarm` counted from 0 too. -/
theorem HistoryInv.start_ids {s : Lifetimes} (h : HistoryInv s) :
    s.current.start.messages.rows.map ChatMessage.id
      = List.range s.current.start.messages.rows.length := by
  have hids := h.ids
  rw [← h.history, List.map_append, List.length_append, List.range_add] at hids
  exact (List.append_inj hids (by simp)).1

/-- The next id is the number of messages created so far. -/
theorem HistoryInv.nextId {s : Lifetimes} (h : HistoryInv s) :
    s.current.store.nextId = s.history.length := by
  rw [h.persist.nextId, firstId_of_range h.start_ids, ← h.history, List.length_append]

/-- The rows of a channel below `b`, when the history below `b` is in the database since
`Prewarm`. -/
theorem HistoryInv.rows_below {s : Lifetimes} (h : HistoryInv s) {ch b : Nat}
    (older : List ChatMessage) (hbelow : (s.channelHistory ch).filter (·.id < b) = older)
    (hold : ∀ m ∈ older, m ∈ s.current.start.messages.rows) :
    s.current.db.messages.rows.filter (fun m => m.channelId = ch ∧ m.id < b) = older := by
  have hchannel : s.current.channelMessages ch = s.channelHistory ch := by
    rw [Lifetime.channelMessages, h.history]
    rfl
  rw [h.persist.rows_below, hchannel, hbelow]
  intro m hm hlt
  rw [hchannel] at hm
  exact hold m (hbelow ▸ List.mem_filter.mpr ⟨hm, decide_eq_true hlt⟩)

/-- Pages below a log return the end of what the log lacks. -/
theorem HistoryInv.pagesBelow {s : Lifetimes} (h : HistoryInv s) {ch : Nat}
    {older newer : List ChatMessage} (hsplit : s.channelHistory ch = older ++ newer)
    (hold : ∀ m ∈ older, m ∈ s.current.start.messages.rows) (hnil : newer = [] → older = [])
    (bound : Nat) : MessageStore.PagesBelow s.current.db ch bound older newer := by
  have hasc := h.ascending ch
  rw [hsplit, List.map_append] at hasc
  obtain ⟨-, hnewer, hlt⟩ := List.pairwise_append.mp hasc.pairwise
  constructor
  · intro first hfirst k
    rw [Database.getChatMessagesBefore_eq, h.rows_below older ?_ hold]
    -- The ids ascend, so exactly `older` is below the first message of `newer`.
    cases newer with
    | nil => cases hfirst
    | cons x rest =>
      cases hfirst
      have holder : older.filter (·.id < first.id) = older := by
        refine List.filter_eq_self.mpr fun m hm => ?_
        simpa using hlt m.id (List.mem_map_of_mem hm) first.id (by simp)
      have hrest : (first :: rest).filter (·.id < first.id) = [] := by
        refine List.filter_eq_nil_iff.mpr fun m hm => ?_
        rcases List.mem_cons.mp hm with rfl | hm
        · simp
        · have := (List.pairwise_cons.mp hnewer).1 m.id (List.mem_map_of_mem hm)
          simp only [decide_eq_true_eq]
          omega
      rw [hsplit, List.filter_append, holder, hrest, List.append_nil]
  · intro hempty k
    have hch : s.channelHistory ch = [] := by rw [hsplit, hnil hempty, hempty, List.append_nil]
    rw [Database.getChatMessagesBefore_eq, h.rows_below [] ?_ (by simp),
      List.rtake_nil]
    rw [hch, List.filter_nil]

/-! ### Each step keeps the invariant -/

/-- The page that `Prewarm` reads of a channel is the end of the channel's rows, when every id
is below the bound of the query. -/
theorem prewarmPage_eq {db : Database} (hmax : ∀ m ∈ db.messages.rows, m.id < maxMessageId)
    (ch : Nat) :
    db.prewarmPage ch = (db.messages.rows.filter (·.channelId = ch)).rtake
      ChannelMessageLog.prewarmMessageCount := by
  unfold Database.prewarmPage
  rw [Database.getChatMessagesBefore_eq]
  congr 1
  refine List.filter_congr fun m hm => ?_
  rw [decide_eq_decide]
  exact ⟨And.left, fun h => ⟨h, hmax m hm⟩⟩

/-- After `Prewarm` a log holds the end of the channel's rows. -/
theorem holdsSuffix_prewarm {db : Database} (hmax : ∀ m ∈ db.messages.rows, m.id < maxMessageId)
    {ch : Nat} {log : ChannelMessageLog}
    (hlog : (({} : MessageStore).prewarm db).messageLogs ch = some log) :
    ∃ older newer, db.messages.rows.filter (·.channelId = ch) = older ++ newer ∧
      (({} : MessageStore).prewarm db).HoldsSuffix log older newer := by
  have hp := MessageStore.prewarmed_prewarm db
  have hpage := prewarmPage_eq hmax ch
  set own := db.messages.rows.filter (·.channelId = ch) with hown
  rw [hp.logs] at hlog
  split at hlog
  · rename_i hvisited
    cases hlog
    refine ⟨own.take (own.length - ChannelMessageLog.prewarmMessageCount),
      own.rtake ChannelMessageLog.prewarmMessageCount, (take_append_rtake _ _).symm,
      ?_, ?_, ?_, ?_⟩
    · show (db.prewarmPage ch).map ChatMessage.id = _
      rw [hpage]
    · intro m hm
      exact hp.cache ch hvisited m (by rw [hpage]; exact hm)
    · -- The page has up to 100 messages, so it is empty for an empty channel only.
      intro hnil
      have hzero := congrArg List.length hnil
      rw [length_rtake, List.length_nil] at hzero
      have hcount : ChannelMessageLog.prewarmMessageCount = 100 := rfl
      have hempty : own = [] := List.length_eq_zero_iff.mp (by omega)
      rw [hempty, List.take_nil]
    · -- `Prewarm` does not set the flag, also when it read the whole channel.
      intro hcomplete
      cases hcomplete
  · cases hlog

/-- A lifetime begins with a database whose rows are the history so far. -/
theorem historyInv_begin (db : Database)
    (hids : db.messages.rows.map ChatMessage.id = List.range db.messages.rows.length)
    (hlen : db.messages.rows.length < uint32Size - 1)
    (hch : ∀ m ∈ db.messages.rows, m.channelId ∈ db.channels.keys) :
    HistoryInv ⟨Lifetime.begin db, db.messages.rows⟩ := by
  have hfit : (Lifetime.begin db).IdsFit := by
    have hle := maxKey_le_of_range hids
    show db.messages.maxKey.getD 0 + 0 < uint32Size - 1
    omega
  have hmax : ∀ m ∈ db.messages.rows, m.id < maxMessageId := by
    intro m hm
    have hlt := Database.id_lt_firstId hm
    rw [firstId_of_range hids] at hlt
    show m.id < uint32Size - 1
    omega
  have hhistory : (⟨Lifetime.begin db, db.messages.rows⟩ : Lifetimes).history
      = db.messages.rows := List.append_nil _
  have hchannel : ∀ ch, (⟨Lifetime.begin db, db.messages.rows⟩ : Lifetimes).channelHistory ch
      = db.messages.rows.filter (·.channelId = ch) := fun ch => by
    rw [channelHistory, hhistory]
  refine ⟨Lifetime.persistInv_begin db hfit, ?_, ?_, ?_, ?_, ?_⟩
  · rw [hhistory]
    exact List.append_nil _
  · rw [hhistory, hids]
  · rw [hhistory]
    exact hch
  · -- `Prewarm` makes a log for every channel of the database.
    intro ch hlog
    have hlog' : (({} : MessageStore).prewarm db).messageLogs ch = none := hlog
    rw [(MessageStore.prewarmed_prewarm db).logs] at hlog'
    split at hlog'
    · cases hlog'
    · rename_i hnot
      rw [hchannel]
      refine List.filter_eq_nil_iff.mpr fun m hm => ?_
      have hne : m.channelId ≠ ch := fun he => hnot (by simpa [he] using hch m hm)
      simpa using hne
  · intro ch log hlog
    obtain ⟨older, newer, hsplit, hsuffix⟩ := holdsSuffix_prewarm hmax hlog
    refine ⟨older, newer, (hchannel ch).trans hsplit, fun m hm => ?_, hsuffix⟩
    have hown : m ∈ db.messages.rows.filter (·.channelId = ch) :=
      hsplit ▸ List.mem_append_left _ hm
    exact (List.mem_filter.mp hown).1

/-- A created message extends the history of its channel. -/
theorem channelHistory_of_append {s s' : Lifetimes} {m : ChatMessage}
    (h : s'.history = s.history ++ [m]) (ch : Nat) :
    s'.channelHistory ch = if ch = m.channelId then s.channelHistory ch ++ [m]
      else s.channelHistory ch := by
  unfold channelHistory
  rw [h, List.filter_append]
  by_cases hch : ch = m.channelId
  · simp [hch]
  · simp [hch, Ne.symm hch]

/-- The next id is above every id of the history. -/
theorem HistoryInv.id_lt_nextId {s : Lifetimes} (h : HistoryInv s) {ch : Nat} {m : ChatMessage}
    (hm : m ∈ s.channelHistory ch) : m.id < s.current.store.nextId :=
  h.persist.below m (h.history.symm ▸ (List.mem_filter.mp hm).1)

/-- The log of a created message holds a suffix of the channel's longer history. -/
theorem HistoryInv.logged_createMessage {s : Lifetimes} (h : HistoryInv s) {ch user : Nat}
    {content : String} {log : ChannelMessageLog}
    (hlog : (s.current.store.createMessage ch user content).messageLogs ch = some log) :
    ∃ older newer,
      s.channelHistory ch ++ [s.current.store.nextMessage ch user content] = older ++ newer ∧
      (∀ m ∈ older, m ∈ s.current.start.messages.rows) ∧
      (s.current.store.createMessage ch user content).HoldsSuffix log older newer := by
  -- A missing log is created empty, and then the channel had no messages.
  obtain ⟨older, newer, hsplit, hold, hsuffix⟩ : ∃ older newer,
      s.channelHistory ch = older ++ newer ∧
      (∀ x ∈ older, x ∈ s.current.start.messages.rows) ∧
      s.current.store.HoldsSuffix ((s.current.store.messageLogs ch).getD {}) older newer := by
    cases hlog0 : s.current.store.messageLogs ch with
    | some log0 => exact h.logged ch log0 hlog0
    | none =>
      exact ⟨[], [], h.unlogged ch hlog0, by simp, rfl, by simp, fun _ => rfl, fun _ => rfl⟩
  have hlt : ∀ x ∈ newer, x.id < s.current.store.nextId := fun x hx =>
    h.id_lt_nextId (hsplit ▸ List.mem_append_right _ hx)
  obtain ⟨log', hlog', hsuffix'⟩ :=
    MessageStore.holdsSuffix_createMessage hsuffix.ids hsuffix.cached hsuffix.complete hlt user
      content
  rw [hlog] at hlog'
  cases hlog'
  exact ⟨older, _, by rw [hsplit, List.append_assoc], hold, hsuffix'⟩

/-- `CreateMessage` in a channel of the database keeps the invariant. -/
theorem historyInv_createMessage {s s' : Lifetimes} (h : HistoryInv s) {ch user : Nat}
    {content : String} (hch : ch ∈ s.current.db.channels.keys)
    (hs : s.step (.op (.createMessage ch user content)) = some s')
    (hpersist : s'.current.PersistInv) : HistoryInv s' := by
  set m := s.current.store.nextMessage ch user content with hm
  have hhistory : s'.history = s.history ++ [m] := by
    cases hs
    exact (List.append_assoc ..).symm
  obtain ⟨hstart, hcreated, hdb, hstore⟩ : s'.current.start = s.current.start ∧
      s'.current.created = s.current.created ++ [m] ∧ s'.current.db = s.current.db ∧
      s'.current.store = s.current.store.createMessage ch user content := by
    cases hs
    exact ⟨rfl, rfl, rfl, rfl⟩
  have hown : ∀ ch', s'.channelHistory ch'
      = if ch' = ch then s.channelHistory ch' ++ [m] else s.channelHistory ch' :=
    channelHistory_of_append hhistory
  have hid : m.id = s.history.length := h.nextId
  refine ⟨hpersist, ?_, ?_, ?_, ?_, ?_⟩
  · rw [hhistory, hstart, hcreated, ← h.history, List.append_assoc]
  · rw [hhistory, List.map_append, h.ids, List.length_append, List.length_singleton,
      List.range_succ, List.map_singleton, hid]
  · rw [hhistory, hdb]
    intro x hx
    rcases List.mem_append.mp hx with hx | hx
    · exact h.channels x hx
    · rw [List.mem_singleton.mp hx]
      exact hch
  · rw [hstore]
    intro ch' hlog
    by_cases hne : ch' = ch
    · rw [hne, MessageStore.messageLogs_createMessage_self] at hlog
      cases hlog
    · rw [hown, if_neg hne]
      rw [MessageStore.messageLogs_createMessage_of_ne _ user content hne] at hlog
      exact h.unlogged ch' hlog
  · rw [hstore, hstart]
    intro ch' log hlog
    rw [hown]
    by_cases hne : ch' = ch
    · rw [if_pos hne, hne]
      rw [hne] at hlog
      exact h.logged_createMessage hlog
    · -- Another channel keeps its history and its log, and the new id is not cached in it.
      rw [if_neg hne]
      rw [MessageStore.messageLogs_createMessage_of_ne _ user content hne] at hlog
      obtain ⟨older, newer, hsplit, hold, hsuffix⟩ := h.logged ch' log hlog
      have hlt : ∀ x ∈ newer, x.id < s.current.store.nextId := fun x hx =>
        h.id_lt_nextId (hsplit ▸ List.mem_append_right _ hx)
      exact ⟨older, newer, hsplit, hold,
        MessageStore.holdsSuffix_createMessage_of_ne hsuffix hlt ch user content⟩

/-- The answer to a request for the newest messages of a channel, and what the request
leaves in the store. -/
theorem getMessagesBefore_of_historyInv {s : Lifetimes} (h : HistoryInv s)
    (hlen : s.history.length < uint32Size - 1) (ch limit : Nat) :
    (s.current.store.getMessagesBefore s.current.db ch maxMessageId limit).2
      = (s.channelHistory ch).rtake limit ∧
    ∀ log, (s.current.store.getMessagesBefore s.current.db ch maxMessageId limit).1.messageLogs ch
        = some log → ∃ older newer, s.channelHistory ch = older ++ newer ∧
      (∀ m ∈ older, m ∈ s.current.start.messages.rows) ∧
      (s.current.store.getMessagesBefore s.current.db ch maxMessageId limit).1.HoldsSuffix log
        older newer := by
  cases hlog : s.current.store.messageLogs ch with
  -- A channel without a log has no history, since every message creates a log.
  | none =>
    have hnone : s.current.store.getMessagesBefore s.current.db ch maxMessageId limit
        = (s.current.store, []) := by
      unfold MessageStore.getMessagesBefore
      rw [hlog]
    rw [hnone, h.unlogged ch hlog]
    refine ⟨(List.rtake_nil _).symm, fun log hsome => ?_⟩
    rw [hlog] at hsome
    cases hsome
  | some log =>
    obtain ⟨older, newer, hsplit, hold, hsuffix⟩ := h.logged ch log hlog
    have hlt : ∀ m ∈ newer, m.id < maxMessageId := by
      intro m hm
      have hmem : m ∈ s.channelHistory ch := hsplit ▸ List.mem_append_right _ hm
      exact h.id_lt hlen (List.mem_filter.mp hmem).1
    obtain ⟨hresult, log', older', newer', hlog', heq, hsub, hsuffix'⟩ :=
      MessageStore.getMessagesBefore_of_holdsSuffix hlog hsuffix (hsplit ▸ h.ascending ch) hlt
        (h.pagesBelow hsplit hold hsuffix.nonempty maxMessageId) limit
    rw [hsplit]
    refine ⟨hresult, fun log'' hlog'' => ?_⟩
    rw [hlog'] at hlog''
    cases hlog''
    exact ⟨older', newer', heq, fun m hm => hold m (hsub.subset hm), hsuffix'⟩

/-- A request for the newest messages keeps the invariant. -/
theorem historyInv_getMessagesBefore {s s' : Lifetimes} (h : HistoryInv s)
    (hlen : s.history.length < uint32Size - 1) {ch limit : Nat}
    (hs : s.step (.op (.getMessagesBefore ch maxMessageId limit)) = some s')
    (hpersist : s'.current.PersistInv) : HistoryInv s' := by
  cases hs
  refine ⟨hpersist, h.history, h.ids, h.channels, ?_, ?_⟩
  · intro ch' hlog
    refine h.unlogged ch' ?_
    by_cases hne : ch' = ch
    · subst hne
      exact MessageStore.messageLogs_of_getMessagesBefore_eq_none hlog
    · exact (MessageStore.messageLogs_getMessagesBefore_of_ne hne _ _ _).symm.trans hlog
  · intro ch' log hlog
    by_cases hne : ch' = ch
    · subst hne
      exact (getMessagesBefore_of_historyInv h hlen ch' limit).2 log hlog
    · have hlog0 : s.current.store.messageLogs ch' = some log :=
        (MessageStore.messageLogs_getMessagesBefore_of_ne hne _ _ _).symm.trans hlog
      obtain ⟨older, newer, hsplit, hold, hsuffix⟩ := h.logged ch' log hlog0
      refine ⟨older, newer, hsplit, hold, hsuffix.ids, fun m hm => ?_, hsuffix.nonempty,
        hsuffix.complete⟩
      -- The page is from another channel, so it has none of the ids of this log.
      refine (MessageStore.messageCache_getMessagesBefore_of_ne ?_ _ _).trans
        (hsuffix.cached m hm)
      intro x hrow hch hid
      have hown : m ∈ s.channelHistory ch' := hsplit ▸ List.mem_append_right _ hm
      obtain ⟨hmem, hmch⟩ := List.mem_filter.mp hown
      have heqm := h.eq_of_id (h.mem_history_of_mem_rows hrow) hmem hid
      rw [← heqm, hch] at hmch
      exact hne (of_decide_eq_true hmch).symm

/-- A restart needs `Persist` to be outside, completes one more call of it and begins with
the database. -/
theorem step_restart {s s' : Lifetimes} (h : s.step .restart = some s') :
    ∃ db store, s.current.persist = .idle ∧
      persistToEnd s.current.db s.current.store = some (db, store) ∧
      s' = ⟨Lifetime.begin db, s.earlier ++ s.current.created⟩ := by
  simp only [step] at h
  split at h
  · rename_i hidle
    obtain ⟨⟨db, store⟩, hpersist, rfl⟩ := Option.map_eq_some_iff.mp h
    exact ⟨db, store, hidle, hpersist, rfl⟩
  · cases h

/-- A restart keeps the invariant: the next lifetime begins with the whole history in the
database. -/
theorem historyInv_restart {s s' : Lifetimes} (h : HistoryInv s) (hs : s.step .restart = some s')
    (hlen : s.history.length < uint32Size - 1) : HistoryInv s' := by
  obtain ⟨db, store, hidle, hpersist, rfl⟩ := step_restart hs
  obtain ⟨hrows, hchannels⟩ := rows_persistToEnd h.persist hidle hpersist
  rw [h.history] at hrows
  have hearlier : s.earlier ++ s.current.created = db.messages.rows := hrows.symm
  rw [hearlier]
  refine historyInv_begin db ?_ ?_ ?_
  · rw [hrows]
    exact h.ids
  · rw [hrows]
    exact hlen
  · rw [hrows, hchannels]
    exact h.channels

/-- No step shortens the history. -/
theorem length_history_le {s s' : Lifetimes} {o : LifetimesOp} (hs : s.step o = some s') :
    s.history.length ≤ s'.history.length := by
  cases o with
  | restart =>
    obtain ⟨db, store, -, -, rfl⟩ := step_restart hs
    simp only [history, List.length_append]
    omega
  | op o =>
    obtain ⟨current, hcurrent, rfl⟩ := Option.map_eq_some_iff.mp hs
    obtain ⟨-, new, hnew⟩ := Lifetime.step_ghosts hcurrent
    simp only [history, List.length_append, hnew]
    omega

/-- Every step keeps the invariant, as long as the history is short enough. -/
theorem historyInv_step {s s' : Lifetimes} {o : LifetimesOp} (h : HistoryInv s)
    (hok : servesHistory s o) (hs : s.step o = some s')
    (hlen : s'.history.length < uint32Size - 1) : HistoryInv s' := by
  have hlen0 : s.history.length < uint32Size - 1 :=
    Nat.lt_of_le_of_lt (length_history_le hs) hlen
  cases o with
  | restart => exact historyInv_restart h hs hlen0
  | op o =>
    obtain ⟨current, hcurrent, heq⟩ := Option.map_eq_some_iff.mp hs
    obtain ⟨hstart, new, hnew⟩ := Lifetime.step_ghosts hcurrent
    have hpersist : s'.current.PersistInv := by
      rw [← heq] at hlen ⊢
      refine Lifetime.persistInv_step h.persist hcurrent ?_
      -- The greatest id at `Prewarm` is at most the number of messages then.
      have hmax := maxKey_le_of_range h.start_ids
      have htotal := congrArg List.length h.history
      unfold Lifetime.IdsFit
      simp only [history, List.length_append, hnew, hstart] at hlen htotal ⊢
      omega
    cases o with
    | createMessage ch user content => exact historyInv_createMessage h hok hs hpersist
    | getMessagesBefore ch bound limit =>
      have hbound : bound = maxMessageId := hok
      subst hbound
      exact historyInv_getMessagesBefore h hlen0 hs hpersist
    | createChannel name =>
      cases hs
      exact ⟨hpersist, h.history, h.ids,
        fun m hm => Database.keys_createChatChannel (h.channels m hm) name, h.unlogged, h.logged⟩
    | persist =>
      obtain ⟨⟨db, store, p⟩, hstep, rfl⟩ := Option.map_eq_some_iff.mp hcurrent
      obtain ⟨hlogs, hcache, -, hchannels, -⟩ := persistStep_frame hstep
      subst heq
      refine ⟨hpersist, h.history, h.ids, ?_, ?_, ?_⟩
      · show ∀ m ∈ s.history, m.channelId ∈ db.channels.keys
        rw [hchannels]
        exact h.channels
      · show ∀ ch, store.messageLogs ch = none → s.channelHistory ch = []
        rw [hlogs]
        exact h.unlogged
      · intro ch log hlog
        have hlog0 : s.current.store.messageLogs ch = some log := hlogs ▸ hlog
        obtain ⟨older, newer, hsplit, hold, hsuffix⟩ := h.logged ch log hlog0
        refine ⟨older, newer, hsplit, hold, hsuffix.ids, ?_, hsuffix.nonempty, hsuffix.complete⟩
        show ∀ m ∈ newer, store.messageCache m.id = some m
        rw [hcache]
        exact hsuffix.cached

/-- The invariant holds in every reachable state with a history that is short enough. -/
theorem historyInv_reachable {s : Lifetimes} (h : lifetimes.Reachable servesHistory s) :
    s.history.length < uint32Size - 1 → HistoryInv s := by
  refine h.invariant (I := fun s => s.history.length < uint32Size - 1 → HistoryInv s) ?_ ?_
  · intro s hstart _
    obtain ⟨db, hempty, rfl⟩ := hstart
    have hinv : HistoryInv ⟨Lifetime.begin db, db.messages.rows⟩ := by
      refine historyInv_begin db ?_ ?_ ?_
      · rw [hempty]
        rfl
      · rw [hempty]
        decide
      · rw [hempty]
        simp
    rw [hempty] at hinv
    exact hinv
  · intro s o s' ih hok hs hlen
    exact historyInv_step (ih (Nat.lt_of_le_of_lt (length_history_le hs) hlen)) hok hs hlen

/-- History served to clients is the channel's history. In every state that consecutive
lifetimes reach, with `Persist` anywhere between its steps, a request for the newest `limit`
messages of a channel returns the last `limit` of all messages ever created in it, in order
of creation. -/
theorem served_history {s : Lifetimes} (h : lifetimes.Reachable servesHistory s)
    (hlen : s.history.length < uint32Size - 1) (ch limit : Nat) :
    (s.current.store.getMessagesBefore s.current.db ch maxMessageId limit).2
      = (s.channelHistory ch).rtake limit :=
  (getMessagesBefore_of_historyInv (historyInv_reachable h hlen) hlen ch limit).1

/-- Two lifetimes, the second with one message in the database and one in flight. -/
theorem served_history_restart :
    ∃ s, lifetimes.Reachable servesHistory s ∧ s.history.length < uint32Size - 1 ∧
      s.earlier.length = 1 ∧ s.current.persist.inFlight.length = 1 ∧
      (s.channelHistory 1).length = 2 ∧
      (s.current.store.getMessagesBefore s.current.db 1 maxMessageId 5).2
        = (s.channelHistory 1).rtake 5 := by
  have hstart : lifetimes.Reachable servesHistory ⟨Lifetime.begin Database.empty, []⟩ :=
    .start ⟨Database.empty, rfl, rfl⟩
  obtain ⟨s, hs, hlen, hearlier, hflight, hch⟩ := hstart.exists_of_exec
    [.op (.createChannel "general"), .op (.createMessage 1 1 "a"), .restart,
      .op (.createMessage 1 2 "b"), .op .persist]
    (fun s => s.history.length < uint32Size - 1 ∧ s.earlier.length = 1 ∧
      s.current.persist.inFlight.length = 1 ∧ (s.channelHistory 1).length = 2) (by decide)
  exact ⟨s, hs, hlen, hearlier, hflight, hch, served_history hs hlen 1 5⟩

end Lifetimes

end ChatCore.Server
