import ChatCore.Proofs.FrameSizes
import ChatCore.Proofs.MessageLog
import ChatCore.Proofs.Prewarm

/-!
# `ChatCore.Proofs.FrameBounds`: when every reply fits into a frame

`Fits` is a condition on a message and on the rows that it asks for, `FitsStep` adds that the
numbers are values of their C++ types. `emitted_frames_fit` proves it enough: in a run whose steps
all meet it, no frame that the server emits is larger than `maxMessageBytes`.

Most sizes follow from the size of one text. A page of messages needs two facts about the message
store. Its ids are distinct ids that the server holds (`PageOf.nodup`), since the log of a channel
is ascending in every run (`logsSorted_reachable`). And each of its messages is a row of the channel
or cached under an id of the log.
-/

set_option autoImplicit false

namespace ChatCore.Server

open ChatCore.Api
open ChatCore.Lib ChatCore.Lib.Json
open ChatCore.Network

/-! ### Pages of messages -/

namespace MessageStore

/-- What a request on the log of a channel returns: a page of the table, which may be empty, and
cached ids that are at least as new as the bound of the page. -/
structure PageOf (db : Database) (log : ChannelMessageLog) (s : MessageStore) (ch limit : Nat)
    (page : List ChatMessage) (cached : List Nat) (bound : Nat)
    (result : MessageStore × List Nat) : Prop where
  ids : result.2 = page.map ChatMessage.id ++ cached
  logged : cached.Sublist log.channelMessageIds
  newer : ∀ id ∈ cached, bound ≤ id
  rows : page.Sublist db.messages.rows
  older : ∀ m ∈ page, m.channelId = ch ∧ m.id < bound
  /-- The page is in the cache afterwards, and the rest of the cache is as it was. -/
  read : ∀ m ∈ page, result.1.messageCache m.id = some m
  kept : ∀ id, id ∉ page.map ChatMessage.id → result.1.messageCache id = s.messageCache id
  length : result.2.length ≤ limit

variable {s : MessageStore} {db : Database} {log : ChannelMessageLog} {ch bound limit : Nat}

/-- A page of the table in front of cached ids. -/
theorem pageOf_query {cached : List Nat} {k : Nat} (hlogged : cached.Sublist log.channelMessageIds)
    (hnewer : ∀ id ∈ cached, bound ≤ id) (hk : k + cached.length ≤ limit) :
    PageOf db log s ch limit (db.getChatMessagesBefore ch bound k) cached bound
      ((s.queryAndCacheMessages db ch bound k).1,
        (s.queryAndCacheMessages db ch bound k).2 ++ cached) where
  ids := rfl
  logged := hlogged
  newer := hnewer
  rows := sublist_getChatMessagesBefore db ch bound k
  older m hm := (mem_getChatMessagesBefore hm).2
  read m hm := messageCache_queryAndCacheMessages_of_mem hm
  kept id hid := messageCache_queryAndCacheMessages_of_ne fun m hm he =>
    hid (he ▸ List.mem_map_of_mem hm)
  length := by
    have hlength : (db.getChatMessagesBefore ch bound k).length ≤ k := by
      rw [Database.getChatMessagesBefore_eq, length_rtake]
      exact Nat.min_le_left _ _
    show ((db.getChatMessagesBefore ch bound k).map ChatMessage.id ++ cached).length ≤ limit
    rw [List.length_append, List.length_map]
    omega

/-- Cached ids without a page. -/
theorem pageOf_cached {cached : List Nat} (hlogged : cached.Sublist log.channelMessageIds)
    (hlength : cached.length ≤ limit) : PageOf db log s ch limit [] cached 0 (s, cached) :=
  ⟨rfl, hlogged, fun _ _ => Nat.zero_le _, List.nil_sublist _, nofun, nofun, fun _ _ => rfl,
    hlength⟩

/-- Each case of `GetChatMessagesBefore` returns such a page. -/
theorem pageOf_getChatMessagesBefore (s : MessageStore) (db : Database) (ch bound limit : Nat)
    (hsorted : log.channelMessageIds.SortedLT) :
    ∃ page cached oldest, PageOf db log s ch limit page cached oldest
      (s.getChatMessagesBefore db log ch bound limit) := by
  have hquery : ∃ page cached oldest, PageOf db log s ch limit page cached oldest
      (s.queryAndCacheMessages db ch bound limit) := by
    have h : PageOf db log s ch limit _ [] bound _ :=
      pageOf_query (List.nil_sublist log.channelMessageIds) nofun (Nat.le_refl _)
    rw [List.append_nil] at h
    exact ⟨_, _, _, h⟩
  unfold getChatMessagesBefore
  split
  · exact ⟨_, _, _, pageOf_cached (List.nil_sublist _) (Nat.zero_le _)⟩
  · split
    · exact hquery
    · simp only
      split
      · exact hquery
      · -- The cached ids of the request are the newest ones below its bound.
        have hlogged : ∀ k, ((log.channelMessageIds.takeWhile (· < bound)).rtake k).Sublist
            log.channelMessageIds := fun k =>
          (List.drop_sublist _ _).trans (List.takeWhile_sublist _)
        have hlength : ((log.channelMessageIds.takeWhile (· < bound)).rtake
            (min (log.channelMessageIds.takeWhile (· < bound)).length limit)).length
            = min (log.channelMessageIds.takeWhile (· < bound)).length limit := by
          rw [length_rtake]
          omega
        split
        · exact ⟨_, _, _, pageOf_cached (hlogged _) (by omega)⟩
        · refine ⟨_, _, _, pageOf_query (hlogged _) (fun id hid => ?_) (by omega)⟩
          -- The page ends below the oldest of them.
          have hasc := hsorted.pairwise.sublist (hlogged
            (min (log.channelMessageIds.takeWhile (· < bound)).length limit))
          generalize (log.channelMessageIds.takeWhile (· < bound)).rtake _ = cached at hid hasc ⊢
          cases cached with
          | nil => cases hid
          | cons oldest rest =>
            rcases List.mem_cons.mp hid with rfl | hid
            · exact Nat.le_refl _
            · exact Nat.le_of_lt ((List.pairwise_cons.mp hasc).1 id hid)

/-- The ids of a request are distinct: the page is ascending and below the cached ids. -/
theorem PageOf.nodup {page : List ChatMessage} {cached : List Nat} {oldest : Nat}
    {result : MessageStore × List Nat} (hsorted : log.channelMessageIds.SortedLT)
    (h : PageOf db log s ch limit page cached oldest result) : result.2.Nodup := by
  rw [h.ids, List.nodup_append']
  refine ⟨db.messages.ascending.nodup.sublist (h.rows.map _), hsorted.nodup.sublist h.logged,
    fun id hid hcached => ?_⟩
  obtain ⟨m, hm, rfl⟩ := List.mem_map.mp hid
  exact Nat.not_lt.mpr (h.newer _ hcached) (h.older m hm).2

/-- The log of every channel is ascending. -/
def LogsSorted (s : MessageStore) : Prop :=
  ∀ ch log, s.messageLogs ch = some log → log.channelMessageIds.SortedLT

/-- `Prewarm` fills each log with an ascending page. -/
theorem logsSorted_prewarm (db : Database) : LogsSorted (({} : MessageStore).prewarm db) := by
  intro ch log hlog
  rw [(prewarmed_prewarm db).logs ch] at hlog
  split at hlog
  · cases hlog
    exact db.sortedLT_prewarmPage ch
  · cases hlog

/-- A created message goes to the end of its log, or its id is ignored. -/
theorem LogsSorted.createMessage (h : LogsSorted s) (ch user : Nat) (content : String) :
    LogsSorted (s.createMessage ch user content) := by
  intro ch' log hlog
  by_cases hch : ch' = ch
  · subst hch
    rw [messageLogs_createMessage_self, Option.some.injEq] at hlog
    subst hlog
    refine (ChannelMessageLog.mem_appendMessageId ?_ s.nextId).1
    cases hold : s.messageLogs ch' with
    | none => exact ChannelMessageLog.sortedLT_empty
    | some log => exact h ch' log hold
  · rw [messageLogs_createMessage_of_ne s user content hch] at hlog
    exact h ch' log hlog

/-- A request merges a page into the log. -/
theorem LogsSorted.getMessagesBefore (h : LogsSorted s) (db : Database) (ch bound limit : Nat) :
    LogsSorted (s.getMessagesBefore db ch bound limit).1 := by
  rcases getMessagesBefore_store s db ch bound limit with heq | ⟨log, b, k, hlog, -, heq⟩
  · rwa [heq]
  · rw [heq]
    intro ch' log' hlog'
    by_cases hch : ch' = ch
    · subst hch
      rw [messageLogs_queryAndCacheMessages_self hlog, Option.some.injEq] at hlog'
      subst hlog'
      -- The flag that the page sets in the log does not matter for its ids.
      refine (ChannelMessageLog.mem_assignMessageIds ?_ _).1
      exact h ch' log hlog
    · rw [messageLogs_queryAndCacheMessages_of_ne hch] at hlog'
      exact h ch' log' hlog'

/-- Handling a message keeps the logs ascending. -/
theorem LogsSorted.handled {st st' : ServerState} {c : Nat} {m : Message} {calls : List Call}
    (h : LogsSorted st.messages) (hh : Handled st c m st' calls) : LogsSorted st'.messages := by
  cases hh with
  | served hs _ | joined hs _ _ _ | loggedOut hs _ | createdChannel hs _ => exact hs.messages ▸ h
  | createdUser _ | authenticated _ _ _ => exact h
  | read => exact h.getMessagesBefore _ _ _ _
  | wrote _ _ _ => exact h.createMessage _ _ _

end MessageStore

namespace ServerState

variable {s : ServerState}

/-- A page of messages has at most as many messages as the server holds, each of them held. -/
theorem page_held (h : s.messages.LogsSorted) (ch bound limit : Nat) :
    (s.messages.getMessagesBefore s.db ch bound limit).2.length ≤ min limit (s.heldCount ch) ∧
      ∀ m ∈ (s.messages.getMessagesBefore s.db ch bound limit).2, m ∈ s.heldMessages ch := by
  unfold MessageStore.getMessagesBefore
  cases hlog : s.messages.messageLogs ch with
  | none => exact ⟨Nat.zero_le _, nofun⟩
  | some log =>
    have hsorted := h ch log hlog
    have hlogged : s.loggedIds ch = log.channelMessageIds := by rw [loggedIds, hlog]; rfl
    obtain ⟨page, cached, oldest, hpage⟩ :=
      MessageStore.pageOf_getChatMessagesBefore s.messages s.db ch bound limit hsorted
    dsimp only
    generalize s.messages.getChatMessagesBefore s.db log ch bound limit = result at hpage ⊢
    -- The page of the query has rows of the channel, and the rest of the ids is logged.
    have hrow : ∀ m ∈ page, m ∈ s.channelRows ch := fun m hm =>
      List.mem_filter.mpr ⟨hpage.rows.subset hm, by simpa using (hpage.older m hm).1⟩
    refine ⟨Nat.le_min.mpr ⟨?_, ?_⟩, fun m hm => ?_⟩
    · exact (List.length_filterMap_le _ _).trans hpage.length
    · -- The ids are distinct, so there are at most as many as the server holds.
      refine (List.length_filterMap_le _ _).trans
        (List.subperm_of_subset (hpage.nodup hsorted) fun id hid => ?_).length_le
      rw [hpage.ids] at hid
      rw [List.mem_union_iff, hlogged]
      rcases List.mem_append.mp hid with hid | hid
      · obtain ⟨m, hm, rfl⟩ := List.mem_map.mp hid
        exact .inl (List.mem_map_of_mem (hrow m hm))
      · exact .inr (hpage.logged.subset hid)
    · obtain ⟨id, hid, hget⟩ := List.mem_filterMap.mp hm
      have hcache : result.1.messageCache id = some m := hget
      by_cases hin : id ∈ page.map ChatMessage.id
      · obtain ⟨m', hm', rfl⟩ := List.mem_map.mp hin
        rw [hpage.read m' hm', Option.some.injEq] at hcache
        exact List.mem_append_left _ (hrow m (hcache ▸ hm'))
      · rw [hpage.kept id hin] at hcache
        rw [hpage.ids] at hid
        have hid' : id ∈ s.loggedIds ch :=
          hlogged ▸ hpage.logged.subset ((List.mem_append.mp hid).resolve_left hin)
        exact List.mem_append_right _ (List.mem_filterMap.mpr ⟨id, hid', hcache⟩)

end ServerState

/-! ### Sizes -/

/-- An id of a user, a channel or a message has at most ten digits. -/
theorem decimalSize_uint32 {n : Nat} (h : n < uint32Size) : decimalSize n ≤ 10 :=
  decimalSize_le (by decide) (h.trans (by decide))

/-- The id of a request has at most twenty digits. -/
theorem decimalSize_uint64 {n : Nat} (h : n < 2 ^ 64) : decimalSize n ≤ 20 :=
  decimalSize_le (by decide) (h.trans (by decide))

/-- The size of a record with an id and a name. -/
theorem namedSize_le {id : Nat} (h : id < uint32Size) (name : String) :
    namedSize id name ≤ 25 + quotedSize name := by
  have := decimalSize_uint32 h
  unfold namedSize
  omega

/-- The longest text is at least as long as each of the texts. -/
theorem quotedSize_le_longest {texts : List String} {text : String} (h : text ∈ texts) :
    quotedSize text ≤ longest texts := by
  induction texts with
  | nil => cases h
  | cons first texts ih =>
    rcases List.mem_cons.mp h with rfl | h
    · exact Nat.le_max_left _ _
    · exact (ih h).trans (Nat.le_max_right _ _)

/-- An array with one element of bounded size for each value. -/
theorem arraySize_map_le {α : Type} {values : List α} (size : α → Nat) {n bound : Nat}
    (hlen : values.length ≤ n) (h : ∀ a ∈ values, size a + 1 ≤ bound) :
    arraySize (values.map size) ≤ 2 + n * bound := by
  refine arraySize_le (by rwa [List.length_map]) fun k hk => ?_
  obtain ⟨a, ha, rfl⟩ := List.mem_map.mp hk
  exact h a ha

/-- The texts that do not depend on the message. -/
theorem quotedSize_texts :
    quotedSize "Not authorized." = 17 ∧ quotedSize "User already exists." = 22 ∧
    quotedSize "Already logged in." = 20 ∧ quotedSize "Wrong username or password" = 28 ∧
    quotedSize "No channel joined." = 20 ∧ quotedSize "Channel not found." = 20 ∧
    quotedSize " is already logged in." = 24 ∧ quotedSize "User with name " = 17 ∧
    quotedSize " not found" = 12 := by
  decide

namespace ServerState

variable {s : ServerState} {c : Nat}

/-- An error of an RPC request with a short text. -/
theorem errorResponseSize_le {requestId : Nat} {text : String} (hid : requestId < 2 ^ 64)
    (htext : quotedSize text ≤ 1000) : errorResponseSize requestId text ≤ maxMessageBytes := by
  have := decimalSize_uint64 hid
  unfold errorResponseSize maxMessageBytes
  omega

/-- A reply that needs a session is the error, or the one to the user of the session. -/
theorem authorizedSizes_le {error : Nat} {rest : Nat → List Nat} {bound : Nat}
    (herror : error ≤ bound)
    (hrest : ∀ user, (c, user) ∈ s.users.userSessions → ∀ n ∈ rest user, n ≤ bound) :
    ∀ n ∈ s.authorizedSizes c error rest, n ≤ bound := by
  unfold authorizedSizes
  cases hsession : s.users.userSessions.findLeft c with
  | none => simpa using herror
  | some user => exact hrest user (Bimap.findLeft_eq_some.mp hsession)

/-- A request without a session gets a short error. -/
theorem notAuthorizedSize_le {requestId : Nat} (hid : requestId < 2 ^ 64) :
    notAuthorizedSize requestId ≤ maxMessageBytes :=
  errorResponseSize_le hid (by rw [quotedSize_texts.1]; decide)

/-- The user of a session is a row. -/
theorem session_lt (h : s.Consistent) (hids : s.IdsInRange) {user : Nat}
    (hsession : (c, user) ∈ s.users.userSessions) :
    user < uint32Size := by
  obtain ⟨row, hrow, rfl⟩ := h.sessions c user hsession
  exact hids.1.1 row hrow

/-- The channel of a connection is a row. -/
theorem assigned_lt (h : s.Consistent) (hids : s.IdsInRange) {channel : Nat}
    (hchannel : (c, channel) ∈ s.channels.connectionChannelMap) :
    channel < uint32Size := by
  obtain ⟨row, hrow, rfl⟩ := List.mem_map.mp (h.assigned c channel hchannel)
  exact hids.2.1 row hrow

/-- A list of users counts with the longest name, once for each id of the request that has a
row. -/
theorem usersSize_le (hids : s.IdsInRange) {m : GetUsersRequestMessage}
    (hrequest : m.requestId < 2 ^ 64) (hfits : s.Fits (.getUsersRequest m)) :
    50 + decimalSize m.requestId + arraySize ((m.userIds.filterMap s.db.getUser).map
      fun user => namedSize user.id user.name) ≤ maxMessageBytes := by
  have hlength : (m.userIds.filterMap s.db.getUser).length
      ≤ (m.userIds.filter (· ∈ s.db.users.keys)).length := by
    -- An id with a row brings one user, and any other id brings none.
    induction m.userIds with
    | nil => exact Nat.le_refl _
    | cons id userIds ih =>
      cases hget : s.db.getUser id with
      | none =>
        rw [List.filterMap_cons_none hget]
        exact ih.trans (List.Sublist.filter _ (List.sublist_cons_self id userIds)).length_le
      | some user =>
        obtain ⟨row, hrow, rfl, -⟩ := Database.getUser_eq_some.mp hget
        have hkey : row.id ∈ s.db.users.keys := List.mem_map_of_mem hrow
        rw [List.filterMap_cons_some hget, List.filter_cons_of_pos (by simpa using hkey)]
        exact Nat.succ_le_succ ih
  have harray := arraySize_map_le (fun user : User => namedSize user.id user.name) hlength
    fun user huser => by
      obtain ⟨id, -, hget⟩ := List.mem_filterMap.mp huser
      obtain ⟨row, hrow, -, rfl⟩ := Database.getUser_eq_some.mp hget
      have hnamed := namedSize_le (hids.1.1 row hrow) row.name
      have hname := quotedSize_le_longest (List.mem_map_of_mem (f := UserRow.name) hrow)
      show namedSize row.id row.name + 1 ≤ 26 + longest (s.db.users.rows.map UserRow.name)
      omega
  have hsize : 72 + (m.userIds.filter (· ∈ s.db.users.keys)).length
      * (26 + longest (s.db.users.rows.map UserRow.name)) ≤ maxMessageBytes := hfits
  have hdigits := decimalSize_uint64 hrequest
  omega

/-- The list of channels counts with the longest name. -/
theorem channelsSize_le (h : s.Consistent) (hids : s.IdsInRange) {m : GetChatChannelsRequestMessage}
    (hrequest : m.requestId < 2 ^ 64) (hfits : s.Fits (.getChatChannelsRequest m)) :
    53 + decimalSize m.requestId + arraySize (s.channels.getChannels.map
      fun channel => namedSize channel.id channel.name) ≤ maxMessageBytes := by
  have hrow : ∀ channel ∈ s.channels.getChannels, channel ∈ s.db.channels.rows := fun _ hc =>
    h.channels hc
  have hlength : s.channels.getChannels.length ≤ s.db.channels.rows.length :=
    (List.subperm_of_subset (List.Nodup.of_map _ s.channels.channels.ascending.nodup)
      hrow).length_le
  have harray := arraySize_map_le
    (fun channel : ChatChannel => namedSize channel.id channel.name) hlength
    fun channel hchannel => by
      have hnamed := namedSize_le (hids.2.1 channel (hrow channel hchannel)) channel.name
      have hname := quotedSize_le_longest
        (List.mem_map_of_mem (f := ChatChannel.name) (hrow channel hchannel))
      show namedSize channel.id channel.name + 1
        ≤ 26 + longest (s.db.channels.rows.map ChatChannel.name)
      omega
  have hsize : 75 + s.db.channels.rows.length
      * (26 + longest (s.db.channels.rows.map ChatChannel.name)) ≤ maxMessageBytes := hfits
  have hdigits := decimalSize_uint64 hrequest
  omega

/-- A login is answered with the name of the request. -/
theorem authenticateSizes_le (hids : s.IdsInRange) {m : AuthenticateUserRequestMessage}
    (hm : m.requestId < 2 ^ 64) (hfits : s.Fits (.authenticateUserRequest m)) :
    ∀ n ∈ s.replySizes c (.authenticateUserRequest m), n ≤ maxMessageBytes := by
  obtain ⟨-, -, hin, hwrong, -, -, hsuffix, -, -⟩ := quotedSize_texts
  have hrequest := decimalSize_uint64 hm
  have hfits' : 94 + quotedSize m.name ≤ maxMessageBytes := hfits
  simp only [replySizes]
  cases s.users.userSessions.findLeft c with
  | some user =>
    simpa using errorResponseSize_le hm (by rw [hin]; decide)
  | none =>
    cases hmatch : s.db.matchUserCredentials m.name m.password with
    | none => simpa using errorResponseSize_le hm (by rw [hwrong]; decide)
    | some user =>
      obtain ⟨hname, hrow⟩ := Database.matchUserCredentials_eq_some.mp hmatch
      have hid : decimalSize user.id ≤ 10 := decimalSize_uint32 (hids.1.1 _ hrow)
      have happend := quotedSize_append m.name " is already logged in."
      simp only
      split
      · simp only [errorResponseSize, List.mem_singleton, forall_eq]
        omega
      · simp only [userResponseSize, namedSize, userEventSize, List.mem_cons, List.not_mem_nil,
          or_false, forall_eq_or_imp, forall_eq, hname]
        omega

/-- A page counts with the longest of the held messages of its channel. -/
theorem pageSize_le (hlogs : s.messages.LogsSorted) {m : GetChatsRequestMessage}
    (hrequest : m.requestId < 2 ^ 64) (hchannel : m.channelId < uint32Size)
    (hfits : s.Fits (.getChatsRequest m)) :
    67 + decimalSize m.requestId + decimalSize m.channelId +
      arraySize ((s.messages.getMessagesBefore s.db m.channelId maxMessageId m.limit).2.map
        fun message => chatSize message.id message.userId message.content) ≤ maxMessageBytes := by
  obtain ⟨hrange, hsize⟩ := hfits
  obtain ⟨hlength, hheld⟩ := page_held hlogs m.channelId maxMessageId m.limit
  have harray := arraySize_map_le (fun message : ChatMessage =>
      chatSize message.id message.userId message.content) hlength fun message hmessage => by
    have hmem := hheld message hmessage
    obtain ⟨hid, -, huser⟩ := hrange message hmem
    have hcontent := quotedSize_le_longest (List.mem_map_of_mem (f := ChatMessage.content) hmem)
    have hid' := decimalSize_uint32 hid
    have huser' := decimalSize_uint32 huser
    show chatSize message.id message.userId message.content + 1
      ≤ 50 + longest ((s.heldMessages m.channelId).map ChatMessage.content)
    unfold chatSize
    omega
  have hdigits := decimalSize_uint64 hrequest
  have hdigits' := decimalSize_uint32 hchannel
  omega

/-- The replies to a message that fits are no larger than a frame may be. -/
theorem replySizes_le (h : s.Consistent) (hlogs : s.messages.LogsSorted) (hids : s.IdsInRange)
    {m : Message} (hm : m.InRange) (hfits : s.Fits m) :
    ∀ n ∈ s.replySizes c m, n ≤ maxMessageBytes := by
  obtain ⟨hauth, hexists, -, -, hchannel, hnotFound, -, hprefix, hsuffix⟩ := quotedSize_texts
  cases m with
  | createUserRequest m =>
    have hfits' : 94 + quotedSize m.name ≤ maxMessageBytes := hfits
    -- The new user has the next id of the table.
    have hname := namedSize_le hids.1.2 m.name
    have hrequest := decimalSize_uint64 hm
    simp only [replySizes]
    split
    · simpa using errorResponseSize_le hm (by rw [hexists]; decide)
    · simp only [userResponseSize, List.mem_singleton, forall_eq]
      omega
  | authenticateUserRequest m => exact authenticateSizes_le hids hm hfits
  | getUsersRequest m =>
    refine authorizedSizes_le (notAuthorizedSize_le hm.1) fun user _ => ?_
    simpa using usersSize_le hids hm.1 hfits
  | getUserRequest m =>
    refine authorizedSizes_le (notAuthorizedSize_le hm) fun user _ => ?_
    have hfits' : 95 + quotedSize m.name ≤ maxMessageBytes := hfits
    have hrequest := decimalSize_uint64 hm
    cases hget : s.db.getUserByName m.name with
    | none =>
      -- The error repeats the name between two texts.
      have happend := quotedSize_append ("User with name " ++ m.name) " not found"
      have happend' := quotedSize_append "User with name " m.name
      simp only [errorResponseSize, List.mem_singleton, forall_eq]
      omega
    | some user =>
      obtain ⟨hname, row, hrow, rfl⟩ := Database.getUserByName_eq_some.mp hget
      have hnamed := namedSize_le (hids.1.1 row hrow) row.name
      have hname' : row.name = m.name := hname
      rw [← hname'] at hfits'
      simp only [userResponseSize, UserRow.toUser, List.mem_singleton, forall_eq]
      omega
  | writeChat m =>
    refine authorizedSizes_le (by decide) fun user huser => ?_
    have hfits' : 83 + quotedSize m.content ≤ maxMessageBytes := hfits
    have huser' := decimalSize_uint32 (session_lt h hids huser)
    cases hassigned : s.channels.connectionChannelMap.findLeft c with
    | none =>
      simp only [errorSize, hchannel, List.mem_singleton, forall_eq]
      decide
    | some channel =>
      have hchannel' := decimalSize_uint32
        (assigned_lt h hids (MultiBimap.findLeft_eq_some.mp hassigned))
      simp only [List.mem_singleton, forall_eq]
      omega
  | createChannelRequest m =>
    refine authorizedSizes_le (notAuthorizedSize_le hm) fun user huser => ?_
    have hfits' : 97 + quotedSize m.name ≤ maxMessageBytes := hfits
    have hrequest := decimalSize_uint64 hm
    have huser' := decimalSize_uint32 (session_lt h hids huser)
    cases hget : s.db.getChatChannelByName m.name with
    | none =>
      -- The response and the event carry the new channel.
      have hnamed := namedSize_le hids.2.2 m.name
      simp only [channelResponseSize, List.mem_cons, List.not_mem_nil, or_false, forall_eq_or_imp,
        forall_eq]
      omega
    | some channel =>
      obtain ⟨hname, hrow⟩ := Database.getChatChannelByName_eq_some.mp hget
      have hnamed := namedSize_le (hids.2.1 channel hrow) channel.name
      rw [← hname] at hfits'
      simp only [channelResponseSize, List.mem_singleton, forall_eq]
      omega
  | joinChatChannelRequest m =>
    refine authorizedSizes_le (notAuthorizedSize_le hm.1) fun user huser => ?_
    have hrequest := decimalSize_uint64 hm.1
    have huser' := decimalSize_uint32 (session_lt h hids huser)
    have hid := decimalSize_uint32 hm.2
    have hmax : maxMessageBytes = 1048576 := rfl
    cases s.db.getChatChannel m.channelId with
    | none => simpa using errorResponseSize_le hm.1 (by rw [hnotFound]; decide)
    | some channel =>
      -- With a previous channel there is a leave event before the join event.
      cases hassigned : s.channels.connectionChannelMap.findLeft c with
      | none =>
        simp only [channelEventSize, Option.map_none, Option.toList_none, List.nil_append,
          List.mem_cons, List.not_mem_nil, or_false, forall_eq_or_imp, forall_eq]
        omega
      | some previous =>
        have hprevious := decimalSize_uint32
          (assigned_lt h hids (MultiBimap.findLeft_eq_some.mp hassigned))
        simp only [channelEventSize, Option.map_some, Option.toList_some, List.cons_append,
          List.nil_append, List.mem_cons, List.not_mem_nil, or_false, forall_eq_or_imp, forall_eq]
        omega
  | getChatsRequest m =>
    refine authorizedSizes_le (notAuthorizedSize_le hm.1) fun user _ => ?_
    simpa using pageSize_le hlogs hm.1 hm.2.1 hfits
  | getChatChannelsRequest m =>
    refine authorizedSizes_le (notAuthorizedSize_le hm) fun user _ => ?_
    simpa using channelsSize_le h hids hm hfits
  | getChatChannelRequest m =>
    refine authorizedSizes_le (notAuthorizedSize_le hm.1) fun user _ => ?_
    have hrequest := decimalSize_uint64 hm.1
    cases hget : s.db.getChatChannel m.channelId with
    | none => simpa using errorResponseSize_le hm.1 (by rw [hnotFound]; decide)
    | some channel =>
      obtain ⟨hid, hrow⟩ := Database.getChatChannel_eq_some.mp hget
      have hsize := hfits channel hrow hid
      have hnamed := namedSize_le (hids.2.1 channel hrow) channel.name
      simp only [channelResponseSize, List.mem_singleton, forall_eq]
      omega
  | shutdown m =>
    exact authorizedSizes_le (by decide) fun user _ n hn => absurd hn List.not_mem_nil
  | logoutRequest m =>
    refine authorizedSizes_le (notAuthorizedSize_le hm) fun user huser => ?_
    have hrequest := decimalSize_uint64 hm
    have huser' := decimalSize_uint32 (session_lt h hids huser)
    have hmax : maxMessageBytes = 1048576 := rfl
    simp only [userEventSize, List.mem_cons, List.not_mem_nil, or_false, forall_eq_or_imp,
      forall_eq]
    omega
  | _ => exact fun n hn => absurd hn List.not_mem_nil

end ServerState

namespace ServerRun

variable {r : ServerRun}

/-- The logs are ascending in every run. -/
theorem logsSorted_reachable (h : serverRuns.Reachable Lts.anyStep r) :
    r.server.messages.LogsSorted := by
  refine h.invariant_of_reachable (I := fun r => r.server.messages.LogsSorted) ?_ ?_
  · rintro r ⟨db, rfl⟩
    exact MessageStore.logsSorted_prewarm db
  · intro r op r' hr ih _ hs
    rcases step_cases hs with ⟨-, rfl⟩ | ⟨c, m, -, -, rfl⟩ | ⟨c, -, -, rfl⟩ |
      ⟨db, messages, persist, -, hstep, rfl⟩
    · exact ih
    · exact ih.handled (ServerState.handled_handle (consistent_reachable hr) c m)
    · obtain ⟨users, -, -, heq, -⟩ := ServerState.removeSession_spec
        (consistent_removeConnection (consistent_reachable hr) c) c
      show ((r.server.removeConnection c).removeSession c).1.messages.LogsSorted
      rw [heq]
      exact ih
    · show messages.LogsSorted
      intro ch log hlog
      rw [(persistStep_frame hstep).1] at hlog
      exact ih ch log hlog

variable {json : JsonLibrary} {float : Rat → List Char}

/-- Handling a message that fits. -/
theorem fitFrames_handle (hdump : json.DumpsText float) (h : serverRuns.Reachable Lts.anyStep r)
    {c : Nat} {m : Message} (hok : r.FitsStep (.handle c m)) :
    FitFrames json (r.server.handle c m).2 := by
  obtain ⟨hids, hm, hfits⟩ := hok
  have hcons := consistent_reachable h
  exact (hcons.fitFrames_iff hdump m).mpr
    (ServerState.replySizes_le hcons (logsSorted_reachable h) hids hm hfits)

/-- `OnDisconnected` broadcasts at most a logout event. -/
theorem fitFrames_removeSession (hdump : json.DumpsText float) {s : ServerState}
    (h : s.Consistent) (hids : s.IdsInRange) (c : Nat) : FitFrames json (s.removeSession c).2 := by
  by_cases hsession : ∃ u, (c, u) ∈ s.users.userSessions
  · obtain ⟨u, hu⟩ := hsession
    obtain ⟨users, -, hremove⟩ := ServerState.removeSession_of_session h c hu
    have hid := decimalSize_uint32 (ServerState.session_lt h hids hu)
    rw [hremove]
    intro call hcall message hmessage
    rw [List.mem_singleton] at hcall
    subst hcall
    cases hmessage
    rw [JsonNetworkCodec.length_encode_of_frameSize hdump rfl]
    show 38 + decimalSize u ≤ 1048576
    omega
  · rw [ServerState.removeSession_of_not_session c fun u hu => hsession ⟨u, hu⟩]
    exact nofun

/-- In every reachable state, all that handling a message sends and broadcasts fits into a frame
when the message fits. And in a run whose steps all meet this condition, every frame that was
emitted so far is one that the other side takes. -/
theorem emitted_frames_fit (hdump : json.DumpsText float) :
    (∀ r, serverRuns.Reachable Lts.anyStep r → ∀ c m, r.FitsStep (.handle c m) →
      FitFrames json (r.server.handle c m).2) ∧
    ∀ r, serverRuns.Reachable FitsStep r → ∀ e ∈ r.trace, FitFrames json e.calls := by
  refine ⟨fun r h c m => fitFrames_handle hdump h, fun r h => ?_⟩
  refine h.invariant_of_reachable (I := fun r => ∀ e ∈ r.trace, FitFrames json e.calls) ?_ ?_
  · rintro r ⟨db, rfl⟩
    exact nofun
  · intro r op r' hr ih hok hs
    have hany : serverRuns.Reachable Lts.anyStep _ := hr.mono fun _ _ _ => trivial
    -- The trace grows by the calls of the step.
    have hrecord : ∀ result : ServerState × List Call, FitFrames json result.2 →
        ∀ e ∈ (r.record op result).trace, FitFrames json e.calls := fun result hfit e he => by
      rcases List.mem_append.mp he with he | he
      · exact ih e he
      · rw [List.mem_singleton.mp he]
        exact hfit
    rcases step_cases hs with ⟨rfl, rfl⟩ | ⟨c, m, rfl, -, rfl⟩ | ⟨c, rfl, -, rfl⟩ |
      ⟨db, messages, persist, rfl, -, rfl⟩
    · exact hrecord _ nofun
    · exact hrecord _ (fitFrames_handle hdump hany hok)
    · refine hrecord _ (fitFrames_removeSession hdump ?_ ?_ c)
      · exact consistent_removeConnection (consistent_reachable hany) c
      · exact hok
    · exact hrecord _ nofun

/-- A user registers, joins a channel, writes, asks for the history, the users and the channels, and
is disconnected. -/
theorem emitted_frames_fit_history : ∃ r, serverRuns.Reachable FitsStep r ∧ r.trace.length = 10 ∧
    ∀ e ∈ r.trace, FitFrames (textLibrary (.writeChat ⟨"hi"⟩)) e.calls := by
  have hstart : serverRuns.Reachable FitsStep
      { server := ServerState.begin Database.empty, start := Database.empty } :=
    .start ⟨Database.empty, rfl⟩
  obtain ⟨r, hr, hlength⟩ := hstart.exists_of_exec
    [.connect, .handle 1 (.createUserRequest ⟨1, "ann", "pw"⟩),
      .handle 1 (.authenticateUserRequest ⟨2, "ann", "pw"⟩),
      .handle 1 (.createChannelRequest ⟨3, "general"⟩),
      .handle 1 (.joinChatChannelRequest ⟨4, 1⟩), .handle 1 (.writeChat ⟨"hi"⟩),
      .handle 1 (.getChatsRequest ⟨5, 1, 50⟩), .handle 1 (.getUsersRequest ⟨6, [1, 2]⟩),
      .handle 1 (.getChatChannelsRequest ⟨7⟩), .disconnect 1]
    (fun r => r.trace.length = 10) (by decide +kernel)
  exact ⟨r, hr, hlength, (emitted_frames_fit (textLibrary_dumpsText _)).2 r hr⟩

end ServerRun

end ChatCore.Server
