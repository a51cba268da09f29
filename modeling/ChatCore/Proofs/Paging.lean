import ChatCore.Proofs.History

/-!
# `ChatCore.Proofs.Paging`: requests with any bound

A request for messages before a bound that is not above the oldest cached id reads a page of the
database and caches it. The result is right, because the messages below the log are in the
database since `Prewarm`. But the page may end below the log, and then the cached ids have a hole
that later requests do not see. A page that is shorter than its limit also sets `cache_complete_`,
although the messages of the hole are not cached.

`Lifetime.NoGap` says that no message lies between the page and the log. With it the log holds a
suffix of the channel's messages (`HoldsSuffix`) along every run, and every request is answered
with what the uncached query would return.
-/

set_option autoImplicit false

namespace ChatCore.Server

open ChatCore.Api
open ChatCore.Lib

/-! ### One request -/

/-- No message is below a bound that all reach. -/
theorem filter_id_lt_eq_nil {ms : List ChatMessage} {bound : Nat} (h : ∀ m ∈ ms, bound ≤ m.id) :
    ms.filter (·.id < bound) = [] := by
  refine List.filter_eq_nil_iff.mpr fun m hm => ?_
  simpa using h m hm

/-- `lower_bound` on ascending ids: what stands before the bound is what is below it. -/
theorem takeWhile_map_id {ms : List ChatMessage} (h : (ms.map ChatMessage.id).SortedLT)
    (bound : Nat) :
    (ms.map ChatMessage.id).takeWhile (· < bound)
      = (ms.filter (·.id < bound)).map ChatMessage.id := by
  induction ms with
  | nil => rfl
  | cons m ms ih =>
    obtain ⟨hlt, hrest⟩ := List.pairwise_cons.mp h.pairwise
    by_cases hm : m.id < bound
    · simp [hm, ih hrest.sortedLT]
    · -- All later ids are above the bound too.
      have hnone : ms.filter (·.id < bound) = [] := by
        refine filter_id_lt_eq_nil fun x hx => ?_
        have hx' := hlt x.id (List.mem_map_of_mem hx)
        omega
      simp [hm, hnone]

namespace MessageStore

variable {s : MessageStore} {db : Database} {ch bound limit : Nat} {log : ChannelMessageLog}
  {older newer : List ChatMessage}

/-- The pages of the database that end at or below a log. -/
def PagesUpTo (db : Database) (ch : Nat) (older newer : List ChatMessage) : Prop :=
  ∀ b k, (∀ m ∈ newer, b ≤ m.id) →
    db.getChatMessagesBefore ch b k = (older.filter (·.id < b)).rtake k

/-- A page at or below the log is returned as it is. When it reaches the log, the log still holds
a suffix. -/
theorem getMessagesBefore_below (bound : Nat) (hlog : s.messageLogs ch = some log)
    (h : HoldsSuffix s log older newer) (hasc : ((older ++ newer).map ChatMessage.id).SortedLT)
    (hpages : PagesUpTo db ch older newer) (hlimit : limit ≠ 0)
    (hbound : ∀ m ∈ newer, bound ≤ m.id) :
    (s.getMessagesBefore db ch bound limit).2 = ((older ++ newer).filter (·.id < bound)).rtake limit ∧
    ((∀ m ∈ older, newer ≠ [] → m.id < bound) → ∃ log' older' newer',
      (s.getMessagesBefore db ch bound limit).1.messageLogs ch = some log' ∧
      older ++ newer = older' ++ newer' ∧ older'.Sublist older ∧
      HoldsSuffix (s.getMessagesBefore db ch bound limit).1 log' older' newer') := by
  have hpage := hpages bound limit hbound
  have hquery : s.getMessagesBefore db ch bound limit
      = ((s.queryAndCacheMessages db ch bound limit).1,
        (s.queryAndCacheMessages db ch bound limit).2.filterMap
          (s.queryAndCacheMessages db ch bound limit).1.getMessage) := by
    have hhead : log.channelMessageIds.head?.all (bound ≤ ·) = true := by
      rw [h.ids]
      cases newer with
      | nil => rfl
      | cons m ms => simpa using hbound m List.mem_cons_self
    unfold getMessagesBefore getChatMessagesBefore
    rw [hlog]
    simp only [if_neg hlimit, hhead, if_true]
  rw [hquery, List.filter_append, filter_id_lt_eq_nil hbound, List.append_nil, ← hpage]
  refine ⟨?_, fun hnogap => ?_⟩
  · -- The page has just been cached, so each of its ids is found.
    show ((db.getChatMessagesBefore ch bound limit).map ChatMessage.id).filterMap _ = _
    exact filterMap_getMessage fun m hm => messageCache_queryAndCacheMessages_of_mem hm
  · have hall : older.filter (·.id < bound) = older := by
      cases newer with
      | nil =>
        rw [h.nonempty rfl]
        rfl
      | cons m ms =>
        refine List.filter_eq_self.mpr fun x hx => ?_
        exact decide_eq_true (hnogap x hx (List.cons_ne_nil _ _))
    rw [hall] at hpage
    obtain ⟨log', hlog', hsuffix⟩ := holdsSuffix_page hlog h hasc hpage
    refine ⟨log', _, _, hlog', ?_, List.take_sublist _ _, hsuffix⟩
    rw [← List.append_assoc, take_append_rtake]

/-- A request with its bound above the oldest cached id. The cached ids below the bound come
first, and a page that ends at the oldest of them gives the rest. -/
theorem getMessagesBefore_cached {first : ChatMessage} {rest : List ChatMessage}
    (hlog : s.messageLogs ch = some log)
    (hids : log.channelMessageIds = (first :: rest).map ChatMessage.id)
    (hasc : ((first :: rest).map ChatMessage.id).SortedLT) (hlimit : limit ≠ 0)
    (hbound : first.id < bound) :
    s.getMessagesBefore db ch bound limit
      = let cached := (first :: rest).filter (·.id < bound)
        if log.cacheComplete = true ∨ limit ≤ cached.length then
          (s, ((cached.rtake limit).map ChatMessage.id).filterMap s.getMessage)
        else
          let q := s.queryAndCacheMessages db ch first.id (limit - cached.length)
          (q.1, (q.2 ++ cached.map ChatMessage.id).filterMap q.1.getMessage) := by
  have htake := takeWhile_map_id hasc bound
  unfold getMessagesBefore getChatMessagesBefore
  rw [hlog]
  simp only [if_neg hlimit, hids, htake]
  set cached := (first :: rest).filter (·.id < bound) with hcached
  obtain ⟨more, hmore⟩ : ∃ more, cached = first :: more := by
    rw [hcached, List.filter_cons_of_pos (by simpa using hbound)]
    exact ⟨_, rfl⟩
  have hhead : ¬ bound ≤ first.id := Nat.not_le_of_lt hbound
  have hne : cached.length ≠ 0 := by
    rw [hmore]
    exact Nat.succ_ne_zero _
  simp only [List.map_cons, List.head?_cons, Option.all_some, decide_eq_true_eq, if_neg hhead,
    List.length_map, if_neg hne]
  by_cases hle : limit ≤ cached.length
  · have hmin : min cached.length limit = limit := by omega
    simp only [hmin, Nat.le_refl, decide_true, Bool.or_true, if_true, hle, or_true, map_rtake]
  · have hmin : min cached.length limit = cached.length := by omega
    have hall : (cached.map ChatMessage.id).rtake cached.length = cached.map ChatMessage.id :=
      rtake_of_length_le (by rw [List.length_map])
    have hrtake : cached.rtake limit = cached := rtake_of_length_le (by omega)
    simp only [hmin, hall, hle, decide_false, Bool.or_false, or_false, hrtake]
    rw [hmore]
    split <;> rfl

/-- A request above the first cached message is answered as the history has it. -/
theorem getMessagesBefore_within {first : ChatMessage} {rest : List ChatMessage}
    (hlog : s.messageLogs ch = some log) (h : HoldsSuffix s log older (first :: rest))
    (hasc : ((older ++ first :: rest).map ChatMessage.id).SortedLT)
    (hpages : PagesUpTo db ch older (first :: rest)) (hlimit : limit ≠ 0)
    (hbound : first.id < bound) :
    (s.getMessagesBefore db ch bound limit).2
      = ((older ++ first :: rest).filter (·.id < bound)).rtake limit ∧
    ∃ log' older' newer',
      (s.getMessagesBefore db ch bound limit).1.messageLogs ch = some log' ∧
      older ++ first :: rest = older' ++ newer' ∧ older'.Sublist older ∧
      HoldsSuffix (s.getMessagesBefore db ch bound limit).1 log' older' newer' := by
  have hsplit := hasc
  rw [List.map_append] at hsplit
  obtain ⟨-, hnewer, hlt⟩ := List.pairwise_append.mp hsplit.pairwise
  have holder : ∀ m ∈ older, m.id < first.id := fun m hm =>
    hlt m.id (List.mem_map_of_mem hm) first.id List.mem_cons_self
  rw [getMessagesBefore_cached hlog h.ids hnewer.sortedLT hlimit hbound]
  set cached := (first :: rest).filter (·.id < bound) with hcached
  have hfilter : (older ++ first :: rest).filter (·.id < bound) = older ++ cached := by
    rw [List.filter_append, List.filter_eq_self.mpr]
    intro m hm
    exact decide_eq_true (Nat.lt_trans (holder m hm) hbound)
  have hmem : ∀ m ∈ cached, m ∈ first :: rest := fun m hm => (List.mem_filter.mp hm).1
  rw [hfilter]
  by_cases henough : log.cacheComplete = true ∨ limit ≤ cached.length
  · -- The cache answers the request.
    simp only [if_pos henough]
    refine ⟨?_, log, older, _, hlog, rfl, List.Sublist.refl _, h⟩
    rw [filterMap_getMessage fun m hm => h.cached m (hmem m (mem_of_mem_rtake hm))]
    rcases henough with hcomplete | hle
    · rw [h.complete hcomplete, List.nil_append]
    · rw [rtake_append_of_ge hle]
  · -- A page that ends at the oldest cached id is put in front of the cached ids.
    simp only [if_neg henough]
    obtain ⟨-, hmore⟩ := not_or.mp henough
    have hpage : db.getChatMessagesBefore ch first.id (limit - cached.length)
        = older.rtake (limit - cached.length) := by
      rw [hpages, List.filter_eq_self.mpr fun m hm => decide_eq_true (holder m hm)]
      intro m hm
      rcases List.mem_cons.mp hm with rfl | hm
      · exact Nat.le_refl _
      · exact Nat.le_of_lt ((List.pairwise_cons.mp hnewer).1 m.id (List.mem_map_of_mem hm))
    obtain ⟨log', hlog', hsuffix⟩ := holdsSuffix_page hlog h hasc hpage
    refine ⟨?_, log', _, _, hlog', ?_, List.take_sublist _ _, hsuffix⟩
    · show ((db.getChatMessagesBefore ch first.id (limit - cached.length)).map ChatMessage.id
        ++ cached.map ChatMessage.id).filterMap _ = _
      rw [hpage, ← List.map_append, filterMap_getMessage, rtake_append_of_le (by omega)]
      intro m hm
      refine hsuffix.cached m ?_
      rcases List.mem_append.mp hm with hold | hnew
      · exact List.mem_append_left _ hold
      · exact List.mem_append_right _ (hmem m hnew)
    · rw [← List.append_assoc, take_append_rtake]

/-- Any request. The result is that of the uncached query, and without a gap the log holds a
suffix again. -/
theorem getMessagesBefore_page (bound limit : Nat) (hlog : s.messageLogs ch = some log)
    (h : HoldsSuffix s log older newer) (hasc : ((older ++ newer).map ChatMessage.id).SortedLT)
    (hpages : PagesUpTo db ch older newer) :
    (s.getMessagesBefore db ch bound limit).2 = ((older ++ newer).filter (·.id < bound)).rtake limit ∧
    ((limit = 0 ∨ ∀ first ∈ newer.head?, ∀ m ∈ older, bound ≤ m.id → first.id ≤ m.id) →
      ∃ log' older' newer',
        (s.getMessagesBefore db ch bound limit).1.messageLogs ch = some log' ∧
        older ++ newer = older' ++ newer' ∧ older'.Sublist older ∧
        HoldsSuffix (s.getMessagesBefore db ch bound limit).1 log' older' newer') := by
  by_cases hlimit : limit = 0
  · -- Nothing is returned and nothing is read.
    have hzero : s.getMessagesBefore db ch bound limit = (s, []) := by
      unfold getMessagesBefore getChatMessagesBefore
      rw [hlog, hlimit]
      rfl
    rw [hzero, hlimit]
    exact ⟨by simp [List.rtake], fun _ => ⟨log, older, newer, hlog, rfl, List.Sublist.refl _, h⟩⟩
  · cases newer with
    | nil =>
      obtain ⟨hresult, hsuffix⟩ := getMessagesBefore_below bound hlog h hasc hpages hlimit
        (fun m hm => absurd hm List.not_mem_nil)
      exact ⟨hresult, fun _ => hsuffix fun m _ hne => absurd rfl hne⟩
    | cons first rest =>
      by_cases hbound : first.id < bound
      · obtain ⟨hresult, hsuffix⟩ := getMessagesBefore_within hlog h hasc hpages hlimit hbound
        exact ⟨hresult, fun _ => hsuffix⟩
      · -- The whole log is at or above the bound. Without a gap the page reaches up to it.
        have hsplit := hasc
        rw [List.map_append] at hsplit
        obtain ⟨-, hnewer, hlt⟩ := List.pairwise_append.mp hsplit.pairwise
        obtain ⟨hresult, hsuffix⟩ := getMessagesBefore_below bound hlog h hasc hpages
          hlimit (fun m hm => by
            rcases List.mem_cons.mp hm with rfl | hm
            · omega
            · have hm' := (List.pairwise_cons.mp hnewer).1 m.id (List.mem_map_of_mem hm)
              omega)
        refine ⟨hresult, fun hnogap => hsuffix fun m hm _ => ?_⟩
        have hm' := hlt m.id (List.mem_map_of_mem hm) first.id List.mem_cons_self
        have hle := hnogap.resolve_left hlimit first rfl m hm
        omega

end MessageStore

namespace Lifetime

variable {s s' : Lifetime} {o : LifetimeOp}

/-! ### The invariant -/

/-- Every log holds a suffix of its channel's messages, and what it lacks is in the database since
`Prewarm`. So is every message of a channel without a log. -/
structure PageInv (s : Lifetime) : Prop where
  persist : s.PersistInv
  unlogged : ∀ ch, s.store.messageLogs ch = none →
    ∀ m ∈ s.channelMessages ch, m ∈ s.start.messages.rows
  logged : ∀ ch log, s.store.messageLogs ch = some log →
    ∃ older newer, s.channelMessages ch = older ++ newer ∧
      (∀ m ∈ older, m ∈ s.start.messages.rows) ∧ s.store.HoldsSuffix log older newer

/-- The messages of a channel have ascending ids. -/
theorem PersistInv.ascending_channel (h : PersistInv s) (ch : Nat) :
    ((s.channelMessages ch).map ChatMessage.id).SortedLT :=
  (h.ascending.pairwise.sublist (List.filter_sublist.map _)).sortedLT

/-- The id of every message is below the next one. -/
theorem PersistInv.id_lt_nextId (h : PersistInv s) {ch : Nat} {m : ChatMessage}
    (hm : m ∈ s.channelMessages ch) : m.id < s.store.nextId :=
  h.below m (List.mem_filter.mp hm).1

/-- The pages that end at or below a log return what the log lacks. -/
theorem PersistInv.pagesUpTo (h : PersistInv s) {ch : Nat} {older newer : List ChatMessage}
    (hsplit : s.channelMessages ch = older ++ newer)
    (hold : ∀ m ∈ older, m ∈ s.start.messages.rows) :
    MessageStore.PagesUpTo s.db ch older newer := by
  intro b k hb
  rw [Database.getChatMessagesBefore_eq, h.rows_below, hsplit, List.filter_append,
    filter_id_lt_eq_nil hb, List.append_nil]
  intro m hm hlt
  rw [hsplit] at hm
  rcases List.mem_append.mp hm with hm | hm
  · exact hold m hm
  · have hm' := hb m hm
    omega

/-- A request in a state with the invariant. -/
theorem PageInv.request (h : PageInv s) {ch : Nat} {log : ChannelMessageLog}
    (hlog : s.store.messageLogs ch = some log) (bound limit : Nat) :
    (s.store.getMessagesBefore s.db ch bound limit).2
      = ((s.channelMessages ch).filter (·.id < bound)).rtake limit ∧
    (NoGap s (.getMessagesBefore ch bound limit) → ∃ log' older newer,
      (s.store.getMessagesBefore s.db ch bound limit).1.messageLogs ch = some log' ∧
      s.channelMessages ch = older ++ newer ∧ (∀ m ∈ older, m ∈ s.start.messages.rows) ∧
      (s.store.getMessagesBefore s.db ch bound limit).1.HoldsSuffix log' older newer) := by
  obtain ⟨older, newer, hsplit, hold, hsuffix⟩ := h.logged ch log hlog
  have hasc := h.persist.ascending_channel ch
  rw [hsplit] at hasc ⊢
  obtain ⟨hresult, hkeep⟩ := MessageStore.getMessagesBefore_page bound limit
    hlog hsuffix hasc (h.persist.pagesUpTo hsplit hold)
  refine ⟨hresult, fun hnogap => ?_⟩
  obtain ⟨log', older', newer', hlog', heq, hsub, hsuffix'⟩ := hkeep <| by
    refine hnogap.imp_right fun hall first hfirst m hm hle => ?_
    refine hall log hlog first.id ?_ m (hsplit ▸ List.mem_append_left _ hm) hle
    rw [hsuffix.ids, List.head?_map, hfirst]
    rfl
  exact ⟨log', older', newer', hlog', heq, fun m hm => hold m (hsub.subset hm), hsuffix'⟩

/-! ### Each step keeps the invariant -/

/-- A lifetime begins with logs that hold the last page of each channel. -/
theorem pageInv_begin (db : Database) (hfit : (begin db).IdsFit) : PageInv (begin db) := by
  have hchannel : ∀ ch, (begin db).channelMessages ch
      = db.messages.rows.filter (·.channelId = ch) := by
    intro ch
    show (db.messages.rows ++ []).filter _ = _
    rw [List.append_nil]
  have hmax : ∀ m ∈ db.messages.rows, m.id < maxMessageId := by
    intro m hm
    have hlt := Database.id_lt_firstId hm
    have hfirst : db.firstId ≤ db.messages.maxKey.getD 0 + 1 := by
      unfold Database.firstId
      cases db.messages.maxKey <;> simp
    have hids : db.messages.maxKey.getD 0 + 0 < uint32Size - 1 := hfit
    show m.id < uint32Size - 1
    omega
  refine ⟨persistInv_begin db hfit, fun ch _ m hm => ?_, fun ch log hlog => ?_⟩
  · rw [hchannel] at hm
    exact (List.mem_filter.mp hm).1
  · obtain ⟨older, newer, hsplit, hsuffix⟩ := Lifetimes.holdsSuffix_prewarm hmax hlog
    refine ⟨older, newer, (hchannel ch).trans hsplit, fun m hm => ?_, hsuffix⟩
    have hown : m ∈ db.messages.rows.filter (·.channelId = ch) :=
      hsplit ▸ List.mem_append_left _ hm
    exact (List.mem_filter.mp hown).1

/-- A created message extends the messages of its channel. -/
theorem channelMessages_of_append {m : ChatMessage} (hstart : s'.start = s.start)
    (hcreated : s'.created = s.created ++ [m]) (ch : Nat) :
    s'.channelMessages ch = if ch = m.channelId then s.channelMessages ch ++ [m]
      else s.channelMessages ch := by
  unfold channelMessages
  rw [hstart, hcreated, ← List.append_assoc, List.filter_append]
  by_cases hch : ch = m.channelId
  · simp [hch]
  · simp [hch, Ne.symm hch]

/-- The messages that the log of a channel holds and lacks. A missing log is created empty, and
then it lacks all of them. -/
theorem PageInv.suffix (h : PageInv s) (ch : Nat) : ∃ older newer,
    s.channelMessages ch = older ++ newer ∧ (∀ m ∈ older, m ∈ s.start.messages.rows) ∧
    ((s.store.messageLogs ch).getD {}).channelMessageIds = newer.map ChatMessage.id ∧
    (∀ m ∈ newer, s.store.messageCache m.id = some m) ∧
    (((s.store.messageLogs ch).getD {}).cacheComplete = true → older = []) := by
  cases hlog : s.store.messageLogs ch with
  | none => exact ⟨_, [], (List.append_nil _).symm, h.unlogged ch hlog, rfl, by simp, by simp⟩
  | some log =>
    obtain ⟨older, newer, hsplit, hold, hsuffix⟩ := h.logged ch log hlog
    exact ⟨older, newer, hsplit, hold, hsuffix.ids, hsuffix.cached, hsuffix.complete⟩

/-- `CreateMessage` keeps the invariant. -/
theorem pageInv_createMessage (h : PageInv s) {ch user : Nat} {content : String}
    (hs : s.step (.createMessage ch user content) = some s') (hpersist : s'.PersistInv) :
    PageInv s' := by
  cases hs
  have hown := @channelMessages_of_append s { s with
    store := s.store.createMessage ch user content
    created := s.created ++ [s.store.nextMessage ch user content] } _ rfl rfl
  refine ⟨hpersist, fun ch' hlog m hm => ?_, fun ch' log hlog => ?_⟩
  · by_cases hne : ch' = ch
    · rw [hne, MessageStore.messageLogs_createMessage_self] at hlog
      cases hlog
    · rw [MessageStore.messageLogs_createMessage_of_ne _ user content hne] at hlog
      rw [hown, if_neg (show ¬ch' = (s.store.nextMessage ch user content).channelId from hne)] at hm
      exact h.unlogged ch' hlog m hm
  · rw [hown]
    by_cases hne : ch' = ch
    · -- The new message goes to the end of what the log holds.
      subst hne
      rw [if_pos (show ch' = (s.store.nextMessage ch' user content).channelId from rfl)]
      obtain ⟨older, newer, hsplit, hold, hids, hcached, hcomplete⟩ := h.suffix ch'
      have hlt : ∀ m ∈ newer, m.id < s.store.nextId := fun m hm =>
        h.persist.id_lt_nextId (hsplit ▸ List.mem_append_right _ hm)
      obtain ⟨log', hlog', hsuffix⟩ :=
        MessageStore.holdsSuffix_createMessage hids hcached hcomplete hlt user content
      obtain rfl : log' = log := Option.some.inj (hlog'.symm.trans hlog)
      exact ⟨older, _, by rw [hsplit, List.append_assoc], hold, hsuffix⟩
    · rw [if_neg (show ¬ch' = (s.store.nextMessage ch user content).channelId from hne)]
      rw [MessageStore.messageLogs_createMessage_of_ne _ user content hne] at hlog
      obtain ⟨older, newer, hsplit, hold, hsuffix⟩ := h.logged ch' log hlog
      have hlt : ∀ m ∈ newer, m.id < s.store.nextId := fun m hm =>
        h.persist.id_lt_nextId (hsplit ▸ List.mem_append_right _ hm)
      exact ⟨older, newer, hsplit, hold,
        MessageStore.holdsSuffix_createMessage_of_ne hsuffix hlt ch user content⟩

/-- A row is a message that was there at the start or was created since. -/
theorem PersistInv.mem_of_mem_rows (h : PersistInv s) {m : ChatMessage}
    (hm : m ∈ s.db.messages.rows) : m ∈ s.start.messages.rows ++ s.created := by
  obtain ⟨written, hrows, -, hcreated⟩ := h.split
  rw [hrows, List.mem_append] at hm
  rw [List.mem_append, hcreated, List.append_assoc]
  exact hm.imp_right (List.mem_append_left _)

/-- A request that leaves no gap keeps the invariant. -/
theorem pageInv_getMessagesBefore (h : PageInv s) {ch bound limit : Nat}
    (hok : NoGap s (.getMessagesBefore ch bound limit))
    (hs : s.step (.getMessagesBefore ch bound limit) = some s') (hpersist : s'.PersistInv) :
    PageInv s' := by
  cases hs
  refine ⟨hpersist, fun ch' hlog m hm => ?_, fun ch' log hlog => ?_⟩
  · refine h.unlogged ch' ?_ m hm
    by_cases hne : ch' = ch
    · subst hne
      exact MessageStore.messageLogs_of_getMessagesBefore_eq_none hlog
    · exact (MessageStore.messageLogs_getMessagesBefore_of_ne hne _ _ _).symm.trans hlog
  · by_cases hne : ch' = ch
    · subst hne
      cases hlog0 : s.store.messageLogs ch' with
      | none =>
        have hnone : s.store.getMessagesBefore s.db ch' bound limit = (s.store, []) := by
          unfold MessageStore.getMessagesBefore
          rw [hlog0]
        have hlog1 : (s.store.getMessagesBefore s.db ch' bound limit).1.messageLogs ch' = some log :=
          hlog
        rw [hnone, hlog0] at hlog1
        cases hlog1
      | some log0 =>
        obtain ⟨log', older, newer, hlog', hsplit, hold, hsuffix⟩ := (h.request hlog0 bound limit).2 hok
        obtain rfl : log' = log := Option.some.inj (hlog'.symm.trans hlog)
        exact ⟨older, newer, hsplit, hold, hsuffix⟩
    · have hlog0 : s.store.messageLogs ch' = some log :=
        (MessageStore.messageLogs_getMessagesBefore_of_ne hne _ _ _).symm.trans hlog
      obtain ⟨older, newer, hsplit, hold, hsuffix⟩ := h.logged ch' log hlog0
      refine ⟨older, newer, hsplit, hold, hsuffix.ids, fun m hm => ?_, hsuffix.nonempty,
        hsuffix.complete⟩
      -- The page is from another channel, so it has none of the ids of this log.
      refine (MessageStore.messageCache_getMessagesBefore_of_ne ?_ _ _).trans (hsuffix.cached m hm)
      intro x hrow hch hid
      have hown : m ∈ s.channelMessages ch' := hsplit ▸ List.mem_append_right _ hm
      obtain ⟨hmem, hmch⟩ := List.mem_filter.mp hown
      have heq : x = m := List.inj_on_of_nodup_map h.persist.ascending.nodup
        (h.persist.mem_of_mem_rows hrow) hmem hid
      rw [← heq, hch] at hmch
      exact hne (of_decide_eq_true hmch).symm

/-- A step keeps the invariant. -/
theorem pageInv_step (h : PageInv s) (hok : NoGap s o) (hs : s.step o = some s')
    (hfit : s'.IdsFit) : PageInv s' := by
  have hpersist := persistInv_step h.persist hs hfit
  cases o with
  | createChannel name =>
    cases hs
    exact ⟨hpersist, h.unlogged, h.logged⟩
  | createMessage ch user content => exact pageInv_createMessage h hs hpersist
  | getMessagesBefore ch bound limit => exact pageInv_getMessagesBefore h hok hs hpersist
  | persist =>
    obtain ⟨⟨db, store, p⟩, hstep, rfl⟩ := Option.map_eq_some_iff.mp hs
    obtain ⟨hlogs, hcache, -, -, -⟩ := persistStep_frame hstep
    refine ⟨hpersist, fun ch hlog => h.unlogged ch (hlogs ▸ hlog), fun ch log hlog => ?_⟩
    obtain ⟨older, newer, hsplit, hold, hsuffix⟩ := h.logged ch log (hlogs ▸ hlog)
    refine ⟨older, newer, hsplit, hold, hsuffix.ids, ?_, hsuffix.nonempty, hsuffix.complete⟩
    show ∀ m ∈ newer, store.messageCache m.id = some m
    rw [hcache]
    exact hsuffix.cached

/-- The invariant holds in every such run. -/
theorem pageInv_reachable (h : lifetime.Reachable NoGap s) : s.IdsFit → PageInv s := by
  refine h.invariant (I := fun s => s.IdsFit → PageInv s) ?_ ?_
  · rintro s ⟨db, rfl⟩ hfit
    exact pageInv_begin db hfit
  · intro s o s' ih hok hs hfit
    exact pageInv_step (ih (idsFit_of_step hs hfit)) hok hs hfit

/-- In every run whose requests leave no gap, a request with any bound and limit for a channel
that the store knows returns the last messages of the channel below the bound, in ascending order
of the id. -/
theorem pages_without_gaps (h : lifetime.Reachable NoGap s) (hfit : s.IdsFit) {ch : Nat}
    (hknown : s.store.messageLogs ch ≠ none) (bound limit : Nat) :
    (s.store.getMessagesBefore s.db ch bound limit).2
      = ((s.channelMessages ch).filter (·.id < bound)).rtake limit := by
  obtain ⟨log, hlog⟩ := Option.ne_none_iff_exists'.mp hknown
  exact ((pageInv_reachable h hfit).request hlog bound limit).1

/-- A page in the middle of the cache, a message and the latest messages. -/
theorem pages_without_gaps_middle :
    ∃ s, lifetime.Reachable NoGap s ∧ s.IdsFit ∧ s.store.messageLogs 1 ≠ none ∧
      (s.channelMessages 1).length = 3 ∧
      (s.store.getMessagesBefore s.db 1 2 5).2 = ((s.channelMessages 1).filter (·.id < 2)).rtake 5 := by
  have hstart : lifetime.Reachable NoGap (begin Database.empty) := .start ⟨_, rfl⟩
  obtain ⟨s, hs, hfit, hknown, hlength⟩ := hstart.exists_of_exec
    [.createChannel "general", .createMessage 1 1 "a", .createMessage 1 1 "b",
      .getMessagesBefore 1 1 5, .persist, .createMessage 1 1 "c"]
    (fun s => s.IdsFit ∧ (s.store.messageLogs 1).isSome = true ∧ (s.channelMessages 1).length = 3)
    (by decide)
  have hknown' : s.store.messageLogs 1 ≠ none := Option.isSome_iff_ne_none.mp hknown
  exact ⟨s, hs, hfit, hknown', hlength, pages_without_gaps hs hfit hknown' 2 5⟩

/-- One channel with 101 messages, one more than `Prewarm` reads. -/
def longChannel : Database where
  channels := ⟨[⟨1, "general"⟩], by simp [List.sortedLT_iff_pairwise]⟩
  channelNames := by decide
  users := ⟨[⟨1, "ann", "pw"⟩], by simp [List.sortedLT_iff_pairwise]⟩
  userNames := by decide
  messages := ⟨(List.range 101).map fun id => ⟨id, 1, 1, "hi"⟩, by
    rw [List.map_map]
    exact (List.map_id _).symm ▸ List.pairwise_lt_range.sortedLT⟩
  lastInsertRowid := 100

/-- A page below all messages is empty. It sets `cache_complete_`, and the oldest message, which
is not cached, is missing from the next request. -/
theorem page_incomplete :
    ∃ s, lifetime.Reachable Lts.anyStep s ∧ s.IdsFit ∧ s.store.messageLogs 1 ≠ none ∧
      (s.store.getMessagesBefore s.db 1 maxMessageId 101).2
        ≠ ((s.channelMessages 1).filter (·.id < maxMessageId)).rtake 101 := by
  have hstart : lifetime.Reachable Lts.anyStep (begin longChannel) := .start ⟨_, rfl⟩
  obtain ⟨s, hs, hfit, hknown, hshort, hall⟩ := hstart.exists_of_exec [.getMessagesBefore 1 0 5]
    (fun s => s.IdsFit ∧ (s.store.messageLogs 1).isSome = true ∧
      (s.store.getMessagesBefore s.db 1 maxMessageId 101).2.length = 100 ∧
      (((s.channelMessages 1).filter (·.id < maxMessageId)).rtake 101).length = 101)
    (by decide +kernel)
  refine ⟨s, hs, hfit, Option.isSome_iff_ne_none.mp hknown, fun heq => ?_⟩
  have hlength := congrArg List.length heq
  omega

end Lifetime

end ChatCore.Server
