import ChatCore.Server.ChannelStore
import ChatCore.Server.UserStore

/-!
# `ChatCore.Proofs.Stores`: the caches in front of the database

The user store and the channel store answer from their caches and fill them from the
database. `UserStore.CachedFrom` and `ChannelStore.CachedFrom` say that whatever is cached is
a row of the database. Under this condition a lookup returns what the adapter would return
(`getUser_spec`, `getChannel_spec`), and no insertion into a cache meets a conflict.

Lookups never touch the sessions and the channel of a connection.
-/

set_option autoImplicit false

namespace ChatCore.Server

open ChatCore.Api
open ChatCore.Lib

namespace Database

/-- `GetUser(name)` finds the row with the name. -/
theorem getUserByName_eq_some {db : Database} {name : String} {u : User} :
    db.getUserByName name = some u ↔ u.name = name ∧ ∃ row ∈ db.users.rows, row.toUser = u := by
  have hfind : ∀ row, db.users.find (·.name = name) = some row
      ↔ row ∈ db.users.rows ∧ row.name = name := by
    intro row
    rw [Table.find_eq_some, decide_eq_true_eq]
    intro x hx y hy hxname hyname
    exact user_eq_of_name hx hy
      ((of_decide_eq_true hxname).trans (of_decide_eq_true hyname).symm)
  unfold getUserByName
  rw [Option.map_eq_some_iff]
  constructor
  · rintro ⟨row, hrow, rfl⟩
    obtain ⟨hmem, rfl⟩ := (hfind row).mp hrow
    exact ⟨rfl, row, hmem, rfl⟩
  · rintro ⟨rfl, row, hmem, rfl⟩
    exact ⟨row, (hfind row).mpr ⟨hmem, rfl⟩, rfl⟩

/-- `GetChatChannel(id)` finds the row with the id. -/
theorem getChatChannel_eq_some {db : Database} {id : Nat} {c : ChatChannel} :
    db.getChatChannel id = some c ↔ c.id = id ∧ c ∈ db.channels.rows := by
  have hfind : ∀ row, db.channels.find (·.id = id) = some row
      ↔ row ∈ db.channels.rows ∧ row.id = id := by
    intro row
    rw [Table.find_eq_some, decide_eq_true_eq]
    intro x hx y hy hxid hyid
    exact Table.eq_of_key_eq hx hy
      ((of_decide_eq_true hxid).trans (of_decide_eq_true hyid).symm)
  unfold getChatChannel
  rw [Option.map_eq_some_iff]
  constructor
  · rintro ⟨row, hrow, rfl⟩
    obtain ⟨hmem, rfl⟩ := (hfind row).mp hrow
    exact ⟨rfl, hmem⟩
  · rintro ⟨rfl, hmem⟩
    exact ⟨c, (hfind c).mpr ⟨hmem, rfl⟩, rfl⟩

/-- `GetChatChannel(name)` finds the row with the name. -/
theorem getChatChannelByName_eq_some {db : Database} {name : String} {c : ChatChannel} :
    db.getChatChannelByName name = some c ↔ c.name = name ∧ c ∈ db.channels.rows := by
  have hfind : ∀ row, db.channels.find (·.name = name) = some row
      ↔ row ∈ db.channels.rows ∧ row.name = name := by
    intro row
    rw [Table.find_eq_some, decide_eq_true_eq]
    intro x hx y hy hxname hyname
    exact channel_eq_of_name hx hy
      ((of_decide_eq_true hxname).trans (of_decide_eq_true hyname).symm)
  unfold getChatChannelByName
  rw [Option.map_eq_some_iff]
  constructor
  · rintro ⟨row, hrow, rfl⟩
    obtain ⟨hmem, rfl⟩ := (hfind row).mp hrow
    exact ⟨rfl, hmem⟩
  · rintro ⟨rfl, hmem⟩
    exact ⟨c, (hfind c).mpr ⟨hmem, rfl⟩, rfl⟩

end Database

/-! ### Users -/

namespace UserStore

/-- Every cached user is a row of the database. -/
def CachedFrom (s : UserStore) (db : Database) : Prop :=
  ∀ id name, (id, name) ∈ s.users → ∃ row ∈ db.users.rows, row.toUser = ⟨id, name⟩

/-- A cache stays valid while the table of users grows. -/
theorem CachedFrom.mono {s : UserStore} {db db' : Database} (h : s.CachedFrom db)
    (hsub : db.users.rows ⊆ db'.users.rows) : s.CachedFrom db' := by
  intro id name hmem
  obtain ⟨row, hrow, heq⟩ := h id name hmem
  exact ⟨row, hsub hrow, heq⟩

/-- Caching a row returns the user of the row. Neither of its keys belongs to another
cached user. -/
theorem cacheUser_spec {s : UserStore} {db : Database} (h : s.CachedFrom db) {row : UserRow}
    (hrow : row ∈ db.users.rows) :
    (s.cacheUser row.toUser).2 = row.toUser ∧
      (s.cacheUser row.toUser).1.userSessions = s.userSessions ∧
      (s.cacheUser row.toUser).1.CachedFrom db := by
  unfold cacheUser
  cases hid : s.users.findLeft row.toUser.id with
  | some name =>
    obtain ⟨row', hrow', heq⟩ := h _ _ (Bimap.findLeft_eq_some.mp hid)
    have hkey : row'.id = row.id := congrArg User.id heq
    rw [Table.eq_of_key_eq hrow' hrow hkey] at heq
    exact ⟨heq.symm, rfl, h⟩
  | none =>
    cases hname : s.users.findRight row.toUser.name with
    | some id =>
      obtain ⟨row', hrow', heq⟩ := h _ _ (Bimap.findRight_eq_some.mp hname)
      have hkey : row'.name = row.name := congrArg User.name heq
      rw [Database.user_eq_of_name hrow' hrow hkey] at heq
      exact ⟨heq.symm, rfl, h⟩
    | none =>
      refine ⟨rfl, rfl, ?_⟩
      intro id name hmem
      rcases (Bimap.mem_insert (Bimap.findLeft_eq_none.mp hid)
        (Bimap.findRight_eq_none.mp hname)).mp hmem with hold | ⟨rfl, rfl⟩
      · exact h id name hold
      · exact ⟨row, hrow, rfl⟩

/-- Caching a user keeps the cached ones and adds no other. -/
theorem mem_users_cacheUser {s : UserStore} {user : User} {id : Nat} {name : String} :
    ((id, name) ∈ s.users → (id, name) ∈ (s.cacheUser user).1.users) ∧
      ((id, name) ∈ (s.cacheUser user).1.users → (id, name) ∈ s.users ∨ ⟨id, name⟩ = user) := by
  unfold cacheUser
  cases hid : s.users.findLeft user.id with
  | some _ => exact ⟨fun h => h, Or.inl⟩
  | none =>
    cases hname : s.users.findRight user.name with
    | some _ => exact ⟨fun h => h, Or.inl⟩
    | none =>
      have hmem := @Bimap.mem_insert _ _ _ _ s.users user.id id user.name name
        (Bimap.findLeft_eq_none.mp hid) (Bimap.findRight_eq_none.mp hname)
      refine ⟨fun h => hmem.mpr (Or.inl h), fun h => (hmem.mp h).imp_right fun heq => ?_⟩
      rw [heq.1, heq.2]

/-- What a lookup returns after a miss. -/
theorem cacheFound_spec {s : UserStore} {db : Database} (h : s.CachedFrom db) {found : Option User}
    (hfound : ∀ u ∈ found, ∃ row ∈ db.users.rows, row.toUser = u) :
    (s.cacheFound found).2 = found ∧
      (s.cacheFound found).1.userSessions = s.userSessions ∧
      (s.cacheFound found).1.CachedFrom db := by
  cases found with
  | none => exact ⟨rfl, rfl, h⟩
  | some u =>
    obtain ⟨row, hrow, rfl⟩ := hfound u rfl
    obtain ⟨hresult, hsessions, hcached⟩ := cacheUser_spec h hrow
    exact ⟨congrArg some hresult, hsessions, hcached⟩

/-- `GetUser(user_id)` returns what the adapter would return. -/
theorem getUser_spec {s : UserStore} {db : Database} (h : s.CachedFrom db) (userId : Nat) :
    (s.getUser db userId).2 = db.getUser userId ∧
      (s.getUser db userId).1.userSessions = s.userSessions ∧
      (s.getUser db userId).1.CachedFrom db := by
  unfold getUser
  cases hid : s.users.findLeft userId with
  | some name =>
    obtain ⟨row, hrow, heq⟩ := h _ _ (Bimap.findLeft_eq_some.mp hid)
    have hfound : db.getUser userId = some ⟨userId, name⟩ :=
      Database.getUser_eq_some.mpr ⟨row, hrow, congrArg User.id heq, heq⟩
    exact ⟨hfound.symm, rfl, h⟩
  | none =>
    refine cacheFound_spec h fun u hu => ?_
    obtain ⟨row, hrow, -, heq⟩ := Database.getUser_eq_some.mp hu
    exact ⟨row, hrow, heq⟩

/-- `GetUser(name)` returns what the adapter would return. -/
theorem getUserByName_spec {s : UserStore} {db : Database} (h : s.CachedFrom db)
    (name : String) :
    (s.getUserByName db name).2 = db.getUserByName name ∧
      (s.getUserByName db name).1.userSessions = s.userSessions ∧
      (s.getUserByName db name).1.CachedFrom db := by
  unfold getUserByName
  cases hname : s.users.findRight name with
  | some id =>
    obtain ⟨row, hrow, heq⟩ := h _ _ (Bimap.findRight_eq_some.mp hname)
    have hfound : db.getUserByName name = some ⟨id, name⟩ :=
      Database.getUserByName_eq_some.mpr ⟨rfl, row, hrow, heq⟩
    exact ⟨hfound.symm, rfl, h⟩
  | none =>
    refine cacheFound_spec h fun u hu => ?_
    exact (Database.getUserByName_eq_some.mp hu).2

/-- `GetUsers` keeps the sessions and a valid cache. -/
theorem getUsers_spec {db : Database} (userIds : List Nat) : ∀ {s : UserStore}, s.CachedFrom db →
    (s.getUsers db userIds).1.userSessions = s.userSessions ∧
      (s.getUsers db userIds).1.CachedFrom db := by
  induction userIds with
  | nil => intro s h; exact ⟨rfl, h⟩
  | cons userId userIds ih =>
    intro s h
    obtain ⟨-, hsessions, hcached⟩ := getUser_spec h userId
    obtain ⟨hrest, hcached'⟩ := ih hcached
    exact ⟨hrest.trans hsessions, hcached'⟩

/-- `GetSessionUser` returns the adapter's user of the session. -/
theorem getSessionUser_spec {s : UserStore} {db : Database} (h : s.CachedFrom db)
    (connectionId : Nat) :
    (s.getSessionUser db connectionId).2
        = (s.userSessions.findLeft connectionId).bind db.getUser ∧
      (s.getSessionUser db connectionId).1.userSessions = s.userSessions ∧
      (s.getSessionUser db connectionId).1.CachedFrom db := by
  unfold getSessionUser
  cases s.userSessions.findLeft connectionId with
  | none => exact ⟨rfl, rfl, h⟩
  | some userId => exact getUser_spec h userId

/-- `GetSessionUser` keeps the cached users and adds at most the user of the session. -/
theorem mem_users_getSessionUser {s : UserStore} {db : Database} {connectionId id : Nat}
    {name : String} :
    ((id, name) ∈ s.users → (id, name) ∈ (s.getSessionUser db connectionId).1.users) ∧
      ((id, name) ∈ (s.getSessionUser db connectionId).1.users → (id, name) ∈ s.users ∨
        (connectionId, id) ∈ s.userSessions ∧ db.getUser id = some ⟨id, name⟩) := by
  unfold getSessionUser
  cases hsession : s.userSessions.findLeft connectionId with
  | none => exact ⟨fun h => h, Or.inl⟩
  | some userId =>
    simp only [getUser]
    cases s.users.findLeft userId with
    | some _ => exact ⟨fun h => h, Or.inl⟩
    | none =>
      cases hfound : db.getUser userId with
      | none => exact ⟨fun h => h, Or.inl⟩
      | some user =>
        obtain ⟨hkeep, hnew⟩ := @mem_users_cacheUser s user id name
        refine ⟨hkeep, fun h => (hnew h).imp_right fun heq => ?_⟩
        obtain ⟨row, -, hid, hrow⟩ := Database.getUser_eq_some.mp hfound
        have huser : user.id = userId := by rw [← hrow]; exact hid
        have hidu : id = userId := by rw [← huser, ← heq]
        rw [heq, hidu]
        exact ⟨Bimap.findLeft_eq_some.mp hsession, hfound⟩

/-- A new store caches nothing. -/
theorem cachedFrom_empty (db : Database) : ({} : UserStore).CachedFrom db :=
  fun _ _ h => absurd h (Bimap.not_mem_empty _)

/-- `Prewarm` caches rows of the database and opens no session. -/
theorem prewarm_spec {s : UserStore} {db : Database} (h : s.CachedFrom db) :
    (s.prewarm db).CachedFrom db ∧ (s.prewarm db).userSessions = s.userSessions := by
  -- The loop invariant, for any part of the rows.
  have hloop : ∀ (rows : List UserRow) (s : UserStore), rows ⊆ db.users.rows → s.CachedFrom db →
      ((rows.map UserRow.toUser).foldl (fun s user => (s.cacheUser user).1) s).CachedFrom db ∧
      ((rows.map UserRow.toUser).foldl (fun s user => (s.cacheUser user).1) s).userSessions
        = s.userSessions := by
    intro rows
    induction rows with
    | nil => intro s _ h; exact ⟨h, rfl⟩
    | cons row rows ih =>
      intro s hsub h
      obtain ⟨-, hsessions, hcached⟩ := cacheUser_spec h (hsub List.mem_cons_self)
      obtain ⟨hrest, hrest'⟩ := ih _ (fun r hr => hsub (List.mem_cons_of_mem _ hr)) hcached
      exact ⟨hrest, hrest'.trans hsessions⟩
  exact hloop db.users.rows s (fun _ h => h) h

end UserStore

/-! ### Channels -/

namespace ChannelStore

/-- Every cached channel is a row of the database. -/
def CachedFrom (s : ChannelStore) (db : Database) : Prop := s.channels.rows ⊆ db.channels.rows

/-- Caching a channel moves no connection. -/
theorem connectionChannelMap_cacheChannel (s : ChannelStore) (channel : ChatChannel) :
    (s.cacheChannel channel).1.connectionChannelMap = s.connectionChannelMap := by
  unfold cacheChannel
  split <;> rfl

/-- Caching a row returns the row. -/
theorem cacheChannel_spec {s : ChannelStore} {db : Database} (h : s.CachedFrom db)
    {channel : ChatChannel} (hrow : channel ∈ db.channels.rows) :
    (s.cacheChannel channel).2 = channel ∧
      (s.cacheChannel channel).1.connectionChannelMap = s.connectionChannelMap ∧
      (s.cacheChannel channel).1.CachedFrom db := by
  unfold cacheChannel
  cases hinsert : s.channels.insert channel with
  | some channels =>
    refine ⟨rfl, rfl, fun c hc => ?_⟩
    rcases (Table.mem_rows_insert hinsert c).mp hc with rfl | hold
    · exact hrow
    · exact h hold
  | none =>
    refine ⟨?_, rfl, h⟩
    -- The channel in the way has the same id and is a row too.
    cases hfind : s.channels.find (·.id = channel.id) with
    | none => rfl
    | some other =>
      have hid : other.id = channel.id := by simpa using List.find?_some hfind
      exact Table.eq_of_key_eq (h (List.mem_of_find?_eq_some hfind)) hrow hid

/-- What a lookup returns after a miss. -/
theorem cacheFound_spec {s : ChannelStore} {db : Database} (h : s.CachedFrom db)
    {found : Option ChatChannel} (hfound : ∀ c ∈ found, c ∈ db.channels.rows) :
    (s.cacheFound found).2 = found ∧
      (s.cacheFound found).1.connectionChannelMap = s.connectionChannelMap ∧
      (s.cacheFound found).1.CachedFrom db := by
  cases found with
  | none => exact ⟨rfl, rfl, h⟩
  | some channel =>
    obtain ⟨hresult, hmap, hcached⟩ := cacheChannel_spec h (hfound channel rfl)
    exact ⟨congrArg some hresult, hmap, hcached⟩

/-- `GetChannel(channel_id)` returns what the adapter would return. -/
theorem getChannel_spec {s : ChannelStore} {db : Database} (h : s.CachedFrom db)
    (channelId : Nat) :
    (s.getChannel db channelId).2 = db.getChatChannel channelId ∧
      (s.getChannel db channelId).1.connectionChannelMap = s.connectionChannelMap ∧
      (s.getChannel db channelId).1.CachedFrom db := by
  unfold getChannel
  cases hfind : s.channels.find (·.id = channelId) with
  | some channel =>
    have hid : channel.id = channelId := by simpa using List.find?_some hfind
    have hfound : db.getChatChannel channelId = some channel :=
      Database.getChatChannel_eq_some.mpr ⟨hid, h (List.mem_of_find?_eq_some hfind)⟩
    exact ⟨hfound.symm, rfl, h⟩
  | none =>
    exact cacheFound_spec h fun c hc => (Database.getChatChannel_eq_some.mp hc).2

/-- `GetChannel(channel_name)` returns what the adapter would return. -/
theorem getChannelByName_spec {s : ChannelStore} {db : Database} (h : s.CachedFrom db)
    (name : String) :
    (s.getChannelByName db name).2 = db.getChatChannelByName name ∧
      (s.getChannelByName db name).1.connectionChannelMap = s.connectionChannelMap ∧
      (s.getChannelByName db name).1.CachedFrom db := by
  unfold getChannelByName
  cases hfind : s.channels.find (·.name = name) with
  | some channel =>
    have hname : channel.name = name := by simpa using List.find?_some hfind
    have hfound : db.getChatChannelByName name = some channel :=
      Database.getChatChannelByName_eq_some.mpr ⟨hname, h (List.mem_of_find?_eq_some hfind)⟩
    exact ⟨hfound.symm, rfl, h⟩
  | none =>
    exact cacheFound_spec h fun c hc => (Database.getChatChannelByName_eq_some.mp hc).2

/-- `GetAssignedChannel` returns the adapter's channel of the assignment. -/
theorem getAssignedChannel_spec {s : ChannelStore} {db : Database} (h : s.CachedFrom db)
    (connectionId : Nat) :
    (s.getAssignedChannel db connectionId).2
        = (s.connectionChannelMap.findLeft connectionId).bind db.getChatChannel ∧
      (s.getAssignedChannel db connectionId).1.connectionChannelMap = s.connectionChannelMap ∧
      (s.getAssignedChannel db connectionId).1.CachedFrom db := by
  unfold getAssignedChannel
  cases s.connectionChannelMap.findLeft connectionId with
  | none => exact ⟨rfl, rfl, h⟩
  | some channelId => exact getChannel_spec h channelId

/-- A new store caches nothing. -/
theorem cachedFrom_empty (db : Database) : ({} : ChannelStore).CachedFrom db :=
  fun _ h => by cases h

/-- `Prewarm` caches rows of the database and assigns no connection. -/
theorem prewarm_spec {s : ChannelStore} {db : Database} (h : s.CachedFrom db) :
    (s.prewarm db).CachedFrom db ∧
      (s.prewarm db).connectionChannelMap = s.connectionChannelMap := by
  have hloop : ∀ (rows : List ChatChannel) (s : ChannelStore), rows ⊆ db.channels.rows →
      s.CachedFrom db →
      (rows.foldl (fun s channel => (s.cacheChannel channel).1) s).CachedFrom db ∧
      (rows.foldl (fun s channel => (s.cacheChannel channel).1) s).connectionChannelMap
        = s.connectionChannelMap := by
    intro rows
    induction rows with
    | nil => intro s _ h; exact ⟨h, rfl⟩
    | cons row rows ih =>
      intro s hsub h
      obtain ⟨-, hmap, hcached⟩ := cacheChannel_spec h (hsub List.mem_cons_self)
      obtain ⟨hrest, hrest'⟩ := ih _ (fun r hr => hsub (List.mem_cons_of_mem _ hr)) hcached
      exact ⟨hrest, hrest'.trans hmap⟩
  exact hloop db.channels.rows s (fun _ h => h) h

/-- A connection is in the channel it was assigned to last. -/
theorem mem_assignConnection {s : ChannelStore} {c ch c' ch' : Nat} :
    (c', ch') ∈ (s.assignConnection c ch).connectionChannelMap
      ↔ (c' = c ∧ ch' = ch) ∨ ((c', ch') ∈ s.connectionChannelMap ∧ c' ≠ c) := by
  show (c', ch') ∈ (s.connectionChannelMap.eraseLeft c).insert c ch ↔ _
  rw [MultiBimap.mem_insert, MultiBimap.mem_eraseLeft]
  have hfree : ∀ x, (c, x) ∉ s.connectionChannelMap.eraseLeft c := fun x hx =>
    (MultiBimap.mem_eraseLeft.mp hx).2 rfl
  constructor
  · intro h
    rcases h with h | ⟨hc, hch, -⟩
    · exact Or.inr h
    · exact Or.inl ⟨hc, hch⟩
  · intro h
    rcases h with ⟨hc, hch⟩ | h
    · exact Or.inr ⟨hc, hch, hfree⟩
    · exact Or.inl h

end ChannelStore

end ChatCore.Server
