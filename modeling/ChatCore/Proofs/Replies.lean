import ChatCore.Proofs.Handlers
import ChatCore.Server.Replies

/-!
# `ChatCore.Proofs.Replies`: the handlers reply as specified

In a consistent state every cached user and channel is a row of the database, so a lookup
through a cache returns what the database has, and the user of a session is always found. The
calls of each handler are then those of `replies`.
-/

set_option autoImplicit false

namespace ChatCore.Server

open ChatCore.Api
open ChatCore.Lib

/-- `GetUsers` returns what the adapter would return for each id. -/
theorem UserStore.getUsers_result {db : Database} (userIds : List Nat) {s : UserStore}
    (h : s.CachedFrom db) : (s.getUsers db userIds).2 = userIds.filterMap db.getUser := by
  induction userIds generalizing s with
  | nil => rfl
  | cons userId userIds ih =>
    obtain ⟨hfound, -, hcached⟩ := UserStore.getUser_spec h userId
    show (s.getUser db userId).2.toList ++ ((s.getUser db userId).1.getUsers db userIds).2 = _
    rw [hfound, ih hcached, List.filterMap_cons]
    cases db.getUser userId <;> rfl

namespace Database

/-- A cached name is the name of a row. -/
theorem name_mem_of_hasUserNamed {s : UserStore} {db : Database} (h : s.CachedFrom db)
    {name : String} (hname : s.hasUserNamed name = true) :
    name ∈ db.users.rows.map UserRow.name := by
  obtain ⟨id, hid⟩ := Option.isSome_iff_exists.mp hname
  obtain ⟨row, hrow, heq⟩ := h id name (Bimap.findRight_eq_some.mp hid)
  exact List.mem_map.mpr ⟨row, hrow, congrArg User.name heq⟩

/-- `CreateChatChannel` with a name that no channel has. -/
theorem createChatChannel_of_fresh {db : Database} {name : String}
    (h : db.getChatChannelByName name = none) :
    (db.createChatChannel name).2 = some ⟨db.channels.nextKey, name⟩ := by
  have hfresh : name ∉ db.channels.rows.map ChatChannel.name := fun hmem => by
    obtain ⟨channel, hrow, hname⟩ := List.mem_map.mp hmem
    rw [getChatChannelByName_eq_some.mpr ⟨hname, hrow⟩] at h
    cases h
  unfold createChatChannel insertChannel
  rw [dif_neg hfresh]

/-- `CreateChatChannel` with a name that a channel has. -/
theorem createChatChannel_of_taken {db : Database} {name : String} {channel : ChatChannel}
    (h : db.getChatChannelByName name = some channel) :
    db.createChatChannel name = (db, none) := by
  obtain ⟨hname, hrow⟩ := getChatChannelByName_eq_some.mp h
  have htaken : name ∈ db.channels.rows.map ChatChannel.name :=
    List.mem_map.mpr ⟨channel, hrow, hname⟩
  unfold createChatChannel insertChannel
  rw [dif_pos htaken]

end Database

namespace ServerState

variable {s : ServerState}

/-! ### Sessions -/

/-- A connection without a session has no user. -/
theorem findLeft_of_not_hasSession {c : Nat} (h : ¬ s.users.hasSession c = true) :
    s.users.userSessions.findLeft c = none := by
  unfold UserStore.hasSession at h
  exact Option.not_isSome_iff_eq_none.mp h

/-- The replies behind `ValidateSession(request_id, connection_id)`. -/
theorem validateRpcSession_replies {c requestId : Nat} {rest : ServerState × List Call}
    {replies : Nat → List Call}
    (hrest : ∀ u, (c, u) ∈ s.users.userSessions → rest.2 = replies u) :
    (s.validateRpcSession requestId c rest).2
      = s.authorized c (notAuthorized requestId) replies := by
  unfold validateRpcSession authorized
  by_cases hsession : s.users.hasSession c = true
  · obtain ⟨u, hu⟩ := hasSession_iff.mp hsession
    rw [if_pos hsession, Bimap.findLeft_eq_some.mpr hu]
    exact hrest u hu
  · rw [if_neg hsession, findLeft_of_not_hasSession hsession]
    rfl

/-- The replies behind `ValidateSession(connection_id)`. -/
theorem validateSession_replies {c : Nat} {rest : ServerState × List Call}
    {replies : Nat → List Call}
    (hrest : ∀ u, (c, u) ∈ s.users.userSessions → rest.2 = replies u) :
    (s.validateSession c rest).2 = s.authorized c (.error ⟨"Not authorized."⟩) replies := by
  unfold validateSession authorized
  by_cases hsession : s.users.hasSession c = true
  · obtain ⟨u, hu⟩ := hasSession_iff.mp hsession
    rw [if_pos hsession, Bimap.findLeft_eq_some.mpr hu]
    exact hrest u hu
  · rw [if_neg hsession, findLeft_of_not_hasSession hsession]

/-- A broadcast in a channel that has a connection. -/
theorem channelBroadcast_of_mem {c : Nat} {channel : ChatChannel} (message : Message)
    (hmem : (c, channel.id) ∈ s.channels.connectionChannelMap) :
    s.channelBroadcast channel message
      = [.broadcastTo (s.channels.connectionChannelMap.rangeRight channel.id) message] := by
  have hne : (s.channels.connectionChannelMap.rangeRight channel.id).isEmpty = false := by
    rw [List.isEmpty_eq_false_iff]
    exact List.ne_nil_of_mem (MultiBimap.mem_rangeRight.mpr hmem)
  simp only [channelBroadcast, ChannelStore.getConnections, hne, Bool.false_eq_true, if_false]

/-! ### The handlers -/

variable (h : s.Consistent) (c : Nat)
include h

/-- What `HandleCreateUser` sends. -/
theorem handleCreateUser_replies (m : CreateUserRequestMessage) :
    (s.handleCreateUser c m).2 = s.replies c (.createUserRequest m) := by
  unfold handleCreateUser
  by_cases htaken : m.name ∈ s.db.users.rows.map UserRow.name
  · -- The name is taken, and the cache or the table says so.
    simp only [replies, if_pos htaken]
    by_cases hcached : s.users.hasUserNamed m.name = true
    · rw [if_pos hcached]
    · rw [if_neg hcached, Database.createUser_of_taken m.password htaken]
  · have hcached : ¬ s.users.hasUserNamed m.name = true := fun hname =>
      htaken (Database.name_mem_of_hasUserNamed h.users hname)
    obtain ⟨db', hcreate, -⟩ := @Database.createUser_of_fresh s.db m.name m.password htaken
    simp only [replies, if_neg htaken]
    rw [if_neg hcached, hcreate]

omit h in
/-- What `HandleAuthenticateUser` sends. -/
theorem handleAuthenticateUser_replies (m : AuthenticateUserRequestMessage) :
    (s.handleAuthenticateUser c m).2 = s.replies c (.authenticateUserRequest m) := by
  unfold handleAuthenticateUser
  by_cases hsession : s.users.hasSession c = true
  · obtain ⟨u, hu⟩ := hasSession_iff.mp hsession
    simp only [replies, if_pos hsession, Bimap.findLeft_eq_some.mpr hu]
  · simp only [replies, if_neg hsession, findLeft_of_not_hasSession hsession]
    cases hmatch : s.db.matchUserCredentials m.name m.password with
    | none => rfl
    | some user =>
      by_cases huser : s.users.hasUserSession user.id = true
      · simp only [if_pos huser]
      · simp only [if_neg huser]

/-- What `HandleGetUser` sends. -/
theorem handleGetUser_replies (m : GetUserRequestMessage) :
    (s.handleGetUser c m).2 = s.replies c (.getUserRequest m) := by
  refine validateRpcSession_replies fun u _ => ?_
  obtain ⟨hfound, -, -⟩ := UserStore.getUserByName_spec h.users m.name
  cases hresult : s.users.getUserByName s.db m.name with
  | mk users result =>
    rw [hresult] at hfound
    rw [← hfound]
    cases result <;> rfl

/-- A channel of the map is a row, so `GetAssignedChannel` finds it. -/
theorem getAssignedChannel_id :
    (s.channels.getAssignedChannel s.db c).2.map ChatChannel.id
      = s.channels.connectionChannelMap.findLeft c := by
  obtain ⟨hfound, -, -⟩ := ChannelStore.getAssignedChannel_spec h.channels c
  rw [hfound]
  cases hassigned : s.channels.connectionChannelMap.findLeft c with
  | none => rfl
  | some ch =>
    obtain ⟨channel, hrow, hid⟩ :=
      List.mem_map.mp (h.assigned c ch (MultiBimap.findLeft_eq_some.mp hassigned))
    rw [Option.bind_some, Database.getChatChannel_eq_some.mpr ⟨hid, hrow⟩, Option.map_some]
    exact congrArg some hid

/-- What `HandleWriteChatMessage` sends. -/
theorem handleWriteChatMessage_replies (m : WriteChatMessage) :
    (s.handleWriteChatMessage c m).2 = s.replies c (.writeChat m) := by
  by_cases hsession : ∃ u, (c, u) ∈ s.users.userSessions
  · obtain ⟨u, hu⟩ := hsession
    simp only [replies, authorized, Bimap.findLeft_eq_some.mpr hu]
    cases hassigned : s.channels.connectionChannelMap.findLeft c with
    | none =>
      rw [handleWriteChatMessage_of_not_joined h c hu (MultiBimap.findLeft_eq_none.mp hassigned)]
    | some ch =>
      obtain ⟨s', -, heq⟩ :=
        handleWriteChatMessage_of_joined h c hu (MultiBimap.findLeft_eq_some.mp hassigned) m
      rw [heq]
  · have hfree : ∀ u, (c, u) ∉ s.users.userSessions := fun u hu => hsession ⟨u, hu⟩
    rw [handleWriteChatMessage_of_no_session c hfree]
    simp only [replies, authorized, Bimap.findLeft_eq_none.mpr hfree]

/-- What `HandleCreateChatChannel` sends. -/
theorem handleCreateChatChannel_replies (m : CreateChannelRequestMessage) :
    (s.handleCreateChatChannel c m).2 = s.replies c (.createChannelRequest m) := by
  refine validateRpcSession_replies fun u hu => ?_
  obtain ⟨user, huser, hid⟩ := h.getSessionUser_eq hu
  cases hlookup : s.users.getSessionUser s.db c with
  | mk users potentialUser =>
    rw [hlookup] at huser
    cases huser
    subst hid
    cases hname : s.db.getChatChannelByName m.name with
    | some channel =>
      obtain ⟨hfound, -, -⟩ := ChannelStore.getChannelByName_spec h.channels m.name
      simp only [Database.createChatChannel_of_taken hname]
      cases hchannel : s.channels.getChannelByName s.db m.name with
      | mk channels cachedChannel =>
        rw [hchannel, hname] at hfound
        cases hfound
        rfl
    | none =>
      have hcreated := Database.createChatChannel_of_fresh hname
      cases hcreate : s.db.createChatChannel m.name with
      | mk db result =>
        rw [hcreate] at hcreated
        cases hcreated
        -- The cache has no channel with the new id, so it takes the new row.
        obtain ⟨-, hrows, -, -⟩ := Database.createChatChannel_spec hcreate
        have hcached : s.channels.CachedFrom db := fun channel hmem => by
          rw [hrows]
          exact List.mem_append_left _ (h.channels hmem)
        have hrow : (⟨s.db.channels.nextKey, m.name⟩ : ChatChannel) ∈ db.channels.rows := by
          rw [hrows]
          exact List.mem_append_right _ (List.mem_singleton_self _)
        obtain ⟨hresult, -, -⟩ := ChannelStore.cacheChannel_spec hcached hrow
        simp only [hcreate, hresult]

/-- What `HandleJoinChatChannel` sends. -/
theorem handleJoinChatChannel_replies (m : JoinChatChannelRequestMessage) :
    (s.handleJoinChatChannel c m).2 = s.replies c (.joinChatChannelRequest m) := by
  refine validateRpcSession_replies fun u hu => ?_
  obtain ⟨user, huser, hid⟩ := h.getSessionUser_eq hu
  cases hlookup : s.users.getSessionUser s.db c with
  | mk users potentialUser =>
    rw [hlookup] at huser
    cases huser
    subst hid
    obtain ⟨hfound, hmap, hcached⟩ := ChannelStore.getChannel_spec h.channels m.channelId
    cases hchannel : s.channels.getChannel s.db m.channelId with
    | mk channels potentialChannel =>
      rw [hchannel] at hfound hmap hcached
      rw [← hfound]
      simp only [hchannel]
      cases potentialChannel with
      | none => rfl
      | some channel =>
        obtain ⟨hid, -⟩ := Database.getChatChannel_eq_some.mp hfound.symm
        -- The second lookup is in the store that the first one left.
        have hserved : ({ s with channels := channels } : ServerState).Consistent :=
          ⟨h.users, hcached, h.sessions, fun c' ch hch => h.assigned c' ch (hmap ▸ hch)⟩
        have hprevious := getAssignedChannel_id hserved c
        obtain ⟨-, hmap', -⟩ := ChannelStore.getAssignedChannel_spec hcached c
        cases hassign : channels.getAssignedChannel s.db c with
        | mk channels' previous =>
          simp only [hassign] at hprevious hmap'
          have hmap'' : channels'.connectionChannelMap = s.channels.connectionChannelMap :=
            hmap'.trans hmap
          have hassigned : (channels'.assignConnection c m.channelId).connectionChannelMap
              = (s.channels.assignConnection c m.channelId).connectionChannelMap := by
            show (channels'.connectionChannelMap.eraseLeft c).insert c m.channelId = _
            rw [hmap'']
            rfl
          have hjoined : (c, channel.id)
              ∈ (channels'.assignConnection c m.channelId).connectionChannelMap :=
            ChannelStore.mem_assignConnection.mpr (.inl ⟨rfl, hid⟩)
          simp only [joinReplies]
          rw [channelBroadcast_of_mem _ hjoined, hid, hassigned, ← hmap, ← hprevious]
          cases previous with
          | none => rfl
          | some previous =>
            -- The connection itself is still in the channel that it leaves.
            have hleft : (c, previous.id) ∈ channels'.connectionChannelMap := by
              rw [hmap', ← MultiBimap.findLeft_eq_some, ← hprevious]
              rfl
            simp only [Option.elim_some, Option.map_some]
            rw [channelBroadcast_of_mem _ hleft, hmap']
            rfl

/-- What `HandleGetChatChannel` sends. -/
theorem handleGetChatChannel_replies (m : GetChatChannelRequestMessage) :
    (s.handleGetChatChannel c m).2 = s.replies c (.getChatChannelRequest m) := by
  refine validateRpcSession_replies fun u _ => ?_
  obtain ⟨hfound, -, -⟩ := ChannelStore.getChannel_spec h.channels m.channelId
  cases hresult : s.channels.getChannel s.db m.channelId with
  | mk channels result =>
    rw [hresult] at hfound
    rw [← hfound]
    cases result <;> rfl

/-- What `HandleLogout` sends. -/
theorem handleLogout_replies (m : LogoutRequestMessage) :
    (s.handleLogout c m).2 = s.replies c (.logoutRequest m) := by
  refine validateRpcSession_replies fun u hu => ?_
  obtain ⟨users, -, hremove⟩ := removeSession_of_session h c hu
  simp only [hremove]
  rfl

/-- In a consistent state the handlers make the calls of `replies`. -/
theorem handle_replies (m : Message) : (s.handle c m).2 = s.replies c m := by
  cases m with
  | createUserRequest m => exact handleCreateUser_replies h c m
  | authenticateUserRequest m => exact handleAuthenticateUser_replies c m
  | getUsersRequest m =>
    refine validateRpcSession_replies fun u _ => ?_
    show [Call.send c (.getUsersResponse ⟨_, (s.users.getUsers s.db m.userIds).2⟩)] = _
    rw [UserStore.getUsers_result m.userIds h.users]
  | getUserRequest m => exact handleGetUser_replies h c m
  | writeChat m => exact handleWriteChatMessage_replies h c m
  | createChannelRequest m => exact handleCreateChatChannel_replies h c m
  | joinChatChannelRequest m => exact handleJoinChatChannel_replies h c m
  | getChatsRequest m => exact validateRpcSession_replies fun _ _ => rfl
  | getChatChannelsRequest m => exact validateRpcSession_replies fun _ _ => rfl
  | getChatChannelRequest m => exact handleGetChatChannel_replies h c m
  | shutdown m => exact validateSession_replies fun _ _ => rfl
  | logoutRequest m => exact handleLogout_replies h c m
  | _ => rfl

end ServerState

end ChatCore.Server
