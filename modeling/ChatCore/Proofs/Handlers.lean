import ChatCore.Proofs.MessageStore
import ChatCore.Proofs.Stores
import ChatCore.Server.Handlers

/-!
# `ChatCore.Proofs.Handlers`: what a handled message can do

`Consistent` is the invariant of the server's stores: caches hold rows of the database, and
sessions and assignments refer to rows. `Handled` lists everything that a handled message
can do to the stores, and `handled_handle` proves that the list is complete. Later proofs
about runs split on `Handled` and never open a handler.

Most requests only look things up. They fill the caches of users and channels and leave
everything else alone (`Served`).
-/

set_option autoImplicit false

namespace ChatCore.Server

open ChatCore.Api
open ChatCore.Lib

/-! ### The database -/

namespace Database

/-- A new user leaves the other tables alone and keeps every row. -/
theorem createUser_spec {db db' : Database} {name password : String} {u : User}
    (h : db.createUser name password = (db', some u)) :
    u.name = name ∧ db'.users.rows = db.users.rows ++ [⟨u.id, name, password⟩] ∧
      db'.channels = db.channels ∧ db'.messages = db.messages := by
  by_cases hname : name ∈ db.users.rows.map UserRow.name
  · rw [createUser_of_taken password hname] at h
    cases h
  · obtain ⟨db'', heq, hrows, hchannels, hmessages⟩ := @createUser_of_fresh db name password hname
    rw [heq] at h
    cases h
    exact ⟨rfl, hrows, hchannels, hmessages⟩

/-- A user that is not created leaves the database as it is. -/
theorem createUser_eq_none {db db' : Database} {name password : String}
    (h : db.createUser name password = (db', none)) : db' = db := by
  unfold createUser at h
  split at h
  · cases h
    rfl
  · cases h

/-- A new channel is a row of its own. The other tables stay as they are. -/
theorem createChatChannel_spec {db db' : Database} {name : String} {channel : ChatChannel}
    (h : db.createChatChannel name = (db', some channel)) :
    channel.name = name ∧ db'.channels.rows = db.channels.rows ++ [channel] ∧
      db'.users = db.users ∧ db'.messages = db.messages := by
  unfold createChatChannel insertChannel at h
  split at h
  · cases h
  · rename_i heq
    split at heq
    · cases heq
    · cases heq
      cases h
      exact ⟨rfl, rfl, rfl, rfl⟩

/-- A channel that is not created leaves the database as it is. -/
theorem createChatChannel_eq_none {db db' : Database} {name : String}
    (h : db.createChatChannel name = (db', none)) : db' = db := by
  unfold createChatChannel at h
  split at h
  · cases h
    rfl
  · cases h

end Database

/-! ### The shape of a step -/

/-- The stores refer to rows of the database. -/
structure ServerState.Consistent (s : ServerState) : Prop where
  users : s.users.CachedFrom s.db
  channels : s.channels.CachedFrom s.db
  sessions : ∀ c u, (c, u) ∈ s.users.userSessions → ∃ row ∈ s.db.users.rows, row.id = u
  assigned : ∀ c ch, (c, ch) ∈ s.channels.connectionChannelMap → ch ∈ s.db.channels.keys

/-- `s'` is `s` after lookups: the database, the sessions, the assignments and the message
store are the same, and the caches hold rows. -/
structure Served (s s' : ServerState) : Prop where
  db : s'.db = s.db
  sessions : s'.users.userSessions = s.users.userSessions
  assigned : s'.channels.connectionChannelMap = s.channels.connectionChannelMap
  messages : s'.messages = s.messages
  connections : s'.connections = s.connections
  nextConnectionId : s'.nextConnectionId = s.nextConnectionId
  users : s'.users.CachedFrom s.db
  channels : s'.channels.CachedFrom s.db

/-- A call that answers none of the four requests that change users, sessions or
assignments, and that creates no message. -/
def Call.Quiet : Call → Prop
  | .send _ message => message.type ≠ .createUserResponse ∧
      message.type ≠ .authenticateUserResponse ∧
      message.type ≠ .joinChatChannelResponse ∧ message.type ≠ .logoutResponse
  | .createMessage _ => False
  | _ => True

/-- Everything that handling a message of connection `c` can do. -/
inductive Handled (s : ServerState) (c : Nat) : Message → ServerState → List Call → Prop
  | served {m : Message} {s' : ServerState} {calls : List Call} (hs : Served s s')
      (hquiet : ∀ call ∈ calls, call.Quiet) : Handled s c m s' calls
  | createdUser {r : CreateUserRequestMessage} {db : Database} {u : User}
      (hcreate : s.db.createUser r.name r.password = (db, some u)) :
      Handled s c (.createUserRequest r) { s with db := db }
        [.send c (.createUserResponse ⟨r.requestId, u⟩)]
  | authenticated {r : AuthenticateUserRequestMessage} {u : User}
      (hfree : ∀ u', (c, u') ∉ s.users.userSessions)
      (hmatch : s.db.matchUserCredentials r.name r.password = some u)
      (huser : ∀ c', (c', u.id) ∉ s.users.userSessions) :
      Handled s c (.authenticateUserRequest r)
        { s with users := s.users.assignSession c u.id }
        [.send c (.authenticateUserResponse ⟨r.requestId, u⟩), .broadcast (.userLoginEvent ⟨u.id⟩)]
  | joined {r : JoinChatChannelRequestMessage} {s' : ServerState} {u : Nat} {calls : List Call}
      (hs : Served s s') (hsession : (c, u) ∈ s.users.userSessions)
      (hchannel : r.channelId ∈ s.db.channels.keys) (hquiet : ∀ call ∈ calls, call.Quiet) :
      Handled s c (.joinChatChannelRequest r)
        { s' with channels := s'.channels.assignConnection c r.channelId }
        (calls ++ [.send c (.joinChatChannelResponse ⟨r.requestId, r.channelId⟩)])
  | loggedOut {r : LogoutRequestMessage} {s' : ServerState} {u : Nat} (hs : Served s s')
      (hsession : (c, u) ∈ s.users.userSessions) :
      Handled s c (.logoutRequest r)
        { s' with
          users := s'.users.removeSession c
          channels := s'.channels.unassignConnection c }
        [.broadcast (.userLogoutEvent ⟨u⟩), .send c (.logoutResponse ⟨r.requestId⟩)]
  | createdChannel {r : CreateChannelRequestMessage} {s' : ServerState} {db : Database}
      {channel : ChatChannel} {u : Nat} (hs : Served s s')
      (hcreate : s.db.createChatChannel r.name = (db, some channel)) :
      Handled s c (.createChannelRequest r)
        { s' with db := db, channels := (s'.channels.cacheChannel channel).1 }
        [.send c (.createChannelResponse ⟨r.requestId, (s'.channels.cacheChannel channel).2⟩),
          .broadcast (.channelCreateEvent ⟨(s'.channels.cacheChannel channel).2, u⟩)]
  | read {r : GetChatsRequestMessage} :
      Handled s c (.getChatsRequest r)
        { s with
          messages := (s.messages.getMessagesBefore s.db r.channelId maxMessageId r.limit).1 }
        [.send c (.getChatsResponse ⟨r.requestId, r.channelId,
          (s.messages.getMessagesBefore s.db r.channelId maxMessageId r.limit).2⟩)]
  | wrote {m : WriteChatMessage} {s' : ServerState} {u ch : Nat} (hs : Served s s')
      (hsession : (c, u) ∈ s.users.userSessions)
      (hassigned : (c, ch) ∈ s.channels.connectionChannelMap) :
      Handled s c (.writeChat m)
        { s' with messages := s.messages.createMessage ch u m.content }
        [.createMessage (s.messages.nextMessage ch u m.content),
          .broadcastTo (s.channels.connectionChannelMap.rangeRight ch)
            (.receiveChat ⟨u, ch, m.content⟩)]

/-! ### Lookups -/

namespace ServerState

variable {s s' : ServerState}

/-- A consistent state serves itself. -/
theorem Consistent.served_refl (h : s.Consistent) : Served s s :=
  ⟨rfl, rfl, rfl, rfl, rfl, rfl, h.users, h.channels⟩

/-- A lookup of a user. -/
theorem Served.withUsers (h : Served s s') {users : UserStore} (hcached : users.CachedFrom s.db)
    (hsessions : users.userSessions = s'.users.userSessions) :
    Served s { s' with users := users } :=
  ⟨h.db, hsessions.trans h.sessions, h.assigned, h.messages, h.connections, h.nextConnectionId,
    hcached, h.channels⟩

/-- A lookup of a channel. -/
theorem Served.withChannels (h : Served s s') {channels : ChannelStore}
    (hcached : channels.CachedFrom s.db)
    (hmap : channels.connectionChannelMap = s'.channels.connectionChannelMap) :
    Served s { s' with channels := channels } :=
  ⟨h.db, h.sessions, hmap.trans h.assigned, h.messages, h.connections, h.nextConnectionId, h.users,
    hcached⟩

/-- The user of a session, with the store after the lookup. -/
theorem served_getSessionUser (h : s.Consistent) (c : Nat) :
    Served s { s with users := (s.users.getSessionUser s.db c).1 } := by
  obtain ⟨-, hsessions, hcached⟩ := UserStore.getSessionUser_spec h.users c
  exact Served.withUsers h.served_refl hcached hsessions

/-- A session has a user, and `GetSessionUser` finds it. -/
theorem Consistent.getSessionUser_eq (h : s.Consistent) {c u : Nat}
    (hsession : (c, u) ∈ s.users.userSessions) :
    ∃ user, (s.users.getSessionUser s.db c).2 = some user ∧ user.id = u := by
  obtain ⟨row, hrow, hid⟩ := h.sessions c u hsession
  obtain ⟨hresult, -, -⟩ := UserStore.getSessionUser_spec h.users c
  refine ⟨row.toUser, ?_, hid⟩
  rw [hresult, Bimap.findLeft_eq_some.mpr hsession]
  exact Database.getUser_eq_some.mpr ⟨row, hrow, hid, rfl⟩

/-- `HasSession(connection_id)`. -/
theorem hasSession_iff {c : Nat} :
    s.users.hasSession c = true ↔ ∃ u, (c, u) ∈ s.users.userSessions := by
  unfold UserStore.hasSession
  rw [Option.isSome_iff_exists]
  exact exists_congr fun u => Bimap.findLeft_eq_some

/-- `HasSession(user_id)`. -/
theorem hasUserSession_iff {u : Nat} :
    s.users.hasUserSession u = true ↔ ∃ c, (c, u) ∈ s.users.userSessions := by
  unfold UserStore.hasUserSession
  rw [Option.isSome_iff_exists]
  exact exists_congr fun c => Bimap.findRight_eq_some

/-- A rejected RPC request. -/
theorem quiet_handleRpcError (c requestId : Nat) (text : String) :
    (handleRpcError c requestId text).Quiet := by
  simp [handleRpcError, Call.Quiet, Message.type]

/-- A handler that looks things up and rejects the request. -/
theorem handled_handleRpcError {m : Message} (hs : Served s s') (c requestId : Nat)
    (text : String) : Handled s c m s' [handleRpcError c requestId text] := by
  refine .served hs fun call hcall => ?_
  rw [List.mem_singleton.mp hcall]
  exact quiet_handleRpcError c requestId text

/-- A handler behind `ValidateSession(request_id, connection_id)`. -/
theorem handled_validateRpcSession (h : s.Consistent) {c requestId : Nat} {m : Message}
    {rest : ServerState × List Call}
    (hrest : ∀ u, (c, u) ∈ s.users.userSessions → Handled s c m rest.1 rest.2) :
    Handled s c m (s.validateRpcSession requestId c rest).1
      (s.validateRpcSession requestId c rest).2 := by
  unfold validateRpcSession
  by_cases hsession : s.users.hasSession c = true
  · rw [if_pos hsession]
    obtain ⟨u, hu⟩ := hasSession_iff.mp hsession
    exact hrest u hu
  · rw [if_neg hsession]
    exact handled_handleRpcError h.served_refl c requestId "Not authorized."

/-- A handler behind `ValidateSession(connection_id)`. -/
theorem handled_validateSession (h : s.Consistent) {c : Nat} {m : Message}
    {rest : ServerState × List Call}
    (hrest : ∀ u, (c, u) ∈ s.users.userSessions → Handled s c m rest.1 rest.2) :
    Handled s c m (s.validateSession c rest).1 (s.validateSession c rest).2 := by
  unfold validateSession
  by_cases hsession : s.users.hasSession c = true
  · rw [if_pos hsession]
    obtain ⟨u, hu⟩ := hasSession_iff.mp hsession
    exact hrest u hu
  · rw [if_neg hsession]
    refine .served h.served_refl fun call hcall => ?_
    rw [List.mem_singleton.mp hcall]
    simp [Call.Quiet, Message.type]

/-! ### The handlers -/

variable (h : s.Consistent) (c : Nat)
include h

/-- `HandleCreateUser` does what `Handled` allows. -/
theorem handled_handleCreateUser (m : CreateUserRequestMessage) :
    Handled s c (.createUserRequest m) (s.handleCreateUser c m).1 (s.handleCreateUser c m).2 := by
  unfold handleCreateUser
  by_cases hcached : s.users.hasUserNamed m.name = true
  · rw [if_pos hcached]
    exact handled_handleRpcError h.served_refl ..
  · rw [if_neg hcached]
    cases hcreate : s.db.createUser m.name m.password with
    | mk db result =>
      cases result with
      | none =>
        -- The name is taken by a user that is not cached, and the database stays as it is.
        rw [Database.createUser_eq_none hcreate]
        exact handled_handleRpcError h.served_refl ..
      | some u => exact .createdUser hcreate

/-- `HandleAuthenticateUser` does what `Handled` allows. -/
theorem handled_handleAuthenticateUser (m : AuthenticateUserRequestMessage) :
    Handled s c (.authenticateUserRequest m) (s.handleAuthenticateUser c m).1
      (s.handleAuthenticateUser c m).2 := by
  have hreject : ∀ text, Handled s c (.authenticateUserRequest m) s
      [handleRpcError c m.requestId text] := handled_handleRpcError h.served_refl c m.requestId
  unfold handleAuthenticateUser
  by_cases hsession : s.users.hasSession c = true
  · rw [if_pos hsession]
    exact hreject _
  · rw [if_neg hsession]
    cases hmatch : s.db.matchUserCredentials m.name m.password with
    | none => exact hreject _
    | some u =>
      by_cases huser : s.users.hasUserSession u.id = true
      · simp only [if_pos huser]
        exact hreject _
      · -- The two tests that failed are the guards that `AssignSession` needs.
        simp only [if_neg huser]
        refine .authenticated (fun u' hu' => ?_) hmatch (fun c' hc' => ?_)
        · exact hsession (hasSession_iff.mpr ⟨u', hu'⟩)
        · exact huser (hasUserSession_iff.mpr ⟨c', hc'⟩)

/-- `HandleGetUsers` does what `Handled` allows. -/
theorem handled_handleGetUsers (m : GetUsersRequestMessage) :
    Handled s c (.getUsersRequest m) (s.handleGetUsers c m).1 (s.handleGetUsers c m).2 := by
  refine handled_validateRpcSession h fun u _ => ?_
  obtain ⟨hsessions, hcached⟩ := UserStore.getUsers_spec m.userIds h.users
  refine .served (Served.withUsers h.served_refl hcached hsessions) ?_
  simp [Call.Quiet, Message.type]

/-- `HandleGetUser` does what `Handled` allows. -/
theorem handled_handleGetUser (m : GetUserRequestMessage) :
    Handled s c (.getUserRequest m) (s.handleGetUser c m).1 (s.handleGetUser c m).2 := by
  refine handled_validateRpcSession h fun u _ => ?_
  obtain ⟨-, hsessions, hcached⟩ := UserStore.getUserByName_spec h.users m.name
  have hserved := Served.withUsers h.served_refl hcached hsessions
  cases hresult : s.users.getUserByName s.db m.name with
  | mk users result =>
    rw [hresult] at hserved
    cases result with
    | none => exact handled_handleRpcError hserved ..
    | some user =>
      refine .served hserved ?_
      simp [Call.Quiet, Message.type]

omit h in
/-- A broadcast answers no request. -/
theorem quiet_channelBroadcast (channel : ChatChannel) (message : Message) :
    ∀ call ∈ s.channelBroadcast channel message, call.Quiet := by
  intro call hcall
  unfold channelBroadcast at hcall
  cases hconn : s.channels.getConnections channel.id with
  | none =>
    rw [hconn] at hcall
    cases hcall
  | some connections =>
    rw [hconn] at hcall
    rw [List.mem_singleton.mp hcall]
    trivial

/-- `HandleJoinChatChannel` does what `Handled` allows. -/
theorem handled_handleJoinChatChannel (m : JoinChatChannelRequestMessage) :
    Handled s c (.joinChatChannelRequest m) (s.handleJoinChatChannel c m).1
      (s.handleJoinChatChannel c m).2 := by
  refine handled_validateRpcSession h fun u hu => ?_
  have hserved := served_getSessionUser h c
  obtain ⟨user, huser, -⟩ := h.getSessionUser_eq hu
  cases hlookup : s.users.getSessionUser s.db c with
  | mk users potentialUser =>
    rw [hlookup] at hserved huser
    cases huser
    -- The channel of the request.
    obtain ⟨hfound, hmap, hcached⟩ := ChannelStore.getChannel_spec h.channels m.channelId
    have hserved' := Served.withChannels hserved hcached hmap
    cases hchannel : s.channels.getChannel s.db m.channelId with
    | mk channels potentialChannel =>
      rw [hchannel] at hserved' hfound hcached
      cases potentialChannel with
      | none =>
        simp only [hchannel]
        exact handled_handleRpcError hserved' ..
      | some channel =>
        obtain ⟨hid, hrow⟩ := Database.getChatChannel_eq_some.mp hfound.symm
        -- The channel that the connection leaves.
        obtain ⟨-, hmap', hcached'⟩ := ChannelStore.getAssignedChannel_spec hcached c
        have hserved'' := Served.withChannels hserved' hcached' hmap'
        simp only [hchannel]
        rw [hid]
        refine .joined hserved'' hu (hid ▸ List.mem_map_of_mem hrow) fun call hcall => ?_
        -- In front of the response stand the leave event, if any, and the join event.
        rcases List.mem_append.mp hcall with hcall | hcall
        · cases hprev : (channels.getAssignedChannel s.db c).2 with
          | none =>
            rw [hprev] at hcall
            cases hcall
          | some previous =>
            rw [hprev] at hcall
            exact quiet_channelBroadcast _ _ call hcall
        · exact quiet_channelBroadcast _ _ call hcall

/-- `HandleWriteChatMessage` of a connection with a session in a channel. -/
theorem handleWriteChatMessage_of_joined {u ch : Nat} (hsession : (c, u) ∈ s.users.userSessions)
    (hassigned : (c, ch) ∈ s.channels.connectionChannelMap) (m : WriteChatMessage) :
    ∃ s', Served s s' ∧ s.handleWriteChatMessage c m
      = ({ s' with messages := s.messages.createMessage ch u m.content },
        [.createMessage (s.messages.nextMessage ch u m.content),
          .broadcastTo (s.channels.connectionChannelMap.rangeRight ch)
            (.receiveChat ⟨u, ch, m.content⟩)]) := by
  have hserved := served_getSessionUser h c
  obtain ⟨user, huser, hid⟩ := h.getSessionUser_eq hsession
  -- The assigned channel is a row, so the lookup finds it.
  obtain ⟨hfound, hmap, hcached⟩ := ChannelStore.getAssignedChannel_spec h.channels c
  obtain ⟨channel, hrow, hchannel⟩ := List.mem_map.mp (h.assigned c ch hassigned)
  have hchannel' : channel.id = ch := hchannel
  rw [MultiBimap.findLeft_eq_some.mpr hassigned, Option.bind_some,
    Database.getChatChannel_eq_some.mpr ⟨hchannel', hrow⟩] at hfound
  refine ⟨_, Served.withChannels hserved hcached hmap, ?_⟩
  unfold handleWriteChatMessage validateSession
  rw [if_pos (hasSession_iff.mpr ⟨u, hsession⟩)]
  cases hlookup : s.users.getSessionUser s.db c with
  | mk users potentialUser =>
    rw [hlookup] at huser
    cases huser
    cases hassign : s.channels.getAssignedChannel s.db c with
    | mk channels potentialChannel =>
      rw [hassign] at hfound hmap
      cases hfound
      subst hid hchannel'
      -- The range of the channel has the sender in it, so `GetConnections` returns it.
      have hne : (s.channels.connectionChannelMap.rangeRight channel.id).isEmpty = false := by
        rw [List.isEmpty_eq_false_iff]
        exact List.ne_nil_of_mem (MultiBimap.mem_rangeRight.mpr hassigned)
      have hmap' : channels.connectionChannelMap = s.channels.connectionChannelMap := hmap
      simp only [hassign, channelBroadcast, ChannelStore.getConnections, hmap', hne]
      rfl

/-- `HandleWriteChatMessage` of a connection with a session and without a channel. -/
theorem handleWriteChatMessage_of_not_joined {u : Nat} (hsession : (c, u) ∈ s.users.userSessions)
    (hfree : ∀ ch, (c, ch) ∉ s.channels.connectionChannelMap) (m : WriteChatMessage) :
    s.handleWriteChatMessage c m
      = ({ s with users := (s.users.getSessionUser s.db c).1 },
        [.send c (.error ⟨"No channel joined."⟩)]) := by
  obtain ⟨user, huser, -⟩ := h.getSessionUser_eq hsession
  have hassign : s.channels.getAssignedChannel s.db c = (s.channels, none) := by
    unfold ChannelStore.getAssignedChannel
    rw [MultiBimap.findLeft_eq_none.mpr hfree]
  unfold handleWriteChatMessage validateSession
  rw [if_pos (hasSession_iff.mpr ⟨u, hsession⟩)]
  cases hlookup : s.users.getSessionUser s.db c with
  | mk users potentialUser =>
    rw [hlookup] at huser
    cases huser
    simp only [hassign]

omit h in
/-- `HandleWriteChatMessage` of a connection without a session. -/
theorem handleWriteChatMessage_of_no_session (hfree : ∀ u, (c, u) ∉ s.users.userSessions)
    (m : WriteChatMessage) :
    s.handleWriteChatMessage c m = (s, [.send c (.error ⟨"Not authorized."⟩)]) := by
  unfold handleWriteChatMessage validateSession
  rw [if_neg]
  rw [hasSession_iff]
  exact fun ⟨u, hu⟩ => hfree u hu

/-- `HandleWriteChatMessage` does what `Handled` allows. -/
theorem handled_handleWriteChatMessage (m : WriteChatMessage) :
    Handled s c (.writeChat m) (s.handleWriteChatMessage c m).1
      (s.handleWriteChatMessage c m).2 := by
  by_cases hsession : ∃ u, (c, u) ∈ s.users.userSessions
  · obtain ⟨u, hu⟩ := hsession
    by_cases hassigned : ∃ ch, (c, ch) ∈ s.channels.connectionChannelMap
    · obtain ⟨ch, hch⟩ := hassigned
      obtain ⟨s', hserved, heq⟩ := handleWriteChatMessage_of_joined h c hu hch m
      rw [heq]
      exact .wrote hserved hu hch
    · rw [handleWriteChatMessage_of_not_joined h c hu (fun ch hch => hassigned ⟨ch, hch⟩) m]
      refine .served (served_getSessionUser h c) ?_
      simp [Call.Quiet, Message.type]
  · rw [handleWriteChatMessage_of_no_session c (fun u hu => hsession ⟨u, hu⟩) m]
    refine .served h.served_refl ?_
    simp [Call.Quiet, Message.type]

/-- `HandleCreateChatChannel` does what `Handled` allows. -/
theorem handled_handleCreateChatChannel (m : CreateChannelRequestMessage) :
    Handled s c (.createChannelRequest m) (s.handleCreateChatChannel c m).1
      (s.handleCreateChatChannel c m).2 := by
  refine handled_validateRpcSession h fun u hu => ?_
  have hserved := served_getSessionUser h c
  obtain ⟨user, huser, -⟩ := h.getSessionUser_eq hu
  cases hlookup : s.users.getSessionUser s.db c with
  | mk users potentialUser =>
    rw [hlookup] at hserved huser
    cases huser
    cases hcreate : s.db.createChatChannel m.name with
    | mk db result =>
      simp only [hcreate]
      cases result with
      | some channel => exact .createdChannel hserved hcreate
      | none =>
        -- The name is taken, so the channel is looked up.
        rw [Database.createChatChannel_eq_none hcreate]
        obtain ⟨-, hmap, hcached⟩ := ChannelStore.getChannelByName_spec h.channels m.name
        have hserved' := Served.withChannels hserved hcached hmap
        cases hchannel : s.channels.getChannelByName s.db m.name with
        | mk channels cachedChannel =>
          rw [hchannel] at hserved'
          cases cachedChannel with
          | none => exact handled_handleRpcError hserved' ..
          | some channel =>
            refine .served hserved' ?_
            simp [Call.Quiet, Message.type]

/-- `HandleGetChatChannel` does what `Handled` allows. -/
theorem handled_handleGetChatChannel (m : GetChatChannelRequestMessage) :
    Handled s c (.getChatChannelRequest m) (s.handleGetChatChannel c m).1
      (s.handleGetChatChannel c m).2 := by
  refine handled_validateRpcSession h fun u _ => ?_
  obtain ⟨-, hmap, hcached⟩ := ChannelStore.getChannel_spec h.channels m.channelId
  have hserved := Served.withChannels h.served_refl hcached hmap
  cases hresult : s.channels.getChannel s.db m.channelId with
  | mk channels result =>
    rw [hresult] at hserved
    cases result with
    | none => exact handled_handleRpcError hserved ..
    | some channel =>
      refine .served hserved ?_
      simp [Call.Quiet, Message.type]

/-- `RemoveSession` of a connection with a session. -/
theorem removeSession_of_session {u : Nat} (hu : (c, u) ∈ s.users.userSessions) :
    ∃ users, Served s { s with users := users } ∧
      s.removeSession c = ({ s with users := users.removeSession c },
        [.broadcast (.userLogoutEvent ⟨u⟩)]) := by
  have hserved := served_getSessionUser h c
  obtain ⟨user, huser, hid⟩ := h.getSessionUser_eq hu
  refine ⟨_, hserved, ?_⟩
  unfold removeSession
  cases hlookup : s.users.getSessionUser s.db c with
  | mk users potentialUser =>
    rw [hlookup] at huser
    cases huser
    subst hid
    rfl

omit h in
/-- `RemoveSession` of a connection without a session. -/
theorem removeSession_of_not_session (hfree : ∀ u, (c, u) ∉ s.users.userSessions) :
    s.removeSession c = (s, []) := by
  unfold removeSession UserStore.getSessionUser
  rw [Bimap.findLeft_eq_none.mpr hfree]

/-- `HandleLogout` does what `Handled` allows. -/
theorem handled_handleLogout (m : LogoutRequestMessage) :
    Handled s c (.logoutRequest m) (s.handleLogout c m).1 (s.handleLogout c m).2 := by
  refine handled_validateRpcSession h fun u hu => ?_
  obtain ⟨users, hserved, hremove⟩ := removeSession_of_session h c hu
  simp only [hremove]
  exact .loggedOut hserved hu

/-- Handling a message does one of the things that `Handled` lists. -/
theorem handled_handle (m : Message) : Handled s c m (s.handle c m).1 (s.handle c m).2 := by
  have hrefl := h.served_refl
  cases m with
  | createUserRequest m => exact handled_handleCreateUser h c m
  | authenticateUserRequest m => exact handled_handleAuthenticateUser h c m
  | getUsersRequest m => exact handled_handleGetUsers h c m
  | getUserRequest m => exact handled_handleGetUser h c m
  | writeChat m => exact handled_handleWriteChatMessage h c m
  | createChannelRequest m => exact handled_handleCreateChatChannel h c m
  | joinChatChannelRequest m => exact handled_handleJoinChatChannel h c m
  | getChatsRequest m =>
    refine handled_validateRpcSession h fun u _ => ?_
    exact .read
  | getChatChannelsRequest m =>
    refine handled_validateRpcSession h fun u _ => .served hrefl ?_
    simp [Call.Quiet, Message.type]
  | getChatChannelRequest m => exact handled_handleGetChatChannel h c m
  | shutdown m =>
    refine handled_validateSession h fun u _ => ?_
    exact .served ⟨rfl, rfl, rfl, rfl, rfl, rfl, h.users, h.channels⟩ (by simp)
  | logoutRequest m => exact handled_handleLogout h c m
  | _ => exact .served hrefl (by simp [handle])

end ServerState

/-! ### The invariant of the stores -/

namespace ServerState

variable {s s' : ServerState}

/-- Lookups keep the invariant. -/
theorem Consistent.of_served (h : s.Consistent) (hs : Served s s') : s'.Consistent := by
  refine ⟨?_, ?_, ?_, ?_⟩
  · rw [hs.db]
    exact hs.users
  · rw [hs.db]
    exact hs.channels
  · rw [hs.db, hs.sessions]
    exact h.sessions
  · rw [hs.db, hs.assigned]
    exact h.assigned

/-- `Prewarm` establishes the invariant. -/
theorem consistent_begin (db : Database) : (begin db).Consistent := by
  obtain ⟨husers, hsessions⟩ := UserStore.prewarm_spec (UserStore.cachedFrom_empty db)
  obtain ⟨hchannels, hmap⟩ := ChannelStore.prewarm_spec (ChannelStore.cachedFrom_empty db)
  refine ⟨husers, hchannels, fun c u hmem => ?_, fun c ch hmem => ?_⟩
  · have hmem' : (c, u) ∈ (({} : UserStore).prewarm db).userSessions := hmem
    rw [hsessions] at hmem'
    exact absurd hmem' (Bimap.not_mem_empty _)
  · have hmem' : (c, ch) ∈ (({} : ChannelStore).prewarm db).connectionChannelMap := hmem
    rw [hmap] at hmem'
    exact absurd hmem' (MultiBimap.not_mem_empty _)

/-- A larger database keeps the invariant. -/
theorem Consistent.grow (h : s.Consistent) (db : Database)
    (husers : s.db.users.rows ⊆ db.users.rows)
    (hchannels : s.db.channels.rows ⊆ db.channels.rows) : ({ s with db := db }).Consistent := by
  refine ⟨h.users.mono husers, fun c hc => hchannels (h.channels hc), fun c u hu => ?_,
    fun c ch hch => ?_⟩
  · obtain ⟨row, hrow, hid⟩ := h.sessions c u hu
    exact ⟨row, husers hrow, hid⟩
  · exact List.map_subset _ hchannels (h.assigned c ch hch)

/-- A step of `Persist` keeps the invariant. -/
theorem Consistent.persistStep {db : Database} {messages : MessageStore} {p p' : PersistStep}
    (h : s.Consistent) (hstep : Server.persistStep s.db s.messages p = some (db, messages, p')) :
    ({ s with db := db, messages := messages }).Consistent := by
  obtain ⟨-, -, -, hchannels, husers⟩ := persistStep_frame hstep
  have hgrow := h.grow db (by rw [husers]; exact List.Subset.refl _)
    (by rw [hchannels]; exact List.Subset.refl _)
  exact ⟨hgrow.users, hgrow.channels, hgrow.sessions, hgrow.assigned⟩

/-- Every handled message keeps the invariant. -/
theorem Consistent.handled (h : s.Consistent) {c : Nat} {m : Message} {calls : List Call}
    (hh : Handled s c m s' calls) : s'.Consistent := by
  cases hh with
  | served hs _ => exact h.of_served hs
  | createdUser hcreate =>
    obtain ⟨-, hrows, hchannels, -⟩ := Database.createUser_spec hcreate
    refine h.grow _ ?_ ?_
    · rw [hrows]
      exact List.subset_append_left _ _
    · rw [hchannels]
      exact List.Subset.refl _
  | @authenticated r u hfree hmatch huser =>
    refine ⟨h.users, h.channels, fun c' u' hmem => ?_, h.assigned⟩
    rcases (Bimap.mem_insert hfree huser).mp hmem with hold | ⟨-, rfl⟩
    · exact h.sessions c' u' hold
    · exact ⟨_, (Database.matchUserCredentials_eq_some.mp hmatch).2, rfl⟩
  | @joined r s1 u calls hs hsession hchannel _ =>
    have h1 := h.of_served hs
    refine ⟨h1.users, h1.channels, h1.sessions, fun c' ch hmem => ?_⟩
    show ch ∈ s1.db.channels.keys
    rcases ChannelStore.mem_assignConnection.mp hmem with ⟨-, rfl⟩ | ⟨hold, -⟩
    · rw [hs.db]
      exact hchannel
    · exact h1.assigned c' ch hold
  | @loggedOut r s1 u hs hsession =>
    have h1 := h.of_served hs
    refine ⟨h1.users, h1.channels, fun c' u' hmem => ?_, fun c' ch hmem => ?_⟩
    · exact h1.sessions c' u' (Bimap.mem_eraseLeft.mp hmem).1
    · exact h1.assigned c' ch (MultiBimap.mem_eraseLeft.mp hmem).1
  | @createdChannel r s1 db channel u hs hcreate =>
    obtain ⟨-, hrows, husers, -⟩ := Database.createChatChannel_spec hcreate
    -- First the table grows, then the new row is cached.
    have hgrow : ({ s1 with db := db } : ServerState).Consistent := by
      refine (h.of_served hs).grow _ ?_ ?_
      · rw [hs.db, husers]
        exact List.Subset.refl _
      · rw [hs.db, hrows]
        exact List.subset_append_left _ _
    have hmem : channel ∈ db.channels.rows := by
      rw [hrows]
      exact List.mem_append_right _ (List.mem_singleton_self _)
    obtain ⟨-, hmap, hcached⟩ := ChannelStore.cacheChannel_spec hgrow.channels hmem
    refine ⟨hgrow.users, hcached, hgrow.sessions, fun c' ch hch => ?_⟩
    exact hgrow.assigned c' ch (hmap ▸ hch)
  | read => exact ⟨h.users, h.channels, h.sessions, h.assigned⟩
  | wrote hs _ _ =>
    have h1 := h.of_served hs
    exact ⟨h1.users, h1.channels, h1.sessions, h1.assigned⟩

/-- `RemoveSession` erases the session, if there is one, and touches nothing but users. -/
theorem removeSession_spec (h : s.Consistent) (c : Nat) :
    ∃ users, Served s { s with users := users } ∧
      (s.removeSession c).1.users.userSessions = users.userSessions.eraseLeft c ∧
      (s.removeSession c).1 = { s with users := (s.removeSession c).1.users } ∧
      (s.removeSession c).1.users.CachedFrom s.db ∧
      ∀ call ∈ (s.removeSession c).2, call.Quiet := by
  by_cases hsession : ∃ u, (c, u) ∈ s.users.userSessions
  · obtain ⟨u, hu⟩ := hsession
    obtain ⟨users, hserved, hremove⟩ := removeSession_of_session h c hu
    rw [hremove]
    refine ⟨users, hserved, rfl, rfl, hserved.users, fun call hcall => ?_⟩
    rw [List.mem_singleton.mp hcall]
    trivial
  · have hfree : ∀ u, (c, u) ∉ s.users.userSessions := fun u hu => hsession ⟨u, hu⟩
    rw [removeSession_of_not_session c hfree]
    refine ⟨s.users, h.served_refl, ?_, rfl, h.users, by simp⟩
    rw [Bimap.eraseLeft_of_not_mem hfree]

/-- `OnDisconnected` keeps the invariant. -/
theorem Consistent.removeSession (h : s.Consistent) (c : Nat) :
    (s.removeSession c).1.Consistent := by
  obtain ⟨users, hserved, hsessions, heq, hcached, -⟩ := removeSession_spec h c
  rw [heq]
  refine ⟨hcached, h.channels, fun c' u hmem => ?_, h.assigned⟩
  have hmem' : (c', u) ∈ (s.removeSession c).1.users.userSessions := hmem
  rw [hsessions] at hmem'
  have hold := (Bimap.mem_eraseLeft.mp hmem').1
  exact h.sessions c' u (hserved.sessions ▸ hold)

/-- A join without a session, or of a channel that is in no row, assigns nothing. -/
theorem channelMap_handleJoinChatChannel (h : s.Consistent) {c : Nat}
    {m : JoinChatChannelRequestMessage}
    (hno : (∀ u, (c, u) ∉ s.users.userSessions) ∨ m.channelId ∉ s.db.channels.keys) :
    (s.handleJoinChatChannel c m).1.channels.connectionChannelMap
      = s.channels.connectionChannelMap := by
  have hh := handled_handleJoinChatChannel h c m
  revert hh
  generalize s.handleJoinChatChannel c m = result
  obtain ⟨s', calls⟩ := result
  intro hh
  cases hh with
  | served hs _ => exact hs.assigned
  | joined hs hsession hchannel _ =>
    rcases hno with hno | hno
    · exact absurd hsession (hno _)
    · exact absurd hchannel hno

end ServerState

end ChatCore.Server
