import ChatCore.Proofs.Answers
import ChatCore.Proofs.Sessions

/-!
# `ChatCore.Proofs.ChannelList`: channel creation and the list of channels

The list of channels is answered from the cache, and the cache is filled by `Prewarm`, by the
creation of a channel and by lookups that miss. `ChannelStore.Complete` says that the cache and
the table have the same rows. Then no lookup misses for a channel of the table, so only a creation
changes the cache, and it adds the row that the database added.

What a request for a channel is answered with is read off `replies`, and the channels of these
answers are rows of the table. Rows are never changed, and both their ids and their names are
unique.
-/

set_option autoImplicit false

namespace ChatCore.Server

open ChatCore.Api
open ChatCore.Lib

/-! ### A complete cache -/

namespace ChannelStore

variable {s : ChannelStore} {db : Database}

/-- The cache has the rows of the table. -/
def Complete (s : ChannelStore) (db : Database) : Prop := s.channels.rows = db.channels.rows

/-- A complete cache finds the channel that the table has. -/
theorem Complete.find_eq (h : s.Complete db) (p : ChatChannel → Bool) :
    s.channels.find p = db.channels.find p := by
  unfold Table.find
  rw [h]

/-- A lookup in a complete cache leaves the cache as it is. -/
theorem Complete.getChannel (h : s.Complete db) (channelId : Nat) :
    (s.getChannel db channelId).1 = s := by
  unfold ChannelStore.getChannel
  cases hfind : s.channels.find (·.id = channelId) with
  | some channel => rfl
  | none =>
    rw [h.find_eq] at hfind
    show (s.cacheFound (db.getChatChannel channelId)).1 = s
    unfold Database.getChatChannel
    rw [hfind]
    rfl

/-- The lookup of a name changes nothing. -/
theorem Complete.getChannelByName (h : s.Complete db) (name : String) :
    (s.getChannelByName db name).1 = s := by
  unfold ChannelStore.getChannelByName
  cases hfind : s.channels.find (·.name = name) with
  | some channel => rfl
  | none =>
    rw [h.find_eq] at hfind
    show (s.cacheFound (db.getChatChannelByName name)).1 = s
    unfold Database.getChatChannelByName
    rw [hfind]
    rfl

/-- The lookup of an assigned channel changes nothing. -/
theorem Complete.getAssignedChannel (h : s.Complete db) (connectionId : Nat) :
    (s.getAssignedChannel db connectionId).1 = s := by
  unfold ChannelStore.getAssignedChannel
  cases s.connectionChannelMap.findLeft connectionId with
  | none => rfl
  | some channelId => exact h.getChannel channelId

/-- A channel with an id above the cached ones goes to the end of the cache. -/
theorem cacheChannel_of_forall_lt {channel : ChatChannel}
    (h : ∀ x ∈ s.channels.rows, x.id < channel.id) :
    (s.cacheChannel channel).2 = channel ∧
      (s.cacheChannel channel).1.channels.rows = s.channels.rows ++ [channel] := by
  obtain ⟨channels, hinsert, hrows⟩ := Table.insert_of_forall_lt h
  unfold cacheChannel
  rw [hinsert]
  exact ⟨rfl, hrows⟩

/-- `Prewarm` caches the whole table. -/
theorem complete_prewarm (db : Database) : (({} : ChannelStore).prewarm db).Complete db := by
  -- The rows come in ascending order, so each of them goes to the end.
  have hloop : ∀ (rows : List ChatChannel) (s : ChannelStore),
      (s.channels.rows ++ rows).Pairwise (·.id < ·.id) →
      (rows.foldl (fun s channel => (s.cacheChannel channel).1) s).channels.rows
        = s.channels.rows ++ rows := by
    intro rows
    induction rows with
    | nil => intro s _; exact (List.append_nil _).symm
    | cons row rows ih =>
      intro s hasc
      have hlt : ∀ x ∈ s.channels.rows, x.id < row.id := fun x hx =>
        (List.pairwise_append.mp hasc).2.2 x hx row List.mem_cons_self
      obtain ⟨-, hrows⟩ := cacheChannel_of_forall_lt hlt
      rw [List.append_cons, ← hrows] at hasc
      rw [List.foldl_cons, ih _ hasc, hrows, ← List.append_cons]
  exact hloop db.channels.rows {} db.channels.pairwise_rows

end ChannelStore

/-! ### The handlers -/

namespace ServerState

variable {s s' : ServerState} {c : Nat}

/-- The table of channels and its cache are the same. -/
structure KeepsChannels (s s' : ServerState) : Prop where
  table : s'.db.channels = s.db.channels
  cache : s'.channels.channels = s.channels.channels

/-- Doing nothing keeps the channels. -/
theorem KeepsChannels.refl (s : ServerState) : KeepsChannels s s := ⟨rfl, rfl⟩

/-- A session check keeps the channels when what follows does. -/
theorem KeepsChannels.validateRpcSession {requestId : Nat} {rest : ServerState × List Call}
    (h : KeepsChannels s rest.1) : KeepsChannels s (s.validateRpcSession requestId c rest).1 := by
  unfold ServerState.validateRpcSession
  split
  · exact h
  · exact .refl s

/-- The check of a message without a request id does as well. -/
theorem KeepsChannels.validateSession {rest : ServerState × List Call}
    (h : KeepsChannels s rest.1) : KeepsChannels s (s.validateSession c rest).1 := by
  unfold ServerState.validateSession
  split
  · exact h
  · exact .refl s

/-- The channel that handling a message of `c` inserts into the table. -/
def newChannel (s : ServerState) (c : Nat) : Message → Option ChatChannel
  | .createChannelRequest m =>
    (s.users.userSessions.findLeft c).bind fun _ => (s.db.createChatChannel m.name).2
  | _ => none

/-- `HandleCreateUser` keeps the channels. -/
theorem keepsChannels_handleCreateUser (m : CreateUserRequestMessage) :
    KeepsChannels s (s.handleCreateUser c m).1 := by
  unfold handleCreateUser
  split
  · exact .refl s
  · cases hcreate : s.db.createUser m.name m.password with
    | mk db result =>
      cases result with
      | none => exact ⟨congrArg _ (Database.createUser_eq_none hcreate), rfl⟩
      | some user => exact ⟨(Database.createUser_spec hcreate).2.2.1, rfl⟩

/-- `HandleAuthenticateUser` keeps the channels. -/
theorem keepsChannels_handleAuthenticateUser (m : AuthenticateUserRequestMessage) :
    KeepsChannels s (s.handleAuthenticateUser c m).1 := by
  unfold handleAuthenticateUser
  split
  · exact .refl s
  · split
    · exact .refl s
    · split
      · exact .refl s
      · exact ⟨rfl, rfl⟩

/-- `HandleGetUser` keeps the channels. -/
theorem keepsChannels_handleGetUser (m : GetUserRequestMessage) :
    KeepsChannels s (s.handleGetUser c m).1 := by
  refine KeepsChannels.validateRpcSession ?_
  cases s.users.getUserByName s.db m.name with
  | mk users result => cases result <;> exact ⟨rfl, rfl⟩

/-- `RemoveSession` keeps the channels. -/
theorem keepsChannels_removeSession (c : Nat) : KeepsChannels s (s.removeSession c).1 := by
  unfold removeSession
  cases s.users.getSessionUser s.db c with
  | mk users potentialUser => cases potentialUser <;> exact ⟨rfl, rfl⟩

variable (hc : s.channels.Complete s.db)
include hc

/-- `HandleGetChatChannel` keeps the channels. -/
theorem keepsChannels_handleGetChatChannel (m : GetChatChannelRequestMessage) :
    KeepsChannels s (s.handleGetChatChannel c m).1 := by
  refine KeepsChannels.validateRpcSession ?_
  have hkeep := hc.getChannel m.channelId
  cases hresult : s.channels.getChannel s.db m.channelId with
  | mk channels result =>
    rw [hresult] at hkeep
    cases result <;> exact ⟨rfl, congrArg _ hkeep⟩

/-- `HandleJoinChatChannel` keeps the channels. -/
theorem keepsChannels_handleJoinChatChannel (m : JoinChatChannelRequestMessage) :
    KeepsChannels s (s.handleJoinChatChannel c m).1 := by
  refine KeepsChannels.validateRpcSession ?_
  cases s.users.getSessionUser s.db c with
  | mk users potentialUser =>
    cases potentialUser with
    | none => exact ⟨rfl, rfl⟩
    | some user =>
      have hkeep := hc.getChannel m.channelId
      have hkeep' := hc.getAssignedChannel c
      cases hresult : s.channels.getChannel s.db m.channelId with
      | mk channels result =>
        rw [hresult] at hkeep
        obtain rfl : channels = s.channels := hkeep
        simp only [hresult]
        cases result with
        | none => exact ⟨rfl, rfl⟩
        | some channel =>
          refine ⟨rfl, ?_⟩
          show (s.channels.getAssignedChannel s.db c).1.channels = s.channels.channels
          rw [hkeep']

/-- `HandleWriteChatMessage` keeps the channels. -/
theorem keepsChannels_handleWriteChatMessage (m : WriteChatMessage) :
    KeepsChannels s (s.handleWriteChatMessage c m).1 := by
  refine KeepsChannels.validateSession ?_
  cases s.users.getSessionUser s.db c with
  | mk users potentialUser =>
    cases potentialUser with
    | none => exact ⟨rfl, rfl⟩
    | some user =>
      have hkeep := hc.getAssignedChannel c
      cases hresult : s.channels.getAssignedChannel s.db c with
      | mk channels result =>
        rw [hresult] at hkeep
        simp only [hresult]
        cases result <;> exact ⟨rfl, congrArg _ hkeep⟩

/-- The request for a new channel inserts a row and caches it, or it changes neither. -/
theorem complete_handleCreateChatChannel (h : s.Consistent) (m : CreateChannelRequestMessage) :
    (s.handleCreateChatChannel c m).1.db.channels.rows
        = s.db.channels.rows ++ (s.newChannel c (.createChannelRequest m)).toList ∧
      (s.handleCreateChatChannel c m).1.channels.Complete (s.handleCreateChatChannel c m).1.db := by
  unfold handleCreateChatChannel ServerState.validateRpcSession
  split
  · rename_i hsession
    obtain ⟨u, hu⟩ := hasSession_iff.mp hsession
    obtain ⟨user, huser, -⟩ := h.getSessionUser_eq hu
    have hnew : s.newChannel c (.createChannelRequest m) = (s.db.createChatChannel m.name).2 := by
      unfold newChannel
      rw [Bimap.findLeft_eq_some.mpr hu]
      rfl
    rw [hnew]
    cases hlookup : s.users.getSessionUser s.db c with
    | mk users potentialUser =>
      rw [hlookup] at huser
      cases huser
      cases hcreate : s.db.createChatChannel m.name with
      | mk db result =>
        simp only [hcreate]
        cases result with
        | none =>
          obtain rfl := Database.createChatChannel_eq_none hcreate
          have hkeep := hc.getChannelByName m.name
          cases hresult : s.channels.getChannelByName s.db m.name with
          | mk channels cached =>
            rw [hresult] at hkeep
            obtain rfl : channels = s.channels := hkeep
            cases cached <;> exact ⟨(List.append_nil _).symm, hc⟩
        | some channel =>
          obtain ⟨-, hrows, -, -⟩ := Database.createChatChannel_spec hcreate
          -- The new id is above the ids of the table, and so above the cached ones.
          have hlt : ∀ x ∈ s.channels.channels.rows, x.id < channel.id := by
            have hasc := db.channels.pairwise_rows
            rw [hrows] at hasc
            rw [show s.channels.channels.rows = s.db.channels.rows from hc]
            exact fun x hx => (List.pairwise_append.mp hasc).2.2 x hx channel List.mem_cons_self
          obtain ⟨-, hcache⟩ := ChannelStore.cacheChannel_of_forall_lt hlt
          refine ⟨hrows, ?_⟩
          show (s.channels.cacheChannel channel).1.channels.rows = db.channels.rows
          rw [hcache, hrows, show s.channels.channels.rows = s.db.channels.rows from hc]
  · rename_i hsession
    have hnew : s.newChannel c (.createChannelRequest m) = none := by
      unfold newChannel
      rw [findLeft_of_not_hasSession hsession]
      rfl
    rw [hnew]
    exact ⟨(List.append_nil _).symm, hc⟩

/-- What handling a message does to the table of channels. The cache stays complete. -/
theorem complete_handle (h : s.Consistent) (c : Nat) (m : Message) :
    (s.handle c m).1.db.channels.rows = s.db.channels.rows ++ (s.newChannel c m).toList ∧
      (s.handle c m).1.channels.Complete (s.handle c m).1.db := by
  -- All requests but one keep the table and the cache.
  have hkept : ∀ {result : ServerState × List Call}, KeepsChannels s result.1 →
      result.1.db.channels.rows = s.db.channels.rows ++ [] ∧
        result.1.channels.Complete result.1.db := by
    intro result hkeep
    refine ⟨by rw [hkeep.table, List.append_nil], ?_⟩
    show result.1.channels.channels.rows = result.1.db.channels.rows
    rw [hkeep.cache, hkeep.table]
    exact hc
  cases m with
  | createChannelRequest m => exact complete_handleCreateChatChannel hc h m
  | createUserRequest m => exact hkept (keepsChannels_handleCreateUser m)
  | authenticateUserRequest m => exact hkept (keepsChannels_handleAuthenticateUser m)
  | getUsersRequest m => exact hkept (KeepsChannels.validateRpcSession ⟨rfl, rfl⟩)
  | getUserRequest m => exact hkept (keepsChannels_handleGetUser m)
  | writeChat m => exact hkept (keepsChannels_handleWriteChatMessage hc m)
  | joinChatChannelRequest m => exact hkept (keepsChannels_handleJoinChatChannel hc m)
  | getChatsRequest m => exact hkept (KeepsChannels.validateRpcSession ⟨rfl, rfl⟩)
  | getChatChannelsRequest m => exact hkept (KeepsChannels.validateRpcSession (.refl s))
  | getChatChannelRequest m => exact hkept (keepsChannels_handleGetChatChannel hc m)
  | shutdown m => exact hkept (KeepsChannels.validateSession ⟨rfl, rfl⟩)
  | logoutRequest m =>
    refine hkept (KeepsChannels.validateRpcSession ?_)
    exact ⟨(keepsChannels_removeSession c).table, (keepsChannels_removeSession c).cache⟩
  | _ => exact hkept (.refl s)

end ServerState

/-! ### The answers and the events -/

/-- The names of the channels whose creation an event announces. -/
def Event.announced (e : Event) : List String :=
  e.calls.filterMap fun
    | .broadcast (.channelCreateEvent m) => some m.channel.name
    | _ => none

namespace ServerState

variable {s : ServerState} {c : Nat}

/-- The calls hand over no message about the creation or the list of channels. -/
def NoChannelNews (calls : List Call) : Prop :=
  ∀ call ∈ calls, ∀ message ∈ call.message,
    message.type ≠ .createChannelResponse ∧ message.type ≠ .channelCreateEvent ∧
      message.type ≠ .getChatChannelsResponse

/-- Only two requests are answered with news of channels. -/
theorem noChannelNews_replies (m : Message) (hcreate : m.type ≠ .createChannelRequest)
    (hlist : m.type ≠ .getChatChannelsRequest) : NoChannelNews (s.replies c m) := by
  have htypes : ∀ request : MessageType, request ≠ .createChannelRequest →
      request ≠ .getChatChannelsRequest → ∀ type ∈ replyTypes request,
        type ≠ .createChannelResponse ∧ type ≠ .channelCreateEvent ∧
          type ≠ .getChatChannelsResponse := by
    intro request
    cases request <;> decide
  intro call hcall message hmessage
  exact htypes m.type hcreate hlist _ (ofTypes_replies m call hcall message hmessage)

/-- The replies to a request for a new channel. An inserted channel is announced. -/
theorem replies_createChannel (m : CreateChannelRequestMessage) :
    (∃ text, s.replies c (.createChannelRequest m) = [handleRpcError c m.requestId text] ∧
        s.newChannel c (.createChannelRequest m) = none) ∨
      (∃ channel ∈ s.db.channels.rows, channel.name = m.name ∧
        s.replies c (.createChannelRequest m)
          = [.send c (.createChannelResponse ⟨m.requestId, channel⟩)] ∧
        s.newChannel c (.createChannelRequest m) = none) ∨
      ∃ channel u, channel.name = m.name ∧ m.name ∉ s.db.channels.rows.map ChatChannel.name ∧
        s.replies c (.createChannelRequest m)
          = [.send c (.createChannelResponse ⟨m.requestId, channel⟩),
            .broadcast (.channelCreateEvent ⟨channel, u⟩)] ∧
        s.newChannel c (.createChannelRequest m) = some channel := by
  simp only [replies, authorized, newChannel]
  cases s.users.userSessions.findLeft c with
  | none => exact .inl ⟨_, rfl, rfl⟩
  | some u =>
    cases hname : s.db.getChatChannelByName m.name with
    | some channel =>
      obtain ⟨heq, hrow⟩ := Database.getChatChannelByName_eq_some.mp hname
      refine .inr (.inl ⟨channel, hrow, heq, rfl, ?_⟩)
      show (s.db.createChatChannel m.name).2 = none
      rw [Database.createChatChannel_of_taken hname]
    | none =>
      refine .inr (.inr ⟨_, u, rfl, fun hmem => ?_, rfl, Database.createChatChannel_of_fresh hname⟩)
      obtain ⟨channel, hrow, heq⟩ := List.mem_map.mp hmem
      rw [Database.getChatChannelByName_eq_some.mpr ⟨heq, hrow⟩] at hname
      cases hname

/-- What the calls of a handled message say about channels. -/
structure ChannelNews (s : ServerState) (c : Nat) (m : Message) (calls : List Call) : Prop where
  response : ∀ c' requestId channel,
    Call.send c' (.createChannelResponse ⟨requestId, channel⟩) ∈ calls →
      c' = c ∧ m = .createChannelRequest ⟨requestId, channel.name⟩ ∧
      channel ∈ s.db.channels.rows ++ (s.newChannel c m).toList
  event : ∀ channel u, Call.broadcast (.channelCreateEvent ⟨channel, u⟩) ∈ calls →
    (∃ requestId, m = .createChannelRequest ⟨requestId, channel.name⟩) ∧
      channel.name ∉ s.db.channels.rows.map ChatChannel.name ∧ s.newChannel c m = some channel
  announced : (⟨.handle c m, calls⟩ : Event).announced
    = (s.newChannel c m).toList.map ChatChannel.name
  fresh : ∀ channel, s.newChannel c m = some channel →
    channel.name ∉ s.db.channels.rows.map ChatChannel.name
  list : ∀ c' requestId channels,
    Call.send c' (.getChatChannelsResponse ⟨requestId, channels⟩) ∈ calls →
      channels = s.channels.getChannels

/-- Calls without news of a channel announce none. -/
theorem announced_of_noChannelNews {op : ServerOp} {calls : List Call} (h : NoChannelNews calls) :
    (⟨op, calls⟩ : Event).announced = [] := by
  refine List.filterMap_eq_nil_iff.mpr fun call hcall => ?_
  cases call with
  | broadcast message =>
    cases message with
    | channelCreateEvent m => exact absurd rfl (h _ hcall _ rfl).2.1
    | _ => rfl
  | _ => rfl

/-- Calls without news of channels, for a message that inserts none. -/
theorem NoChannelNews.channelNews {m : Message} {calls : List Call} (h : NoChannelNews calls)
    (hnew : s.newChannel c m = none) : ChannelNews s c m calls where
  response c' requestId channel hmem := absurd rfl (h _ hmem _ rfl).1
  event channel u hmem := absurd rfl (h _ hmem _ rfl).2.1
  announced := by
    rw [hnew]
    exact announced_of_noChannelNews h
  fresh channel hchannel := by
    rw [hnew] at hchannel
    cases hchannel
  list c' requestId channels hmem := absurd rfl (h _ hmem _ rfl).2.2

/-- An error response is no news of a channel. -/
theorem noChannelNews_handleRpcError (c requestId : Nat) (text : String) :
    NoChannelNews [handleRpcError c requestId text] := by
  simp [NoChannelNews, handleRpcError, Call.message, Message.type]

/-- The request for a new channel: it is refused, or the channel is there, or it is inserted. -/
theorem channelNews_createChannel (c : Nat) (m : CreateChannelRequestMessage) :
    ChannelNews s c (.createChannelRequest m) (s.replies c (.createChannelRequest m)) := by
  obtain ⟨text, hreplies, hnew⟩ | ⟨channel, hrow, hname, hreplies, hnew⟩ |
    ⟨channel, u, hname, hfresh, hreplies, hnew⟩ := @replies_createChannel s c m
  · rw [hreplies]
    exact (noChannelNews_handleRpcError c m.requestId text).channelNews hnew
  · rw [hreplies]
    refine ⟨?_, by simp, by rw [hnew]; rfl, by simp [hnew], by simp⟩
    intro c' requestId channel' hmem
    obtain ⟨rfl, rfl, rfl⟩ : c' = c ∧ requestId = m.requestId ∧ channel' = channel := by
      simpa using hmem
    exact ⟨rfl, by rw [hname], List.mem_append_left _ hrow⟩
  · rw [hreplies]
    refine ⟨?_, ?_, ?_, ?_, by simp⟩
    · intro c' requestId channel' hmem
      obtain ⟨rfl, rfl, rfl⟩ : c' = c ∧ requestId = m.requestId ∧ channel' = channel := by
        simpa using hmem
      refine ⟨rfl, by rw [hname], List.mem_append_right _ ?_⟩
      rw [hnew]
      exact List.mem_singleton.mpr rfl
    · intro channel' u' hmem
      obtain ⟨rfl, rfl⟩ : channel' = channel ∧ u' = u := by simpa using hmem
      rw [hname]
      exact ⟨⟨m.requestId, rfl⟩, hfresh, hnew⟩
    · rw [hnew]
      rfl
    · intro channel' hchannel
      obtain rfl : channel = channel' := Option.some.inj (hnew.symm.trans hchannel)
      rw [hname]
      exact hfresh

/-- The request for the list of channels. -/
theorem channelNews_getChatChannels (c : Nat) (m : GetChatChannelsRequestMessage) :
    ChannelNews s c (.getChatChannelsRequest m) (s.replies c (.getChatChannelsRequest m)) := by
  rw [show s.replies c (.getChatChannelsRequest m) = s.authorized c
    (notAuthorized m.requestId) fun _ => [.send c
      (.getChatChannelsResponse ⟨m.requestId, s.channels.getChannels⟩)] from rfl]
  unfold authorized
  cases s.users.userSessions.findLeft c with
  | none => exact (noChannelNews_handleRpcError c m.requestId _).channelNews rfl
  | some u =>
    refine ⟨by simp, by simp, rfl, by simp [newChannel], fun c' requestId channels hmem => ?_⟩
    obtain ⟨-, -, rfl⟩ : c' = c ∧ requestId = m.requestId ∧
      channels = s.channels.getChannels := by simpa using hmem
    rfl

/-- What a handler sends has news of the channel that it creates, and of no other. -/
theorem channelNews_replies (c : Nat) (m : Message) : ChannelNews s c m (s.replies c m) := by
  by_cases hcreate : m.type = .createChannelRequest
  · cases m with
    | createChannelRequest m => exact channelNews_createChannel c m
    | _ => cases hcreate
  · by_cases hlist : m.type = .getChatChannelsRequest
    · cases m with
      | getChatChannelsRequest m => exact channelNews_getChatChannels c m
      | _ => cases hlist
    · have hnew : s.newChannel c m = none := by
        cases m with
        | createChannelRequest m => exact absurd rfl hcreate
        | _ => rfl
      exact (noChannelNews_replies m hcreate hlist).channelNews hnew

end ServerState

/-! ### Runs -/

namespace ServerRun

open ServerState (ChannelNews NoChannelNews KeepsChannels)

variable {r r' : ServerRun} {op : ServerOp}

/-- The cache is complete. The channels of all responses and events so far are rows, and no name
was announced twice. -/
structure ChannelInv (r : ServerRun) : Prop where
  consistent : r.server.Consistent
  complete : r.server.channels.Complete r.server.db
  responses : ∀ e ∈ r.trace, ∀ c requestId channel,
    Call.send c (.createChannelResponse ⟨requestId, channel⟩) ∈ e.calls →
      e.op = .handle c (.createChannelRequest ⟨requestId, channel.name⟩) ∧
      channel ∈ r.server.db.channels.rows
  announced : ∀ name ∈ r.trace.flatMap Event.announced,
    name ∈ r.server.db.channels.rows.map ChatChannel.name
  nodup : (r.trace.flatMap Event.announced).Nodup

/-- A handled message. A name that it announces is new in the table, and therefore new in the
trace. -/
theorem ChannelInv.handle (h : ChannelInv r) (c : Nat) (m : Message) :
    ChannelInv (r.record (.handle c m) (r.server.handle c m)) := by
  obtain ⟨hrows, hcomplete⟩ := ServerState.complete_handle h.complete h.consistent c m
  have hnews := @ServerState.channelNews_replies r.server c m
  rw [← ServerState.handle_replies h.consistent c m] at hnews
  have hannounced : (r.record (.handle c m) (r.server.handle c m)).trace.flatMap Event.announced
      = r.trace.flatMap Event.announced
        ++ (r.server.newChannel c m).toList.map ChatChannel.name := by
    show (r.trace ++ [_]).flatMap Event.announced = _
    rw [List.flatMap_append, List.flatMap_singleton, hnews.announced]
  refine ⟨h.consistent.handled (ServerState.handled_handle h.consistent c m), hcomplete, ?_, ?_, ?_⟩
  · intro e he c' requestId channel hmem
    show _ ∧ channel ∈ (r.server.handle c m).1.db.channels.rows
    rw [hrows]
    rcases List.mem_append.mp he with hold | hnew
    · obtain ⟨hop, hrow⟩ := h.responses e hold c' requestId channel hmem
      exact ⟨hop, List.mem_append_left _ hrow⟩
    · obtain rfl := List.mem_singleton.mp hnew
      obtain ⟨rfl, rfl, hrow⟩ := hnews.response c' requestId channel hmem
      exact ⟨rfl, hrow⟩
  · rw [hannounced]
    show ∀ name ∈ _, name ∈ (r.server.handle c m).1.db.channels.rows.map ChatChannel.name
    rw [hrows, List.map_append]
    intro name hname
    rcases List.mem_append.mp hname with hold | hnew
    · exact List.mem_append_left _ (h.announced name hold)
    · exact List.mem_append_right _ hnew
  · rw [hannounced]
    refine List.Nodup.append h.nodup ?_ ?_
    · cases r.server.newChannel c m <;> simp
    · intro name hold hnew
      obtain ⟨channel, hchannel, rfl⟩ := List.mem_map.mp hnew
      exact hnews.fresh channel (Option.mem_toList.mp hchannel) (h.announced _ hold)

end ServerRun

end ChatCore.Server
