import ChatCore.Api.RpcCalls
import ChatCore.Server.Handlers

/-!
# `ChatCore.Server.Replies`: what a client is told

The replies to a message, as functions of the database, the sessions and the assignments. No
cache of users or channels is read, except for the list of channels, which the server answers
from its cache. This is a specification and not a part of the source. `handle_replies`
(`ChatCore.Proofs.Replies`) says that the handlers meet it.
-/

set_option autoImplicit false

namespace ChatCore.Server

open ChatCore.Api

namespace ServerState

/-- A reply that needs a session: `rest` is given the user of the session. -/
def authorized (s : ServerState) (c : Nat) (error : Message) (rest : Nat → List Call) :
    List Call :=
  match s.users.userSessions.findLeft c with
  | none => [.send c error]
  | some user => rest user

/-- The error that a request without a session gets. -/
def notAuthorized (requestId : Nat) : Message := .errorResponse ⟨requestId, "Not authorized."⟩

/-- The events and the response of a join. The connection is still in its previous channel when
the leave event is broadcast. -/
def joinReplies (s : ServerState) (c user channel requestId : Nat) : List Call :=
  let map := s.channels.connectionChannelMap
  let leave := (map.findLeft c).elim [] fun previous =>
    [.broadcastTo (map.rangeRight previous) (.channelLeaveEvent ⟨previous, user⟩)]
  let assigned := (s.channels.assignConnection c channel).connectionChannelMap
  leave ++ [.broadcastTo (assigned.rangeRight channel) (.channelJoinEvent ⟨channel, user⟩),
    .send c (.joinChatChannelResponse ⟨requestId, channel⟩)]

/-- The calls that handling a message of connection `c` makes. -/
def replies (s : ServerState) (c : Nat) : Message → List Call
  | .createUserRequest m =>
    if m.name ∈ s.db.users.rows.map UserRow.name then
      [handleRpcError c m.requestId "User already exists."]
    else [.send c (.createUserResponse ⟨m.requestId, ⟨s.db.users.nextKey, m.name⟩⟩)]
  | .authenticateUserRequest m =>
    match s.users.userSessions.findLeft c, s.db.matchUserCredentials m.name m.password with
    | some _, _ => [handleRpcError c m.requestId "Already logged in."]
    | none, none => [handleRpcError c m.requestId "Wrong username or password"]
    | none, some user =>
      if s.users.hasUserSession user.id then
        [handleRpcError c m.requestId (m.name ++ " is already logged in.")]
      else
        [.send c (.authenticateUserResponse ⟨m.requestId, user⟩),
          .broadcast (.userLoginEvent ⟨user.id⟩)]
  | .getUsersRequest m =>
    s.authorized c (notAuthorized m.requestId) fun _ =>
      [.send c (.getUsersResponse ⟨m.requestId, m.userIds.filterMap s.db.getUser⟩)]
  | .getUserRequest m =>
    s.authorized c (notAuthorized m.requestId) fun _ =>
      match s.db.getUserByName m.name with
      | none => [handleRpcError c m.requestId ("User with name " ++ m.name ++ " not found")]
      | some user => [.send c (.getUserResponse ⟨m.requestId, user⟩)]
  | .writeChat m =>
    s.authorized c (.error ⟨"Not authorized."⟩) fun user =>
      match s.channels.connectionChannelMap.findLeft c with
      | none => [.send c (.error ⟨"No channel joined."⟩)]
      | some channel =>
        [.createMessage (s.messages.nextMessage channel user m.content),
          .broadcastTo (s.channels.connectionChannelMap.rangeRight channel)
            (.receiveChat ⟨user, channel, m.content⟩)]
  | .createChannelRequest m =>
    s.authorized c (notAuthorized m.requestId) fun user =>
      match s.db.getChatChannelByName m.name with
      | some channel => [.send c (.createChannelResponse ⟨m.requestId, channel⟩)]
      | none =>
        let channel : ChatChannel := ⟨s.db.channels.nextKey, m.name⟩
        [.send c (.createChannelResponse ⟨m.requestId, channel⟩),
          .broadcast (.channelCreateEvent ⟨channel, user⟩)]
  | .joinChatChannelRequest m =>
    s.authorized c (notAuthorized m.requestId) fun user =>
      match s.db.getChatChannel m.channelId with
      | none => [handleRpcError c m.requestId "Channel not found."]
      | some _ => s.joinReplies c user m.channelId m.requestId
  | .getChatsRequest m =>
    s.authorized c (notAuthorized m.requestId) fun _ =>
      [.send c (.getChatsResponse ⟨m.requestId, m.channelId,
        (s.messages.getMessagesBefore s.db m.channelId maxMessageId m.limit).2⟩)]
  | .getChatChannelsRequest m =>
    s.authorized c (notAuthorized m.requestId) fun _ =>
      [.send c (.getChatChannelsResponse ⟨m.requestId, s.channels.getChannels⟩)]
  | .getChatChannelRequest m =>
    s.authorized c (notAuthorized m.requestId) fun _ =>
      match s.db.getChatChannel m.channelId with
      | none => [handleRpcError c m.requestId "Channel not found."]
      | some channel => [.send c (.getChatChannelResponse ⟨m.requestId, channel⟩)]
  | .shutdown _ => s.authorized c (.error ⟨"Not authorized."⟩) fun _ => []
  | .logoutRequest m =>
    s.authorized c (notAuthorized m.requestId) fun user =>
      [.broadcast (.userLogoutEvent ⟨user⟩), .send c (.logoutResponse ⟨m.requestId⟩)]
  | _ => []

end ServerState

end ChatCore.Server
