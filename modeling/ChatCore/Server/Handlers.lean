import ChatCore.Server.ChannelStore
import ChatCore.Server.MessageStore
import ChatCore.Server.UserStore

/-!
# `ChatCore.Server.Handlers`: the message handlers

The handlers of `UserServerSystem` and `ChatServerSystem`, `OnDisconnected` of the
connection event handler, and the part of `TcpSystem` that they use.

A handler is a function from the server's state to the next state and the calls it makes:
what it hands to `TcpSystem` (`Send`, the two `Broadcast`s) and the message that it creates
in the message store. `deliveries` says which registered connections a call reaches. A call
for a connection that is not registered any more reaches nobody.

`handle` is the dispatch of `DirectMessageHandler`: a message of a type without a handler is
dropped.
-/

set_option autoImplicit false

namespace ChatCore.Server

open ChatCore.Api

/-- The state that the handlers share. `connections` are the ids in `TcpSystem::connections_`,
`running` is the flag that `Application::Quit` clears. -/
structure ServerState where
  db : Database
  users : UserStore := {}
  channels : ChannelStore := {}
  messages : MessageStore := {}
  connections : List Nat := []
  nextConnectionId : Nat := 1
  running : Bool := true

/-- A call that a handler makes. -/
inductive Call where
  | send (connectionId : Nat) (message : Message)
  | broadcast (message : Message)
  | broadcastTo (connectionIds : List Nat) (message : Message)
  | createMessage (message : ChatMessage)
  deriving DecidableEq

/-- The messages that a call hands to connections, while `connections` are registered. -/
def Call.deliveries (connections : List Nat) : Call → List (Nat × Message)
  | .send connectionId message =>
    if connectionId ∈ connections then [(connectionId, message)] else []
  | .broadcast message => connections.map (·, message)
  | .broadcastTo connectionIds message =>
    (connectionIds.filter (· ∈ connections)).map (·, message)
  | .createMessage _ => []

/-- The messages that a call creates in the message store. -/
def Call.created : Call → List ChatMessage
  | .createMessage message => [message]
  | _ => []

/-- `ApplicationSystem::HandleRpcError`. -/
def handleRpcError (connectionId requestId : Nat) (message : String) : Call :=
  .send connectionId (.errorResponse ⟨requestId, message⟩)

namespace ServerState

/-- `ValidateSession(request_id, connection_id)`, in front of the rest of a handler. -/
def validateRpcSession (s : ServerState) (requestId connectionId : Nat)
    (rest : ServerState × List Call) : ServerState × List Call :=
  if s.users.hasSession connectionId then rest
  else (s, [handleRpcError connectionId requestId "Not authorized."])

/-- `ValidateSession(connection_id)`, in front of the rest of a handler. -/
def validateSession (s : ServerState) (connectionId : Nat) (rest : ServerState × List Call) :
    ServerState × List Call :=
  if s.users.hasSession connectionId then rest
  else (s, [.send connectionId (.error ⟨"Not authorized."⟩)])

/-! ### `UserServerSystem` -/

/-- `RemoveSession`. -/
def removeSession (s : ServerState) (connectionId : Nat) : ServerState × List Call :=
  let (users, potentialUser) := s.users.getSessionUser s.db connectionId
  match potentialUser with
  | none => ({ s with users := users }, [])
  | some user =>
    ({ s with users := users.removeSession connectionId },
      [.broadcast (.userLogoutEvent ⟨user.id⟩)])

/-- `HandleCreateUser`. -/
def handleCreateUser (s : ServerState) (connectionId : Nat) (message : CreateUserRequestMessage) :
    ServerState × List Call :=
  let error := handleRpcError connectionId message.requestId "User already exists."
  if s.users.hasUserNamed message.name then (s, [error])
  else
    -- A registered user that is not cached yet is found by the `UNIQUE` name only.
    let (db, result) := s.db.createUser message.name message.password
    match result with
    | none => ({ s with db := db }, [error])
    | some user =>
      ({ s with db := db }, [.send connectionId (.createUserResponse ⟨message.requestId, user⟩)])

/-- `HandleAuthenticateUser`. -/
def handleAuthenticateUser (s : ServerState) (connectionId : Nat)
    (message : AuthenticateUserRequestMessage) : ServerState × List Call :=
  if s.users.hasSession connectionId then
    (s, [handleRpcError connectionId message.requestId "Already logged in."])
  else
    match s.db.matchUserCredentials message.name message.password with
    | none => (s, [handleRpcError connectionId message.requestId "Wrong username or password"])
    | some user =>
      if s.users.hasUserSession user.id then
        (s, [handleRpcError connectionId message.requestId
          (message.name ++ " is already logged in.")])
      else
        ({ s with users := s.users.assignSession connectionId user.id },
          [.send connectionId (.authenticateUserResponse ⟨message.requestId, user⟩),
            .broadcast (.userLoginEvent ⟨user.id⟩)])

/-- `HandleGetUsers`. -/
def handleGetUsers (s : ServerState) (connectionId : Nat) (message : GetUsersRequestMessage) :
    ServerState × List Call :=
  s.validateRpcSession message.requestId connectionId <|
    let (users, result) := s.users.getUsers s.db message.userIds
    ({ s with users := users },
      [.send connectionId (.getUsersResponse ⟨message.requestId, result⟩)])

/-- `HandleGetUser`. -/
def handleGetUser (s : ServerState) (connectionId : Nat) (message : GetUserRequestMessage) :
    ServerState × List Call :=
  s.validateRpcSession message.requestId connectionId <|
    let (users, result) := s.users.getUserByName s.db message.name
    match result with
    | none =>
      ({ s with users := users }, [handleRpcError connectionId message.requestId
        ("User with name " ++ message.name ++ " not found")])
    | some user =>
      ({ s with users := users },
        [.send connectionId (.getUserResponse ⟨message.requestId, user⟩)])

/-! ### `ChatServerSystem` -/

/-- `ChannelBroadcast`. -/
def channelBroadcast (s : ServerState) (channel : ChatChannel) (message : Message) : List Call :=
  match s.channels.getConnections channel.id with
  | none => []
  | some connections => [.broadcastTo connections message]

/-- `HandleJoinChatChannel`. -/
def handleJoinChatChannel (s : ServerState) (connectionId : Nat)
    (message : JoinChatChannelRequestMessage) : ServerState × List Call :=
  s.validateRpcSession message.requestId connectionId <|
    let (users, potentialUser) := s.users.getSessionUser s.db connectionId
    let s := { s with users := users }
    match potentialUser with
    -- The handler returns, and the request stays without an answer.
    | none => (s, [])
    | some user =>
      let (channels, potentialChannel) := s.channels.getChannel s.db message.channelId
      let s := { s with channels := channels }
      match potentialChannel with
      | none => (s, [handleRpcError connectionId message.requestId "Channel not found."])
      | some channel =>
        let (channels, potentialPreviousChannel) :=
          s.channels.getAssignedChannel s.db connectionId
        let s := { s with channels := channels }
        -- The leave event is broadcast before the connection moves, so it gets the event too.
        let leave := potentialPreviousChannel.elim [] fun previousChannel =>
          s.channelBroadcast previousChannel
            (.channelLeaveEvent ⟨previousChannel.id, user.id⟩)
        let s := { s with
          channels := s.channels.assignConnection connectionId message.channelId }
        (s, leave
          ++ s.channelBroadcast channel (.channelJoinEvent ⟨channel.id, user.id⟩)
          ++ [.send connectionId (.joinChatChannelResponse ⟨message.requestId, channel.id⟩)])

/-- `HandleWriteChatMessage`. -/
def handleWriteChatMessage (s : ServerState) (connectionId : Nat) (message : WriteChatMessage) :
    ServerState × List Call :=
  s.validateSession connectionId <|
    let (users, potentialUser) := s.users.getSessionUser s.db connectionId
    let s := { s with users := users }
    match potentialUser with
    | none => (s, [.send connectionId (.error ⟨"User not found."⟩)])
    | some user =>
      let (channels, potentialChannel) := s.channels.getAssignedChannel s.db connectionId
      let s := { s with channels := channels }
      match potentialChannel with
      | none => (s, [.send connectionId (.error ⟨"No channel joined."⟩)])
      | some channel =>
        -- The recipients are read after `CreateMessage`, and the sender is one of them.
        let created := s.messages.nextMessage channel.id user.id message.content
        let s := { s with
          messages := s.messages.createMessage channel.id user.id message.content }
        (s, .createMessage created :: s.channelBroadcast channel
          (.receiveChat ⟨user.id, channel.id, message.content⟩))

/-- `HandleCreateChatChannel`. -/
def handleCreateChatChannel (s : ServerState) (connectionId : Nat)
    (message : CreateChannelRequestMessage) : ServerState × List Call :=
  s.validateRpcSession message.requestId connectionId <|
    let (users, potentialUser) := s.users.getSessionUser s.db connectionId
    let s := { s with users := users }
    match potentialUser with
    | none => (s, [])
    | some user =>
      let (db, result) := s.db.createChatChannel message.name
      let s := { s with db := db }
      match result with
      -- The name is taken, and the answer is the channel that has it.
      | none =>
        let (channels, cachedChannel) := s.channels.getChannelByName s.db message.name
        let s := { s with channels := channels }
        match cachedChannel with
        | none =>
          (s, [handleRpcError connectionId message.requestId "Unable to create channel."])
        | some channel =>
          (s, [.send connectionId (.createChannelResponse ⟨message.requestId, channel⟩)])
      | some channel =>
        let (channels, cachedChannel) := s.channels.cacheChannel channel
        ({ s with channels := channels },
          [.send connectionId (.createChannelResponse ⟨message.requestId, cachedChannel⟩),
            .broadcast (.channelCreateEvent ⟨cachedChannel, user.id⟩)])

/-- `HandleShutdown`. -/
def handleShutdown (s : ServerState) (connectionId : Nat) (_message : ShutdownMessage) :
    ServerState × List Call :=
  s.validateSession connectionId ({ s with running := false }, [])

/-- `HandleGetChats`. -/
def handleGetChats (s : ServerState) (connectionId : Nat) (message : GetChatsRequestMessage) :
    ServerState × List Call :=
  s.validateRpcSession message.requestId connectionId <|
    let (messages, result) :=
      s.messages.getMessagesBefore s.db message.channelId maxMessageId message.limit
    ({ s with messages := messages },
      [.send connectionId
        (.getChatsResponse ⟨message.requestId, message.channelId, result⟩)])

/-- `HandleGetChatChannels`. -/
def handleGetChatChannels (s : ServerState) (connectionId : Nat)
    (message : GetChatChannelsRequestMessage) : ServerState × List Call :=
  s.validateRpcSession message.requestId connectionId
    (s, [.send connectionId
      (.getChatChannelsResponse ⟨message.requestId, s.channels.getChannels⟩)])

/-- `HandleGetChatChannel`. -/
def handleGetChatChannel (s : ServerState) (connectionId : Nat)
    (message : GetChatChannelRequestMessage) : ServerState × List Call :=
  s.validateRpcSession message.requestId connectionId <|
    let (channels, result) := s.channels.getChannel s.db message.channelId
    let s := { s with channels := channels }
    match result with
    | none => (s, [handleRpcError connectionId message.requestId "Channel not found."])
    | some channel =>
      (s, [.send connectionId (.getChatChannelResponse ⟨message.requestId, channel⟩)])

/-- `HandleLogout`. -/
def handleLogout (s : ServerState) (connectionId : Nat) (message : LogoutRequestMessage) :
    ServerState × List Call :=
  s.validateRpcSession message.requestId connectionId <|
    let (s, calls) := s.removeSession connectionId
    ({ s with channels := s.channels.unassignConnection connectionId },
      calls ++ [.send connectionId (.logoutResponse ⟨message.requestId⟩)])

/-! ### Dispatch and connections -/

/-- `DirectMessageHandler::HandleMessage`, with the handlers that the two systems register. -/
def handle (s : ServerState) (connectionId : Nat) : Message → ServerState × List Call
  | .createUserRequest m => s.handleCreateUser connectionId m
  | .authenticateUserRequest m => s.handleAuthenticateUser connectionId m
  | .getUsersRequest m => s.handleGetUsers connectionId m
  | .getUserRequest m => s.handleGetUser connectionId m
  | .writeChat m => s.handleWriteChatMessage connectionId m
  | .createChannelRequest m => s.handleCreateChatChannel connectionId m
  | .joinChatChannelRequest m => s.handleJoinChatChannel connectionId m
  | .getChatsRequest m => s.handleGetChats connectionId m
  | .getChatChannelsRequest m => s.handleGetChatChannels connectionId m
  | .getChatChannelRequest m => s.handleGetChatChannel connectionId m
  | .shutdown m => s.handleShutdown connectionId m
  | .logoutRequest m => s.handleLogout connectionId m
  -- The responses and events are messages to a client.
  | _ => (s, [])

/-- `TcpSystem::CreateConnection`. -/
def createConnection (s : ServerState) : ServerState :=
  { s with
    connections := s.connections ++ [s.nextConnectionId]
    nextConnectionId := s.nextConnectionId + 1 }

/-- `TcpSystem::RemoveConnection`. -/
def removeConnection (s : ServerState) (connectionId : Nat) : ServerState :=
  { s with connections := s.connections.filter (· ≠ connectionId) }

/-- `ConnectionEventHandler::OnDisconnected`. -/
def onDisconnected (s : ServerState) (connectionId : Nat) : ServerState × List Call :=
  s.removeSession connectionId

/-- The server after the `Prewarm` of all three stores. -/
def begin (db : Database) : ServerState where
  db := db
  users := ({} : UserStore).prewarm db
  channels := ({} : ChannelStore).prewarm db
  messages := ({} : MessageStore).prewarm db

end ServerState

end ChatCore.Server
