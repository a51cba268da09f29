import ChatCore.Api.RpcCalls
import Mathlib.Data.List.Sort
import Mathlib.Data.List.Destutter
import Mathlib.Logic.Function.Basic

/-!
# `ChatCore.Client.SessionSystem`: the session of the chat client

`SessionSystem` with its `SessionStore`, the `ConnectionEventHandler` and the `ModelSystem`. The
optionals `connection_id_` and `user_` may be empty. Every access through `*` or `->` is a
`value`, and the access to an empty optional is an error of the function.

The work of a handler goes on in callbacks, most of them after a round trip to the server. A
lambda of the source is a constructor here, with what it captures as arguments: an `RpcCallback`
waits in `calls`, and a `UsersCallback`, a `UserCallback` or a `ChannelCallback` is what it or a
function of the store ends with. The functions that run a callback are ordered by what they call,
from the callbacks that only print to those of an answer.

Of the `RpcSystem` this module has `calls_`, and an answer takes the call out of it before the
callback runs. The default handlers for errors and timeouts only log. `shown` is a ghost: the
messages that `ProcessChatMessage` has printed.
-/

set_option autoImplicit false

namespace ChatCore.Client

open ChatCore.Api

/-- The members of `SessionSystem` that are accessed through `*` or `->`. -/
inductive EmptyOptional where
  | connectionId
  | user
  deriving DecidableEq

/-- The access to an optional. -/
def value {α : Type} (optional : Option α) (member : EmptyOptional) : Except EmptyOptional α :=
  match optional with
  | some a => .ok a
  | none => .error member

/-- What is done with a user that `LoadUser` has found. -/
inductive UserCallback where
  | loggedOut
  | loggedIn
  | receiveChat (message : ChatMessage)
  | channelCreated (channel : ChatChannel)
  | channelJoined (channelName : String)
  | channelLeft (channelName : String)
  deriving DecidableEq

/-- What is done after `LoadUsers`. -/
inductive UsersCallback where
  /-- The lambda of `LoadLatestChatLog`. -/
  | chatLog (messages : List ChatMessage)
  /-- The lambda of `LoadUser`. -/
  | user (userId : Nat) (callback : UserCallback)
  deriving DecidableEq

/-- What is done after `LoadChannel`. -/
inductive ChannelCallback where
  /-- The lambda of `JoinChannel`. -/
  | joined
  | memberJoined (userId : Nat)
  | memberLeft (userId : Nat)
  deriving DecidableEq

/-- What is done with the response to a call. -/
inductive RpcCallback where
  | authenticated
  | loggedOut (user : User)
  | createdUser
  | gotChannels
  | createdChannel
  | joined
  | gotChats
  | gotUsers (callback : UsersCallback)
  | gotChannel (callback : ChannelCallback)
  deriving DecidableEq

/-- The request of the call. -/
def RpcCallback.requestType : RpcCallback → MessageType
  | .authenticated => .authenticateUserRequest
  | .loggedOut _ => .logoutRequest
  | .createdUser => .createUserRequest
  | .gotChannels => .getChatChannelsRequest
  | .createdChannel => .createChannelRequest
  | .joined => .joinChatChannelRequest
  | .gotChats => .getChatsRequest
  | .gotUsers _ => .getUsersRequest
  | .gotChannel _ => .getChatChannelRequest

/-- A call in `calls_`. -/
structure PendingCall where
  requestId : Nat
  connectionId : Nat
  callback : RpcCallback
  deriving DecidableEq

/-- The message answers the call: one of its two subscriptions takes it. -/
def PendingCall.AnsweredBy (call : PendingCall) (connectionId : Nat) (message : Message) : Prop :=
  call.connectionId = connectionId ∧ message.requestId = some call.requestId ∧
    (call.callback.requestType.rpcResponse = some message.type ∨
      call.callback.requestType.rpcError = some message.type)

instance (call : PendingCall) (connectionId : Nat) (message : Message) :
    Decidable (call.AnsweredBy connectionId message) :=
  inferInstanceAs (Decidable (_ ∧ _))

/-- The caches of `SessionStore`. -/
structure SessionStore where
  usersCache : Nat → Option User := fun _ => none
  channelsCache : Nat → Option ChatChannel := fun _ => none

namespace SessionStore

/-- `CacheUser`: `try_emplace` keeps the entry that is there. -/
def cacheUser (s : SessionStore) (user : User) : SessionStore :=
  match s.usersCache user.id with
  | some _ => s
  | none => { s with usersCache := Function.update s.usersCache user.id (some user) }

/-- `CacheChannel`. -/
def cacheChannel (s : SessionStore) (channel : ChatChannel) : SessionStore :=
  match s.channelsCache channel.id with
  | some _ => s
  | none => { s with channelsCache := Function.update s.channelsCache channel.id (some channel) }

end SessionStore

/-- What `ModelSystem` has emitted: the lines, and the last channel name. -/
structure ModelSystem where
  lines : List String := []
  channelName : Option String := none

/-- `SessionSystem`, with the systems it uses. -/
structure SessionSystem where
  connectionId : Option Nat := none
  user : Option User := none
  store : SessionStore := {}
  model : ModelSystem := {}
  /-- `calls_`, oldest first. -/
  calls : List PendingCall := []
  nextRequestId : Nat := 1
  /-- The messages handed to the `TcpSystem`, with their connections. -/
  sent : List (Nat × Message) := []
  shown : List ChatMessage := []

/-- The state after a function, or the optional that was empty. -/
abbrev Result := Except EmptyOptional SessionSystem

namespace SessionSystem

/-- `AddLine`. -/
def addLine (s : SessionSystem) (line : String) : SessionSystem :=
  { s with model := { s.model with lines := s.model.lines ++ [line] } }

/-- `SetChannelName`. -/
def setChannelName (s : SessionSystem) (channelName : Option String) : SessionSystem :=
  { s with model := { s.model with channelName := channelName } }

/-- `CacheUser` of the store. -/
def cacheUser (s : SessionSystem) (user : User) : SessionSystem :=
  { s with store := s.store.cacheUser user }

/-- `CacheChannel` of the store. -/
def cacheChannel (s : SessionSystem) (channel : ChatChannel) : SessionSystem :=
  { s with store := s.store.cacheChannel channel }

/-- `Prepare` and `Call`. -/
def call (s : SessionSystem) (connectionId : Nat) (request : Nat → Message)
    (callback : RpcCallback) : SessionSystem :=
  { s with
    nextRequestId := s.nextRequestId + 1
    calls := s.calls ++ [⟨s.nextRequestId, connectionId, callback⟩]
    sent := s.sent ++ [(connectionId, request s.nextRequestId)] }

/-- `ValidateSession`. -/
def validateSession (s : SessionSystem) : Bool := s.connectionId.isSome && s.user.isSome

/-- `ProcessChatMessage`, with the message that the content is from. -/
def processChatMessage (s : SessionSystem) (user : User) (message : ChatMessage) : Result := do
  let self ← value s.user .user
  let s := { s with shown := s.shown ++ [message] }
  if user.id = self.id then return s.addLine ("[You] " ++ message.content)
  return s.addLine ("[User::" ++ user.name ++ "] " ++ message.content)

/-- The lambdas that are passed to `LoadUser`. -/
def runUserCallback (s : SessionSystem) : UserCallback → Option User → Result
  | _, none => .ok s
  | .loggedOut, some user => .ok (s.addLine ("[Client] " ++ user.name ++ " logged out."))
  | .loggedIn, some user => .ok (s.addLine ("[Client] " ++ user.name ++ " logged in."))
  | .receiveChat message, some user => s.processChatMessage user message
  | .channelCreated channel, some user =>
    .ok (s.addLine ("[Client] " ++ user.name ++ " created channel: " ++ channel.name))
  | .channelJoined channelName, some user =>
    .ok (s.addLine ("[Client] " ++ user.name ++ " joined channel: " ++ channelName))
  | .channelLeft channelName, some user =>
    .ok (s.addLine ("[Client] " ++ user.name ++ " left channel: " ++ channelName))

/-- The loop over the messages of a chat log. -/
def processChatLog (s : SessionSystem) : List ChatMessage → Result
  | [] => .ok s
  | message :: messages =>
    match s.store.usersCache message.userId with
    | none => s.processChatLog messages
    | some user => do
      let s ← s.processChatMessage user message
      s.processChatLog messages

/-- The lambdas that are passed to `LoadUsers`. -/
def runUsersCallback (s : SessionSystem) : UsersCallback → Result
  | .chatLog messages => s.processChatLog messages
  | .user userId callback => s.runUserCallback callback (s.store.usersCache userId)

/-- `LoadUsers`. -/
def loadUsers (s : SessionSystem) (connectionId : Nat) (userIds : List Nat)
    (callback : UsersCallback) : Result :=
  let uncachedIds := userIds.filter fun userId => (s.store.usersCache userId).isNone
  if uncachedIds.isEmpty then s.runUsersCallback callback
  else
    .ok (s.call connectionId (fun requestId => .getUsersRequest ⟨requestId, uncachedIds⟩)
      (.gotUsers callback))

/-- `LoadUser`. -/
def loadUser (s : SessionSystem) (connectionId userId : Nat) (callback : UserCallback) : Result :=
  match s.store.usersCache userId with
  | some user => s.runUserCallback callback (some user)
  | none => s.loadUsers connectionId [userId] (.user userId callback)

/-- `LoadLatestChatLog`. -/
def loadLatestChatLog (s : SessionSystem) (channelId : Nat) : Result := do
  if !s.validateSession then return s
  let connectionId ← value s.connectionId .connectionId
  return s.call connectionId (fun requestId => .getChatsRequest ⟨requestId, channelId, 20⟩)
    .gotChats

/-- The inner lambda of the handlers for members that join or leave. -/
def memberChanged (s : SessionSystem) (userId : Nat) (callback : UserCallback) : Result := do
  if !s.validateSession then return s
  let connectionId ← value s.connectionId .connectionId
  s.loadUser connectionId userId callback

/-- The lambdas that are passed to `LoadChannel`. None of them is called without a channel. -/
def runChannelCallback (s : SessionSystem) (channel : ChatChannel) : ChannelCallback → Result
  | .joined =>
    ((s.addLine ("[Client] Joined channel: " ++ channel.name)).setChannelName
      (some channel.name)).loadLatestChatLog channel.id
  | .memberJoined userId => s.memberChanged userId (.channelJoined channel.name)
  | .memberLeft userId => s.memberChanged userId (.channelLeft channel.name)

/-- `LoadChannel`. -/
def loadChannel (s : SessionSystem) (connectionId channelId : Nat) (callback : ChannelCallback) :
    Result :=
  match s.store.channelsCache channelId with
  | some channel => s.runChannelCallback channel callback
  | none =>
    .ok (s.call connectionId (fun requestId => .getChatChannelRequest ⟨requestId, channelId⟩)
      (.gotChannel callback))

/-! ### Responses -/

/-- The lambda of `LoadLatestChatLog` for the response. -/
def gotChats (s : SessionSystem) (response : GetChatsResponseMessage) : Result := do
  if !s.validateSession then return s
  let userIds := (response.messages.map ChatMessage.userId).insertionSort (· ≤ ·)
  -- `unique` drops the repetitions next to each other.
  let userIds := userIds.destutter (· ≠ ·)
  let connectionId ← value s.connectionId .connectionId
  s.loadUsers connectionId userIds (.chatLog response.messages)

/-- The lambda of `LoadUsers` for the response. -/
def gotUsers (s : SessionSystem) (response : GetUsersResponseMessage) (callback : UsersCallback) :
    Result :=
  (response.users.foldl cacheUser s).runUsersCallback callback

/-- The lambda of `LoadChannel` for the response. It is called with the cached channel. -/
def gotChannel (s : SessionSystem) (response : GetChatChannelResponseMessage)
    (callback : ChannelCallback) : Result :=
  let s := s.cacheChannel response.channel
  s.runChannelCallback ((s.store.channelsCache response.channel.id).getD response.channel) callback

/-- The lambda of `JoinChannel` for the response. -/
def joined (s : SessionSystem) (response : JoinChatChannelResponseMessage) : Result := do
  if !s.validateSession then return s
  let connectionId ← value s.connectionId .connectionId
  s.loadChannel connectionId response.channelId .joined

/-- The lambda of `Login` for the response. -/
def authenticated (s : SessionSystem) (response : AuthenticateUserResponseMessage) : Result := do
  let s := { s.cacheUser response.user with user := some response.user }
  let user ← value s.user .user
  return s.addLine ("[Client] Logged in as " ++ user.name)

/-- The text of the list of channels. -/
def channelLines (channels : List ChatChannel) : String :=
  channels.foldl (fun text channel => text ++ toString channel.id ++ ": " ++ channel.name ++ "\n")
    "Available channels: \n"

/-- The lambda of `GetChannels` for the response. -/
def gotChannels (s : SessionSystem) (response : GetChatChannelsResponseMessage) : SessionSystem :=
  (response.channels.foldl cacheChannel s).addLine ("[Client] " ++ channelLines response.channels)

/-- The lambda of `CreateChannel` for the response. -/
def createdChannel (s : SessionSystem) (response : CreateChannelResponseMessage) : SessionSystem :=
  (s.cacheChannel response.channel).addLine
    ("[Client] Created channel:\n" ++ toString response.channel.id ++ ": " ++ response.channel.name)

/-- The lambda of `AddUser` for the response. -/
def createdUser (s : SessionSystem) (response : CreateUserResponseMessage) : SessionSystem :=
  (s.cacheUser response.user).addLine
    ("[Client] User successfully created: " ++ response.user.name)

/-- The success callback of a call. An answer of another type is an error, which is logged. -/
def runRpcCallback (s : SessionSystem) : RpcCallback → Message → Result
  | .authenticated, .authenticateUserResponse response => s.authenticated response
  | .loggedOut user, .logoutResponse _ =>
    .ok (s.addLine ("[Client] Logged out as " ++ user.name))
  | .createdUser, .createUserResponse response => .ok (s.createdUser response)
  | .gotChannels, .getChatChannelsResponse response => .ok (s.gotChannels response)
  | .createdChannel, .createChannelResponse response => .ok (s.createdChannel response)
  | .joined, .joinChatChannelResponse response => s.joined response
  | .gotChats, .getChatsResponse response => s.gotChats response
  | .gotUsers callback, .getUsersResponse response => s.gotUsers response callback
  | .gotChannel callback, .getChatChannelResponse response => s.gotChannel response callback
  | _, _ => .ok s

/-- The call that a message answers. -/
def answered (s : SessionSystem) (connectionId : Nat) (message : Message) : Option PendingCall :=
  s.calls.find? (·.AnsweredBy connectionId message)

/-- `HandleCallback` up to the callback: the call is taken out of `calls_`. -/
def complete (s : SessionSystem) (requestId : Nat) : SessionSystem :=
  { s with calls := s.calls.filter (·.requestId ≠ requestId) }

/-- The slots of the calls. -/
def handleAnswer (s : SessionSystem) (connectionId : Nat) (message : Message) : Result :=
  match s.answered connectionId message with
  | none => .ok s
  | some call => (s.complete call.requestId).runRpcCallback call.callback message

/-! ### Events -/

/-- `HandlePrintEvent`. -/
def handlePrintEvent (s : SessionSystem) (message : PrintMessage) : SessionSystem :=
  if s.connectionId.isNone then s else s.addLine ("[Client] Server says: " ++ message.value)

/-- The handlers of events about another user. They do nothing for the user's own events. -/
def handleUserEvent (s : SessionSystem) (userId : Nat)
    (handler : SessionSystem → Nat → Result) : Result := do
  if !s.validateSession then return s
  let self ← value s.user .user
  if self.id = userId then return s
  let connectionId ← value s.connectionId .connectionId
  handler s connectionId

/-- `HandleUserLogoutEvent`. -/
def handleUserLogoutEvent (s : SessionSystem) (message : UserLogoutEventMessage) : Result :=
  s.handleUserEvent message.userId fun s connectionId =>
    s.loadUser connectionId message.userId .loggedOut

/-- `HandleUserLoginEvent`. -/
def handleUserLoginEvent (s : SessionSystem) (message : UserLoginEventMessage) : Result :=
  s.handleUserEvent message.userId fun s connectionId =>
    s.loadUser connectionId message.userId .loggedIn

/-- `HandleReceiveChatEvent`. The event has no id; `messageId` says which message it is about. -/
def handleReceiveChatEvent (s : SessionSystem) (message : ReceiveChatMessage) (messageId : Nat) :
    Result := do
  if !s.validateSession then return s
  let connectionId ← value s.connectionId .connectionId
  s.loadUser connectionId message.userId
    (.receiveChat ⟨messageId, message.channelId, message.userId, message.content⟩)

/-- `HandleChannelCreateEvent`. -/
def handleChannelCreateEvent (s : SessionSystem) (message : ChannelCreateEventMessage) : Result :=
  s.handleUserEvent message.userId fun s connectionId =>
    (s.cacheChannel message.channel).loadUser connectionId message.userId
      (.channelCreated message.channel)

/-- `HandleChannelJoinEvent`. -/
def handleChannelJoinEvent (s : SessionSystem) (message : ChannelJoinEventMessage) : Result :=
  s.handleUserEvent message.userId fun s connectionId =>
    s.loadChannel connectionId message.channelId (.memberJoined message.userId)

/-- `HandleChannelLeaveEvent`. -/
def handleChannelLeaveEvent (s : SessionSystem) (message : ChannelLeaveEventMessage) : Result :=
  s.handleUserEvent message.userId fun s connectionId =>
    s.loadChannel connectionId message.channelId (.memberLeft message.userId)

/-- A message from the server: the handlers of `Initialize`, and the slots of the calls.
`HandleErrorEvent` only logs. -/
def receive (s : SessionSystem) (connectionId : Nat) (messageId : Nat) : Message → Result
  | .print message => .ok (s.handlePrintEvent message)
  | .error _ => .ok s
  | .userLoginEvent message => s.handleUserLoginEvent message
  | .userLogoutEvent message => s.handleUserLogoutEvent message
  | .receiveChat message => s.handleReceiveChatEvent message messageId
  | .channelCreateEvent message => s.handleChannelCreateEvent message
  | .channelJoinEvent message => s.handleChannelJoinEvent message
  | .channelLeaveEvent message => s.handleChannelLeaveEvent message
  | message => s.handleAnswer connectionId message

/-! ### Commands -/

/-- `Login`. -/
def login (s : SessionSystem) (name password : String) : Result := do
  if s.connectionId.isNone then return s
  let connectionId ← value s.connectionId .connectionId
  return s.call connectionId (fun requestId => .authenticateUserRequest ⟨requestId, name, password⟩)
    .authenticated

/-- `Logout`. -/
def logout (s : SessionSystem) : Result := do
  if !s.validateSession then return s
  let userCopy ← value s.user .user
  let s := { s with user := none }.setChannelName none
  let connectionId ← value s.connectionId .connectionId
  return s.call connectionId (fun requestId => .logoutRequest ⟨requestId⟩) (.loggedOut userCopy)

/-- `Send`. -/
def send (s : SessionSystem) (content : String) : Result := do
  if s.connectionId.isNone then return s
  let connectionId ← value s.connectionId .connectionId
  return { s with sent := s.sent ++ [(connectionId, .writeChat ⟨content⟩)] }

/-- `AddUser`. -/
def addUser (s : SessionSystem) (name password : String) : Result := do
  if s.connectionId.isNone then return s
  let connectionId ← value s.connectionId .connectionId
  return s.call connectionId (fun requestId => .createUserRequest ⟨requestId, name, password⟩)
    .createdUser

/-- `GetChannels`. -/
def getChannels (s : SessionSystem) : Result := do
  if s.connectionId.isNone then return s
  let connectionId ← value s.connectionId .connectionId
  return s.call connectionId (fun requestId => .getChatChannelsRequest ⟨requestId⟩) .gotChannels

/-- `CreateChannel`. -/
def createChannel (s : SessionSystem) (name : String) : Result := do
  if !s.validateSession then return s
  let connectionId ← value s.connectionId .connectionId
  return s.call connectionId (fun requestId => .createChannelRequest ⟨requestId, name⟩)
    .createdChannel

/-- `JoinChannel`. -/
def joinChannel (s : SessionSystem) (channelId : Nat) : Result := do
  if !s.validateSession then return s
  let connectionId ← value s.connectionId .connectionId
  return s.call connectionId (fun requestId => .joinChatChannelRequest ⟨requestId, channelId⟩)
    .joined

/-! ### Connection events -/

/-- `OnConnected`. -/
def onConnected (s : SessionSystem) (connectionId : Nat) : SessionSystem :=
  { s with connectionId := some connectionId }

/-- `OnDisconnected`. The parameter has no name in the source. -/
def onDisconnected (s : SessionSystem) (_ : Nat) : SessionSystem :=
  { s with connectionId := none, user := none }.setChannelName none

end SessionSystem

end ChatCore.Client
