import ChatCore.Client.SessionSystem
import ChatCore.Lib.Lts
import ChatCore.Lib.Since

/-!
# `ChatCore.Client.ClientRun`: runs of the client

Commands of the user, messages of the server, timeouts and the events of connections come in any
order. Each of them is one step: the handler runs to its end. A message may be any message, and it
may come on any connection that there has been, since a message of a connection can be in the queue
when the connection is lost.

A run ends with the access to an empty optional. `trace`, `loginStart` and `joinedChannel` are
ghosts. The three conditions at the end say which steps are in turn for chat lines, for the login
and for the channel prompt.
-/

set_option autoImplicit false

namespace ChatCore.Client

open ChatCore.Api
open ChatCore.Lib (Lts Since)

/-- What happens to the client. -/
inductive ClientOp where
  | connect
  /-- `OnConnected`, with the next id. -/
  | connected
  | connectionFailed
  | disconnected (connectionId : Nat)
  | login (name password : String)
  | logout
  | send (content : String)
  | addUser (name password : String)
  | getChannels
  | createChannel (name : String)
  | joinChannel (channelId : Nat)
  /-- A message is handled. `messageId` is the id of the chat message that an event is about. -/
  | receive (connectionId messageId : Nat) (message : Message)
  | timeout (requestId : Nat)
  deriving DecidableEq

/-- The client. -/
structure ClientRun where
  system : SessionSystem := {}
  /-- The id that the next connection gets. -/
  nextConnectionId : Nat := 1
  /-- The calls of `Connect` without a result. -/
  connecting : Nat := 0
  /-- The empty optional that was accessed. -/
  fault : Option EmptyOptional := none
  trace : List ClientOp := []
  /-- The id of the first request that can be made since the last login. -/
  loginStart : Nat := 1
  /-- The channel of the last successful reply to a join that was requested since the last
  login. -/
  joinedChannel : Option Nat := none

namespace ClientRun

/-- The function that the step runs. -/
def perform (r : ClientRun) : ClientOp → Result
  | .connect | .connectionFailed => .ok r.system
  | .connected => .ok (r.system.onConnected r.nextConnectionId)
  | .disconnected connectionId => .ok (r.system.onDisconnected connectionId)
  | .login name password => r.system.login name password
  | .logout => r.system.logout
  | .send content => r.system.send content
  | .addUser name password => r.system.addUser name password
  | .getChannels => r.system.getChannels
  | .createChannel name => r.system.createChannel name
  | .joinChannel channelId => r.system.joinChannel channelId
  | .receive connectionId messageId message => r.system.receive connectionId messageId message
  | .timeout requestId => .ok (r.system.complete requestId)

/-- The step is possible: a connection that is lost or that a message is from has been there. -/
def Enabled (r : ClientRun) : ClientOp → Prop
  | .connected | .connectionFailed => 0 < r.connecting
  | .disconnected connectionId | .receive connectionId _ _ =>
    0 < connectionId ∧ connectionId < r.nextConnectionId
  | _ => True

instance (r : ClientRun) (op : ClientOp) : Decidable (r.Enabled op) :=
  match op with
  | .connected | .connectionFailed => inferInstanceAs (Decidable (0 < r.connecting))
  | .disconnected connectionId | .receive connectionId _ _ =>
    inferInstanceAs (Decidable (0 < connectionId ∧ connectionId < r.nextConnectionId))
  | .connect | .login _ _ | .logout | .send _ | .addUser _ _ | .getChannels | .createChannel _
  | .joinChannel _ | .timeout _ => isTrue trivial

/-- The user of the response to a login. -/
def acceptedUser (s : SessionSystem) (connectionId : Nat) (message : Message) : Option User :=
  match message, s.answered connectionId message with
  | .authenticateUserResponse response, some _ => some response.user
  | _, _ => none

/-- The channel of the successful reply to a join, with the call. -/
def acceptedJoin (s : SessionSystem) (connectionId : Nat) (message : Message) :
    Option (Nat × PendingCall) :=
  match message, s.answered connectionId message with
  | .joinChatChannelResponse response, some call => some (response.channelId, call)
  | _, _ => none

/-- The channel that a lookup brings with which a join goes on. -/
def continuedJoin (s : SessionSystem) (connectionId : Nat) (message : Message) : Option Nat :=
  match message, s.answered connectionId message with
  | .getChatChannelResponse response, some call =>
    if call.callback = .gotChannel .joined then some response.channel.id else none
  | _, _ => none

/-- The call was made since the last login. -/
def OfLogin (r : ClientRun) (call : PendingCall) : Prop := r.loginStart ≤ call.requestId

instance (r : ClientRun) (call : PendingCall) : Decidable (r.OfLogin call) :=
  inferInstanceAs (Decidable (_ ≤ _))

/-- The channel of the last successful reply to a join, after a message. -/
def nextJoined (r : ClientRun) (connectionId : Nat) (message : Message) : Option Nat :=
  if (acceptedUser r.system connectionId message).isSome then none
  else
    match acceptedJoin r.system connectionId message with
    | some (channelId, call) => if r.OfLogin call then some channelId else r.joinedChannel
    | none => r.joinedChannel

/-- The state after the step, with the result of its function. -/
def record (r : ClientRun) (op : ClientOp) (result : Result) : ClientRun where
  system := match result with
    | .ok system => system
    | .error _ => r.system
  nextConnectionId := match op with
    | .connected => r.nextConnectionId + 1
    | _ => r.nextConnectionId
  connecting := match op with
    | .connect => r.connecting + 1
    | .connected | .connectionFailed => r.connecting - 1
    | _ => r.connecting
  fault := match result with
    | .ok _ => none
    | .error member => some member
  trace := r.trace ++ [op]
  loginStart := match op with
    | .receive connectionId _ message =>
      if (acceptedUser r.system connectionId message).isSome then r.system.nextRequestId
      else r.loginStart
    | _ => r.loginStart
  joinedChannel := match op with
    | .receive connectionId _ message => r.nextJoined connectionId message
    | _ => r.joinedChannel

/-- One step of the client. -/
def step (r : ClientRun) (op : ClientOp) : Option ClientRun :=
  if r.fault = none ∧ r.Enabled op then some (r.record op (r.perform op)) else none

/-! ### Chat lines -/

/-- The callback prints a chat line: a sender of its messages is in the cache. -/
def printsChatLine (s : SessionSystem) : UsersCallback → Bool
  | .chatLog messages => messages.any fun message => (s.store.usersCache message.userId).isSome
  | .user userId (.receiveChat _) => (s.store.usersCache userId).isSome
  | .user _ _ => false

/-- The answer is one to a user lookup that prints a chat line. -/
def lookupPrints (s : SessionSystem) (connectionId : Nat) : Message → Bool
  | .getUsersResponse response =>
    (s.answered connectionId (.getUsersResponse response)).any fun call =>
      match call.callback with
      | .gotUsers callback =>
        printsChatLine (response.users.foldl SessionSystem.cacheUser s) callback
      | _ => false
  | _ => false

/-- A user lookup that prints a chat line is answered while the client has a user. -/
def ChatLinesInSession (r : ClientRun) : ClientOp → Prop
  | .receive connectionId _ message =>
    lookupPrints r.system connectionId message → r.system.user ≠ none
  | _ => True

instance : DecidableRel ChatLinesInSession := fun r op =>
  match op with
  | .receive connectionId _ message =>
    inferInstanceAs (Decidable (lookupPrints r.system connectionId message → r.system.user ≠ none))
  | .connect | .connected | .connectionFailed | .disconnected _ | .login _ _ | .logout | .send _
  | .addUser _ _ | .getChannels | .createChannel _ | .joinChannel _ | .timeout _ => isTrue trivial

/-! ### The login -/

/-- An `AuthenticateUserResponse` for the user is received on the connection. -/
def Authenticates (connectionId : Nat) (user : User) (op : ClientOp) : Prop :=
  ∃ messageId requestId,
    op = .receive connectionId messageId (.authenticateUserResponse ⟨requestId, user⟩)

/-- `Logout` is called, or the connection is lost. -/
def EndsLogin (connectionId : Nat) (op : ClientOp) : Prop :=
  op = .logout ∨ op = .disconnected connectionId

/-- The belief of the client about its login is justified. -/
def LoginJustified (r : ClientRun) : Prop :=
  ∀ connectionId user, r.system.connectionId = some connectionId → r.system.user = some user →
    Since (Authenticates connectionId user) (EndsLogin connectionId) r.trace

/-- A connection is established while the client has no user. The connection that is lost is the
current one, or the client has neither a connection nor a user. The response to a login comes on
the current connection, or there is no connection, or the client has this user already. -/
def LoginInTurn (r : ClientRun) : ClientOp → Prop
  | .connected => r.system.user = none
  | .disconnected connectionId =>
    r.system.connectionId = some connectionId ∨
      r.system.connectionId = none ∧ r.system.user = none
  | .receive connectionId _ message =>
    ∀ user ∈ acceptedUser r.system connectionId message, ∀ current ∈ r.system.connectionId,
      current = connectionId ∨ r.system.user = some user
  | _ => True

instance : DecidableRel LoginInTurn := fun r op =>
  match op with
  | .connected => inferInstanceAs (Decidable (r.system.user = none))
  | .disconnected connectionId =>
    inferInstanceAs (Decidable (r.system.connectionId = some connectionId ∨
      r.system.connectionId = none ∧ r.system.user = none))
  | .receive connectionId _ message =>
    inferInstanceAs (Decidable (∀ user ∈ acceptedUser r.system connectionId message,
      ∀ current ∈ r.system.connectionId, current = connectionId ∨ r.system.user = some user))
  | .connect | .connectionFailed | .login _ _ | .logout | .send _ | .addUser _ _ | .getChannels
  | .createChannel _ | .joinChannel _ | .timeout _ => isTrue trivial

/-! ### The channel prompt -/

/-- Without a user there is no channel name, and otherwise it is the name of the joined channel, if
there is one. -/
def PromptFollows (r : ClientRun) : Prop :=
  match r.system.user with
  | none => r.system.model.channelName = none
  | some _ => ∀ name ∈ r.system.model.channelName, ∃ channelId ∈ r.joinedChannel,
      ∃ channel ∈ r.system.store.channelsCache channelId, channel.name = name

/-- The response to a login comes while there is no channel name. So does the reply to a join of
this login, or the client is in session and knows the channel. The reply to a join of an earlier
login comes while the client is not in session, or does not know the channel, or has joined this
channel. A join goes on with the channel of a lookup while the client has a user and has joined this
channel. -/
def PromptInTurn (r : ClientRun) : ClientOp → Prop
  | .receive connectionId _ message =>
    (acceptedUser r.system connectionId message ≠ none → r.system.model.channelName = none) ∧
    (∀ join ∈ acceptedJoin r.system connectionId message,
      if r.OfLogin join.2 then
        r.system.model.channelName = none ∨
          r.system.validateSession ∧ r.system.store.channelsCache join.1 ≠ none
      else
        r.system.validateSession → r.system.store.channelsCache join.1 ≠ none →
          r.joinedChannel = some join.1) ∧
    ∀ channelId ∈ continuedJoin r.system connectionId message,
      r.system.user ≠ none ∧ r.joinedChannel = some channelId
  | _ => True

instance : DecidableRel PromptInTurn := fun r op =>
  match op with
  | .receive connectionId _ message =>
    inferInstanceAs (Decidable (
      (acceptedUser r.system connectionId message ≠ none → r.system.model.channelName = none) ∧
      (∀ join ∈ acceptedJoin r.system connectionId message,
        if r.OfLogin join.2 then
          r.system.model.channelName = none ∨
            r.system.validateSession ∧ r.system.store.channelsCache join.1 ≠ none
        else
          r.system.validateSession → r.system.store.channelsCache join.1 ≠ none →
            r.joinedChannel = some join.1) ∧
      ∀ channelId ∈ continuedJoin r.system connectionId message,
        r.system.user ≠ none ∧ r.joinedChannel = some channelId))
  | .connect | .connected | .connectionFailed | .disconnected _ | .login _ _ | .logout | .send _
  | .addUser _ _ | .getChannels | .createChannel _ | .joinChannel _ | .timeout _ => isTrue trivial

end ClientRun

/-- Runs of the client from its start. -/
def clientRuns : Lts ClientRun ClientOp where
  start r := r = {}
  step := ClientRun.step

end ChatCore.Client
