import ChatCore.Server.Lifecycle
import ChatCore.Server.Presence

/-!
# `ChatCore.Server.Disconnect`: a disconnection in the middle of a handler

`OnDisconnected` runs on the network thread while the application thread handles messages, and no
lock keeps the two apart. This module is the process of `Lifecycle` with the functions that assign
or remove a session or a channel split at their calls of the stores:

- `HandleAuthenticateUser` has two tests and the lookup of the credentials before `AssignSession`,
- `HandleJoinChatChannel` has the test of the session and three lookups before `AssignConnection`,
- `HandleLogout` has the test of the session, the steps of `RemoveSession` and then
  `UnassignConnection`,
- `OnDisconnected` has the steps of `RemoveSession`.

The other handlers assign and remove neither, so each of them stays one step. The main thread and
the scheduler thread take their steps at any point of a handler. The thread that accepts, receives
and removes connections is in `OnDisconnected` until it returns.
-/

set_option autoImplicit false

namespace ChatCore.Server

open ChatCore.Api
open ChatCore.Lib (Lts)

/-! ### The handlers, one call of a store at a time -/

/-- Where `HandleAuthenticateUser` stands: before this call. -/
inductive AuthenticateStep where
  | hasSession
  | matchUserCredentials
  | hasUserSession (user : User)
  | assignSession (user : User)
  /-- The response and the login event. -/
  | answer (user : User)

/-- Where `HandleJoinChatChannel` stands: before this call. -/
inductive JoinStep where
  | validateSession
  | getSessionUser
  | getChannel (user : User)
  /-- With the broadcast of the leave event. -/
  | getAssignedChannel (user : User) (channel : ChatChannel)
  | assignConnection (user : User) (channel : ChatChannel)
  /-- The join event and the response. -/
  | answer (user : User) (channel : ChatChannel)

/-- Where `HandleLogout` stands: before this call. -/
inductive LogoutStep where
  | validateSession
  | removeSession (call : RemoveSessionCall)
  /-- With the response. -/
  | unassignConnection

/-- Where the handler of a message stands. -/
inductive HandlerStep where
  | authenticate (message : AuthenticateUserRequestMessage) (step : AuthenticateStep)
  | join (message : JoinChatChannelRequestMessage) (step : JoinStep)
  | logout (message : LogoutRequestMessage) (step : LogoutStep)
  | whole (message : Message)

/-- The handler of a message before its first call. -/
def HandlerStep.begin : Message → HandlerStep
  | .authenticateUserRequest message => .authenticate message .hasSession
  | .joinChatChannelRequest message => .join message .validateSession
  | .logoutRequest message => .logout message .validateSession
  | message => .whole message

/-- The handler is about to call `AssignSession` or `AssignConnection`. -/
def HandlerStep.assigns : HandlerStep → Bool
  | .authenticate _ (.assignSession _) | .join _ (.assignConnection _ _) => true
  | _ => false

/-- `HandleLogout` has validated the session and still has to call `UnassignConnection`. -/
def HandlerStep.unassigns : HandlerStep → Bool
  | .logout _ (.removeSession _) | .logout _ .unassignConnection => true
  | _ => false

/-- The next step of `HandleAuthenticateUser`. No step is left when the handler has returned. -/
def authenticateStep (s : ServerState) (connectionId : Nat)
    (message : AuthenticateUserRequestMessage) :
    AuthenticateStep → ServerState × Option AuthenticateStep × List Call
  | .hasSession =>
    if s.users.hasSession connectionId then
      (s, none, [handleRpcError connectionId message.requestId "Already logged in."])
    else (s, some .matchUserCredentials, [])
  | .matchUserCredentials =>
    match s.db.matchUserCredentials message.name message.password with
    | none =>
      (s, none, [handleRpcError connectionId message.requestId "Wrong username or password"])
    | some user => (s, some (.hasUserSession user), [])
  | .hasUserSession user =>
    if s.users.hasUserSession user.id then
      (s, none, [handleRpcError connectionId message.requestId
        (message.name ++ " is already logged in.")])
    else (s, some (.assignSession user), [])
  | .assignSession user =>
    ({ s with users := s.users.assignSession connectionId user.id }, some (.answer user), [])
  | .answer user =>
    (s, none, [.send connectionId (.authenticateUserResponse ⟨message.requestId, user⟩),
      .broadcast (.userLoginEvent ⟨user.id⟩)])

/-- The next step of `HandleJoinChatChannel`. -/
def joinStep (s : ServerState) (connectionId : Nat) (message : JoinChatChannelRequestMessage) :
    JoinStep → ServerState × Option JoinStep × List Call
  | .validateSession =>
    if s.users.hasSession connectionId then (s, some .getSessionUser, [])
    else (s, none, [handleRpcError connectionId message.requestId "Not authorized."])
  | .getSessionUser =>
    let (users, potentialUser) := s.users.getSessionUser s.db connectionId
    ({ s with users := users }, potentialUser.map .getChannel, [])
  | .getChannel user =>
    let (channels, potentialChannel) := s.channels.getChannel s.db message.channelId
    let s := { s with channels := channels }
    match potentialChannel with
    | none => (s, none, [handleRpcError connectionId message.requestId "Channel not found."])
    | some channel => (s, some (.getAssignedChannel user channel), [])
  | .getAssignedChannel user channel =>
    let (channels, potentialPreviousChannel) := s.channels.getAssignedChannel s.db connectionId
    let s := { s with channels := channels }
    (s, some (.assignConnection user channel),
      potentialPreviousChannel.elim [] fun previousChannel =>
        s.channelBroadcast previousChannel (.channelLeaveEvent ⟨previousChannel.id, user.id⟩))
  | .assignConnection user channel =>
    ({ s with channels := s.channels.assignConnection connectionId message.channelId },
      some (.answer user channel), [])
  | .answer user channel =>
    (s, none, s.channelBroadcast channel (.channelJoinEvent ⟨channel.id, user.id⟩)
      ++ [.send connectionId (.joinChatChannelResponse ⟨message.requestId, channel.id⟩)])

/-- The next step of `HandleLogout`. -/
def logoutStep (s : ServerState) (connectionId : Nat) (message : LogoutRequestMessage) :
    LogoutStep → ServerState × Option LogoutStep × List Call
  | .validateSession =>
    if s.users.hasSession connectionId then (s, some (.removeSession .lookup), [])
    else (s, none, [handleRpcError connectionId message.requestId "Not authorized."])
  | .removeSession call =>
    let (s, next, events) := removeSessionStep s connectionId call
    -- The handler goes on when `RemoveSession` has returned.
    (s, some (next.elim .unassignConnection .removeSession), events.map PresenceEvent.call)
  | .unassignConnection =>
    ({ s with channels := s.channels.unassignConnection connectionId }, none,
      [.send connectionId (.logoutResponse ⟨message.requestId⟩)])

/-- The next step of a handler, with the calls that it makes. -/
def handlerStep (s : ServerState) (connectionId : Nat) :
    HandlerStep → ServerState × Option HandlerStep × List Call
  | .authenticate message step =>
    let (s, next, calls) := authenticateStep s connectionId message step
    (s, next.map (.authenticate message), calls)
  | .join message step =>
    let (s, next, calls) := joinStep s connectionId message step
    (s, next.map (.join message), calls)
  | .logout message step =>
    let (s, next, calls) := logoutStep s connectionId message step
    (s, next.map (.logout message), calls)
  | .whole message =>
    let (s, calls) := s.handle connectionId message
    (s, none, calls)

/-- A handler that runs on its own, for at most so many steps. -/
def runHandler (s : ServerState) (connectionId : Nat) : Nat → HandlerStep → ServerState × List Call
  | 0, _ => (s, [])
  | steps + 1, handler =>
    match handlerStep s connectionId handler with
    | (s, none, calls) => (s, calls)
    | (s, some handler, calls) =>
      let (s, rest) := runHandler s connectionId steps handler
      (s, calls ++ rest)

/-! ### The process -/

/-- The process, with the handler and the `OnDisconnected` that are under way. `disconnecting` of
`Process` stays empty, since a removed connection is in `network` at once. -/
structure DisconnectRun extends Process where
  /-- The handler that the application thread is in, with its connection. -/
  handling : Option (Nat × HandlerStep) := none
  /-- The `OnDisconnected` that the network thread is in, with its connection. -/
  network : Option (Nat × RemoveSessionCall) := none

/-- A step of one of the threads. -/
inductive DisconnectOp where
  /-- A step that neither handles a message nor removes a connection. -/
  | process (op : ProcessOp)
  /-- The application thread takes the next message of its buffer. -/
  | handleTask
  /-- The next step of its handler. -/
  | application
  /-- The network thread removes a connection and calls `OnDisconnected`. -/
  | removeConnection (connectionId : Nat)
  /-- The next step of `OnDisconnected`. -/
  | network

namespace DisconnectRun

/-- The thread of this step of `Process` is in no handler. -/
def free (s : DisconnectRun) : ProcessOp → Bool
  -- The thread that is joined may be in a handler, and then the main thread waits.
  | .main => s.remaining.head? != some .joinApplicationThread || s.handling.isNone
  | .accept | .receive _ _ => s.network.isNone
  | .takeTasks => s.handling.isNone
  | .collect | .runCallback => true
  -- These three are split into steps.
  | .handleTask | .removeConnection _ | .onDisconnected _ => false

/-- One step of one of the threads. -/
def step (s : DisconnectRun) : DisconnectOp → Option DisconnectRun
  | .process op =>
    if s.free op then (s.toProcess.step op).map fun p => { s with toProcess := p } else none
  | .handleTask =>
    match s.handling, s.buffer with
    | none, (connectionId, message) :: rest =>
      if message.type ∈ s.registered then
        some { s with buffer := rest, handling := some (connectionId, .begin message) }
      else some { s with buffer := rest }
    | _, _ => none
  | .application =>
    s.handling.map fun (connectionId, handler) =>
      let (server, next, calls) := handlerStep s.server connectionId handler
      { s with
        server := server
        created := s.created ++ calls.flatMap Call.created
        handling := next.map (connectionId, ·) }
  | .removeConnection connectionId =>
    if s.network.isNone ∧ connectionId ∈ s.server.connections then
      some { s with
        server := s.server.removeConnection connectionId
        network := some (connectionId, .lookup) }
    else none
  | .network =>
    s.network.map fun (connectionId, call) =>
      let (server, next, _) := removeSessionStep s.server connectionId call
      { s with
        server := server
        network := next.map (connectionId, ·)
        -- `OnDisconnected` has run when `RemoveSession` has returned.
        disconnected := next.elim (s.disconnected ++ [connectionId]) fun _ => s.disconnected }

/-- A logout of the connection is going to unassign it. -/
def unassignsLater (s : DisconnectRun) (connectionId : Nat) : Bool :=
  s.handling.any fun (handled, handler) => handled = connectionId && handler.unassigns

/-- The next step is the last one of `RemoveSession`: the erase, or the lookup of a connection
without a session. -/
def returns (s : DisconnectRun) : Nat × RemoveSessionCall → Bool
  | (connectionId, .lookup) => !s.server.users.hasSession connectionId
  | (_, .broadcast _) => false
  | (_, .erase _) => true

/-- No session and no channel is assigned to a connection whose `OnDisconnected` has run. And
`OnDisconnected` returns when its connection has no channel, or when a logout of the connection is
going to unassign it. -/
def CleanStep (s : DisconnectRun) : DisconnectOp → Prop
  | .application =>
    ∀ handler ∈ s.handling, handler.2.assigns = true → handler.1 ∉ s.disconnected
  | .network =>
    ∀ call ∈ s.network, s.returns call = true →
      s.server.channels.connectionChannelMap.findLeft call.1 = none ∨
        s.unassignsLater call.1 = true
  | _ => True

instance : DecidableRel CleanStep := fun s op =>
  match op with
  | .application =>
    inferInstanceAs (Decidable (∀ handler ∈ s.handling, handler.2.assigns = true →
      handler.1 ∉ s.disconnected))
  | .network =>
    inferInstanceAs (Decidable (∀ call ∈ s.network, s.returns call = true →
      s.server.channels.connectionChannelMap.findLeft call.1 = none ∨
        s.unassignsLater call.1 = true))
  | .process _ | .handleTask | .removeConnection _ => isTrue trivial

/-- No message of the connection is queued, and none is being handled. -/
def Drained (s : DisconnectRun) (connectionId : Nat) : Prop :=
  (∀ task ∈ s.tasks ++ s.buffer, task.1 ≠ connectionId) ∧
    ∀ handler ∈ s.handling, handler.1 ≠ connectionId

instance (s : DisconnectRun) (connectionId : Nat) : Decidable (s.Drained connectionId) :=
  inferInstanceAs (Decidable (_ ∧ _))

end DisconnectRun

/-- The process with split handlers, over any database. -/
def disconnectRuns : Lts DisconnectRun DisconnectOp where
  start s := ∃ db, s = { toProcess := Process.begin db }
  step := DisconnectRun.step

end ChatCore.Server
