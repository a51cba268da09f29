import ChatCore.Lib.Lts
import ChatCore.Server.Handlers

/-!
# `ChatCore.Server.Presence`: login and logout events of two threads

`UserLoginEvent` and `UserLogoutEvent` are broadcast by the application thread, in
`HandleAuthenticateUser` and `HandleLogout`, and by the network thread, in `OnDisconnected`. No
lock keeps the two threads apart, so the steps of these functions may interleave:

- `HandleAuthenticateUser` assigns the session and then broadcasts the login.
- `RemoveSession` looks up the user of the session, broadcasts the logout and erases the session.
  `HandleLogout` has validated the session before it calls `RemoveSession`, and unassigns the
  connection afterwards.

The other handlers are one step. `broadcasts` lists the two kinds of events in the order of their
broadcasts. It is a ghost.
-/

set_option autoImplicit false

namespace ChatCore.Server

open ChatCore.Api
open ChatCore.Lib (Lts)

/-- A broadcast of `UserLoginEvent` or `UserLogoutEvent`. -/
inductive PresenceEvent where
  | login (userId : Nat)
  | logout (userId : Nat)
  deriving DecidableEq

/-- The call of `Broadcast`. -/
def PresenceEvent.call : PresenceEvent → Call
  | .login userId => .broadcast (.userLoginEvent ⟨userId⟩)
  | .logout userId => .broadcast (.userLogoutEvent ⟨userId⟩)

/-- What the event says about the user: `true` is a login. -/
def PresenceEvent.about (u : Nat) : PresenceEvent → Option Bool
  | .login userId => if userId = u then some true else none
  | .logout userId => if userId = u then some false else none

/-- Where a call of `UserServerSystem::RemoveSession` stands: before its lookup, its broadcast or
its erase. -/
inductive RemoveSessionCall where
  | lookup
  | broadcast (userId : Nat)
  | erase (userId : Nat)
  deriving DecidableEq

/-- The next step of `RemoveSession`, with the event that it broadcasts. No call is left when the
function has returned. -/
def removeSessionStep (s : ServerState) (connectionId : Nat) :
    RemoveSessionCall → ServerState × Option RemoveSessionCall × List PresenceEvent
  | .lookup =>
    let (users, potentialUser) := s.users.getSessionUser s.db connectionId
    ({ s with users := users }, potentialUser.map fun user => .broadcast user.id, [])
  | .broadcast userId => (s, some (.erase userId), [.logout userId])
  | .erase _ => ({ s with users := s.users.removeSession connectionId }, none, [])

/-- What the application thread is in the middle of. -/
inductive ApplicationThread where
  | idle
  /-- `HandleAuthenticateUser` before its broadcast. -/
  | authenticate (userId : Nat)
  /-- `HandleLogout` in `RemoveSession`. -/
  | logout (connectionId : Nat) (call : RemoveSessionCall)
  deriving DecidableEq

/-- The server with its two threads. -/
structure PresenceRun where
  server : ServerState
  application : ApplicationThread := .idle
  /-- The `OnDisconnected` of the network thread, with its connection. -/
  network : Option (Nat × RemoveSessionCall) := none
  broadcasts : List PresenceEvent := []

/-- A step of one of the threads. -/
inductive PresenceOp where
  | connect
  /-- The application thread begins to handle a message. -/
  | handle (connectionId : Nat) (message : Message)
  /-- The next step of the handler. -/
  | application
  /-- The network thread removes a connection and calls `OnDisconnected`. -/
  | disconnect (connectionId : Nat)
  /-- The next step of `OnDisconnected`. -/
  | network
  deriving DecidableEq

/-- The user of the login event among the calls. -/
def loginOf (calls : List Call) : Option Nat :=
  calls.findSome? fun
    | .broadcast (.userLoginEvent m) => some m.userId
    | _ => none

namespace PresenceRun

/-- The ids that `CreateConnection` has handed out. -/
def Issued (s : PresenceRun) (connectionId : Nat) : Prop :=
  0 < connectionId ∧ connectionId < s.server.nextConnectionId

instance (s : PresenceRun) (connectionId : Nat) : Decidable (s.Issued connectionId) :=
  inferInstanceAs (Decidable (_ ∧ _))

/-- A message is handled up to the first point where the other thread may interleave. -/
def beginHandle (s : PresenceRun) (connectionId : Nat) : Message → PresenceRun
  | .authenticateUserRequest m =>
    -- The login event is among the calls only when the session was assigned.
    let (server, calls) := s.server.handleAuthenticateUser connectionId m
    { s with
      server := server
      application := (loginOf calls).elim .idle .authenticate }
  | .logoutRequest _ =>
    if s.server.users.hasSession connectionId then
      { s with application := .logout connectionId .lookup }
    else s
  | m => { s with server := (s.server.handle connectionId m).1 }

/-- The next step of the handler of the application thread. -/
def applicationStep (s : PresenceRun) : Option PresenceRun :=
  match s.application with
  | .idle => none
  | .authenticate userId =>
    some { s with
      application := .idle
      broadcasts := s.broadcasts ++ [.login userId] }
  | .logout connectionId call =>
    let (server, next, events) := removeSessionStep s.server connectionId call
    let s := { s with broadcasts := s.broadcasts ++ events }
    match next with
    | some call => some { s with server := server, application := .logout connectionId call }
    -- `RemoveSession` has returned.
    | none =>
      some { s with
        server := { server with channels := server.channels.unassignConnection connectionId }
        application := .idle }

/-- The next step of `OnDisconnected`. -/
def networkStep (s : PresenceRun) : Option PresenceRun :=
  s.network.map fun (connectionId, call) =>
    let (server, next, events) := removeSessionStep s.server connectionId call
    { s with
      server := server
      network := next.map (connectionId, ·)
      broadcasts := s.broadcasts ++ events }

/-- One step of one of the threads. -/
def step (s : PresenceRun) : PresenceOp → Option PresenceRun
  | .connect => some { s with server := s.server.createConnection }
  | .handle connectionId message =>
    if s.application = .idle ∧ s.Issued connectionId then some (s.beginHandle connectionId message)
    else none
  | .application => s.applicationStep
  | .disconnect connectionId =>
    if s.network = none ∧ s.Issued connectionId then
      some { s with
        server := s.server.removeConnection connectionId
        network := some (connectionId, .lookup) }
    else none
  | .network => s.networkStep

/-- The events about a user, oldest first. -/
def presenceOf (s : PresenceRun) (u : Nat) : List Bool :=
  s.broadcasts.filterMap (PresenceEvent.about u)

/-- The last event about the user is a login. -/
def Present (s : PresenceRun) (u : Nat) : Prop := (s.presenceOf u).getLast? = some true

instance (s : PresenceRun) (u : Nat) : Decidable (s.Present u) :=
  inferInstanceAs (Decidable (_ = _))

/-- The events about the user alternate, and the first one is a login. -/
def Alternate (s : PresenceRun) (u : Nat) : Prop := (false :: s.presenceOf u).IsChain (· ≠ ·)

instance (s : PresenceRun) (u : Nat) : Decidable (s.Alternate u) :=
  inferInstanceAs (Decidable (List.IsChain _ _))

/-- The `RemoveSession` of the application thread, with its connection. -/
def applicationCall (s : PresenceRun) : Option (Nat × RemoveSessionCall) :=
  match s.application with
  | .logout connectionId call => some (connectionId, call)
  | _ => none

/-- The connection that a call is about to look up. -/
def lookedUp : Nat × RemoveSessionCall → Option Nat
  | (connectionId, .lookup) => some connectionId
  | _ => none

/-- The session that a call has looked up and not erased yet. -/
def removed : Nat × RemoveSessionCall → Option (Nat × Nat)
  | (connectionId, .broadcast userId) | (connectionId, .erase userId) =>
    some (connectionId, userId)
  | (_, .lookup) => none

/-- The user whose logout a call is about to broadcast. -/
def loggedOut : Nat × RemoveSessionCall → Option Nat
  | (_, .broadcast userId) => some userId
  | _ => none

/-- `RemoveSession` looks up a connection while the other thread is not removing the session of
this connection. `OnDisconnected` broadcasts the logout of a user while no login of this user is
still to be broadcast. -/
def InTurn (s : PresenceRun) : PresenceOp → Prop
  | .application =>
    ∀ connectionId ∈ s.applicationCall.bind lookedUp, ∀ session ∈ s.network.bind removed,
      session.1 ≠ connectionId
  | .network =>
    (∀ connectionId ∈ s.network.bind lookedUp, ∀ session ∈ s.applicationCall.bind removed,
      session.1 ≠ connectionId) ∧
    ∀ userId ∈ s.network.bind loggedOut, s.application ≠ .authenticate userId
  | _ => True

instance : DecidableRel InTurn := fun s op =>
  match op with
  | .application =>
    inferInstanceAs (Decidable (∀ connectionId ∈ s.applicationCall.bind lookedUp,
      ∀ session ∈ s.network.bind removed, session.1 ≠ connectionId))
  | .network =>
    inferInstanceAs (Decidable ((∀ connectionId ∈ s.network.bind lookedUp,
      ∀ session ∈ s.applicationCall.bind removed, session.1 ≠ connectionId) ∧
      ∀ userId ∈ s.network.bind loggedOut, s.application ≠ .authenticate userId))
  | .connect | .handle _ _ | .disconnect _ => isTrue trivial

end PresenceRun

/-- Runs of the two threads after `Prewarm`, over any database. -/
def presenceRuns : Lts PresenceRun PresenceOp where
  start s := ∃ db, s = { server := ServerState.begin db }
  step := PresenceRun.step

end ChatCore.Server
