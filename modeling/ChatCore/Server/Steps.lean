import ChatCore.Lib.Lts
import ChatCore.Lib.Since
import ChatCore.Server.Handlers

/-!
# `ChatCore.Server.Steps`: runs of the server with atomic handlers

After start-up the network thread accepts and removes connections, the application thread
handles messages, and the scheduler thread executes the steps of `Persist`. In this system a
handler is one step, and so is a disconnect, which removes the connection and calls
`OnDisconnected`. Steps come in any order. A message of a connection may be handled after
its disconnect, because messages wait in a queue, and a connection may report its disconnect
more than once.

`trace` is a ghost: the steps so far and the calls that each of them made. The predicates on
events at the end read it.
-/

set_option autoImplicit false

namespace ChatCore.Server

open ChatCore.Api
open ChatCore.Lib (Lts latest)

/-- A step of the server. -/
inductive ServerOp where
  | connect
  | handle (connectionId : Nat) (message : Message)
  | disconnect (connectionId : Nat)
  | persist
  deriving DecidableEq

/-- A step that was taken, with the calls it made. -/
structure Event where
  op : ServerOp
  calls : List Call
  deriving DecidableEq

/-- The server and the trace of the steps since start-up. -/
structure ServerRun where
  server : ServerState
  persist : PersistStep := .idle
  /-- The database at start-up. -/
  start : Database
  trace : List Event := []

namespace ServerRun

/-- The ids that `CreateConnection` has handed out. -/
def Issued (s : ServerRun) (connectionId : Nat) : Prop :=
  0 < connectionId ∧ connectionId < s.server.nextConnectionId

instance (s : ServerRun) (connectionId : Nat) : Decidable (s.Issued connectionId) :=
  inferInstanceAs (Decidable (_ ∧ _))

/-- The state after a step, with the step at the end of the trace. -/
def record (s : ServerRun) (op : ServerOp) (result : ServerState × List Call) : ServerRun :=
  { s with server := result.1, trace := s.trace ++ [⟨op, result.2⟩] }

/-- One step of the server. -/
def step (s : ServerRun) : ServerOp → Option ServerRun
  | .connect => some (s.record .connect (s.server.createConnection, []))
  | .handle connectionId message =>
    if s.Issued connectionId then
      some (s.record (.handle connectionId message) (s.server.handle connectionId message))
    else none
  | .disconnect connectionId =>
    if s.Issued connectionId then
      some (s.record (.disconnect connectionId)
        ((s.server.removeConnection connectionId).onDisconnected connectionId))
    else none
  | .persist =>
    (persistStep s.server.db s.server.messages s.persist).map fun (db, messages, persist) =>
      { s.record .persist ({ s.server with db := db, messages := messages }, []) with
        persist := persist }

end ServerRun

/-- Runs of the server, over any database. -/
def serverRuns : Lts ServerRun ServerOp where
  start s := ∃ db, s = { server := ServerState.begin db, start := db }
  step := ServerRun.step

namespace Event

/-- An `AuthenticateUserResponse` for `user` is sent to the connection. -/
def Authenticates (e : Event) (connectionId : Nat) (user : User) : Prop :=
  ∃ requestId, Call.send connectionId (.authenticateUserResponse ⟨requestId, user⟩) ∈ e.calls

/-- A `CreateUserRequest` of some connection is answered with the user of the row. -/
def CreatesUser (e : Event) (row : UserRow) : Prop :=
  ∃ connectionId requestId,
    e.op = .handle connectionId (.createUserRequest ⟨requestId, row.name, row.password⟩) ∧
    Call.send connectionId (.createUserResponse ⟨requestId, row.toUser⟩) ∈ e.calls

/-- A `LogoutRequest` of the connection is answered with a `LogoutResponse`. -/
def logsOut (e : Event) (connectionId : Nat) : Bool :=
  match e.op with
  | .handle c (.logoutRequest m) =>
    c = connectionId ∧ Call.send c (.logoutResponse ⟨m.requestId⟩) ∈ e.calls
  | _ => false

/-- A successful logout of the connection, or its `OnDisconnected`. -/
def EndsSession (e : Event) (connectionId : Nat) : Prop :=
  e.op = .disconnect connectionId ∨ e.logsOut connectionId = true

/-- A `JoinChatChannelRequest` of the connection is answered with a
`JoinChatChannelResponse`. The result is the channel of the request. -/
def joins (e : Event) (connectionId : Nat) : Option Nat :=
  match e.op with
  | .handle c (.joinChatChannelRequest m) =>
    if c = connectionId ∧
      Call.send c (.joinChatChannelResponse ⟨m.requestId, m.channelId⟩) ∈ e.calls
    then some m.channelId
    else none
  | _ => none

/-- What an event says about the channel of a connection: a successful join gives it one, a
successful logout takes it away. -/
def membership (e : Event) (connectionId : Nat) : Option (Option Nat) :=
  if e.logsOut connectionId then some none else (e.joins connectionId).map some

end Event

namespace ServerRun

/-- A user that was registered with this name and password: a row at start-up, or the result
of a successful `CreateUser`. -/
def Registered (s : ServerRun) (row : UserRow) : Prop :=
  row ∈ s.start.users.rows ∨ ∃ e ∈ s.trace, e.CreatesUser row

/-- The channel that the connection joined, if its most recent successful join or logout is a
join. -/
def joinedChannel (s : ServerRun) (connectionId : Nat) : Option Nat :=
  (latest (·.membership connectionId) s.trace).join

end ServerRun

end ChatCore.Server
