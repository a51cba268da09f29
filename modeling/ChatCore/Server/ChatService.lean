import ChatCore.Server.Lifetime
import ChatCore.Server.Steps
import Mathlib.Data.List.DropRight
import Mathlib.Data.Set.Insert

/-!
# `ChatCore.Server.ChatService`: what the server is for

`ChatService` is the chat service without caches, batches of writes and a database file. It has
the registered users, the channels, every message ever written, and for each connection its user
and its channel. A request is one step of it, and so is a restart, which forgets the connections
and nothing else. A `Notice` is a message with the set of connections that it is for. This is a
specification and not a part of the source.

`servedRuns` is the server of `serverRuns` over one database file from one start to the next. A
restart is the one of `lifetimes`: with the scheduler thread outside of `Persist`, one whole
`Persist` is executed and the next start reads the database. Each handler, each `OnDisconnected`,
each step of `Persist` and each restart is one step. A step that writes messages needs their
foreign keys. `inputs` and `outputs` are ghosts: what came in from the connections, and what each
connection was sent for it.
-/

set_option autoImplicit false

namespace ChatCore.Server

open ChatCore.Api
open ChatCore.Lib (Lts)

/-! ### The service -/

/-- The state of the chat service. -/
structure ChatService where
  users : List UserRow
  channels : List ChatChannel
  /-- Every message written so far, oldest first. -/
  history : List ChatMessage
  /-- The user that a connection is logged in as. -/
  userOf : Nat → Option Nat := fun _ => none
  /-- The channel that a connection is in. -/
  channelOf : Nat → Option Nat := fun _ => none
  connections : Set Nat := ∅
  /-- The number of connections that were opened. -/
  opened : Nat := 0
  running : Bool := true

/-- A message, and the connections that it is for. -/
structure Notice where
  audience : Set Nat
  message : Message

/-- What the service is asked to do. -/
inductive ServiceOp where
  | connect
  | handle (connectionId : Nat) (message : Message)
  | disconnect (connectionId : Nat)
  | restart

namespace ChatService

/-- A message for one connection. -/
def reply (connectionId : Nat) (message : Message) : Notice := ⟨{connectionId}, message⟩

/-- The error of a request. -/
def reject (connectionId requestId : Nat) (text : String) : Notice :=
  reply connectionId (.errorResponse ⟨requestId, text⟩)

/-- A message for everyone. -/
def announce (message : Message) : Notice := ⟨Set.univ, message⟩

/-- A message for the connections in a channel. -/
def tell (s : ChatService) (channelId : Nat) (message : Message) : Notice :=
  ⟨{connectionId | s.channelOf connectionId = some channelId}, message⟩

open Classical in
/-- What a connection is sent: a connection that is not open is sent nothing. -/
noncomputable def received (s : ChatService) (notices : List Notice) (connectionId : Nat) :
    List Message :=
  if connectionId ∈ s.connections then
    (notices.filter (connectionId ∈ ·.audience)).map Notice.message
  else []

/-- Ids are given in ascending order, so the next one is above the last. -/
def nextId (ids : List Nat) : Nat := ids.getLast?.elim 1 (· + 1)

/-- The answer to a request that needs a login: `act` is given the user. -/
def authorized (s : ChatService) (connectionId : Nat) (error : Message)
    (act : Nat → ChatService × List Notice) : ChatService × List Notice :=
  match s.userOf connectionId with
  | none => (s, [reply connectionId error])
  | some user => act user

/-- The user gets the next id, unless the name is taken. -/
def createUser (s : ChatService) (c : Nat) (m : CreateUserRequestMessage) :
    ChatService × List Notice :=
  if m.name ∈ s.users.map UserRow.name then (s, [reject c m.requestId "User already exists."])
  else
    let id := nextId (s.users.map UserRow.id)
    ({ s with users := s.users ++ [⟨id, m.name, m.password⟩] },
      [reply c (.createUserResponse ⟨m.requestId, ⟨id, m.name⟩⟩)])

open Classical in
/-- A user has one connection at a time, and a connection one user. -/
noncomputable def authenticate (s : ChatService) (c : Nat) (m : AuthenticateUserRequestMessage) :
    ChatService × List Notice :=
  match s.userOf c, s.users.find? fun row => row.name = m.name ∧ row.password = m.password with
  | some _, _ => (s, [reject c m.requestId "Already logged in."])
  | none, none => (s, [reject c m.requestId "Wrong username or password"])
  | none, some row =>
    if ∃ c', s.userOf c' = some row.id then
      (s, [reject c m.requestId (m.name ++ " is already logged in.")])
    else
      ({ s with userOf := Function.update s.userOf c (some row.id) },
        [reply c (.authenticateUserResponse ⟨m.requestId, row.toUser⟩),
          announce (.userLoginEvent ⟨row.id⟩)])

/-- A message goes to everyone in the writer's channel, the writer included. -/
def write (s : ChatService) (c user : Nat) (content : String) : ChatService × List Notice :=
  match s.channelOf c with
  | none => (s, [reply c (.error ⟨"No channel joined."⟩)])
  | some channel =>
    ({ s with history := s.history ++ [⟨s.history.length, channel, user, content⟩] },
      [s.tell channel (.receiveChat ⟨user, channel, content⟩)])

/-- The channel gets the next id. When the name is taken, the answer is the channel that has
it. -/
def createChannel (s : ChatService) (c user : Nat) (m : CreateChannelRequestMessage) :
    ChatService × List Notice :=
  match s.channels.find? (·.name = m.name) with
  | some channel => (s, [reply c (.createChannelResponse ⟨m.requestId, channel⟩)])
  | none =>
    let channel : ChatChannel := ⟨nextId (s.channels.map ChatChannel.id), m.name⟩
    ({ s with channels := s.channels ++ [channel] },
      [reply c (.createChannelResponse ⟨m.requestId, channel⟩),
        announce (.channelCreateEvent ⟨channel, user⟩)])

/-- A connection is in one channel at a time. It leaves the old one before it joins. -/
def join (s : ChatService) (c user : Nat) (m : JoinChatChannelRequestMessage) :
    ChatService × List Notice :=
  if m.channelId ∈ s.channels.map ChatChannel.id then
    let joined := { s with channelOf := Function.update s.channelOf c (some m.channelId) }
    let leave := (s.channelOf c).elim [] fun previous =>
      [s.tell previous (.channelLeaveEvent ⟨previous, user⟩)]
    (joined, leave ++ [joined.tell m.channelId (.channelJoinEvent ⟨m.channelId, user⟩),
      reply c (.joinChatChannelResponse ⟨m.requestId, m.channelId⟩)])
  else (s, [reject c m.requestId "Channel not found."])

/-- The messages of a channel, oldest first. -/
def chats (s : ChatService) (channelId : Nat) : List ChatMessage :=
  s.history.filter (·.channelId = channelId)

/-- A request or another message of a connection. -/
noncomputable def handle (s : ChatService) (c : Nat) : Message → ChatService × List Notice
  | .createUserRequest m => s.createUser c m
  | .authenticateUserRequest m => s.authenticate c m
  | .getUsersRequest m =>
    s.authorized c (.errorResponse ⟨m.requestId, "Not authorized."⟩) fun _ =>
      (s, [reply c (.getUsersResponse ⟨m.requestId, m.userIds.filterMap fun id =>
        (s.users.find? (·.id = id)).map UserRow.toUser⟩)])
  | .getUserRequest m =>
    s.authorized c (.errorResponse ⟨m.requestId, "Not authorized."⟩) fun _ =>
      match s.users.find? (·.name = m.name) with
      | none => (s, [reject c m.requestId ("User with name " ++ m.name ++ " not found")])
      | some row => (s, [reply c (.getUserResponse ⟨m.requestId, row.toUser⟩)])
  | .writeChat m =>
    s.authorized c (.error ⟨"Not authorized."⟩) fun user => s.write c user m.content
  | .createChannelRequest m =>
    s.authorized c (.errorResponse ⟨m.requestId, "Not authorized."⟩) fun user =>
      s.createChannel c user m
  | .joinChatChannelRequest m =>
    s.authorized c (.errorResponse ⟨m.requestId, "Not authorized."⟩) fun user => s.join c user m
  | .getChatsRequest m =>
    s.authorized c (.errorResponse ⟨m.requestId, "Not authorized."⟩) fun _ =>
      (s, [reply c (.getChatsResponse ⟨m.requestId, m.channelId,
        (s.chats m.channelId).rtake m.limit⟩)])
  | .getChatChannelsRequest m =>
    s.authorized c (.errorResponse ⟨m.requestId, "Not authorized."⟩) fun _ =>
      (s, [reply c (.getChatChannelsResponse ⟨m.requestId, s.channels⟩)])
  | .getChatChannelRequest m =>
    s.authorized c (.errorResponse ⟨m.requestId, "Not authorized."⟩) fun _ =>
      match s.channels.find? (·.id = m.channelId) with
      | none => (s, [reject c m.requestId "Channel not found."])
      | some channel => (s, [reply c (.getChatChannelResponse ⟨m.requestId, channel⟩)])
  | .shutdown _ =>
    s.authorized c (.error ⟨"Not authorized."⟩) fun _ => ({ s with running := false }, [])
  | .logoutRequest m =>
    s.authorized c (.errorResponse ⟨m.requestId, "Not authorized."⟩) fun user =>
      ({ s with
          userOf := Function.update s.userOf c none
          channelOf := Function.update s.channelOf c none },
        [announce (.userLogoutEvent ⟨user⟩), reply c (.logoutResponse ⟨m.requestId⟩)])
  | _ => (s, [])

/-- A connection closes. It is logged out, and it stays in its channel: its id is not used
again. -/
def disconnect (s : ChatService) (c : Nat) : ChatService × List Notice :=
  let closed := { s with connections := s.connections \ {c} }
  match s.userOf c with
  | none => (closed, [])
  | some user =>
    ({ closed with userOf := Function.update s.userOf c none },
      [announce (.userLogoutEvent ⟨user⟩)])

/-- One step of the service. -/
noncomputable def step (s : ChatService) : ServiceOp → ChatService × List Notice
  | .connect =>
    ({ s with
        connections := insert (s.opened + 1) s.connections
        opened := s.opened + 1 }, [])
  | .handle connectionId message => s.handle connectionId message
  | .disconnect connectionId => s.disconnect connectionId
  | .restart => ({ users := s.users, channels := s.channels, history := s.history }, [])

/-- The state after some steps. -/
noncomputable def after (s : ChatService) (ops : List ServiceOp) : ChatService :=
  ops.foldl (fun s op => (s.step op).1) s

/-- What the connections are sent in each step. -/
noncomputable def outputs (s : ChatService) : List ServiceOp → List (Nat → List Message)
  | [] => []
  | op :: ops => (s.step op).1.received (s.step op).2 :: (s.step op).1.outputs ops

/-- The service with the users, the channels and the messages of a database. -/
def ofDatabase (db : Database) : ChatService where
  users := db.users.rows
  channels := db.channels.rows
  history := db.messages.rows

end ChatService

/-! ### The server from one start to the next -/

/-- The messages that the calls hand to a connection, while `connections` are registered. -/
def handedTo (connections : List Nat) (calls : List Call) (connectionId : Nat) : List Message :=
  ((calls.flatMap (Call.deliveries connections)).filter (·.1 = connectionId)).map Prod.snd

/-- What a step of the server is to its connections. They see nothing of `Persist`. -/
def ServerOp.input : ServerOp → Option ServiceOp
  | .connect => some .connect
  | .handle connectionId message => some (.handle connectionId message)
  | .disconnect connectionId => some (.disconnect connectionId)
  | .persist => none

/-- The server since its last start, and what happened since the first one. -/
structure ServedRun where
  current : ServerRun
  /-- The database at the first start. -/
  start : Database
  inputs : List ServiceOp := []
  outputs : List (Nat → List Message) := []

/-- A step of the server, or its next start. -/
inductive ServedOp where
  | op (o : ServerOp)
  | restart

namespace ServedRun

/-- The first start of the server. -/
def begin (db : Database) : ServedRun where
  current := { server := ServerState.begin db, start := db }
  start := db

/-- The state with an input and what it made the server send. -/
def record (r : ServedRun) (current : ServerRun) (input : Option ServiceOp)
    (output : Nat → List Message) : ServedRun :=
  { r with
    current := current
    inputs := r.inputs ++ input.toList
    outputs := r.outputs ++ (input.map fun _ => output).toList }

/-- The messages that the step writes into the database. -/
def writes (r : ServedRun) : ServedOp → List ChatMessage
  | .op .persist => r.current.persist.inFlight
  | .op _ => []
  | .restart => r.current.server.messages.pendingMessages

/-- The messages that are not in the database yet. -/
def unwritten (r : ServedRun) : List ChatMessage :=
  r.current.persist.inFlight ++ r.current.server.messages.pendingMessages

/-- One step of the server, or a restart, with messages that the database takes. -/
def transition (r : ServedRun) : ServedOp → Option ServedRun
  | .op o => (r.current.step o).map fun current =>
    let calls := (current.trace.drop r.current.trace.length).flatMap Event.calls
    r.record current o.input (handedTo current.server.connections calls)
  | .restart =>
    match r.current.persist with
    | .idle => (persistToEnd r.current.server.db r.current.server.messages).map fun (db, _) =>
      r.record { server := ServerState.begin db, start := db } (some .restart) fun _ => []
    | _ => none

/-- One step of the server, or a restart. A message whose channel or user has no row is not
written: `Persist` ends with the exception of SQLite, and so does the run. -/
def step (r : ServedRun) (o : ServedOp) : Option ServedRun :=
  if ∀ m ∈ r.writes o, r.current.server.db.ForeignKeys m then r.transition o else none

/-- The service that has done what the server was asked to do. -/
noncomputable def service (r : ServedRun) : ChatService :=
  (ChatService.ofDatabase r.start).after r.inputs

end ServedRun

/-- Runs of the server over one database file that starts without messages. -/
def servedRuns : Lts ServedRun ServedOp where
  start r := ∃ db : Database, db.messages.rows = [] ∧ r = .begin db
  step := ServedRun.step

end ChatCore.Server
