import ChatCore.Client.ClientRun
import ChatCore.Proofs.WireFormat
import ChatCore.Server.ChatService

/-!
# `ChatCore.Client.ServedClient`: the session of a client against the server

The client of `ClientRun` and the server of `ServedRun`, with the connections between them. A
connection is a `Link`: two queues, and the ids that its two ends have given it. The server
accepts it first. The client learns of it when `OnConnected` is called, and may lose it and make
another one. What a link carries arrives whole and in its order, as `Message.received`.

Other clients of the server may do anything at any time, and so may `Persist`. A restart of the
server cuts every link: the client may still read what is on its way, and nothing it sends is
handled any more. A message that the client sends on a connection goes into the link of this
connection.

`heard`, `logouts` and `shown` are ghosts: the messages that the client has received, the logouts
that it has asked for with the user that it had, and the lines that it has shown with the user that
it had then. `Vouched` says when a message of the server is true to the state of the chat service,
and `Reports` lists what the lines of the client may say.
-/

set_option autoImplicit false

namespace ChatCore.Client

open ChatCore.Api
open ChatCore.Lib (Lts)
open ChatCore.Server (ChatService ServedOp ServedRun ServerOp UserRow servedRuns)

/-! ### The links -/

/-- A connection between the client and the server. -/
structure Link where
  /-- The id of the connection at the server. -/
  serverId : Nat
  /-- The server was not restarted since it accepted the connection. -/
  served : Bool := true
  /-- The id of the connection at the client, once `OnConnected` was called. -/
  clientId : Option Nat := none
  toServer : List Message := []
  toClient : List Message := []

namespace Link

/-- The link after the client has sent these messages. -/
def send (l : Link) (sent : List (Nat × Message)) : Link :=
  { l with
    toServer := l.toServer ++ (sent.filter fun p => l.clientId = some p.1).map Prod.snd }

/-- The link after the server has sent these messages. -/
def receive (l : Link) (outputs : List (Nat → List Message)) : Link :=
  if l.served then
    { l with toClient := l.toClient ++ outputs.flatMap fun output => output l.serverId }
  else l

end Link

/-- A client and a server. -/
structure ServedClient where
  client : ClientRun := {}
  server : ServedRun
  links : List Link := []
  heard : List Message := []
  logouts : List (Nat × User) := []
  shown : List (Option User × String) := []

/-- A step of the client, of the server or of a link, which is given by its place in `links`. -/
inductive ServedClientOp where
  /-- The server accepts a connection of the client. -/
  | accept
  /-- `OnConnected` is called for a connection that the server has accepted. -/
  | connected (k : Nat)
  /-- Another step of the client: a command of the user, a timeout or the end of a connection. -/
  | client (op : ClientOp)
  /-- The server handles the next message of the link. -/
  | serve (k : Nat)
  /-- The server does something else. -/
  | server (op : ServerOp)
  | restart
  /-- The client receives the next message of the link. -/
  | deliver (k messageId : Nat)

/-- The logout requests among the messages, with the user. -/
def logoutsAs (user : Option User) (sent : List (Nat × Message)) : List (Nat × User) :=
  sent.filterMap fun p =>
    match p.2, user with
    | .logoutRequest m, some user => some (m.requestId, user)
    | _, _ => none

namespace ServedClient

/-- A step of the client. What it sends goes into the links. -/
def clientStep (s : ServedClient) (op : ClientOp) : Option ServedClient :=
  (s.client.step op).map fun client =>
    let sent := client.system.sent.drop s.client.system.sent.length
    let lines := client.system.model.lines.drop s.client.system.model.lines.length
    { s with
      client := client
      links := s.links.map (·.send sent)
      logouts := s.logouts ++ logoutsAs s.client.system.user sent
      shown := s.shown ++ lines.map (client.system.user, ·) }

/-- A step of the server. What it sends goes into the links. -/
def serverStep (s : ServedClient) (op : ServedOp) : Option ServedClient :=
  (s.server.step op).map fun server =>
    { s with
      server := server
      links := s.links.map (·.receive (server.outputs.drop s.server.outputs.length)) }

/-- The steps of the client that no link has a part in. -/
def Alone : ClientOp → Prop
  | .connected | .receive .. => False
  | _ => True

instance : DecidablePred Alone := fun op => by
  unfold Alone
  split <;> infer_instance

/-- The step is not the handling of a message of the client. -/
def Elsewhere (s : ServedClient) : ServerOp → Prop
  | .handle connectionId _ => ∀ l ∈ s.links, l.served → l.serverId ≠ connectionId
  | _ => True

instance (s : ServedClient) : DecidablePred s.Elsewhere := fun op =>
  match op with
  | .handle connectionId _ =>
    inferInstanceAs (Decidable (∀ l ∈ s.links, l.served → l.serverId ≠ connectionId))
  | .connect | .disconnect _ | .persist => isTrue trivial

/-- One step of the system. -/
def step (s : ServedClient) : ServedClientOp → Option ServedClient
  | .accept => (s.serverStep (.op .connect)).map fun s' =>
      { s' with links := s'.links ++ [{ serverId := s.server.current.server.nextConnectionId }] }
  | .connected k =>
    match s.links[k]? with
    | none => none
    | some l =>
      if l.clientId = none then
        (s.clientStep .connected).map fun s' =>
          { s' with
            links := s'.links.modify k
              fun l => { l with clientId := some s.client.nextConnectionId } }
      else none
  | .client op => if Alone op then s.clientStep op else none
  | .serve k =>
    match s.links[k]? with
    | none => none
    | some l =>
      match l.toServer with
      | [] => none
      | message :: rest =>
        if l.served then
          { s with links := s.links.set k { l with toServer := rest } }.serverStep
            (.op (.handle l.serverId message.received))
        else none
  | .server op => if s.Elsewhere op then s.serverStep (.op op) else none
  | .restart => (s.serverStep .restart).map fun s' =>
      { s' with links := s'.links.map ({ · with served := false }) }
  | .deliver k messageId =>
    match s.links[k]? with
    | none => none
    | some l =>
      match l.clientId, l.toClient with
      | some connectionId, message :: rest =>
        { s with
            links := s.links.set k { l with toClient := rest }
            heard := s.heard ++ [message.received] }.clientStep
          (.receive connectionId messageId message.received)
      | _, _ => none

end ServedClient

/-- The runs of a client from its start, against a server that is running. -/
def servedClients : Lts ServedClient ServedClientOp where
  start s := ∃ server : ServedRun, servedRuns.Reachable Lts.anyStep server ∧
    s = { server := server }
  step := ServedClient.step

/-! ### What is true of the service -/

/-- The registered users, as the protocol shows them. -/
def people (σ : ChatService) : List User := σ.users.map UserRow.toUser

/-- The message was written: its sender and its text are those of one in the history. -/
def Written (σ : ChatService) (userId : Nat) (content : String) : Prop :=
  ∃ w ∈ σ.history, w.userId = userId ∧ w.content = content

/-- What the message says of users, channels and chat messages is true. The server prints nothing
at its clients. -/
def Vouched (σ : ChatService) : Message → Prop
  | .print _ => False
  | .receiveChat m => Written σ m.userId m.content
  | .getChatsResponse m => ∀ chat ∈ m.messages, Written σ chat.userId chat.content
  | .createUserResponse m => m.user ∈ people σ
  | .authenticateUserResponse m => m.user ∈ people σ
  | .getUserResponse m => m.user ∈ people σ
  | .getUsersResponse m => ∀ user ∈ m.users, user ∈ people σ
  | .createChannelResponse m => m.channel ∈ σ.channels
  | .getChatChannelResponse m => m.channel ∈ σ.channels
  | .getChatChannelsResponse m => ∀ channel ∈ m.channels, channel ∈ σ.channels
  | .channelCreateEvent m => m.channel ∈ σ.channels
  | _ => True

/-- The server told the client of the chat message, by an event or in a page of a channel. -/
def Told (heard : List Message) (userId : Nat) (content : String) : Prop :=
  (∃ m, .receiveChat m ∈ heard ∧ m.userId = userId ∧ m.content = content) ∨
    ∃ m, .getChatsResponse m ∈ heard ∧
      ∃ chat ∈ m.messages, chat.userId = userId ∧ chat.content = content

/-- What a line of the client may say, when the service is `σ` and the client has received `heard`,
asked for `logouts` and has the user `self`. -/
inductive Reports (σ : ChatService) (heard : List Message) (logouts : List (Nat × User))
    (self : Option User) : String → Prop
  | own {user : User} {content : String} : self = some user → user ∈ people σ →
      Written σ user.id content → Told heard user.id content →
      Reports σ heard logouts self ("[You] " ++ content)
  | chat {user : User} {content : String} : (∀ own ∈ self, user.id ≠ own.id) → user ∈ people σ →
      Written σ user.id content → Told heard user.id content →
      Reports σ heard logouts self ("[User::" ++ user.name ++ "] " ++ content)
  | loggedInAs {requestId : Nat} {user : User} : self = some user → user ∈ people σ →
      .authenticateUserResponse ⟨requestId, user⟩ ∈ heard →
      Reports σ heard logouts self ("[Client] Logged in as " ++ user.name)
  | loggedOutAs {requestId : Nat} {user : User} : (requestId, user) ∈ logouts →
      user ∈ people σ → .logoutResponse ⟨requestId⟩ ∈ heard →
      Reports σ heard logouts self ("[Client] Logged out as " ++ user.name)
  | createdUser {requestId : Nat} {user : User} : user ∈ people σ →
      .createUserResponse ⟨requestId, user⟩ ∈ heard →
      Reports σ heard logouts self ("[Client] User successfully created: " ++ user.name)
  | channels {requestId : Nat} {channels : List ChatChannel} :
      (∀ channel ∈ channels, channel ∈ σ.channels) →
      .getChatChannelsResponse ⟨requestId, channels⟩ ∈ heard →
      Reports σ heard logouts self ("[Client] " ++ SessionSystem.channelLines channels)
  | createdChannel {requestId : Nat} {channel : ChatChannel} : channel ∈ σ.channels →
      .createChannelResponse ⟨requestId, channel⟩ ∈ heard →
      Reports σ heard logouts self
        ("[Client] Created channel:\n" ++ toString channel.id ++ ": " ++ channel.name)
  | joined {requestId : Nat} {channel : ChatChannel} : channel ∈ σ.channels →
      .joinChatChannelResponse ⟨requestId, channel.id⟩ ∈ heard →
      Reports σ heard logouts self ("[Client] Joined channel: " ++ channel.name)
  | loggedOut {user : User} : user ∈ people σ → .userLogoutEvent ⟨user.id⟩ ∈ heard →
      Reports σ heard logouts self ("[Client] " ++ user.name ++ " logged out.")
  | loggedIn {user : User} : user ∈ people σ → .userLoginEvent ⟨user.id⟩ ∈ heard →
      Reports σ heard logouts self ("[Client] " ++ user.name ++ " logged in.")
  | channelCreated {user : User} {channel : ChatChannel} : user ∈ people σ →
      channel ∈ σ.channels → .channelCreateEvent ⟨channel, user.id⟩ ∈ heard →
      Reports σ heard logouts self
        ("[Client] " ++ user.name ++ " created channel: " ++ channel.name)
  | channelJoined {user : User} {channel : ChatChannel} : user ∈ people σ →
      channel ∈ σ.channels → .channelJoinEvent ⟨channel.id, user.id⟩ ∈ heard →
      Reports σ heard logouts self
        ("[Client] " ++ user.name ++ " joined channel: " ++ channel.name)
  | channelLeft {user : User} {channel : ChatChannel} : user ∈ people σ →
      channel ∈ σ.channels → .channelLeaveEvent ⟨channel.id, user.id⟩ ∈ heard →
      Reports σ heard logouts self
        ("[Client] " ++ user.name ++ " left channel: " ++ channel.name)

end ChatCore.Client
