import ChatCore.Client.SessionSystem
import ChatCore.Server.Lifetime

/-!
# `ChatCore.Client.Conversation`: the client and the server from a join on

The client has sent a `JoinChatChannelRequest` for `channelId`. The server handles the messages of
the client in their order, and what it sends to the client arrives in the order in which it was
sent (`wire`). Of the server there is the channel of the connection, the message store and the
database (`Lifetimes`), with everything that happens to them: chat messages of any user in any
channel, requests of other clients and the steps of `Persist`. A chat message is written by
`HandleWriteChatMessage`, which creates it and sends the event to the connections of the channel. It
does not matter whether the writer is another user or the user of this client.

User lookups are answered at any later point. Events about other channels and about users may
come at any time. The conversation ends when the user leaves the channel: there is no second join
and no logout.
-/

set_option autoImplicit false

namespace ChatCore.Client

open ChatCore.Api
open ChatCore.Lib (Lts)
open ChatCore.Server (Lifetimes LifetimeOp lifetimes servesHistory)

/-- A message on its way to the client. `messageId` is the id of the message that a chat event is
about. It is a ghost: the event has no id. -/
structure Delivery where
  message : Message
  messageId : Nat := 0

/-- The client, the server and what is on its way between them. -/
structure Conversation where
  client : SessionSystem
  connectionId : Nat
  server : Lifetimes
  /-- The channel that the server has assigned to the connection. -/
  assigned : Option Nat := none
  /-- How many messages of the client the server has handled. -/
  served : Nat
  wire : List Delivery := []

/-- A step of the client, of the server or of the network. -/
inductive ConversationOp where
  /-- `HandleWriteChatMessage` for some connection. -/
  | write (channelId userId : Nat) (content : String)
  /-- Another operation on the message store. -/
  | store (op : LifetimeOp)
  /-- The server handles the next message of the client. -/
  | serve
  /-- The client handles the next message on the wire. -/
  | deliver
  /-- A user lookup is answered. -/
  | lookup (requestId : Nat) (users : List User)
  /-- Another event is handled by the client. -/
  | event (messageId : Nat) (message : Message)

namespace Conversation

variable (channelId : Nat)

/-- The client handles a message. -/
def receive (s : Conversation) (messageId : Nat) (message : Message) : Option Conversation :=
  match s.client.receive s.connectionId messageId message with
  | .ok client => some { s with client := client }
  | .error _ => none

/-- The server handles a request of the client. User lookups are answered later. -/
def handle (s : Conversation) : Message → Option Conversation
  | .joinChatChannelRequest m =>
    match s.server.current.db.getChatChannel m.channelId with
    | none =>
      some { s with
        wire := s.wire ++ [{ message := .errorResponse ⟨m.requestId, "Channel not found."⟩ }] }
    | some channel =>
      some { s with
        assigned := some channel.id
        wire := s.wire ++ [{ message := .joinChatChannelResponse ⟨m.requestId, channel.id⟩ }] }
  | .getChatChannelRequest m =>
    match s.server.current.db.getChatChannel m.channelId with
    | none =>
      some { s with
        wire := s.wire ++ [{ message := .errorResponse ⟨m.requestId, "Channel not found."⟩ }] }
    | some channel =>
      some { s with
        wire := s.wire ++ [{ message := .getChatChannelResponse ⟨m.requestId, channel⟩ }] }
  | .getChatsRequest m =>
    (s.server.step (.op (.getMessagesBefore m.channelId maxMessageId m.limit))).map fun server =>
      let messages := (s.server.current.store.getMessagesBefore s.server.current.db m.channelId
        maxMessageId m.limit).2
      { s with
        server := server
        wire := s.wire ++ [{ message := .getChatsResponse ⟨m.requestId, m.channelId, messages⟩ }] }
  | _ => some s

/-- `HandleWriteChatMessage`: the event goes to the client when it is in the channel. -/
def write (s : Conversation) (channel userId : Nat) (content : String) : Option Conversation :=
  (s.server.step (.op (.createMessage channel userId content))).map fun server =>
    let message := s.server.current.store.nextMessage channel userId content
    { s with
      server := server
      wire := if s.assigned = some channel then
          s.wire ++ [{
            message := .receiveChat ⟨userId, channel, content⟩
            messageId := message.id }]
        else s.wire }

/-- The channel of a chat message. -/
def chatChannel : Message → Option Nat
  | .receiveChat m => some m.channelId
  | _ => none

/-- A message that is neither an answer nor a chat message of the channel. -/
def Unrelated (message : Message) : Prop :=
  message.type.isRpcAnswer = false ∧ chatChannel message ≠ some channelId

instance (message : Message) : Decidable (Unrelated channelId message) :=
  inferInstanceAs (Decidable (_ ∧ _))

/-- The operation creates a message. -/
def creates : LifetimeOp → Bool
  | .createMessage _ _ _ => true
  | _ => false

/-- The operation creates no message, and it is one that the server executes. -/
def Maintains (server : Lifetimes) (op : LifetimeOp) : Prop :=
  servesHistory server (.op op) ∧ creates op = false

instance (server : Lifetimes) (op : LifetimeOp) : Decidable (Maintains server op) :=
  inferInstanceAs (Decidable (_ ∧ _))

/-- One step of the conversation. -/
def step (s : Conversation) : ConversationOp → Option Conversation
  | .write channel userId content =>
    if channel ∈ s.server.current.db.channels.keys then s.write channel userId content else none
  | .store op =>
    if Maintains s.server op then
      (s.server.step (.op op)).map fun server => { s with server := server }
    else none
  | .serve =>
    (s.client.sent[s.served]?).bind fun request =>
      { s with served := s.served + 1 }.handle request.2
  | .deliver =>
    match s.wire with
    | [] => none
    | delivery :: wire => { s with wire := wire }.receive delivery.messageId delivery.message
  | .lookup requestId users => s.receive 0 (.getUsersResponse ⟨requestId, users⟩)
  | .event messageId message =>
    if Unrelated channelId message then s.receive messageId message else none

/-! ### When lines come in order -/

/-- The lines of the channel that the callback of a call is going to print. -/
def linesOf : RpcCallback → List ChatMessage
  | .gotUsers (.chatLog messages) => messages.filter (·.channelId = channelId)
  | .gotUsers (.user _ (.receiveChat message)) => [message].filter (·.channelId = channelId)
  | _ => []

/-- The callback is a part of a join, up to the response with the history. -/
def joins : RpcCallback → Bool
  | .joined | .gotChats | .gotChannel .joined => true
  | _ => false

/-- The callbacks of the calls that are pending, oldest first. -/
def callbacks (s : Conversation) : List RpcCallback := s.client.calls.map PendingCall.callback

/-- The lines of the channel that wait for a user lookup, oldest first. -/
def waiting (s : Conversation) : List ChatMessage := s.callbacks.flatMap (linesOf channelId)

/-- The history of the join is still to come. -/
def Joining (s : Conversation) : Prop := ∃ callback ∈ s.callbacks, joins callback = true

instance (s : Conversation) : Decidable s.Joining :=
  inferInstanceAs (Decidable (∃ _ ∈ _, _ = _))

/-- The lines of the channel that `ProcessChatMessage` has printed. -/
def shown (s : Conversation) : List ChatMessage :=
  s.client.shown.filter (·.channelId = channelId)

/-- The sender of the chat message of the channel that a delivery is. -/
def senderOf (delivery : Delivery) : Option Nat :=
  match delivery.message with
  | .receiveChat m => if m.channelId = channelId then some m.userId else none
  | _ => none

/-- A chat message of the channel is delivered after the history, and when its sender is known only
while no line waits for a lookup. A lookup that prints lines is answered only when it is the oldest
one of them. Message ids do not run out. -/
def InTurn (s : Conversation) : ConversationOp → Prop
  | .write _ _ _ => s.server.history.length + 1 < uint32Size - 1
  | .deliver =>
    ∀ delivery ∈ s.wire.head?, ∀ sender ∈ senderOf channelId delivery,
      ¬ s.Joining ∧ (s.client.store.usersCache sender ≠ none → s.waiting channelId = [])
  | .lookup requestId users =>
    ∀ call ∈ s.client.answered s.connectionId (.getUsersResponse ⟨requestId, users⟩),
      linesOf channelId call.callback ≠ [] →
        s.client.calls.find? (fun call => linesOf channelId call.callback ≠ []) = some call
  | _ => True

instance : DecidableRel (InTurn channelId) := fun s op =>
  match op with
  | .write _ _ _ => inferInstanceAs (Decidable (s.server.history.length + 1 < uint32Size - 1))
  | .deliver =>
    inferInstanceAs (Decidable (∀ delivery ∈ s.wire.head?, ∀ sender ∈ senderOf channelId delivery,
      ¬ s.Joining ∧ (s.client.store.usersCache sender ≠ none → s.waiting channelId = [])))
  | .lookup requestId users =>
    inferInstanceAs (Decidable (
      ∀ call ∈ s.client.answered s.connectionId (.getUsersResponse ⟨requestId, users⟩),
        linesOf channelId call.callback ≠ [] →
          s.client.calls.find? (fun call => linesOf channelId call.callback ≠ []) = some call))
  | .store _ | .serve | .event _ _ => isTrue trivial

/-- The client is in session, none of its calls is part of a join or has lines of the channel to
print, and it calls `JoinChannel`. -/
structure Begins (client : SessionSystem) (s : Conversation) : Prop where
  connected : client.connectionId = some s.connectionId
  user : client.user ≠ none
  shown : client.shown = []
  calls : ∀ call ∈ client.calls,
    joins call.callback = false ∧ linesOf channelId call.callback = []
  join : client.joinChannel channelId = .ok s.client
  served : s.served = client.sent.length
  wire : s.wire = []
  server : lifetimes.Reachable servesHistory s.server ∧
    s.server.history.length < uint32Size - 1

end Conversation

/-- Conversations in a channel, from the moment when the join is requested. -/
def conversations (channelId : Nat) : Lts Conversation ConversationOp where
  start s := ∃ client, Conversation.Begins channelId client s
  step := Conversation.step channelId

end ChatCore.Client
