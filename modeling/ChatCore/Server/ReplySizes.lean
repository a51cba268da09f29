import ChatCore.Api.JsonApi
import ChatCore.Lib.JsonText
import ChatCore.Network.ReadLoop
import ChatCore.Server.Steps

/-!
# `ChatCore.Server.ReplySizes`: how large the replies to a message are

The sizes of the frames that handling a message makes, as arithmetic on the message and on the
state before it: the digits of the ids, the quoted strings, and the constant part of the JSON
text of each type. This is a specification and not a part of the source. `frameSizes_replies`
(`ChatCore.Proofs.FrameSizes`) says that the frames have these sizes.

`26` of each constant is the envelope `{"payload":…,"type_id":…}` with an id of three digits.

`Fits` is a condition on the message and on what is stored when it arrives: the lengths of its
texts, the number of rows that it asks for and the longest text among them. No branch of a handler
is in it. A number counts with the most digits that its type can have, ten for an id and twenty
for a request id, and every row counts with the longest text.
-/

set_option autoImplicit false

namespace ChatCore.Server

open ChatCore.Api
open ChatCore.Lib.Json (arraySize decimalSize quotedSize)
open ChatCore.Network (maxMessageBytes)

/-- `{"id":…,"name":…}`, a user or a channel. -/
def namedSize (id : Nat) (name : String) : Nat := 15 + decimalSize id + quotedSize name

/-- `{"content":…,"id":…,"user_id":…}`. -/
def chatSize (id user : Nat) (content : String) : Nat :=
  29 + quotedSize content + decimalSize id + decimalSize user

def errorSize (text : String) : Nat := 36 + quotedSize text

def errorResponseSize (requestId : Nat) (text : String) : Nat :=
  50 + decimalSize requestId + quotedSize text

/-- A response with one user. -/
def userResponseSize (requestId id : Nat) (name : String) : Nat :=
  49 + decimalSize requestId + namedSize id name

/-- A response with one channel. -/
def channelResponseSize (requestId id : Nat) (name : String) : Nat :=
  52 + decimalSize requestId + namedSize id name

/-- A login or logout event. -/
def userEventSize (user : Nat) : Nat := 38 + decimalSize user

/-- A join or leave event. -/
def channelEventSize (channel user : Nat) : Nat := 52 + decimalSize channel + decimalSize user

/-- The size of the longest text, quoted. -/
def longest (texts : List String) : Nat := (texts.map quotedSize).foldr max 0

namespace ServerState

/-- The sizes of a reply that needs a session: `rest` is given the user of the session. -/
def authorizedSizes (s : ServerState) (c error : Nat) (rest : Nat → List Nat) : List Nat :=
  match s.users.userSessions.findLeft c with
  | none => [error]
  | some user => rest user

/-- The size of the error that a request without a session gets. -/
def notAuthorizedSize (requestId : Nat) : Nat := errorResponseSize requestId "Not authorized."

/-- The sizes of what handling a message of connection `c` sends and broadcasts. -/
def replySizes (s : ServerState) (c : Nat) : Message → List Nat
  | .createUserRequest m =>
    if m.name ∈ s.db.users.rows.map UserRow.name then
      [errorResponseSize m.requestId "User already exists."]
    else [userResponseSize m.requestId s.db.users.nextKey m.name]
  | .authenticateUserRequest m =>
    match s.users.userSessions.findLeft c, s.db.matchUserCredentials m.name m.password with
    | some _, _ => [errorResponseSize m.requestId "Already logged in."]
    | none, none => [errorResponseSize m.requestId "Wrong username or password"]
    | none, some user =>
      if s.users.hasUserSession user.id then
        [errorResponseSize m.requestId (m.name ++ " is already logged in.")]
      else [userResponseSize m.requestId user.id user.name, userEventSize user.id]
  | .getUsersRequest m =>
    s.authorizedSizes c (notAuthorizedSize m.requestId) fun _ =>
      [50 + decimalSize m.requestId +
        arraySize ((m.userIds.filterMap s.db.getUser).map fun user => namedSize user.id user.name)]
  | .getUserRequest m =>
    s.authorizedSizes c (notAuthorizedSize m.requestId) fun _ =>
      match s.db.getUserByName m.name with
      | none => [errorResponseSize m.requestId ("User with name " ++ m.name ++ " not found")]
      | some user => [userResponseSize m.requestId user.id user.name]
  | .writeChat m =>
    s.authorizedSizes c (errorSize "Not authorized.") fun user =>
      match s.channels.connectionChannelMap.findLeft c with
      | none => [errorSize "No channel joined."]
      | some channel => [63 + decimalSize channel + decimalSize user + quotedSize m.content]
  | .createChannelRequest m =>
    s.authorizedSizes c (notAuthorizedSize m.requestId) fun user =>
      match s.db.getChatChannelByName m.name with
      | some channel => [channelResponseSize m.requestId channel.id channel.name]
      | none =>
        [channelResponseSize m.requestId s.db.channels.nextKey m.name,
          49 + namedSize s.db.channels.nextKey m.name + decimalSize user]
  | .joinChatChannelRequest m =>
    s.authorizedSizes c (notAuthorizedSize m.requestId) fun user =>
      match s.db.getChatChannel m.channelId with
      | none => [errorResponseSize m.requestId "Channel not found."]
      | some _ =>
        ((s.channels.connectionChannelMap.findLeft c).map fun previous =>
          channelEventSize previous user).toList ++
        [channelEventSize m.channelId user, 55 + decimalSize m.channelId + decimalSize m.requestId]
  | .getChatsRequest m =>
    s.authorizedSizes c (notAuthorizedSize m.requestId) fun _ =>
      [67 + decimalSize m.requestId + decimalSize m.channelId +
        arraySize ((s.messages.getMessagesBefore s.db m.channelId maxMessageId m.limit).2.map
          fun message => chatSize message.id message.userId message.content)]
  | .getChatChannelsRequest m =>
    s.authorizedSizes c (notAuthorizedSize m.requestId) fun _ =>
      [53 + decimalSize m.requestId +
        arraySize (s.channels.getChannels.map fun channel => namedSize channel.id channel.name)]
  | .getChatChannelRequest m =>
    s.authorizedSizes c (notAuthorizedSize m.requestId) fun _ =>
      match s.db.getChatChannel m.channelId with
      | none => [errorResponseSize m.requestId "Channel not found."]
      | some channel => [channelResponseSize m.requestId channel.id channel.name]
  | .shutdown _ => s.authorizedSizes c (errorSize "Not authorized.") fun _ => []
  | .logoutRequest m =>
    s.authorizedSizes c (notAuthorizedSize m.requestId) fun user =>
      [userEventSize user, 41 + decimalSize m.requestId]
  | _ => []

/-! ### What bounds the replies -/

/-- Users and channels have ids that `PersistenceId` can hold, and so have the next ones. -/
def IdsInRange (s : ServerState) : Prop :=
  ((∀ row ∈ s.db.users.rows, row.id < uint32Size) ∧ s.db.users.nextKey < uint32Size) ∧
    (∀ channel ∈ s.db.channels.rows, channel.id < uint32Size) ∧ s.db.channels.nextKey < uint32Size

instance (s : ServerState) : Decidable s.IdsInRange := inferInstanceAs (Decidable (_ ∧ _))

/-- The ids of the cached messages of a channel, oldest first. -/
def loggedIds (s : ServerState) (channelId : Nat) : List Nat :=
  (s.messages.messageLogs channelId).elim [] ChannelMessageLog.channelMessageIds

/-- The messages of a channel in the table. -/
def channelRows (s : ServerState) (channelId : Nat) : List ChatMessage :=
  s.db.messages.rows.filter (·.channelId = channelId)

/-- The messages of a channel that the server holds, in the table or in the cache. -/
def heldMessages (s : ServerState) (channelId : Nat) : List ChatMessage :=
  s.channelRows channelId ++ (s.loggedIds channelId).filterMap s.messages.messageCache

/-- How many messages of a channel the server holds. A message that is in the table and in the
cache counts once. -/
def heldCount (s : ServerState) (channelId : Nat) : Nat :=
  ((s.channelRows channelId).map ChatMessage.id ∪ s.loggedIds channelId).length

/-- The texts of the message, and the rows that it asks for, leave room for the rest of a reply. -/
def Fits (s : ServerState) : Message → Prop
  | .writeChat m => 83 + quotedSize m.content ≤ maxMessageBytes
  | .createUserRequest m => 94 + quotedSize m.name ≤ maxMessageBytes
  | .authenticateUserRequest m => 94 + quotedSize m.name ≤ maxMessageBytes
  | .getUserRequest m => 95 + quotedSize m.name ≤ maxMessageBytes
  | .createChannelRequest m => 97 + quotedSize m.name ≤ maxMessageBytes
  | .getUsersRequest m =>
    72 + (m.userIds.filter (· ∈ s.db.users.keys)).length
        * (26 + longest (s.db.users.rows.map UserRow.name))
      ≤ maxMessageBytes
  | .getChatsRequest m =>
    (∀ message ∈ s.heldMessages m.channelId, message.InRange) ∧
    99 + min m.limit (s.heldCount m.channelId)
        * (50 + longest ((s.heldMessages m.channelId).map ChatMessage.content))
      ≤ maxMessageBytes
  | .getChatChannelsRequest _ =>
    75 + s.db.channels.rows.length * (26 + longest (s.db.channels.rows.map ChatChannel.name))
      ≤ maxMessageBytes
  | .getChatChannelRequest m =>
    ∀ channel ∈ s.db.channels.rows, channel.id = m.channelId →
      97 + quotedSize channel.name ≤ maxMessageBytes
  | .print _ | .error _ | .errorResponse _ | .shutdown _ | .receiveChat _ | .getChatsResponse _
  | .createChannelResponse _ | .createUserResponse _ | .getUsersResponse _ | .getUserResponse _
  | .authenticateUserResponse _ | .joinChatChannelRequest _ | .joinChatChannelResponse _
  | .getChatChannelsResponse _ | .getChatChannelResponse _ | .logoutRequest _ | .logoutResponse _
  | .userLogoutEvent _ | .userLoginEvent _ | .channelLeaveEvent _ | .channelJoinEvent _
  | .channelCreateEvent _ => True

instance (s : ServerState) : DecidablePred s.Fits := fun m =>
  match m with
  | .writeChat _ | .createUserRequest _ | .authenticateUserRequest _ | .getUserRequest _
  | .createChannelRequest _ | .getUsersRequest _ | .getChatChannelsRequest _ =>
    inferInstanceAs (Decidable (_ ≤ _))
  | .getChatsRequest _ => inferInstanceAs (Decidable (_ ∧ _))
  | .getChatChannelRequest m =>
    inferInstanceAs (Decidable (∀ channel ∈ s.db.channels.rows, channel.id = m.channelId →
      97 + quotedSize channel.name ≤ maxMessageBytes))
  | .print _ | .error _ | .errorResponse _ | .shutdown _ | .receiveChat _ | .getChatsResponse _
  | .createChannelResponse _ | .createUserResponse _ | .getUsersResponse _ | .getUserResponse _
  | .authenticateUserResponse _ | .joinChatChannelRequest _ | .joinChatChannelResponse _
  | .getChatChannelsResponse _ | .getChatChannelResponse _ | .logoutRequest _ | .logoutResponse _
  | .userLogoutEvent _ | .userLoginEvent _ | .channelLeaveEvent _ | .channelJoinEvent _
  | .channelCreateEvent _ => isTrue trivial

end ServerState

/-- The step handles a message that fits, with numbers that its fields can hold. -/
def ServerRun.FitsStep (s : ServerRun) : ServerOp → Prop
  | .handle _ message => s.server.IdsInRange ∧ message.InRange ∧ s.server.Fits message
  -- The logout event has the id of a user.
  | .disconnect _ => s.server.IdsInRange
  | .connect | .persist => True

instance : DecidableRel ServerRun.FitsStep := fun s op =>
  match op with
  | .handle _ message =>
    inferInstanceAs
      (Decidable (s.server.IdsInRange ∧ message.InRange ∧ s.server.Fits message))
  | .disconnect _ => inferInstanceAs (Decidable s.server.IdsInRange)
  | .connect | .persist => isTrue trivial

end ChatCore.Server
