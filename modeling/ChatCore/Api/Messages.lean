import Mathlib.Algebra.GroupWithZero.Nat
import Mathlib.Tactic.Common

/-!
# `ChatCore.Api.Messages`: the protocol message types

The structs of `libs/chatcore-api` (`api.hpp`), field by field and in the source's order,
and the list `MessageTypes` of the types that the codec and the message handlers are
instantiated with.

The source's `PersistenceId` is `std::uint32_t`, and its `RequestId`, `ConnectionId` and
`TypeId` are `std::uint64_t`. The model has natural numbers for all of them. The bounds are
stated where a value is put into such a field: `ChatMessageStore::next_id_` wraps
explicitly, and `Message.InRange` (`ChatCore.Api.JsonApi`) says which values a C++ message
object can hold. `std::string` is `String`, that is, a valid UTF-8 string.
-/

set_option autoImplicit false

namespace ChatCore.Api

/-- The number of values of `std::uint32_t`. -/
abbrev uint32Size : Nat := 2 ^ 32

/-- `std::numeric_limits<api::PersistenceId>::max()`. -/
abbrev maxMessageId : Nat := uint32Size - 1

structure ChatMessage where
  id : Nat
  channelId : Nat
  userId : Nat
  content : String
  deriving DecidableEq, Inhabited

structure ChatChannel where
  id : Nat
  name : String
  deriving DecidableEq, Inhabited

structure User where
  id : Nat
  name : String
  deriving DecidableEq, Inhabited

structure PrintMessage where
  value : String
  deriving DecidableEq, Inhabited

structure ErrorResponseMessage where
  requestId : Nat
  value : String
  deriving DecidableEq, Inhabited

structure ErrorMessage where
  value : String
  deriving DecidableEq, Inhabited

structure ShutdownMessage where
  deriving DecidableEq, Inhabited

structure ReceiveChatMessage where
  userId : Nat
  channelId : Nat
  content : String
  deriving DecidableEq, Inhabited

structure WriteChatMessage where
  content : String
  deriving DecidableEq, Inhabited

structure GetChatsRequestMessage where
  requestId : Nat
  channelId : Nat
  limit : Nat
  deriving DecidableEq, Inhabited

structure GetChatsResponseMessage where
  requestId : Nat
  channelId : Nat
  messages : List ChatMessage
  deriving DecidableEq, Inhabited

structure CreateChannelRequestMessage where
  requestId : Nat
  name : String
  deriving DecidableEq, Inhabited

structure CreateChannelResponseMessage where
  requestId : Nat
  channel : ChatChannel
  deriving DecidableEq, Inhabited

structure CreateUserRequestMessage where
  requestId : Nat
  name : String
  password : String
  deriving DecidableEq, Inhabited

structure CreateUserResponseMessage where
  requestId : Nat
  user : User
  deriving DecidableEq, Inhabited

structure GetUsersRequestMessage where
  requestId : Nat
  userIds : List Nat
  deriving DecidableEq, Inhabited

structure GetUsersResponseMessage where
  requestId : Nat
  users : List User
  deriving DecidableEq, Inhabited

structure GetUserRequestMessage where
  requestId : Nat
  name : String
  deriving DecidableEq, Inhabited

structure GetUserResponseMessage where
  requestId : Nat
  user : User
  deriving DecidableEq, Inhabited

structure AuthenticateUserRequestMessage where
  requestId : Nat
  name : String
  password : String
  deriving DecidableEq, Inhabited

structure AuthenticateUserResponseMessage where
  requestId : Nat
  user : User
  deriving DecidableEq, Inhabited

structure JoinChatChannelRequestMessage where
  requestId : Nat
  channelId : Nat
  deriving DecidableEq, Inhabited

structure JoinChatChannelResponseMessage where
  requestId : Nat
  channelId : Nat
  deriving DecidableEq, Inhabited

structure GetChatChannelsRequestMessage where
  requestId : Nat
  deriving DecidableEq, Inhabited

structure GetChatChannelsResponseMessage where
  requestId : Nat
  channels : List ChatChannel
  deriving DecidableEq, Inhabited

structure GetChatChannelRequestMessage where
  requestId : Nat
  channelId : Nat
  deriving DecidableEq, Inhabited

structure GetChatChannelResponseMessage where
  requestId : Nat
  channel : ChatChannel
  deriving DecidableEq, Inhabited

structure LogoutRequestMessage where
  requestId : Nat
  deriving DecidableEq, Inhabited

structure LogoutResponseMessage where
  requestId : Nat
  deriving DecidableEq, Inhabited

structure UserLogoutEventMessage where
  userId : Nat
  deriving DecidableEq, Inhabited

structure UserLoginEventMessage where
  userId : Nat
  deriving DecidableEq, Inhabited

structure ChannelLeaveEventMessage where
  channelId : Nat
  userId : Nat
  deriving DecidableEq, Inhabited

structure ChannelJoinEventMessage where
  channelId : Nat
  userId : Nat
  deriving DecidableEq, Inhabited

structure ChannelCreateEventMessage where
  channel : ChatChannel
  userId : Nat
  deriving DecidableEq, Inhabited

/-- The types of the tuple `api::MessageTypes`, in its order. -/
inductive MessageType where
  | print | error | errorResponse | shutdown | receiveChat | writeChat
  | getChatsRequest | getChatsResponse
  | createChannelRequest | createChannelResponse
  | createUserRequest | createUserResponse
  | getUsersRequest | getUsersResponse
  | getUserRequest | getUserResponse
  | authenticateUserRequest | authenticateUserResponse
  | joinChatChannelRequest | joinChatChannelResponse
  | getChatChannelsRequest | getChatChannelsResponse
  | getChatChannelRequest | getChatChannelResponse
  | logoutRequest | logoutResponse
  | userLogoutEvent | userLoginEvent
  | channelLeaveEvent | channelJoinEvent | channelCreateEvent
  deriving DecidableEq

/-- `api::MessageTypes`. -/
def messageTypes : List MessageType :=
  [.print, .error, .errorResponse, .shutdown, .receiveChat, .writeChat,
    .getChatsRequest, .getChatsResponse,
    .createChannelRequest, .createChannelResponse,
    .createUserRequest, .createUserResponse,
    .getUsersRequest, .getUsersResponse,
    .getUserRequest, .getUserResponse,
    .authenticateUserRequest, .authenticateUserResponse,
    .joinChatChannelRequest, .joinChatChannelResponse,
    .getChatChannelsRequest, .getChatChannelsResponse,
    .getChatChannelRequest, .getChatChannelResponse,
    .logoutRequest, .logoutResponse,
    .userLogoutEvent, .userLoginEvent,
    .channelLeaveEvent, .channelJoinEvent, .channelCreateEvent]

/-- `T::TypeId`. -/
def MessageType.typeId : MessageType → Nat
  | .print => 99
  | .errorResponse => 100
  | .error => 101
  | .shutdown => 102
  | .receiveChat => 103
  | .writeChat => 104
  | .getChatsRequest => 105
  | .getChatsResponse => 106
  | .createChannelRequest => 107
  | .createChannelResponse => 108
  | .createUserRequest => 109
  | .createUserResponse => 110
  | .getUsersRequest => 111
  | .getUsersResponse => 112
  | .getUserRequest => 113
  | .getUserResponse => 114
  | .authenticateUserRequest => 115
  | .authenticateUserResponse => 116
  | .joinChatChannelRequest => 117
  | .joinChatChannelResponse => 118
  | .getChatChannelsRequest => 119
  | .getChatChannelsResponse => 120
  | .getChatChannelRequest => 121
  | .getChatChannelResponse => 122
  | .logoutRequest => 123
  | .logoutResponse => 124
  | .userLogoutEvent => 125
  | .userLoginEvent => 126
  | .channelLeaveEvent => 127
  | .channelJoinEvent => 128
  | .channelCreateEvent => 129

/-- A value of one of the types of `api::MessageTypes`. -/
inductive Message where
  | print (m : PrintMessage)
  | error (m : ErrorMessage)
  | errorResponse (m : ErrorResponseMessage)
  | shutdown (m : ShutdownMessage)
  | receiveChat (m : ReceiveChatMessage)
  | writeChat (m : WriteChatMessage)
  | getChatsRequest (m : GetChatsRequestMessage)
  | getChatsResponse (m : GetChatsResponseMessage)
  | createChannelRequest (m : CreateChannelRequestMessage)
  | createChannelResponse (m : CreateChannelResponseMessage)
  | createUserRequest (m : CreateUserRequestMessage)
  | createUserResponse (m : CreateUserResponseMessage)
  | getUsersRequest (m : GetUsersRequestMessage)
  | getUsersResponse (m : GetUsersResponseMessage)
  | getUserRequest (m : GetUserRequestMessage)
  | getUserResponse (m : GetUserResponseMessage)
  | authenticateUserRequest (m : AuthenticateUserRequestMessage)
  | authenticateUserResponse (m : AuthenticateUserResponseMessage)
  | joinChatChannelRequest (m : JoinChatChannelRequestMessage)
  | joinChatChannelResponse (m : JoinChatChannelResponseMessage)
  | getChatChannelsRequest (m : GetChatChannelsRequestMessage)
  | getChatChannelsResponse (m : GetChatChannelsResponseMessage)
  | getChatChannelRequest (m : GetChatChannelRequestMessage)
  | getChatChannelResponse (m : GetChatChannelResponseMessage)
  | logoutRequest (m : LogoutRequestMessage)
  | logoutResponse (m : LogoutResponseMessage)
  | userLogoutEvent (m : UserLogoutEventMessage)
  | userLoginEvent (m : UserLoginEventMessage)
  | channelLeaveEvent (m : ChannelLeaveEventMessage)
  | channelJoinEvent (m : ChannelJoinEventMessage)
  | channelCreateEvent (m : ChannelCreateEventMessage)
  deriving DecidableEq

/-- The type of a message. -/
def Message.type : Message → MessageType
  | .print _ => .print
  | .error _ => .error
  | .errorResponse _ => .errorResponse
  | .shutdown _ => .shutdown
  | .receiveChat _ => .receiveChat
  | .writeChat _ => .writeChat
  | .getChatsRequest _ => .getChatsRequest
  | .getChatsResponse _ => .getChatsResponse
  | .createChannelRequest _ => .createChannelRequest
  | .createChannelResponse _ => .createChannelResponse
  | .createUserRequest _ => .createUserRequest
  | .createUserResponse _ => .createUserResponse
  | .getUsersRequest _ => .getUsersRequest
  | .getUsersResponse _ => .getUsersResponse
  | .getUserRequest _ => .getUserRequest
  | .getUserResponse _ => .getUserResponse
  | .authenticateUserRequest _ => .authenticateUserRequest
  | .authenticateUserResponse _ => .authenticateUserResponse
  | .joinChatChannelRequest _ => .joinChatChannelRequest
  | .joinChatChannelResponse _ => .joinChatChannelResponse
  | .getChatChannelsRequest _ => .getChatChannelsRequest
  | .getChatChannelsResponse _ => .getChatChannelsResponse
  | .getChatChannelRequest _ => .getChatChannelRequest
  | .getChatChannelResponse _ => .getChatChannelResponse
  | .logoutRequest _ => .logoutRequest
  | .logoutResponse _ => .logoutResponse
  | .userLogoutEvent _ => .userLogoutEvent
  | .userLoginEvent _ => .userLoginEvent
  | .channelLeaveEvent _ => .channelLeaveEvent
  | .channelJoinEvent _ => .channelJoinEvent
  | .channelCreateEvent _ => .channelCreateEvent

end ChatCore.Api
