import ChatCore.Api.Messages
import ChatCore.Lib.Json

/-!
# `ChatCore.Api.JsonApi`: the JSON form of the messages

The field lists of `json_api.hpp`, one codec for each `NLOHMANN_DEFINE_TYPE_NON_INTRUSIVE`, in
the order of the source and with the keys of the source. The macro writes the listed fields and
reads them into a value-initialized object, so a field that is not listed keeps its default
value. `NLOHMANN_DEFINE_EMPTY_TYPE_NON_INTRUSIVE` is the list without fields.

`Message.InRange` says which values a C++ object can hold.
-/

set_option autoImplicit false

namespace ChatCore.Api

open ChatCore.Lib

/-- `std::uint32_t`, which is also `PersistenceId`. -/
def uint32 : Codec Nat := .unsigned 32

/-- `std::uint64_t`, which is also `RequestId`. -/
def uint64 : Codec Nat := .unsigned 64

def PrintMessage.json : Codec PrintMessage :=
  .defineType default
    [⟨"value", .string, (·.value), fun m v => { m with value := v }⟩]

def ErrorResponseMessage.json : Codec ErrorResponseMessage :=
  .defineType default
    [⟨"request_id", uint64, (·.requestId), fun m v => { m with requestId := v }⟩,
      ⟨"value", .string, (·.value), fun m v => { m with value := v }⟩]

def ErrorMessage.json : Codec ErrorMessage :=
  .defineType default
    [⟨"value", .string, (·.value), fun m v => { m with value := v }⟩]

def ShutdownMessage.json : Codec ShutdownMessage :=
  .defineType default []

def ChatMessage.json : Codec ChatMessage :=
  .defineType default
    [⟨"id", uint32, (·.id), fun m v => { m with id := v }⟩,
      ⟨"user_id", uint32, (·.userId), fun m v => { m with userId := v }⟩,
      ⟨"content", .string, (·.content), fun m v => { m with content := v }⟩]

def ChatChannel.json : Codec ChatChannel :=
  .defineType default
    [⟨"id", uint32, (·.id), fun m v => { m with id := v }⟩,
      ⟨"name", .string, (·.name), fun m v => { m with name := v }⟩]

def User.json : Codec User :=
  .defineType default
    [⟨"id", uint32, (·.id), fun m v => { m with id := v }⟩,
      ⟨"name", .string, (·.name), fun m v => { m with name := v }⟩]

def ReceiveChatMessage.json : Codec ReceiveChatMessage :=
  .defineType default
    [⟨"channel_id", uint32, (·.channelId), fun m v => { m with channelId := v }⟩,
      ⟨"user_id", uint32, (·.userId), fun m v => { m with userId := v }⟩,
      ⟨"content", .string, (·.content), fun m v => { m with content := v }⟩]

def WriteChatMessage.json : Codec WriteChatMessage :=
  .defineType default
    [⟨"content", .string, (·.content), fun m v => { m with content := v }⟩]

def GetChatsRequestMessage.json : Codec GetChatsRequestMessage :=
  .defineType default
    [⟨"request_id", uint64, (·.requestId), fun m v => { m with requestId := v }⟩,
      ⟨"channel_id", uint32, (·.channelId), fun m v => { m with channelId := v }⟩,
      ⟨"limit", uint32, (·.limit), fun m v => { m with limit := v }⟩]

def GetChatsResponseMessage.json : Codec GetChatsResponseMessage :=
  .defineType default
    [⟨"request_id", uint64, (·.requestId), fun m v => { m with requestId := v }⟩,
      ⟨"channel_id", uint32, (·.channelId), fun m v => { m with channelId := v }⟩,
      ⟨"messages", (.vector ChatMessage.json), (·.messages), fun m v => { m with messages := v }⟩]

def CreateChannelRequestMessage.json : Codec CreateChannelRequestMessage :=
  .defineType default
    [⟨"request_id", uint64, (·.requestId), fun m v => { m with requestId := v }⟩,
      ⟨"name", .string, (·.name), fun m v => { m with name := v }⟩]

def CreateChannelResponseMessage.json : Codec CreateChannelResponseMessage :=
  .defineType default
    [⟨"request_id", uint64, (·.requestId), fun m v => { m with requestId := v }⟩,
      ⟨"channel", ChatChannel.json, (·.channel), fun m v => { m with channel := v }⟩]

def CreateUserRequestMessage.json : Codec CreateUserRequestMessage :=
  .defineType default
    [⟨"request_id", uint64, (·.requestId), fun m v => { m with requestId := v }⟩,
      ⟨"name", .string, (·.name), fun m v => { m with name := v }⟩,
      ⟨"password", .string, (·.password), fun m v => { m with password := v }⟩]

def CreateUserResponseMessage.json : Codec CreateUserResponseMessage :=
  .defineType default
    [⟨"request_id", uint64, (·.requestId), fun m v => { m with requestId := v }⟩,
      ⟨"user", User.json, (·.user), fun m v => { m with user := v }⟩]

def GetUsersRequestMessage.json : Codec GetUsersRequestMessage :=
  .defineType default
    [⟨"request_id", uint64, (·.requestId), fun m v => { m with requestId := v }⟩,
      ⟨"user_ids", (.vector uint32), (·.userIds), fun m v => { m with userIds := v }⟩]

def GetUsersResponseMessage.json : Codec GetUsersResponseMessage :=
  .defineType default
    [⟨"request_id", uint64, (·.requestId), fun m v => { m with requestId := v }⟩,
      ⟨"users", (.vector User.json), (·.users), fun m v => { m with users := v }⟩]

def GetUserRequestMessage.json : Codec GetUserRequestMessage :=
  .defineType default
    [⟨"request_id", uint64, (·.requestId), fun m v => { m with requestId := v }⟩,
      ⟨"name", .string, (·.name), fun m v => { m with name := v }⟩]

def GetUserResponseMessage.json : Codec GetUserResponseMessage :=
  .defineType default
    [⟨"request_id", uint64, (·.requestId), fun m v => { m with requestId := v }⟩,
      ⟨"user", User.json, (·.user), fun m v => { m with user := v }⟩]

def AuthenticateUserRequestMessage.json : Codec AuthenticateUserRequestMessage :=
  .defineType default
    [⟨"request_id", uint64, (·.requestId), fun m v => { m with requestId := v }⟩,
      ⟨"name", .string, (·.name), fun m v => { m with name := v }⟩,
      ⟨"password", .string, (·.password), fun m v => { m with password := v }⟩]

def AuthenticateUserResponseMessage.json : Codec AuthenticateUserResponseMessage :=
  .defineType default
    [⟨"request_id", uint64, (·.requestId), fun m v => { m with requestId := v }⟩,
      ⟨"user", User.json, (·.user), fun m v => { m with user := v }⟩]

def JoinChatChannelRequestMessage.json : Codec JoinChatChannelRequestMessage :=
  .defineType default
    [⟨"request_id", uint64, (·.requestId), fun m v => { m with requestId := v }⟩,
      ⟨"channel_id", uint32, (·.channelId), fun m v => { m with channelId := v }⟩]

def JoinChatChannelResponseMessage.json : Codec JoinChatChannelResponseMessage :=
  .defineType default
    [⟨"request_id", uint64, (·.requestId), fun m v => { m with requestId := v }⟩,
      ⟨"channel_id", uint32, (·.channelId), fun m v => { m with channelId := v }⟩]

def GetChatChannelsRequestMessage.json : Codec GetChatChannelsRequestMessage :=
  .defineType default
    [⟨"request_id", uint64, (·.requestId), fun m v => { m with requestId := v }⟩]

def GetChatChannelsResponseMessage.json : Codec GetChatChannelsResponseMessage :=
  .defineType default
    [⟨"request_id", uint64, (·.requestId), fun m v => { m with requestId := v }⟩,
      ⟨"channels", (.vector ChatChannel.json), (·.channels), fun m v => { m with channels := v }⟩]

def GetChatChannelRequestMessage.json : Codec GetChatChannelRequestMessage :=
  .defineType default
    [⟨"request_id", uint64, (·.requestId), fun m v => { m with requestId := v }⟩,
      ⟨"channel_id", uint32, (·.channelId), fun m v => { m with channelId := v }⟩]

def GetChatChannelResponseMessage.json : Codec GetChatChannelResponseMessage :=
  .defineType default
    [⟨"request_id", uint64, (·.requestId), fun m v => { m with requestId := v }⟩,
      ⟨"channel", ChatChannel.json, (·.channel), fun m v => { m with channel := v }⟩]

def LogoutRequestMessage.json : Codec LogoutRequestMessage :=
  .defineType default
    [⟨"request_id", uint64, (·.requestId), fun m v => { m with requestId := v }⟩]

def LogoutResponseMessage.json : Codec LogoutResponseMessage :=
  .defineType default
    [⟨"request_id", uint64, (·.requestId), fun m v => { m with requestId := v }⟩]

def UserLogoutEventMessage.json : Codec UserLogoutEventMessage :=
  .defineType default
    [⟨"user_id", uint32, (·.userId), fun m v => { m with userId := v }⟩]

def UserLoginEventMessage.json : Codec UserLoginEventMessage :=
  .defineType default
    [⟨"user_id", uint32, (·.userId), fun m v => { m with userId := v }⟩]

def ChannelLeaveEventMessage.json : Codec ChannelLeaveEventMessage :=
  .defineType default
    [⟨"channel_id", uint32, (·.channelId), fun m v => { m with channelId := v }⟩,
      ⟨"user_id", uint32, (·.userId), fun m v => { m with userId := v }⟩]

def ChannelJoinEventMessage.json : Codec ChannelJoinEventMessage :=
  .defineType default
    [⟨"channel_id", uint32, (·.channelId), fun m v => { m with channelId := v }⟩,
      ⟨"user_id", uint32, (·.userId), fun m v => { m with userId := v }⟩]

def ChannelCreateEventMessage.json : Codec ChannelCreateEventMessage :=
  .defineType default
    [⟨"channel", ChatChannel.json, (·.channel), fun m v => { m with channel := v }⟩,
      ⟨"user_id", uint32, (·.userId), fun m v => { m with userId := v }⟩]

/-- `to_json` of the type of the message. -/
def Message.toJson : Message → Json
  | .print m => PrintMessage.json.toJson m
  | .error m => ErrorMessage.json.toJson m
  | .errorResponse m => ErrorResponseMessage.json.toJson m
  | .shutdown m => ShutdownMessage.json.toJson m
  | .receiveChat m => ReceiveChatMessage.json.toJson m
  | .writeChat m => WriteChatMessage.json.toJson m
  | .getChatsRequest m => GetChatsRequestMessage.json.toJson m
  | .getChatsResponse m => GetChatsResponseMessage.json.toJson m
  | .createChannelRequest m => CreateChannelRequestMessage.json.toJson m
  | .createChannelResponse m => CreateChannelResponseMessage.json.toJson m
  | .createUserRequest m => CreateUserRequestMessage.json.toJson m
  | .createUserResponse m => CreateUserResponseMessage.json.toJson m
  | .getUsersRequest m => GetUsersRequestMessage.json.toJson m
  | .getUsersResponse m => GetUsersResponseMessage.json.toJson m
  | .getUserRequest m => GetUserRequestMessage.json.toJson m
  | .getUserResponse m => GetUserResponseMessage.json.toJson m
  | .authenticateUserRequest m => AuthenticateUserRequestMessage.json.toJson m
  | .authenticateUserResponse m => AuthenticateUserResponseMessage.json.toJson m
  | .joinChatChannelRequest m => JoinChatChannelRequestMessage.json.toJson m
  | .joinChatChannelResponse m => JoinChatChannelResponseMessage.json.toJson m
  | .getChatChannelsRequest m => GetChatChannelsRequestMessage.json.toJson m
  | .getChatChannelsResponse m => GetChatChannelsResponseMessage.json.toJson m
  | .getChatChannelRequest m => GetChatChannelRequestMessage.json.toJson m
  | .getChatChannelResponse m => GetChatChannelResponseMessage.json.toJson m
  | .logoutRequest m => LogoutRequestMessage.json.toJson m
  | .logoutResponse m => LogoutResponseMessage.json.toJson m
  | .userLogoutEvent m => UserLogoutEventMessage.json.toJson m
  | .userLoginEvent m => UserLoginEventMessage.json.toJson m
  | .channelLeaveEvent m => ChannelLeaveEventMessage.json.toJson m
  | .channelJoinEvent m => ChannelJoinEventMessage.json.toJson m
  | .channelCreateEvent m => ChannelCreateEventMessage.json.toJson m

/-- `get<T>` for the type `T`. -/
def Message.fromJson : MessageType → Json → Option Message
  | .print, json => (PrintMessage.json.fromJson json).map .print
  | .error, json => (ErrorMessage.json.fromJson json).map .error
  | .errorResponse, json => (ErrorResponseMessage.json.fromJson json).map .errorResponse
  | .shutdown, json => (ShutdownMessage.json.fromJson json).map .shutdown
  | .receiveChat, json => (ReceiveChatMessage.json.fromJson json).map .receiveChat
  | .writeChat, json => (WriteChatMessage.json.fromJson json).map .writeChat
  | .getChatsRequest, json => (GetChatsRequestMessage.json.fromJson json).map .getChatsRequest
  | .getChatsResponse, json => (GetChatsResponseMessage.json.fromJson json).map .getChatsResponse
  | .createChannelRequest, json =>
    (CreateChannelRequestMessage.json.fromJson json).map .createChannelRequest
  | .createChannelResponse, json =>
    (CreateChannelResponseMessage.json.fromJson json).map .createChannelResponse
  | .createUserRequest, json => (CreateUserRequestMessage.json.fromJson json).map .createUserRequest
  | .createUserResponse, json =>
    (CreateUserResponseMessage.json.fromJson json).map .createUserResponse
  | .getUsersRequest, json => (GetUsersRequestMessage.json.fromJson json).map .getUsersRequest
  | .getUsersResponse, json => (GetUsersResponseMessage.json.fromJson json).map .getUsersResponse
  | .getUserRequest, json => (GetUserRequestMessage.json.fromJson json).map .getUserRequest
  | .getUserResponse, json => (GetUserResponseMessage.json.fromJson json).map .getUserResponse
  | .authenticateUserRequest, json =>
    (AuthenticateUserRequestMessage.json.fromJson json).map .authenticateUserRequest
  | .authenticateUserResponse, json =>
    (AuthenticateUserResponseMessage.json.fromJson json).map .authenticateUserResponse
  | .joinChatChannelRequest, json =>
    (JoinChatChannelRequestMessage.json.fromJson json).map .joinChatChannelRequest
  | .joinChatChannelResponse, json =>
    (JoinChatChannelResponseMessage.json.fromJson json).map .joinChatChannelResponse
  | .getChatChannelsRequest, json =>
    (GetChatChannelsRequestMessage.json.fromJson json).map .getChatChannelsRequest
  | .getChatChannelsResponse, json =>
    (GetChatChannelsResponseMessage.json.fromJson json).map .getChatChannelsResponse
  | .getChatChannelRequest, json =>
    (GetChatChannelRequestMessage.json.fromJson json).map .getChatChannelRequest
  | .getChatChannelResponse, json =>
    (GetChatChannelResponseMessage.json.fromJson json).map .getChatChannelResponse
  | .logoutRequest, json => (LogoutRequestMessage.json.fromJson json).map .logoutRequest
  | .logoutResponse, json => (LogoutResponseMessage.json.fromJson json).map .logoutResponse
  | .userLogoutEvent, json => (UserLogoutEventMessage.json.fromJson json).map .userLogoutEvent
  | .userLoginEvent, json => (UserLoginEventMessage.json.fromJson json).map .userLoginEvent
  | .channelLeaveEvent, json => (ChannelLeaveEventMessage.json.fromJson json).map .channelLeaveEvent
  | .channelJoinEvent, json => (ChannelJoinEventMessage.json.fromJson json).map .channelJoinEvent
  | .channelCreateEvent, json =>
    (ChannelCreateEventMessage.json.fromJson json).map .channelCreateEvent

/-! ### The values of the C++ types -/

def ChatMessage.InRange (m : ChatMessage) : Prop :=
  m.id < 2 ^ 32 ∧ m.channelId < 2 ^ 32 ∧ m.userId < 2 ^ 32

def ChatChannel.InRange (m : ChatChannel) : Prop := m.id < 2 ^ 32

def User.InRange (m : User) : Prop := m.id < 2 ^ 32

/-- Every number of the message fits into its field. -/
def Message.InRange : Message → Prop
  | .print _ => True
  | .error _ => True
  | .errorResponse m => m.requestId < 2 ^ 64
  | .shutdown _ => True
  | .receiveChat m => m.userId < 2 ^ 32 ∧ m.channelId < 2 ^ 32
  | .writeChat _ => True
  | .getChatsRequest m => m.requestId < 2 ^ 64 ∧ m.channelId < 2 ^ 32 ∧ m.limit < 2 ^ 32
  | .getChatsResponse m => m.requestId < 2 ^ 64 ∧ m.channelId < 2 ^ 32 ∧ ∀ x ∈ m.messages, x.InRange
  | .createChannelRequest m => m.requestId < 2 ^ 64
  | .createChannelResponse m => m.requestId < 2 ^ 64 ∧ m.channel.InRange
  | .createUserRequest m => m.requestId < 2 ^ 64
  | .createUserResponse m => m.requestId < 2 ^ 64 ∧ m.user.InRange
  | .getUsersRequest m => m.requestId < 2 ^ 64 ∧ ∀ id ∈ m.userIds, id < 2 ^ 32
  | .getUsersResponse m => m.requestId < 2 ^ 64 ∧ ∀ x ∈ m.users, x.InRange
  | .getUserRequest m => m.requestId < 2 ^ 64
  | .getUserResponse m => m.requestId < 2 ^ 64 ∧ m.user.InRange
  | .authenticateUserRequest m => m.requestId < 2 ^ 64
  | .authenticateUserResponse m => m.requestId < 2 ^ 64 ∧ m.user.InRange
  | .joinChatChannelRequest m => m.requestId < 2 ^ 64 ∧ m.channelId < 2 ^ 32
  | .joinChatChannelResponse m => m.requestId < 2 ^ 64 ∧ m.channelId < 2 ^ 32
  | .getChatChannelsRequest m => m.requestId < 2 ^ 64
  | .getChatChannelsResponse m => m.requestId < 2 ^ 64 ∧ ∀ x ∈ m.channels, x.InRange
  | .getChatChannelRequest m => m.requestId < 2 ^ 64 ∧ m.channelId < 2 ^ 32
  | .getChatChannelResponse m => m.requestId < 2 ^ 64 ∧ m.channel.InRange
  | .logoutRequest m => m.requestId < 2 ^ 64
  | .logoutResponse m => m.requestId < 2 ^ 64
  | .userLogoutEvent m => m.userId < 2 ^ 32
  | .userLoginEvent m => m.userId < 2 ^ 32
  | .channelLeaveEvent m => m.channelId < 2 ^ 32 ∧ m.userId < 2 ^ 32
  | .channelJoinEvent m => m.channelId < 2 ^ 32 ∧ m.userId < 2 ^ 32
  | .channelCreateEvent m => m.channel.InRange ∧ m.userId < 2 ^ 32

instance (m : ChatMessage) : Decidable m.InRange := inferInstanceAs (Decidable (_ ∧ _))

instance (m : ChatChannel) : Decidable m.InRange := inferInstanceAs (Decidable (_ < _))

instance (m : User) : Decidable m.InRange := inferInstanceAs (Decidable (_ < _))

instance : DecidablePred Message.InRange := fun m =>
  match m with
  | .print _ | .error _ | .shutdown _ | .writeChat _ => isTrue trivial
  | .errorResponse _ | .createChannelRequest _ | .createUserRequest _ | .getUserRequest _
  | .authenticateUserRequest _ | .getChatChannelsRequest _ | .logoutRequest _ | .logoutResponse _
  | .userLogoutEvent _ | .userLoginEvent _ => inferInstanceAs (Decidable (_ < _))
  | .receiveChat _ | .getChatsRequest _ | .getChatsResponse _ | .createChannelResponse _
  | .createUserResponse _ | .getUsersRequest _ | .getUsersResponse _ | .getUserResponse _
  | .authenticateUserResponse _ | .joinChatChannelRequest _ | .joinChatChannelResponse _
  | .getChatChannelsResponse _ | .getChatChannelRequest _ | .getChatChannelResponse _
  | .channelLeaveEvent _ | .channelJoinEvent _ | .channelCreateEvent _ =>
    inferInstanceAs (Decidable (_ ∧ _))

end ChatCore.Api
