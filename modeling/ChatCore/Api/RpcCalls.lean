import ChatCore.Api.Messages

/-!
# `ChatCore.Api.RpcCalls`: which message answers which request

The specialisations of `RpcCall` in `api.hpp`. A type without a specialisation is not a
request. The error type is `ErrorResponseMessage` for every request.
-/

set_option autoImplicit false

namespace ChatCore.Api

/-- `RpcCall<R>::Response`. -/
def MessageType.rpcResponse : MessageType → Option MessageType
  | .authenticateUserRequest => some .authenticateUserResponse
  | .joinChatChannelRequest => some .joinChatChannelResponse
  | .getChatsRequest => some .getChatsResponse
  | .getChatChannelsRequest => some .getChatChannelsResponse
  | .getChatChannelRequest => some .getChatChannelResponse
  | .createUserRequest => some .createUserResponse
  | .createChannelRequest => some .createChannelResponse
  | .getUsersRequest => some .getUsersResponse
  | .getUserRequest => some .getUserResponse
  | .logoutRequest => some .logoutResponse
  | _ => none

/-- `RpcCall<R>::Error`. -/
def MessageType.rpcError (type : MessageType) : Option MessageType :=
  type.rpcResponse.map fun _ => .errorResponse

/-- The types that answer a request. -/
def MessageType.isRpcAnswer : MessageType → Bool
  | .errorResponse
  | .authenticateUserResponse | .joinChatChannelResponse | .getChatsResponse
  | .getChatChannelsResponse | .getChatChannelResponse | .createUserResponse
  | .createChannelResponse | .getUsersResponse | .getUserResponse | .logoutResponse => true
  | _ => false

/-- The field `request_id` of a message, where its type has one. -/
def Message.requestId : Message → Option Nat
  | .errorResponse m => some m.requestId
  | .getChatsRequest m => some m.requestId
  | .getChatsResponse m => some m.requestId
  | .createChannelRequest m => some m.requestId
  | .createChannelResponse m => some m.requestId
  | .createUserRequest m => some m.requestId
  | .createUserResponse m => some m.requestId
  | .getUsersRequest m => some m.requestId
  | .getUsersResponse m => some m.requestId
  | .getUserRequest m => some m.requestId
  | .getUserResponse m => some m.requestId
  | .authenticateUserRequest m => some m.requestId
  | .authenticateUserResponse m => some m.requestId
  | .joinChatChannelRequest m => some m.requestId
  | .joinChatChannelResponse m => some m.requestId
  | .getChatChannelsRequest m => some m.requestId
  | .getChatChannelsResponse m => some m.requestId
  | .getChatChannelRequest m => some m.requestId
  | .getChatChannelResponse m => some m.requestId
  | .logoutRequest m => some m.requestId
  | .logoutResponse m => some m.requestId
  | _ => none

/-- The answers are the response and error types of the requests. -/
theorem MessageType.isRpcAnswer_iff {type : MessageType} :
    type.isRpcAnswer = true ↔
      ∃ request : MessageType, request.rpcResponse = some type ∨ request.rpcError = some type := by
  constructor
  · intro h
    cases type with
    | errorResponse => exact ⟨.logoutRequest, .inr rfl⟩
    | authenticateUserResponse => exact ⟨.authenticateUserRequest, .inl rfl⟩
    | joinChatChannelResponse => exact ⟨.joinChatChannelRequest, .inl rfl⟩
    | getChatsResponse => exact ⟨.getChatsRequest, .inl rfl⟩
    | getChatChannelsResponse => exact ⟨.getChatChannelsRequest, .inl rfl⟩
    | getChatChannelResponse => exact ⟨.getChatChannelRequest, .inl rfl⟩
    | createUserResponse => exact ⟨.createUserRequest, .inl rfl⟩
    | createChannelResponse => exact ⟨.createChannelRequest, .inl rfl⟩
    | getUsersResponse => exact ⟨.getUsersRequest, .inl rfl⟩
    | getUserResponse => exact ⟨.getUserRequest, .inl rfl⟩
    | logoutResponse => exact ⟨.logoutRequest, .inl rfl⟩
    | _ => cases h
  · rintro ⟨request, h⟩
    cases request <;> cases h <;> rename_i h <;> cases h <;> rfl

end ChatCore.Api
