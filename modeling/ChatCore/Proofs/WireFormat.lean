import ChatCore.Network.JsonNetworkCodec

/-!
# `ChatCore.Proofs.WireFormat`: what a message keeps on the wire

Every field list of `json_api.hpp` names all fields of its struct, except the one of
`ChatMessage`: `channel_id` is missing. A `GetChatsResponseMessage` therefore arrives with
`channel_id` zero in each of its messages, and every other message arrives as it was sent
(`Message.received`).

Of the JSON library the proofs use that `parse` undoes `dump` on the text of the message, and
that an empty input is discarded.
-/

set_option autoImplicit false

namespace ChatCore.Api

open ChatCore.Lib
open ChatCore.Lib.Codec

/-! ### Records -/

/-- What arrives of a message in a list. -/
def ChatMessage.received (m : ChatMessage) : ChatMessage := { m with channelId := 0 }

/-- What arrives of a response. -/
def GetChatsResponseMessage.received (m : GetChatsResponseMessage) : GetChatsResponseMessage :=
  { m with messages := m.messages.map ChatMessage.received }

/-- What arrives of a message. -/
def Message.received : Message → Message
  | .getChatsResponse m => .getChatsResponse m.received
  | m => m

/-- The field list of `ChatMessage` leaves `channel_id` out. -/
theorem ChatMessage.reads {m : ChatMessage} (h : m.InRange) :
    ChatMessage.json.Reads m m.received := by
  obtain ⟨hid, -, huserId⟩ := h
  exact reads_defineType (by decide)
    ⟨reads_unsigned hid, reads_unsigned huserId, reads_string _, trivial⟩ rfl

/-- A channel whose id fits is read back. -/
theorem ChatChannel.reads {m : ChatChannel} (h : m.InRange) : ChatChannel.json.Reads m m :=
  reads_defineType (by decide) ⟨reads_unsigned h, reads_string _, trivial⟩ rfl

/-- A user whose id fits is read back. -/
theorem User.reads {m : User} (h : m.InRange) : User.json.Reads m m :=
  reads_defineType (by decide) ⟨reads_unsigned h, reads_string _, trivial⟩ rfl

/-- A list of values that arrive as they are. -/
theorem reads_list {α : Type} {c : Codec α} {values : List α} (h : ∀ a ∈ values, c.Reads a a) :
    (vector c).Reads values values := by
  have hmap := reads_vector (f := id) h
  rw [List.map_id] at hmap
  exact hmap

/-! ### Messages -/

/-- A record as a message. -/
theorem read_eq {α : Type} (c : Codec α) {a b : α} {f : α → Message} (h : c.Reads a b) :
    (c.fromJson (c.toJson a)).map f = some (f b) := by
  rw [show c.fromJson (c.toJson a) = some b from h]
  rfl

/-- The reader gets what `Message.received` says. One case for each type, with one entry for
each field of its list. -/
theorem Message.fromJson_toJson {m : Message} (h : m.InRange) :
    Message.fromJson m.type m.toJson = some m.received := by
  cases m with
  | print m =>
    exact read_eq PrintMessage.json (reads_defineType (by decide) ⟨reads_string _, trivial⟩ rfl)
  | error m =>
    exact read_eq ErrorMessage.json (reads_defineType (by decide) ⟨reads_string _, trivial⟩ rfl)
  | errorResponse m =>
    exact read_eq ErrorResponseMessage.json (reads_defineType (by decide)
      ⟨reads_unsigned h, reads_string _, trivial⟩ rfl)
  | shutdown m =>
    exact read_eq ShutdownMessage.json (a := m) (reads_defineType (by decide) trivial rfl)
  | receiveChat m =>
    obtain ⟨huserId, hchannelId⟩ := h
    exact read_eq ReceiveChatMessage.json (reads_defineType (by decide)
      ⟨reads_unsigned hchannelId, reads_unsigned huserId, reads_string _, trivial⟩ rfl)
  | writeChat m =>
    exact read_eq WriteChatMessage.json (reads_defineType (by decide) ⟨reads_string _, trivial⟩ rfl)
  | getChatsRequest m =>
    obtain ⟨hrequestId, hchannelId, hlimit⟩ := h
    exact read_eq GetChatsRequestMessage.json (reads_defineType (by decide)
      ⟨reads_unsigned hrequestId, reads_unsigned hchannelId, reads_unsigned hlimit, trivial⟩ rfl)
  | getChatsResponse m =>
    obtain ⟨hrequestId, hchannelId, hmessages⟩ := h
    exact read_eq GetChatsResponseMessage.json (@reads_defineType _ _ _ (m.received) _ (by decide)
      ⟨reads_unsigned hrequestId, reads_unsigned hchannelId,
        reads_vector fun _ hx => ChatMessage.reads (hmessages _ hx), trivial⟩ rfl)
  | createChannelRequest m =>
    exact read_eq CreateChannelRequestMessage.json (reads_defineType (by decide)
      ⟨reads_unsigned h, reads_string _, trivial⟩ rfl)
  | createChannelResponse m =>
    obtain ⟨hrequestId, hchannel⟩ := h
    exact read_eq CreateChannelResponseMessage.json (reads_defineType (by decide)
      ⟨reads_unsigned hrequestId, ChatChannel.reads hchannel, trivial⟩ rfl)
  | createUserRequest m =>
    exact read_eq CreateUserRequestMessage.json (reads_defineType (by decide)
      ⟨reads_unsigned h, reads_string _, reads_string _, trivial⟩ rfl)
  | createUserResponse m =>
    obtain ⟨hrequestId, huser⟩ := h
    exact read_eq CreateUserResponseMessage.json (reads_defineType (by decide)
      ⟨reads_unsigned hrequestId, User.reads huser, trivial⟩ rfl)
  | getUsersRequest m =>
    obtain ⟨hrequestId, huserIds⟩ := h
    exact read_eq GetUsersRequestMessage.json (reads_defineType (by decide)
      ⟨reads_unsigned hrequestId, reads_list fun _ hx => reads_unsigned (huserIds _ hx), trivial⟩
      rfl)
  | getUsersResponse m =>
    obtain ⟨hrequestId, husers⟩ := h
    exact read_eq GetUsersResponseMessage.json (reads_defineType (by decide)
      ⟨reads_unsigned hrequestId, reads_list fun _ hx => User.reads (husers _ hx), trivial⟩ rfl)
  | getUserRequest m =>
    exact read_eq GetUserRequestMessage.json (reads_defineType (by decide)
      ⟨reads_unsigned h, reads_string _, trivial⟩ rfl)
  | getUserResponse m =>
    obtain ⟨hrequestId, huser⟩ := h
    exact read_eq GetUserResponseMessage.json (reads_defineType (by decide)
      ⟨reads_unsigned hrequestId, User.reads huser, trivial⟩ rfl)
  | authenticateUserRequest m =>
    exact read_eq AuthenticateUserRequestMessage.json (reads_defineType (by decide)
      ⟨reads_unsigned h, reads_string _, reads_string _, trivial⟩ rfl)
  | authenticateUserResponse m =>
    obtain ⟨hrequestId, huser⟩ := h
    exact read_eq AuthenticateUserResponseMessage.json (reads_defineType (by decide)
      ⟨reads_unsigned hrequestId, User.reads huser, trivial⟩ rfl)
  | joinChatChannelRequest m =>
    obtain ⟨hrequestId, hchannelId⟩ := h
    exact read_eq JoinChatChannelRequestMessage.json (reads_defineType (by decide)
      ⟨reads_unsigned hrequestId, reads_unsigned hchannelId, trivial⟩ rfl)
  | joinChatChannelResponse m =>
    obtain ⟨hrequestId, hchannelId⟩ := h
    exact read_eq JoinChatChannelResponseMessage.json (reads_defineType (by decide)
      ⟨reads_unsigned hrequestId, reads_unsigned hchannelId, trivial⟩ rfl)
  | getChatChannelsRequest m =>
    exact read_eq GetChatChannelsRequestMessage.json (reads_defineType (by decide)
      ⟨reads_unsigned h, trivial⟩ rfl)
  | getChatChannelsResponse m =>
    obtain ⟨hrequestId, hchannels⟩ := h
    exact read_eq GetChatChannelsResponseMessage.json (reads_defineType (by decide)
      ⟨reads_unsigned hrequestId, reads_list fun _ hx => ChatChannel.reads (hchannels _ hx),
        trivial⟩ rfl)
  | getChatChannelRequest m =>
    obtain ⟨hrequestId, hchannelId⟩ := h
    exact read_eq GetChatChannelRequestMessage.json (reads_defineType (by decide)
      ⟨reads_unsigned hrequestId, reads_unsigned hchannelId, trivial⟩ rfl)
  | getChatChannelResponse m =>
    obtain ⟨hrequestId, hchannel⟩ := h
    exact read_eq GetChatChannelResponseMessage.json (reads_defineType (by decide)
      ⟨reads_unsigned hrequestId, ChatChannel.reads hchannel, trivial⟩ rfl)
  | logoutRequest m =>
    exact read_eq LogoutRequestMessage.json (reads_defineType (by decide)
      ⟨reads_unsigned h, trivial⟩ rfl)
  | logoutResponse m =>
    exact read_eq LogoutResponseMessage.json (reads_defineType (by decide)
      ⟨reads_unsigned h, trivial⟩ rfl)
  | userLogoutEvent m =>
    exact read_eq UserLogoutEventMessage.json (reads_defineType (by decide)
      ⟨reads_unsigned h, trivial⟩ rfl)
  | userLoginEvent m =>
    exact read_eq UserLoginEventMessage.json (reads_defineType (by decide)
      ⟨reads_unsigned h, trivial⟩ rfl)
  | channelLeaveEvent m =>
    obtain ⟨hchannelId, huserId⟩ := h
    exact read_eq ChannelLeaveEventMessage.json (reads_defineType (by decide)
      ⟨reads_unsigned hchannelId, reads_unsigned huserId, trivial⟩ rfl)
  | channelJoinEvent m =>
    obtain ⟨hchannelId, huserId⟩ := h
    exact read_eq ChannelJoinEventMessage.json (reads_defineType (by decide)
      ⟨reads_unsigned hchannelId, reads_unsigned huserId, trivial⟩ rfl)
  | channelCreateEvent m =>
    obtain ⟨hchannel, huserId⟩ := h
    exact read_eq ChannelCreateEventMessage.json (reads_defineType (by decide)
      ⟨ChatChannel.reads hchannel, reads_unsigned huserId, trivial⟩ rfl)

/-- A message arrives as it was sent if and only if its chat messages have no channel id. -/
def Message.ChannelIdsZero : Message → Prop
  | .getChatsResponse m => ∀ message ∈ m.messages, message.channelId = 0
  | _ => True

/-- A message arrives unchanged exactly when its nested channel ids are zero. -/
theorem Message.received_eq_iff (m : Message) : m.received = m ↔ m.ChannelIdsZero := by
  cases m with
  | getChatsResponse m =>
    obtain ⟨requestId, channelId, messages⟩ := m
    show Message.getChatsResponse ⟨requestId, channelId, messages.map ChatMessage.received⟩
        = .getChatsResponse ⟨requestId, channelId, messages⟩
      ↔ ∀ message ∈ messages, message.channelId = 0
    have hreceived : ∀ message : ChatMessage,
        message.received = message ↔ message.channelId = 0 := by
      rintro ⟨id, channelId, userId, content⟩
      simp [ChatMessage.received, eq_comm]
    simp only [Message.getChatsResponse.injEq, GetChatsResponseMessage.mk.injEq, true_and]
    calc messages.map ChatMessage.received = messages
        ↔ messages.map ChatMessage.received = messages.map id := by rw [List.map_id]
      _ ↔ ∀ message ∈ messages, message.received = message := List.map_inj_left
      _ ↔ ∀ message ∈ messages, message.channelId = 0 :=
        forall₂_congr fun message _ => hreceived message
  | _ => exact ⟨fun _ => trivial, fun _ => rfl⟩

end ChatCore.Api

namespace ChatCore.Network.JsonNetworkCodec

open ChatCore.Api
open ChatCore.Lib

/-- Every type id fits into the discriminator. -/
theorem typeId_lt (type : MessageType) : type.typeId < 2 ^ 64 := by
  cases type <;> decide

/-- `DecodeEnvelope` undoes the envelope of `Encode`. -/
theorem decodeEnvelope_encode {json : JsonLibrary} {m : Message} (hempty : json.parse [] = none)
    (hparse : json.parse (json.dump (envelope m)) = some (envelope m)) :
    decodeEnvelope json (encode json m) = some (m.type.typeId, m.toJson) := by
  have htype : (envelope m).atKey typeIdKey = some (.numberUnsigned m.type.typeId) := by
    show List.lookup _ _ = _
    rw [Json.lookup_insertField, if_neg (by decide), Json.lookup_insertField, if_pos rfl]
  have hpayload : (envelope m).atKey payloadKey = some m.toJson := by
    show List.lookup _ _ = _
    rw [Json.lookup_insertField, if_pos rfl]
  have hbytes : (json.dump (envelope m)).isEmpty = false := by
    rw [List.isEmpty_eq_false_iff]
    intro hnil
    rw [hnil, hempty] at hparse
    cases hparse
  have hid : (Json.numberUnsigned m.type.typeId).getUnsigned 64 = some m.type.typeId := by
    show some (m.type.typeId % 2 ^ 64) = _
    rw [Nat.mod_eq_of_lt (typeId_lt _)]
  simp [decodeEnvelope, encode, hbytes, hparse, htype, hpayload, hid]

/-- A message of any type arrives with its type id and all of its fields if and only if each
nested `ChatMessage` has the channel id zero. -/
theorem decode_encode_iff {json : JsonLibrary} {m : Message} (hrange : m.InRange)
    (hempty : json.parse [] = none)
    (hparse : json.parse (json.dump (envelope m)) = some (envelope m)) :
    (∃ payload, decodeEnvelope json (encode json m) = some (m.type.typeId, payload) ∧
      decode m.type payload = some m) ↔ m.ChannelIdsZero := by
  rw [decodeEnvelope_encode hempty hparse, ← Message.received_eq_iff]
  have hread := Message.fromJson_toJson hrange
  constructor
  · rintro ⟨payload, henvelope, hdecode⟩
    cases henvelope
    exact Option.some.inj (hread.symm.trans hdecode)
  · intro hsame
    exact ⟨m.toJson, rfl, hread.trans (congrArg some hsame)⟩

/-- The library on one message: `text` is what it dumps for the envelope. -/
def libraryFor (m : Message) (text : List UInt8) : JsonLibrary where
  dump _ := text
  parse bytes := if bytes = text then some (envelope m) else none

/-- The bytes of the envelope of a `WriteChatMessage` with the content `hi`. -/
def writeChatText : List UInt8 :=
  [123, 34, 112, 97, 121, 108, 111, 97, 100, 34, 58, 123, 34, 99, 111, 110, 116, 101, 110, 116,
    34, 58, 34, 104, 105, 34, 125, 44, 34, 116, 121, 112, 101, 95, 105, 100, 34, 58, 49, 48, 52,
    125]

/-- The text of a message decodes to the message. -/
theorem decode_encode_iff_write :
    ∃ payload, decodeEnvelope (libraryFor (.writeChat ⟨"hi"⟩) writeChatText) writeChatText
      = some (104, payload) ∧ decode .writeChat payload = some (.writeChat ⟨"hi"⟩) :=
  (@decode_encode_iff (libraryFor (.writeChat ⟨"hi"⟩) writeChatText) (.writeChat ⟨"hi"⟩) trivial
    rfl rfl).mpr trivial

/-- The bytes of the envelope of a response with the message `hi` of channel 1. -/
def chatsResponseText : List UInt8 :=
  [123, 34, 112, 97, 121, 108, 111, 97, 100, 34, 58, 123, 34, 99, 104, 97, 110, 110, 101, 108,
    95, 105, 100, 34, 58, 49, 44, 34, 109, 101, 115, 115, 97, 103, 101, 115, 34, 58, 91, 123,
    34, 99, 111, 110, 116, 101, 110, 116, 34, 58, 34, 104, 105, 34, 44, 34, 105, 100, 34, 58,
    48, 44, 34, 117, 115, 101, 114, 95, 105, 100, 34, 58, 49, 125, 93, 44, 34, 114, 101, 113,
    117, 101, 115, 116, 95, 105, 100, 34, 58, 49, 125, 44, 34, 116, 121, 112, 101, 95, 105, 100,
    34, 58, 49, 48, 54, 125]

/-- A response with a message of channel 1. -/
def chatsResponse : Message := .getChatsResponse ⟨1, 1, [⟨0, 1, 1, "hi"⟩]⟩

/-- The response arrives with channel 0 in its message, and not as it was sent. -/
theorem decode_drops_channel_id :
    let json := libraryFor chatsResponse chatsResponseText
    chatsResponse.InRange ∧ json.parse [] = none ∧
      json.parse (json.dump (envelope chatsResponse)) = some (envelope chatsResponse) ∧
      (∃ payload, decodeEnvelope json (encode json chatsResponse) = some (106, payload) ∧
        decode .getChatsResponse payload
          = some (.getChatsResponse ⟨1, 1, [⟨0, 0, 1, "hi"⟩]⟩)) ∧
      ¬ ∃ payload, decodeEnvelope json (encode json chatsResponse) = some (106, payload) ∧
        decode .getChatsResponse payload = some chatsResponse := by
  have henvelope : decodeEnvelope (libraryFor chatsResponse chatsResponseText)
      (encode (libraryFor chatsResponse chatsResponseText) chatsResponse)
      = some (106, chatsResponse.toJson) := decodeEnvelope_encode rfl rfl
  have hread : decode .getChatsResponse chatsResponse.toJson
      = some (.getChatsResponse ⟨1, 1, [⟨0, 0, 1, "hi"⟩]⟩) := rfl
  refine ⟨?_, rfl, rfl, ⟨_, henvelope, hread⟩, ?_⟩
  · simp [chatsResponse, Message.InRange, ChatMessage.InRange]
  · rintro ⟨payload, henvelope', hread'⟩
    cases henvelope.symm.trans henvelope'
    have hsame := hread.symm.trans hread'
    simp [chatsResponse] at hsame

end ChatCore.Network.JsonNetworkCodec
