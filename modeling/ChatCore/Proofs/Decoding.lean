import ChatCore.Lib.JsonExact
import ChatCore.Network.JsonNetworkCodec

/-!
# `ChatCore.Proofs.Decoding`: when decoding changes no value

`Decode<T>` reads every listed field of `T` from the payload. The numbers go through an
unchecked cast, so a number that the type cannot hold is accepted as another one. `NumbersFit`
lists, for each type of message, the fields that are numbers, with the sizes of their types.
It asks that the payload holds integers within these ranges there. `decode_exact_iff` says that
the message that is decoded has the values of the payload exactly in this case, and that the
same holds for the discriminator of an envelope.
-/

set_option autoImplicit false

namespace ChatCore.Api

open ChatCore.Lib
open ChatCore.Lib.Json
open ChatCore.Lib.Codec

/-- The numbers of a `ChatMessage`. -/
def ChatMessage.NumbersFit : Json → Prop :=
  Fields [("id", IsUnsigned 32), ("user_id", IsUnsigned 32)]

/-- The numbers of a `ChatChannel` or of a `User`. -/
def idFits : Json → Prop := Fields [("id", IsUnsigned 32)]

/-- The numbers of the payload are integers that fit into the fields of the type. -/
def Message.NumbersFit : MessageType → Json → Prop
  | .print => Fields []
  | .error => Fields []
  | .errorResponse => Fields [("request_id", IsUnsigned 64)]
  | .shutdown => Fields []
  | .receiveChat => Fields [("channel_id", IsUnsigned 32), ("user_id", IsUnsigned 32)]
  | .writeChat => Fields []
  | .getChatsRequest =>
    Fields [("request_id", IsUnsigned 64), ("channel_id", IsUnsigned 32), ("limit", IsUnsigned 32)]
  | .getChatsResponse =>
    Fields [("request_id", IsUnsigned 64), ("channel_id", IsUnsigned 32),
      ("messages", Each ChatMessage.NumbersFit)]
  | .createChannelRequest => Fields [("request_id", IsUnsigned 64)]
  | .createChannelResponse => Fields [("request_id", IsUnsigned 64), ("channel", idFits)]
  | .createUserRequest => Fields [("request_id", IsUnsigned 64)]
  | .createUserResponse => Fields [("request_id", IsUnsigned 64), ("user", idFits)]
  | .getUsersRequest => Fields [("request_id", IsUnsigned 64), ("user_ids", Each (IsUnsigned 32))]
  | .getUsersResponse => Fields [("request_id", IsUnsigned 64), ("users", Each idFits)]
  | .getUserRequest => Fields [("request_id", IsUnsigned 64)]
  | .getUserResponse => Fields [("request_id", IsUnsigned 64), ("user", idFits)]
  | .authenticateUserRequest => Fields [("request_id", IsUnsigned 64)]
  | .authenticateUserResponse => Fields [("request_id", IsUnsigned 64), ("user", idFits)]
  | .joinChatChannelRequest =>
    Fields [("request_id", IsUnsigned 64), ("channel_id", IsUnsigned 32)]
  | .joinChatChannelResponse =>
    Fields [("request_id", IsUnsigned 64), ("channel_id", IsUnsigned 32)]
  | .getChatChannelsRequest => Fields [("request_id", IsUnsigned 64)]
  | .getChatChannelsResponse => Fields [("request_id", IsUnsigned 64), ("channels", Each idFits)]
  | .getChatChannelRequest =>
    Fields [("request_id", IsUnsigned 64), ("channel_id", IsUnsigned 32)]
  | .getChatChannelResponse => Fields [("request_id", IsUnsigned 64), ("channel", idFits)]
  | .logoutRequest => Fields [("request_id", IsUnsigned 64)]
  | .logoutResponse => Fields [("request_id", IsUnsigned 64)]
  | .userLogoutEvent => Fields [("user_id", IsUnsigned 32)]
  | .userLoginEvent => Fields [("user_id", IsUnsigned 32)]
  | .channelLeaveEvent => Fields [("channel_id", IsUnsigned 32), ("user_id", IsUnsigned 32)]
  | .channelJoinEvent => Fields [("channel_id", IsUnsigned 32), ("user_id", IsUnsigned 32)]
  | .channelCreateEvent => Fields [("channel", idFits), ("user_id", IsUnsigned 32)]

/-! ### Records -/

/-- `std::uint32_t` is read exactly from the numbers that fit. -/
theorem exact_uint32 : uint32.Exact (IsUnsigned 32) := exact_unsigned 32

/-- `std::uint64_t` is read exactly from the numbers that fit. -/
theorem exact_uint64 : uint64.Exact (IsUnsigned 64) := exact_unsigned 64

/-- A `ChatMessage` is read exactly when its numbers fit. -/
theorem ChatMessage.exact : ChatMessage.json.Exact ChatMessage.NumbersFit :=
  exact_defineType (by decide) (by simp [Lawful])
    (.cons exact_uint32 (.cons exact_uint32 (.skip exact_string .nil)))

/-- A `ChatChannel` is read exactly when its id fits. -/
theorem ChatChannel.exact : ChatChannel.json.Exact idFits :=
  exact_defineType (by decide) (by simp [Lawful]) (.cons exact_uint32 (.skip exact_string .nil))

/-- A `User` is read exactly when its id fits. -/
theorem User.exact : User.json.Exact idFits :=
  exact_defineType (by decide) (by simp [Lawful]) (.cons exact_uint32 (.skip exact_string .nil))

/-! ### Messages -/

/-- A record as a message. -/
theorem exact_record {R : Type} {init : R} {fields : List (Lib.Field R)}
    {conditions : List (String × (Json → Prop))} {f : R → Message}
    (hkeys : (fields.map Lib.Field.key).Nodup) (hlaws : Lawful fields)
    (hfields : FieldsExact fields conditions)
    (hf : ∀ r, (f r).toJson = (defineType init fields).toJson r) {json : Json} {m : Message}
    (hread : ((defineType init fields).fromJson json).map f = some m) :
    Covers json m.toJson ↔ Fields conditions json := by
  obtain ⟨r, hr, rfl⟩ := Option.map_eq_some_iff.mp hread
  rw [hf]
  exact exact_defineType hkeys hlaws hfields json r hr

/-- A message that was decoded has the values of the payload exactly when the numbers of the
payload fit. One case for each type, with one entry for each field of its list. -/
theorem Message.exact {type : MessageType} {payload : Json} {m : Message}
    (h : Message.fromJson type payload = some m) :
    Covers payload m.toJson ↔ Message.NumbersFit type payload := by
  cases type with
  | print =>
    exact exact_record (by decide) (by simp [Lawful]) (.skip exact_string .nil) (fun _ => rfl) h
  | error =>
    exact exact_record (by decide) (by simp [Lawful]) (.skip exact_string .nil) (fun _ => rfl) h
  | errorResponse =>
    exact exact_record (by decide) (by simp [Lawful])
      (.cons exact_uint64 (.skip exact_string .nil)) (fun _ => rfl) h
  | shutdown =>
    exact exact_record (by decide) (by simp [Lawful]) .nil (fun _ => rfl) h
  | receiveChat =>
    exact exact_record (by decide) (by simp [Lawful])
      (.cons exact_uint32 (.cons exact_uint32 (.skip exact_string .nil))) (fun _ => rfl) h
  | writeChat =>
    exact exact_record (by decide) (by simp [Lawful]) (.skip exact_string .nil) (fun _ => rfl) h
  | getChatsRequest =>
    exact exact_record (by decide) (by simp [Lawful])
      (.cons exact_uint64 (.cons exact_uint32 (.cons exact_uint32 .nil))) (fun _ => rfl) h
  | getChatsResponse =>
    exact exact_record (by decide) (by simp [Lawful])
      (.cons exact_uint64 (.cons exact_uint32 (.cons (exact_vector ChatMessage.exact) .nil)))
      (fun _ => rfl) h
  | createChannelRequest =>
    exact exact_record (by decide) (by simp [Lawful])
      (.cons exact_uint64 (.skip exact_string .nil)) (fun _ => rfl) h
  | createChannelResponse =>
    exact exact_record (by decide) (by simp [Lawful])
      (.cons exact_uint64 (.cons ChatChannel.exact .nil)) (fun _ => rfl) h
  | createUserRequest =>
    exact exact_record (by decide) (by simp [Lawful])
      (.cons exact_uint64 (.skip exact_string (.skip exact_string .nil))) (fun _ => rfl) h
  | createUserResponse =>
    exact exact_record (by decide) (by simp [Lawful])
      (.cons exact_uint64 (.cons User.exact .nil)) (fun _ => rfl) h
  | getUsersRequest =>
    exact exact_record (by decide) (by simp [Lawful])
      (.cons exact_uint64 (.cons (exact_vector exact_uint32) .nil)) (fun _ => rfl) h
  | getUsersResponse =>
    exact exact_record (by decide) (by simp [Lawful])
      (.cons exact_uint64 (.cons (exact_vector User.exact) .nil)) (fun _ => rfl) h
  | getUserRequest =>
    exact exact_record (by decide) (by simp [Lawful])
      (.cons exact_uint64 (.skip exact_string .nil)) (fun _ => rfl) h
  | getUserResponse =>
    exact exact_record (by decide) (by simp [Lawful])
      (.cons exact_uint64 (.cons User.exact .nil)) (fun _ => rfl) h
  | authenticateUserRequest =>
    exact exact_record (by decide) (by simp [Lawful])
      (.cons exact_uint64 (.skip exact_string (.skip exact_string .nil))) (fun _ => rfl) h
  | authenticateUserResponse =>
    exact exact_record (by decide) (by simp [Lawful])
      (.cons exact_uint64 (.cons User.exact .nil)) (fun _ => rfl) h
  | joinChatChannelRequest =>
    exact exact_record (by decide) (by simp [Lawful])
      (.cons exact_uint64 (.cons exact_uint32 .nil)) (fun _ => rfl) h
  | joinChatChannelResponse =>
    exact exact_record (by decide) (by simp [Lawful])
      (.cons exact_uint64 (.cons exact_uint32 .nil)) (fun _ => rfl) h
  | getChatChannelsRequest =>
    exact exact_record (by decide) (by simp [Lawful]) (.cons exact_uint64 .nil) (fun _ => rfl) h
  | getChatChannelsResponse =>
    exact exact_record (by decide) (by simp [Lawful])
      (.cons exact_uint64 (.cons (exact_vector ChatChannel.exact) .nil)) (fun _ => rfl) h
  | getChatChannelRequest =>
    exact exact_record (by decide) (by simp [Lawful])
      (.cons exact_uint64 (.cons exact_uint32 .nil)) (fun _ => rfl) h
  | getChatChannelResponse =>
    exact exact_record (by decide) (by simp [Lawful])
      (.cons exact_uint64 (.cons ChatChannel.exact .nil)) (fun _ => rfl) h
  | logoutRequest =>
    exact exact_record (by decide) (by simp [Lawful]) (.cons exact_uint64 .nil) (fun _ => rfl) h
  | logoutResponse =>
    exact exact_record (by decide) (by simp [Lawful]) (.cons exact_uint64 .nil) (fun _ => rfl) h
  | userLogoutEvent =>
    exact exact_record (by decide) (by simp [Lawful]) (.cons exact_uint32 .nil) (fun _ => rfl) h
  | userLoginEvent =>
    exact exact_record (by decide) (by simp [Lawful]) (.cons exact_uint32 .nil) (fun _ => rfl) h
  | channelLeaveEvent =>
    exact exact_record (by decide) (by simp [Lawful])
      (.cons exact_uint32 (.cons exact_uint32 .nil)) (fun _ => rfl) h
  | channelJoinEvent =>
    exact exact_record (by decide) (by simp [Lawful])
      (.cons exact_uint32 (.cons exact_uint32 .nil)) (fun _ => rfl) h
  | channelCreateEvent =>
    exact exact_record (by decide) (by simp [Lawful])
      (.cons ChatChannel.exact (.cons exact_uint32 .nil)) (fun _ => rfl) h

end ChatCore.Api

namespace ChatCore.Network.JsonNetworkCodec

open ChatCore.Api
open ChatCore.Lib
open ChatCore.Lib.Json

/-- What `DecodeEnvelope` found in the bytes that it accepts. -/
theorem decodeEnvelope_cases {json : JsonLibrary} {bytes : List UInt8} {discriminator : Nat}
    {payload : Json} (h : decodeEnvelope json bytes = some (discriminator, payload)) :
    ∃ value typeId, json.parse bytes = some value ∧ value.atKey typeIdKey = some typeId ∧
      value.atKey payloadKey = some payload ∧ typeId.getUnsigned 64 = some discriminator := by
  unfold decodeEnvelope at h
  split at h
  · cases h
  · split at h
    · cases h
    · rename_i value hparse
      split at h
      · cases h
      · split at h
        · cases h
        · simp only [Option.bind_eq_bind, Option.bind_eq_some_iff, Option.pure_def,
            Option.some.injEq, Prod.mk.injEq] at h
          obtain ⟨typeId, htypeId, d, hd, payload', hpayload, rfl, rfl⟩ := h
          exact ⟨value, typeId, hparse, htypeId, hpayload, hd⟩

/-- Decoding changes no value exactly when the numbers on the wire fit. For every type of
message and every payload that is accepted, writing the message again gives the payload
restricted to the fields of the type if and only if each number of the payload is an integer
within the range of its field. For every envelope that is accepted, the type id of the value that
the library parses from the bytes is the discriminator if and only if it is an integer below
`2 ^ 64`. How the library reads a literal is its own affair: `parse` is any function here. -/
theorem decode_exact_iff (type : MessageType) (payload : Json) (m : Message) :
    (decode type payload = some m →
      (Covers payload m.toJson ↔ Message.NumbersFit type payload)) ∧
    ∀ json bytes discriminator, decodeEnvelope json bytes = some (discriminator, payload) →
      ∃ value typeId, json.parse bytes = some value ∧ value.atKey typeIdKey = some typeId ∧
        (typeId.number? = some (discriminator : Rat) ↔ IsUnsigned 64 typeId) := by
  refine ⟨fun h => Message.exact h, fun json bytes discriminator h => ?_⟩
  obtain ⟨value, typeId, hparse, htypeId, -, hread⟩ := decodeEnvelope_cases h
  refine ⟨value, typeId, hparse, htypeId, ?_⟩
  rw [← covers_numberUnsigned_iff]
  exact Codec.exact_unsigned 64 typeId discriminator hread

/-- A payload with numbers that fit, one of them written as a floating number. -/
theorem decode_join_exact :
    decode .joinChatChannelRequest (.object [("channel_id", .numberFloat 3),
        ("request_id", .numberUnsigned 7)]) = some (.joinChatChannelRequest ⟨7, 3⟩) ∧
    Covers (.object [("channel_id", .numberFloat 3), ("request_id", .numberUnsigned 7)])
      (Message.toJson (.joinChatChannelRequest ⟨7, 3⟩)) := by
  have hdecode : decode .joinChatChannelRequest (.object [("channel_id", .numberFloat 3),
      ("request_id", .numberUnsigned 7)]) = some (.joinChatChannelRequest ⟨7, 3⟩) := by decide
  refine ⟨hdecode, ((decode_exact_iff _ _ _).1 hdecode).mpr ?_⟩
  intro condition hcondition value hvalue
  simp only [List.mem_cons, List.not_mem_nil, or_false] at hcondition
  rcases hcondition with rfl | rfl
  · cases hvalue
    exact ⟨7, by decide, rfl⟩
  · cases hvalue
    exact ⟨3, by decide, rfl⟩

/-- The channel id `2 ^ 32 + 1` is accepted as the channel `1`. -/
theorem decode_join_other_channel :
    decode .joinChatChannelRequest (.object [("channel_id", .numberUnsigned 4294967297),
        ("request_id", .numberUnsigned 7)]) = some (.joinChatChannelRequest ⟨7, 1⟩) ∧
    ¬ Covers (.object [("channel_id", .numberUnsigned 4294967297),
        ("request_id", .numberUnsigned 7)]) (Message.toJson (.joinChatChannelRequest ⟨7, 1⟩)) := by
  have hdecode : decode .joinChatChannelRequest
      (.object [("channel_id", .numberUnsigned 4294967297), ("request_id", .numberUnsigned 7)])
        = some (.joinChatChannelRequest ⟨7, 1⟩) := by decide
  refine ⟨hdecode, fun hcovers => ?_⟩
  have hfit := (Message.exact hdecode).mp hcovers
  obtain ⟨n, hlt, hn⟩ :=
    hfit ("channel_id", IsUnsigned 32) (by simp) (.numberUnsigned 4294967297) rfl
  have heq : (4294967297 : Rat) = (n : Rat) := by simpa [number?] using hn
  have hnat : 4294967297 = n := by exact_mod_cast heq
  omega

end ChatCore.Network.JsonNetworkCodec
