import ChatCore.Proofs.Answers
import ChatCore.Proofs.MessageOrder
import ChatCore.Network.ReadLoop
import ChatCore.Server.ReplySizes

/-!
# `ChatCore.Proofs.FrameSizes`: which replies fit into a frame

`ReadBytes` disconnects on a frame of more than `maxMessageBytes` bytes. `SendBytes` sends frames
of any size, and the handlers do not look at sizes, so the server can send a frame that its
clients do not take (`long_write_exceeds_frame`). `frameSize` is the size of each message that the
server sends, from the field list of its type, and `frameSizes_replies` lists the sizes of all that
handling a message makes.

The text of a JSON value is the documented one (`DumpsText`). No message has a double in it, so
the text of a double does not matter.
-/

set_option autoImplicit false

namespace ChatCore.Network

open ChatCore.Api
open ChatCore.Lib ChatCore.Lib.Json

/-- `dump` writes the compact text, where `float` is the text of a double. -/
def JsonLibrary.DumpsText (json : JsonLibrary) (float : Rat → List Char) : Prop :=
  ∀ value, json.dump value = utf8 (text float value)

end ChatCore.Network

namespace ChatCore.Api

open ChatCore.Lib ChatCore.Lib.Json
open ChatCore.Server

variable (float : Rat → List Char)

/-- The keys of the messages that the server sends, with their quotes. -/
theorem quotedSize_keys :
    quotedSize "id" = 4 ∧ quotedSize "name" = 6 ∧ quotedSize "user" = 6 ∧ quotedSize "users" = 7 ∧
    quotedSize "value" = 7 ∧ quotedSize "channel" = 9 ∧ quotedSize "content" = 9 ∧
    quotedSize "user_id" = 9 ∧ quotedSize "channels" = 10 ∧ quotedSize "messages" = 10 ∧
    quotedSize "channel_id" = 12 ∧ quotedSize "request_id" = 12 := by
  decide

/-- The size of a 32-bit field. -/
@[simp] theorem size_uint32 (n : Nat) : size float (uint32.toJson n) = decimalSize n :=
  size_numberUnsigned float n

/-- The size of a 64-bit field. -/
@[simp] theorem size_uint64 (n : Nat) : size float (uint64.toJson n) = decimalSize n :=
  size_numberUnsigned float n

/-- The size of a string field. -/
@[simp] theorem size_codecString (s : String) :
    size float (Codec.string.toJson s) = quotedSize s :=
  size_string float s

/-- The size of a list field. -/
@[simp] theorem size_vector {α : Type} (c : Codec α) (values : List α) :
    size float ((Codec.vector c).toJson values)
      = arraySize (values.map fun a => size float (c.toJson a)) := by
  show size float (.array (values.map c.toJson)) = _
  rw [size_array, List.map_map]
  rfl

/-- The size of a user. -/
@[simp] theorem size_user (user : User) :
    size float (User.json.toJson user) = namedSize user.id user.name := by
  rw [User.json, Codec.size_defineType float (by decide)]
  simp [arraySize, fieldSize, Field.write, quotedSize_keys, namedSize]
  omega

/-- The size of a channel. -/
@[simp] theorem size_chatChannel (channel : ChatChannel) :
    size float (ChatChannel.json.toJson channel) = namedSize channel.id channel.name := by
  rw [ChatChannel.json, Codec.size_defineType float (by decide)]
  simp [arraySize, fieldSize, Field.write, quotedSize_keys, namedSize]
  omega

/-- The size of a chat message in a list. -/
@[simp] theorem size_chatMessage (m : ChatMessage) :
    size float (ChatMessage.json.toJson m) = chatSize m.id m.userId m.content := by
  rw [ChatMessage.json, Codec.size_defineType float (by decide)]
  simp [arraySize, fieldSize, Field.write, quotedSize_keys, chatSize]
  omega

end ChatCore.Api

namespace ChatCore.Network

open ChatCore.Api
open ChatCore.Lib ChatCore.Lib.Json
open ChatCore.Server

namespace JsonNetworkCodec

variable {json : JsonLibrary} {float : Rat → List Char}

/-- All type ids have three digits, except for the one of `PrintMessage`. -/
theorem decimalSize_typeId {type : MessageType} (h : type ≠ .print) :
    decimalSize type.typeId = 3 := by
  refine decimalSize_of_three_digits ?_ ?_
  · cases type with
    | print => exact absurd rfl h
    | _ => decide
  · cases type <;> decide

/-- The envelope adds 26 bytes when the type id has three digits. -/
theorem length_encode (h : json.DumpsText float) {m : Message} (hm : m.type ≠ .print) :
    (encode json m).length = 26 + size float m.toJson := by
  have hid := decimalSize_typeId hm
  have hkeys : quotedSize typeIdKey = 9 ∧ quotedSize payloadKey = 9 := by decide
  -- The order of the two fields does not matter for the size.
  have hperm : (insertField payloadKey m.toJson
      (insertField typeIdKey (.numberUnsigned m.type.typeId) [])).Perm
      [(payloadKey, m.toJson), (typeIdKey, .numberUnsigned m.type.typeId)] :=
    insertField_perm _ (show payloadKey ∉ [typeIdKey] by decide)
  show (json.dump (envelope m)).length = _
  rw [h, envelope]
  show size float (.object _) = _
  rw [size_object, arraySize_perm (hperm.map _)]
  simp only [List.map_cons, List.map_nil, arraySize, fieldSize, List.sum_cons, List.sum_nil,
    List.length_cons, List.length_nil, size_numberUnsigned, hkeys, hid]
  omega

/-- The bytes of a message, for the types that the server sends. -/
def frameSize : Message → Option Nat
  | .error m => some (errorSize m.value)
  | .errorResponse m => some (errorResponseSize m.requestId m.value)
  | .receiveChat m =>
    some (63 + decimalSize m.channelId + decimalSize m.userId + quotedSize m.content)
  | .getChatsResponse m =>
    some (67 + decimalSize m.requestId + decimalSize m.channelId +
      arraySize (m.messages.map fun message =>
        chatSize message.id message.userId message.content))
  | .createChannelResponse m =>
    some (channelResponseSize m.requestId m.channel.id m.channel.name)
  | .createUserResponse m => some (userResponseSize m.requestId m.user.id m.user.name)
  | .getUsersResponse m =>
    some (50 + decimalSize m.requestId +
      arraySize (m.users.map fun user => namedSize user.id user.name))
  | .getUserResponse m => some (userResponseSize m.requestId m.user.id m.user.name)
  | .authenticateUserResponse m => some (userResponseSize m.requestId m.user.id m.user.name)
  | .joinChatChannelResponse m =>
    some (55 + decimalSize m.channelId + decimalSize m.requestId)
  | .getChatChannelsResponse m =>
    some (53 + decimalSize m.requestId +
      arraySize (m.channels.map fun channel => namedSize channel.id channel.name))
  | .getChatChannelResponse m =>
    some (channelResponseSize m.requestId m.channel.id m.channel.name)
  | .logoutResponse m => some (41 + decimalSize m.requestId)
  | .userLogoutEvent m => some (userEventSize m.userId)
  | .userLoginEvent m => some (userEventSize m.userId)
  | .channelLeaveEvent m => some (channelEventSize m.channelId m.userId)
  | .channelJoinEvent m => some (channelEventSize m.channelId m.userId)
  | .channelCreateEvent m =>
    some (49 + namedSize m.channel.id m.channel.name + decimalSize m.userId)
  | _ => none

/-- The size of a message whose type lists the fields. -/
theorem length_encode_defineType (h : json.DumpsText float) {m : Message} {R : Type} {init r : R}
    {fields : List (Lib.Field R)} (hm : m.type ≠ .print)
    (hjson : m.toJson = (Codec.defineType init fields).toJson r)
    (hkeys : (fields.map Field.key).Nodup) :
    (encode json m).length
      = 26 + arraySize (fields.map fun f => fieldSize float f.key (f.write r)) := by
  rw [length_encode h hm, hjson, Codec.size_defineType float hkeys]

/-- `Encode` makes as many bytes as `frameSize` says. -/
theorem length_encode_of_frameSize (h : json.DumpsText float) {m : Message} {n : Nat}
    (hm : frameSize m = some n) : (encode json m).length = n := by
  have hprint : m.type ≠ .print := by
    intro htype
    cases m with
    | print => cases hm
    | _ => cases htype
  cases m with
  | print | shutdown | writeChat | getChatsRequest | createChannelRequest | createUserRequest
  | getUsersRequest | getUserRequest | authenticateUserRequest | joinChatChannelRequest
  | getChatChannelsRequest | getChatChannelRequest | logoutRequest => cases hm
  | _ =>
    -- The fields of the type, as the codec lists them.
    cases hm
    rw [length_encode_defineType h hprint rfl (by decide)]
    simp [arraySize, fieldSize, Field.write, quotedSize_keys, errorSize, errorResponseSize,
      userResponseSize, channelResponseSize, userEventSize, channelEventSize]
    omega

end JsonNetworkCodec

end ChatCore.Network

namespace ChatCore.Server

open ChatCore.Api
open ChatCore.Lib ChatCore.Lib.Json
open ChatCore.Network

/-- Every message that the calls hand over is encoded to a frame that the other side takes. -/
def FitFrames (json : JsonLibrary) (calls : List Call) : Prop :=
  ∀ call ∈ calls, ∀ message, call.message = some message →
    (JsonNetworkCodec.encode json message).length ≤ maxMessageBytes

/-- The sizes of the messages that the calls hand over. -/
def frameSizes (calls : List Call) : List (Option Nat) :=
  (calls.filterMap Call.message).map JsonNetworkCodec.frameSize

namespace ServerState

variable {s : ServerState} {c : Nat}

/-- The sizes of what a guarded handler sends. -/
theorem frameSizes_authorized {error : Message} {n : Nat} {rest : Nat → List Call}
    {sizes : Nat → List Nat} (herror : JsonNetworkCodec.frameSize error = some n)
    (hrest : ∀ user, frameSizes (rest user) = (sizes user).map some) :
    frameSizes (s.authorized c error rest) = (s.authorizedSizes c n sizes).map some := by
  simp only [authorized, authorizedSizes]
  cases s.users.userSessions.findLeft c with
  | none => exact congrArg (fun size => [size]) herror
  | some user => exact hrest user

/-- The replies have the sizes of `replySizes`. -/
theorem frameSizes_replies (m : Message) :
    frameSizes (s.replies c m) = (s.replySizes c m).map some := by
  cases m with
  | createUserRequest m =>
    simp only [replies, replySizes]
    split <;> rfl
  | authenticateUserRequest m =>
    simp only [replies, replySizes]
    cases s.users.userSessions.findLeft c with
    | some _ => rfl
    | none =>
      cases s.db.matchUserCredentials m.name m.password with
      | none => rfl
      | some user =>
        simp only
        split <;> rfl
  | getUsersRequest m => exact frameSizes_authorized rfl fun _ => rfl
  | getUserRequest m =>
    refine frameSizes_authorized rfl fun _ => ?_
    cases s.db.getUserByName m.name <;> rfl
  | writeChat m =>
    refine frameSizes_authorized rfl fun _ => ?_
    cases s.channels.connectionChannelMap.findLeft c <;> rfl
  | createChannelRequest m =>
    refine frameSizes_authorized rfl fun _ => ?_
    cases s.db.getChatChannelByName m.name <;> rfl
  | joinChatChannelRequest m =>
    refine frameSizes_authorized rfl fun _ => ?_
    cases s.db.getChatChannel m.channelId with
    | none => rfl
    | some _ =>
      -- The leave event is there when the connection was in a channel.
      simp only [joinReplies]
      cases s.channels.connectionChannelMap.findLeft c <;> rfl
  | getChatsRequest m => exact frameSizes_authorized rfl fun _ => rfl
  | getChatChannelsRequest m => exact frameSizes_authorized rfl fun _ => rfl
  | getChatChannelRequest m =>
    refine frameSizes_authorized rfl fun _ => ?_
    cases s.db.getChatChannel m.channelId <;> rfl
  | shutdown m => exact frameSizes_authorized rfl fun _ => rfl
  | logoutRequest m => exact frameSizes_authorized rfl fun _ => rfl
  | _ => rfl

/-- All that handling a message sends and broadcasts fits into a frame exactly when the sizes of
`replySizes` do. -/
theorem Consistent.fitFrames_iff {json : JsonLibrary} {float : Rat → List Char}
    (h : s.Consistent) (hdump : json.DumpsText float) (m : Message) :
    FitFrames json (s.handle c m).2 ↔ ∀ n ∈ s.replySizes c m, n ≤ maxMessageBytes := by
  rw [handle_replies h c m]
  -- Both sides range over the same sizes, one for each message that is sent.
  have hsizes := frameSizes_replies (s := s) (c := c) m
  constructor
  · intro hfit n hn
    have hmem : some n ∈ frameSizes (s.replies c m) := by
      rw [hsizes]
      exact List.mem_map_of_mem hn
    obtain ⟨message, hmessage, hsize⟩ := List.mem_map.mp hmem
    obtain ⟨call, hcall, hcarries⟩ := List.mem_filterMap.mp hmessage
    rw [← JsonNetworkCodec.length_encode_of_frameSize hdump hsize]
    exact hfit call hcall message hcarries
  · intro hfit call hcall message hcarries
    have hmem : JsonNetworkCodec.frameSize message ∈ frameSizes (s.replies c m) :=
      List.mem_map_of_mem (List.mem_filterMap.mpr ⟨call, hcall, hcarries⟩)
    rw [hsizes] at hmem
    obtain ⟨n, hn, hsize⟩ := List.mem_map.mp hmem
    rw [JsonNetworkCodec.length_encode_of_frameSize hdump hsize.symm]
    exact hfit n hn

end ServerState

namespace ServerRun

variable {json : JsonLibrary} {float : Rat → List Char}

/-- The library with the compact text, on the frame of one message. -/
def textLibrary (m : Message) : JsonLibrary where
  dump value := utf8 (text (fun _ => []) value)
  parse bytes :=
    if bytes = utf8 (text (fun _ => []) (JsonNetworkCodec.envelope m)) then
      some (JsonNetworkCodec.envelope m)
    else none

/-- The library of a message writes the documented text. -/
theorem textLibrary_dumpsText (m : Message) : (textLibrary m).DumpsText fun _ => [] := fun _ => rfl

/-- A user is logged in on connection 1 and has joined channel 1. -/
theorem exists_joined : ∃ r, serverRuns.Reachable Lts.anyStep r ∧ r.server.connections = [1] ∧
    r.server.users.userSessions.findLeft 1 = some 1 ∧
    r.server.channels.connectionChannelMap.findLeft 1 = some 1 := by
  have hstart : serverRuns.Reachable Lts.anyStep
      { server := ServerState.begin Database.empty, start := Database.empty } :=
    .start ⟨Database.empty, rfl⟩
  exact hstart.exists_of_exec
    [.connect, .handle 1 (.createUserRequest ⟨1, "ann", "pw"⟩),
      .handle 1 (.authenticateUserRequest ⟨2, "ann", "pw"⟩),
      .handle 1 (.createChannelRequest ⟨3, "general"⟩),
      .handle 1 (.joinChatChannelRequest ⟨4, 1⟩)]
    (fun r => r.server.connections = [1] ∧ r.server.users.userSessions.findLeft 1 = some 1 ∧
      r.server.channels.connectionChannelMap.findLeft 1 = some 1) (by decide)

/-- What a member of channel 1 gets when user 1 writes there. -/
theorem replySizes_writeChat {s : ServerState} {content : String}
    (hsession : s.users.userSessions.findLeft 1 = some 1)
    (hchannel : s.channels.connectionChannelMap.findLeft 1 = some 1) :
    s.replySizes 1 (.writeChat ⟨content⟩) = [65 + quotedSize content] := by
  have hone : decimalSize 1 = 1 := decimalSize_of_one_digit (by decide)
  simp only [ServerState.replySizes, ServerState.authorizedSizes, hsession, hchannel, hone]

/-- A content of `n` letters. -/
def letters (n : Nat) : String := String.ofList (List.replicate n 'a')

/-- Plain letters are not escaped. -/
theorem quotedSize_letters (n : Nat) : quotedSize (letters n) = n + 2 := by
  rw [quotedSize, letters, String.toList_ofList, List.map_replicate, List.sum_replicate_nat]
  show 2 + n * 1 = n + 2
  omega

/-- The frame in which a client writes. -/
theorem length_encode_writeChat (hdump : json.DumpsText float) (content : String) :
    (JsonNetworkCodec.encode json (.writeChat ⟨content⟩)).length = 38 + quotedSize content := by
  have hprint : (Message.writeChat ⟨content⟩).type ≠ .print :=
    show MessageType.writeChat ≠ .print by decide
  rw [JsonNetworkCodec.length_encode_defineType hdump hprint rfl (by decide)]
  simp [arraySize, fieldSize, Field.write, quotedSize_keys]
  omega

/-- The library reads the frame of its message, and the processor passes the message on. -/
theorem receive_textLibrary (content : String) (c : Nat) :
    (jsonNetworkCodec (textLibrary (.writeChat ⟨content⟩))).receive
        (c, JsonNetworkCodec.encode (textLibrary (.writeChat ⟨content⟩)) (.writeChat ⟨content⟩))
      = some (c, .writeChat ⟨content⟩) := by
  have hempty : (textLibrary (.writeChat ⟨content⟩)).parse [] = none := by
    have hlength := length_encode_writeChat (textLibrary_dumpsText (.writeChat ⟨content⟩)) content
    have hnil : ¬ [] = utf8 (text (fun _ => [])
        (JsonNetworkCodec.envelope (.writeChat ⟨content⟩))) := by
      intro hnil
      simp only [JsonNetworkCodec.encode, textLibrary, ← hnil, List.length_nil] at hlength
      omega
    simp only [textLibrary, if_neg hnil]
  have henvelope : JsonNetworkCodec.decodeEnvelope (textLibrary (.writeChat ⟨content⟩))
      (JsonNetworkCodec.encode (textLibrary (.writeChat ⟨content⟩)) (.writeChat ⟨content⟩))
      = some (MessageType.writeChat.typeId, (Message.writeChat ⟨content⟩).toJson) :=
    JsonNetworkCodec.decodeEnvelope_encode hempty (by simp only [textLibrary, if_true])
  exact receive_json_eq_some.mpr ⟨rfl, .writeChat, by decide, _, henvelope, rfl⟩

/-- The user writes 1048536 letters. The frame of the client has 1048576 bytes and is accepted.
The frame that the server makes of it for the channel has 1048603 bytes. -/
theorem long_write_exceeds_frame : ∃ (json : JsonLibrary) (float : Rat → List Char) (r : ServerRun)
    (bytes : List UInt8) (m : Message),
    json.DumpsText float ∧ serverRuns.Reachable Lts.anyStep r ∧ r.server.connections = [1] ∧
    bytes.length ≤ maxMessageBytes ∧ (jsonNetworkCodec json).receive (1, bytes) = some (1, m) ∧
    ¬ FitFrames json (r.server.handle 1 m).2 := by
  obtain ⟨r, hreach, hconnections, hsession, hchannel⟩ := exists_joined
  -- Only the size of the content matters from here on.
  obtain ⟨content, hsize⟩ : ∃ content, quotedSize content = 1048538 :=
    ⟨letters 1048536, quotedSize_letters _⟩
  have hdump := textLibrary_dumpsText (.writeChat ⟨content⟩)
  have hreceive := receive_textLibrary content 1
  refine ⟨textLibrary (.writeChat ⟨content⟩), fun _ => [], r,
    JsonNetworkCodec.encode (textLibrary (.writeChat ⟨content⟩)) (.writeChat ⟨content⟩),
    .writeChat ⟨content⟩, hdump, hreach, hconnections, ?_, hreceive, ?_⟩
  · rw [length_encode_writeChat hdump, hsize]
    decide
  · rw [(consistent_reachable hreach).fitFrames_iff hdump, replySizes_writeChat hsession hchannel,
      hsize]
    decide

end ServerRun

end ChatCore.Server
