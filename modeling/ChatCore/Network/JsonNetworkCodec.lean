import ChatCore.Api.JsonApi

/-!
# `ChatCore.Network.JsonNetworkCodec`: messages as bytes

A message is written as an object with its type id and its payload. The text of a JSON value and
its parser belong to the JSON library and are parameters (`JsonLibrary`).
-/

set_option autoImplicit false

namespace ChatCore.Network

open ChatCore.Api
open ChatCore.Lib

/-- `json::dump`, and `json::parse` without exceptions. `none` is a discarded value. -/
structure JsonLibrary where
  dump : Json → List UInt8
  parse : List UInt8 → Option Json

namespace JsonNetworkCodec

def typeIdKey : String := "type_id"

def payloadKey : String := "payload"

/-- The object that `Encode` builds. -/
def envelope (message : Message) : Json :=
  .object (Json.insertField payloadKey message.toJson
    (Json.insertField typeIdKey (.numberUnsigned message.type.typeId) []))

/-- `Encode`. -/
def encode (json : JsonLibrary) (message : Message) : List UInt8 := json.dump (envelope message)

/-- `Decode<T>`. -/
def decode (type : MessageType) (payload : Json) : Option Message :=
  Message.fromJson type payload

/-- `DecodeEnvelope`. -/
def decodeEnvelope (json : JsonLibrary) (bytes : List UInt8) : Option (Nat × Json) :=
  if bytes.isEmpty then none
  else
    match json.parse bytes with
    | none => none
    | some value =>
      if (value.atKey typeIdKey).isNone then none
      else if (value.atKey payloadKey).isNone then none
      else do
        let discriminator ← (← value.atKey typeIdKey).getUnsigned 64
        let payload ← value.atKey payloadKey
        return (discriminator, payload)

end JsonNetworkCodec

end ChatCore.Network
