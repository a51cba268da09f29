import ChatCore.Network.Connection

/-!
# `ChatCore.Network.ReadLoop`: the read side of `BoostTcpConnection`

`ReadBytes` asks `async_read` for the four bytes of a header. Its completion handler resizes the
buffer to the length in the header and asks for that many bytes. The handler of this second read
passes the buffer to `OnReceive` and calls `ReadBytes` again. A header with too large a length,
and an error of either read, end the loop with `OnDisconnect`.

Bytes arrive in chunks of any size, and any number of chunks may arrive before a completion
handler runs. A read completes successfully when the requested number of bytes has arrived. The
buffer is moved from when it is passed to `OnReceive`, and what it holds then is unspecified.
-/

set_option autoImplicit false

namespace ChatCore.Network

open ChatCore.Lib (Lts)

/-- `BoostTcpConnection::MaxMessageBytes`. -/
def maxMessageBytes : Nat := 1048576

/-- `ntohl(incoming_bytes_length_buffer_)`, from the four bytes in memory. -/
def hostLength (header : List UInt8) : Nat :=
  header.foldl (fun length byte => length * 2 ^ 8 + byte.toNat) 0

/-- `std::vector::resize`. -/
def resize (length : Nat) (bytes : List UInt8) : List UInt8 :=
  bytes.take length ++ List.replicate (length - bytes.length) 0

/-- What a connection reports through its facade. -/
inductive ConnectionEvent where
  /-- `OnReceive`, which passes the bytes to `TcpSystem::ReceiveMessage`. -/
  | received (bytes : List UInt8)
  /-- `OnDisconnect`, which removes the connection and calls `OnDisconnected`. -/
  | disconnected
  deriving DecidableEq

/-- The read that is outstanding. -/
inductive Reading where
  | header
  | body
  /-- No read is outstanding and none will be. -/
  | stopped
  deriving DecidableEq

/-- The read side of a connection. -/
structure ReadLoop where
  reading : Reading := .header
  /-- The bytes that arrived and that no completed read has taken. -/
  buffered : List UInt8 := []
  incomingBytesBuffer : List UInt8 := []
  deriving DecidableEq

namespace ReadLoop

/-- The handler of a read that completes successfully, with the events it reports. `movedFrom`
is what `incoming_bytes_buffer_` holds after it was moved from. -/
def complete (s : ReadLoop) (movedFrom : List UInt8) : Option (ReadLoop × List ConnectionEvent) :=
  match s.reading with
  | .header =>
    if s.buffered.length < 4 then none
    else
      let length := hostLength (s.buffered.take 4)
      let s := { s with buffered := s.buffered.drop 4 }
      if length > maxMessageBytes then some ({ s with reading := .stopped }, [.disconnected])
      else
        some ({ s with
          reading := .body
          incomingBytesBuffer := resize length s.incomingBytesBuffer }, [])
  | .body =>
    -- `buffer(incoming_bytes_buffer_)` asks for as many bytes as the vector has.
    let length := s.incomingBytesBuffer.length
    if s.buffered.length < length then none
    else
      some ({ s with
        reading := .header
        buffered := s.buffered.drop length
        incomingBytesBuffer := movedFrom }, [.received (s.buffered.take length)])
  | .stopped => none

/-- The handler of a read that completes with an error. -/
def fail (s : ReadLoop) : Option (ReadLoop × List ConnectionEvent) :=
  match s.reading with
  | .header | .body => some ({ s with reading := .stopped }, [.disconnected])
  | .stopped => none

end ReadLoop

/-- A step of the network or of a completion handler. -/
inductive ReadOp where
  | arrive (chunk : List UInt8)
  | complete (movedFrom : List UInt8)
  | fail
  deriving DecidableEq

/-- A read completes. Nothing else happens without the network. -/
def ReadOp.IsComplete : ReadOp → Prop
  | .complete _ => True
  | .arrive _ | .fail => False

/-- The read side with what it has done. Both lists are ghosts. -/
structure ReadRun extends ReadLoop where
  arrived : List UInt8 := []
  events : List ConnectionEvent := []

namespace ReadRun

/-- The payloads that were passed to `OnReceive`, in order. -/
def payloads (s : ReadRun) : List (List UInt8) :=
  s.events.filterMap fun
    | .received bytes => some bytes
    | .disconnected => none

/-- The state after a completion handler. -/
def handled (s : ReadRun) (result : ReadLoop × List ConnectionEvent) : ReadRun :=
  { s with toReadLoop := result.1, events := s.events ++ result.2 }

/-- One step of the read side. -/
def step (s : ReadRun) : ReadOp → Option ReadRun
  | .arrive chunk => some { s with buffered := s.buffered ++ chunk, arrived := s.arrived ++ chunk }
  | .complete movedFrom => (s.toReadLoop.complete movedFrom).map s.handled
  | .fail => s.toReadLoop.fail.map s.handled

/-- No read can complete with the bytes that arrived so far. -/
def Quiescent (s : ReadRun) : Prop := ∀ movedFrom, s.toReadLoop.complete movedFrom = none

end ReadRun

/-- The runs of the read side. -/
def reads : Lts ReadRun ReadOp where
  start s := s = {}
  step := ReadRun.step

/-- The reads complete only when their bytes have arrived. -/
def NoReadError (_ : ReadRun) : ReadOp → Prop
  | .fail => False
  | _ => True

instance : DecidableRel NoReadError := fun _ l =>
  match l with
  | .fail => inferInstanceAs (Decidable False)
  | .arrive _ | .complete _ => inferInstanceAs (Decidable True)

end ChatCore.Network
