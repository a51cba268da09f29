import ChatCore.Network.Transport
import ChatCore.Proofs.Framing
import ChatCore.Proofs.MessageOrder
import ChatCore.Proofs.SendQueue
import ChatCore.Proofs.WireFormat

/-!
# `ChatCore.Proofs.Transport`: what is sent is handled, in order and once

The stages of a transport are prefixes of each other. The frames that were passed on are a prefix
of the frames of the sent messages, because a run in which every `SendBytes` satisfies `IdleStep`
has one write at a time (`SendInv`). What the write has put on the wire, what is on the wire and
what has arrived are these frames, byte for byte. The payloads that are cut out of them are a
prefix of the encoded messages, because the frames are a prefix-free code. And the handled
messages are a prefix of what the payloads decode to (`Ordered`). `TransportInv` has one field for
each seam.

`handled_in_sent_order` puts the stages together. `transport_delivers` says that they do not get
stuck: from every state the steps that are possible without another `Send` come to an end, and
then every sent message is handled.
-/

set_option autoImplicit false

namespace ChatCore.Network

open ChatCore.Api
open ChatCore.Lib

/-! ### Frames of any length that a header can hold -/

/-- A payload whose length is not cut off in its header. -/
def FitsHeader (payload : List UInt8) : Prop := payload.length < 2 ^ 32

/-- No frame header is the beginning of another one. -/
theorem prefixFree_frame_header : PrefixFree frame FitsHeader where
  ne_nil a _ := by simp [frame, networkLength]
  eq_of_isPrefix a b ha hb h := by
    obtain ⟨hheader, hprefix⟩ := (frame_prefix_iff (networkLength_length _)).mp h
    have hlength : a.length = b.length := by
      rw [← hostLength_networkLength ha, hheader, hostLength_networkLength hb]
    exact hprefix.eq_of_length hlength

/-- The payloads that are cut out of a part of the stream of `sent` are the first of `sent`. -/
theorem payloads_isPrefix {payloads sent : List (List UInt8)} {arrived rest : List UInt8}
    (hsplit : Split frame Fits arrived payloads rest) (hsent : ∀ p ∈ sent, FitsHeader p)
    (harrived : arrived <+: sent.flatMap frame) : payloads <+: sent := by
  obtain ⟨later, hlater⟩ := harrived
  have hall : Split frame FitsHeader (sent.flatMap frame) sent [] :=
    ⟨(List.append_nil _).symm, hsent⟩
  have hcut : Split frame FitsHeader (sent.flatMap frame) payloads (rest ++ later) := by
    refine ⟨?_, fun p hp => (hsplit.all_valid p hp).lt⟩
    rw [← hlater, hsplit.stream_eq, List.append_assoc]
  exact hall.isPrefix prefixFree_frame_header
    (fun p hp hprefix => prefixFree_frame_header.ne_nil p hp (List.prefix_nil.mp hprefix)) hcut

/-! ### The handlers of the reads -/

/-- A completion handler of a read passes on at most one payload. -/
theorem ReadLoop.events_cases {s : ReadLoop} {result : ReadLoop × List ConnectionEvent}
    (h : (∃ movedFrom, s.complete movedFrom = some result) ∨ s.fail = some result) :
    result.2 = [] ∨ (∃ bytes, result.2 = [.received bytes]) ∨ result.2 = [.disconnected] := by
  cases h with
  | inl h =>
    obtain ⟨movedFrom, hc⟩ := h
    unfold complete at hc
    cases hreading : s.reading with
    | stopped => simp [hreading] at hc
    | header =>
      simp only [hreading] at hc
      split at hc
      · cases hc
      · split at hc
        · cases hc
          exact .inr (.inr rfl)
        · cases hc
          exact .inl rfl
    | body =>
      simp only [hreading] at hc
      split at hc
      · cases hc
      · cases hc
        exact .inr (.inl ⟨_, rfl⟩)
  | inr h =>
    unfold fail at h
    cases hreading : s.reading <;> simp only [hreading] at h <;> cases h
    · exact .inr (.inr rfl)
    · exact .inr (.inr rfl)

namespace ReadRun

variable {s s' : ReadRun}

/-- The read side, with a read error in its run or without: up to the error it was reachable
without one, and since then it only takes bytes. -/
def UpToError (s : ReadRun) : Prop :=
  ∃ s0, reads.Reachable NoReadError s0 ∧ s.payloads = s0.payloads ∧ s0.arrived <+: s.arrived ∧
    (s.reading = .stopped ∨ s = s0)

/-- A step keeps the run up to a read error. -/
theorem upToError_step {l : ReadOp} (h : s.UpToError) (hs : s.step l = some s') :
    s'.UpToError := by
  obtain ⟨s0, hreach, hpayloads, harrived, hstopped⟩ := h
  cases l with
  | arrive chunk =>
    rcases hstopped with hstopped | rfl
    · cases hs
      exact ⟨s0, hreach, hpayloads, harrived.trans (List.prefix_append _ _), .inl hstopped⟩
    · exact ⟨s', .step (l := .arrive chunk) hreach trivial hs, rfl, List.prefix_rfl, .inr rfl⟩
  | complete movedFrom =>
    rcases hstopped with hstopped | rfl
    · -- A stopped loop has no read that could complete.
      obtain ⟨result, hresult, -⟩ := Option.map_eq_some_iff.mp hs
      simp [ReadLoop.complete, hstopped] at hresult
    · exact ⟨s', .step (l := .complete movedFrom) hreach trivial hs, rfl, List.prefix_rfl, .inr rfl⟩
  | fail =>
    obtain ⟨result, hresult, rfl⟩ := Option.map_eq_some_iff.mp hs
    unfold ReadLoop.fail at hresult
    have hrun : ∀ loop : ReadLoop, (s.handled (loop, [.disconnected])).payloads = s.payloads := by
      intro loop
      rw [payloads_append]
      exact List.append_nil _
    cases hreading : s.reading <;> simp only [hreading] at hresult <;> cases hresult
    · exact ⟨s0, hreach, (hrun _).trans hpayloads, harrived, .inl rfl⟩
    · exact ⟨s0, hreach, (hrun _).trans hpayloads, harrived, .inl rfl⟩

/-- The payloads are cut out of the bytes that arrived, also after a read error. -/
theorem UpToError.split (h : s.UpToError) : ∃ rest, Split frame Fits s.arrived s.payloads rest := by
  obtain ⟨s0, hreach, hpayloads, ⟨later, hlater⟩, -⟩ := h
  obtain ⟨rest, hframed⟩ := framed_reachable hreach
  refine ⟨rest ++ later, ?_, ?_⟩
  · rw [← hlater, hpayloads, hframed.split.stream_eq, List.append_assoc]
  · rw [hpayloads]
    exact hframed.split.all_valid

end ReadRun

/-! ### The queue of the receiver -/

namespace MessageProcessor

variable {Kind Payload Message : Type} (codec : NetworkCodec Kind Payload Message)
  {s : MessageProcessor Kind Payload Message}

/-- `Enqueue` up to the lock takes its input in or hands it to the locked section. A stopped
processor takes nothing in. -/
theorem enqueue_cases (connectionId : Nat) (bytes : List UInt8) :
    s.enqueue codec connectionId bytes
      = (if s.stopped then s else { s with inputs := s.inputs ++ [(connectionId, bytes)] }) ∨
    ∃ task, s.enqueue codec connectionId bytes
      = { s with enqueuing := s.enqueuing ++ [((connectionId, bytes), task)] } := by
  simp only [enqueue]
  cases codec.decodeEnvelope bytes with
  | none => exact .inl rfl
  | some envelope =>
    cases hlookup : codec.createMessageHandlerLookup envelope.1 with
    | none => exact .inl (by simp only [hlookup])
    | some type =>
      simp only [hlookup]
      exact .inr ⟨_, rfl⟩

/-- With one call at a time in `Enqueue`, the inputs and then the pending one are the calls of
`ReceiveMessage`, until a `Stop`. -/
theorem enqueue_single {received : List Input} (hnil : s.enqueuing = [])
    (hinputs : s.inputs <+: received) (hall : s.stopped = false → s.inputs = received)
    (connectionId : Nat) (bytes : List UInt8) :
    (s.enqueue codec connectionId bytes).enqueuing.length ≤ 1 ∧
      (s.enqueue codec connectionId bytes).inputs <+: received ++ [(connectionId, bytes)] ∧
      ((s.enqueue codec connectionId bytes).stopped = false →
        (s.enqueue codec connectionId bytes).inputs
            ++ (s.enqueue codec connectionId bytes).enqueuing.map Prod.fst
          = received ++ [(connectionId, bytes)]) := by
  have hprefix : s.inputs <+: received ++ [(connectionId, bytes)] :=
    hinputs.trans (List.prefix_append _ _)
  rcases enqueue_cases codec (s := s) connectionId bytes with heq | ⟨task, heq⟩
  · rw [heq]
    cases hstopped : s.stopped with
    | true => simp [hnil, hprefix, hstopped]
    | false => simp [hnil, hall hstopped]
  · rw [heq]
    refine ⟨by simp [hnil], hprefix, fun hrunning => ?_⟩
    simp [hnil, hall hrunning]

/-- The locked section takes the pending input in, unless the processor is stopped. -/
theorem emplace_single {received : List Input} {input : Input} {task : Task Kind Payload}
    (henqueuing : s.enqueuing = [(input, task)]) (hinputs : s.inputs <+: received)
    (hall : s.stopped = false → s.inputs ++ s.enqueuing.map Prod.fst = received) :
    ({ s with enqueuing := [] }.emplace input task).enqueuing = [] ∧
      ({ s with enqueuing := [] }.emplace input task).inputs <+: received ∧
      (({ s with enqueuing := [] }.emplace input task).stopped = false →
        ({ s with enqueuing := [] }.emplace input task).inputs = received) := by
  unfold emplace
  cases hstopped : s.stopped with
  | true => simp [hinputs]
  | false =>
    have hreceived := hall hstopped
    simp only [henqueuing, List.map_singleton] at hreceived
    simp [← hreceived]

/-- What the processor still has to do: a task is put into the queue, taken out of it and run. -/
def queueWork (s : MessageProcessor Kind Payload Message) : Nat :=
  3 * s.enqueuing.length + 2 * s.tasks.length + s.buffer.length

/-- `Enqueue` adds work for one task. -/
theorem queueWork_enqueue (s : MessageProcessor Kind Payload Message) (connectionId : Nat)
    (bytes : List UInt8) :
    (s.enqueue codec connectionId bytes).queueWork ≤ s.queueWork + 3 := by
  rcases enqueue_cases codec (s := s) connectionId bytes with heq | ⟨task, heq⟩
  · rw [heq]
    split
    · omega
    · show s.queueWork ≤ s.queueWork + 3
      omega
  · rw [heq]
    simp only [queueWork, List.length_append, List.length_singleton]
    omega

/-- A step of the processor takes work off the queue. -/
theorem queueWork_lt_of_step {op : ProcessorOp} (hop : op = .emplace 0 ∨ op = .swap ∨ op = .run)
    {s s' : MessageProcessor Kind Payload Message} (hs : s.step codec op = some s') :
    s'.queueWork < s.queueWork := by
  rcases hop with rfl | rfl | rfl
  · obtain ⟨⟨input, task⟩, hget, rfl⟩ := Option.map_eq_some_iff.mp hs
    have hlt := (List.getElem?_eq_some_iff.mp hget).1
    have hlength := List.length_eraseIdx_of_lt hlt
    show (MessageProcessor.emplace _ input task).queueWork < _
    -- After `Stop` the task is dropped, and otherwise it moves into the queue.
    unfold emplace
    split
    · simp only [queueWork, hlength]
      omega
    · simp only [queueWork, hlength, List.length_append, List.length_singleton]
      omega
  · simp only [step, Option.ite_none_right_eq_some] at hs
    obtain ⟨⟨hbuffer, -, htasks⟩, hs⟩ := hs
    obtain rfl := Option.some.inj hs
    have hpos : 0 < s.tasks.length := by
      rw [List.isEmpty_iff] at htasks
      exact List.length_pos_iff.mpr htasks
    -- The buffer was empty: the swap moves the whole queue.
    have hzero : s.buffer.length = 0 := by
      rw [List.isEmpty_iff.mp hbuffer]
      rfl
    simp only [queueWork, hzero, List.length_nil]
    omega
  · cases hbuffer : s.buffer with
    | nil => simp [step, hbuffer] at hs
    | cons task rest =>
      simp only [step, hbuffer, Option.some.injEq] at hs
      subst hs
      unfold runTask
      split <;>
        · simp only [queueWork, hbuffer, List.length_cons]
          omega

end MessageProcessor

/-! ### The seams -/

/-- What a list of at most one element holds. -/
theorem eq_of_getElem?_of_length_le {α : Type} {l : List α} {i : Nat} {a : α} (h : l.length ≤ 1)
    (hget : l[i]? = some a) : i = 0 ∧ l = [a] := by
  obtain ⟨hi, ha⟩ := List.getElem?_eq_some_iff.mp hget
  have hzero : i = 0 := by omega
  obtain ⟨b, rfl⟩ := List.length_eq_one_iff.mp (show l.length = 1 by omega)
  subst hzero
  exact ⟨rfl, by rw [← ha]; rfl⟩

namespace Transport

variable {json : JsonLibrary} {connectionId : Nat} {s s' : Transport}

/-- A message that may be sent: its numbers are in the ranges of their types, the JSON library
reads back what it writes, and the length of the text fits into the header. Its `SendBytes` does
not fall between a pop and the completion of the write. -/
def Sendable (json : JsonLibrary) (s : Transport) : TransportOp → Prop
  | .send m => m.InRange ∧
      json.parse (json.dump (JsonNetworkCodec.envelope m)) = some (JsonNetworkCodec.envelope m) ∧
      FitsHeader (JsonNetworkCodec.encode json m) ∧
      s.sendSide.IdleStep (.sendBytes (JsonNetworkCodec.encode json m))
  | _ => True

/-- What holds at the seams between the stages. -/
structure TransportInv (json : JsonLibrary) (connectionId : Nat) (s : Transport) : Prop where
  sendSide : sends.Reachable Connection.IdleStep s.sendSide
  enqueued : s.sendSide.enqueued
    = s.sent.map fun m => frame (JsonNetworkCodec.encode json m)
  unsent : s.unsent.length = s.sendSide.outstanding.length
  /-- What has arrived, what is on the wire and what the writes have left is what was passed on. -/
  bytes : s.readSide.arrived ++ s.wire ++ s.unsent.flatten = s.sendSide.handed.flatten
  readSide : s.readSide.UpToError
  processor : (processing (jsonNetworkCodec json)).Reachable Lts.anyStep s.processor
  /-- There is one io thread. -/
  single : s.processor.enqueuing.length ≤ 1
  inputs : s.processor.inputs <+: s.readSide.payloads.map (connectionId, ·)
  /-- Until `Stop` nothing is lost between `OnReceive` and the queue. -/
  all : s.processor.stopped = false → s.processor.inputs ++ s.processor.enqueuing.map Prod.fst
    = s.readSide.payloads.map (connectionId, ·)
  sendable : ∀ m ∈ s.sent, m.InRange ∧
    json.parse (json.dump (JsonNetworkCodec.envelope m)) = some (JsonNetworkCodec.envelope m) ∧
    FitsHeader (JsonNetworkCodec.encode json m)

namespace TransportInv

/-- At most one write is outstanding. -/
theorem unsent_le (h : TransportInv json connectionId s) :
    s.unsent.length + s.sendSide.popped.length ≤ 1 := by
  have hsingle := (Connection.sendInv_reachable h.sendSide).single
  unfold Connection.active at hsingle
  rw [h.unsent]
  omega

/-- The outstanding write that a step chooses is the only one. -/
theorem unsent_eq (h : TransportInv json connectionId s) {i : Nat} {bytes : List UInt8}
    (hget : s.unsent[i]? = some bytes) : i = 0 ∧ s.unsent = [bytes] := by
  have hle := h.unsent_le
  exact eq_of_getElem?_of_length_le (by omega) hget

/-- A step of the send side alone that passes nothing on. -/
theorem of_sendSide (h : TransportInv json connectionId s) {sendSide : Connection}
    (hreach : sends.Reachable Connection.IdleStep sendSide)
    (henqueued : sendSide.enqueued = s.sendSide.enqueued)
    (houtstanding : sendSide.outstanding = s.sendSide.outstanding)
    (hhanded : sendSide.handed = s.sendSide.handed) :
    TransportInv json connectionId { s with sendSide } where
  sendSide := hreach
  enqueued := henqueued.trans h.enqueued
  unsent := by rw [h.unsent, houtstanding]
  bytes := by rw [hhanded]; exact h.bytes
  readSide := h.readSide
  processor := h.processor
  single := h.single
  inputs := h.inputs
  all := h.all
  sendable := h.sendable

/-- A message enters the queue of the sender. -/
theorem send (h : TransportInv json connectionId s) {m : Message}
    (hok : Sendable json s (.send m)) :
    TransportInv json connectionId { s with
      sendSide := s.sendSide.sendBytes (JsonNetworkCodec.encode json m)
      sent := s.sent ++ [m] } := by
  obtain ⟨hrange, hparse, hfits, hidle⟩ := hok
  have hreach : sends.Reachable Connection.IdleStep
      (s.sendSide.sendBytes (JsonNetworkCodec.encode json m)) :=
    .step (l := .sendBytes _) h.sendSide hidle rfl
  have hfields : (s.sendSide.sendBytes (JsonNetworkCodec.encode json m)).enqueued
        = s.sendSide.enqueued ++ [frame (JsonNetworkCodec.encode json m)] ∧
      (s.sendSide.sendBytes (JsonNetworkCodec.encode json m)).outstanding = s.sendSide.outstanding ∧
      (s.sendSide.sendBytes (JsonNetworkCodec.encode json m)).handed = s.sendSide.handed := by
    unfold Connection.sendBytes
    simp only
    split <;> exact ⟨rfl, rfl, rfl⟩
  obtain ⟨henqueued, houtstanding, hhanded⟩ := hfields
  refine ⟨hreach, ?_, by rw [h.unsent, ← houtstanding], by rw [hhanded]; exact h.bytes, h.readSide,
    h.processor, h.single, h.inputs, h.all, fun m' hm' => ?_⟩
  · rw [henqueued, h.enqueued, List.map_append]
    rfl
  · rcases List.mem_append.mp hm' with hm' | hm'
    · exact h.sendable m' hm'
    · rw [List.mem_singleton.mp hm']
      exact ⟨hrange, hparse, hfits⟩

/-- The popped frame becomes the outstanding write. There is no other one. -/
theorem asyncWrite (h : TransportInv json connectionId s) {i : Nat} {bytes : List UInt8}
    {sendSide : Connection} (hpopped : s.sendSide.popped[i]? = some bytes)
    (hs : s.sendSide.step (.asyncWrite i) = some sendSide) :
    TransportInv json connectionId { s with sendSide, unsent := s.unsent ++ [bytes] } := by
  have hreach : sends.Reachable Connection.IdleStep sendSide :=
    .step (l := .asyncWrite i) h.sendSide trivial hs
  have hnil : s.unsent = [] := by
    have hle := h.unsent_le
    have hpos : 0 < s.sendSide.popped.length :=
      Nat.lt_of_le_of_lt (Nat.zero_le i) (List.getElem?_eq_some_iff.mp hpopped).1
    exact List.length_eq_zero_iff.mp (by omega)
  simp only [Connection.step, hpopped, Option.map_some, Option.some.injEq] at hs
  subst hs
  have hbytes := h.bytes
  rw [hnil, List.flatten_nil, List.append_nil] at hbytes
  refine ⟨hreach, h.enqueued, ?_, ?_, h.readSide, h.processor, h.single, h.inputs, h.all,
    h.sendable⟩
  · simp [h.unsent]
  · simp [hnil, ← hbytes]

/-- Bytes move from the outstanding write to the wire. -/
theorem transmit (h : TransportInv json connectionId s) {i : Nat} {bytes : List UInt8}
    (n : Nat) (hget : s.unsent[i]? = some bytes) :
    TransportInv json connectionId { s with
      unsent := s.unsent.set i (bytes.drop n)
      wire := s.wire ++ bytes.take n } := by
  obtain ⟨rfl, hunsent⟩ := h.unsent_eq hget
  have hbytes := h.bytes
  rw [hunsent] at hbytes
  refine ⟨h.sendSide, h.enqueued, ?_, ?_, h.readSide, h.processor, h.single, h.inputs, h.all,
    h.sendable⟩
  · simp [h.unsent]
  · simpa [hunsent] using hbytes

/-- The completed write has nothing left. -/
theorem writeComplete (h : TransportInv json connectionId s) {i : Nat} {sendSide : Connection}
    (hget : s.unsent[i]? = some []) (hs : s.sendSide.step (.complete i) = some sendSide) :
    TransportInv json connectionId { s with sendSide, unsent := s.unsent.eraseIdx i } := by
  have hreach : sends.Reachable Connection.IdleStep sendSide :=
    .step (l := .complete i) h.sendSide trivial hs
  obtain ⟨rfl, hunsent⟩ := h.unsent_eq hget
  simp only [Connection.step] at hs
  split at hs
  · rename_i hlt
    cases hs
    have hbytes := h.bytes
    have hlength := h.unsent
    rw [hunsent] at hbytes hlength
    refine ⟨hreach, h.enqueued, ?_, ?_, h.readSide, h.processor, h.single, h.inputs, h.all,
      h.sendable⟩
    · simp [hunsent, ← hlength]
    · simpa [hunsent] using hbytes
  · cases hs

/-- Bytes move from the wire to the read side. -/
theorem arrive (h : TransportInv json connectionId s) (n : Nat) :
    TransportInv json connectionId { s with
      readSide := { s.readSide with
        buffered := s.readSide.buffered ++ s.wire.take n
        arrived := s.readSide.arrived ++ s.wire.take n }
      wire := s.wire.drop n } := by
  refine ⟨h.sendSide, h.enqueued, h.unsent, ?_,
    ReadRun.upToError_step (l := .arrive (s.wire.take n)) h.readSide rfl, h.processor, h.single,
    h.inputs, h.all, h.sendable⟩
  rw [← h.bytes]
  simp

/-- A completion handler of the read side, with the call of `ReceiveMessage` that it makes. -/
theorem readHandler (h : TransportInv json connectionId s)
    {result : Option (ReadLoop × List ConnectionEvent)}
    (hresult : (∃ movedFrom, result = s.readSide.toReadLoop.complete movedFrom) ∨
      result = s.readSide.toReadLoop.fail)
    (hs : s.readHandler json connectionId result = some s') :
    TransportInv json connectionId s' := by
  unfold Transport.readHandler at hs
  split at hs
  · rename_i hidle
    obtain ⟨result, rfl, rfl⟩ := Option.map_eq_some_iff.mp hs
    have hnil : s.processor.enqueuing = [] := List.isEmpty_iff.mp hidle
    have hhandler : (∃ movedFrom, s.readSide.toReadLoop.complete movedFrom = some result) ∨
        s.readSide.toReadLoop.fail = some result := by
      rcases hresult with ⟨movedFrom, hresult⟩ | hresult
      · exact .inl ⟨movedFrom, hresult.symm⟩
      · exact .inr hresult.symm
    have hread : (s.readSide.handled result).UpToError := by
      rcases hhandler with ⟨movedFrom, hcomplete⟩ | hfail
      · refine ReadRun.upToError_step (l := .complete movedFrom) h.readSide ?_
        exact congrArg (Option.map s.readSide.handled) hcomplete
      · exact ReadRun.upToError_step (l := .fail) h.readSide
          (congrArg (Option.map s.readSide.handled) hfail)
    have hall := h.all
    rw [hnil, List.map_nil, List.append_nil] at hall
    -- Without a payload the processor stays as it is.
    have hquiet : (s.readSide.handled result).payloads = s.readSide.payloads →
        TransportInv json connectionId { s with readSide := s.readSide.handled result } := by
      intro hpayloads
      refine ⟨h.sendSide, h.enqueued, h.unsent, h.bytes, hread, h.processor, h.single, ?_, ?_,
        h.sendable⟩
      · rw [hpayloads]
        exact h.inputs
      · rw [hpayloads, hnil, List.map_nil, List.append_nil]
        exact hall
    unfold Transport.receive
    rcases ReadLoop.events_cases hhandler with hevents | ⟨bytes, hevents⟩ | hevents
    · have hsame : (s.readSide.handled result).payloads = s.readSide.payloads := by
        rw [ReadRun.payloads_append, hevents]
        exact List.append_nil _
      rw [hevents]
      exact hquiet hsame
    · have hmap : (s.readSide.handled result).payloads.map (connectionId, ·)
          = s.readSide.payloads.map (connectionId, ·) ++ [(connectionId, bytes)] := by
        rw [ReadRun.payloads_append, hevents, List.map_append]
        rfl
      obtain ⟨hsingle, hinputs, hstarted⟩ := MessageProcessor.enqueue_single
        (jsonNetworkCodec json) hnil h.inputs hall connectionId bytes
      rw [hevents]
      refine ⟨h.sendSide, h.enqueued, h.unsent, h.bytes, hread,
        .step (l := .enqueue connectionId bytes) h.processor trivial rfl, hsingle, ?_, ?_,
        h.sendable⟩
      · rw [hmap]
        exact hinputs
      · rw [hmap]
        exact hstarted
    · have hsame : (s.readSide.handled result).payloads = s.readSide.payloads := by
        rw [ReadRun.payloads_append, hevents]
        exact List.append_nil _
      rw [hevents]
      exact hquiet hsame
  · cases hs

/-- A step of the processor that takes no input in. -/
theorem of_processor (h : TransportInv json connectionId s) (op : ProcessorOp)
    {processor : MessageProcessor MessageType Json Message}
    (hs : s.processor.step (jsonNetworkCodec json) op = some processor)
    (henqueuing : processor.enqueuing = s.processor.enqueuing)
    (hinputs : processor.inputs = s.processor.inputs)
    (hstopped : processor.stopped = false → s.processor.stopped = false) :
    TransportInv json connectionId { s with processor } where
  sendSide := h.sendSide
  enqueued := h.enqueued
  unsent := h.unsent
  bytes := h.bytes
  readSide := h.readSide
  processor := .step (l := op) h.processor trivial hs
  single := by rw [henqueuing]; exact h.single
  inputs := by rw [hinputs]; exact h.inputs
  all := fun hrunning => by
    rw [henqueuing, hinputs]
    exact h.all (hstopped hrunning)
  sendable := h.sendable

/-- The io thread takes the lock of the queue. -/
theorem emplace (h : TransportInv json connectionId s)
    {processor : MessageProcessor MessageType Json Message}
    (hs : s.processor.step (jsonNetworkCodec json) (.emplace 0) = some processor) :
    TransportInv json connectionId { s with processor } := by
  have hreach : (processing (jsonNetworkCodec json)).Reachable Lts.anyStep processor :=
    .step (l := .emplace 0) h.processor trivial hs
  obtain ⟨⟨input, task⟩, hget, rfl⟩ := Option.map_eq_some_iff.mp hs
  have hsingle := (eq_of_getElem?_of_length_le h.single hget).2
  have hnil : s.processor.enqueuing.eraseIdx 0 = [] := by
    rw [hsingle]
    rfl
  rw [hnil] at hreach ⊢
  obtain ⟨henqueuing, hinputs, hall⟩ :=
    MessageProcessor.emplace_single hsingle h.inputs h.all
  refine ⟨h.sendSide, h.enqueued, h.unsent, h.bytes, h.readSide, hreach, ?_, hinputs, ?_,
    h.sendable⟩
  · rw [henqueuing]
    exact Nat.zero_le 1
  · intro hrunning
    rw [henqueuing, List.map_nil, List.append_nil]
    exact hall hrunning

/-- A step of the receiver's processor. -/
theorem process (h : TransportInv json connectionId s) {op : ProcessorOp}
    (hop : op = .emplace 0 ∨ op = .swap ∨ op = .run ∨ op = .stop)
    (hs : s.process json op = some s') : TransportInv json connectionId s' := by
  obtain ⟨processor, hprocessor, rfl⟩ := Option.map_eq_some_iff.mp hs
  rcases hop with rfl | rfl | rfl | rfl
  · exact h.emplace hprocessor
  · simp only [MessageProcessor.step] at hprocessor
    split at hprocessor
    · rename_i hguard
      cases hprocessor
      exact h.of_processor .swap (if_pos hguard) rfl rfl id
    · cases hprocessor
  · have hrun := hprocessor
    simp only [MessageProcessor.step] at hprocessor
    split at hprocessor
    · cases hprocessor
    · rename_i task rest hbuffer
      cases hprocessor
      have hfields : ({ s.processor with buffer := rest }.runTask (jsonNetworkCodec json)
            task).enqueuing = s.processor.enqueuing ∧
          ({ s.processor with buffer := rest }.runTask (jsonNetworkCodec json) task).inputs
            = s.processor.inputs ∧
          ({ s.processor with buffer := rest }.runTask (jsonNetworkCodec json) task).stopped
            = s.processor.stopped := by
        unfold MessageProcessor.runTask
        split <;> exact ⟨rfl, rfl, rfl⟩
      exact h.of_processor .run hrun hfields.1 hfields.2.1 fun hstopped => by
        rw [← hfields.2.2]
        exact hstopped
  · cases hprocessor
    exact h.of_processor .stop rfl rfl rfl fun hstopped => absurd hstopped (by simp)

end TransportInv

/-- A step keeps the invariant. -/
theorem transportInv_step {l : TransportOp} (h : TransportInv json connectionId s)
    (hok : Sendable json s l) (hs : s.step json connectionId l = some s') :
    TransportInv json connectionId s' := by
  cases l with
  | send m =>
    cases hs
    exact h.send hok
  | sendNext =>
    obtain ⟨sendSide, hsend, rfl⟩ := Option.map_eq_some_iff.mp hs
    have hreach : sends.Reachable Connection.IdleStep sendSide :=
      .step (l := .sendNext) h.sendSide trivial hsend
    simp only [Connection.step] at hsend
    split at hsend
    · cases hsend
    · cases hsend
      -- The pop touches neither the writes nor what was enqueued.
      refine h.of_sendSide hreach ?_ ?_ ?_
      all_goals
        unfold Connection.sendNext
        simp only
        split <;> rfl
  | asyncWrite i =>
    obtain ⟨bytes, hpopped, hs⟩ := Option.bind_eq_some_iff.mp hs
    obtain ⟨sendSide, hsend, rfl⟩ := Option.map_eq_some_iff.mp hs
    exact h.asyncWrite hpopped hsend
  | transmit i n =>
    obtain ⟨bytes, hget, hs⟩ := Option.bind_eq_some_iff.mp hs
    split at hs
    · cases hs
      exact h.transmit n hget
    · cases hs
  | writeComplete i =>
    simp only [step] at hs
    split at hs
    · rename_i hget
      obtain ⟨sendSide, hsend, rfl⟩ := Option.map_eq_some_iff.mp hs
      exact h.writeComplete hget hsend
    · cases hs
  | arrive n =>
    simp only [step] at hs
    split at hs
    · cases hs
      exact h.arrive n
    · cases hs
  | readComplete movedFrom => exact h.readHandler (.inl ⟨movedFrom, rfl⟩) hs
  | readError => exact h.readHandler (.inr rfl) hs
  | emplace => exact h.process (.inl rfl) hs
  | swap => exact h.process (.inr (.inl rfl)) hs
  | run => exact h.process (.inr (.inr (.inl rfl))) hs
  | stop => exact h.process (.inr (.inr (.inr rfl))) hs

/-- The invariant holds in every such run. -/
theorem transportInv_reachable
    (h : (transport json connectionId).Reachable (Sendable json) s) :
    TransportInv json connectionId s := by
  refine h.invariant (I := TransportInv json connectionId) ?_
    fun s l s' hinv hok hs => transportInv_step hinv hok hs
  rintro s rfl
  exact ⟨.start rfl, rfl, rfl, rfl, ⟨{}, .start rfl, rfl, List.prefix_rfl, .inr rfl⟩, .start rfl,
    Nat.zero_le 1, List.prefix_rfl, fun _ => rfl, fun _ hm => absurd hm List.not_mem_nil⟩

/-! ### From end to end -/

/-- The receiver reads an encoded message as the message with its channel ids zeroed. -/
theorem receive_encode {m : Message} (hempty : json.parse [] = none) (hrange : m.InRange)
    (hparse : json.parse (json.dump (JsonNetworkCodec.envelope m))
      = some (JsonNetworkCodec.envelope m)) :
    (jsonNetworkCodec json).receive (connectionId, JsonNetworkCodec.encode json m)
      = some (connectionId, m.received) := by
  have htype : m.type ∈ messageTypes := by
    cases m.type <;> decide
  exact receive_json_eq_some.mpr ⟨rfl, m.type, htype, m.toJson,
    JsonNetworkCodec.decodeEnvelope_encode hempty hparse, Message.fromJson_toJson hrange⟩

/-- The payloads that the receiver cuts out of its bytes are the first of the encoded messages. -/
theorem TransportInv.payloads (h : TransportInv json connectionId s) :
    s.readSide.payloads <+: s.sent.map (JsonNetworkCodec.encode json) := by
  obtain ⟨rest, hsplit⟩ := h.readSide.split
  have hstream : s.readSide.arrived
      <+: (s.sent.map (JsonNetworkCodec.encode json)).flatMap frame := by
    have horder := (Connection.sendInv_reachable h.sendSide).order
    rw [h.enqueued, List.append_assoc] at horder
    have hall := congrArg List.flatten horder
    rw [List.flatten_append, ← h.bytes, List.append_assoc, List.append_assoc] at hall
    rw [List.flatMap_def, List.map_map]
    exact ⟨_, hall⟩
  refine payloads_isPrefix hsplit (fun p hp => ?_) hstream
  obtain ⟨m, hm, rfl⟩ := List.mem_map.mp hp
  exact (h.sendable m hm).2.2

/-- What the payloads of the sent messages decode to. -/
theorem TransportInv.filterMap_receive (h : TransportInv json connectionId s)
    (hempty : json.parse [] = none) :
    ((s.sent.map (JsonNetworkCodec.encode json)).map (connectionId, ·)).filterMap
        (jsonNetworkCodec json).receive
      = s.sent.map fun m => (connectionId, m.received) := by
  rw [List.map_map, List.filterMap_map]
  have hall : ∀ m ∈ s.sent, ((jsonNetworkCodec json).receive ∘ (connectionId, ·) ∘
      JsonNetworkCodec.encode json) m = some (connectionId, m.received) := fun m hm =>
    receive_encode hempty (h.sendable m hm).1 (h.sendable m hm).2.1
  rw [List.filterMap_congr hall]
  exact congrFun List.filterMap_eq_map' s.sent

/-- Whatever the threads and the network do, the messages that the receiver has handled are the
first of the sent messages: none is lost in front of another one, none comes twice, and each comes
whole. This also holds after a read error and after a `Stop`. -/
theorem handled_in_sent_order (hempty : json.parse [] = none)
    (h : (transport json connectionId).Reachable (Sendable json) s) :
    s.processor.handled <+: s.sent.map fun m => (connectionId, m.received) := by
  have hinv := transportInv_reachable h
  have horder : s.processor.handled
      <+: s.processor.inputs.filterMap (jsonNetworkCodec json).receive :=
    ⟨_, (MessageProcessor.ordered_reachable hinv.processor).order⟩
  have hinputs : s.processor.inputs
      <+: (s.sent.map (JsonNetworkCodec.encode json)).map (connectionId, ·) :=
    hinv.inputs.trans (hinv.payloads.map _)
  rw [← hinv.filterMap_receive hempty]
  exact horder.trans (hinputs.filterMap _)

/-- `WriteChatMessage`s with the content `hi`, at the moments that `Sendable` allows. -/
def Writes (s : Transport) : TransportOp → Prop
  | .send m => m = .writeChat ⟨"hi"⟩ ∧
      s.sendSide.IdleStep (.sendBytes JsonNetworkCodec.writeChatText)
  | .readError | .stop => False
  | _ => True

instance : DecidableRel Writes := fun _ l =>
  match l with
  | .send _ => inferInstanceAs (Decidable (_ ∧ _))
  | .readError | .stop => inferInstanceAs (Decidable False)
  | .sendNext | .asyncWrite _ | .transmit _ _ | .writeComplete _ | .arrive _ | .readComplete _
  | .emplace | .swap | .run => inferInstanceAs (Decidable True)

/-- The first message is written and handled. The second one is on the wire with three bytes. -/
def writesTwice : List TransportOp :=
  [.send (.writeChat ⟨"hi"⟩), .sendNext, .asyncWrite 0, .transmit 0 40, .arrive 3, .transmit 0 6,
    .writeComplete 0, .sendNext, .arrive 43, .readComplete [], .send (.writeChat ⟨"hi"⟩),
    .sendNext, .readComplete [9], .asyncWrite 0, .emplace, .transmit 0 3, .swap, .run]

/-- The messages of `Writes` may be sent. -/
theorem sendable_of_writes {l : TransportOp} (h : Writes s l) :
    Sendable (JsonNetworkCodec.libraryFor (.writeChat ⟨"hi"⟩) JsonNetworkCodec.writeChatText)
      s l := by
  cases l with
  | send m =>
    obtain ⟨rfl, hidle⟩ := h
    exact ⟨trivial, rfl, (by decide : JsonNetworkCodec.writeChatText.length < 2 ^ 32), hidle⟩
  | _ => trivial

/-- The second of two messages has arrived in part. -/
theorem handled_in_sent_order_partial :
    let json := JsonNetworkCodec.libraryFor (.writeChat ⟨"hi"⟩) JsonNetworkCodec.writeChatText
    ∃ s, (transport json 7).Reachable (Sendable json) s ∧ s.sent.length = 2 ∧ s.wire.length = 3 ∧
      s.processor.handled = [(7, .writeChat ⟨"hi"⟩)] ∧
      s.processor.handled <+: s.sent.map fun m => (7, m.received) := by
  intro json
  have hstart : (transport json 7).Reachable Writes {} := .start rfl
  obtain ⟨s, hreach, hsent, hwire, hhandled⟩ := hstart.exists_of_exec writesTwice
    (fun s => s.sent.length = 2 ∧ s.wire.length = 3 ∧
      s.processor.handled = [(7, .writeChat ⟨"hi"⟩)]) (by decide)
  have hreach' := hreach.mono fun _ _ => sendable_of_writes
  exact ⟨s, hreach', hsent, hwire, hhandled, handled_in_sent_order rfl hreach'⟩

/-! ### Nothing gets stuck -/

/-- The steps of a run without a `Stop` and a read error, whose messages fit into frames. -/
def Delivering (json : JsonLibrary) (s : Transport) (l : TransportOp) : Prop :=
  Sendable json s l ∧
    match l with
    | .send m => Fits (JsonNetworkCodec.encode json m)
    | .readError | .stop => False
    | _ => True

/-- The steps that carry on what was sent. -/
def Internal : TransportOp → Prop
  | .send _ | .readError | .stop => False
  | _ => True

/-- The internal steps disturb nothing. -/
theorem delivering_of_internal {l : TransportOp} (h : Internal l) : Delivering json s l := by
  cases l with
  | send | readError | stop => exact absurd h id
  | _ => exact ⟨trivial, trivial⟩

/-- What a run of `Delivering` steps has besides `TransportInv`. -/
structure Undisturbed (json : JsonLibrary) (s : Transport) : Prop where
  readSide : reads.Reachable NoReadError s.readSide
  running : s.processor.stopped = false
  fits : ∀ m ∈ s.sent, Fits (JsonNetworkCodec.encode json m)

/-- `Enqueue` before its lock stops nothing. -/
theorem enqueue_stopped {processor : MessageProcessor MessageType Json Message}
    (bytes : List UInt8) :
    (processor.enqueue (jsonNetworkCodec json) connectionId bytes).stopped
      = processor.stopped := by
  rcases MessageProcessor.enqueue_cases (jsonNetworkCodec json) (s := processor)
    connectionId bytes with heq | ⟨task, heq⟩
  · rw [heq]
    split <;> rfl
  · rw [heq]

/-- A payload that is received stops nothing. -/
theorem receive_stopped (events : List ConnectionEvent) :
    (s.receive json connectionId events).processor.stopped = s.processor.stopped := by
  unfold receive
  show (events.foldl _ s.processor).stopped = s.processor.stopped
  induction events generalizing s with
  | nil => rfl
  | cons event events ih =>
    rw [List.foldl_cons]
    cases event with
    | received bytes =>
      have hrest := ih (s := { s with
        processor := s.processor.enqueue (jsonNetworkCodec json) connectionId bytes })
      exact hrest.trans (enqueue_stopped bytes)
    | disconnected => exact ih

/-- A step of the processor stops nothing. -/
theorem processor_stopped {processor processor' : MessageProcessor MessageType Json Message}
    {op : ProcessorOp} (hop : op = .emplace 0 ∨ op = .swap ∨ op = .run)
    (hs : processor.step (jsonNetworkCodec json) op = some processor') :
    processor'.stopped = processor.stopped := by
  rcases hop with rfl | rfl | rfl
  · obtain ⟨⟨input, task⟩, -, rfl⟩ := Option.map_eq_some_iff.mp hs
    show (MessageProcessor.emplace _ input task).stopped = _
    unfold MessageProcessor.emplace
    split <;> rfl
  · simp only [MessageProcessor.step] at hs
    split at hs
    · cases hs
      rfl
    · cases hs
  · simp only [MessageProcessor.step] at hs
    split at hs
    · cases hs
    · cases hs
      unfold MessageProcessor.runTask
      split <;> rfl

/-- A step of the processor keeps the run undisturbed. -/
theorem undisturbed_process {op : ProcessorOp} (h : Undisturbed json s)
    (hop : op = .emplace 0 ∨ op = .swap ∨ op = .run) (hs : s.process json op = some s') :
    Undisturbed json s' := by
  obtain ⟨processor, hprocessor, rfl⟩ := Option.map_eq_some_iff.mp hs
  exact ⟨h.readSide, (processor_stopped hop hprocessor).trans h.running, h.fits⟩

/-- A step keeps the run undisturbed. -/
theorem undisturbed_step {l : TransportOp} (h : Undisturbed json s) (hok : Delivering json s l)
    (hs : s.step json connectionId l = some s') : Undisturbed json s' := by
  cases l with
  | readError | stop => exact absurd hok.2 id
  | send m =>
    cases hs
    refine ⟨h.readSide, h.running, fun m' hm' => ?_⟩
    rcases List.mem_append.mp hm' with hm' | hm'
    · exact h.fits m' hm'
    · rw [List.mem_singleton.mp hm']
      exact hok.2
  | sendNext =>
    obtain ⟨sendSide, -, rfl⟩ := Option.map_eq_some_iff.mp hs
    exact ⟨h.readSide, h.running, h.fits⟩
  | asyncWrite i =>
    obtain ⟨bytes, -, hs⟩ := Option.bind_eq_some_iff.mp hs
    obtain ⟨sendSide, -, rfl⟩ := Option.map_eq_some_iff.mp hs
    exact ⟨h.readSide, h.running, h.fits⟩
  | transmit i n =>
    obtain ⟨bytes, -, hs⟩ := Option.bind_eq_some_iff.mp hs
    split at hs
    · cases hs
      exact ⟨h.readSide, h.running, h.fits⟩
    · cases hs
  | writeComplete i =>
    simp only [step] at hs
    split at hs
    · obtain ⟨sendSide, -, rfl⟩ := Option.map_eq_some_iff.mp hs
      exact ⟨h.readSide, h.running, h.fits⟩
    · cases hs
  | arrive n =>
    simp only [step] at hs
    split at hs
    · cases hs
      exact ⟨.step (l := .arrive (s.wire.take n)) h.readSide trivial rfl, h.running, h.fits⟩
    · cases hs
  | readComplete movedFrom =>
    simp only [step, readHandler] at hs
    split at hs
    · obtain ⟨result, hresult, rfl⟩ := Option.map_eq_some_iff.mp hs
      refine ⟨?_, (receive_stopped _).trans h.running, h.fits⟩
      -- The read side is that of `ReadLoop`, and a completion is no error.
      exact .step (l := .complete movedFrom) h.readSide trivial
        (congrArg (Option.map s.readSide.handled) hresult)
    · cases hs
  | emplace => exact undisturbed_process h (.inl rfl) hs
  | swap => exact undisturbed_process h (.inr (.inl rfl)) hs
  | run => exact undisturbed_process h (.inr (.inr rfl)) hs

/-- Such a run is undisturbed. -/
theorem undisturbed_reachable
    (h : (transport json connectionId).Reachable (Delivering json) s) : Undisturbed json s := by
  refine h.invariant (I := Undisturbed json) ?_
    fun s l s' hinv hok hs => undisturbed_step hinv hok hs
  rintro s rfl
  exact ⟨.start rfl, rfl, fun _ hm => absurd hm List.not_mem_nil⟩

/-- A bound on the internal steps: each byte and each frame loses weight on its way. -/
def work (s : Transport) : Nat :=
  6 * s.sendSide.outgoingBytes.length + 4 * s.sendSide.outgoingBytes.flatten.length
    + s.sendSide.sendNextCalls
    + 4 * s.sendSide.popped.length + 4 * s.sendSide.popped.flatten.length
    + 2 * s.sendSide.outstanding.length + 4 * s.unsent.flatten.length
    + 3 * s.wire.length
    + 2 * s.readSide.buffered.length + (if s.readSide.reading = .body then 4 else 0)
    + 3 * s.processor.enqueuing.length + 2 * s.processor.tasks.length + s.processor.buffer.length

/-- The completion handlers of the reads take weight off, also with the call of `ReceiveMessage`. -/
theorem work_lt_of_readComplete {movedFrom : List UInt8}
    (hs : s.step json connectionId (.readComplete movedFrom) = some s') : s'.work < s.work := by
  simp only [step, readHandler] at hs
  split at hs
  · obtain ⟨result, hresult, rfl⟩ := Option.map_eq_some_iff.mp hs
    unfold ReadLoop.complete at hresult
    cases hreading : s.readSide.reading with
    | stopped => simp [hreading] at hresult
    | header =>
      simp only [hreading] at hresult
      split at hresult
      · cases hresult
      · split at hresult
        all_goals
          cases hresult
          simp only [work, receive, ReadRun.handled, List.foldl_cons, List.foldl_nil,
            List.length_drop, hreading, reduceCtorEq, if_true, if_false]
          omega
    | body =>
      simp only [hreading] at hresult
      split at hresult
      · cases hresult
      · cases hresult
        -- The payload is in `Enqueue` now, or it was dropped.
        have hqueue := s.processor.queueWork_enqueue (jsonNetworkCodec json) connectionId
          (s.readSide.buffered.take s.readSide.incomingBytesBuffer.length)
        simp only [MessageProcessor.queueWork] at hqueue
        simp only [work, receive, ReadRun.handled, List.foldl_cons, List.foldl_nil,
          List.length_drop, hreading, reduceCtorEq, if_true, if_false]
        omega
  · cases hs

/-- A step of the processor is progress. -/
theorem work_lt_of_process {op : ProcessorOp} (hop : op = .emplace 0 ∨ op = .swap ∨ op = .run)
    (hs : s.process json op = some s') : s'.work < s.work := by
  obtain ⟨processor, hprocessor, rfl⟩ := Option.map_eq_some_iff.mp hs
  have hqueue := MessageProcessor.queueWork_lt_of_step (jsonNetworkCodec json) hop hprocessor
  simp only [MessageProcessor.queueWork] at hqueue
  simp only [work]
  omega

/-- Every internal step takes weight off. -/
theorem work_lt_of_step {l : TransportOp} (h : TransportInv json connectionId s) (hl : Internal l)
    (hs : s.step json connectionId l = some s') : s'.sent = s.sent ∧ s'.work < s.work := by
  cases l with
  | send | readError | stop => exact absurd hl id
  | sendNext =>
    obtain ⟨sendSide, hsend, rfl⟩ := Option.map_eq_some_iff.mp hs
    refine ⟨rfl, ?_⟩
    simp only [Connection.step] at hsend
    split at hsend
    · cases hsend
    · rename_i calls hcalls
      cases hsend
      unfold Connection.sendNext
      simp only
      split
      · simp only [work, hcalls]
        omega
      · -- `SendNext` moves a payload from the queue into `popped`, where it counts less.
        rename_i bytes rest hqueue
        simp only [work, hcalls, hqueue, List.length_cons, List.flatten_cons, List.flatten_append,
          List.length_append, List.length_nil, List.flatten_nil]
        omega
  | asyncWrite i =>
    obtain ⟨bytes, hpopped, hs⟩ := Option.bind_eq_some_iff.mp hs
    obtain ⟨sendSide, hsend, rfl⟩ := Option.map_eq_some_iff.mp hs
    refine ⟨rfl, ?_⟩
    simp only [Connection.step, hpopped, Option.map_some, Option.some.injEq] at hsend
    subst hsend
    have hle := h.unsent_le
    -- At most one write is on its way, so `i` is `0`.
    obtain ⟨rfl, hlist⟩ := eq_of_getElem?_of_length_le (by omega) hpopped
    simp only [work, hlist, List.eraseIdx_cons_zero, List.length_append, List.length_cons,
      List.length_nil, List.flatten_append, List.flatten_cons, List.flatten_nil]
    omega
  | transmit i n =>
    obtain ⟨bytes, hget, hs⟩ := Option.bind_eq_some_iff.mp hs
    obtain ⟨rfl, hunsent⟩ := h.unsent_eq hget
    split at hs
    · rename_i hn
      cases hs
      refine ⟨rfl, ?_⟩
      simp only [work, hunsent, List.set_cons_zero, List.flatten_cons, List.flatten_nil,
        List.length_append, List.length_nil, List.length_drop, List.length_take]
      omega
    · cases hs
  | writeComplete i =>
    simp only [step] at hs
    split at hs
    · rename_i hget
      obtain ⟨rfl, hunsent⟩ := h.unsent_eq hget
      obtain ⟨sendSide, hsend, rfl⟩ := Option.map_eq_some_iff.mp hs
      refine ⟨rfl, ?_⟩
      simp only [Connection.step] at hsend
      split at hsend
      · rename_i hlt
        cases hsend
        -- The completed write is gone and brings one call of `SendNext`.
        have hlength := List.length_eraseIdx_of_lt hlt
        simp only [work, hunsent, hlength, List.eraseIdx_cons_zero, List.flatten_cons,
          List.flatten_nil, List.append_nil, List.length_nil]
        omega
      · cases hsend
    · cases hs
  | arrive n =>
    simp only [step] at hs
    split at hs
    · rename_i hn
      cases hs
      refine ⟨rfl, ?_⟩
      simp only [work, List.length_append, List.length_drop, List.length_take]
      omega
    · cases hs
  | readComplete movedFrom =>
    refine ⟨?_, work_lt_of_readComplete hs⟩
    simp only [step, readHandler] at hs
    split at hs
    · obtain ⟨result, -, rfl⟩ := Option.map_eq_some_iff.mp hs
      rfl
    · cases hs
  | emplace | swap | run =>
    refine ⟨?_, work_lt_of_process (by simp) hs⟩
    obtain ⟨processor, -, rfl⟩ := Option.map_eq_some_iff.mp hs
    rfl

/-- When no internal step is enabled, nothing is under way at any of the stages. -/
theorem handled_of_quiet (hempty : json.parse [] = none) (h : TransportInv json connectionId s)
    (hrun : Undisturbed json s) (hquiet : ∀ l, Internal l → s.step json connectionId l = none) :
    s.processor.handled = s.sent.map fun m => (connectionId, m.received) := by
  -- The send side is idle, so all frames were passed on and the wire has had all of their bytes.
  have hcalls : s.sendSide.sendNextCalls = 0 := by
    have hnone := hquiet .sendNext trivial
    cases hcount : s.sendSide.sendNextCalls with
    | zero => rfl
    | succ calls => simp [step, Connection.step, hcount] at hnone
  have hpopped : s.sendSide.popped = [] := by
    have hnone := hquiet (.asyncWrite 0) trivial
    cases hlist : s.sendSide.popped with
    | nil => rfl
    | cons bytes rest => simp [step, Connection.step, hlist] at hnone
  have hunsent : s.unsent = [] := by
    cases hlist : s.unsent with
    | nil => rfl
    | cons bytes rest =>
      cases bytes with
      | nil =>
        have hnone := hquiet (.writeComplete 0) trivial
        have hlength := h.unsent
        rw [hlist, List.length_cons] at hlength
        have hpos : 0 < s.sendSide.outstanding.length := by omega
        simp [step, Connection.step, hlist, hpos] at hnone
      | cons byte bytes =>
        have hnone := hquiet (.transmit 0 1) trivial
        simp [step, hlist] at hnone
  have houtstanding : s.sendSide.outstanding = [] := by
    have hlength := h.unsent
    rw [hunsent] at hlength
    exact List.length_eq_zero_iff.mp hlength.symm
  have hwire : s.wire = [] := by
    have hnone := hquiet (.arrive 1) trivial
    cases hlist : s.wire with
    | nil => rfl
    | cons byte rest => simp [step, ReadRun.step, hlist] at hnone
  have hqueue : s.sendSide.outgoingBytes = [] := by
    by_contra hne
    have hactive := (Connection.sendInv_reachable h.sendSide).served hne
    simp [Connection.active, hcalls, hpopped, houtstanding] at hactive
  have harrived : s.readSide.arrived
      = (s.sent.map (JsonNetworkCodec.encode json)).flatMap frame := by
    have horder := (Connection.sendInv_reachable h.sendSide).order
    rw [hpopped, hqueue, List.append_nil, List.append_nil] at horder
    have hbytes := h.bytes
    rw [hwire, hunsent, List.flatten_nil, List.append_nil, List.append_nil, horder,
      h.enqueued] at hbytes
    rw [hbytes, List.flatMap_def, List.map_map]
    rfl
  -- The read loop waits for bytes, so it has cut all of the stream.
  have henqueuing : s.processor.enqueuing = [] := by
    have hnone := hquiet .emplace trivial
    cases hlist : s.processor.enqueuing with
    | nil => rfl
    | cons e rest => simp [step, process, MessageProcessor.step, hlist] at hnone
  have hpayloads : s.readSide.payloads = s.sent.map (JsonNetworkCodec.encode json) := by
    have hread : s.readSide.Quiescent := fun movedFrom => by
      have hnone := hquiet (.readComplete movedFrom) trivial
      simpa [step, readHandler, henqueuing] using hnone
    obtain ⟨rest, hframed⟩ := ReadRun.framed_reachable hrun.readSide
    have hlongest := hframed.split.longest prefixFree_frame
      fun _ hfits => hframed.not_frame_of_quiescent hread hfits
    rw [harrived] at hlongest
    refine (hlongest.eq_of_flatMap prefixFree_frame fun p hp => ?_).1
    obtain ⟨m, hm, rfl⟩ := List.mem_map.mp hp
    exact hrun.fits m hm
  -- The processor has emptied its buffer and its queue.
  have hbuffer : s.processor.buffer = [] := by
    have hnone := hquiet .run trivial
    cases hlist : s.processor.buffer with
    | nil => rfl
    | cons task rest => simp [step, process, MessageProcessor.step, hlist] at hnone
  have htasks : s.processor.tasks = [] := by
    have hnone := hquiet .swap trivial
    cases hlist : s.processor.tasks with
    | nil => rfl
    | cons task rest =>
      simp [step, process, MessageProcessor.step, hlist, hbuffer, hrun.running] at hnone
  have hall := h.all hrun.running
  rw [henqueuing, List.map_nil, List.append_nil, hpayloads] at hall
  have horder := (MessageProcessor.ordered_reachable h.processor).order
  rw [hbuffer, htasks, List.append_nil, List.filterMap_nil, List.append_nil, hall,
    h.filterMap_receive hempty] at horder
  exact horder

/-- Without a `Stop` and a read error nothing gets stuck: the steps that carry on what was sent
take weight off, so they come to an end, and where none of them is enabled every sent message has
been handled. These steps alone lead from every state to such a state, without another `Send`. -/
theorem transport_delivers (hempty : json.parse [] = none)
    (h : (transport json connectionId).Reachable (Delivering json) s) :
    (∀ l s', Internal l → s.step json connectionId l = some s' →
      s'.sent = s.sent ∧ s'.work < s.work) ∧
    ((∀ l, Internal l → s.step json connectionId l = none) →
      s.processor.handled = s.sent.map fun m => (connectionId, m.received)) ∧
    ∃ s', (transport json connectionId).Leads Internal s s' ∧
      (transport json connectionId).Reachable (Delivering json) s' ∧ s'.sent = s.sent ∧
      s'.processor.handled = s.sent.map fun m => (connectionId, m.received) := by
  have hinv : ∀ {s}, (transport json connectionId).Reachable (Delivering json) s →
      TransportInv json connectionId s :=
    fun hreach => transportInv_reachable (hreach.mono fun _ _ hok => hok.1)
  refine ⟨fun l s' hl hs => work_lt_of_step (hinv h) hl hs,
    handled_of_quiet hempty (hinv h) (undisturbed_reachable h), ?_⟩
  obtain ⟨s', hleads, hreach, hsent, hquiet⟩ := h.exists_quiescent (p := Internal) work
    Transport.sent
    (fun s l hl => delivering_of_internal hl)
    fun s l s' hreach _ hl hs => work_lt_of_step (hinv hreach) hl hs
  refine ⟨s', hleads, hreach, hsent, ?_⟩
  rw [← hsent]
  exact handled_of_quiet hempty (hinv hreach) (undisturbed_reachable hreach) hquiet

/-- The second message of `writesTwice` is handled too. -/
theorem transport_delivers_twice :
    let json := JsonNetworkCodec.libraryFor (.writeChat ⟨"hi"⟩) JsonNetworkCodec.writeChatText
    ∃ s, (transport json 7).Reachable (Delivering json) s ∧
      s.processor.handled = [(7, .writeChat ⟨"hi"⟩), (7, .writeChat ⟨"hi"⟩)] := by
  intro json
  have hstart : (transport json 7).Reachable Writes {} := .start rfl
  obtain ⟨s, hreach, hsent⟩ := hstart.exists_of_exec writesTwice
    (fun s => s.sent = [.writeChat ⟨"hi"⟩, .writeChat ⟨"hi"⟩]) (by decide)
  have hreach' : (transport json 7).Reachable (Delivering json) s := by
    refine hreach.mono fun s l hl => ⟨sendable_of_writes hl, ?_⟩
    cases l with
    | send m =>
      obtain ⟨rfl, -⟩ := hl
      exact (by decide : JsonNetworkCodec.writeChatText.length ≤ maxMessageBytes)
    | readError | stop => exact hl
    | _ => trivial
  obtain ⟨-, -, s', -, hdelivered, hsame, hhandled⟩ := transport_delivers rfl hreach'
  refine ⟨s', hdelivered, ?_⟩
  rw [hhandled, hsent]
  rfl

end Transport

end ChatCore.Network
