import ChatCore.Lib.PrefixCode
import ChatCore.Network.ReadLoop

/-!
# `ChatCore.Proofs.Framing`: what the read loop delivers

The frames of payloads of at most `maxMessageBytes` bytes are a prefix-free code
(`prefixFree_frame`). In every state of the read loop the bytes that arrived are the frames of
the delivered payloads and a rest, and the outstanding read says what is known of the rest
(`Framed`). When no read can complete, no frame begins the rest, so the delivered payloads are
the longest possible cut of the stream.
-/

set_option autoImplicit false

namespace ChatCore.Network

open ChatCore.Lib

/-! ### Headers -/

/-- The prefix of a frame has four bytes. -/
@[simp] theorem networkLength_length (n : Nat) : (networkLength n).length = 4 := rfl

/-- `ntohl` undoes `htonl`. -/
theorem hostLength_networkLength {n : Nat} (h : n < 2 ^ 32) : hostLength (networkLength n) = n := by
  simp only [hostLength, networkLength, List.map_cons, List.map_nil, List.foldl_cons,
    List.foldl_nil, UInt8.toNat_ofNat']
  omega

/-- `htonl` undoes `ntohl` on four bytes. -/
theorem networkLength_hostLength {header : List UInt8} (h : header.length = 4) :
    networkLength (hostLength header) = header := by
  match header, h with
  | [a, b, c, d], _ =>
    have ha := a.toNat_lt
    have hb := b.toNat_lt
    have hc := c.toNat_lt
    have hd := d.toNat_lt
    simp only [hostLength, networkLength, List.foldl_cons, List.foldl_nil, List.map_cons,
      List.map_nil, List.cons.injEq, and_true, ← UInt8.toNat_inj, UInt8.toNat_ofNat']
    refine ⟨?_, ?_, ?_, ?_⟩ <;> omega

/-- `resize(n)` makes `n` bytes. -/
theorem resize_length (n : Nat) (bytes : List UInt8) : (resize n bytes).length = n := by
  simp only [resize, List.length_append, List.length_take, List.length_replicate]
  omega

/-! ### Frames as a code -/

/-- A payload that `ReadBytes` accepts. -/
def Fits (payload : List UInt8) : Prop := payload.length ≤ maxMessageBytes

/-- The length of a payload that fits is a value of `uint32_t`. -/
theorem Fits.lt {payload : List UInt8} (h : Fits payload) : payload.length < 2 ^ 32 :=
  Nat.lt_of_le_of_lt h (by decide)

/-- A frame begins a header and what follows when the header is its length and the payload
begins what follows. -/
theorem frame_prefix_iff {payload header bytes : List UInt8} (h : header.length = 4) :
    frame payload <+: header ++ bytes ↔
      networkLength payload.length = header ∧ payload <+: bytes := by
  constructor
  · rintro ⟨rest, hrest⟩
    rw [frame, List.append_assoc] at hrest
    obtain ⟨hheader, hbytes⟩ := List.append_inj hrest (by simp [h])
    exact ⟨hheader, rest, hbytes⟩
  · rintro ⟨hheader, rest, hbytes⟩
    exact ⟨rest, by rw [frame, List.append_assoc, hheader, hbytes]⟩

/-- No frame is the beginning of another one: the prefix tells the length. -/
theorem prefixFree_frame : PrefixFree frame Fits where
  ne_nil a _ := by simp [frame, networkLength]
  eq_of_isPrefix a b ha hb h := by
    obtain ⟨hheader, hprefix⟩ := (frame_prefix_iff (networkLength_length _)).mp h
    have hlength : a.length = b.length := by
      rw [← hostLength_networkLength ha.lt, hheader, hostLength_networkLength hb.lt]
    exact hprefix.eq_of_length hlength

/-! ### The invariant of the loop -/

/-- The bytes begin with a header that announces too many bytes. -/
def Oversize (bytes : List UInt8) : Prop :=
  4 ≤ bytes.length ∧ maxMessageBytes < hostLength (bytes.take 4)

instance (bytes : List UInt8) : Decidable (Oversize bytes) := inferInstanceAs (Decidable (_ ∧ _))

namespace ReadRun

variable {s s' : ReadRun} {rest : List UInt8}

/-- What the outstanding read says of the bytes behind the last delivered payload. -/
def Rest (s : ReadRun) (rest : List UInt8) : Prop :=
  match s.reading with
  | .header => rest = s.buffered
  | .body => s.incomingBytesBuffer.length ≤ maxMessageBytes ∧
      rest = networkLength s.incomingBytesBuffer.length ++ s.buffered
  | .stopped => Oversize rest

/-- What holds while no read fails. -/
structure Framed (s : ReadRun) (rest : List UInt8) : Prop where
  split : Split frame Fits s.arrived s.payloads rest
  rest : s.Rest rest
  events : s.events =
    s.payloads.map .received ++ if s.reading = .stopped then [.disconnected] else []

/-- The events of a completion handler are the payloads that it adds. -/
theorem payloads_append (s : ReadRun) (loop : ReadLoop) (events : List ConnectionEvent) :
    (s.handled (loop, events)).payloads = s.payloads ++ events.filterMap fun
      | .received bytes => some bytes
      | .disconnected => none :=
  List.filterMap_append

/-- Bytes after an oversized header do not change it. -/
theorem oversize_append {bytes : List UInt8} (chunk : List UInt8) (h : Oversize bytes) :
    Oversize (bytes ++ chunk) := by
  refine ⟨?_, ?_⟩
  · have hlength := h.1
    rw [List.length_append]
    omega
  · rw [List.take_append_of_le_length h.1]
    exact h.2

/-- Bytes that arrive go to the rest. -/
theorem framed_arrive (chunk : List UInt8) (h : s.Framed rest) :
    Framed { s with buffered := s.buffered ++ chunk, arrived := s.arrived ++ chunk }
      (rest ++ chunk) where
  split := ⟨by
    show s.arrived ++ chunk = s.payloads.flatMap frame ++ (rest ++ chunk)
    rw [← List.append_assoc, ← h.split.stream_eq], h.split.all_valid⟩
  rest := by
    have hrest := h.rest
    unfold Rest at hrest ⊢
    cases hreading : s.reading with
    | header =>
      rw [hreading] at hrest
      exact congrArg (· ++ chunk) hrest
    | body =>
      rw [hreading] at hrest
      exact ⟨hrest.1, by rw [hrest.2, List.append_assoc]⟩
    | stopped =>
      rw [hreading] at hrest
      exact oversize_append chunk hrest
  events := h.events

/-- A completion handler consumes a header, or a body and with it one more frame. -/
theorem framed_complete {movedFrom : List UInt8} {result : ReadLoop × List ConnectionEvent}
    (h : s.Framed rest) (hc : s.toReadLoop.complete movedFrom = some result) :
    ∃ rest', (s.handled result).Framed rest' := by
  have hrest := h.rest
  have hevents := h.events
  unfold Rest at hrest
  unfold ReadLoop.complete at hc
  cases hreading : s.reading with
  | stopped => simp [hreading] at hc
  | header =>
    simp only [hreading] at hrest hevents hc
    split at hc
    · cases hc
    · rename_i hlength
      split at hc
      · -- The header announces too much: the rest stays and nothing more is delivered.
        rename_i hover
        cases hc
        refine ⟨rest, ⟨?_, ?_⟩, ⟨?_, ?_⟩, ?_⟩
        · rw [payloads_append, List.filterMap_cons, List.filterMap_nil, List.append_nil]
          exact h.split.stream_eq
        · rw [payloads_append, List.filterMap_cons, List.filterMap_nil, List.append_nil]
          exact h.split.all_valid
        · rw [hrest]
          omega
        · rw [hrest]
          exact hover
        · rw [payloads_append]
          simp [handled, hevents]
      · rename_i hfits
        cases hc
        refine ⟨rest, ⟨?_, ?_⟩, ⟨?_, ?_⟩, ?_⟩
        · rw [payloads_append, List.filterMap_nil, List.append_nil]
          exact h.split.stream_eq
        · rw [payloads_append, List.filterMap_nil, List.append_nil]
          exact h.split.all_valid
        · show (resize _ _).length ≤ _
          rw [resize_length]
          omega
        · show rest = networkLength (resize _ _).length ++ s.buffered.drop 4
          rw [resize_length, networkLength_hostLength (by rw [List.length_take]; omega),
            List.take_append_drop, hrest]
        · rw [payloads_append]
          simp [handled, hevents]
  | body =>
    simp only [hreading] at hrest hevents hc
    split at hc
    · cases hc
    · rename_i hlength
      cases hc
      obtain ⟨hfits, hrest⟩ := hrest
      have htake : (s.buffered.take s.incomingBytesBuffer.length).length
          = s.incomingBytesBuffer.length := by
        rw [List.length_take]
        omega
      refine ⟨s.buffered.drop s.incomingBytesBuffer.length, ⟨?_, ?_⟩, rfl, ?_⟩
      · -- The header that was read before and the payload make one more frame.
        rw [payloads_append, List.filterMap_cons, List.filterMap_nil, List.flatMap_append,
          List.flatMap_singleton, frame, htake, List.append_assoc, List.append_assoc,
          List.take_append_drop, ← hrest]
        exact h.split.stream_eq
      · rw [payloads_append, List.filterMap_cons, List.filterMap_nil]
        intro payload hmem
        cases List.mem_append.mp hmem with
        | inl hold => exact h.split.all_valid payload hold
        | inr hnew =>
          rw [List.mem_singleton.mp hnew]
          exact Nat.le_trans (Nat.le_of_eq htake) hfits
      · rw [payloads_append]
        simp [handled, hevents]

/-- In every run without a read error the loop has cut the stream into frames. -/
theorem framed_reachable (h : Lts.Reachable reads NoReadError s) : ∃ rest, s.Framed rest := by
  refine h.invariant (I := fun s => ∃ rest, s.Framed rest) ?_ ?_
  · rintro s rfl
    exact ⟨[], ⟨rfl, fun _ hmem => absurd hmem List.not_mem_nil⟩, rfl, rfl⟩
  · rintro s l s' ⟨rest, hframed⟩ hok hstep
    cases l with
    | fail => exact absurd hok id
    | arrive chunk =>
      cases hstep
      exact ⟨_, framed_arrive chunk hframed⟩
    | complete movedFrom =>
      obtain ⟨result, hresult, rfl⟩ := Option.map_eq_some_iff.mp hstep
      exact framed_complete hframed hresult

/-! ### States in which no read can complete -/

/-- A loop that waits for a header has fewer than four bytes. -/
theorem length_lt_of_quiescent_header (hq : s.Quiescent) (hreading : s.reading = .header) :
    s.buffered.length < 4 := by
  have hnone := hq []
  unfold ReadLoop.complete at hnone
  simp only [hreading] at hnone
  split at hnone
  · assumption
  · split at hnone <;> cases hnone

/-- A loop that waits for a body has fewer bytes than the body. -/
theorem length_lt_of_quiescent_body (hq : s.Quiescent) (hreading : s.reading = .body) :
    s.buffered.length < s.incomingBytesBuffer.length := by
  have hnone := hq []
  unfold ReadLoop.complete at hnone
  simp only [hreading] at hnone
  split at hnone
  · assumption
  · cases hnone

/-- An oversized header is not the beginning of a frame that fits. -/
theorem not_frame_of_oversize {payload : List UInt8} (hfits : Fits payload) (h : Oversize rest) :
    ¬ frame payload <+: rest := by
  intro hprefix
  rw [← List.take_append_drop 4 rest,
    frame_prefix_iff (by rw [List.length_take]; exact Nat.min_eq_left h.1)] at hprefix
  have hlength := h.2
  rw [← hprefix.1, hostLength_networkLength hfits.lt] at hlength
  exact absurd hfits (Nat.not_le.mpr hlength)

/-- When no read can complete, no frame begins the rest. -/
theorem Framed.not_frame_of_quiescent (h : s.Framed rest) (hq : s.Quiescent)
    {payload : List UInt8} (hfits : Fits payload) : ¬ frame payload <+: rest := by
  have hrest := h.rest
  unfold Rest at hrest
  cases hreading : s.reading with
  | stopped =>
    rw [hreading] at hrest
    exact not_frame_of_oversize hfits hrest
  | header =>
    rw [hreading] at hrest
    intro hprefix
    have hlength := hprefix.length_le
    have hshort := length_lt_of_quiescent_header hq hreading
    rw [hrest, frame, List.length_append, networkLength_length] at hlength
    omega
  | body =>
    rw [hreading] at hrest
    obtain ⟨hmax, hrest⟩ := hrest
    rw [hrest, frame_prefix_iff (networkLength_length _)]
    rintro ⟨hheader, hprefix⟩
    have hshort := length_lt_of_quiescent_body hq hreading
    have hlength := hprefix.length_le
    -- The two headers are equal, so the frame has the length of the outstanding read.
    have heq : payload.length = s.incomingBytesBuffer.length := by
      rw [← hostLength_networkLength hfits.lt, hheader,
        hostLength_networkLength (Nat.lt_of_le_of_lt hmax (by decide))]
    omega

/-- The loop has stopped exactly when the rest begins with an oversize header. -/
theorem Framed.stopped_iff_of_quiescent (h : s.Framed rest) (hq : s.Quiescent) :
    s.reading = .stopped ↔ Oversize rest := by
  have hrest := h.rest
  unfold Rest at hrest
  cases hreading : s.reading with
  | stopped =>
    rw [hreading] at hrest
    exact ⟨fun _ => hrest, fun _ => rfl⟩
  | header =>
    rw [hreading] at hrest
    have hshort := length_lt_of_quiescent_header hq hreading
    refine ⟨(fun hne => nomatch hne), fun hover => ?_⟩
    have hlength := hover.1
    rw [hrest] at hlength
    omega
  | body =>
    rw [hreading] at hrest
    -- The header of the body has been checked.
    refine ⟨(fun hne => nomatch hne), fun hover => ?_⟩
    have hlength := hover.2
    rw [hrest.2, List.take_left' (networkLength_length _),
      hostLength_networkLength (Nat.lt_of_le_of_lt hrest.1 (by decide))] at hlength
    exact absurd hrest.1 (Nat.not_le.mpr hlength)

/-! ### The handlers come to an end -/

/-- A bound on the completion handlers that can run before more bytes arrive. -/
def work (s : ReadRun) : Nat := 2 * s.buffered.length + if s.reading = .body then 1 else 0

/-- Every completion handler takes work off the loop. -/
theorem work_lt_of_complete {movedFrom : List UInt8} (h : s.step (.complete movedFrom) = some s') :
    s'.work < s.work := by
  obtain ⟨result, hc, rfl⟩ := Option.map_eq_some_iff.mp h
  unfold ReadLoop.complete at hc
  cases hreading : s.reading with
  | stopped => simp [hreading] at hc
  -- A header takes four bytes away, and a body (perhaps an empty one) takes the summand away.
  | header =>
    simp only [hreading] at hc
    split at hc
    · cases hc
    · split at hc
      all_goals
        cases hc
        simp only [work, handled, hreading, List.length_drop, reduceCtorEq, if_true, if_false]
        omega
  | body =>
    simp only [hreading] at hc
    split at hc
    · cases hc
    · cases hc
      simp only [work, handled, hreading, List.length_drop, reduceCtorEq, if_true, if_false]
      omega

/-- From every state the handlers reach a state in which no read can complete. They take
nothing back that was delivered. -/
theorem exists_quiescent (h : Lts.Reachable reads NoReadError s) :
    ∃ s', reads.Leads ReadOp.IsComplete s s' ∧ Lts.Reachable reads NoReadError s' ∧
      s'.Quiescent ∧ s'.arrived = s.arrived ∧ s.events <+: s'.events := by
  induction hwork : s.work using Nat.strongRecOn generalizing s with
  | ind n ih =>
    by_cases hq : s.Quiescent
    · exact ⟨s, .refl _ s, h, hq, rfl, List.prefix_rfl⟩
    · obtain ⟨movedFrom, hc⟩ := not_forall.mp hq
      obtain ⟨result, hresult⟩ := Option.ne_none_iff_exists'.mp hc
      have hstep : s.step (.complete movedFrom) = some (s.handled result) :=
        congrArg (Option.map s.handled) hresult
      have hreach : Lts.Reachable reads NoReadError (s.handled result) :=
        .step (l := .complete movedFrom) h trivial hstep
      obtain ⟨s', hleads, hreach', hq', harrived, hevents⟩ :=
        ih _ (hwork ▸ work_lt_of_complete hstep) hreach rfl
      exact ⟨s', hleads.head (l := .complete movedFrom) trivial hstep, hreach', hq', harrived,
        (List.prefix_append _ _).trans hevents⟩

/-! ### What is delivered -/

/-- Once no read can complete, the payloads passed to `OnReceive` are those of the longest cut of
the stream into frames, and `OnDisconnect` was called after them exactly when an oversize header
follows. A stream of frames is delivered whole. The handlers alone lead from every state to such
a state, whatever bytes arrived in whatever chunks. -/
theorem readLoop_delivers_frames (h : Lts.Reachable reads NoReadError s) :
    (s.Quiescent → ∃ rest, LongestSplit frame Fits s.arrived s.payloads rest ∧
      s.events = s.payloads.map .received ++ if Oversize rest then [.disconnected] else []) ∧
    (s.Quiescent → ∀ payloads : List (List UInt8),
      (∀ payload ∈ payloads, payload.length ≤ maxMessageBytes) →
      s.arrived = payloads.flatMap frame → s.events = payloads.map .received) ∧
    (∃ s', reads.Leads ReadOp.IsComplete s s' ∧ Lts.Reachable reads NoReadError s' ∧
      s'.Quiescent ∧ s'.arrived = s.arrived ∧ s.events <+: s'.events) ∧
    ∀ movedFrom s', s.step (.complete movedFrom) = some s' → s'.work < s.work := by
  obtain ⟨rest, hframed⟩ := framed_reachable h
  refine ⟨fun hq => ?_, fun hq payloads hfits harrived => ?_, exists_quiescent h,
    fun _ _ => work_lt_of_complete⟩
  · refine ⟨rest, hframed.split.longest prefixFree_frame
      fun _ hfits => hframed.not_frame_of_quiescent hq hfits, ?_⟩
    rw [hframed.events]
    simp only [hframed.stopped_iff_of_quiescent hq]
  · have hlongest := hframed.split.longest prefixFree_frame
      fun _ hfits => hframed.not_frame_of_quiescent hq hfits
    rw [harrived] at hlongest
    obtain ⟨heq, hrest⟩ := hlongest.eq_of_flatMap prefixFree_frame hfits
    -- Nothing is left over, so no header is oversize.
    have hreading : s.reading ≠ .stopped := fun hstopped => by
      have hover := (hframed.stopped_iff_of_quiescent hq).mp hstopped
      rw [hrest] at hover
      exact absurd hover.1 (by decide)
    rw [hframed.events, heq, if_neg hreading, List.append_nil]

/-- An empty payload and a payload of one byte, in three chunks. -/
theorem readLoop_delivers_frames_chunks : ∃ s, Lts.Reachable reads NoReadError s ∧
    s.arrived = [0, 0, 0, 0, 0, 0, 0, 1, 7] ∧ s.events = [.received [], .received [7]] := by
  have hstart : reads.Reachable NoReadError {} := .start rfl
  obtain ⟨s, hreach, harrived, hreading, hbuffered⟩ := hstart.exists_of_exec
      [.arrive [0, 0], .arrive [0, 0, 0, 0], .complete [], .complete [], .arrive [0, 1, 7],
        .complete [9], .complete []]
      (fun s => s.arrived = [0, 0, 0, 0, 0, 0, 0, 1, 7] ∧ s.reading = .header ∧ s.buffered = [])
      (by decide)
  have hq : s.Quiescent := fun _ => by simp [ReadLoop.complete, hreading, hbuffered]
  exact ⟨s, hreach, harrived,
    (readLoop_delivers_frames hreach).2.1 hq [[], [7]] (by decide) harrived⟩

end ReadRun

end ChatCore.Network
