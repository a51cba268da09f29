import ChatCore.Proofs.Membership
import ChatCore.Proofs.Sessions
import ChatCore.Proofs.Transport
import ChatCore.Server.TcpServer
import Mathlib.Algebra.Order.BigOperators.Group.Finset

/-!
# `ChatCore.Proofs.TcpServer`: from bytes to handlers

Every step of the server behind its sockets is a step of `Steps` or none (`TcpInv.run`), as a
handler is one step in both. What a reader of a connection has passed on is what its bytes are the
frames of, and the messages that were handled are what the payloads decode to, in the order in which
they were passed on (`TcpInv.inputs`). So the messages that are handled for a connection depend on
its own bytes alone.

The calls of `ReceiveMessage` come one after the other, from all connections. `received` is this
list, and the payloads of a connection are the ones of it with its id.
-/

set_option autoImplicit false

namespace ChatCore.Server

open ChatCore.Api
open ChatCore.Lib
open ChatCore.Network

/-! ### What a run has handled -/

/-- The message that a step handles, with its connection. -/
def ServerOp.handled? : ServerOp → Option (Nat × Message)
  | .handle connectionId message => some (connectionId, message)
  | .connect | .disconnect _ | .persist => none

/-- The messages that were handled, with their connections. -/
def ServerRun.handled (r : ServerRun) : List (Nat × Message) :=
  r.trace.filterMap fun e => e.op.handled?

/-- A step handles at most one message. -/
theorem ServerRun.handled_record (r : ServerRun) (op : ServerOp)
    (result : ServerState × List Call) :
    (r.record op result).handled = r.handled ++ op.handled?.toList := by
  unfold handled record
  rw [List.filterMap_append]
  cases hop : op.handled? <;> simp [hop]

/-- What an input decodes to is a message of its connection. -/
theorem receive_fst {json : JsonLibrary} {input : Input} {message : Nat × Message}
    (h : (jsonNetworkCodec json).receive input = some message) : message.1 = input.1 := by
  obtain ⟨c, m⟩ := message
  exact (receive_json_eq_some.mp h).1

namespace TcpServer

variable {json : JsonLibrary} {s s' : TcpServer} {received : List Input}

/-- The tasks of a processor, wherever they are. -/
def allTasks (p : MessageProcessor MessageType Json Message) : List (Task MessageType Json) :=
  p.buffer ++ p.tasks ++ p.enqueuing.map Prod.snd

/-- What holds between two steps. -/
structure TcpInv (json : JsonLibrary) (received : List Input) (s : TcpServer) : Prop where
  run : serverRuns.Reachable Lts.anyStep s.run
  readers : ∀ c, (s.readers c).UpToError
  /-- The payloads of a connection are those that were received with its id. -/
  payloads : ∀ c, received.filter (·.1 = c) = (s.readers c).payloads.map (c, ·)
  processor : (processing (jsonNetworkCodec json)).Reachable Lts.anyStep s.processor
  /-- There is one io thread. -/
  single : s.processor.enqueuing.length ≤ 1
  inputs : s.processor.inputs <+: received
  all : s.processor.stopped = false →
    s.processor.inputs ++ s.processor.enqueuing.map Prod.fst = received
  issued : ∀ task ∈ allTasks s.processor, s.run.Issued task.connectionId
  handled : s.run.handled = s.processor.handled

/-! ### Parts of a step -/

/-- A new connection keeps the ids that were given out. -/
theorem issued_createConnection {r : ServerRun} {c : Nat} (h : r.Issued c) :
    (r.record .connect (r.server.createConnection, [])).Issued c := by
  obtain ⟨hpos, hlt⟩ := h
  refine ⟨hpos, ?_⟩
  show c < r.server.nextConnectionId + 1
  omega

/-- The end of a connection does as well. -/
theorem issued_disconnect {r : ServerRun} (h : r.server.Consistent) (c' : Nat) {c : Nat} :
    (r.record (.disconnect c') ((r.server.removeConnection c').removeSession c')).Issued c ↔
      r.Issued c := by
  obtain ⟨-, hnext, -⟩ := ServerState.disconnect_frame h c'
  show (0 < c ∧ c < ((r.server.removeConnection c').removeSession c').1.nextConnectionId) ↔ _
  rw [hnext]
  exact Iff.rfl

/-- A handler does as well. -/
theorem issued_handle {r : ServerRun} (h : r.server.Consistent) (c' : Nat) (m : Message)
    {c : Nat} : (r.record (.handle c' m) (r.server.handle c' m)).Issued c ↔ r.Issued c := by
  have hnext := (ServerState.connections_handled (ServerState.handled_handle h c' m)).2
  show (0 < c ∧ c < (r.server.handle c' m).1.nextConnectionId) ↔ _
  rw [hnext]
  exact Iff.rfl

/-- A step of the server that handles no message and keeps the ids. -/
theorem TcpInv.of_run (h : TcpInv json received s) {run : ServerRun}
    (hrun : serverRuns.Reachable Lts.anyStep run) (hissued : ∀ c, s.run.Issued c → run.Issued c)
    (hhandled : run.handled = s.run.handled) : TcpInv json received { s with run } where
  run := hrun
  readers := h.readers
  payloads := h.payloads
  processor := h.processor
  single := h.single
  inputs := h.inputs
  all := h.all
  issued task htask := hissued _ (h.issued task htask)
  handled := hhandled.trans h.handled

/-- The end of a connection keeps the invariant. -/
theorem TcpInv.disconnect (h : TcpInv json received s) {c : Nat} (hissued : s.run.Issued c) :
    TcpInv json received (s.disconnect c) := by
  have hstep : s.run.step (.disconnect c) = some (s.disconnect c).run := if_pos hissued
  refine h.of_run (.step (l := .disconnect c) h.run trivial hstep) ?_ ?_
  · intro c' hc'
    exact (issued_disconnect (ServerRun.consistent_reachable h.run) c).mpr hc'
  · rw [ServerRun.handled_record]
    exact List.append_nil _

/-- A step of the processor other than `run` and `Enqueue`. -/
theorem TcpInv.of_processor (h : TcpInv json received s) (op : ProcessorOp)
    {processor : MessageProcessor MessageType Json Message}
    (hs : s.processor.step (jsonNetworkCodec json) op = some processor)
    (hsingle : processor.enqueuing.length ≤ 1) (hinputs : processor.inputs <+: received)
    (hall : processor.stopped = false →
      processor.inputs ++ processor.enqueuing.map Prod.fst = received)
    (htasks : ∀ task ∈ allTasks processor, task ∈ allTasks s.processor)
    (hhandled : processor.handled = s.processor.handled) :
    TcpInv json received { s with processor } where
  run := h.run
  readers := h.readers
  payloads := h.payloads
  processor := .step (l := op) h.processor trivial hs
  single := hsingle
  inputs := hinputs
  all := hall
  issued task htask := h.issued task (htasks task htask)
  handled := h.handled.trans hhandled.symm

/-- The locked part of `Enqueue` keeps the invariant. -/
theorem TcpInv.emplace (h : TcpInv json received s)
    {processor : MessageProcessor MessageType Json Message}
    (hs : s.processor.step (jsonNetworkCodec json) (.emplace 0) = some processor) :
    TcpInv json received { s with processor } := by
  obtain ⟨⟨input, task⟩, hget, hprocessor⟩ := Option.map_eq_some_iff.mp hs
  -- Only the io thread enqueues, so there is one call at most.
  obtain ⟨-, hlist⟩ := eq_of_getElem?_of_length_le h.single hget
  obtain ⟨hnil, hinputs, hall⟩ := MessageProcessor.emplace_single hlist h.inputs h.all
  have heq : processor = { s.processor with enqueuing := [] }.emplace input task := by
    rw [← hprocessor, hlist]
    rfl
  refine h.of_processor (.emplace 0) hs ?_ ?_ ?_ ?_ ?_
  · rw [heq, hnil]
    exact Nat.zero_le _
  · rw [heq]
    exact hinputs
  · rw [heq, hnil, List.map_nil, List.append_nil]
    exact hall
  · intro t ht
    rw [heq] at ht
    unfold MessageProcessor.emplace at ht
    simp only [allTasks, hlist]
    split at ht
    · simp only [allTasks, List.map_nil, List.append_nil] at ht
      exact List.mem_append_left _ ht
    · simpa [allTasks, List.append_assoc] using ht
  · rw [heq]
    unfold MessageProcessor.emplace
    split <;> rfl

/-- The swap of the queue keeps the invariant. -/
theorem TcpInv.swap (h : TcpInv json received s)
    {processor : MessageProcessor MessageType Json Message}
    (hs : s.processor.step (jsonNetworkCodec json) .swap = some processor) :
    TcpInv json received { s with processor } := by
  have hswap := hs
  simp only [MessageProcessor.step, Option.ite_none_right_eq_some] at hswap
  obtain ⟨⟨hbuffer, -, -⟩, hswap⟩ := hswap
  obtain rfl := Option.some.inj hswap
  refine h.of_processor .swap hs h.single h.inputs h.all ?_ rfl
  intro task htask
  simp only [allTasks, List.append_nil, List.mem_append] at htask ⊢
  rcases htask with htask | htask
  · exact .inl (.inr htask)
  · exact .inr htask

/-- `Stop` keeps the invariant. -/
theorem TcpInv.stop (h : TcpInv json received s) :
    TcpInv json received { s with processor := { s.processor with stopped := true } } :=
  h.of_processor .stop rfl h.single h.inputs (fun hrunning => by cases hrunning)
    (fun _ htask => htask) rfl

/-- A task runs: the message that it decodes to is handled. -/
theorem TcpInv.runTask (h : TcpInv json received s) {task : Task MessageType Json}
    {rest : List (Task MessageType Json)} (hbuffer : s.processor.buffer = task :: rest)
    (hs : s.processor.step (jsonNetworkCodec json) .run
      = some ({ s.processor with buffer := rest }.runTask (jsonNetworkCodec json) task)) :
    TcpInv json received { s with
      processor := { s.processor with buffer := rest }.runTask (jsonNetworkCodec json) task
      run := handleTask s.run task } := by
  have hissued : s.run.Issued task.connectionId :=
    h.issued task (by simp [allTasks, hbuffer])
  -- The tasks that are left are some of those that were there.
  have hrest : ∀ t ∈ rest ++ s.processor.tasks ++ s.processor.enqueuing.map Prod.snd,
      s.run.Issued t.connectionId := by
    intro t ht
    refine h.issued t ?_
    simp only [allTasks, hbuffer, List.cons_append]
    exact List.mem_cons_of_mem _ ht
  have hdecode : (jsonNetworkCodec json).decode task.type task.payload
      = JsonNetworkCodec.decode task.type task.payload := rfl
  cases hmessage : JsonNetworkCodec.decode task.type task.payload with
  | none =>
    have hprocessor : { s.processor with buffer := rest }.runTask (jsonNetworkCodec json) task
        = { s.processor with buffer := rest } := by
      simp only [MessageProcessor.runTask, hdecode, hmessage]
    have hrun : handleTask s.run task = s.run := by simp only [handleTask, hmessage]
    rw [hprocessor] at hs
    rw [hprocessor, hrun]
    exact ⟨h.run, h.readers, h.payloads, .step (l := .run) h.processor trivial hs, h.single,
      h.inputs, h.all, hrest, h.handled⟩
  | some message =>
    have hprocessor : { s.processor with buffer := rest }.runTask (jsonNetworkCodec json) task
        = { s.processor with
          buffer := rest
          handled := s.processor.handled ++ [(task.connectionId, message)] } := by
      simp only [MessageProcessor.runTask, hdecode, hmessage]
    have hrun : handleTask s.run task = s.run.record (.handle task.connectionId message)
        (s.run.server.handle task.connectionId message) := by
      simp only [handleTask, hmessage]
    have hstep : s.run.step (.handle task.connectionId message) = some (handleTask s.run task) := by
      rw [hrun]
      exact if_pos hissued
    have hreach : serverRuns.Reachable Lts.anyStep (handleTask s.run task) :=
      .step (l := .handle task.connectionId message) h.run trivial hstep
    rw [hprocessor] at hs
    rw [hrun] at hreach
    rw [hprocessor, hrun]
    refine ⟨hreach, h.readers, h.payloads, .step (l := .run) h.processor trivial hs, h.single,
      h.inputs, h.all, ?_, ?_⟩
    · intro t ht
      exact (issued_handle (ServerRun.consistent_reachable h.run) _ _).mpr (hrest t ht)
    · rw [ServerRun.handled_record, h.handled]
      rfl

/-- A reader takes a step and passes nothing on. -/
theorem TcpInv.of_reader (h : TcpInv json received s) (c : Nat) {reader : ReadRun}
    (hreader : reader.UpToError) (hpayloads : reader.payloads = (s.readers c).payloads) :
    TcpInv json received { s with readers := Function.update s.readers c reader } where
  run := h.run
  readers c' := by
    by_cases heq : c' = c
    · subst heq
      show (Function.update s.readers c' reader c').UpToError
      rw [Function.update_self]
      exact hreader
    · show (Function.update s.readers c reader c').UpToError
      rw [Function.update_of_ne heq]
      exact h.readers c'
  payloads c' := by
    show _ = (Function.update s.readers c reader c').payloads.map (c', ·)
    by_cases heq : c' = c
    · subst heq
      rw [Function.update_self, hpayloads]
      exact h.payloads c'
    · rw [Function.update_of_ne heq]
      exact h.payloads c'
  processor := h.processor
  single := h.single
  inputs := h.inputs
  all := h.all
  issued := h.issued
  handled := h.handled

/-- A reader passes a payload on: it is in `Enqueue` now, or it was dropped. -/
theorem TcpInv.receive (h : TcpInv json received s) {c : Nat} {reader : ReadRun}
    {bytes : List UInt8} (hissued : s.run.Issued c) (hnil : s.processor.enqueuing = [])
    (hreader : reader.UpToError)
    (hpayloads : reader.payloads = (s.readers c).payloads ++ [bytes]) :
    TcpInv json (received ++ [(c, bytes)]) { s with
      readers := Function.update s.readers c reader
      processor := s.processor.enqueue (jsonNetworkCodec json) c bytes } := by
  have hprocessor : (processing (jsonNetworkCodec json)).Reachable Lts.anyStep
      (s.processor.enqueue (jsonNetworkCodec json) c bytes) :=
    .step (l := .enqueue c bytes) h.processor trivial rfl
  have hall : s.processor.stopped = false → s.processor.inputs = received := by
    intro hrunning
    have hreceived := h.all hrunning
    rwa [hnil, List.map_nil, List.append_nil] at hreceived
  obtain ⟨hsingle, hinputs, hall'⟩ := MessageProcessor.enqueue_single (jsonNetworkCodec json)
    hnil h.inputs hall c bytes
  refine ⟨h.run, ?_, ?_, hprocessor, hsingle, hinputs, hall', ?_, ?_⟩
  · intro c'
    by_cases heq : c' = c
    · subst heq
      show (Function.update s.readers c' reader c').UpToError
      rw [Function.update_self]
      exact hreader
    · show (Function.update s.readers c reader c').UpToError
      rw [Function.update_of_ne heq]
      exact h.readers c'
  · intro c'
    show _ = (Function.update s.readers c reader c').payloads.map (c', ·)
    -- The new payload comes last among those of its connection.
    rw [List.filter_append, h.payloads c']
    by_cases heq : c' = c
    · subst heq
      rw [Function.update_self, hpayloads]
      simp
    · rw [Function.update_of_ne heq]
      simp [Ne.symm heq]
  · -- The task that `Enqueue` makes has the id of the connection.
    have hordered := MessageProcessor.ordered_reachable hprocessor
    intro task htask
    rcases MessageProcessor.enqueue_cases (jsonNetworkCodec json) (s := s.processor) c bytes
      with heq | ⟨new, heq⟩
    · refine h.issued task ?_
      have hsame : allTasks (s.processor.enqueue (jsonNetworkCodec json) c bytes)
          = allTasks s.processor := by
        rw [heq]
        split <;> rfl
      exact hsame ▸ htask
    · have hnew := hordered.enqueuing ((c, bytes), new) (by rw [heq]; simp)
      obtain ⟨-, -, -, hid⟩ := hnew
      have hsame : allTasks (s.processor.enqueue (jsonNetworkCodec json) c bytes)
          = allTasks s.processor ++ [new] := by
        rw [heq]
        simp [allTasks]
      have hmem : task ∈ allTasks s.processor ++ [new] := hsame ▸ htask
      rcases List.mem_append.mp hmem with hold | hlast
      · exact h.issued task hold
      · rw [List.mem_singleton.mp hlast]
        show s.run.Issued new.connectionId
        rw [hid]
        exact hissued
  · rw [h.handled]
    rcases MessageProcessor.enqueue_cases (jsonNetworkCodec json) (s := s.processor) c bytes
      with heq | ⟨new, heq⟩
    · rw [heq]
      split <;> rfl
    · rw [heq]

/-- A completion handler of a read keeps the invariant. -/
theorem TcpInv.readHandler (h : TcpInv json received s) {c : Nat}
    {result : ReadLoop × List ConnectionEvent}
    (hresult : (∃ movedFrom, (s.readers c).toReadLoop.complete movedFrom = some result) ∨
      (s.readers c).toReadLoop.fail = some result)
    (hs : s.readHandler json c (some result) = some s') : ∃ received, TcpInv json received s' := by
  simp only [TcpServer.readHandler, Option.map_some, Option.ite_none_right_eq_some] at hs
  obtain ⟨⟨hissued, hempty⟩, hs⟩ := hs
  obtain rfl := Option.some.inj hs
  have hreader : ((s.readers c).handled result).UpToError := by
    cases hresult with
    | inl hcomplete =>
      obtain ⟨movedFrom, hcomplete⟩ := hcomplete
      exact ReadRun.upToError_step (l := .complete movedFrom) (h.readers c)
        (by simp [ReadRun.step, hcomplete])
    | inr hfail =>
      exact ReadRun.upToError_step (l := .fail) (h.readers c) (by simp [ReadRun.step, hfail])
  obtain ⟨loop, events⟩ := result
  have hpayloads := ReadRun.payloads_append (s.readers c) loop events
  rcases ReadLoop.events_cases hresult with hevents | ⟨bytes, hevents⟩ | hevents
  · obtain rfl : events = [] := hevents
    exact ⟨received, h.of_reader c hreader (hpayloads.trans (List.append_nil _))⟩
  · obtain rfl : events = [.received bytes] := hevents
    exact ⟨_, h.receive hissued (List.isEmpty_iff.mp hempty) hreader hpayloads⟩
  · obtain rfl : events = [.disconnected] := hevents
    have hpart := h.of_reader c hreader (hpayloads.trans (List.append_nil _))
    exact ⟨received, hpart.disconnect hissued⟩

/-- A step keeps the invariant. -/
theorem tcpInv_step {l : TcpServerOp} (h : TcpInv json received s)
    (hs : s.step json l = some s') : ∃ received, TcpInv json received s' := by
  cases l with
  | accept =>
    simp only [step, Option.ite_none_right_eq_some] at hs
    obtain ⟨-, hs⟩ := hs
    obtain rfl := Option.some.inj hs
    refine ⟨received, h.of_run (.step (l := .connect) h.run trivial rfl) ?_ ?_⟩
    · intro c hc
      exact issued_createConnection hc
    · rw [ServerRun.handled_record]
      exact List.append_nil _
  | arrive c chunk =>
    simp only [step, Option.ite_none_right_eq_some] at hs
    obtain ⟨-, hs⟩ := hs
    obtain ⟨reader, hreader, rfl⟩ := Option.map_eq_some_iff.mp hs
    refine ⟨received, h.of_reader c (ReadRun.upToError_step (h.readers c) hreader) ?_⟩
    cases hreader
    rfl
  | readComplete c movedFrom =>
    cases hresult : (s.readers c).toReadLoop.complete movedFrom with
    | none => simp [step, TcpServer.readHandler, hresult] at hs
    | some result =>
      simp only [step, hresult] at hs
      exact h.readHandler (.inl ⟨movedFrom, hresult⟩) hs
  | readError c =>
    cases hresult : (s.readers c).toReadLoop.fail with
    | none => simp [step, TcpServer.readHandler, hresult] at hs
    | some result =>
      simp only [step, hresult] at hs
      exact h.readHandler (.inr hresult) hs
  | writeError c =>
    simp only [step, Option.ite_none_right_eq_some] at hs
    obtain ⟨⟨hissued, -⟩, hs⟩ := hs
    obtain rfl := Option.some.inj hs
    exact ⟨received, h.disconnect hissued⟩
  | emplace =>
    obtain ⟨processor, hprocessor, rfl⟩ := Option.map_eq_some_iff.mp hs
    exact ⟨received, h.emplace hprocessor⟩
  | swap =>
    obtain ⟨processor, hprocessor, rfl⟩ := Option.map_eq_some_iff.mp hs
    exact ⟨received, h.swap hprocessor⟩
  | run =>
    obtain ⟨task, hhead, hs⟩ := Option.bind_eq_some_iff.mp hs
    obtain ⟨processor, hprocessor, rfl⟩ := Option.map_eq_some_iff.mp hs
    obtain ⟨rest, hbuffer⟩ := List.head?_eq_some_iff.mp hhead
    -- The task is taken out of the buffer, and then its handler runs.
    have hrun := hprocessor
    simp only [MessageProcessor.step, hbuffer, Option.some.injEq] at hrun
    obtain rfl := hrun
    exact ⟨received, h.runTask hbuffer hprocessor⟩
  | persist =>
    obtain ⟨run, hrun, rfl⟩ := Option.map_eq_some_iff.mp hs
    refine ⟨received, h.of_run (.step (l := .persist) h.run trivial hrun) ?_ ?_⟩
    · obtain ⟨⟨db, messages, persist⟩, -, rfl⟩ := Option.map_eq_some_iff.mp hrun
      intro c hc
      exact hc
    · obtain ⟨⟨db, messages, persist⟩, -, rfl⟩ := Option.map_eq_some_iff.mp hrun
      rw [show ∀ r : ServerRun, ({ r with persist := persist } : ServerRun).handled = r.handled from
        fun _ => rfl, ServerRun.handled_record]
      exact List.append_nil _
  | stop =>
    cases hs
    exact ⟨received, h.stop⟩

/-- The invariant holds in every run. -/
theorem tcpInv_reachable (h : (tcpServers json).Reachable Lts.anyStep s) :
    ∃ received, TcpInv json received s := by
  induction h with
  | start hstart =>
    obtain ⟨db, rfl⟩ := hstart
    refine ⟨[], .start ⟨db, rfl⟩, ?_, ?_, .start rfl, Nat.zero_le _, List.prefix_rfl,
      fun _ => rfl, ?_, rfl⟩
    · intro c
      exact ⟨{}, .start rfl, rfl, List.prefix_rfl, .inr rfl⟩
    · intro c
      rfl
    · intro task htask
      cases htask
  | step _ _ hs ih =>
    obtain ⟨received, hinv⟩ := ih
    exact tcpInv_step hinv hs

/-! ### From bytes to handlers -/

/-- What the payloads of a connection decode to. -/
def decoded (json : JsonLibrary) (connectionId : Nat) (payloads : List (List UInt8)) :
    List (Nat × Message) :=
  (payloads.map (connectionId, ·)).filterMap (jsonNetworkCodec json).receive

/-- The messages of a connection that a list of inputs decodes to. -/
theorem filter_filterMap_receive (inputs : List Input) (c : Nat) :
    (inputs.filterMap (jsonNetworkCodec json).receive).filter (·.1 = c)
      = (inputs.filter (·.1 = c)).filterMap (jsonNetworkCodec json).receive := by
  induction inputs with
  | nil => rfl
  | cons input inputs ih =>
    cases hreceive : (jsonNetworkCodec json).receive input with
    | none =>
      rw [List.filterMap_cons_none hreceive, ih, List.filter_cons]
      split
      · rw [List.filterMap_cons_none hreceive]
      · rfl
    | some message =>
      have hid := receive_fst hreceive
      rw [List.filterMap_cons_some hreceive, List.filter_cons, List.filter_cons, ih]
      by_cases heq : input.1 = c
      · rw [if_pos (by simpa [hid] using heq), if_pos (by simpa using heq),
          List.filterMap_cons_some hreceive]
      · rw [if_neg (by simpa [hid] using heq), if_neg (by simpa using heq)]

/-- The messages that were handled are the first ones that the received payloads decode to. -/
theorem TcpInv.handled_received (h : TcpInv json received s) :
    s.run.handled <+: received.filterMap (jsonNetworkCodec json).receive := by
  have horder := (MessageProcessor.ordered_reachable h.processor).order
  rw [h.handled]
  exact List.IsPrefix.trans ⟨_, horder⟩ (h.inputs.filterMap _)

/-- Those of a connection are the first ones that its own payloads decode to. -/
theorem TcpInv.handled_prefix (h : TcpInv json received s) (c : Nat) :
    s.run.handled.filter (·.1 = c) <+: decoded json c (s.readers c).payloads := by
  have hfilter := h.handled_received.filter (·.1 = c)
  rw [filter_filterMap_receive, h.payloads c] at hfilter
  exact hfilter

/-- The database with one user. -/
def withAnn : Database := (Database.empty.createUser "ann" "pw").1

def annsRequest : Message := .authenticateUserRequest ⟨8, "ann", "pw"⟩

/-- The bytes of the envelope of `annsRequest`. -/
def annsRequestText : List UInt8 :=
  [123, 34, 112, 97, 121, 108, 111, 97, 100, 34, 58, 123, 34, 110, 97, 109, 101, 34, 58, 34, 97,
    110, 110, 34, 44, 34, 112, 97, 115, 115, 119, 111, 114, 100, 34, 58, 34, 112, 119, 34, 44, 34,
    114, 101, 113, 117, 101, 115, 116, 95, 105, 100, 34, 58, 56, 125, 44, 34, 116, 121, 112, 101,
    95, 105, 100, 34, 58, 49, 49, 53, 125]

def annsLibrary : JsonLibrary := JsonNetworkCodec.libraryFor annsRequest annsRequestText

/-- The first connection brings the request, in two chunks. -/
def annsBytes : List TcpServerOp :=
  [.accept, .accept, .arrive 1 ((frame annsRequestText).take 9), .readComplete 1 [],
    .arrive 1 ((frame annsRequestText).drop 9)]

/-- A step keeps the registered users. -/
theorem registered_step {r r' : ServerRun} {op : ServerOp} {row : UserRow}
    (h : r.Registered row) (hs : r.step op = some r') : r'.Registered row := by
  obtain ⟨hstart, calls, htrace⟩ := ServerRun.step_trace hs
  rcases h with hrow | ⟨e, hmem, hcreates⟩
  · exact .inl (hstart ▸ hrow)
  · exact .inr ⟨e, htrace ▸ List.mem_append_left _ hmem, hcreates⟩

/-- Who is authenticated has sent the name and the password of a registered user. -/
theorem authenticates_by_request {r : ServerRun} (h : serverRuns.Reachable Lts.anyStep r) :
    ∀ e ∈ r.trace, ∀ c user, e.Authenticates c user →
      ∃ request, e.op = .handle c (.authenticateUserRequest request) ∧
        r.Registered ⟨user.id, request.name, request.password⟩ := by
  induction h with
  | start hstart =>
    obtain ⟨db, rfl⟩ := hstart
    intro e he
    cases he
  | step hreach _ hs ih =>
    obtain ⟨-, calls, htrace⟩ := ServerRun.step_trace hs
    intro e he c user hauth
    rw [htrace] at he
    rcases List.mem_append.mp he with hold | hnew
    · obtain ⟨request, hop, hregistered⟩ := ih e hold c user hauth
      exact ⟨request, hop, registered_step hregistered hs⟩
    · obtain rfl := List.mem_singleton.mp hnew
      obtain ⟨request, hop, -, hregistered, -⟩ :=
        ((ServerRun.sessionInv_reachable hreach).authenticates_iff hs htrace c user).mp hauth
      exact ⟨request, hop, registered_step hregistered hs⟩

/-- A message with an event was handled. -/
theorem mem_handled_of_mem_trace {r : ServerRun} {e : Event} {c : Nat} {m : Message}
    (he : e ∈ r.trace) (hop : e.op = .handle c m) : (c, m) ∈ r.handled :=
  List.mem_filterMap.mpr ⟨e, he, by rw [hop]; rfl⟩

/-- A connection has the session of a user only if one of the frames of its own bytes has the name
and the password of that user. -/
theorem session_needs_frame (h : (tcpServers json).Reachable Lts.anyStep s) {c u : Nat}
    (hsession : (c, u) ∈ s.run.server.users.userSessions) :
    ∃ rest payload request, Split frame Fits (s.readers c).arrived (s.readers c).payloads rest ∧
      payload ∈ (s.readers c).payloads ∧
      (jsonNetworkCodec json).receive (c, payload)
        = some (c, .authenticateUserRequest request) ∧
      ⟨u, request.name, request.password⟩ ∈ s.run.server.db.users.rows := by
  obtain ⟨received, hinv⟩ := tcpInv_reachable h
  have hsessions := ServerRun.sessionInv_reachable hinv.run
  obtain ⟨before, e, after, htrace, ⟨user, hauth, rfl⟩, -⟩ := (hsessions.sessions c u).mp hsession
  have he : e ∈ s.run.trace := by simp [htrace]
  obtain ⟨request, hop, hregistered⟩ := authenticates_by_request hinv.run e he c user hauth
  -- The request was handled, so one of the payloads of the connection decodes to it.
  have hhandled : (c, Message.authenticateUserRequest request)
      ∈ s.run.handled.filter (·.1 = c) := by
    rw [List.mem_filter]
    exact ⟨mem_handled_of_mem_trace he hop, by simp⟩
  have hdecoded := (hinv.handled_prefix c).subset hhandled
  obtain ⟨input, hinput, hreceive⟩ := List.mem_filterMap.mp hdecoded
  obtain ⟨payload, hpayload, rfl⟩ := List.mem_map.mp hinput
  obtain ⟨rest, hsplit⟩ := (hinv.readers c).split
  exact ⟨rest, payload, request, hsplit, hpayload, hreceive, (hsessions.users _).mpr hregistered⟩

/-- The login of the first connection gave it its session. -/
theorem session_needs_frame_login : ∃ s, (tcpServers annsLibrary).Reachable Lts.anyStep s ∧
    ∃ rest payload request, Split frame Fits (s.readers 1).arrived (s.readers 1).payloads rest ∧
      payload ∈ (s.readers 1).payloads ∧
      (jsonNetworkCodec annsLibrary).receive (1, payload)
        = some (1, .authenticateUserRequest request) ∧
      ⟨1, request.name, request.password⟩ ∈ s.run.server.db.users.rows := by
  have hstart : (tcpServers annsLibrary).Reachable Lts.anyStep
      { run := { server := ServerState.begin withAnn, start := withAnn } } :=
    .start ⟨withAnn, rfl⟩
  obtain ⟨s, hreach, hsession⟩ := hstart.exists_of_exec
    (annsBytes ++ [.readComplete 1 [], .emplace, .swap, .run])
    (fun s => (1, 1) ∈ s.run.server.users.userSessions.pairs) (by decide)
  exact ⟨s, hreach, session_needs_frame hreach hsession⟩

/-! ### Progress -/

/-- The steps that the threads take on their own. -/
def Internal : TcpServerOp → Prop
  | .readComplete _ _ | .emplace | .swap | .run => True
  | .accept | .arrive _ _ | .readError _ | .writeError _ | .persist | .stop => False

/-- The ids below this one have been handed out. -/
def next (s : TcpServer) : Nat := s.run.server.nextConnectionId

/-- A bound for the internal steps to come: the completion handlers of all connections, and the
messages on their way. -/
def work (s : TcpServer) : Nat :=
  4 * ∑ c ∈ Finset.range s.next, (s.readers c).work + s.processor.queueWork

/-- The end of a connection gives out no id. -/
theorem next_disconnect (h : s.run.server.Consistent) (c : Nat) :
    (s.disconnect c).next = s.next :=
  (ServerState.disconnect_frame h c).2.1

/-- A task gives out no id. -/
theorem next_handleTask (h : s.run.server.Consistent) (task : Task MessageType Json) :
    (handleTask s.run task).server.nextConnectionId = s.next := by
  unfold handleTask
  split
  · rfl
  · exact (ServerState.connections_handled (ServerState.handled_handle h _ _)).2

/-- A completion handler takes work off its reader. -/
theorem sum_work_update {c : Nat} {reader : ReadRun} (hc : c < s.next)
    (hlt : reader.work < (s.readers c).work) :
    ∑ c' ∈ Finset.range s.next, (Function.update s.readers c reader c').work
      < ∑ c' ∈ Finset.range s.next, (s.readers c').work := by
  refine Finset.sum_lt_sum ?_ ⟨c, Finset.mem_range.mpr hc, ?_⟩
  · intro c' _
    by_cases heq : c' = c
    · subst heq
      rw [Function.update_self]
      omega
    · rw [Function.update_of_ne heq]
  · rw [Function.update_self]
    exact hlt

/-- What a step takes on: its connections keep their bytes. -/
structure Progresses (s s' : TcpServer) : Prop where
  work : s'.work < s.work
  arrived : (fun c => (s'.readers c).arrived) = fun c => (s.readers c).arrived
  stopped : s'.processor.stopped = s.processor.stopped

/-- The end of a read is progress. -/
theorem progresses_readComplete (h : TcpInv json received s) {c : Nat} {movedFrom : List UInt8}
    (hs : s.step json (.readComplete c movedFrom) = some s') : Progresses s s' := by
  simp only [step, readHandler, Option.ite_none_right_eq_some] at hs
  obtain ⟨⟨hissued, -⟩, hs⟩ := hs
  obtain ⟨⟨loop, events⟩, hresult, rfl⟩ := Option.map_eq_some_iff.mp hs
  have hreader : ((s.readers c).handled (loop, events)).work < (s.readers c).work :=
    @ReadRun.work_lt_of_complete _ _ movedFrom (by simp [ReadRun.step, hresult])
  have hsum := sum_work_update (s := s) hissued.2 hreader
  have harrived : (fun c' => (Function.update s.readers c
      ((s.readers c).handled (loop, events)) c').arrived) = fun c' => (s.readers c').arrived := by
    funext c'
    by_cases heq : c' = c
    · subst heq
      rw [Function.update_self]
      rfl
    · rw [Function.update_of_ne heq]
  rcases ReadLoop.events_cases (.inl ⟨movedFrom, hresult⟩) with hevents | ⟨bytes, hevents⟩ | hevents
  · obtain rfl : events = [] := hevents
    refine ⟨?_, harrived, rfl⟩
    exact Nat.add_lt_add_right (Nat.mul_lt_mul_of_pos_left hsum (by decide)) _
  · obtain rfl : events = [.received bytes] := hevents
    refine ⟨?_, harrived, Transport.enqueue_stopped bytes⟩
    -- The reader gives four units, and the processor takes on three of them at most.
    have hqueue := s.processor.queueWork_enqueue (jsonNetworkCodec json) c bytes
    show 4 * ∑ c' ∈ Finset.range s.next, (Function.update s.readers c
        ((s.readers c).handled (loop, [.received bytes])) c').work
      + (s.processor.enqueue (jsonNetworkCodec json) c bytes).queueWork
      < 4 * ∑ c' ∈ Finset.range s.next, (s.readers c').work + s.processor.queueWork
    omega
  · obtain rfl : events = [.disconnected] := hevents
    refine ⟨?_, harrived, rfl⟩
    have hnext : ((s.run.server.removeConnection c).removeSession c).1.nextConnectionId = s.next :=
      next_disconnect (ServerRun.consistent_reachable h.run) c
    show 4 * ∑ c' ∈ Finset.range
        ((s.run.server.removeConnection c).removeSession c).1.nextConnectionId, _
      + s.processor.queueWork < 4 * _ + s.processor.queueWork
    rw [hnext]
    exact Nat.add_lt_add_right (Nat.mul_lt_mul_of_pos_left hsum (by decide)) _

/-- The processor takes a step, and the connections stay. -/
theorem Progresses.of_processor {op : ProcessorOp} (hop : op = .emplace 0 ∨ op = .swap ∨ op = .run)
    {processor : MessageProcessor MessageType Json Message} {run : ServerRun}
    (hs : s.processor.step (jsonNetworkCodec json) op = some processor)
    (hnext : run.server.nextConnectionId = s.next) :
    Progresses s { s with run, processor } := by
  refine ⟨?_, rfl, Transport.processor_stopped hop hs⟩
  have hqueue := MessageProcessor.queueWork_lt_of_step (jsonNetworkCodec json) hop hs
  show 4 * ∑ c ∈ Finset.range run.server.nextConnectionId, (s.readers c).work
      + processor.queueWork
    < 4 * ∑ c ∈ Finset.range s.next, (s.readers c).work + s.processor.queueWork
  rw [hnext]
  omega

/-- Every internal step is progress. -/
theorem progresses_step {l : TcpServerOp} (h : TcpInv json received s) (hl : Internal l)
    (hs : s.step json l = some s') : Progresses s s' := by
  cases l with
  | accept | arrive | readError | writeError | persist | stop => exact absurd hl id
  | readComplete c movedFrom => exact progresses_readComplete h hs
  | emplace =>
    obtain ⟨processor, hprocessor, rfl⟩ := Option.map_eq_some_iff.mp hs
    exact .of_processor (.inl rfl) hprocessor rfl
  | swap =>
    obtain ⟨processor, hprocessor, rfl⟩ := Option.map_eq_some_iff.mp hs
    exact .of_processor (.inr (.inl rfl)) hprocessor rfl
  | run =>
    obtain ⟨task, -, hs⟩ := Option.bind_eq_some_iff.mp hs
    obtain ⟨processor, hprocessor, rfl⟩ := Option.map_eq_some_iff.mp hs
    exact .of_processor (.inr (.inr rfl)) hprocessor
      (next_handleTask (ServerRun.consistent_reachable h.run) task)

/-- All that has arrived has been handled: the messages of each connection are what its payloads
decode to, and unless its read loop has ended, its bytes hold no other whole frame. -/
def Settled (json : JsonLibrary) (s : TcpServer) : Prop :=
  ∀ c, s.run.Issued c →
    s.run.handled.filter (·.1 = c) = decoded json c (s.readers c).payloads ∧
    ((s.readers c).reading ≠ .stopped →
      ∃ rest, LongestSplit frame Fits (s.readers c).arrived (s.readers c).payloads rest)

/-- A reader that waits for bytes has cut all of them. -/
theorem longestSplit_of_quiescent {reader : ReadRun} (h : reader.UpToError)
    (hquiet : reader.Quiescent) (hreading : reader.reading ≠ .stopped) :
    ∃ rest, LongestSplit frame Fits reader.arrived reader.payloads rest := by
  obtain ⟨s0, hreach, -, -, hstopped | rfl⟩ := h
  · exact absurd hstopped hreading
  · obtain ⟨rest, hframed⟩ := ReadRun.framed_reachable hreach
    exact ⟨rest, hframed.split.longest prefixFree_frame
      fun _ hfits => hframed.not_frame_of_quiescent hquiet hfits⟩

/-- Where no internal step is left, everything has been handled. -/
theorem settled_of_quiet (h : TcpInv json received s) (hrunning : s.processor.stopped = false)
    (hquiet : ∀ l, Internal l → s.step json l = none) : s.Settled json := by
  have henqueuing : s.processor.enqueuing = [] := by
    have hnone := hquiet .emplace trivial
    cases hlist : s.processor.enqueuing with
    | nil => rfl
    | cons e rest => simp [step, MessageProcessor.step, hlist] at hnone
  have hbuffer : s.processor.buffer = [] := by
    have hnone := hquiet .run trivial
    cases hlist : s.processor.buffer with
    | nil => rfl
    | cons task rest => simp [step, MessageProcessor.step, hlist] at hnone
  have htasks : s.processor.tasks = [] := by
    have hnone := hquiet .swap trivial
    cases hlist : s.processor.tasks with
    | nil => rfl
    | cons task rest => simp [step, MessageProcessor.step, hlist, hbuffer, hrunning] at hnone
  -- So every input has been handled.
  have hall := h.all hrunning
  rw [henqueuing, List.map_nil, List.append_nil] at hall
  have horder := (MessageProcessor.ordered_reachable h.processor).order
  rw [hbuffer, htasks, List.append_nil, List.filterMap_nil, List.append_nil, hall,
    ← h.handled] at horder
  intro c hissued
  refine ⟨?_, ?_⟩
  · rw [horder, filter_filterMap_receive, h.payloads c]
    rfl
  · refine longestSplit_of_quiescent (h.readers c) fun movedFrom => ?_
    have hnone := hquiet (.readComplete c movedFrom) trivial
    simpa [step, readHandler, hissued, henqueuing] using hnone

/-- As long as the processor is not stopped, nothing that has arrived gets stuck: the steps that the
threads take on their own come to an end, and where none of them is enabled, every whole frame has
been handled, on each connection whose read loop goes on. These steps alone lead from every state
to such a state, without another byte. -/
theorem tcp_server_handles_all (h : (tcpServers json).Reachable Lts.anyStep s)
    (hrunning : s.processor.stopped = false) :
    (∀ l s', Internal l → s.step json l = some s' → s'.work < s.work) ∧
    ((∀ l, Internal l → s.step json l = none) → s.Settled json) ∧
    ∃ s', (tcpServers json).Leads Internal s s' ∧ (tcpServers json).Reachable Lts.anyStep s' ∧
      (∀ c, (s'.readers c).arrived = (s.readers c).arrived) ∧ s'.Settled json := by
  obtain ⟨received, hinv⟩ := tcpInv_reachable h
  refine ⟨fun l s' hl hs => (progresses_step hinv hl hs).work,
    settled_of_quiet hinv hrunning, ?_⟩
  obtain ⟨s', hleads, hreach, hkept, hquiet⟩ := h.exists_quiescent (p := Internal) work
    (fun s => (fun c => (s.readers c).arrived, s.processor.stopped)) (fun _ _ _ => trivial)
    fun t l t' ht _ hl hs => by
      obtain ⟨_, ht⟩ := tcpInv_reachable ht
      have hprogress := progresses_step ht hl hs
      exact ⟨Prod.ext hprogress.arrived hprogress.stopped, hprogress.work⟩
  obtain ⟨harrived, hstopped⟩ := Prod.mk.inj hkept
  obtain ⟨received', hinv'⟩ := tcpInv_reachable hreach
  exact ⟨s', hleads, hreach, fun c => congrFun harrived c,
    settled_of_quiet hinv' (hstopped.trans hrunning) hquiet⟩

/-- The login of the first connection is handled. -/
theorem tcp_server_handles_all_login : ∃ s, (tcpServers annsLibrary).Reachable Lts.anyStep s ∧
    s.Settled annsLibrary ∧ (s.readers 1).arrived = frame annsRequestText := by
  have hstart : (tcpServers annsLibrary).Reachable Lts.anyStep
      { run := { server := ServerState.begin withAnn, start := withAnn } } :=
    .start ⟨withAnn, rfl⟩
  obtain ⟨s, hreach, hrunning, harrived⟩ := hstart.exists_of_exec annsBytes
    (fun s => s.processor.stopped = false ∧ (s.readers 1).arrived = frame annsRequestText)
    (by decide)
  obtain ⟨-, -, s', -, hreach', hsame, hsettled⟩ := tcp_server_handles_all hreach hrunning
  exact ⟨s', hreach', hsettled, (hsame 1).trans harrived⟩

end TcpServer

end ChatCore.Server
