import ChatCore.Network.MessageProcessor
import ChatCore.Proofs.WireFormat

/-!
# `ChatCore.Proofs.MessageOrder`: messages are handled in the order of their arrival

The queue and the buffer are one queue in two parts: the buffer is taken from the front of it as
a whole. So the handled messages, then what the tasks of the buffer decode to, then what the
tasks of the queue decode to, are what the inputs decode to (`Ordered`). An input that does not
decode adds nothing to either side.

For `JsonNetworkCodec` the lookup finds exactly the types of `api::MessageTypes`
(`createMessageHandlerLookup_json`).
-/

set_option autoImplicit false

namespace ChatCore.Network

open ChatCore.Api
open ChatCore.Lib

variable {Kind Payload Message : Type} {codec : NetworkCodec Kind Payload Message}

/-- What a task passes to the handler. -/
def NetworkCodec.message (codec : NetworkCodec Kind Payload Message) (task : Task Kind Payload) :
    Option (Nat × Message) :=
  (codec.decode task.type task.payload).map (task.connectionId, ·)

/-- The task is the one that `Enqueue` makes of the input. -/
def NetworkCodec.TaskOf (codec : NetworkCodec Kind Payload Message) (input : Input)
    (task : Task Kind Payload) : Prop :=
  ∃ typeId, codec.decodeEnvelope input.2 = some (typeId, task.payload) ∧
    codec.createMessageHandlerLookup typeId = some task.type ∧ task.connectionId = input.1

/-- A task passes on what its input decodes to. -/
theorem NetworkCodec.TaskOf.receive_eq {input : Input} {task : Task Kind Payload}
    (h : codec.TaskOf input task) : codec.receive input = codec.message task := by
  obtain ⟨typeId, henvelope, hlookup, hid⟩ := h
  simp only [receive, henvelope, hlookup, message, hid, Option.bind_eq_bind, Option.bind_some]
  cases codec.decode task.type task.payload <;> rfl

namespace MessageProcessor

variable {s s' : MessageProcessor Kind Payload Message}

/-- What holds in every state of the processor. -/
structure Ordered (codec : NetworkCodec Kind Payload Message)
    (s : MessageProcessor Kind Payload Message) : Prop where
  order : s.handled ++ (s.buffer ++ s.tasks).filterMap codec.message
    = s.inputs.filterMap codec.receive
  enqueuing : ∀ e ∈ s.enqueuing, codec.TaskOf e.1 e.2

/-- An input that decodes to nothing may be added anywhere. -/
theorem Ordered.dropped (h : Ordered codec s) {input : Input} (hnone : codec.receive input = none) :
    Ordered codec (if s.stopped then s else { s with inputs := s.inputs ++ [input] }) := by
  split
  · exact h
  · refine ⟨?_, h.enqueuing⟩
    show s.handled ++ (s.buffer ++ s.tasks).filterMap codec.message
      = (s.inputs ++ [input]).filterMap codec.receive
    rw [h.order, List.filterMap_append, List.filterMap_cons_none hnone, List.filterMap_nil,
      List.append_nil]

/-- `Enqueue` before its lock keeps the order. -/
theorem ordered_enqueue (h : Ordered codec s) (connectionId : Nat) (bytes : List UInt8) :
    Ordered codec (s.enqueue codec connectionId bytes) := by
  simp only [enqueue]
  -- A malformed envelope and an unknown type id drop the input before the lock is taken.
  cases henvelope : codec.decodeEnvelope bytes with
  | none => exact h.dropped (by simp only [NetworkCodec.receive, henvelope]; rfl)
  | some envelope =>
    obtain ⟨typeId, payload⟩ := envelope
    cases hlookup : codec.createMessageHandlerLookup typeId with
    | none =>
      simp only [hlookup]
      refine h.dropped ?_
      simp only [NetworkCodec.receive, henvelope, Option.bind_eq_bind, Option.bind_some, hlookup]
      rfl
    | some type =>
      simp only [hlookup]
      refine ⟨h.order, fun e he => ?_⟩
      cases List.mem_append.mp he with
      | inl hold => exact h.enqueuing e hold
      | inr hnew =>
        rw [List.mem_singleton.mp hnew]
        exact ⟨typeId, henvelope, hlookup, rfl⟩

/-- The locked part of `Enqueue` keeps the order. -/
theorem ordered_emplace (h : Ordered codec s) {input : Input} {task : Task Kind Payload}
    (htask : codec.TaskOf input task) : Ordered codec (s.emplace input task) := by
  unfold emplace
  split
  · exact h
  · refine ⟨?_, h.enqueuing⟩
    show s.handled ++ (s.buffer ++ (s.tasks ++ [task])).filterMap codec.message
      = (s.inputs ++ [input]).filterMap codec.receive
    have hone : [input].filterMap codec.receive = [task].filterMap codec.message := by
      rw [List.filterMap_cons, List.filterMap_cons, htask.receive_eq]
      rfl
    rw [← List.append_assoc, List.filterMap_append, ← List.append_assoc, h.order,
      List.filterMap_append, hone]

/-- A task keeps the order. -/
theorem ordered_runTask {task : Task Kind Payload} {rest : List (Task Kind Payload)}
    (h : Ordered codec s) (hbuffer : s.buffer = task :: rest) :
    Ordered codec ({ s with buffer := rest }.runTask codec task) := by
  have horder := h.order
  rw [hbuffer, List.cons_append, List.filterMap_cons, NetworkCodec.message] at horder
  unfold runTask
  cases hdecode : codec.decode task.type task.payload with
  | none =>
    rw [hdecode] at horder
    exact ⟨horder, h.enqueuing⟩
  | some message =>
    rw [hdecode] at horder
    refine ⟨?_, h.enqueuing⟩
    show (s.handled ++ [(task.connectionId, message)]) ++ _ = _
    rw [List.append_assoc]
    exact horder

/-- A step keeps the order. -/
theorem ordered_step {l : ProcessorOp} (h : Ordered codec s) (hstep : s.step codec l = some s') :
    Ordered codec s' := by
  cases l with
  | enqueue connectionId bytes =>
    cases hstep
    exact ordered_enqueue h connectionId bytes
  | emplace i =>
    obtain ⟨⟨input, task⟩, hget, rfl⟩ := Option.map_eq_some_iff.mp hstep
    have htask := h.enqueuing _ (List.mem_of_getElem? hget)
    have hrest : Ordered codec { s with enqueuing := s.enqueuing.eraseIdx i } :=
      ⟨h.order, fun e he => h.enqueuing e (List.mem_of_mem_eraseIdx he)⟩
    exact ordered_emplace hrest htask
  | swap =>
    simp only [step] at hstep
    split at hstep
    · -- The buffer is empty, so it may take the place of the queue.
      rename_i hguard
      cases hstep
      have hnil : s.buffer = [] := List.isEmpty_iff.mp hguard.1
      have horder := h.order
      rw [hnil, List.nil_append] at horder
      refine ⟨?_, h.enqueuing⟩
      show s.handled ++ (s.tasks ++ []).filterMap codec.message = _
      rw [List.append_nil]
      exact horder
    · cases hstep
  | run =>
    simp only [step] at hstep
    split at hstep
    · cases hstep
    · rename_i task rest hbuffer
      cases hstep
      exact ordered_runTask h hbuffer
  | stop =>
    cases hstep
    exact ⟨h.order, h.enqueuing⟩

/-- The order is kept in every run. -/
theorem ordered_reachable (h : (processing codec).Reachable Lts.anyStep s) : Ordered codec s := by
  refine h.invariant (I := Ordered codec) ?_ fun s l s' ih _ hstep => ordered_step ih hstep
  rintro s rfl
  exact ⟨rfl, fun _ he => absurd he List.not_mem_nil⟩

end MessageProcessor

/-! ### The lookup -/

/-- The table that a part of the types is entered into. -/
theorem foldl_update_eq_some {typeId : Kind → Nat} {id : Nat} {type : Kind} (types : List Kind)
    (hinj : ∀ t ∈ types, ∀ t' ∈ types, typeId t = typeId t' → t = t')
    (table : Nat → Option Kind) :
    types.foldl (fun lookup t => Function.update lookup (typeId t) (some t)) table id = some type ↔
      (type ∈ types ∧ typeId type = id) ∨
        ((∀ t ∈ types, typeId t ≠ id) ∧ table id = some type) := by
  induction types generalizing table with
  | nil => simp
  | cons t types ih =>
    have hrest := ih (fun t ht t' ht' =>
      hinj t (List.mem_cons_of_mem _ ht) t' (List.mem_cons_of_mem _ ht'))
      (Function.update table (typeId t) (some t))
    rw [List.foldl_cons, hrest]
    by_cases hid : typeId t = id
    · -- This entry counts unless a later type has the same id, which is then the same type.
      subst hid
      rw [Function.update_self, Option.some.injEq]
      constructor
      · rintro (⟨hmem, heq⟩ | ⟨-, rfl⟩)
        · exact .inl ⟨List.mem_cons_of_mem _ hmem, heq⟩
        · exact .inl ⟨List.mem_cons_self, rfl⟩
      · rintro (⟨hmem, heq⟩ | ⟨hnone, -⟩)
        · have hsame : type = t := hinj type hmem t List.mem_cons_self heq
          subst hsame
          by_cases hlater : type ∈ types
          · exact .inl ⟨hlater, rfl⟩
          · refine .inr ⟨fun t' ht' heq' => hlater ?_, rfl⟩
            rw [← hinj t' (List.mem_cons_of_mem _ ht') type List.mem_cons_self heq']
            exact ht'
        · exact absurd rfl (hnone t List.mem_cons_self)
    · rw [Function.update_of_ne (Ne.symm hid)]
      constructor
      · rintro (⟨hmem, heq⟩ | ⟨hnone, htable⟩)
        · exact .inl ⟨List.mem_cons_of_mem _ hmem, heq⟩
        · refine .inr ⟨fun t' ht' => ?_, htable⟩
          cases List.mem_cons.mp ht' with
          | inl hhead => rw [hhead]; exact hid
          | inr htail => exact hnone t' htail
      · rintro (⟨hmem, heq⟩ | ⟨hnone, htable⟩)
        · cases List.mem_cons.mp hmem with
          | inl hhead => exact absurd (hhead ▸ heq) hid
          | inr htail => exact .inl ⟨htail, heq⟩
        · exact .inr ⟨fun t' ht' => hnone t' (List.mem_cons_of_mem _ ht'), htable⟩

/-- The lookup of the server finds the types of `api::MessageTypes`, each under its own id. -/
theorem createMessageHandlerLookup_json {json : JsonLibrary} {typeId : Nat} {type : MessageType} :
    (jsonNetworkCodec json).createMessageHandlerLookup typeId = some type ↔
      type ∈ messageTypes ∧ type.typeId = typeId := by
  have hinj : ∀ t ∈ messageTypes, ∀ t' ∈ messageTypes, t.typeId = t'.typeId → t = t' := by decide
  refine (foldl_update_eq_some messageTypes hinj fun _ => none).trans ?_
  simp

/-- An input that is handled: its envelope decodes, its type id is one of `api::MessageTypes`, and
its payload decodes as a message of that type. -/
theorem receive_json_eq_some {json : JsonLibrary} {input : Input} {c : Nat} {m : Api.Message} :
    (jsonNetworkCodec json).receive input = some (c, m) ↔ c = input.1 ∧ ∃ type ∈ messageTypes,
      ∃ payload, JsonNetworkCodec.decodeEnvelope json input.2 = some (type.typeId, payload) ∧
        JsonNetworkCodec.decode type payload = some m := by
  simp only [NetworkCodec.receive, Option.bind_eq_bind, Option.bind_eq_some_iff]
  constructor
  · rintro ⟨⟨typeId, payload⟩, henvelope, type, hlookup, message, hdecode, heq⟩
    cases heq
    obtain ⟨hmem, rfl⟩ := createMessageHandlerLookup_json.mp hlookup
    exact ⟨rfl, type, hmem, payload, henvelope, hdecode⟩
  · rintro ⟨rfl, type, hmem, payload, henvelope, hdecode⟩
    exact ⟨(type.typeId, payload), henvelope, type,
      createMessageHandlerLookup_json.mpr ⟨hmem, rfl⟩, m, hdecode, rfl⟩

/-! ### The order -/

/-- The calls of `HandleMessage` are a prefix of what the inputs decode to, in the order in which
they entered the queue. Nothing is missing when the queue and the buffer are empty. An input
decodes to a message of its own connection, if its envelope, its type id and its payload are
good. -/
theorem MessageProcessor.handled_in_order {json : JsonLibrary}
    {s : MessageProcessor MessageType Json Api.Message}
    (h : (processing (jsonNetworkCodec json)).Reachable Lts.anyStep s) :
    s.handled <+: s.inputs.filterMap (jsonNetworkCodec json).receive ∧
    (s.buffer = [] → s.tasks = [] →
      s.handled = s.inputs.filterMap (jsonNetworkCodec json).receive) ∧
    ∀ input c m, (jsonNetworkCodec json).receive input = some (c, m) ↔
      c = input.1 ∧ ∃ type ∈ messageTypes, ∃ payload,
        JsonNetworkCodec.decodeEnvelope json input.2 = some (type.typeId, payload) ∧
          JsonNetworkCodec.decode type payload = some m := by
  have horder := (ordered_reachable h).order
  refine ⟨⟨_, horder⟩, fun hbuffer htasks => ?_, fun _ _ _ => receive_json_eq_some⟩
  rw [hbuffer, htasks] at horder
  rw [← horder]
  exact (List.append_nil _).symm

/-- A malformed input of connection 1 between two messages of connections 2 and 3, with a `Stop`
while the second one is in the buffer. -/
theorem MessageProcessor.handled_in_order_malformed :
    let json := JsonNetworkCodec.libraryFor (.writeChat ⟨"hi"⟩) JsonNetworkCodec.writeChatText
    ∃ s, (processing (jsonNetworkCodec json)).Reachable Lts.anyStep s ∧
      s.handled = [(2, .writeChat ⟨"hi"⟩), (3, .writeChat ⟨"hi"⟩)] ∧
      s.handled <+: s.inputs.filterMap (jsonNetworkCodec json).receive := by
  intro json
  have hstart : (processing (jsonNetworkCodec json)).Reachable Lts.anyStep {} := .start rfl
  obtain ⟨s, hreach, hhandled⟩ := hstart.exists_of_exec
      [.enqueue 2 JsonNetworkCodec.writeChatText, .emplace 0, .enqueue 1 [123],
        .enqueue 3 JsonNetworkCodec.writeChatText, .emplace 0, .swap, .run, .stop, .run]
      (fun s => s.handled = [(2, .writeChat ⟨"hi"⟩), (3, .writeChat ⟨"hi"⟩)]) (by decide)
  exact ⟨s, hreach, hhandled, (handled_in_order hreach).1⟩

end ChatCore.Network
