import ChatCore.Client.RemoteCalls
import ChatCore.Proofs.Answers
import ChatCore.Proofs.Membership
import ChatCore.Proofs.RpcCalls
import Mathlib.Data.Prod.Lex

/-!
# `ChatCore.Proofs.RemoteCalls`: a call gets the answer of the server to its own request

The client numbers its requests (`Matched`), and the server answers every request once, on the
connection on which it came (`ServerState.answers_replies`). So for each id the requests on the
way to the server, the answers on the way to the client and the answers that were received are
together as many as the requests that were sent, and this is at most one (`Conserved.balance`).
`AnswerOf` says where an answer comes from.

`call_answered_once` is this balance for a call. With `Matched.invoked` it follows that a callback
is invoked with what the server made of the request of its own call (`callback_from_server`).
-/

set_option autoImplicit false

namespace ChatCore.Network.RpcSystem

open ChatCore.Api
open ChatCore.Lib
open ChatCore.Scheduling (SchedulingOp SchedulingSystem)

/-! ### What the steps of the client leave alone -/

variable {Kind Message : Type} [DecidableEq Kind] {api : RpcApi Kind Message}
  {s s' : RpcSystem Kind Message}

/-- A step of `HandleCallback` changes no stage. -/
theorem stage_of_handleStep {thread : CallbackThread} {h : Handling Kind Message}
    {builder : RpcCallBuilder Kind} (hs : HandleStep s thread h builder s') :
    s'.stage = s.stage := by
  cases hs <;> rfl

/-- A call that has returned stays so. -/
theorem returned_of_transition (ht : Transition api s s') {k : Nat}
    (hk : s.stage k = .returned) : s'.stage k = .returned := by
  -- Only a call that has not returned gets another stage.
  have hother : ∀ {j : Nat} {stage : CallStage Kind}, s.stage j ≠ .returned →
      Function.update s.stage j stage k = .returned := by
    intro j stage hj
    by_cases heq : k = j
    · subst heq
      exact absurd hk hj
    · rw [Function.update_of_ne heq]
      exact hk
  cases ht with
  | subscribeSuccess _ hstage | subscribeError _ hstage | schedule _ hstage _ _
  | record _ hstage _ => exact hother (by simp [hstage])
  | emplace _ hstage =>
    unfold emplace
    split <;> exact hother (by simp [hstage])
  | send _ hstage =>
    rcases hstage with ⟨hstage, -⟩ | hstage
    · exact hother (by simp [hstage])
    · exact hother (by simp [hstage])
  | handle _ _ hstep =>
    rw [stage_of_handleStep hstep]
    exact hk
  | _ => exact hk

/-- A slot that gets a message changes neither the prepared calls nor what was received. -/
theorem frame_deliver (i : Nat) (emission : Emission Message) (id : Nat) :
    (s.deliver api i emission id).prepared = s.prepared ∧
      (s.deliver api i emission id).received = s.received := by
  unfold deliver
  split
  · exact ⟨rfl, rfl⟩
  · split
    · exact ⟨rfl, rfl⟩
    · unfold runSlot
      split
      · exact ⟨rfl, rfl⟩
      · split
        · exact ⟨rfl, rfl⟩
        · split <;> exact ⟨rfl, rfl⟩

/-- The steps that neither prepare a call nor receive a message. -/
theorem frame_step {op : RpcOp Kind Message} (h : s.step api op = some s')
    (hprepare : ∀ type c b e t d, op ≠ .prepare type c b e t d) (hemit : ∀ c m, op ≠ .emit c m) :
    s'.prepared = s.prepared ∧ s'.received = s.received := by
  cases op with
  | prepare type c b e t d => exact absurd rfl (hprepare type c b e t d)
  | emit c m => exact absurd rfl (hemit c m)
  | subscribe type =>
    cases h
    exact ⟨rfl, rfl⟩
  | subscribeSuccess k | subscribeError k | unsubscribe i =>
    simp only [step] at h
    split at h
    · cases h
      exact ⟨rfl, rfl⟩
    · cases h
  | emplace k =>
    simp only [step] at h
    split at h
    · cases h
      unfold emplace
      split <;> exact ⟨rfl, rfl⟩
    · cases h
  | schedule k byCallback =>
    simp only [step] at h
    split at h
    · obtain ⟨duration, -, h⟩ := Option.bind_eq_some_iff.mp h
      obtain ⟨scheduler, -, rfl⟩ := Option.map_eq_some_iff.mp h
      exact ⟨rfl, rfl⟩
    · cases h
  | record k =>
    simp only [step] at h
    split at h
    · split at h
      · cases h
        exact ⟨rfl, rfl⟩
      · cases h
    · cases h
  | send k =>
    simp only [step] at h
    split at h
    · split at h
      · cases h
        exact ⟨rfl, rfl⟩
      · cases h
    · cases h
      exact ⟨rfl, rfl⟩
    · cases h
  | deliver i j =>
    simp only [step] at h
    split at h
    · obtain ⟨id, -, rfl⟩ := Option.map_eq_some_iff.mp h
      exact frame_deliver ..
    · cases h
  | handle thread =>
    simp only [step] at h
    split at h
    · cases h
    · obtain ⟨builder, -, h⟩ := Option.bind_eq_some_iff.mp h
      -- `HandleCallback` works on the calls and the slots.
      have hframe := handleFrame (handleStep_of_handle h)
      exact ⟨hframe.prepared, hframe.received⟩
  | schedulerStep op =>
    simp only [step] at h
    split at h
    · cases h
    · obtain ⟨scheduler, -, rfl⟩ := Option.map_eq_some_iff.mp h
      cases op with
      | call i =>
        simp only [runTimeout]
        split <;> exact ⟨rfl, rfl⟩
      | _ => exact ⟨rfl, rfl⟩

/-- `Prepare` adds one call and gives it the next id. -/
theorem prepare_spec {type : Kind} {connectionId : Nat} {b e t : Bool} {d : Option Int}
    (h : s.step api (.prepare type connectionId b e t d) = some s') :
    ∃ builder, api.response type = some builder.responseType ∧
      api.error type = some builder.errorType ∧ s'.prepared = s.prepared ++ [builder] ∧
      s'.stage = s.stage ∧ s'.received = s.received := by
  simp only [step, RpcSystem.prepare, Option.bind_eq_bind, Option.bind_eq_some_iff] at h
  obtain ⟨responseType, hresponse, errorType, herror, h⟩ := h
  cases h
  exact ⟨_, hresponse, herror, rfl, rfl, rfl⟩

/-- `Send` is the last step of `Call`. -/
theorem send_spec {k : Nat} (h : s.step api (.send k) = some s') :
    s.stage k ≠ .returned ∧ s'.stage k = .returned := by
  simp only [step] at h
  split at h
  · rename_i hstage
    split at h
    · cases h
      exact ⟨by simp [hstage], Function.update_self _ _ _⟩
    · cases h
  · rename_i hstage
    cases h
    exact ⟨by simp [hstage], Function.update_self _ _ _⟩
  · cases h

end ChatCore.Network.RpcSystem

namespace ChatCore.Server

open ChatCore.Api
open ChatCore.Lib

/-! ### What the server sends on the connection -/

/-- The answers that a connection is handed are its part of the answers. -/
theorem filter_handedTo (connections : List Nat) (calls : List Call) (d : Nat) :
    (handedTo connections calls d).filter (·.type.isRpcAnswer)
      = handedTo connections (answers calls) d := by
  unfold handedTo
  rw [← filter_deliveries, List.filter_map, List.filter_filter, List.filter_filter]
  refine congrArg _ (List.filter_congr fun delivery _ => ?_)
  exact Bool.and_comm _ _

namespace ServerState

variable {s : ServerState} {c d : Nat} {m : Message}

/-- A message that is no request has no answer. -/
theorem answers_of_not_request (hm : m.type.rpcResponse = none) : answers (s.replies c m) = [] := by
  have htypes : ∀ type : MessageType, type.rpcResponse = none →
      ∀ t ∈ replyTypes type, t.isRpcAnswer = false := by
    intro type htype
    cases type <;> first | (cases htype; done) | decide
  refine List.filter_eq_nil_iff.mpr fun call hcall hanswer => ?_
  obtain ⟨message, hmessage, htype⟩ := Option.any_eq_true _ _ |>.mp hanswer
  have hmem := ofTypes_replies (s := s) (c := c) m call hcall message hmessage
  rw [htypes _ hm _ hmem] at htype
  cases htype

/-- The server sends the answer to a message of one connection to no other connection. -/
theorem handedTo_answers_of_ne (hne : c ≠ d) (connections : List Nat) (m : Message) :
    handedTo connections (answers (s.replies c m)) d = [] := by
  cases hm : m.type.rpcResponse with
  | none => rw [answers_of_not_request hm]; rfl
  | some response =>
    obtain ⟨answer, -, -, hanswers⟩ := answers_replies (s := s) (c := c) (by rw [hm]; rfl)
    rw [hanswers]
    unfold handedTo
    simp only [List.flatMap_singleton, Call.deliveries]
    split <;> simp [hne]

/-- The answer to a request reaches its connection while it is registered. -/
theorem handedTo_answer {connections : List Nat} (hc : c ∈ connections) (answer : Message) :
    handedTo connections [.send c answer] c = [answer] := by
  simp [handedTo, Call.deliveries, hc]

end ServerState

namespace ServerRun

variable {r r' : ServerRun}

/-- The registered connections have ids that were handed out. -/
theorem issued_of_mem (h : serverRuns.Reachable Lts.anyStep r) :
    0 < r.server.nextConnectionId ∧ ∀ c ∈ r.server.connections, r.Issued c := by
  refine h.invariant_of_reachable
    (I := fun r => 0 < r.server.nextConnectionId ∧ ∀ c ∈ r.server.connections, r.Issued c) ?_ ?_
  · rintro r ⟨db, rfl⟩
    exact ⟨Nat.one_pos, fun c hc => absurd hc List.not_mem_nil⟩
  · intro r op r' hreach ih _ hs
    have hcons := consistent_reachable hreach
    rcases step_cases hs with ⟨-, rfl⟩ | ⟨c, m, -, -, rfl⟩ | ⟨c, -, -, rfl⟩ | ⟨_, _, _, -, -, rfl⟩
    · refine ⟨Nat.succ_pos _, fun c hc => ?_⟩
      rcases List.mem_append.mp hc with hc | hc
      · exact ⟨(ih.2 c hc).1, Nat.lt_succ_of_lt (ih.2 c hc).2⟩
      · rw [List.mem_singleton.mp hc]
        exact ⟨ih.1, Nat.lt_succ_self _⟩
    · obtain ⟨hconnections, hnext⟩ :=
        ServerState.connections_handled (ServerState.handled_handle hcons c m)
      unfold Issued record
      simp only [hconnections, hnext]
      exact ih
    · obtain ⟨hconnections, hnext, -⟩ := ServerState.disconnect_frame hcons c
      unfold Issued record
      simp only [hconnections, hnext]
      exact ⟨ih.1, fun c' hc' => ih.2 c' (List.mem_filter.mp hc').1⟩
    · exact ih

/-- A step of another connection leaves the connection open and sends it no answer. -/
theorem step_of_other {op : ServerOp} {calls : List Call} {d : Nat}
    (hcons : r.server.Consistent) (hother : Client.RemoteCalls.OtherConnection d op)
    (hs : r.step op = some r') (htrace : r'.trace = r.trace ++ [⟨op, calls⟩])
    (hopen : d ∈ r.server.connections) :
    d ∈ r'.server.connections ∧ handedTo r'.server.connections (answers calls) d = [] := by
  rcases step_cases hs with ⟨rfl, rfl⟩ | ⟨c, m, rfl, -, rfl⟩ | ⟨c, rfl, -, rfl⟩ |
    ⟨_, _, _, rfl, -, rfl⟩
  · obtain rfl := calls_of_record htrace
    exact ⟨List.mem_append_left _ hopen, rfl⟩
  · obtain rfl := calls_of_record htrace
    -- A handler answers the connection of its message, which is another one.
    obtain ⟨hconnections, -⟩ :=
      ServerState.connections_handled (ServerState.handled_handle hcons c m)
    refine ⟨?_, ?_⟩
    · show d ∈ (r.server.handle c m).1.connections
      rw [hconnections]
      exact hopen
    · rw [ServerState.handle_replies hcons c m]
      exact ServerState.handedTo_answers_of_ne hother _ m
  · obtain rfl := calls_of_record htrace
    obtain ⟨hconnections, -, -⟩ := ServerState.disconnect_frame hcons c
    refine ⟨?_, ?_⟩
    · show d ∈ ((r.server.removeConnection c).removeSession c).1.connections
      rw [hconnections]
      exact List.mem_filter.mpr ⟨hopen, by simpa using Ne.symm hother⟩
    · -- A logout event is no answer.
      have hcons' := consistent_removeConnection hcons c
      by_cases hsession : ∃ u, (c, u) ∈ (r.server.removeConnection c).users.userSessions
      · obtain ⟨u, hu⟩ := hsession
        obtain ⟨users, -, hremove⟩ := ServerState.removeSession_of_session hcons' c hu
        rw [hremove]
        rfl
      · rw [ServerState.removeSession_of_not_session c (not_exists.mp hsession)]
        rfl
  · obtain rfl : calls = [] := by simpa [record] using htrace.symm
    exact ⟨hopen, rfl⟩

end ServerRun

end ChatCore.Server

namespace ChatCore.Client

open ChatCore.Api
open ChatCore.Lib
open ChatCore.Network
open ChatCore.Server

/-! ### Requests and answers -/

/-- The number of requests with an id. -/
def requestsWith (id : Nat) (messages : List Message) : Nat :=
  messages.countP (·.requestId = some id)

/-- The number of answers to the request with an id. -/
def answersTo (id : Nat) (messages : List Message) : Nat :=
  (messages.filter (·.type.isRpcAnswer)).countP (·.requestId = some id)

/-- The answers in two lists one after the other. -/
theorem answersTo_append (id : Nat) (messages messages' : List Message) :
    answersTo id (messages ++ messages') = answersTo id messages + answersTo id messages' := by
  unfold answersTo
  rw [List.filter_append, List.countP_append]

/-- The requests in two lists one after the other. -/
theorem requestsWith_append (id : Nat) (messages messages' : List Message) :
    requestsWith id (messages ++ messages')
      = requestsWith id messages + requestsWith id messages' :=
  List.countP_append

/-- The type that completes a request of the type with success or with an error. -/
def rpcAnswer (type : MessageType) : Answer → Option MessageType
  | .success => type.rpcResponse
  | .error => type.rpcError

/-- What answers a call is an answer. -/
theorem isRpcAnswer_of_rpcAnswer {request type : MessageType} {answer : Answer}
    (h : rpcAnswer request answer = some type) : type.isRpcAnswer = true :=
  MessageType.isRpcAnswer_iff.mpr ⟨request, by
    cases answer with
    | success => exact .inl h
    | error => exact .inr h⟩

/-- A message arrives with its type. -/
theorem received_type (m : Message) : m.received.type = m.type := by
  cases m <;> rfl

/-- A request arrives as it is. -/
theorem received_of_request {m : Message} (hm : m.type.rpcResponse.isSome = true) :
    m.received = m := by
  cases m <;> first | rfl | cases hm

/-- A message arrives with its request id. -/
theorem received_requestId (m : Message) : m.received.requestId = m.requestId := by
  cases m <;> rfl

/-- What the server makes of a message of the connection: one answer to a request, and none to
another message. -/
theorem answersTo_handle {r : ServerRun} {d : Nat} {connections : List Nat} {m : Message}
    (hcons : r.server.Consistent) (hopen : d ∈ connections)
    (hm : m.type.rpcResponse.isSome = true ∨ m.requestId = none) (id : Nat) :
    answersTo id (handedTo connections (r.server.handle d m).2 d) = requestsWith id [m] := by
  unfold answersTo
  rw [filter_handedTo, ServerState.handle_replies hcons d m]
  rcases hm with hm | hm
  · obtain ⟨answer, -, hid, hanswers⟩ := ServerState.answers_replies (s := r.server) (c := d) hm
    rw [hanswers, ServerState.handedTo_answer hopen]
    simp [requestsWith, List.countP_singleton, hid]
  · have hresponse : m.type.rpcResponse = none := by
      cases m <;> first | rfl | cases hm
    rw [ServerState.answers_of_not_request hresponse]
    simp [requestsWith, hm, handedTo]

namespace RemoteCalls

variable {clientId serverId : Nat} {s s' : RemoteCalls}

/-- The messages that the client has received on the connection. -/
def received (clientId : Nat) (s : RemoteCalls) : List Message :=
  (s.rpc.received.filter (·.1 = clientId)).map Prod.snd

/-- The server has handled the request of a call, and the message is the one answer that it sent
for it. -/
def AnswerOf (serverId : Nat) (s : RemoteCalls) (k : Nat) (answer : Message) : Prop :=
  ∃ request, (k, request) ∈ s.sent ∧ ∃ e ∈ s.server.trace,
    e.op = .handle serverId request ∧ answers e.calls = [.send serverId answer]

/-- An answer stays one when more requests are sent and the server goes on. -/
theorem AnswerOf.mono {k : Nat} {answer : Message} (h : AnswerOf serverId s k answer)
    (hsent : s.sent ⊆ s'.sent) (htrace : s.server.trace ⊆ s'.server.trace) :
    AnswerOf serverId s' k answer := by
  obtain ⟨request, hrequest, e, he, hop, hanswers⟩ := h
  exact ⟨request, hsent hrequest, e, htrace he, hop, hanswers⟩

/-- What holds while the connection is open. -/
structure Conserved (clientId serverId : Nat) (s : RemoteCalls) : Prop where
  rpc : (rpcs chatRpcApi).Reachable Lts.anyStep s.rpc
  server : serverRuns.Reachable Lts.anyStep s.server
  isOpen : serverId ∈ s.server.server.connections
  /-- Each prepared call has its request, with its own id. -/
  length : s.requests.length = s.rpc.prepared.length
  requests : ∀ k request, s.requests[k]? = some request → request.requestId = some (k + 1) ∧
    ∃ builder, s.rpc.prepared[k]? = some builder ∧
      ∀ answer, rpcAnswer request.type answer = some (builder.answerType answer)
  /-- A call sends its request once. -/
  sent : ∀ k request, (k, request) ∈ s.sent →
    s.requests[k]? = some request ∧ s.rpc.stage k = .returned
  nodup : (s.sent.map Prod.fst).Nodup
  toServer : ∀ m ∈ s.toServer, m.requestId = none ∨ ∃ k, (k, m) ∈ s.sent
  balance : ∀ k, requestsWith (k + 1) s.toServer + answersTo (k + 1) s.toClient
    + answersTo (k + 1) (received clientId s) = (s.sent.map Prod.fst).count k
  /-- An answer on its way, or one that has arrived, is an answer of the server. -/
  origin : ∀ m ∈ s.toClient, m.type.isRpcAnswer = true → ∃ k, AnswerOf serverId s k m ∧
    m.requestId = some (k + 1)
  arrived : ∀ m ∈ received clientId s, m.type.isRpcAnswer = true →
    ∃ k answer, AnswerOf serverId s k answer ∧ m = answer.received ∧ m.requestId = some (k + 1)

namespace Conserved

/-- The balance holds before the first call. -/
theorem start {server : ServerRun} (hserver : serverRuns.Reachable Lts.anyStep server)
    (hopen : serverId ∈ server.server.connections) :
    Conserved clientId serverId { server := server } where
  rpc := .start rfl
  server := hserver
  isOpen := hopen
  length := rfl
  requests _ _ h := by simp at h
  sent _ _ h := absurd h List.not_mem_nil
  nodup := List.nodup_nil
  toServer _ h := absurd h List.not_mem_nil
  balance _ := rfl
  origin _ h := absurd h List.not_mem_nil
  arrived _ h := absurd h List.not_mem_nil

/-- A request that was sent carries the id of its call. -/
theorem request_isSome (h : Conserved clientId serverId s) {k : Nat} {m : Message}
    (hm : (k, m) ∈ s.sent) : m.requestId = some (k + 1) ∧ m.type.rpcResponse.isSome = true := by
  obtain ⟨hid, builder, -, htypes⟩ := h.requests k m (h.sent k m hm).1
  exact ⟨hid, Option.isSome_iff_exists.mpr ⟨_, htypes .success⟩⟩

/-- A step of the client that has no part in the connection. -/
theorem of_rpc (h : Conserved clientId serverId s) {rpc : RpcSystem MessageType Message}
    (op : RpcOp MessageType Message) (hs : s.rpc.step chatRpcApi op = some rpc)
    (hprepared : rpc.prepared = s.rpc.prepared)
    (hreceived : received clientId { s with rpc } = received clientId s) :
    Conserved clientId serverId { s with rpc } where
  rpc := .step (l := op) h.rpc trivial hs
  server := h.server
  isOpen := h.isOpen
  length := by rw [hprepared]; exact h.length
  requests := by rw [hprepared]; exact h.requests
  sent k request hk := ⟨(h.sent k request hk).1,
    RpcSystem.returned_of_transition (RpcSystem.transition_of_step hs) (h.sent k request hk).2⟩
  nodup := h.nodup
  toServer := h.toServer
  balance k := by rw [hreceived]; exact h.balance k
  origin := h.origin
  arrived m hm := by rw [hreceived] at hm; exact h.arrived m hm

/-- What arrives on the connection depends on the received messages only. -/
theorem received_of_rpc {rpc : RpcSystem MessageType Message}
    (hreceived : rpc.received = s.rpc.received) :
    received clientId { s with rpc } = received clientId s := by
  unfold received
  rw [hreceived]

/-- A step of the `RpcSystem` elsewhere keeps the balance. -/
theorem rpcStep (h : Conserved clientId serverId s) {rpc : RpcSystem MessageType Message}
    {op : RpcOp MessageType Message} (hop : Elsewhere clientId op)
    (hs : s.rpc.step chatRpcApi op = some rpc) : Conserved clientId serverId { s with rpc } := by
  have hprepare : ∀ type c b e t d, op ≠ .prepare type c b e t d := by
    rintro type c b e t d rfl
    exact hop
  by_cases hemit : ∃ c m, op = .emit c m
  · obtain ⟨c, m, rfl⟩ := hemit
    have hne : c ≠ clientId := hop
    cases hs
    refine h.of_rpc (.emit c m) rfl rfl ?_
    simp [received, List.filter_append, hne]
  · have hframe := RpcSystem.frame_step hs hprepare fun c m heq => hemit ⟨c, m, heq⟩
    exact h.of_rpc _ hs hframe.1 (received_of_rpc hframe.2)

/-- A prepared call with its request keeps the balance. -/
theorem prepare (h : Conserved clientId serverId s) {rpc : RpcSystem MessageType Message}
    {request : Message} {c : Nat} {b e t : Bool} {d : Option Int}
    (hid : request.requestId = some s.rpc.nextId)
    (hs : s.rpc.step chatRpcApi (.prepare request.type c b e t d) = some rpc) :
    Conserved clientId serverId { s with rpc, requests := s.requests ++ [request] } := by
  obtain ⟨builder, hresponse, herror, hprepared, hstage, hreceived⟩ := RpcSystem.prepare_spec hs
  have hmatched := (RpcSystem.tracked_reachable h.rpc).1
  have hsame : received clientId { s with rpc, requests := s.requests ++ [request] }
      = received clientId s := by
    unfold received
    simp only [hreceived]
  refine ⟨.step (l := .prepare request.type c b e t d) h.rpc trivial hs, h.server, h.isOpen, ?_,
    fun k r hk => ?_, fun k r hk => ?_, h.nodup, h.toServer, fun k => ?_, h.origin,
    fun m hm => h.arrived m (hsame ▸ hm)⟩
  · simp [hprepared, h.length]
  · rw [List.getElem?_append] at hk
    split at hk
    · obtain ⟨hrid, old, hold, htypes⟩ := h.requests k r hk
      have hlt := (List.getElem?_eq_some_iff.mp hold).1
      exact ⟨hrid, old, by rw [hprepared, List.getElem?_append_left hlt, hold], htypes⟩
    · -- The new call is the last one, and its id is the counter.
      obtain ⟨hlt, rfl⟩ := List.getElem?_eq_some_iff.mp hk
      simp only [List.length_singleton] at hlt
      have hlast : k = s.rpc.prepared.length := by
        rw [← h.length]
        omega
      rw [List.getElem_singleton, hid, hmatched.nextId, hlast]
      refine ⟨rfl, builder, ?_, fun answer => ?_⟩
      · rw [hprepared, List.getElem?_concat_length]
      · cases answer with
        | success => exact hresponse
        | error => exact herror
  · obtain ⟨hrequest, hreturned⟩ := h.sent k r hk
    have hlt := (List.getElem?_eq_some_iff.mp hrequest).1
    exact ⟨by rw [List.getElem?_append_left hlt, hrequest], by rw [hstage]; exact hreturned⟩
  · rw [hsame]
    exact h.balance k

/-- A message of the user goes to the server. -/
theorem write (h : Conserved clientId serverId s) (message : WriteChatMessage) :
    Conserved clientId serverId { s with
      toServer := s.toServer ++ [.writeChat message] } where
  rpc := h.rpc
  server := h.server
  isOpen := h.isOpen
  length := h.length
  requests := h.requests
  sent := h.sent
  nodup := h.nodup
  toServer m hm := by
    rcases List.mem_append.mp hm with hm | hm
    · exact h.toServer m hm
    · rw [List.mem_singleton.mp hm]
      exact .inl rfl
  balance k := by
    rw [requestsWith_append]
    exact h.balance k
  origin := h.origin
  arrived := h.arrived

/-- The request of a call goes to the server. -/
theorem send (h : Conserved clientId serverId s) {rpc : RpcSystem MessageType Message} {k : Nat}
    {request : Message} (hrequest : s.requests[k]? = some request)
    (hs : s.rpc.step chatRpcApi (.send k) = some rpc) :
    Conserved clientId serverId { s with
      rpc
      toServer := s.toServer ++ [request]
      sent := s.sent ++ [(k, request)] } := by
  obtain ⟨hbefore, hafter⟩ := RpcSystem.send_spec hs
  have hframe := RpcSystem.frame_step hs (by simp) (by simp)
  have hkept : Conserved clientId serverId { s with rpc } :=
    h.of_rpc _ hs hframe.1 (received_of_rpc hframe.2)
  -- The call has not returned before, so its request is not among the sent ones.
  have hfresh : k ∉ s.sent.map Prod.fst := by
    intro hmem
    obtain ⟨⟨j, r⟩, hjr, rfl⟩ := List.mem_map.mp hmem
    exact hbefore (h.sent j r hjr).2
  have hanswer : ∀ {j : Nat} {answer : Message}, AnswerOf serverId s j answer →
      AnswerOf serverId { s with
        rpc
        toServer := s.toServer ++ [request]
        sent := s.sent ++ [(k, request)] } j answer := fun h =>
    h.mono (List.subset_append_left _ _) (List.Subset.refl _)
  refine ⟨hkept.rpc, h.server, h.isOpen, hkept.length, hkept.requests, fun j r hj => ?_, ?_,
    fun m hm => ?_, fun j => ?_, fun m hm hma => ?_, fun m hm hma => ?_⟩
  · rcases List.mem_append.mp hj with hj | hj
    · exact hkept.sent j r hj
    · cases List.mem_singleton.mp hj
      exact ⟨hrequest, hafter⟩
  · rw [List.map_append, List.nodup_append]
    refine ⟨h.nodup, List.nodup_singleton _, fun a ha b hb heq => hfresh ?_⟩
    rw [← show b = k from List.mem_singleton.mp hb, ← heq]
    exact ha
  · rcases List.mem_append.mp hm with hm | hm
    · exact (h.toServer m hm).imp_right fun hex =>
        hex.imp fun j hj => List.mem_append_left _ hj
    · rw [List.mem_singleton.mp hm]
      exact .inr ⟨k, List.mem_append_right _ (List.mem_singleton_self _)⟩
  · have hbalance := hkept.balance j
    have hid := (h.requests k request hrequest).1
    simp only [requestsWith_append, List.map_append, List.count_append, List.map_singleton]
    have hone : requestsWith (j + 1) [request] = List.count j [k] := by
      simp only [requestsWith, List.countP_singleton, List.count_singleton, hid]
      by_cases heq : k = j <;> simp [heq]
    rw [hone, ← hbalance]
    show _ = requestsWith (j + 1) s.toServer + answersTo (j + 1) s.toClient
      + answersTo (j + 1) (received clientId { s with rpc }) + List.count j [k]
    have hsame : received clientId { s with
        rpc
        toServer := s.toServer ++ [request]
        sent := s.sent ++ [(k, request)] } = received clientId { s with rpc } := rfl
    rw [hsame]
    omega
  · obtain ⟨j, hj, hid⟩ := h.origin m hm hma
    exact ⟨j, hanswer hj, hid⟩
  · obtain ⟨j, answer, hj, heq, hid⟩ := hkept.arrived m hm hma
    exact ⟨j, answer, hanswer hj, heq, hid⟩

/-- A step of the server: what it sends on the connection joins the messages on the way. -/
theorem serverStep_spec {op : ServerOp} (hs : s.serverStep serverId op = some s') :
    ∃ server calls, s.server.step op = some server ∧
      server.trace = s.server.trace ++ [⟨op, calls⟩] ∧
      s' = { s with
        server
        toClient := s.toClient ++ handedTo server.server.connections calls serverId } := by
  obtain ⟨server, hserver, rfl⟩ := Option.map_eq_some_iff.mp hs
  obtain ⟨-, calls, htrace⟩ := ServerRun.step_trace hserver
  refine ⟨server, calls, hserver, htrace, ?_⟩
  rw [htrace, List.drop_left, List.flatMap_singleton]

/-- The server handles a message of another connection, or does something else. -/
theorem server_other (h : Conserved clientId serverId s) {op : ServerOp}
    (hother : OtherConnection serverId op) (hs : s.serverStep serverId op = some s') :
    Conserved clientId serverId s' := by
  obtain ⟨server, calls, hserver, htrace, rfl⟩ := serverStep_spec hs
  obtain ⟨hopen, hnone⟩ := ServerRun.step_of_other (ServerRun.consistent_reachable h.server)
    hother hserver htrace h.isOpen
  have hquiet : (handedTo server.server.connections calls serverId).filter
      (·.type.isRpcAnswer) = [] := by
    rw [filter_handedTo, hnone]
  have hanswer : ∀ {k : Nat} {answer : Message}, AnswerOf serverId s k answer →
      AnswerOf serverId { s with
        server
        toClient := s.toClient ++ handedTo server.server.connections calls serverId } k answer :=
    fun h => h.mono (List.Subset.refl _) (htrace ▸ List.subset_append_left _ _)
  refine ⟨h.rpc, .step (l := op) h.server trivial hserver, hopen, h.length, h.requests, h.sent,
    h.nodup, h.toServer, fun k => ?_, fun m hm hma => ?_, fun m hm hma => ?_⟩
  · -- The connection gets no answer, so the balance stays.
    have hzero : answersTo (k + 1) (handedTo server.server.connections calls serverId) = 0 := by
      unfold answersTo
      rw [hquiet]
      rfl
    rw [answersTo_append, hzero]
    exact h.balance k
  · rcases List.mem_append.mp hm with hm | hm
    · obtain ⟨k, hk, hid⟩ := h.origin m hm hma
      exact ⟨k, hanswer hk, hid⟩
    · exact absurd hma (List.filter_eq_nil_iff.mp hquiet m hm)
  · obtain ⟨k, answer, hk, heq, hid⟩ := h.arrived m hm hma
    exact ⟨k, answer, hanswer hk, heq, hid⟩

/-- The server handles the next message of the connection, and answers it if it is a request. -/
theorem serve (h : Conserved clientId serverId s) {m : Message} {rest : List Message}
    (hqueue : s.toServer = m :: rest)
    (hs : { s with toServer := rest }.serverStep serverId (.handle serverId m.received) = some s') :
    Conserved clientId serverId s' := by
  obtain ⟨server, calls, hserver, htrace, rfl⟩ := serverStep_spec hs
  have hcons := ServerRun.consistent_reachable h.server
  obtain ⟨-, rfl⟩ := ServerRun.step_handle hserver
  obtain rfl := ServerRun.calls_of_record htrace
  obtain ⟨hconnections, -⟩ := ServerState.connections_handled
    (ServerState.handled_handle hcons serverId m.received)
  have hopen : serverId ∈ (s.server.server.handle serverId m.received).1.connections := by
    rw [hconnections]
    exact h.isOpen
  have hqueued := h.toServer m (hqueue ▸ List.mem_cons_self)
  have hrequest : m.type.rpcResponse.isSome = true ∨ m.requestId = none := by
    rcases hqueued with hnone | ⟨k, hk⟩
    · exact .inr hnone
    · exact .inl (h.request_isSome hk).2
  refine ⟨h.rpc, .step (l := .handle serverId m.received) h.server trivial hserver, hopen,
    h.length, h.requests, h.sent, h.nodup, fun m' hm' => ?_, fun k => ?_, fun a ha haa => ?_,
    fun a ha haa => ?_⟩
  · exact h.toServer m' (hqueue ▸ List.mem_cons_of_mem _ hm')
  · -- The request leaves one queue and its answer joins the other.
    have hanswer := answersTo_handle (m := m.received) hcons hopen
      (by rw [received_type, received_requestId]; exact hrequest) (k + 1)
    have hsplit : requestsWith (k + 1) s.toServer
        = requestsWith (k + 1) [m.received] + requestsWith (k + 1) rest := by
      rw [hqueue, ← List.singleton_append, requestsWith_append]
      simp only [requestsWith, List.countP_singleton, received_requestId]
    have hbalance := h.balance k
    rw [hsplit] at hbalance
    show requestsWith (k + 1) rest + answersTo (k + 1) (s.toClient ++ handedTo
      (s.server.server.handle serverId m.received).1.connections _ serverId)
        + answersTo (k + 1) (received clientId s) = _
    rw [answersTo_append, hanswer, ← hbalance]
    omega
  · rcases List.mem_append.mp ha with ha | ha
    · obtain ⟨k, hk, hid⟩ := h.origin a ha haa
      exact ⟨k, hk.mono (List.Subset.refl _) (List.subset_append_left _ _), hid⟩
    · -- A message that is no request has no answer.
      have hmem : a ∈ (handedTo (s.server.server.handle serverId m.received).1.connections
          (s.server.server.handle serverId m.received).2 serverId).filter
            (·.type.isRpcAnswer) := List.mem_filter.mpr ⟨ha, haa⟩
      rw [filter_handedTo, ServerState.handle_replies hcons serverId m.received] at hmem
      rcases hqueued with hnone | ⟨k, hk⟩
      · have hresponse : m.received.type.rpcResponse = none := by
          rw [received_type]
          cases m <;> first | rfl | cases hnone
        rw [ServerState.answers_of_not_request hresponse] at hmem
        cases hmem
      · obtain ⟨hid, hsome⟩ := h.request_isSome hk
        rw [received_of_request hsome] at hmem
        obtain ⟨answer, -, hanswerId, hanswers⟩ :=
          ServerState.answers_replies (s := s.server.server) (c := serverId) hsome
        rw [received_of_request hsome] at hopen
        rw [hanswers, ServerState.handedTo_answer (received_of_request hsome ▸ hopen),
          List.mem_singleton] at hmem
        subst hmem
        -- The event of this step is the last one of the trace.
        refine ⟨k, ⟨m, hk, _, List.mem_append_right _ (List.mem_singleton_self _), ?_, ?_⟩,
          hanswerId.trans hid⟩
        · rw [received_of_request hsome]
        · rw [received_of_request hsome, ServerState.handle_replies hcons serverId m]
          exact hanswers
  · obtain ⟨k, answer, hk, heq, hid⟩ := h.arrived a ha haa
    exact ⟨k, answer, hk.mono (List.Subset.refl _) (List.subset_append_left _ _), heq, hid⟩

/-- The next message of the server arrives. -/
theorem deliver (h : Conserved clientId serverId s) {m : Message} {rest : List Message}
    {rpc : RpcSystem MessageType Message} (hqueue : s.toClient = m :: rest)
    (hs : s.rpc.step chatRpcApi (.emit clientId m.received) = some rpc) :
    Conserved clientId serverId { s with rpc, toClient := rest } := by
  cases hs
  have hreceived : ∀ rpc : RpcSystem MessageType Message,
      rpc.received = s.rpc.received ++ [(clientId, m.received)] →
      received clientId { s with rpc, toClient := rest }
        = received clientId s ++ [m.received] := by
    intro rpc heq
    simp [received, heq]
  refine ⟨.step (l := .emit clientId m.received) h.rpc trivial rfl, h.server, h.isOpen, h.length,
    h.requests, h.sent, h.nodup, h.toServer, fun k => ?_, fun a ha haa => ?_, fun a ha haa => ?_⟩
  · have hbalance := h.balance k
    have hone : answersTo (k + 1) [m.received] = answersTo (k + 1) [m] := by
      unfold answersTo
      cases ha : m.type.isRpcAnswer <;>
        simp [received_type, received_requestId, ha, List.countP_cons]
    rw [hqueue, ← List.singleton_append, answersTo_append] at hbalance
    rw [hreceived _ rfl, answersTo_append, hone, ← hbalance]
    show requestsWith (k + 1) s.toServer + answersTo (k + 1) rest
      + (answersTo (k + 1) (received clientId s) + answersTo (k + 1) [m]) = _
    omega
  · exact h.origin a (hqueue ▸ List.mem_cons_of_mem _ ha) haa
  · rw [hreceived _ rfl] at ha
    rcases List.mem_append.mp ha with ha | ha
    · exact h.arrived a ha haa
    · obtain rfl := List.mem_singleton.mp ha
      rw [received_type] at haa
      obtain ⟨k, hk, hid⟩ := h.origin m (hqueue ▸ List.mem_cons_self) haa
      exact ⟨k, m, hk, rfl, (received_requestId m).trans hid⟩

/-- A step keeps the balance. -/
theorem step {op : RemoteCallsOp} (h : Conserved clientId serverId s)
    (hs : s.step clientId serverId op = some s') : Conserved clientId serverId s' := by
  cases op with
  | prepare request c b e t d =>
    simp only [RemoteCalls.step] at hs
    split at hs
    · rename_i hid
      obtain ⟨rpc, hrpc, rfl⟩ := Option.map_eq_some_iff.mp hs
      exact h.prepare hid hrpc
    · cases hs
  | send k =>
    simp only [RemoteCalls.step] at hs
    split at hs
    · rename_i builder request hbuilder hrequest
      obtain ⟨rpc, hrpc, rfl⟩ := Option.map_eq_some_iff.mp hs
      split
      · exact h.send hrequest hrpc
      · -- The request goes out on another connection.
        have hframe := RpcSystem.frame_step hrpc (by simp) (by simp)
        exact h.of_rpc _ hrpc hframe.1 (received_of_rpc hframe.2)
    · cases hs
  | rpc op =>
    simp only [RemoteCalls.step] at hs
    split at hs
    · rename_i hop
      obtain ⟨rpc, hrpc, rfl⟩ := Option.map_eq_some_iff.mp hs
      exact h.rpcStep hop hrpc
    · cases hs
  | write message =>
    cases hs
    exact h.write message
  | serve =>
    simp only [RemoteCalls.step] at hs
    split at hs
    · cases hs
    · rename_i m rest hqueue
      exact h.serve hqueue hs
  | server op =>
    simp only [RemoteCalls.step] at hs
    split at hs
    · rename_i hother
      exact h.server_other hother hs
    · cases hs
  | deliver =>
    simp only [RemoteCalls.step] at hs
    split at hs
    · cases hs
    · rename_i m rest hqueue
      obtain ⟨rpc, hrpc, rfl⟩ := Option.map_eq_some_iff.mp hs
      exact h.deliver hqueue hrpc

end Conserved

/-- The balance holds in every run. -/
theorem conserved_reachable (h : (remoteCalls clientId serverId).Reachable Lts.anyStep s) :
    Conserved clientId serverId s := by
  refine h.invariant (I := Conserved clientId serverId) ?_ fun s op s' ih _ hs => ih.step hs
  rintro s ⟨server, hserver, hopen, rfl⟩
  exact .start hserver hopen

/-! ### The messages on the way arrive -/

/-- The server can always handle the next message of the connection. -/
theorem exists_serve (h : Conserved clientId serverId s) {m : Message} {rest : List Message}
    (hqueue : s.toServer = m :: rest) :
    ∃ s', s.step clientId serverId .serve = some s' ∧ s'.sent = s.sent ∧ s'.toServer = rest := by
  have hissued := (ServerRun.issued_of_mem h.server).2 serverId h.isOpen
  have hstep : s.server.step (.handle serverId m.received)
      = some (s.server.record (.handle serverId m.received)
          (s.server.server.handle serverId m.received)) := if_pos hissued
  simp only [RemoteCalls.step, hqueue, RemoteCalls.serverStep, hstep, Option.map_some]
  exact ⟨_, rfl, rfl, rfl⟩

/-- The client can always receive the next message of the connection. -/
theorem exists_deliver (clientId serverId : Nat) {m : Message} {rest : List Message}
    (hqueue : s.toClient = m :: rest) :
    ∃ s', s.step clientId serverId .deliver = some s' ∧ s'.sent = s.sent ∧
      s'.toServer = s.toServer ∧ s'.toClient = rest := by
  simp only [RemoteCalls.step, hqueue, RpcSystem.step, Option.map_some]
  exact ⟨_, rfl, rfl, rfl, rfl⟩

/-- The messages on the way, those to the server first. -/
def underway (s : RemoteCalls) : Nat ×ₗ Nat := toLex (s.toServer.length, s.toClient.length)

/-- A step of a message on the way decreases `underway`: the server may send any number of messages
for one, but it takes one from the way to the server. -/
theorem underway_lt {op : RemoteCallsOp} (hop : Internal op)
    (hs : s.step clientId serverId op = some s') : s'.sent = s.sent ∧ s'.underway < s.underway := by
  cases op with
  | serve =>
    simp only [RemoteCalls.step] at hs
    split at hs
    · cases hs
    · rename_i m rest hqueue
      obtain ⟨server, calls, -, -, rfl⟩ := Conserved.serverStep_spec hs
      refine ⟨rfl, Prod.Lex.toLex_lt_toLex.mpr (.inl ?_)⟩
      rw [hqueue]
      exact Nat.lt_succ_self _
  | deliver =>
    simp only [RemoteCalls.step] at hs
    split at hs
    · cases hs
    · rename_i m rest hqueue
      obtain ⟨rpc, -, rfl⟩ := Option.map_eq_some_iff.mp hs
      refine ⟨rfl, Prod.Lex.toLex_lt_toLex.mpr (.inr ⟨rfl, ?_⟩)⟩
      rw [hqueue]
      exact Nat.lt_succ_self _
  | _ => cases hop

/-- While a message is on the way, its next step is enabled. -/
theorem underway_of_quiet (h : Conserved clientId serverId s)
    (hquiet : ∀ op, Internal op → s.step clientId serverId op = none) :
    s.toServer = [] ∧ s.toClient = [] := by
  constructor
  · cases hqueue : s.toServer with
    | nil => rfl
    | cons m rest =>
      obtain ⟨s', hs, -, -⟩ := exists_serve h hqueue
      rw [hquiet .serve trivial] at hs
      cases hs
  · cases hqueue : s.toClient with
    | nil => rfl
    | cons m rest =>
      obtain ⟨s', hs, -⟩ := exists_deliver clientId serverId hqueue
      rw [hquiet .deliver trivial] at hs
      cases hs

/-- With nothing on the way, the answer of each call that has sent its request has arrived, exactly
once. -/
theorem answered_of_drained (h : Conserved clientId serverId s) (hserver : s.toServer = [])
    (hclient : s.toClient = []) {k : Nat} (hk : k ∈ s.sent.map Prod.fst) :
    answersTo (k + 1) (received clientId s) = 1 := by
  have hbalance := h.balance k
  rw [List.count_eq_one_of_mem h.nodup hk, hserver, hclient] at hbalance
  simpa [requestsWith, answersTo] using hbalance

/-- The server handles what is on its way. -/
theorem exists_served (h : (remoteCalls clientId serverId).Reachable Lts.anyStep s) :
    ∃ s', (remoteCalls clientId serverId).Leads Internal s s' ∧
      (remoteCalls clientId serverId).Reachable Lts.anyStep s' ∧ s'.sent = s.sent ∧
      s'.toServer = [] := by
  induction hqueue : s.toServer generalizing s with
  | nil => exact ⟨s, .refl _ s, h, rfl, hqueue⟩
  | cons m rest ih =>
    obtain ⟨s1, hs1, hsent1, hrest⟩ := exists_serve (conserved_reachable h) hqueue
    obtain ⟨s', hleads, hreach, hsent, hempty⟩ := ih (.step (l := .serve) h trivial hs1) hrest
    exact ⟨s', hleads.head (l := .serve) trivial hs1, hreach, hsent.trans hsent1, hempty⟩

/-- The client receives what is on its way. -/
theorem exists_delivered (h : (remoteCalls clientId serverId).Reachable Lts.anyStep s) :
    ∃ s', (remoteCalls clientId serverId).Leads Internal s s' ∧
      (remoteCalls clientId serverId).Reachable Lts.anyStep s' ∧ s'.sent = s.sent ∧
      s'.toServer = s.toServer ∧ s'.toClient = [] := by
  induction hqueue : s.toClient generalizing s with
  | nil => exact ⟨s, .refl _ s, h, rfl, rfl, hqueue⟩
  | cons m rest ih =>
    obtain ⟨s1, hs1, hsent1, hserver1, hrest⟩ :=
      exists_deliver clientId serverId hqueue
    obtain ⟨s', hleads, hreach, hsent, hserver, hempty⟩ :=
      ih (.step (l := .deliver) h trivial hs1) hrest
    exact ⟨s', hleads.head (l := .deliver) trivial hs1, hreach, hsent.trans hsent1,
      hserver.trans hserver1, hempty⟩

/-! ### The calls -/

/-- For a call, the requests on their way to the server, the answers on their way to the client
and the answers that have arrived are one together once the request is sent, and none before. The
steps of the messages on the way come to an end in every order, and where none of them is enabled
nothing is on the way and the answer of each call that has sent its request has arrived, exactly
once. These steps alone lead from every state to such a state. -/
theorem call_answered_once (h : (remoteCalls clientId serverId).Reachable Lts.anyStep s) :
    (∀ k builder, s.rpc.prepared[k]? = some builder →
      requestsWith builder.requestId s.toServer + answersTo builder.requestId s.toClient
        + answersTo builder.requestId (received clientId s)
        = if k ∈ s.sent.map Prod.fst then 1 else 0) ∧
    (∀ op s', Internal op → s.step clientId serverId op = some s' →
      s'.sent = s.sent ∧ s'.underway < s.underway) ∧
    ((∀ op, Internal op → s.step clientId serverId op = none) →
      s.toServer = [] ∧ s.toClient = [] ∧
        ∀ k ∈ s.sent.map Prod.fst, answersTo (k + 1) (received clientId s) = 1) ∧
    ∃ s', (remoteCalls clientId serverId).Leads Internal s s' ∧
      (remoteCalls clientId serverId).Reachable Lts.anyStep s' ∧ s'.sent = s.sent ∧
      s'.toServer = [] ∧ s'.toClient = [] ∧
      ∀ k ∈ s.sent.map Prod.fst, answersTo (k + 1) (received clientId s') = 1 := by
  have hinv := conserved_reachable h
  refine ⟨fun k builder hk => ?_, fun op s' hop hs => underway_lt hop hs, fun hquiet => ?_, ?_⟩
  · rw [(RpcSystem.tracked_reachable hinv.rpc).1.requestId k builder hk, hinv.balance k]
    split
    · rename_i hmem
      exact List.count_eq_one_of_mem hinv.nodup hmem
    · rename_i hmem
      exact List.count_eq_zero.mpr hmem
  · obtain ⟨hserver, hclient⟩ := underway_of_quiet hinv hquiet
    exact ⟨hserver, hclient, fun k hk => answered_of_drained hinv hserver hclient hk⟩
  · obtain ⟨s1, hleads1, hreach1, hsent1, hserver1⟩ := exists_served h
    obtain ⟨s', hleads, hreach, hsent, hserver, hclient⟩ := exists_delivered hreach1
    have hsent' := hsent.trans hsent1
    have hserver' := hserver.trans hserver1
    refine ⟨s', hleads1.trans hleads, hreach, hsent', hserver', hclient, fun k hk => ?_⟩
    rw [← hsent'] at hk
    exact answered_of_drained (conserved_reachable hreach) hserver' hclient hk

/-- The server after the first connection. -/
def connected : ServerRun :=
  { server := ServerState.begin .empty, start := .empty : ServerRun }.record .connect
    ((ServerState.begin .empty).createConnection, [])

/-- The state of the server after a connect is reachable. -/
theorem connected_reachable : serverRuns.Reachable Lts.anyStep connected :=
  .step (l := .connect) (.start ⟨.empty, rfl⟩) trivial rfl

/-- A user is created on connection 5, which is connection 1 of the server. The request is sent
after a chat message, and both are handled. -/
def createUserOps : List RemoteCallsOp :=
  [.prepare (.createUserRequest ⟨1, "ann", "pw"⟩) 5 true true false none,
    .rpc (.subscribeSuccess 0), .rpc (.subscribeError 0), .rpc (.emplace 0), .write ⟨"hi"⟩,
    .send 0, .serve, .server .connect, .serve]

/-- The answer to a call is under way when another message is. -/
theorem call_answered_once_underway : ∃ s,
    (remoteCalls 5 1).Reachable Lts.anyStep s ∧ s.toClient.length = 2 ∧
    answersTo 1 s.toClient = 1 ∧ answersTo 1 (received 5 s) = 0 ∧
    ∃ s', (remoteCalls 5 1).Leads Internal s s' ∧ s'.toClient = [] ∧
      answersTo 1 (received 5 s') = 1 := by
  have hstart : (remoteCalls 5 1).Reachable Lts.anyStep { server := connected } :=
    .start ⟨connected, connected_reachable, by decide, rfl⟩
  obtain ⟨s, hreach, hlength, hsent, hprepared, hserver, hreceived⟩ :=
    hstart.exists_of_exec createUserOps (fun s => s.toClient.length = 2 ∧
      s.sent.map Prod.fst = [0] ∧ s.rpc.prepared.map (·.requestId) = [1] ∧ s.toServer = [] ∧
      s.rpc.received = []) (by decide +kernel)
  obtain ⟨builder, hbuilders, hid⟩ := List.map_eq_singleton_iff.mp hprepared
  obtain ⟨hbalance, -, -, s', hleads, -, -, -, hempty, hanswered⟩ := call_answered_once hreach
  have hone := hbalance 0 builder (by rw [hbuilders]; rfl)
  rw [hid, hserver, hsent] at hone
  simp only [received, hreceived, requestsWith, answersTo] at hone ⊢
  refine ⟨s, hreach, hlength, by simpa using hone, by simp [hreceived], s', hleads, hempty, ?_⟩
  exact hanswered 0 (by rw [hsent]; exact List.mem_singleton_self 0)

/-- A callback of a call on the connection is invoked with what the server answered to the request
of this call, and with nothing else: among the events of the server there is one that handled this
request and sent this answer, its only one. The success callback gets the response type of the
request and the error callback its error type. -/
theorem callback_from_server (h : (remoteCalls clientId serverId).Reachable Lts.anyStep s)
    {i : Invocation Message} (hi : i ∈ s.rpc.invoked) {answer : Answer} {m : Message}
    (houtcome : i.outcome = .answered answer clientId m) :
    ∃ request reply, (i.call, request) ∈ s.sent ∧ (∃ e ∈ s.server.trace,
      e.op = .handle serverId request ∧ answers e.calls = [.send serverId reply]) ∧
      m = reply.received ∧ rpcAnswer request.type answer = some m.type := by
  have hinv := conserved_reachable h
  have hmatched := (RpcSystem.tracked_reachable hinv.rpc).1
  obtain ⟨builder, hk, haccepts⟩ := hmatched.invoked i hi
  rw [houtcome] at haccepts
  obtain ⟨htype, hid, -, hreceived⟩ := haccepts
  -- The call is one of the connection, because its request has the prepared type.
  have hlt := (List.getElem?_eq_some_iff.mp hk).1
  obtain ⟨request, hrequest⟩ : ∃ request, s.requests[i.call]? = some request :=
    ⟨_, List.getElem?_eq_getElem (by rw [hinv.length]; exact hlt)⟩
  obtain ⟨-, builder', hk', htypes⟩ := hinv.requests i.call request hrequest
  obtain rfl : builder' = builder := Option.some.inj (hk'.symm.trans hk)
  have hanswer : rpcAnswer request.type answer = some m.type := by
    rw [htypes answer]
    exact congrArg some htype.symm
  have hmem : m ∈ received clientId s :=
    List.mem_map.mpr ⟨(clientId, m), List.mem_filter.mpr ⟨hreceived, by simp⟩, rfl⟩
  obtain ⟨k, reply, ⟨request', hsent, hevent⟩, heq, hid'⟩ :=
    hinv.arrived m hmem (isRpcAnswer_of_rpcAnswer hanswer)
  -- The answer carries the id of the call, so it is the answer to the request of the call.
  have hsame : k = i.call := by
    have hids := hid'.symm.trans hid
    rw [hmatched.requestId i.call builder' hk, Option.some.injEq] at hids
    omega
  subst hsame
  obtain rfl : request' = request :=
    Option.some.inj ((hinv.sent i.call request' hsent).1.symm.trans hrequest)
  exact ⟨request', reply, hsent, hevent, heq, hanswer⟩

/-- The response arrives after the error that the chat message got, and the callback runs. -/
def callbackOps : List RemoteCallsOp :=
  [.deliver, .deliver, .rpc (.deliver 1 0), .rpc (.handle (.emission 1)),
    .rpc (.handle (.emission 1)), .rpc (.handle (.emission 1)), .rpc (.handle (.emission 1)),
    .rpc (.handle (.emission 1))]

/-- The callback of a `CreateUser` gets the answer of the server. -/
theorem callback_from_server_created : ∃ s, (remoteCalls 5 1).Reachable Lts.anyStep s ∧
    ∃ i ∈ s.rpc.invoked, ∃ request reply, (i.call, request) ∈ s.sent ∧
      (∃ e ∈ s.server.trace, e.op = .handle 1 request ∧ answers e.calls = [.send 1 reply]) ∧
      reply.received = .createUserResponse ⟨1, ⟨1, "ann"⟩⟩ := by
  have hstart : (remoteCalls 5 1).Reachable Lts.anyStep { server := connected } :=
    .start ⟨connected, connected_reachable, by decide, rfl⟩
  obtain ⟨s, hreach, hinvoked⟩ := hstart.exists_of_exec (createUserOps ++ callbackOps)
    (fun s => s.rpc.invoked.any (fun i =>
      match i.outcome with
      | .answered answer c m =>
        answer = .success ∧ c = 5 ∧ m = .createUserResponse ⟨1, ⟨1, "ann"⟩⟩
      | .timedOut => false) = true) (by decide +kernel)
  obtain ⟨i, hi, houtcome⟩ := List.any_eq_true.mp hinvoked
  cases hcase : i.outcome with
  | timedOut => simp [hcase] at houtcome
  | answered answer c m =>
    simp only [hcase, decide_eq_true_eq] at houtcome
    obtain ⟨rfl, rfl, rfl⟩ := houtcome
    obtain ⟨request, reply, hsent, hevent, heq, -⟩ := callback_from_server hreach hi hcase
    exact ⟨s, hreach, i, hi, request, reply, hsent, hevent, heq.symm⟩

end RemoteCalls

end ChatCore.Client
