import ChatCore.Proofs.Replies
import ChatCore.Proofs.Sessions

/-!
# `ChatCore.Proofs.Answers`: every request is answered, and a stranger learns nothing

A message of a connection without a session is rejected before anything is looked up. The
rejection depends on the message alone (`rejection`), and the state stays as it is. Only the two
requests that a client needs to get a session are served.

Every request is answered once: `answers` are the calls with a message of a response or error
type, and for a request there is exactly one. The handlers that return without an answer do so
when the user of a session is not found, which does not happen in a consistent state.
-/

set_option autoImplicit false

namespace ChatCore.Server

open ChatCore.Api
open ChatCore.Lib

/-! ### Without a session -/

/-- The calls for a message of a connection without a session. -/
def rejection (c : Nat) (m : Message) : List Call :=
  match m with
  | .writeChat _ | .shutdown _ => [.send c (.error ⟨"Not authorized."⟩)]
  | m =>
    if m.type.rpcResponse.isSome then
      m.requestId.toList.map (handleRpcError c · "Not authorized.")
    else []

/-- The calls are at most one rejection of `m`, sent to `c`. -/
def Rejects (c : Nat) (m : Message) (calls : List Call) : Prop :=
  calls = [] ∨ (∃ text, calls = [.send c (.error ⟨text⟩)]) ∨
    ∃ requestId text, m.requestId = some requestId ∧
      calls = [.send c (.errorResponse ⟨requestId, text⟩)]

/-- The rejection of a message rejects it. -/
theorem rejects_rejection (c : Nat) (m : Message) : Rejects c m (rejection c m) := by
  cases m with
  | writeChat m => exact .inr (.inl ⟨_, rfl⟩)
  | shutdown m => exact .inr (.inl ⟨_, rfl⟩)
  | print _ | error _ | errorResponse _ | receiveChat _ => exact .inl rfl
  | getChatsResponse _ | createChannelResponse _ | createUserResponse _ | getUsersResponse _
  | getUserResponse _ | authenticateUserResponse _ | joinChatChannelResponse _
  | getChatChannelsResponse _ | getChatChannelResponse _ | logoutResponse _ => exact .inl rfl
  | userLogoutEvent _ | userLoginEvent _ | channelLeaveEvent _ | channelJoinEvent _
  | channelCreateEvent _ => exact .inl rfl
  | getChatsRequest _ | createChannelRequest _ | createUserRequest _ | getUsersRequest _
  | getUserRequest _ | authenticateUserRequest _ | joinChatChannelRequest _
  | getChatChannelsRequest _ | getChatChannelRequest _ | logoutRequest _ =>
    exact .inr (.inr ⟨_, _, rfl, rfl⟩)

namespace ServerState

variable {s s' : ServerState} {c : Nat} {m : Message}

/-- The state and the calls for a message of a connection without a session. -/
theorem handle_of_no_session (hfree : ∀ u, (c, u) ∉ s.users.userSessions)
    (hcreate : m.type ≠ .createUserRequest) (hauthenticate : m.type ≠ .authenticateUserRequest) :
    s.handle c m = (s, rejection c m) := by
  have hsession : ¬ s.users.hasSession c = true := fun h => by
    obtain ⟨u, hu⟩ := hasSession_iff.mp h
    exact hfree u hu
  have hrpc : ∀ requestId rest, s.validateRpcSession requestId c rest
      = (s, [handleRpcError c requestId "Not authorized."]) := fun _ _ => if_neg hsession
  have hplain : ∀ rest, s.validateSession c rest
      = (s, [.send c (.error ⟨"Not authorized."⟩)]) := fun _ => if_neg hsession
  cases m with
  | createUserRequest m => exact absurd rfl hcreate
  | authenticateUserRequest m => exact absurd rfl hauthenticate
  | writeChat m => exact hplain _
  | shutdown m => exact hplain _
  | getUsersRequest m | getUserRequest m | createChannelRequest m | joinChatChannelRequest m
  | getChatsRequest m | getChatChannelsRequest m | getChatChannelRequest m | logoutRequest m =>
    exact hrpc _ _
  | _ => rfl

/-- A message of a connection without a session, other than a registration or a login, changes
nothing and gets at most a rejection, which is the same in every state in which the connection
has no session. -/
theorem handle_unauthorized (hfree : ∀ u, (c, u) ∉ s.users.userSessions)
    (hfree' : ∀ u, (c, u) ∉ s'.users.userSessions) (hcreate : m.type ≠ .createUserRequest)
    (hauthenticate : m.type ≠ .authenticateUserRequest) :
    (s.handle c m).1 = s ∧ Rejects c m (s.handle c m).2 ∧
      (s'.handle c m).2 = (s.handle c m).2 := by
  rw [handle_of_no_session hfree hcreate hauthenticate,
    handle_of_no_session hfree' hcreate hauthenticate]
  exact ⟨rfl, rejects_rejection c m, rfl⟩

/-- A request for the history of a channel without a session: a server that holds a message
replies as an empty one does. -/
theorem handle_unauthorized_getChats :
    ((begin .empty).handle 1 (.getChatsRequest ⟨7, 1, 100⟩)).1 = begin .empty ∧
      (({ db := .empty, messages := ({} : MessageStore).createMessage 1 1 "secret" } :
          ServerState).handle 1 (.getChatsRequest ⟨7, 1, 100⟩)).2
        = ((begin .empty).handle 1 (.getChatsRequest ⟨7, 1, 100⟩)).2 := by
  have hfree : ∀ u, (1, u) ∉ (begin .empty).users.userSessions := fun _ => Bimap.not_mem_empty _
  have hfree' : ∀ u, (1, u) ∉ ({} : UserStore).userSessions := fun _ => Bimap.not_mem_empty _
  obtain ⟨hstate, -, hreply⟩ := @handle_unauthorized (begin .empty)
    { db := .empty, messages := ({} : MessageStore).createMessage 1 1 "secret" } 1
    (.getChatsRequest ⟨7, 1, 100⟩) hfree hfree' (by decide) (by decide)
  exact ⟨hstate, hreply⟩

end ServerState

/-! ### Answers -/

/-- The message that a call hands to `TcpSystem`. -/
def Call.message : Call → Option Message
  | .send _ message | .broadcast message | .broadcastTo _ message => some message
  | .createMessage _ => none

/-- The call hands over a message of a response or error type. -/
def Call.isAnswer (call : Call) : Bool := call.message.any (·.type.isRpcAnswer)

/-- The calls with a message of a response or error type. -/
def answers (calls : List Call) : List Call := calls.filter Call.isAnswer

/-- `calls` has one message of a response or error type. It answers `m` and is sent to `c`. -/
def Answers (c : Nat) (m : Message) (calls : List Call) : Prop :=
  ∃ answer : Message, (m.type.rpcResponse = some answer.type ∨ m.type.rpcError = some answer.type) ∧
    answer.requestId = m.requestId ∧ answers calls = [.send c answer]

/-- A call delivers its own message and no other. -/
theorem message_of_mem_deliveries {connections : List Nat} {call : Call} {d : Nat × Message}
    (h : d ∈ call.deliveries connections) : call.message = some d.2 := by
  cases call with
  | createMessage _ => cases h
  | send c message =>
    simp only [Call.deliveries] at h
    split at h
    · rw [List.mem_singleton.mp h]
      rfl
    · cases h
  | broadcast message | broadcastTo cs message =>
    obtain ⟨c, -, rfl⟩ := List.mem_map.mp h
    rfl

/-- The answers that are delivered are the deliveries of the answers. -/
theorem filter_deliveries (connections : List Nat) (calls : List Call) :
    (calls.flatMap (Call.deliveries connections)).filter (·.2.type.isRpcAnswer)
      = (answers calls).flatMap (Call.deliveries connections) := by
  induction calls with
  | nil => rfl
  | cons call calls ih =>
    rw [List.flatMap_cons, List.filter_append, ih]
    by_cases hanswer : call.isAnswer = true
    · have hall : ∀ d ∈ call.deliveries connections, d.2.type.isRpcAnswer = true := fun d hd => by
        rw [Call.isAnswer, message_of_mem_deliveries hd] at hanswer
        exact hanswer
      rw [List.filter_eq_self.mpr hall, answers, answers, List.filter_cons_of_pos hanswer,
        List.flatMap_cons]
    · have hnone : ∀ d ∈ call.deliveries connections, ¬ d.2.type.isRpcAnswer = true :=
        fun d hd => by
          rw [Call.isAnswer, message_of_mem_deliveries hd] at hanswer
          exact hanswer
      rw [List.filter_eq_nil_iff.mpr hnone, answers, answers, List.filter_cons_of_neg hanswer,
        List.nil_append]

/-! ### The types of the replies -/

/-- The types of the messages that handling a message of the type hands to `TcpSystem`. -/
def replyTypes : MessageType → List MessageType
  | .createUserRequest => [.errorResponse, .createUserResponse]
  | .authenticateUserRequest => [.errorResponse, .authenticateUserResponse, .userLoginEvent]
  | .getUsersRequest => [.errorResponse, .getUsersResponse]
  | .getUserRequest => [.errorResponse, .getUserResponse]
  | .writeChat => [.error, .receiveChat]
  | .createChannelRequest => [.errorResponse, .createChannelResponse, .channelCreateEvent]
  | .joinChatChannelRequest =>
    [.errorResponse, .channelLeaveEvent, .channelJoinEvent, .joinChatChannelResponse]
  | .getChatsRequest => [.errorResponse, .getChatsResponse]
  | .getChatChannelsRequest => [.errorResponse, .getChatChannelsResponse]
  | .getChatChannelRequest => [.errorResponse, .getChatChannelResponse]
  | .shutdown => [.error]
  | .logoutRequest => [.errorResponse, .userLogoutEvent, .logoutResponse]
  | _ => []

/-- The messages of the calls have types of the list. -/
def OfTypes (types : List MessageType) (calls : List Call) : Prop :=
  ∀ call ∈ calls, ∀ message ∈ call.message, message.type ∈ types

namespace ServerState

variable {s : ServerState} {c : Nat}

/-- A guarded handler answers with one of the types when its error and its body do. -/
theorem ofTypes_authorized {types : List MessageType} {error : Message} {rest : Nat → List Call}
    (herror : error.type ∈ types) (hrest : ∀ u, OfTypes types (rest u)) :
    OfTypes types (s.authorized c error rest) := by
  unfold authorized
  cases s.users.userSessions.findLeft c with
  | none => simpa [OfTypes, Call.message] using herror
  | some u => exact hrest u

/-- Every answer to a message has one of the types for it. -/
theorem ofTypes_replies (m : Message) : OfTypes (replyTypes m.type) (s.replies c m) := by
  have hsimple : ∀ (types : List MessageType) (message : Message), message.type ∈ types →
      OfTypes types [.send c message] := by
    intro types message hmem
    simpa [OfTypes, Call.message] using hmem
  cases m with
  | createUserRequest m =>
    simp only [replies]
    split <;> exact hsimple _ _ (by simp [Message.type, replyTypes])
  | authenticateUserRequest m =>
    simp only [replies]
    split
    · exact hsimple _ _ (by simp [Message.type, replyTypes])
    · exact hsimple _ _ (by simp [Message.type, replyTypes])
    · split
      · exact hsimple _ _ (by simp [Message.type, replyTypes])
      · simp [OfTypes, Call.message, Message.type, replyTypes]
  | getUsersRequest m | getChatsRequest m | getChatChannelsRequest m =>
    exact ofTypes_authorized (.head _) fun _ => hsimple _ _ (by simp [Message.type, replyTypes])
  | getUserRequest m | getChatChannelRequest m =>
    refine ofTypes_authorized (.head _) fun _ => ?_
    split <;> exact hsimple _ _ (by simp [Message.type, replyTypes])
  | writeChat m =>
    refine ofTypes_authorized (.head _) fun _ => ?_
    split
    · exact hsimple _ _ (by simp [Message.type, replyTypes])
    · simp [OfTypes, Call.message, Message.type, replyTypes]
  | createChannelRequest m =>
    refine ofTypes_authorized (.head _) fun _ => ?_
    split
    · exact hsimple _ _ (by simp [Message.type, replyTypes])
    · simp [OfTypes, Call.message, Message.type, replyTypes]
  | joinChatChannelRequest m =>
    refine ofTypes_authorized (.head _) fun _ => ?_
    split
    · exact hsimple _ _ (by simp [Message.type, replyTypes])
    · simp only [joinReplies]
      cases s.channels.connectionChannelMap.findLeft c with
      | none => simp [OfTypes, Call.message, Message.type, replyTypes]
      | some previous => simp [OfTypes, Call.message, Message.type, replyTypes]
  | shutdown m =>
    exact ofTypes_authorized (.head _) fun _ call hcall => absurd hcall List.not_mem_nil
  | logoutRequest m =>
    refine ofTypes_authorized (.head _) fun _ => ?_
    simp [OfTypes, Call.message, Message.type, replyTypes]
  | _ => exact fun call hcall => absurd hcall List.not_mem_nil

end ServerState

/-! ### Every request is answered -/

namespace ServerState

variable {s : ServerState} {c : Nat} {m : Message}

/-- A request that fails is answered with an error. -/
theorem answers_handleRpcError {requestId : Nat} (text : String) (hid : m.requestId = some requestId)
    (hm : m.type.rpcResponse.isSome = true) :
    Answers c m [handleRpcError c requestId text] := by
  obtain ⟨response, hresponse⟩ := Option.isSome_iff_exists.mp hm
  refine ⟨.errorResponse ⟨requestId, text⟩, .inr ?_, hid.symm, rfl⟩
  rw [MessageType.rpcError, hresponse]
  rfl

/-- A request that succeeds is answered with its response. The other calls are events. -/
theorem answers_response {answer : Message} {events : List Call}
    (htype : m.type.rpcResponse = some answer.type) (hid : answer.requestId = m.requestId)
    (hevents : answers events = []) : Answers c m (.send c answer :: events) := by
  refine ⟨answer, .inl htype, hid, ?_⟩
  have hanswer : (Call.send c answer).isAnswer = true :=
    MessageType.isRpcAnswer_iff.mpr ⟨m.type, .inl htype⟩
  show (Call.send c answer :: events).filter Call.isAnswer = _
  rw [List.filter_cons_of_pos hanswer]
  exact congrArg _ hevents

/-- A request that needs a session is answered in either case. -/
theorem answers_authorized {requestId : Nat} {rest : Nat → List Call}
    (hid : m.requestId = some requestId) (hm : m.type.rpcResponse.isSome = true)
    (hrest : ∀ u, Answers c m (rest u)) :
    Answers c m (s.authorized c (notAuthorized requestId) rest) := by
  unfold authorized
  cases s.users.userSessions.findLeft c with
  | none => exact answers_handleRpcError "Not authorized." hid hm
  | some u => exact hrest u

/-- The specification answers every request once. -/
theorem answers_replies (hm : m.type.rpcResponse.isSome = true) : Answers c m (s.replies c m) := by
  cases m with
  | createUserRequest m =>
    simp only [replies]
    split
    · exact answers_handleRpcError _ rfl rfl
    · exact answers_response rfl rfl rfl
  | authenticateUserRequest m =>
    simp only [replies]
    split
    · exact answers_handleRpcError _ rfl rfl
    · exact answers_handleRpcError _ rfl rfl
    · split
      · exact answers_handleRpcError _ rfl rfl
      · exact answers_response rfl rfl rfl
  | getUsersRequest m => exact answers_authorized rfl rfl fun _ => answers_response rfl rfl rfl
  | getUserRequest m =>
    refine answers_authorized rfl rfl fun _ => ?_
    split
    · exact answers_handleRpcError _ rfl rfl
    · exact answers_response rfl rfl rfl
  | createChannelRequest m =>
    refine answers_authorized rfl rfl fun _ => ?_
    split
    · exact answers_response rfl rfl rfl
    · exact answers_response rfl rfl rfl
  | joinChatChannelRequest m =>
    refine answers_authorized rfl rfl fun u => ?_
    split
    · exact answers_handleRpcError _ rfl rfl
    · -- The leave and the join events come first, and neither is an answer.
      refine ⟨.joinChatChannelResponse ⟨m.requestId, m.channelId⟩, .inl rfl, rfl, ?_⟩
      simp only [joinReplies]
      cases s.channels.connectionChannelMap.findLeft c <;> rfl
  | getChatsRequest m => exact answers_authorized rfl rfl fun _ => answers_response rfl rfl rfl
  | getChatChannelsRequest m => exact answers_authorized rfl rfl fun _ => answers_response rfl rfl rfl
  | getChatChannelRequest m =>
    refine answers_authorized rfl rfl fun _ => ?_
    split
    · exact answers_handleRpcError _ rfl rfl
    · exact answers_response rfl rfl rfl
  | logoutRequest m =>
    exact answers_authorized rfl rfl fun _ => ⟨.logoutResponse ⟨m.requestId⟩, .inl rfl, rfl, rfl⟩
  | _ => cases hm

end ServerState

/-- In every run, handling a request makes exactly one call with a message of a response or error
type: it sends the response of the request, or its error, with the id of the request to the
connection of the request. The registered connections get this one answer and no other. -/
theorem ServerRun.request_answered_once {r : ServerRun} (h : serverRuns.Reachable Lts.anyStep r)
    (c : Nat) {m : Message} (hm : m.type.rpcResponse.isSome = true) :
    ∃ answer : Message,
      (m.type.rpcResponse = some answer.type ∨ m.type.rpcError = some answer.type) ∧
      answer.requestId = m.requestId ∧ answers (r.server.handle c m).2 = [.send c answer] ∧
      ∀ connections, ((r.server.handle c m).2.flatMap (Call.deliveries connections)).filter
          (·.2.type.isRpcAnswer) = if c ∈ connections then [(c, answer)] else [] := by
  obtain ⟨answer, htype, hid, hanswers⟩ := ServerState.answers_replies (s := r.server) (c := c) hm
  rw [← ServerState.handle_replies (consistent_reachable h) c m] at hanswers
  refine ⟨answer, htype, hid, hanswers, fun connections => ?_⟩
  rw [filter_deliveries, hanswers, List.flatMap_singleton]
  rfl

/-- The first connection asks for the channels right after start-up. -/
theorem ServerRun.request_answered_once_getChatChannels : ∃ r,
    serverRuns.Reachable Lts.anyStep r ∧ r.server.connections = [1] ∧
    ∃ answer : Message, answer.requestId = some 7 ∧
      answers (r.server.handle 1 (.getChatChannelsRequest ⟨7⟩)).2 = [.send 1 answer] := by
  have hstart : serverRuns.Reachable Lts.anyStep
      { server := ServerState.begin .empty, start := .empty } := .start ⟨.empty, rfl⟩
  obtain ⟨r, hreach, hconnections⟩ :=
    hstart.exists_of_exec [.connect] (fun r => r.server.connections = [1]) (by decide)
  obtain ⟨answer, -, hid, hanswers, -⟩ :=
    request_answered_once hreach 1 (m := .getChatChannelsRequest ⟨7⟩) rfl
  exact ⟨r, hreach, hconnections, answer, hid, hanswers⟩

end ChatCore.Server
