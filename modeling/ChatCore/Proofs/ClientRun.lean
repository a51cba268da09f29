import ChatCore.Proofs.SessionSystem

/-!
# `ChatCore.Proofs.ClientRun`: the steps of the client

`Performed` lists what a step can do to the connection, the user and the channel name. Only six
kinds of steps change one of them, and all others keep them (`Keeps`). A step fails exactly when a
user lookup that prints a chat line is answered while the client has no user. So the runs without a
failure are those with `ChatLinesInSession`.
-/

set_option autoImplicit false

namespace ChatCore.Client

open ChatCore.Api
open ChatCore.Lib

variable {s s' s'' : SessionSystem}

/-! ### Answers -/

/-- The answers that the subscriptions of a call take. -/
inductive Answers : RpcCallback → Message → Prop
  | error (callback : RpcCallback) (m : ErrorResponseMessage) : Answers callback (.errorResponse m)
  | authenticated (m : AuthenticateUserResponseMessage) :
      Answers .authenticated (.authenticateUserResponse m)
  | loggedOut (user : User) (m : LogoutResponseMessage) :
      Answers (.loggedOut user) (.logoutResponse m)
  | createdUser (m : CreateUserResponseMessage) : Answers .createdUser (.createUserResponse m)
  | gotChannels (m : GetChatChannelsResponseMessage) :
      Answers .gotChannels (.getChatChannelsResponse m)
  | createdChannel (m : CreateChannelResponseMessage) :
      Answers .createdChannel (.createChannelResponse m)
  | joined (m : JoinChatChannelResponseMessage) : Answers .joined (.joinChatChannelResponse m)
  | gotChats (m : GetChatsResponseMessage) : Answers .gotChats (.getChatsResponse m)
  | gotUsers (callback : UsersCallback) (m : GetUsersResponseMessage) :
      Answers (.gotUsers callback) (.getUsersResponse m)
  | gotChannel (callback : ChannelCallback) (m : GetChatChannelResponseMessage) :
      Answers (.gotChannel callback) (.getChatChannelResponse m)

/-- The message that answers a call is one that its callback takes. -/
theorem answers_of_answeredBy {call : PendingCall} {c : Nat} {message : Message}
    (h : call.AnsweredBy c message) : Answers call.callback message := by
  obtain ⟨requestId, connectionId, callback⟩ := call
  obtain ⟨-, -, hresponse | herror⟩ := h
  · cases callback <;> cases message <;> cases hresponse <;> constructor
  · have htype : message.type = .errorResponse := by
      cases callback <;> exact (Option.some.inj herror).symm
    cases message <;> cases htype
    exact .error _ _

/-! ### Steps that keep the session -/

/-- The connection, the user and the channel name are kept. -/
structure Keeps (s s' : SessionSystem) : Prop where
  connectionId : s'.connectionId = s.connectionId
  user : s'.user = s.user
  channelName : s'.model.channelName = s.model.channelName
  channels : ∀ channelId channel, s.store.channelsCache channelId = some channel →
    s'.store.channelsCache channelId = some channel

namespace Keeps

/-- A function that does nothing keeps the session. -/
theorem refl (s : SessionSystem) : Keeps s s := ⟨rfl, rfl, rfl, fun _ _ h => h⟩

/-- Two functions one after the other keep the session. -/
theorem trans (h : Keeps s s') (h' : Keeps s' s'') : Keeps s s'' where
  connectionId := h'.connectionId.trans h.connectionId
  user := h'.user.trans h.user
  channelName := h'.channelName.trans h.channelName
  channels id channel hc := h'.channels id channel (h.channels id channel hc)

/-- The channel name is no part of the session. -/
theorem setChannelName (h : Keeps s s') (name : Option String) :
    Keeps (s.setChannelName name) (s'.setChannelName name) :=
  ⟨h.connectionId, h.user, rfl, h.channels⟩

end Keeps

/-- A function that goes on as usual keeps the session. -/
theorem Continues.keeps {printed : List ChatMessage} {made : List RpcCallback}
    (h : Continues s s' printed made) : Keeps s s' :=
  ⟨h.connectionId, h.user, h.channelName, h.channels⟩

/-- A call is taken out. -/
theorem keeps_complete (s : SessionSystem) (requestId : Nat) : Keeps s (s.complete requestId) :=
  ⟨rfl, rfl, rfl, fun _ _ h => h⟩

/-! ### Commands -/

/-- A command that needs only a connection makes one call. -/
theorem keeps_ifConnected (s : SessionSystem) (request : Nat → Message) (callback : RpcCallback) :
    ∃ s', (do
      if s.connectionId.isNone then return s
      let connectionId ← value s.connectionId .connectionId
      return s.call connectionId request callback : Result) = .ok s' ∧ Keeps s s' := by
  cases s.connectionId with
  | none => exact ⟨s, rfl, .refl s⟩
  | some c => exact ⟨_, rfl, (continues_call s c _ _).keeps⟩

/-- A command that needs a session makes one call. -/
theorem keeps_ifInSession (s : SessionSystem) (request : Nat → Message) (callback : RpcCallback) :
    ∃ s', (do
      if !s.validateSession then return s
      let connectionId ← value s.connectionId .connectionId
      return s.call connectionId request callback : Result) = .ok s' ∧ Keeps s s' := by
  cases hvalid : s.validateSession with
  | false => exact ⟨s, rfl, .refl s⟩
  | true =>
    obtain ⟨c, hvalue⟩ := connectionId_of_valid hvalid
    rw [hvalue]
    exact ⟨_, rfl, (continues_call s c _ _).keeps⟩

/-- `Send` makes no call. -/
theorem keeps_send (s : SessionSystem) (content : String) :
    ∃ s', s.send content = .ok s' ∧ Keeps s s' := by
  unfold SessionSystem.send
  cases hc : s.connectionId with
  | none => exact ⟨s, rfl, .refl s⟩
  | some c => exact ⟨_, rfl, hc.symm, rfl, rfl, fun _ _ h => h⟩

/-- Outside of a session `Logout` does nothing. -/
theorem logout_invalid (h : s.validateSession = false) : s.logout = .ok s := by
  unfold SessionSystem.logout
  rw [h]
  rfl

/-- In a session `Logout` forgets the user and the channel name. -/
theorem logout_valid (h : s.validateSession = true) :
    ∃ s', s.logout = .ok s' ∧ Keeps ({ s with user := none }.setChannelName none) s' := by
  obtain ⟨c, u, hc, hu⟩ := validateSession_eq_true.mp h
  have hvalue : value s.user .user = .ok u := by
    rw [hu, value_some]
  have hvalue' : value s.connectionId .connectionId = .ok c := by
    rw [hc, value_some]
  unfold SessionSystem.logout
  rw [h, hvalue]
  show ∃ s', (value s.connectionId .connectionId >>= _) = Except.ok s' ∧ _
  rw [hvalue']
  exact ⟨_, rfl, (continues_call _ c _ _).keeps⟩

/-! ### What a step does -/

namespace ClientRun

variable {r r' : ClientRun} {op : ClientOp}

/-- The step touches neither the connection nor the user nor the channel name. -/
def Unmoved (r : ClientRun) : ClientOp → Prop
  | .connected | .disconnected _ => False
  | .logout => r.system.validateSession = false
  | .receive c _ message =>
    acceptedUser r.system c message = none ∧
    (∀ join ∈ acceptedJoin r.system c message,
      r.system.validateSession = false ∨ r.system.store.channelsCache join.1 = none) ∧
    continuedJoin r.system c message = none
  | _ => True

/-- What a step can do. -/
inductive Performed (r : ClientRun) : ClientOp → SessionSystem → Prop
  | connected : Performed r .connected (r.system.onConnected r.nextConnectionId)
  | disconnected (c : Nat) : Performed r (.disconnected c) (r.system.onDisconnected c)
  | loggedOut {s' : SessionSystem} : r.system.validateSession = true →
      Keeps ({ r.system with user := none }.setChannelName none) s' → Performed r .logout s'
  | authenticated {c id : Nat} {message : Message} {user : User} {s' : SessionSystem} :
      acceptedUser r.system c message = some user →
      Keeps { r.system with user := some user } s' → Performed r (.receive c id message) s'
  | joined {c id : Nat} {message : Message} {join : Nat × PendingCall} {channel : ChatChannel}
      {s' : SessionSystem} : acceptedJoin r.system c message = some join →
      r.system.validateSession = true → r.system.store.channelsCache join.1 = some channel →
      Keeps (r.system.setChannelName (some channel.name)) s' →
      Performed r (.receive c id message) s'
  | continued {c id channelId : Nat} {message : Message} {channel : ChatChannel}
      {s' : SessionSystem} : continuedJoin r.system c message = some channelId →
      s'.store.channelsCache channelId = some channel →
      Keeps (r.system.setChannelName (some channel.name)) s' →
      Performed r (.receive c id message) s'
  | kept {op : ClientOp} {s' : SessionSystem} : r.Unmoved op → Keeps r.system s' →
      Performed r op s'

/-- A message that answers no call. -/
theorem unmoved_of_answered {c id : Nat} {message : Message}
    (h : r.system.answered c message = none) : r.Unmoved (.receive c id message) := by
  have huser : acceptedUser r.system c message = none := by
    unfold acceptedUser
    rw [h]
    cases message <;> rfl
  have hjoin : acceptedJoin r.system c message = none := by
    unfold acceptedJoin
    rw [h]
    cases message <;> rfl
  have hcontinued : continuedJoin r.system c message = none := by
    unfold continuedJoin
    rw [h]
    cases message <;> rfl
  refine ⟨huser, fun join hmem => ?_, hcontinued⟩
  rw [hjoin] at hmem
  cases hmem

/-! ### Chat lines -/

/-- A callback prints a chat line exactly when it has one to print. -/
theorem printsChatLine_iff {s : SessionSystem} {callback : UsersCallback} :
    printsChatLine s callback = true ↔ usersLines s callback ≠ [] := by
  cases callback with
  | chatLog messages => simp [printsChatLine, usersLines, Option.isSome_iff_ne_none]
  | user userId callback =>
    cases callback with
    | receiveChat message =>
      cases hcached : s.store.usersCache userId <;>
        simp [printsChatLine, usersLines, userLines, hcached]
    | _ => simp [printsChatLine, usersLines, userLines]

/-- What a lookup prints does not depend on the calls that are pending. -/
theorem usersLines_complete {s : SessionSystem} (users : List User) (requestId : Nat)
    (callback : UsersCallback) :
    usersLines (users.foldl SessionSystem.cacheUser (s.complete requestId)) callback
      = usersLines (users.foldl SessionSystem.cacheUser s) callback := by
  have hstore : ∀ t : SessionSystem, (users.foldl SessionSystem.cacheUser t).store
      = users.foldl SessionStore.cacheUser t.store := by
    induction users with
    | nil => exact fun t => rfl
    | cons user users ih => exact fun t => ih (t.cacheUser user)
  cases callback with
  | chatLog messages =>
    rw [usersLines, usersLines, hstore, hstore]
    rfl
  | user userId callback =>
    rw [usersLines, usersLines, hstore, hstore]
    rfl

/-! ### Messages -/

/-- An answer goes to the slots of the calls. -/
theorem receive_answer {s : SessionSystem} {message : Message}
    (h : message.type.isRpcAnswer = true) (c id : Nat) :
    s.receive c id message = s.handleAnswer c message := by
  cases message <;> first | rfl | cases h

/-- A message that answers no call is ignored. -/
theorem handleAnswer_none {s : SessionSystem} {c : Nat} {message : Message}
    (h : s.answered c message = none) : s.handleAnswer c message = .ok s := by
  unfold SessionSystem.handleAnswer
  rw [h]

/-- A message that answers a call completes it and runs its callback. -/
theorem handleAnswer_some {s : SessionSystem} {c : Nat} {message : Message} {call : PendingCall}
    (h : s.answered c message = some call) :
    s.handleAnswer c message
      = (s.complete call.requestId).runRpcCallback call.callback message := by
  unfold SessionSystem.handleAnswer
  rw [h]

/-- A result that keeps the session after the call was taken out. -/
theorem performed_of_continues {c id requestId : Nat} {message : Message} {s' : SessionSystem}
    {printed : List ChatMessage} {made : List RpcCallback}
    (hunmoved : r.Unmoved (.receive c id message))
    (h : Continues (r.system.complete requestId) s' printed made) :
    Performed r (.receive c id message) s' :=
  .kept hunmoved ((keeps_complete r.system requestId).trans h.keeps)

/-- The response to a join. -/
theorem performed_joined {c id : Nat} {m : JoinChatChannelResponseMessage} {call : PendingCall}
    (hanswered : r.system.answered c (.joinChatChannelResponse m) = some call) :
    ∃ s', (r.system.complete call.requestId).joined m = .ok s' ∧
      Performed r (.receive c id (.joinChatChannelResponse m)) s' := by
  have haccepted : acceptedJoin r.system c (.joinChatChannelResponse m)
      = some (m.channelId, call) := by
    simp only [acceptedJoin, hanswered]
  have hunmoved : r.system.validateSession = false ∨
      r.system.store.channelsCache m.channelId = none →
      r.Unmoved (.receive c id (.joinChatChannelResponse m)) := by
    intro h
    refine ⟨rfl, fun join hjoin => ?_, rfl⟩
    rw [haccepted] at hjoin
    cases hjoin
    exact h
  cases hvalid : r.system.validateSession with
  | false =>
    have hok := joined_invalid (s := r.system.complete call.requestId) hvalid m
    exact ⟨_, hok, performed_of_continues (hunmoved (.inl hvalid)) (.refl _)⟩
  | true =>
    cases hcached : r.system.store.channelsCache m.channelId with
    | none =>
      obtain ⟨s', hok, hcontinues⟩ :=
        runs_joined_uncached (s := r.system.complete call.requestId) hvalid hcached
      exact ⟨s', hok, performed_of_continues (hunmoved (.inr hcached)) hcontinues⟩
    | some channel =>
      obtain ⟨s', hok, hcontinues⟩ :=
        runs_joined_cached (s := r.system.complete call.requestId) hvalid hcached
      refine ⟨s', hok, .joined haccepted hvalid hcached (Keeps.trans ?_ hcontinues.keeps)⟩
      exact keeps_complete (r.system.setChannelName (some channel.name)) call.requestId

/-- The response to a channel lookup. -/
theorem performed_gotChannel {c id : Nat} {m : GetChatChannelResponseMessage} {call : PendingCall}
    {callback : ChannelCallback} (hcallback : call.callback = .gotChannel callback)
    (hanswered : r.system.answered c (.getChatChannelResponse m) = some call) :
    ∃ s', (r.system.complete call.requestId).gotChannel m callback = .ok s' ∧
      Performed r (.receive c id (.getChatChannelResponse m)) s' := by
  have hcontinued : continuedJoin r.system c (.getChatChannelResponse m)
      = if call.callback = .gotChannel .joined then some m.channel.id else none := by
    simp only [continuedJoin, hanswered]
  rw [hcallback] at hcontinued
  by_cases hjoined : callback = .joined
  · subst hjoined
    rw [if_pos rfl] at hcontinued
    obtain ⟨channel, made, -, hcached, s', hok, hcontinues⟩ :=
      runs_gotChannel_joined (r.system.complete call.requestId) m
    have hkeeps : Keeps r.system ((r.system.complete call.requestId).cacheChannel m.channel) :=
      (keeps_complete _ _).trans (continues_cacheChannel _ _).keeps
    exact ⟨s', hok, .continued hcontinued (hcontinues.channels _ _ hcached)
      ((hkeeps.setChannelName _).trans hcontinues.keeps)⟩
  · rw [if_neg (by simpa using hjoined)] at hcontinued
    obtain ⟨made, -, s', hok, hcontinues⟩ :=
      runsAside_gotChannel (s := r.system.complete call.requestId) hjoined m
    refine ⟨s', hok, performed_of_continues ⟨rfl, fun join hjoin => ?_, hcontinued⟩ hcontinues⟩
    cases hjoin

/-- An event is handled. -/
theorem performed_event {c id : Nat} {message : Message}
    (hanswer : message.type.isRpcAnswer = false) :
    ∃ s', r.system.receive c id message = .ok s' ∧ Performed r (.receive c id message) s' := by
  have hunmoved : r.Unmoved (.receive c id message) :=
    unmoved_of_answered (answered_eq_none hanswer c)
  by_cases hchat : message.type = .receiveChat
  · obtain ⟨m, rfl⟩ : ∃ m, message = .receiveChat m := by
      cases message <;> cases hchat
      exact ⟨_, rfl⟩
    cases hvalid : r.system.validateSession with
    | false => exact ⟨_, receiveChat_invalid hvalid c id m, .kept hunmoved (.refl _)⟩
    | true =>
      rcases runs_receiveChat hvalid c id m with ⟨-, -, s', hok, hcontinues⟩ |
        ⟨-, s', hok, hcontinues⟩
      · exact ⟨s', hok, .kept hunmoved hcontinues.keeps⟩
      · exact ⟨s', hok, .kept hunmoved hcontinues.keeps⟩
  · obtain ⟨made, -, s', hok, hcontinues⟩ := runsAside_receive (s := r.system) hchat hanswer c id
    exact ⟨s', hok, .kept hunmoved hcontinues.keeps⟩

/-- The response with a history. -/
theorem performed_gotChats (r : ClientRun) (c id requestId : Nat) (m : GetChatsResponseMessage) :
    ∃ s', (r.system.complete requestId).gotChats m = .ok s' ∧
      Performed r (.receive c id (.getChatsResponse m)) s' := by
  have hunmoved : r.Unmoved (.receive c id (.getChatsResponse m)) :=
    ⟨rfl, fun _ hjoin => (nomatch hjoin), rfl⟩
  cases hvalid : r.system.validateSession with
  | false =>
    have hok := gotChats_invalid (s := r.system.complete requestId) hvalid m
    exact ⟨_, hok, performed_of_continues hunmoved (.refl _)⟩
  | true =>
    rcases runs_gotChats (s := r.system.complete requestId) hvalid m with
      ⟨s', hok, hcontinues⟩ | ⟨s', hok, hcontinues⟩
    · exact ⟨s', hok, performed_of_continues hunmoved hcontinues⟩
    · exact ⟨s', hok, performed_of_continues hunmoved hcontinues⟩

/-- The response to a user lookup, when it prints no chat line without a user. -/
theorem performed_gotUsers {c id : Nat} {m : GetUsersResponseMessage} {call : PendingCall}
    {callback : UsersCallback} (h : r.ChatLinesInSession (.receive c id (.getUsersResponse m)))
    (hcallback : call.callback = .gotUsers callback)
    (hanswered : r.system.answered c (.getUsersResponse m) = some call) :
    ∃ s', (r.system.complete call.requestId).gotUsers m callback = .ok s' ∧
      Performed r (.receive c id (.getUsersResponse m)) s' := by
  have hlines : r.system.user ≠ none ∨ usersLines
      (m.users.foldl SessionSystem.cacheUser (r.system.complete call.requestId)) callback = [] := by
    rw [usersLines_complete]
    by_contra hcontra
    rw [not_or] at hcontra
    refine hcontra.1 (h ?_)
    show (r.system.answered c (.getUsersResponse m)).any _ = true
    rw [hanswered, Option.any_some, hcallback]
    exact printsChatLine_iff.mpr hcontra.2
  obtain ⟨s', hok, hcontinues⟩ := runs_gotUsers (s := r.system.complete call.requestId) hlines
  exact ⟨s', hok, performed_of_continues ⟨rfl, fun _ hjoin => (nomatch hjoin), rfl⟩ hcontinues⟩

/-- An answer to a call is handled, when it prints no chat line without a user. -/
theorem performed_answer {c id : Nat} {message : Message} {call : PendingCall}
    (h : r.ChatLinesInSession (.receive c id message))
    (hanswered : r.system.answered c message = some call) :
    ∃ s', (r.system.complete call.requestId).runRpcCallback call.callback message = .ok s' ∧
      Performed r (.receive c id message) s' := by
  have hanswers := answers_of_answeredBy (answered_eq_some hanswered).2
  generalize hcallback : call.callback = callback at hanswers
  -- Most responses only fill a cache and print a line.
  cases hanswers with
  | error _ m =>
    have hok : (r.system.complete call.requestId).runRpcCallback callback (.errorResponse m)
        = .ok (r.system.complete call.requestId) := by
      cases callback <;> rfl
    exact ⟨_, hok, performed_of_continues ⟨rfl, fun _ hjoin => (nomatch hjoin), rfl⟩ (.refl _)⟩
  | authenticated m =>
    have haccepted : acceptedUser r.system c (.authenticateUserResponse m) = some m.user := by
      simp only [acceptedUser, hanswered]
    obtain ⟨s', hok, hcontinues⟩ := runs_authenticated (r.system.complete call.requestId) m
    refine ⟨s', hok, .authenticated haccepted (Keeps.trans ?_ hcontinues.keeps)⟩
    exact keeps_complete { r.system with user := some m.user } call.requestId
  | loggedOut user m =>
    exact ⟨_, rfl, performed_of_continues ⟨rfl, fun _ hjoin => (nomatch hjoin), rfl⟩
      (continues_addLine _ _)⟩
  | createdUser m =>
    exact ⟨_, rfl, performed_of_continues ⟨rfl, fun _ hjoin => (nomatch hjoin), rfl⟩
      (continues_createdUser _ m)⟩
  | gotChannels m =>
    exact ⟨_, rfl, performed_of_continues ⟨rfl, fun _ hjoin => (nomatch hjoin), rfl⟩
      (continues_gotChannels _ m)⟩
  | createdChannel m =>
    exact ⟨_, rfl, performed_of_continues ⟨rfl, fun _ hjoin => (nomatch hjoin), rfl⟩
      (continues_createdChannel _ m)⟩
  | joined m => exact performed_joined hanswered
  | gotChats m => exact performed_gotChats r c id call.requestId m
  | gotUsers callback m => exact performed_gotUsers h hcallback hanswered
  | gotChannel callback m => exact performed_gotChannel hcallback hanswered

/-- A message that prints no chat line without a user is handled. -/
theorem performed_receive {c id : Nat} {message : Message}
    (h : r.ChatLinesInSession (.receive c id message)) :
    ∃ s', r.system.receive c id message = .ok s' ∧ Performed r (.receive c id message) s' := by
  cases hanswer : message.type.isRpcAnswer with
  | false => exact performed_event hanswer
  | true =>
    rw [receive_answer hanswer]
    cases hanswered : r.system.answered c message with
    | none =>
      rw [handleAnswer_none hanswered]
      exact ⟨_, rfl, .kept (unmoved_of_answered hanswered) (.refl _)⟩
    | some call =>
      rw [handleAnswer_some hanswered]
      exact performed_answer h hanswered

/-! ### Steps -/

/-- A step that is in session for its chat lines is performed. -/
theorem performed (h : r.ChatLinesInSession op) :
    ∃ s', r.perform op = .ok s' ∧ Performed r op s' := by
  cases op with
  | connect => exact ⟨_, rfl, .kept trivial (.refl _)⟩
  | connected => exact ⟨_, rfl, .connected⟩
  | connectionFailed => exact ⟨_, rfl, .kept trivial (.refl _)⟩
  | disconnected c => exact ⟨_, rfl, .disconnected c⟩
  | login name password =>
    obtain ⟨s', hok, hkeeps⟩ := keeps_ifConnected r.system _ _
    exact ⟨s', hok, .kept trivial hkeeps⟩
  | logout =>
    cases hvalid : r.system.validateSession with
    | false => exact ⟨_, logout_invalid hvalid, .kept hvalid (.refl _)⟩
    | true =>
      obtain ⟨s', hok, hkeeps⟩ := logout_valid hvalid
      exact ⟨s', hok, .loggedOut hvalid hkeeps⟩
  | send content =>
    obtain ⟨s', hok, hkeeps⟩ := keeps_send r.system content
    exact ⟨s', hok, .kept trivial hkeeps⟩
  | addUser name password =>
    obtain ⟨s', hok, hkeeps⟩ := keeps_ifConnected r.system _ _
    exact ⟨s', hok, .kept trivial hkeeps⟩
  | getChannels =>
    obtain ⟨s', hok, hkeeps⟩ := keeps_ifConnected r.system _ _
    exact ⟨s', hok, .kept trivial hkeeps⟩
  | createChannel name =>
    obtain ⟨s', hok, hkeeps⟩ := keeps_ifInSession r.system _ _
    exact ⟨s', hok, .kept trivial hkeeps⟩
  | joinChannel channelId =>
    obtain ⟨s', hok, hkeeps⟩ := keeps_ifInSession r.system _ _
    exact ⟨s', hok, .kept trivial hkeeps⟩
  | receive c id message => exact performed_receive h
  | timeout requestId => exact ⟨_, rfl, .kept trivial (keeps_complete _ _)⟩

/-- A step that is not in session accesses the empty `user_`. -/
theorem perform_error (h : ¬ r.ChatLinesInSession op) : r.perform op = .error .user := by
  cases op with
  | receive c id message =>
    have hprints : lookupPrints r.system c message = true := by
      by_contra hnot
      exact h fun hprints => absurd hprints hnot
    have huser : r.system.user = none := by
      by_contra hne
      exact h fun _ => hne
    cases message with
    | getUsersResponse m =>
      simp only [lookupPrints] at hprints
      cases hanswered : r.system.answered c (.getUsersResponse m) with
      | none =>
        rw [hanswered] at hprints
        cases hprints
      | some call =>
        rw [hanswered, Option.any_some] at hprints
        show r.system.handleAnswer c _ = .error .user
        rw [handleAnswer_some hanswered]
        cases hcallback : call.callback with
        | gotUsers callback =>
          rw [hcallback] at hprints
          refine gotUsers_error huser ?_
          rw [usersLines_complete]
          exact printsChatLine_iff.mp hprints
        | _ =>
          rw [hcallback] at hprints
          cases hprints
    | _ => cases hprints
  | _ => exact absurd trivial h

/-- What is known of a step: it was possible, and it did what `Performed` says, or it failed. -/
theorem step_cases (h : r.step op = some r') :
    r.fault = none ∧ r.Enabled op ∧
      ((∃ s', r.ChatLinesInSession op ∧ Performed r op s' ∧ r' = r.record op (.ok s')) ∨
        ¬ r.ChatLinesInSession op ∧ r' = r.record op (.error .user)) := by
  simp only [step, Option.ite_none_right_eq_some] at h
  obtain ⟨⟨hfault, henabled⟩, hstep⟩ := h
  refine ⟨hfault, henabled, ?_⟩
  by_cases hlines : r.ChatLinesInSession op
  · obtain ⟨s', hok, hperformed⟩ := performed hlines
    rw [hok] at hstep
    exact .inl ⟨s', hlines, hperformed, (Option.some.inj hstep).symm⟩
  · rw [perform_error hlines] at hstep
    exact .inr ⟨hlines, (Option.some.inj hstep).symm⟩

/-- The runs that never access an empty optional are those in which a user lookup that prints a
chat line is answered only while the client has a user. -/
theorem no_empty_access (r : ClientRun) :
    clientRuns.Reachable ChatLinesInSession r
      ↔ clientRuns.Reachable Lts.anyStep r ∧ r.fault = none := by
  constructor
  · intro h
    refine ⟨h.project id (fun _ hstart => hstart) (fun _ _ _ hstep => hstep), ?_⟩
    refine h.invariant (I := fun r => r.fault = none) ?_ ?_
    · rintro r rfl
      rfl
    · intro r op r' _ hlines hstep
      obtain ⟨-, -, ⟨s', -, -, rfl⟩ | ⟨hnot, -⟩⟩ := step_cases hstep
      · rfl
      · exact absurd hlines hnot
  · rintro ⟨h, hfault⟩
    induction h with
    | start hstart => exact .start hstart
    | @step r r' op _ _ hstep ih =>
      obtain ⟨hbefore, -, ⟨s', hlines, -, rfl⟩ | ⟨-, rfl⟩⟩ := step_cases hstep
      · exact .step (ih hbefore) hlines hstep
      · cases hfault

/-- A chat message of a user whom the client does not know, then a logout, and then the answer to
the user lookup. -/
theorem empty_user_accessed :
    ∃ r, clientRuns.Reachable Lts.anyStep r ∧ r.fault = some .user := by
  have hstart : clientRuns.Reachable Lts.anyStep {} := .start rfl
  exact hstart.exists_of_exec
    [.connect, .connected, .login "ann" "pw",
      .receive 1 0 (.authenticateUserResponse ⟨1, ⟨1, "ann"⟩⟩),
      .receive 1 7 (.receiveChat ⟨2, 1, "hello"⟩), .logout,
      .receive 1 0 (.getUsersResponse ⟨2, [⟨2, "bob"⟩]⟩)]
    (fun r => r.fault = some .user) (by decide +kernel)

end ClientRun

end ChatCore.Client
