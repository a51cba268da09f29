import ChatCore.Proofs.Answers
import ChatCore.Proofs.Delivery
import ChatCore.Server.Observers

/-!
# `ChatCore.Proofs.Membership`: following a channel by its events

A connection that stays in a channel is told who else is in it. A step changes who is in the
channel by a join, a logout or a disconnect, and each of them says so: a join broadcasts its leave
event to the old channel and its join event to the new one, and the end of a session is broadcast
to everybody. `Tells` is this fact for one step, and `FollowInv` carries it along a run.

A disconnected connection keeps its assignment. A login on it would bring the user into the
channel without an event, so no message of it may be handled any more (`BeforeDisconnect`).
-/

set_option autoImplicit false

namespace ChatCore.Server

open ChatCore.Api
open ChatCore.Lib

/-! ### What one connection receives -/

/-- The messages of the calls to connection `o`. -/
def received (connections : List Nat) (o : Nat) (calls : List Call) : List Message :=
  ((calls.flatMap (Call.deliveries connections)).filter (·.1 = o)).map Prod.snd

/-- What a connection receives of two lists of calls one after the other. -/
theorem received_append (connections : List Nat) (o : Nat) (calls calls' : List Call) :
    received connections o (calls ++ calls')
      = received connections o calls ++ received connections o calls' := by
  unfold received
  rw [List.flatMap_append, List.filter_append, List.map_append]

/-- What a connection receives is what is delivered to it. -/
theorem mem_received {connections : List Nat} {o : Nat} {calls : List Call} {message : Message} :
    message ∈ received connections o calls
      ↔ ∃ call ∈ calls, (o, message) ∈ call.deliveries connections := by
  unfold received
  constructor
  · intro h
    obtain ⟨⟨c, message'⟩, hfiltered, rfl⟩ := List.mem_map.mp h
    obtain ⟨hmem, hc⟩ := List.mem_filter.mp hfiltered
    obtain rfl : c = o := of_decide_eq_true hc
    exact List.mem_flatMap.mp hmem
  · rintro ⟨call, hcall, hmem⟩
    have hall := List.mem_flatMap.mpr ⟨call, hcall, hmem⟩
    exact List.mem_map_of_mem (List.mem_filter.mpr ⟨hall, decide_eq_true rfl⟩)

section

variable {connections : List Nat} {o : Nat} (f : Message → Option Bool)

/-- Calls whose messages say nothing. -/
theorem latest_received_silent {f : Message → Option Bool} {calls : List Call}
    (h : ∀ call ∈ calls, ∀ message ∈ call.message, f message = none) :
    latest f (received connections o calls) = none := by
  refine latest_eq_none.mpr fun message hmem => ?_
  obtain ⟨call, hcall, hdelivered⟩ := mem_received.mp hmem
  exact h call hcall message (message_of_mem_deliveries hdelivered)

/-- A broadcast reaches every connection. -/
theorem latest_received_broadcast (ho : o ∈ connections) (message : Message) :
    latest f (received connections o [.broadcast message]) = f message := by
  refine latest_of_forall_eq (fun message' hmem => ?_) (mem_received.mpr ?_)
  · obtain ⟨call, hcall, hdelivered⟩ := mem_received.mp hmem
    obtain rfl := List.mem_singleton.mp hcall
    exact (Option.some.inj (message_of_mem_deliveries hdelivered)).symm
  · exact ⟨_, List.mem_singleton_self _, List.mem_map_of_mem ho⟩

/-- A broadcast to a channel reaches the connections of its list. -/
theorem latest_received_broadcastTo (ho : o ∈ connections) (cs : List Nat) (message : Message) :
    latest f (received connections o [.broadcastTo cs message])
      = if o ∈ cs then f message else none := by
  have hmessage : ∀ message' ∈ received connections o [.broadcastTo cs message],
      o ∈ cs ∧ message' = message := by
    intro message' hmem
    obtain ⟨call, hcall, hdelivered⟩ := mem_received.mp hmem
    obtain rfl := List.mem_singleton.mp hcall
    obtain ⟨c, hc, heq⟩ := List.mem_map.mp hdelivered
    obtain ⟨rfl, rfl⟩ := Prod.mk.inj heq
    exact ⟨(List.mem_filter.mp hc).1, rfl⟩
  split
  · rename_i hin
    refine latest_of_forall_eq (fun message' hmem => (hmessage message' hmem).2)
      (mem_received.mpr ⟨_, List.mem_singleton_self _, ?_⟩)
    exact List.mem_map_of_mem (List.mem_filter.mpr ⟨hin, decide_eq_true ho⟩)
  · rename_i hout
    exact latest_eq_none.mpr fun message' hmem => absurd (hmessage message' hmem).1 hout

end

/-! ### One step -/

/-- What the messages of a step say about user `u` in channel `ch` is true afterwards, and when
they say nothing, nothing has changed. -/
structure Tells (s s' : ServerState) (messages : List Message) (ch u : Nat) : Prop where
  silent : latest (presence ch u) messages = none → (s'.Member ch u ↔ s.Member ch u)
  told : ∀ b, latest (presence ch u) messages = some b → (b = true ↔ s'.Member ch u)

section

variable {s s' : ServerState} {ch u : Nat} {messages : List Message}

/-- Messages without news about the member are truthful when nothing has changed. -/
theorem Tells.of_silent (hnone : latest (presence ch u) messages = none)
    (hmember : s'.Member ch u ↔ s.Member ch u) : Tells s s' messages ch u := by
  refine ⟨fun _ => hmember, fun b hb => ?_⟩
  rw [hnone] at hb
  cases hb

/-- News about the member are truthful when the last one is right. -/
theorem Tells.of_told {b : Bool}
    (hsome : latest (presence ch u) messages = some b) (hmember : b = true ↔ s'.Member ch u) :
    Tells s s' messages ch u := by
  refine ⟨fun hnone => ?_, fun b' hb => ?_⟩
  · rw [hsome] at hnone
    cases hnone
  · rw [hsome] at hb
    cases hb
    exact hmember

end

namespace ServerState

variable {s s' : ServerState} {c o ch u : Nat}

/-- The same sessions and assignments have the same members. -/
theorem member_congr (hsessions : s'.users.userSessions = s.users.userSessions)
    (hmap : s'.channels.connectionChannelMap = s.channels.connectionChannelMap) :
    s'.Member ch u ↔ s.Member ch u := by
  unfold Member
  rw [hsessions, hmap]

/-- A user has one session, so the user is in the channel of this session's connection. -/
theorem member_iff_of_session (ch : Nat) (hsession : (c, u) ∈ s.users.userSessions) :
    s.Member ch u ↔ (c, ch) ∈ s.channels.connectionChannelMap := by
  refine ⟨fun h => ?_, fun h => ⟨c, hsession, h⟩⟩
  obtain ⟨c', hc', hmap⟩ := h
  obtain rfl := Bimap.left_eq hsession hc'
  exact hmap

/-- The replies to a join request: those of a join, or an error. -/
theorem replies_join (m : JoinChatChannelRequestMessage) :
    (∃ u, s.users.userSessions.findLeft c = some u ∧
      s.replies c (.joinChatChannelRequest m) = s.joinReplies c u m.channelId m.requestId) ∨
    ∃ text, s.replies c (.joinChatChannelRequest m) = [handleRpcError c m.requestId text] := by
  simp only [replies, authorized]
  cases s.users.userSessions.findLeft c with
  | none => exact .inr ⟨_, rfl⟩
  | some u =>
    cases s.db.getChatChannel m.channelId with
    | none => exact .inr ⟨_, rfl⟩
    | some channel => exact .inl ⟨u, rfl, rfl⟩

/-- Replies that neither join nor log out say nothing about members. -/
theorem presence_replies_of_quiet {m : Message} (hquiet : ∀ call ∈ s.replies c m, call.Quiet) :
    ∀ call ∈ s.replies c m, ∀ message ∈ call.message, presence ch u message = none := by
  by_cases hjoin : m.type = .joinChatChannelRequest
  · cases m with
    | joinChatChannelRequest m =>
      rcases replies_join (s := s) (c := c) m with ⟨u', -, heq⟩ | ⟨text, heq⟩
      · rw [heq] at hquiet
        have hresponse := hquiet (.send c (.joinChatChannelResponse ⟨m.requestId, m.channelId⟩))
          (List.mem_append_right _ (by simp))
        exact absurd rfl hresponse.2.2.1
      · rw [heq]
        simp [handleRpcError, Call.message, presence]
    | _ => cases hjoin
  · by_cases hlogout : m.type = .logoutRequest
    · cases m with
      | logoutRequest m =>
        simp only [replies, authorized] at hquiet ⊢
        cases hsession : s.users.userSessions.findLeft c with
        | none => simp [notAuthorized, Call.message, presence]
        | some u' =>
          rw [hsession] at hquiet
          have hresponse := hquiet (.send c (.logoutResponse ⟨m.requestId⟩)) (by simp)
          exact absurd rfl hresponse.2.2.2
      | _ => cases hlogout
    · have htypes : ∀ request : MessageType, request ≠ .joinChatChannelRequest →
          request ≠ .logoutRequest → ∀ type ∈ replyTypes request,
            type ≠ .channelJoinEvent ∧ type ≠ .channelLeaveEvent ∧ type ≠ .userLogoutEvent := by
        intro request
        cases request <;> decide
      intro call hcall message hmessage
      have hne := htypes m.type hjoin hlogout _ (ofTypes_replies m call hcall message hmessage)
      cases message with
      | channelJoinEvent m => exact absurd rfl hne.1
      | channelLeaveEvent m => exact absurd rfl hne.2.1
      | userLogoutEvent m => exact absurd rfl hne.2.2
      | _ => rfl

/-- A join, as another connection of the channel is told. The leave event reaches it when the
old channel is its own, and the join event when the new one is. -/
theorem latest_received_join (hregistered : o ∈ s.connections) (hne : o ≠ c)
    (hassigned : (o, ch) ∈ s.channels.connectionChannelMap) (u' channel requestId : Nat) :
    latest (presence ch u) (received s.connections o (s.joinReplies c u' channel requestId))
      = if u' = u then
          if channel = ch then some true
          else if s.channels.connectionChannelMap.findLeft c = some ch then some false else none
        else none := by
  have hjoined : o ∈ (s.channels.assignConnection c channel).connectionChannelMap.rangeRight channel
      ↔ channel = ch := by
    rw [MultiBimap.mem_rangeRight, ChannelStore.mem_assignConnection]
    constructor
    · rintro (⟨heq, -⟩ | ⟨hmem, -⟩)
      · exact absurd heq hne
      · exact MultiBimap.right_eq hmem hassigned
    · rintro rfl
      exact .inr ⟨hassigned, hne⟩
  have hresponse : latest (presence ch u) (received s.connections o
      [.send c (.joinChatChannelResponse ⟨requestId, channel⟩)]) = none :=
    latest_received_silent (by simp [Call.message, presence])
  have hleave : latest (presence ch u) (received s.connections o
      ((s.channels.connectionChannelMap.findLeft c).elim [] fun previous =>
        [.broadcastTo (s.channels.connectionChannelMap.rangeRight previous)
          (.channelLeaveEvent ⟨previous, u'⟩)]))
      = if u' = u ∧ s.channels.connectionChannelMap.findLeft c = some ch then some false
        else none := by
    cases s.channels.connectionChannelMap.findLeft c with
    | none => simp [received]
    | some previous =>
      show latest _ (received s.connections o [.broadcastTo _ _]) = _
      rw [latest_received_broadcastTo _ hregistered]
      by_cases hsame : previous = ch
      · subst hsame
        simp [MultiBimap.mem_rangeRight, hassigned, presence]
      · simp [presence, hsame]
  have hsplit : s.joinReplies c u' channel requestId
      = ((s.channels.connectionChannelMap.findLeft c).elim [] fun previous =>
          [.broadcastTo (s.channels.connectionChannelMap.rangeRight previous)
            (.channelLeaveEvent ⟨previous, u'⟩)])
        ++ ([.broadcastTo
            ((s.channels.assignConnection c channel).connectionChannelMap.rangeRight channel)
            (.channelJoinEvent ⟨channel, u'⟩)]
          ++ [.send c (.joinChatChannelResponse ⟨requestId, channel⟩)]) := rfl
  rw [hsplit, received_append, received_append, latest_append, latest_append, hresponse, hleave,
    latest_received_broadcastTo _ hregistered]
  simp only [hjoined]
  by_cases hu : u' = u
  · by_cases hch : channel = ch
    · simp [hu, hch, presence]
    · simp [hu, hch]
  · simp [hu, presence]

/-- The members of a channel after a join of connection `c` to `channel`. -/
theorem member_join {u' channel : Nat} (hsession : (c, u') ∈ s.users.userSessions)
    (hsessions : s'.users.userSessions = s.users.userSessions)
    (hmap : ∀ c' ch', (c', ch') ∈ s'.channels.connectionChannelMap
      ↔ (c' = c ∧ ch' = channel) ∨ ((c', ch') ∈ s.channels.connectionChannelMap ∧ c' ≠ c)) :
    s'.Member ch u ↔ if u' = u then channel = ch else s.Member ch u := by
  by_cases hu : u' = u
  · subst hu
    rw [if_pos rfl, member_iff_of_session (c := c) ch (hsessions ▸ hsession), hmap]
    simp [eq_comm]
  · rw [if_neg hu]
    unfold Member
    rw [hsessions]
    refine exists_congr fun c' => and_congr_right fun hc' => ?_
    have hne : c' ≠ c := fun heq => hu (Bimap.right_eq hsession (heq ▸ hc'))
    simp [hmap, hne]

/-- A join, for another connection of the channel. -/
theorem tells_join {u' channel : Nat} (hregistered : o ∈ s.connections) (hne : o ≠ c)
    (hassigned : (o, ch) ∈ s.channels.connectionChannelMap)
    (hsession : (c, u') ∈ s.users.userSessions)
    (hmember : s'.Member ch u ↔ if u' = u then channel = ch else s.Member ch u)
    (requestId : Nat) :
    Tells s s' (received s.connections o (s.joinReplies c u' channel requestId)) ch u := by
  have hlatest := latest_received_join (u := u) hregistered hne hassigned u' channel requestId
  -- The user of the join comes to the channel, leaves it or has nothing to do with it.
  by_cases hu : u' = u
  · rw [if_pos hu] at hlatest hmember
    subst hu
    by_cases hch : channel = ch
    · rw [if_pos hch] at hlatest
      exact .of_told hlatest (by rw [hmember]; simp [hch])
    · rw [if_neg hch] at hlatest
      have hold := member_iff_of_session ch hsession
      by_cases hprevious : s.channels.connectionChannelMap.findLeft c = some ch
      · rw [if_pos hprevious] at hlatest
        exact .of_told hlatest (by rw [hmember]; simp [hch])
      · rw [if_neg hprevious] at hlatest
        refine .of_silent hlatest ?_
        rw [hmember, hold, ← MultiBimap.findLeft_eq_some]
        simp [hch, hprevious]
  · rw [if_neg hu] at hlatest hmember
    exact .of_silent hlatest hmember

/-- The members of a channel after the session of connection `c` has ended. -/
theorem member_ended {u' : Nat} (hsession : (c, u') ∈ s.users.userSessions)
    (hsessions : ∀ c' w, (c', w) ∈ s'.users.userSessions
      ↔ (c', w) ∈ s.users.userSessions ∧ c' ≠ c)
    (hmap : ∀ c' ch', c' ≠ c → ((c', ch') ∈ s'.channels.connectionChannelMap
      ↔ (c', ch') ∈ s.channels.connectionChannelMap)) :
    s'.Member ch u ↔ u' ≠ u ∧ s.Member ch u := by
  constructor
  · rintro ⟨c', hc', hch⟩
    obtain ⟨hold, hne⟩ := (hsessions c' u).mp hc'
    refine ⟨fun heq => ?_, c', hold, (hmap c' ch hne).mp hch⟩
    subst heq
    exact hne (Bimap.left_eq hold hsession)
  · rintro ⟨hu, c', hc', hch⟩
    have hne : c' ≠ c := fun heq => hu (Bimap.right_eq hsession (heq ▸ hc'))
    exact ⟨c', (hsessions c' u).mpr ⟨hc', hne⟩, (hmap c' ch hne).mpr hch⟩

/-- The end of a session is broadcast, and says all that changes. -/
theorem tells_logout (u' : Nat) {messages : List Message}
    (hlatest : latest (presence ch u) messages = presence ch u (.userLogoutEvent ⟨u'⟩))
    (hmember : s'.Member ch u ↔ u' ≠ u ∧ s.Member ch u) : Tells s s' messages ch u := by
  by_cases hu : u' = u
  · refine .of_told (b := false) ?_ ?_
    · simp [hlatest, presence, hu]
    · rw [hmember]
      simp [hu]
  · refine .of_silent ?_ ?_
    · simp [hlatest, presence, hu]
    · rw [hmember, and_iff_right hu]

/-- A handled message, for a connection of the channel whose own membership it leaves alone. -/
theorem tells_handle (h : s.Consistent) (hregistered : o ∈ s.connections)
    (hassigned : (o, ch) ∈ s.channels.connectionChannelMap) {m : Message}
    (hother : (⟨.handle c m, (s.handle c m).2⟩ : Event).membership o = none)
    (hfree : (∀ u, (c, u) ∉ s.users.userSessions) →
      ∀ ch, (c, ch) ∉ s.channels.connectionChannelMap) (u : Nat) :
    Tells s (s.handle c m).1 (received s.connections o (s.handle c m).2) ch u := by
  have hcalls := handle_replies h c m
  have hh := handled_handle h c m
  revert hh hother
  generalize hresult : s.handle c m = result
  rw [hresult] at hcalls
  obtain ⟨s', calls⟩ := result
  intro hother hh
  cases hh with
  | served hs hquiet =>
    refine .of_silent (latest_received_silent ?_) (member_congr hs.sessions hs.assigned)
    have heq : calls = s.replies c m := hcalls
    rw [heq] at hquiet ⊢
    exact presence_replies_of_quiet hquiet
  | createdUser _ =>
    refine .of_silent (latest_received_silent ?_) Iff.rfl
    simp [Call.message, presence]
  | @authenticated r user hnone hmatch huser =>
    refine .of_silent (latest_received_silent ?_) ?_
    · simp [Call.message, presence]
    · -- The connection has no session, so it is in no channel.
      have hmem : ∀ c' w, (c', w) ∈ s.users.userSessions.insert c user.id
          ↔ (c', w) ∈ s.users.userSessions ∨ c' = c ∧ w = user.id :=
        fun c' w => Bimap.mem_insert hnone huser
      show (∃ c', (c', u) ∈ s.users.userSessions.insert c user.id ∧ _) ↔ _
      refine exists_congr fun c' => ?_
      rw [hmem]
      constructor
      · rintro ⟨hold | ⟨rfl, -⟩, hch⟩
        · exact ⟨hold, hch⟩
        · exact absurd hch (hfree hnone ch)
      · rintro ⟨hold, hch⟩
        exact ⟨.inl hold, hch⟩
  | @joined r s1 u' calls hs hsession hchannel hquiet =>
    have hne : o ≠ c := by
      rintro rfl
      simp [Event.membership, Event.logsOut, Event.joins] at hother
    -- `Handled` has the last call of a join, and `replies_join` has all of them.
    have hreplies : calls ++ [.send c (.joinChatChannelResponse ⟨r.requestId, r.channelId⟩)]
        = s.joinReplies c u' r.channelId r.requestId := by
      have heq : calls ++ [.send c (.joinChatChannelResponse ⟨r.requestId, r.channelId⟩)]
          = s.replies c (.joinChatChannelRequest r) := hcalls
      rcases replies_join (s := s) (c := c) r with ⟨w, hw, hjoin⟩ | ⟨text, herror⟩
      · obtain rfl := Bimap.right_eq hsession (Bimap.findLeft_eq_some.mp hw)
        rw [heq, hjoin]
      · rw [herror] at heq
        have hlast := congrArg List.getLast? heq
        simp [handleRpcError] at hlast
    have hmember : ServerState.Member
        { s1 with channels := s1.channels.assignConnection c r.channelId } ch u
        ↔ if u' = u then r.channelId = ch else s.Member ch u :=
      member_join hsession hs.sessions fun c' ch' => by
        rw [← hs.assigned]
        exact ChannelStore.mem_assignConnection
    have htells := tells_join hregistered hne hassigned hsession hmember r.requestId
    rw [← hreplies] at htells
    exact htells
  | @loggedOut r s1 u' hs hsession =>
    refine tells_logout u' ?_ ?_
    · have hresponse : latest (presence ch u) (received s.connections o
          [.send c (.logoutResponse ⟨r.requestId⟩)]) = none :=
        latest_received_silent (by simp [Call.message, presence])
      show latest _ (received s.connections o ([.broadcast _] ++ [_])) = _
      rw [received_append, latest_append, hresponse, Option.none_or,
        latest_received_broadcast _ hregistered]
    · refine member_ended hsession (fun c' w => ?_) fun c' ch' hne => ?_
      · show (c', w) ∈ s1.users.userSessions.eraseLeft c ↔ _
        rw [Bimap.mem_eraseLeft, hs.sessions]
      · show (c', ch') ∈ s1.channels.connectionChannelMap.eraseLeft c ↔ _
        rw [MultiBimap.mem_eraseLeft, hs.assigned, and_iff_left hne]
  | @createdChannel r s1 db channel u' hs hcreate =>
    refine .of_silent (latest_received_silent ?_) (member_congr hs.sessions ?_)
    · simp [Call.message, presence]
    · show (s1.channels.cacheChannel channel).1.connectionChannelMap = _
      rw [ChannelStore.connectionChannelMap_cacheChannel, hs.assigned]
  | read =>
    refine .of_silent (latest_received_silent ?_) Iff.rfl
    simp [Call.message, presence]
  | wrote hs _ _ =>
    refine .of_silent (latest_received_silent ?_) (member_congr hs.sessions hs.assigned)
    simp [Call.message, presence]

/-- A disconnect of another connection. -/
theorem tells_disconnect (h : s.Consistent) (hregistered : o ∈ (s.removeConnection c).connections)
    (ch u : Nat) :
    Tells s ((s.removeConnection c).removeSession c).1
      (received (s.removeConnection c).connections o
        ((s.removeConnection c).removeSession c).2) ch u := by
  have h' := ServerRun.consistent_removeConnection h c
  by_cases hsession : ∃ u', (c, u') ∈ s.users.userSessions
  · -- The assignment of the connection stays, but without a session it counts for nobody.
    obtain ⟨u', hu'⟩ := hsession
    obtain ⟨users, -, hremove⟩ := removeSession_of_session h' c hu'
    refine tells_logout u' ?_ ?_
    · rw [hremove]
      exact latest_received_broadcast _ hregistered _
    · refine member_ended hu' (fun c' w => ?_) fun c' ch' _ => ?_
      · exact ServerRun.mem_sessions_removeSession h' c c' w
      · rw [hremove]
        exact Iff.rfl
  · have hfree : ∀ u', (c, u') ∉ (s.removeConnection c).users.userSessions :=
      fun u' hu' => hsession ⟨u', hu'⟩
    rw [removeSession_of_not_session c hfree]
    exact .of_silent rfl Iff.rfl

/-- What a disconnect leaves as it is. -/
theorem disconnect_frame (h : s.Consistent) (c : Nat) :
    ((s.removeConnection c).removeSession c).1.connections = (s.removeConnection c).connections ∧
      ((s.removeConnection c).removeSession c).1.nextConnectionId = s.nextConnectionId ∧
      ((s.removeConnection c).removeSession c).1.channels = s.channels := by
  obtain ⟨-, -, -, heq, -, -⟩ := removeSession_spec (ServerRun.consistent_removeConnection h c) c
  rw [heq]
  exact ⟨rfl, rfl, rfl⟩

/-- A handled message keeps the registered connections. -/
theorem connections_handled {m : Message} {calls : List Call} (hh : Handled s c m s' calls) :
    s'.connections = s.connections ∧ s'.nextConnectionId = s.nextConnectionId := by
  cases hh with
  | served hs _ | joined hs _ _ _ | loggedOut hs _ | createdChannel hs _ | wrote hs _ _ =>
    exact ⟨hs.connections, hs.nextConnectionId⟩
  | createdUser _ | authenticated _ _ _ | read => exact ⟨rfl, rfl⟩

/-- An assignment after a handled message is that of a join, or it was there before, and then a
session of its connection is still there. -/
theorem assigned_handled {m : Message} {calls : List Call} (hh : Handled s c m s' calls)
    {c' ch : Nat} (hmem : (c', ch) ∈ s'.channels.connectionChannelMap) :
    (c' = c ∧ ∃ u, (c', u) ∈ s'.users.userSessions) ∨
    ((c', ch) ∈ s.channels.connectionChannelMap ∧
      ∀ u, (c', u) ∈ s.users.userSessions → (c', u) ∈ s'.users.userSessions) := by
  cases hh with
  | served hs _ =>
    refine .inr ⟨hs.assigned ▸ hmem, fun u hu => ?_⟩
    rw [hs.sessions]
    exact hu
  | createdUser _ | read => exact .inr ⟨hmem, fun u hu => hu⟩
  | authenticated hfree _ huser =>
    exact .inr ⟨hmem, fun u hu => (Bimap.mem_insert hfree huser).mpr (.inl hu)⟩
  | @joined r s1 u calls hs hsession _ _ =>
    have hkeep : ∀ w, (c', w) ∈ s.users.userSessions → (c', w) ∈ s1.users.userSessions :=
      fun w hw => hs.sessions ▸ hw
    rcases ChannelStore.mem_assignConnection.mp hmem with ⟨rfl, -⟩ | ⟨hold, -⟩
    · exact .inl ⟨rfl, u, hkeep u hsession⟩
    · exact .inr ⟨hs.assigned ▸ hold, hkeep⟩
  | @loggedOut r s1 u hs _ =>
    obtain ⟨hold, hne⟩ := MultiBimap.mem_eraseLeft.mp hmem
    refine .inr ⟨hs.assigned ▸ hold, fun w hw => Bimap.mem_eraseLeft.mpr ⟨?_, hne⟩⟩
    rw [hs.sessions]
    exact hw
  | @createdChannel r s1 db channel u hs _ =>
    have hold : (c', ch) ∈ (s1.channels.cacheChannel channel).1.connectionChannelMap := hmem
    rw [ChannelStore.connectionChannelMap_cacheChannel, hs.assigned] at hold
    refine .inr ⟨hold, fun w hw => ?_⟩
    show (c', w) ∈ s1.users.userSessions
    rw [hs.sessions]
    exact hw
  | wrote hs _ _ =>
    refine .inr ⟨hs.assigned ▸ hmem, fun u hu => ?_⟩
    show (c', u) ∈ _
    rw [hs.sessions]
    exact hu

end ServerState

/-! ### Runs -/

/-- A join is a change of membership. -/
theorem Event.membership_of_joins {e : Event} {c ch : Nat} (h : e.joins c = some ch) :
    e.membership c = some (some ch) := by
  obtain ⟨op, calls⟩ := e
  have hout : (⟨op, calls⟩ : Event).logsOut c = false := by
    cases op with
    | handle c' m =>
      cases m with
      | joinChatChannelRequest m => rfl
      | _ => cases h
    | _ => cases h
  simp [Event.membership, hout, h]

/-- A change into a channel is a join. -/
theorem Event.joins_of_membership {e : Event} {c ch : Nat}
    (h : e.membership c = some (some ch)) : e.joins c = some ch := by
  unfold Event.membership at h
  split at h
  · cases h
  · simpa using h

namespace ObservedRun

variable {r r' : ObservedRun} {op : ServerOp} {o ch u : Nat} {before after : List Observed}
  {x y : Observed}

/-- A step records the event and what each connection receives. -/
theorem step_history (hs : r.step op = some r') :
    r.run.step op = some r'.run ∧ ∃ calls, r'.run.trace = r.run.trace ++ [⟨op, calls⟩] ∧
      r'.history = r.history ++
        [⟨⟨op, calls⟩, r.user op, calls.flatMap (Call.deliveries r'.run.server.connections)⟩] := by
  obtain ⟨run, hrun, rfl⟩ := Option.map_eq_some_iff.mp hs
  obtain ⟨-, calls, htrace⟩ := ServerRun.step_trace hrun
  refine ⟨hrun, calls, htrace, ?_⟩
  show r.history ++ (run.trace.drop r.run.trace.length).map _ = _
  rw [htrace, List.drop_left]
  rfl

/-- The server of an observed run is in a reachable state. -/
theorem run_reachable (h : observedRuns.Reachable BeforeDisconnect r) :
    serverRuns.Reachable Lts.anyStep r.run := by
  refine h.project ObservedRun.run ?_ fun r op r' hs => (step_history hs).1
  rintro r ⟨db, rfl⟩
  exact ⟨db, rfl⟩

/-- What connection `o` was sent in the steps of `after` about user `u` in channel `ch`. -/
def newsOf (o ch u : Nat) (after : List Observed) : Option Bool :=
  latest (presence ch u) (after.flatMap (·.sentTo o))

/-- The news are true, and there are some when the user has joined the channel. -/
structure Followed (s : ServerState) (o ch u : Nat) (after : List Observed) : Prop where
  told : ∀ b, newsOf o ch u after = some b → (b = true ↔ s.Member ch u)
  joined : (∃ y ∈ after, y.JoinedBy ch u) → newsOf o ch u after ≠ none

/-- Before the first event there is nothing to follow. -/
theorem followed_nil (s : ServerState) : Followed s o ch u [] := by
  refine ⟨fun b hb => ?_, fun hjoined => ?_⟩
  · cases hb
  · obtain ⟨y, hy, -⟩ := hjoined
    cases hy

/-- What a step tells the observer is added to what it has heard. -/
theorem Followed.append {s s' : ServerState} (h : Followed s o ch u after)
    (htells : Tells s s' (y.sentTo o) ch u)
    (hjoin : y.JoinedBy ch u → latest (presence ch u) (y.sentTo o) ≠ none) :
    Followed s' o ch u (after ++ [y]) := by
  have hnews : newsOf o ch u (after ++ [y])
      = (latest (presence ch u) (y.sentTo o)).or (newsOf o ch u after) := by
    unfold newsOf
    rw [List.flatMap_append, List.flatMap_singleton, latest_append]
  cases hlatest : latest (presence ch u) (y.sentTo o) with
  | some b =>
    rw [hlatest, Option.some_or] at hnews
    refine ⟨fun b' hb => ?_, fun _ => by simp [hnews]⟩
    rw [hnews] at hb
    cases hb
    exact htells.told b hlatest
  | none =>
    rw [hlatest, Option.none_or] at hnews
    refine ⟨fun b hb => ?_, fun hjoined => ?_⟩
    · rw [htells.silent hlatest]
      exact h.told b (hnews ▸ hb)
    · rw [hnews]
      obtain ⟨z, hz, hby⟩ := hjoined
      rcases List.mem_append.mp hz with hold | hnew
      · exact h.joined ⟨z, hold, hby⟩
      · obtain rfl := List.mem_singleton.mp hnew
        exact absurd hlatest (hjoin hby)

/-- What the observers of a run can rely on. -/
structure FollowInv (r : ObservedRun) : Prop where
  trace : r.run.trace = r.history.map Observed.event
  /-- An assigned connection has a session until it is disconnected. -/
  served : ∀ c ch, (c, ch) ∈ r.run.server.channels.connectionChannelMap →
    (∃ u, (c, u) ∈ r.run.server.users.userSessions) ∨ .disconnect c ∈ r.run.trace.map Event.op
  issued : ∀ c ch, (c, ch) ∈ r.run.server.channels.connectionChannelMap →
    c < r.run.server.nextConnectionId
  followed : ∀ o ch before x after, o ∈ r.run.server.connections →
    r.history = before ++ x :: after → x.event.joins o = some ch →
    (∀ y ∈ after, y.event.membership o = none) → ∀ u, Followed r.run.server o ch u after

/-- A connection that has not moved since it joined is still in the channel. -/
theorem FollowInv.assigned (h : FollowInv r) (hmember : r.run.MembershipInv)
    (hsplit : r.history = before ++ x :: after) (hjoin : x.event.joins o = some ch)
    (hstays : ∀ y ∈ after, y.event.membership o = none) :
    (o, ch) ∈ r.run.server.channels.connectionChannelMap := by
  rw [hmember o ch, ServerRun.joinedChannel, h.trace, hsplit, List.map_append, List.map_cons,
    ← List.singleton_append, ← List.append_assoc, latest_append]
  have hnone : latest (·.membership o) (after.map Observed.event) = none := by
    refine latest_eq_none.mpr fun e he => ?_
    obtain ⟨y, hy, rfl⟩ := List.mem_map.mp he
    exact hstays y hy
  rw [hnone, Option.none_or, latest_append_singleton, Event.membership_of_joins hjoin]
  rfl

/-- The step that adds `y` to the history, for a connection of the channel whose own membership
it leaves alone. -/
structure Observes (r r' : ObservedRun) (y : Observed) (o ch u : Nat) : Prop where
  tells : Tells r.run.server r'.run.server (y.sentTo o) ch u
  joined : y.JoinedBy ch u → latest (presence ch u) (y.sentTo o) ≠ none

/-- A step without calls. -/
theorem observes_quiet {user : Option Nat} (hop : ∀ c, (⟨op, []⟩ : Event).joins c = none)
    (hsessions : r'.run.server.users.userSessions = r.run.server.users.userSessions)
    (hmap : r'.run.server.channels.connectionChannelMap
      = r.run.server.channels.connectionChannelMap) :
    Observes r r' ⟨⟨op, []⟩, user, []⟩ o ch u := by
  refine ⟨.of_silent rfl (ServerState.member_congr hsessions hmap), ?_⟩
  rintro ⟨c, hjoin, -⟩
  rw [hop c] at hjoin
  cases hjoin

/-- A join is told to the connections of its channel. -/
theorem joined_handle {c : Nat} {m : Message} (h : r.run.server.Consistent)
    (hregistered : o ∈ r.run.server.connections)
    (hassigned : (o, ch) ∈ r.run.server.channels.connectionChannelMap)
    (hother : (⟨.handle c m, (r.run.server.handle c m).2⟩ : Event).membership o = none)
    (hjoined : ∃ c', (⟨.handle c m, (r.run.server.handle c m).2⟩ : Event).joins c' = some ch ∧
      r.user (.handle c m) = some u) :
    latest (presence ch u) (received r.run.server.connections o (r.run.server.handle c m).2)
      = some true := by
  obtain ⟨c', hjoin, hu⟩ := hjoined
  rw [ServerState.handle_replies h] at hother hjoin ⊢
  cases m with
  | joinChatChannelRequest m =>
    simp only [Event.joins] at hjoin
    split at hjoin
    · rename_i hresponse
      obtain ⟨rfl, hresponse⟩ := hresponse
      cases hjoin
      have hne : o ≠ c := by
        rintro rfl
        simp [Event.membership, Event.logsOut, Event.joins, hresponse] at hother
      rcases ServerState.replies_join (s := r.run.server) (c := c) m with
        ⟨w, hw, heq⟩ | ⟨text, heq⟩
      · obtain rfl : w = u := Option.some.inj (hw.symm.trans hu)
        rw [heq, ServerState.latest_received_join hregistered hne hassigned, if_pos rfl, if_pos rfl]
      · rw [heq] at hresponse
        simp [handleRpcError] at hresponse
    · cases hjoin
  | _ => cases hjoin

/-- A step shows an observer what it does to the members of the channel. -/
theorem observes_step {calls : List Call} (hinv : FollowInv r) (hcons : r.run.server.Consistent)
    (hok : BeforeDisconnect r op) (hs : r.run.step op = some r'.run)
    (htrace : r'.run.trace = r.run.trace ++ [⟨op, calls⟩])
    (hregistered : o ∈ r.run.server.connections) (hregistered' : o ∈ r'.run.server.connections)
    (hassigned : (o, ch) ∈ r.run.server.channels.connectionChannelMap)
    (hstays : (⟨op, calls⟩ : Event).membership o = none) (u : Nat) :
    Observes r r'
      ⟨⟨op, calls⟩, r.user op, calls.flatMap (Call.deliveries r'.run.server.connections)⟩ o ch u := by
  obtain ⟨run', history'⟩ := r'
  rcases ServerRun.step_cases hs with ⟨rfl, heq⟩ | ⟨c, m, rfl, -, heq⟩ | ⟨c, rfl, -, heq⟩ |
    ⟨db, messages, persist, rfl, -, heq⟩
  · obtain rfl : run' = _ := heq
    obtain rfl : calls = [] := ServerRun.calls_of_record htrace
    exact observes_quiet (fun _ => rfl) rfl rfl
  · obtain rfl : run' = _ := heq
    obtain rfl : calls = (r.run.server.handle c m).2 := ServerRun.calls_of_record htrace
    have hconnections : (r.run.server.handle c m).1.connections = r.run.server.connections :=
      (ServerState.connections_handled (ServerState.handled_handle hcons c m)).1
    have hfree : (∀ u, (c, u) ∉ r.run.server.users.userSessions) →
        ∀ ch, (c, ch) ∉ r.run.server.channels.connectionChannelMap := by
      intro hnone ch' hch'
      rcases hinv.served c ch' hch' with ⟨u', hu'⟩ | hgone
      · exact hnone u' hu'
      · exact hok hgone
    refine ⟨?_, fun hjoined => ?_⟩
    · have htells := ServerState.tells_handle hcons hregistered hassigned hstays hfree u
      rw [← hconnections] at htells
      exact htells
    · have htold := joined_handle hcons hregistered hassigned hstays hjoined
      rw [← hconnections] at htold
      exact fun hnone => nomatch htold.symm.trans hnone
  · obtain rfl : run' = _ := heq
    obtain rfl : calls = ((r.run.server.removeConnection c).removeSession c).2 :=
      ServerRun.calls_of_record htrace
    have hconnections := (ServerState.disconnect_frame hcons c).1
    refine ⟨?_, fun hjoined => ?_⟩
    · have htells := ServerState.tells_disconnect (c := c) (o := o) hcons (hconnections ▸ hregistered')
        ch u
      rw [← hconnections] at htells
      exact htells
    · obtain ⟨c', hjoin, -⟩ := hjoined
      cases hjoin
  · obtain rfl : run' = _ := heq
    obtain rfl : calls = [] := ServerRun.calls_of_record htrace
    exact observes_quiet (fun _ => rfl) rfl rfl

/-- The registered connections before a step. A new connection has an id that no assignment
has. -/
theorem registered_before (hcons : r.run.server.Consistent) (hs : r.run.step op = some r'.run)
    (hregistered : o ∈ r'.run.server.connections) (hissued : o < r.run.server.nextConnectionId) :
    o ∈ r.run.server.connections := by
  obtain ⟨run', history'⟩ := r'
  rcases ServerRun.step_cases hs with ⟨rfl, heq⟩ | ⟨c, m, rfl, -, heq⟩ | ⟨c, rfl, -, heq⟩ |
    ⟨db, messages, persist, rfl, -, heq⟩
  · obtain rfl : run' = _ := heq
    rcases List.mem_append.mp hregistered with hold | hnew
    · exact hold
    · rw [List.mem_singleton.mp hnew] at hissued
      exact absurd hissued (Nat.lt_irrefl _)
  · obtain rfl : run' = _ := heq
    have heq := (ServerState.connections_handled (ServerState.handled_handle hcons c m)).1
    exact heq ▸ hregistered
  · obtain rfl : run' = _ := heq
    have hmem : o ∈ ((r.run.server.removeConnection c).removeSession c).1.connections := hregistered
    rw [(ServerState.disconnect_frame hcons c).1] at hmem
    exact (List.mem_filter.mp hmem).1
  · obtain rfl : run' = _ := heq
    exact hregistered

/-- The assignments after a step, with their sessions. -/
theorem assigned_step {calls : List Call} (hinv : FollowInv r) (hcons : r.run.server.Consistent)
    (hs : r.run.step op = some r'.run) (htrace : r'.run.trace = r.run.trace ++ [⟨op, calls⟩])
    {c ch : Nat} (hmem : (c, ch) ∈ r'.run.server.channels.connectionChannelMap) :
    ((∃ u, (c, u) ∈ r'.run.server.users.userSessions) ∨
      .disconnect c ∈ r'.run.trace.map Event.op) ∧ c < r'.run.server.nextConnectionId := by
  have hkeep : ∀ {op : ServerOp}, op ∈ r.run.trace.map Event.op →
      op ∈ r'.run.trace.map Event.op := by
    intro op hop
    rw [htrace, List.map_append]
    exact List.mem_append_left _ hop
  obtain ⟨run', history'⟩ := r'
  rcases ServerRun.step_cases hs with ⟨rfl, heq⟩ | ⟨c1, m, rfl, hissued, heq⟩ | ⟨c1, rfl, -, heq⟩ |
    ⟨db, messages, persist, rfl, -, heq⟩
  · obtain rfl : run' = _ := heq
    exact ⟨(hinv.served c ch hmem).imp_right hkeep, Nat.lt_succ_of_lt (hinv.issued c ch hmem)⟩
  · obtain rfl : run' = _ := heq
    have hh := ServerState.handled_handle hcons c1 m
    have hnext : (r.run.server.handle c1 m).1.nextConnectionId = r.run.server.nextConnectionId :=
      (ServerState.connections_handled hh).2
    show _ ∧ c < (r.run.server.handle c1 m).1.nextConnectionId
    rw [hnext]
    rcases ServerState.assigned_handled hh hmem with ⟨rfl, hsession⟩ | ⟨hold, hsessions⟩
    · exact ⟨.inl hsession, hissued.2⟩
    · refine ⟨?_, hinv.issued c ch hold⟩
      rcases hinv.served c ch hold with ⟨u, hu⟩ | hgone
      · exact .inl ⟨u, hsessions u hu⟩
      · exact .inr (hkeep hgone)
  · obtain rfl : run' = _ := heq
    have hcons' := ServerRun.consistent_removeConnection hcons c1
    obtain ⟨-, hnext, hchannels⟩ := ServerState.disconnect_frame hcons c1
    have hold : (c, ch) ∈ r.run.server.channels.connectionChannelMap := by
      rw [← hchannels]
      exact hmem
    show _ ∧ c < ((r.run.server.removeConnection c1).removeSession c1).1.nextConnectionId
    rw [hnext]
    refine ⟨?_, hinv.issued c ch hold⟩
    by_cases hc : c = c1
    · subst hc
      refine .inr ?_
      rw [htrace, List.map_append]
      exact List.mem_append_right _ (List.mem_singleton_self _)
    · rcases hinv.served c ch hold with ⟨u, hu⟩ | hgone
      · exact .inl ⟨u, (ServerRun.mem_sessions_removeSession hcons' c1 c u).mpr ⟨hu, hc⟩⟩
      · exact .inr (hkeep hgone)
  · obtain rfl : run' = _ := heq
    exact ⟨(hinv.served c ch hmem).imp_right hkeep, hinv.issued c ch hmem⟩

/-- A step keeps the invariant. -/
theorem followInv_step (hreach : observedRuns.Reachable BeforeDisconnect r) (hinv : FollowInv r)
    (hok : BeforeDisconnect r op) (hs : r.step op = some r') : FollowInv r' := by
  have hcons := ServerRun.consistent_reachable (run_reachable hreach)
  have hmember := ServerRun.membershipInv_reachable (run_reachable hreach)
  obtain ⟨hrun, calls, htrace, hhistory⟩ := step_history hs
  refine ⟨?_, fun c ch hmem => (assigned_step hinv hcons hrun htrace hmem).1,
    fun c ch hmem => (assigned_step hinv hcons hrun htrace hmem).2, ?_⟩
  · rw [htrace, hhistory, List.map_append, hinv.trace]
    rfl
  · intro o ch before x after hregistered hsplit hjoin hstays u
    rw [hhistory] at hsplit
    -- The new step is the join itself, or the last one after it.
    rcases List.eq_nil_or_concat after with rfl | ⟨rest, y, rfl⟩
    · exact followed_nil _
    · rw [List.concat_eq_append] at hsplit hstays ⊢
      rw [← List.cons_append, ← List.append_assoc] at hsplit
      obtain ⟨hold, hlast⟩ := List.append_inj' hsplit rfl
      obtain rfl := List.singleton_inj.mp hlast
      have hrest : ∀ z ∈ rest, z.event.membership o = none :=
        fun z hz => hstays z (List.mem_append_left _ hz)
      have hassigned := hinv.assigned hmember hold hjoin hrest
      have hbefore := registered_before hcons hrun hregistered (hinv.issued o ch hassigned)
      have hobserves := observes_step hinv hcons hok hrun htrace hbefore hregistered hassigned
        (hstays _ (List.mem_append_right _ (List.mem_singleton_self _))) u
      exact (hinv.followed o ch before x rest hbefore hold hjoin hrest u).append
        hobserves.tells hobserves.joined

/-- The invariant holds in every such run. -/
theorem followInv_reachable (h : observedRuns.Reachable BeforeDisconnect r) : FollowInv r := by
  refine h.invariant_of_reachable (I := FollowInv) ?_
    fun r op r' hr ih hok hs => followInv_step hr ih hok hs
  rintro r ⟨db, rfl⟩
  have hempty : (ServerState.begin db).channels.connectionChannelMap = MultiBimap.empty :=
    (ChannelStore.prewarm_spec (ChannelStore.cachedFrom_empty db)).2
  refine ⟨rfl, fun c ch hmem => ?_, fun c ch hmem => ?_, fun o ch before x after _ hsplit => ?_⟩
  · rw [show (ServerState.begin db).channels.connectionChannelMap = _ from hempty] at hmem
    exact absurd hmem (MultiBimap.not_mem_empty _)
  · rw [show (ServerState.begin db).channels.connectionChannelMap = _ from hempty] at hmem
    exact absurd hmem (MultiBimap.not_mem_empty _)
  · simp at hsplit

/-- A connection of a channel follows the users that join it: when its last join of the channel
is `x` and user `u` has joined after it, then `u` has a session in the channel exactly when the
last message to the connection about this is a join event. No session of the connection itself
is needed. -/
theorem membership_follows_events (h : observedRuns.Reachable BeforeDisconnect r)
    (hregistered : o ∈ r.run.server.connections)
    (hassigned : (o, ch) ∈ r.run.server.channels.connectionChannelMap)
    (hsplit : r.history = before ++ x :: after) (hjoin : x.event.joins o = some ch)
    (hlast : ∀ y ∈ after, y.event.joins o ≠ some ch) (hafter : ∃ y ∈ after, y.JoinedBy ch u) :
    r.run.server.Member ch u ↔ latest (presence ch u) (r.sentTo o) = some true := by
  have hinv := followInv_reachable h
  -- The connection has not moved since `x`, because its channel is that of its last join.
  have hstays : ∀ y ∈ after, y.event.membership o = none := by
    have hjoined := (ServerRun.membershipInv_reachable (run_reachable h) o ch).mp hassigned
    rw [ServerRun.joinedChannel, hinv.trace, hsplit, List.map_append, List.map_cons,
      ← List.singleton_append, ← List.append_assoc, latest_append] at hjoined
    cases hlatest : latest (·.membership o) (after.map Observed.event) with
    | none =>
      intro y hy
      exact latest_eq_none.mp hlatest _ (List.mem_map_of_mem hy)
    | some joined =>
      rw [hlatest, Option.some_or] at hjoined
      obtain ⟨e, he, heq⟩ := List.exists_of_findSome?_eq_some hlatest
      obtain ⟨y, hy, rfl⟩ := List.mem_map.mp (List.mem_reverse.mp he)
      cases hjoined
      exact absurd (Event.joins_of_membership heq) (hlast y hy)
  have hfollowed := hinv.followed o ch before x after hregistered hsplit hjoin hstays u
  obtain ⟨b, hb⟩ := Option.ne_none_iff_exists'.mp (hfollowed.joined hafter)
  have hnews : latest (presence ch u) (r.sentTo o) = some b := by
    unfold sentTo
    rw [hsplit, ← List.singleton_append, ← List.append_assoc, List.flatMap_append, latest_append]
    rw [show latest _ (after.flatMap _) = some b from hb, Option.some_or]
  rw [hnews, ← hfollowed.told b hb]
  simp

/-- User 2 joins the channel of connection 1, and then moves to another channel. -/
theorem membership_follows_events_moved :
    ∃ r, observedRuns.Reachable BeforeDisconnect r ∧
      latest (presence 1 2) (r.sentTo 1) = some false ∧ ¬ r.run.server.Member 1 2 := by
  have hstart : observedRuns.Reachable BeforeDisconnect
      { run := { server := ServerState.begin Database.empty, start := Database.empty } } :=
    .start ⟨Database.empty, rfl⟩
  obtain ⟨r, hreach, hregistered, hassigned, hjoin, hlast, hafter, hfalse⟩ :=
    hstart.exists_of_exec
      [.connect, .connect, .handle 1 (.createUserRequest ⟨1, "ann", "pw"⟩),
        .handle 2 (.createUserRequest ⟨1, "bob", "pw"⟩),
        .handle 1 (.authenticateUserRequest ⟨2, "ann", "pw"⟩),
        .handle 2 (.authenticateUserRequest ⟨2, "bob", "pw"⟩),
        .handle 1 (.createChannelRequest ⟨3, "general"⟩),
        .handle 1 (.createChannelRequest ⟨3, "other"⟩),
        .handle 1 (.joinChatChannelRequest ⟨4, 1⟩), .handle 2 (.joinChatChannelRequest ⟨4, 1⟩),
        .handle 2 (.joinChatChannelRequest ⟨5, 2⟩)]
      (fun r => 1 ∈ r.run.server.connections ∧
        (1, 1) ∈ r.run.server.channels.connectionChannelMap.pairs ∧
        (r.history[8]?.any fun x => x.event.joins 1 = some 1) = true ∧
        (∀ y ∈ r.history.drop 9, y.event.joins 1 ≠ some 1) ∧
        (∃ y ∈ r.history.drop 9, y.event.joins 2 = some 1 ∧ y.user = some 2) ∧
        latest (presence 1 2) (r.sentTo 1) = some false) (by decide +kernel)
  obtain ⟨x, hx, hxjoin⟩ := Option.any_eq_true _ _ |>.mp hjoin
  obtain ⟨y, hy, hyjoin, hyuser⟩ := hafter
  have hsplit : r.history = r.history.take 8 ++ x :: r.history.drop 9 := by
    obtain ⟨hlt, rfl⟩ := List.getElem?_eq_some_iff.mp hx
    rw [← List.drop_eq_getElem_cons hlt, List.take_append_drop]
  refine ⟨r, hreach, hfalse, fun hmember => ?_⟩
  have hiff := membership_follows_events (u := 2) hreach hregistered hassigned hsplit
    (of_decide_eq_true hxjoin) hlast ⟨y, hy, 2, hyjoin, hyuser⟩
  rw [hfalse] at hiff
  exact nomatch hiff.mp hmember

end ObservedRun

end ChatCore.Server
