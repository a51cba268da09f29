import ChatCore.Proofs.Sessions

/-!
# `ChatCore.Proofs.Delivery`: a message reaches exactly the channel it was written in

The recipients of a chat message come from `connection_channel_map_`, filtered by the
connections that `TcpSystem` still has. The map changes with every join and logout, and a
disconnect leaves it alone. `MembershipInv` says that the map is what the trace says: a
connection is in the channel of its most recent successful join, unless it logged out after
it (`ServerRun.joinedChannel`).

A write without a session or a channel is answered with one `ErrorMessage`. It changes
nothing except the cache of users: `GetSessionUser` caches the sender's row, and a user that
was created after `Prewarm` is not cached before.
-/

set_option autoImplicit false

namespace ChatCore.Server

open ChatCore.Api
open ChatCore.Lib

namespace ServerRun

/-! ### The channel of a connection -/

/-- A handled message changes the channel of a connection as its event says. -/
theorem mem_channelMap_handled {s s' : ServerState} {c : Nat} {m : Message} {calls : List Call}
    (hh : Handled s c m s' calls) (c' ch : Nat) :
    (c', ch) ∈ s'.channels.connectionChannelMap
      ↔ match (⟨.handle c m, calls⟩ : Event).membership c' with
        | some joined => joined = some ch
        | none => (c', ch) ∈ s.channels.connectionChannelMap := by
  -- Only a join and a logout change an assignment, and only that of their connection.
  cases hh with
  | served hs hquiet =>
    have hnone : (⟨.handle c m, calls⟩ : Event).membership c' = none := by
      unfold Event.membership
      rw [Event.logsOut_of_quiet hquiet, Event.joins_of_quiet hquiet]
      rfl
    rw [hnone, hs.assigned]
  | createdUser hcreate => exact Iff.rfl
  | authenticated hfree hmatch huser => exact Iff.rfl
  | @joined r s1 u calls hs hsession hchannel hquiet =>
    show (c', ch) ∈ (s1.channels.assignConnection c r.channelId).connectionChannelMap ↔ _
    rw [ChannelStore.mem_assignConnection, hs.assigned]
    by_cases hc : c = c'
    · subst hc
      have hjoin : (⟨.handle c (.joinChatChannelRequest r), calls
          ++ [.send c (.joinChatChannelResponse ⟨r.requestId, r.channelId⟩)]⟩ : Event).membership c
          = some (some r.channelId) := by
        simp [Event.membership, Event.logsOut, Event.joins]
      rw [hjoin]
      simp [eq_comm]
    · have hnone : (⟨.handle c (.joinChatChannelRequest r), calls
          ++ [.send c (.joinChatChannelResponse ⟨r.requestId, r.channelId⟩)]⟩ : Event).membership c'
          = none := by
        simp [Event.membership, Event.logsOut, Event.joins, hc]
      rw [hnone]
      simp [Ne.symm hc]
  | @loggedOut r s1 u hs hsession =>
    show (c', ch) ∈ s1.channels.connectionChannelMap.eraseLeft c ↔ _
    rw [MultiBimap.mem_eraseLeft, hs.assigned]
    by_cases hc : c = c'
    · subst hc
      have hleave : (⟨.handle c (.logoutRequest r), [.broadcast (.userLogoutEvent ⟨u⟩),
          .send c (.logoutResponse ⟨r.requestId⟩)]⟩ : Event).membership c = some none := by
        simp [Event.membership, Event.logsOut]
      rw [hleave]
      simp
    · have hnone : (⟨.handle c (.logoutRequest r), [.broadcast (.userLogoutEvent ⟨u⟩),
          .send c (.logoutResponse ⟨r.requestId⟩)]⟩ : Event).membership c' = none := by
        simp [Event.membership, Event.logsOut, Event.joins, hc]
      rw [hnone]
      simp [Ne.symm hc]
  | @createdChannel r s1 db channel u hs hcreate =>
    show (c', ch) ∈ (s1.channels.cacheChannel channel).1.connectionChannelMap ↔ _
    rw [ChannelStore.connectionChannelMap_cacheChannel, hs.assigned]
    exact Iff.rfl
  | read => exact Iff.rfl
  | @wrote m s1 u ch' hs hsession hassigned =>
    show (c', ch) ∈ s1.channels.connectionChannelMap ↔ _
    rw [hs.assigned]
    exact Iff.rfl

/-- The assignments are what the trace says. -/
def MembershipInv (r : ServerRun) : Prop :=
  ∀ c ch, (c, ch) ∈ r.server.channels.connectionChannelMap ↔ r.joinedChannel c = some ch

/-- A step keeps the invariant. -/
theorem membershipInv_step {r r' : ServerRun} {op : ServerOp} (hcons : r.server.Consistent)
    (h : MembershipInv r) (hs : r.step op = some r') : MembershipInv r' := by
  intro c ch
  -- An event that says nothing about the channel of `c`.
  have hkeep : ∀ calls, r'.trace = r.trace ++ [⟨op, calls⟩] →
      (⟨op, calls⟩ : Event).membership c = none →
      r'.server.channels.connectionChannelMap = r.server.channels.connectionChannelMap →
      ((c, ch) ∈ r'.server.channels.connectionChannelMap ↔ r'.joinedChannel c = some ch) := by
    intro calls htrace hnone hmap
    rw [hmap, h c ch, joinedChannel, joinedChannel, htrace, latest_append_singleton, hnone]
    rfl
  rcases step_cases hs with ⟨rfl, rfl⟩ | ⟨c1, m, rfl, -, rfl⟩ | ⟨c1, rfl, -, rfl⟩ |
    ⟨db, messages, persist, rfl, hstep, rfl⟩
  · exact hkeep [] rfl rfl rfl
  · have hmem := mem_channelMap_handled (ServerState.handled_handle hcons c1 m) c ch
    show (c, ch) ∈ (r.server.handle c1 m).1.channels.connectionChannelMap ↔ _
    rw [hmem, joinedChannel, record, latest_append_singleton]
    cases hmembership : (⟨.handle c1 m, (r.server.handle c1 m).2⟩ : Event).membership c with
    | some joined => rfl
    | none => exact h c ch
  · -- A disconnect removes the session and leaves the assignment.
    obtain ⟨-, -, -, heq, -, -⟩ :=
      ServerState.removeSession_spec (consistent_removeConnection hcons c1) c1
    refine hkeep _ rfl rfl ?_
    show ((r.server.removeConnection c1).removeSession c1).1.channels.connectionChannelMap = _
    rw [heq]
    rfl
  · exact hkeep [] rfl rfl rfl

/-- The assignments of every reachable state are what the trace says. -/
theorem membershipInv_reachable {r : ServerRun} (h : serverRuns.Reachable Lts.anyStep r) :
    MembershipInv r := by
  have hboth : r.server.Consistent ∧ MembershipInv r := by
    refine h.invariant (I := fun r => r.server.Consistent ∧ MembershipInv r) ?_ ?_
    · intro r hstart
      obtain ⟨db, rfl⟩ := hstart
      refine ⟨ServerState.consistent_begin db, fun c ch => ?_⟩
      have hempty : (ServerState.begin db).channels.connectionChannelMap = MultiBimap.empty :=
        (ChannelStore.prewarm_spec (ChannelStore.cachedFrom_empty db)).2
      show (c, ch) ∈ (ServerState.begin db).channels.connectionChannelMap ↔ _
      rw [hempty]
      simp [joinedChannel]
    · intro r op r' ih _ hs
      exact ⟨consistent_step ih.1 hs, membershipInv_step ih.1 ih.2 hs⟩
  exact hboth.2

end ServerRun

/-! ### Deliveries -/

/-- A broadcast to distinct connections reaches each registered one of them once. -/
theorem count_deliveries_broadcastTo (connections : List Nat) {cs : List Nat} (hnodup : cs.Nodup)
    (message message' : Message) (d : Nat) :
    ((Call.broadcastTo cs message).deliveries connections).count (d, message')
      = if message' = message ∧ d ∈ connections ∧ d ∈ cs then 1 else 0 := by
  have hinj : Function.Injective (fun c : Nat => (c, message)) := fun a b h => (Prod.mk.inj h).1
  have hnodup' : ((cs.filter (· ∈ connections)).map (·, message)).Nodup :=
    (hnodup.filter _).map hinj
  show ((cs.filter (· ∈ connections)).map (·, message)).count (d, message') = _
  by_cases hcond : message' = message ∧ d ∈ connections ∧ d ∈ cs
  · rw [if_pos hcond]
    obtain ⟨rfl, hd, hcs⟩ := hcond
    exact List.count_eq_one_of_mem hnodup'
      (List.mem_map_of_mem (List.mem_filter.mpr ⟨hcs, by simpa using hd⟩))
  · rw [if_neg hcond, List.count_eq_zero]
    intro hmem
    obtain ⟨c, hc, heq⟩ := List.mem_map.mp hmem
    obtain ⟨rfl, rfl⟩ := Prod.mk.inj heq
    obtain ⟨hcs, hd⟩ := List.mem_filter.mp hc
    exact hcond ⟨rfl, by simpa using hd, hcs⟩

namespace ServerRun

/-- A chat message reaches exactly the channel it was written in, in every reachable state.
If the sender has a session and has joined a channel, one message is created, and each
registered connection that has joined this channel receives it once, and nobody else.
Otherwise the sender gets one `ErrorMessage`, and nothing changes except that the sender's
row may be cached. A join without a session or of an unknown channel assigns nothing. -/
theorem write_reaches_channel {r : ServerRun} (h : serverRuns.Reachable Lts.anyStep r) :
    (∀ c m r', r.step (.handle c (.writeChat m)) = some r' →
      ∃ calls, r'.trace = r.trace ++ [⟨.handle c (.writeChat m), calls⟩] ∧
      (∀ u ch, (c, u) ∈ r.server.users.userSessions → r.joinedChannel c = some ch →
        calls.flatMap Call.created = [r.server.messages.nextMessage ch u m.content] ∧
        r'.server.messages = r.server.messages.createMessage ch u m.content ∧
        r'.server.messages.getMessage r.server.messages.nextId
          = some ⟨r.server.messages.nextId, ch, u, m.content⟩ ∧
        ∀ d message, (calls.flatMap (Call.deliveries r.server.connections)).count (d, message)
          = if message = .receiveChat ⟨u, ch, m.content⟩ ∧ d ∈ r.server.connections ∧
              r.joinedChannel d = some ch then 1 else 0) ∧
      ((∀ u ch, (c, u) ∈ r.server.users.userSessions → r.joinedChannel c ≠ some ch) →
        (∃ text, calls = [.send c (.error ⟨text⟩)]) ∧
        ∃ users, r'.server = { r.server with users := users } ∧
          users.userSessions = r.server.users.userSessions ∧
          ∀ id name, ((id, name) ∈ r.server.users.users → (id, name) ∈ users.users) ∧
            ((id, name) ∈ users.users → (id, name) ∈ r.server.users.users ∨
              (c, id) ∈ r.server.users.userSessions ∧
                r.server.db.getUser id = some ⟨id, name⟩))) ∧
    ∀ c m r', r.step (.handle c (.joinChatChannelRequest m)) = some r' →
      ((∀ u, (c, u) ∉ r.server.users.userSessions) ∨
        m.channelId ∉ r.server.db.channels.keys) →
      r'.server.channels.connectionChannelMap = r.server.channels.connectionChannelMap := by
  have hcons := consistent_reachable h
  have hmember := membershipInv_reachable h
  refine ⟨fun c m r' hs => ?_, fun c m r' hs hno => ?_⟩
  · obtain ⟨-, rfl⟩ := step_handle hs
    refine ⟨_, rfl, fun u ch hsession hjoined => ?_, fun hnot => ?_⟩
    · have hassigned := (hmember c ch).mpr hjoined
      obtain ⟨s', -, heq⟩ :=
        ServerState.handleWriteChatMessage_of_joined hcons c hsession hassigned m
      refine ⟨?_, ?_, ?_, fun d message => ?_⟩
      · show ((r.server.handleWriteChatMessage c m).2).flatMap _ = _
        rw [heq]
        rfl
      · show (r.server.handleWriteChatMessage c m).1.messages = _
        rw [heq]
      · show (r.server.handleWriteChatMessage c m).1.messages.messageCache _ = _
        rw [heq]
        show (r.server.messages.createMessage ch u m.content).messageCache _ = _
        rw [MessageStore.messageCache_createMessage, Function.update_self]
        rfl
      · show (((r.server.handleWriteChatMessage c m).2).flatMap _).count _ = _
        rw [heq]
        -- Only the broadcast delivers, and its range lists each connection once.
        have hcount := count_deliveries_broadcastTo r.server.connections
          (r.server.channels.connectionChannelMap.nodup_rangeRight ch)
          (.receiveChat ⟨u, ch, m.content⟩) message d
        simp only [MultiBimap.mem_rangeRight, hmember d ch] at hcount
        rw [List.flatMap_cons, List.flatMap_singleton]
        exact hcount
    · show (∃ text, (r.server.handleWriteChatMessage c m).2 = _) ∧
        ∃ users, (r.server.handleWriteChatMessage c m).1 = _ ∧ _
      by_cases hsession : ∃ u, (c, u) ∈ r.server.users.userSessions
      · -- The sender has a session, so `GetSessionUser` may cache its row.
        obtain ⟨u, hu⟩ := hsession
        have hfree : ∀ ch, (c, ch) ∉ r.server.channels.connectionChannelMap :=
          fun ch hch => hnot u ch hu ((hmember c ch).mp hch)
        rw [ServerState.handleWriteChatMessage_of_not_joined hcons c hu hfree m]
        exact ⟨⟨_, rfl⟩, _, rfl, (UserStore.getSessionUser_spec hcons.users c).2.1,
          fun id name => UserStore.mem_users_getSessionUser⟩
      · have hfree : ∀ u, (c, u) ∉ r.server.users.userSessions := fun u hu => hsession ⟨u, hu⟩
        rw [ServerState.handleWriteChatMessage_of_no_session c hfree m]
        exact ⟨⟨_, rfl⟩, r.server.users, rfl, rfl, fun id name => ⟨fun hid => hid, Or.inl⟩⟩
  · obtain ⟨-, rfl⟩ := step_handle hs
    exact ServerState.channelMap_handleJoinChatChannel hcons hno

/-- Two connections in one channel: the message of the first one reaches both. -/
theorem write_reaches_channel_two :
    ∃ r, serverRuns.Reachable Lts.anyStep r ∧ (1, 1) ∈ r.server.users.userSessions ∧
      r.joinedChannel 1 = some 1 ∧ r.joinedChannel 2 = some 1 ∧ r.server.connections = [1, 2] ∧
      ∀ r', r.step (.handle 1 (.writeChat ⟨"hi"⟩)) = some r' →
        r'.server.messages = r.server.messages.createMessage 1 1 "hi" := by
  have hstart : serverRuns.Reachable Lts.anyStep
      { server := ServerState.begin Database.empty, start := Database.empty } :=
    .start ⟨Database.empty, rfl⟩
  obtain ⟨r, hr, hsession, hone, htwo, hconn⟩ := hstart.exists_of_exec
    [.connect, .connect, .handle 1 (.createUserRequest ⟨1, "ann", "pw"⟩),
      .handle 2 (.createUserRequest ⟨1, "bob", "pw"⟩),
      .handle 1 (.authenticateUserRequest ⟨2, "ann", "pw"⟩),
      .handle 2 (.authenticateUserRequest ⟨2, "bob", "pw"⟩),
      .handle 1 (.createChannelRequest ⟨3, "general"⟩),
      .handle 1 (.joinChatChannelRequest ⟨4, 1⟩), .handle 2 (.joinChatChannelRequest ⟨4, 1⟩)]
    (fun r => (1, 1) ∈ r.server.users.userSessions.pairs ∧ r.joinedChannel 1 = some 1 ∧
      r.joinedChannel 2 = some 1 ∧ r.server.connections = [1, 2]) (by decide)
  refine ⟨r, hr, hsession, hone, htwo, hconn, fun r' hs => ?_⟩
  obtain ⟨calls, -, hjoined, -⟩ := (write_reaches_channel hr).1 1 ⟨"hi"⟩ r' hs
  exact (hjoined 1 1 hsession hone).2.1

/-- A user that registered after start-up and writes before any join is cached by this write:
the user store is not the same afterwards. -/
theorem write_caches_sender :
    ∃ r r', serverRuns.Reachable Lts.anyStep r ∧
      r.step (.handle 1 (.writeChat ⟨"hi"⟩)) = some r' ∧ r.joinedChannel 1 = none ∧
      (1, "ann") ∉ r.server.users.users ∧ (1, "ann") ∈ r'.server.users.users := by
  have hstart : serverRuns.Reachable Lts.anyStep
      { server := ServerState.begin Database.empty, start := Database.empty } :=
    .start ⟨Database.empty, rfl⟩
  obtain ⟨r, hr, hnone, hbefore, hafter⟩ := hstart.exists_of_exec
    [.connect, .handle 1 (.createUserRequest ⟨1, "ann", "pw"⟩),
      .handle 1 (.authenticateUserRequest ⟨2, "ann", "pw"⟩)]
    (fun r => r.joinedChannel 1 = none ∧ (1, "ann") ∉ r.server.users.users.pairs ∧
      (r.step (.handle 1 (.writeChat ⟨"hi"⟩))).any
        (fun r' => (1, "ann") ∈ r'.server.users.users.pairs) = true) (by decide)
  obtain ⟨r', hs, hmem⟩ := Option.any_eq_true _ _ |>.mp hafter
  have hmem' : (1, "ann") ∈ r'.server.users.users.pairs := of_decide_eq_true hmem
  exact ⟨r, r', hr, hs, hnone, hbefore, hmem'⟩

end ServerRun

end ChatCore.Server
