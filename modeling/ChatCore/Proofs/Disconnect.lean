import ChatCore.Proofs.Lifecycle
import ChatCore.Proofs.Presence
import ChatCore.Server.Disconnect

/-!
# `ChatCore.Proofs.Disconnect`: what a disconnected connection leaves behind

`ConnectionEventHandler::OnDisconnected` removes the session of the connection. Unlike
`HandleLogout` it does not call `UnassignConnection`, so a channel of the connection stays
assigned. And `AssignSession` and `AssignConnection` do not look whether the connection still
exists. So the login or the join of a connection leaves an entry behind when `OnDisconnected` runs
before the call, whether the message is still queued by then or its handler is under way.

`CleanStep` excludes these steps. Then a connection has no session from its `OnDisconnected` on, and
no channel as soon as no logout of the connection is under way (`DisconnectInv`).

`runHandler_begin` connects the split handlers with the handlers of `ServerState`: without a step of
another thread in between, their steps are the handler.
-/

set_option autoImplicit false

namespace ChatCore.Server

open ChatCore.Api
open ChatCore.Lib

/-! ### The steps of a handler -/

section

variable (s : ServerState) (c : Nat)

/-- The steps of `HandleAuthenticateUser` are `HandleAuthenticateUser`. -/
theorem runHandler_authenticate (m : AuthenticateUserRequestMessage) :
    runHandler s c 6 (.authenticate m .hasSession) = s.handleAuthenticateUser c m := by
  unfold ServerState.handleAuthenticateUser
  by_cases hsession : s.users.hasSession c = true
  · simp [runHandler, handlerStep, authenticateStep, hsession]
  · cases hmatch : s.db.matchUserCredentials m.name m.password with
    | none => simp [runHandler, handlerStep, authenticateStep, hsession, hmatch]
    | some user =>
      by_cases huser : s.users.hasUserSession user.id = true
      · simp [runHandler, handlerStep, authenticateStep, hsession, hmatch, huser]
      · simp [runHandler, handlerStep, authenticateStep, hsession, hmatch, huser]

/-- The steps of `HandleJoinChatChannel` are `HandleJoinChatChannel`. -/
theorem runHandler_join (m : JoinChatChannelRequestMessage) :
    runHandler s c 6 (.join m .validateSession) = s.handleJoinChatChannel c m := by
  unfold ServerState.handleJoinChatChannel ServerState.validateRpcSession
  by_cases hsession : s.users.hasSession c = true
  · cases hlookup : s.users.getSessionUser s.db c with
    | mk users potentialUser =>
      cases potentialUser with
      | none => simp [runHandler, handlerStep, joinStep, hsession, hlookup]
      | some user =>
        cases hchannel : s.channels.getChannel s.db m.channelId with
        | mk channels potentialChannel =>
          cases potentialChannel with
          | none => simp [runHandler, handlerStep, joinStep, hsession, hlookup, hchannel]
          | some channel => simp [runHandler, handlerStep, joinStep, hsession, hlookup, hchannel]
  · simp [runHandler, handlerStep, joinStep, hsession]

/-- The steps of `HandleLogout` are `HandleLogout`. -/
theorem runHandler_logout (m : LogoutRequestMessage) :
    runHandler s c 6 (.logout m .validateSession) = s.handleLogout c m := by
  unfold ServerState.handleLogout ServerState.validateRpcSession ServerState.removeSession
  by_cases hsession : s.users.hasSession c = true
  · cases hlookup : s.users.getSessionUser s.db c with
    | mk users potentialUser =>
      cases potentialUser with
      | none => simp [runHandler, handlerStep, logoutStep, removeSessionStep, hsession, hlookup]
      | some user =>
        simp [runHandler, handlerStep, logoutStep, removeSessionStep, PresenceEvent.call, hsession,
          hlookup]
  · simp [runHandler, handlerStep, logoutStep, hsession]

/-- Without a step of another thread in between, the steps of a handler are the handler. -/
theorem runHandler_begin (m : Message) : runHandler s c 6 (.begin m) = s.handle c m := by
  cases m with
  | authenticateUserRequest m => exact runHandler_authenticate s c m
  | joinChatChannelRequest m => exact runHandler_join s c m
  | logoutRequest m => exact runHandler_logout s c m
  | _ => rfl

end

/-- What the lookups of a handler have found is in the tables, and a handler that is one step is
none of the three that are split. -/
def HandlerStep.Found (db : Database) : HandlerStep → Prop
  | .authenticate _ (.hasUserSession user) | .authenticate _ (.assignSession user) =>
    ∃ row ∈ db.users.rows, row.id = user.id
  | .join m (.getAssignedChannel _ _) | .join m (.assignConnection _ _) =>
    m.channelId ∈ db.channels.keys
  | .whole m => m.type ∉
    [MessageType.authenticateUserRequest, .joinChatChannelRequest, .logoutRequest]
  | _ => True

/-- A handler has found nothing before its first call. -/
theorem found_begin (db : Database) (m : Message) : (HandlerStep.begin m).Found db := by
  cases m <;> first | trivial | simp [HandlerStep.begin, HandlerStep.Found, Message.type]

/-- What was found in the tables stays there as long as only other tables change. -/
theorem HandlerStep.Found.of_tables {db db' : Database} {handler : HandlerStep}
    (h : handler.Found db) (husers : db'.users = db.users) (hchannels : db'.channels = db.channels) :
    handler.Found db' := by
  unfold HandlerStep.Found at h ⊢
  rw [husers, hchannels]
  exact h

/-- What one step of a handler of connection `c` can do to the sessions and the assignments. -/
structure HandlerStepped (s : ServerState) (c : Nat) (handler : HandlerStep) (s' : ServerState)
    (next : Option HandlerStep) : Prop where
  consistent : s'.Consistent
  found : ∀ handler' ∈ next, handler'.Found s'.db
  sessions : ∀ {c' u}, (c', u) ∈ s'.users.userSessions →
    (c', u) ∈ s.users.userSessions ∨ (c' = c ∧ handler.assigns = true)
  channels : ∀ {c' ch}, (c', ch) ∈ s'.channels.connectionChannelMap →
    (c', ch) ∈ s.channels.connectionChannelMap ∨ (c' = c ∧ handler.assigns = true)
  /-- A logout that is going to unassign the connection goes on or has done it. -/
  unassigns : handler.unassigns = true → (∃ handler' ∈ next, handler'.unassigns = true) ∨
    ∀ ch, (c, ch) ∉ s'.channels.connectionChannelMap

section

variable {s s' : ServerState} {c : Nat} {handler : HandlerStep} {next : Option HandlerStep}

/-- A step that looks something up. -/
theorem HandlerStepped.of_served (h : s.Consistent) (hs : Served s s')
    (hfound : ∀ handler' ∈ next, handler'.Found s.db)
    (hunassigns : handler.unassigns = true → ∃ handler' ∈ next, handler'.unassigns = true) :
    HandlerStepped s c handler s' next where
  consistent := h.of_served hs
  found := hs.db ▸ hfound
  sessions hmem := .inl (hs.sessions ▸ hmem)
  channels hmem := .inl (hs.assigned ▸ hmem)
  unassigns hun := .inl (hunassigns hun)

/-- A step of `HandleAuthenticateUser`. -/
theorem handlerStepped_authenticate (h : s.Consistent) (m : AuthenticateUserRequestMessage)
    {step : AuthenticateStep} (hfound : (HandlerStep.authenticate m step).Found s.db) :
    HandlerStepped s c (.authenticate m step) (handlerStep s c (.authenticate m step)).1
      (handlerStep s c (.authenticate m step)).2.1 := by
  cases step with
  | hasSession =>
    simp only [handlerStep, authenticateStep]
    split
    · exact .of_served h h.served_refl nofun nofun
    · refine .of_served h h.served_refl ?_ nofun
      rintro _ ⟨⟩
      trivial
  | matchUserCredentials =>
    simp only [handlerStep, authenticateStep]
    split
    · exact .of_served h h.served_refl nofun nofun
    · -- The credentials are those of a row, and so is the user.
      rename_i user hmatch
      refine .of_served h h.served_refl ?_ nofun
      rintro _ ⟨⟩
      exact ⟨_, (Database.matchUserCredentials_eq_some.mp hmatch).2, rfl⟩
  | hasUserSession user =>
    simp only [handlerStep, authenticateStep]
    split
    · exact .of_served h h.served_refl nofun nofun
    · refine .of_served h h.served_refl ?_ nofun
      rintro _ ⟨⟩
      exact hfound
  | assignSession user =>
    -- The only new session is that of this connection.
    have hmem : ∀ {c' u}, (c', u) ∈ s.users.userSessions.insert c user.id →
        (c', u) ∈ s.users.userSessions ∨ (c' = c ∧ u = user.id) := Bimap.mem_of_mem_insert
    refine ⟨⟨h.users, h.channels, fun c' u hu => ?_, h.assigned⟩, ?_, fun hu => ?_, .inl, nofun⟩
    · rcases hmem hu with hold | ⟨-, rfl⟩
      · exact h.sessions c' u hold
      · exact hfound
    · rintro _ ⟨⟩
      trivial
    · exact (hmem hu).imp_right fun ⟨hc, _⟩ => ⟨hc, rfl⟩
  | answer user => exact .of_served h h.served_refl nofun nofun

/-- A step of `HandleJoinChatChannel`. -/
theorem handlerStepped_join (h : s.Consistent) (m : JoinChatChannelRequestMessage)
    {step : JoinStep} (hfound : (HandlerStep.join m step).Found s.db) :
    HandlerStepped s c (.join m step) (handlerStep s c (.join m step)).1
      (handlerStep s c (.join m step)).2.1 := by
  cases step with
  | validateSession =>
    simp only [handlerStep, joinStep]
    split
    · refine .of_served h h.served_refl ?_ nofun
      rintro _ ⟨⟩
      trivial
    · exact .of_served h h.served_refl nofun nofun
  | getSessionUser =>
    refine .of_served h (ServerState.served_getSessionUser h c) ?_ nofun
    intro handler' hnext
    obtain ⟨step', hstep', rfl⟩ := Option.map_eq_some_iff.mp hnext
    obtain ⟨user, -, rfl⟩ := Option.map_eq_some_iff.mp hstep'
    trivial
  | getChannel user =>
    obtain ⟨hresult, hmap, hcached⟩ := ChannelStore.getChannel_spec h.channels m.channelId
    have hserved := ServerState.Served.withChannels h.served_refl hcached hmap
    simp only [handlerStep, joinStep]
    cases hchannel : s.channels.getChannel s.db m.channelId with
    | mk channels potentialChannel =>
      rw [hchannel] at hserved hresult
      cases potentialChannel with
      | none => exact .of_served h hserved nofun nofun
      | some channel =>
        refine .of_served h hserved ?_ nofun
        rintro _ ⟨⟩
        -- A channel that was found is a row of the table.
        obtain ⟨hid, hrow⟩ := Database.getChatChannel_eq_some.mp hresult.symm
        show m.channelId ∈ s.db.channels.keys
        rw [← hid]
        exact List.mem_map_of_mem hrow
  | getAssignedChannel user channel =>
    -- The leave event may be broadcast here; the maps stay as they are.
    obtain ⟨-, hmap, hcached⟩ := ChannelStore.getAssignedChannel_spec h.channels c
    refine .of_served h (ServerState.Served.withChannels h.served_refl hcached hmap) ?_ nofun
    rintro _ ⟨⟩
    exact hfound
  | assignConnection user channel =>
    refine ⟨⟨h.users, h.channels, h.sessions, fun c' ch hch => ?_⟩, ?_, .inl, fun hch => ?_, nofun⟩
    · rcases ChannelStore.mem_assignConnection.mp hch with ⟨-, rfl⟩ | ⟨hold, -⟩
      · exact hfound
      · exact h.assigned c' ch hold
    · rintro _ ⟨⟩
      trivial
    · rcases ChannelStore.mem_assignConnection.mp hch with ⟨hc, -⟩ | ⟨hold, -⟩
      · exact .inr ⟨hc, rfl⟩
      · exact .inl hold
  | answer user channel => exact .of_served h h.served_refl nofun nofun

/-- A step of `RemoveSession` only removes sessions, and only of its connection. The last step
leaves none of this connection. -/
theorem removeSessionStep_sessions (h : s.Consistent) (call : RemoveSessionCall) :
    (removeSessionStep s c call).1.Consistent ∧
      (removeSessionStep s c call).1.db = s.db ∧
      (removeSessionStep s c call).1.channels = s.channels ∧
      (∀ p, p ∈ (removeSessionStep s c call).1.users.userSessions → p ∈ s.users.userSessions) ∧
      ((removeSessionStep s c call).2.1 = none →
        ∀ u, (c, u) ∉ (removeSessionStep s c call).1.users.userSessions) := by
  cases call with
  | lookup =>
    have hserved := ServerState.served_getSessionUser h c
    refine ⟨h.of_served hserved, rfl, rfl, fun p hp => hserved.sessions ▸ hp, fun hnone u hu => ?_⟩
    -- The user of a session is a row, so the lookup of a session goes on.
    obtain ⟨user, huser, -⟩ := h.getSessionUser_eq (hserved.sessions ▸ hu)
    have hnone' : (s.users.getSessionUser s.db c).2 = none := by
      simpa [removeSessionStep] using hnone
    rw [huser] at hnone'
    cases hnone'
  | broadcast u =>
    refine ⟨h, rfl, rfl, fun _ hp => hp, fun hnone => ?_⟩
    cases hnone
  | erase u =>
    refine ⟨⟨h.users, h.channels, fun c' w hw => ?_, h.assigned⟩, rfl, rfl,
      fun p hp => (Bimap.mem_eraseLeft.mp hp).1, fun _ w hw => (Bimap.mem_eraseLeft.mp hw).2 rfl⟩
    exact h.sessions c' w (Bimap.mem_eraseLeft.mp hw).1

/-- A step of `HandleLogout`. -/
theorem handlerStepped_logout (h : s.Consistent) (m : LogoutRequestMessage) (step : LogoutStep) :
    HandlerStepped s c (.logout m step) (handlerStep s c (.logout m step)).1
      (handlerStep s c (.logout m step)).2.1 := by
  cases step with
  | validateSession =>
    simp only [handlerStep, logoutStep]
    split
    · refine .of_served h h.served_refl ?_ nofun
      rintro _ ⟨⟩
      trivial
    · exact .of_served h h.served_refl nofun nofun
  | removeSession call =>
    obtain ⟨hcons, -, hchannels, hsessions, -⟩ := removeSessionStep_sessions (c := c) h call
    refine ⟨hcons, ?_, fun hu => .inl (hsessions _ hu), fun hch => .inl ?_, fun _ => .inl ?_⟩
    · rintro _ ⟨⟩
      trivial
    · have hch' : _ ∈ (removeSessionStep s c call).1.channels.connectionChannelMap := hch
      rw [hchannels] at hch'
      exact hch'
    · -- `UnassignConnection` is still to come, whether `RemoveSession` has returned or not.
      have hun : ∀ next : Option RemoveSessionCall, (HandlerStep.logout m
          (next.elim .unassignConnection .removeSession)).unassigns = true := fun next => by
        cases next <;> rfl
      exact ⟨_, rfl, hun _⟩
  | unassignConnection =>
    refine ⟨⟨h.users, h.channels, h.sessions, fun c' ch hch => ?_⟩, nofun, .inl, fun hch => ?_,
      fun _ => .inr fun ch hch => (MultiBimap.mem_eraseLeft.mp hch).2 rfl⟩
    · exact h.assigned c' ch (MultiBimap.mem_eraseLeft.mp hch).1
    · exact .inl (MultiBimap.mem_eraseLeft.mp hch).1

/-- The handlers that are one step assign no session and no channel. -/
theorem handled_sessions {m : Message} {calls : List Call} (h : Handled s c m s' calls)
    (htype : m.type ∉
      [MessageType.authenticateUserRequest, .joinChatChannelRequest, .logoutRequest]) :
    s'.users.userSessions = s.users.userSessions ∧
      s'.channels.connectionChannelMap = s.channels.connectionChannelMap := by
  cases h with
  | served hs _ => exact ⟨hs.sessions, hs.assigned⟩
  | createdUser _ => exact ⟨rfl, rfl⟩
  | authenticated _ _ _ => simp [Message.type] at htype
  | joined _ _ _ _ => simp [Message.type] at htype
  | loggedOut _ _ => simp [Message.type] at htype
  | createdChannel hs _ =>
    exact ⟨hs.sessions, (ChannelStore.connectionChannelMap_cacheChannel _ _).trans hs.assigned⟩
  | read => exact ⟨rfl, rfl⟩
  | wrote hs _ _ => exact ⟨hs.sessions, hs.assigned⟩

/-- Every step of a handler. -/
theorem handlerStepped (h : s.Consistent) (hfound : handler.Found s.db) :
    HandlerStepped s c handler (handlerStep s c handler).1 (handlerStep s c handler).2.1 := by
  cases handler with
  | authenticate m step => exact handlerStepped_authenticate h m hfound
  | join m step => exact handlerStepped_join h m hfound
  | logout m step => exact handlerStepped_logout h m step
  | whole m =>
    have hhandled := ServerState.handled_handle h c m
    obtain ⟨hsessions, hmap⟩ := handled_sessions hhandled hfound
    exact ⟨h.handled hhandled, nofun, fun hu => .inl (hsessions ▸ hu), fun hch => .inl (hmap ▸ hch),
      nofun⟩

end

/-! ### The invariant -/

namespace DisconnectRun

variable {s s' : DisconnectRun} {l : DisconnectOp}

/-- The steps of the main thread and of the scheduler thread, and those that accept, receive and
take messages, leave the sessions, the assignments and the tables of users and channels alone. -/
theorem processStep_sessions {p p' : Process} {op : ProcessOp} (h : p.server.Consistent)
    (hop : op ≠ .handleTask) (hdisconnected : ∀ c, op ≠ .onDisconnected c)
    (hs : p.step op = some p') :
    p'.server.users.userSessions = p.server.users.userSessions ∧
      p'.server.channels.connectionChannelMap = p.server.channels.connectionChannelMap ∧
      p'.disconnected = p.disconnected ∧
      p'.server.db.users = p.server.db.users ∧ p'.server.db.channels = p.server.db.channels := by
  cases Process.stepped_of_step hs with
  | main _ hmain =>
    cases hmain with
    | prewarmUsers => exact ⟨(UserStore.prewarm_spec h.users).2, rfl, rfl, rfl, rfl⟩
    | prewarmChannels => exact ⟨rfl, (ChannelStore.prewarm_spec h.channels).2, rfl, rfl, rfl⟩
    | persist hstep =>
      obtain ⟨-, -, -, hchannels, husers⟩ := persistStep_frame hstep
      exact ⟨rfl, rfl, rfl, husers, hchannels⟩
    | _ => exact ⟨rfl, rfl, rfl, rfl, rfl⟩
  | disconnected _ => exact absurd rfl (hdisconnected _)
  | handled _ _ => exact absurd rfl hop
  | ran _ hstep =>
    obtain ⟨-, -, -, hchannels, husers⟩ := persistStep_frame hstep
    exact ⟨rfl, rfl, rfl, husers, hchannels⟩
  | _ => exact ⟨rfl, rfl, rfl, rfl, rfl⟩

/-- A connection has no session from its `OnDisconnected` on, and no channel either unless a logout
of the connection is going to unassign it. -/
structure DisconnectInv (s : DisconnectRun) : Prop where
  consistent : s.server.Consistent
  found : ∀ handler ∈ s.handling, handler.2.Found s.server.db
  sessions : ∀ c ∈ s.disconnected, ∀ u, (c, u) ∉ s.server.users.userSessions
  channels : ∀ c ∈ s.disconnected,
    s.unassignsLater c = true ∨ ∀ ch, (c, ch) ∉ s.server.channels.connectionChannelMap

/-- The logout that is going to unassign the connection is the handler that is under way. -/
theorem unassignsLater_iff {c : Nat} : s.unassignsLater c = true ↔
    ∃ handler, s.handling = some (c, handler) ∧ handler.unassigns = true := by
  unfold unassignsLater
  rw [Option.any_eq_true]
  constructor
  · rintro ⟨⟨c', handler⟩, hhandling, hun⟩
    simp only [Bool.and_eq_true, decide_eq_true_eq] at hun
    obtain ⟨rfl, hun⟩ := hun
    exact ⟨handler, hhandling, hun⟩
  · rintro ⟨handler, hhandling, hun⟩
    exact ⟨(c, handler), hhandling, by simp [hun]⟩

/-- Without a handler under way nothing is going to be unassigned. -/
theorem unassignsLater_of_none (h : s.handling = none) (c : Nat) : s.unassignsLater c ≠ true := by
  rw [Ne, unassignsLater_iff, h]
  rintro ⟨_, ⟨⟩, _⟩

/-- A step of another thread. -/
theorem disconnectInv_process {op : ProcessOp} (h : DisconnectInv s)
    (hs : s.step (.process op) = some s') : DisconnectInv s' := by
  simp only [step] at hs
  split at hs
  · rename_i hfree
    obtain ⟨p, hp, rfl⟩ := Option.map_eq_some_iff.mp hs
    have hop : op ≠ .handleTask := fun he => by simp [he, free] at hfree
    have hdisconnected : ∀ c, op ≠ .onDisconnected c := fun c he => by simp [he, free] at hfree
    obtain ⟨hsessions, hmap, hgone, husers, hchannels⟩ :=
      processStep_sessions h.consistent hop hdisconnected hp
    refine ⟨Process.consistent_step h.consistent hp, fun handler hhandler => ?_, ?_, ?_⟩
    · exact (h.found handler hhandler).of_tables husers hchannels
    · show ∀ c ∈ p.disconnected, ∀ u, (c, u) ∉ p.server.users.userSessions
      rw [hgone, hsessions]
      exact h.sessions
    · show ∀ c ∈ p.disconnected, s.unassignsLater c = true ∨
        ∀ ch, (c, ch) ∉ p.server.channels.connectionChannelMap
      rw [hgone, hmap]
      exact h.channels
  · cases hs

/-- The application thread takes a message. -/
theorem disconnectInv_handleTask (h : DisconnectInv s) (hs : s.step .handleTask = some s') :
    DisconnectInv s' := by
  simp only [step] at hs
  split at hs
  · rename_i c m rest hnone hbuffer
    have hchannels : ∀ c ∈ s.disconnected,
        ∀ ch, (c, ch) ∉ s.server.channels.connectionChannelMap := fun c hc =>
      (h.channels c hc).resolve_left (unassignsLater_of_none hnone c)
    split at hs
    · cases hs
      refine ⟨h.consistent, ?_, h.sessions, fun c hc => .inr (hchannels c hc)⟩
      rintro _ ⟨⟩
      exact found_begin _ m
    · cases hs
      exact ⟨h.consistent, h.found, h.sessions, fun c hc => .inr (hchannels c hc)⟩
  · cases hs

/-- The next step of the handler. -/
theorem disconnectInv_application (h : DisconnectInv s) (hok : s.CleanStep .application)
    (hs : s.step .application = some s') : DisconnectInv s' := by
  obtain ⟨⟨c, handler⟩, hhandling, rfl⟩ := Option.map_eq_some_iff.mp hs
  have hstepped := handlerStepped (c := c) h.consistent (h.found _ hhandling)
  -- A handler of a disconnected connection does not assign now.
  have hclean : c ∈ s.disconnected → handler.assigns ≠ true := fun hc hassigns =>
    hok _ hhandling hassigns hc
  dsimp only at hstepped ⊢
  generalize handlerStep s.server c handler = result at hstepped ⊢
  obtain ⟨server, next, calls⟩ := result
  refine ⟨hstepped.consistent, ?_, fun c' hc' u hu => ?_, fun c' hc' => ?_⟩
  · intro handler' hnext
    obtain ⟨next', hnext', rfl⟩ := Option.map_eq_some_iff.mp hnext
    exact hstepped.found next' hnext'
  · rcases hstepped.sessions hu with hold | ⟨rfl, hassigns⟩
    · exact h.sessions c' hc' u hold
    · exact hclean hc' hassigns
  · rcases h.channels c' hc' with hlater | hfree
    · -- The logout that is going to unassign the connection takes its next step.
      obtain ⟨handler', hhandling', hun⟩ := unassignsLater_iff.mp hlater
      rw [hhandling] at hhandling'
      cases hhandling'
      rcases hstepped.unassigns hun with ⟨next', hnext', hun'⟩ | hfree
      · exact .inl (unassignsLater_iff.mpr ⟨next', congrArg (Option.map (c, ·)) hnext', hun'⟩)
      · exact .inr hfree
    · refine .inr fun ch hch => ?_
      rcases hstepped.channels hch with hold | ⟨rfl, hassigns⟩
      · exact hfree ch hold
      · exact hclean hc' hassigns

/-- `RemoveSession` returns from its erase, or from the lookup of a connection without a session. -/
theorem returns_of_step {c : Nat} {call : RemoveSessionCall} (h : s.server.Consistent)
    (hnext : (removeSessionStep s.server c call).2.1 = none) : s.returns (c, call) = true := by
  cases call with
  | lookup =>
    obtain ⟨-, -, -, -, hlast⟩ := removeSessionStep_sessions (c := c) h .lookup
    have hsessions := (ServerState.served_getSessionUser h c).sessions
    show (!s.server.users.hasSession c) = true
    rw [Bool.not_eq_true', ← Bool.not_eq_true, ServerState.hasSession_iff]
    exact fun ⟨u, hu⟩ => hlast hnext u (hsessions ▸ hu)
  | broadcast u => cases hnext
  | erase u => rfl

/-- The next step of `OnDisconnected`. -/
theorem disconnectInv_network (h : DisconnectInv s) (hok : s.CleanStep .network)
    (hs : s.step .network = some s') : DisconnectInv s' := by
  obtain ⟨⟨c, call⟩, hnetwork, rfl⟩ := Option.map_eq_some_iff.mp hs
  obtain ⟨hcons, hdb, hchannels, hsessions, hlast⟩ :=
    removeSessionStep_sessions (c := c) h.consistent call
  have hmap : ∀ c', (∀ ch, (c', ch) ∉ s.server.channels.connectionChannelMap) →
      ∀ ch, (c', ch) ∉ (removeSessionStep s.server c call).1.channels.connectionChannelMap := by
    rw [hchannels]
    exact fun _ hfree => hfree
  refine ⟨hcons, fun handler hhandler => ?_, fun c' hc' u hu => ?_, fun c' hc' => ?_⟩
  · exact (h.found handler hhandler).of_tables (congrArg Database.users hdb)
      (congrArg Database.channels hdb)
  · cases hnext : (removeSessionStep s.server c call).2.1 with
    | some next =>
      -- `RemoveSession` is still under way: the list of the disconnected is the old one.
      simp only [hnext, Option.elim_some] at hc'
      exact h.sessions c' hc' u (hsessions _ hu)
    | none =>
      simp only [hnext, Option.elim_none] at hc'
      rcases List.mem_append.mp hc' with hc' | hc'
      · exact h.sessions c' hc' u (hsessions _ hu)
      · rw [List.mem_singleton] at hc'
        subst hc'
        exact hlast hnext u hu
  · cases hnext : (removeSessionStep s.server c call).2.1 with
    | some next =>
      simp only [hnext, Option.elim_some] at hc'
      exact (h.channels c' hc').imp_right (hmap c')
    | none =>
      simp only [hnext, Option.elim_none] at hc'
      rcases List.mem_append.mp hc' with hc' | hc'
      · exact (h.channels c' hc').imp_right (hmap c')
      · -- `CleanStep` speaks of the connection whose `OnDisconnected` returns now.
        rw [List.mem_singleton] at hc'
        subst hc'
        rcases hok _ hnetwork (returns_of_step h.consistent hnext) with hfree | hlater
        · exact .inr (hmap c' (MultiBimap.findLeft_eq_none.mp hfree))
        · exact .inl hlater

/-- Every step that satisfies `CleanStep` keeps the invariant. -/
theorem disconnectInv_step (h : DisconnectInv s) (hok : s.CleanStep l) (hs : s.step l = some s') :
    DisconnectInv s' := by
  cases l with
  | process op => exact disconnectInv_process h hs
  | handleTask => exact disconnectInv_handleTask h hs
  | application => exact disconnectInv_application h hok hs
  | removeConnection c =>
    simp only [step] at hs
    split at hs
    · cases hs
      exact ⟨⟨h.consistent.users, h.consistent.channels, h.consistent.sessions,
        h.consistent.assigned⟩, h.found, h.sessions, h.channels⟩
    · cases hs
  | network => exact disconnectInv_network h hok hs

/-- The invariant holds in every state of a run of such steps. -/
theorem disconnectInv_reachable (h : disconnectRuns.Reachable CleanStep s) : DisconnectInv s := by
  refine h.invariant ?_ fun s l s' hinv hok hs => disconnectInv_step hinv hok hs
  rintro s ⟨db, rfl⟩
  exact ⟨Process.consistent_begin db, nofun, nofun, nofun⟩

/-- When every step of a run satisfies `CleanStep`, a connection has no session in any state after
its `OnDisconnected`. Once its messages are handled it has no channel either, and the queue and the
buffer may even still hold some of them: it is enough that none is being handled. -/
theorem disconnected_leaves_nothing (h : disconnectRuns.Reachable CleanStep s) {c : Nat}
    (hc : c ∈ s.disconnected) :
    (∀ u, (c, u) ∉ s.server.users.userSessions) ∧
      ((∀ handler ∈ s.handling, handler.1 ≠ c) →
        ∀ ch, (c, ch) ∉ s.server.channels.connectionChannelMap) := by
  have hinv := disconnectInv_reachable h
  refine ⟨hinv.sessions c hc, fun hidle => (hinv.channels c hc).resolve_left fun hlater => ?_⟩
  obtain ⟨handler, hhandling, -⟩ := unassignsLater_iff.mp hlater
  exact hidle (c, handler) hhandling rfl

/-- A client connects and sends `messages`, and the application thread takes them. -/
def connected (messages : List Message) : List DisconnectOp :=
  List.replicate 20 (.process .main) ++ [.process .accept] ++
    messages.map (fun m => .process (.receive 1 m)) ++ [.process .takeTasks]

/-- The application thread takes a message and so many steps of its handler. -/
def handle (steps : Nat) : List DisconnectOp := .handleTask :: List.replicate steps .application

/-- The client is disconnected, and `OnDisconnected` takes so many steps. -/
def disconnect (steps : Nat) : List DisconnectOp :=
  .removeConnection 1 :: List.replicate steps .network

/-- The messages of a client that registers, logs in, creates a channel and joins it. -/
def joining : List Message :=
  [.createUserRequest ⟨1, "ann", "pw"⟩, .authenticateUserRequest ⟨2, "ann", "pw"⟩,
    .createChannelRequest ⟨3, "general"⟩, .joinChatChannelRequest ⟨4, 1⟩]

/-- A client in a channel is disconnected in the middle of its logout, right after the test of the
session. -/
theorem disconnected_leaves_nothing_logout : ∃ s, disconnectRuns.Reachable CleanStep s ∧
    1 ∈ s.disconnected ∧ s.Drained 1 ∧ (∀ u, (1, u) ∉ s.server.users.userSessions) ∧
    ∀ ch, (1, ch) ∉ s.server.channels.connectionChannelMap := by
  have hstart : disconnectRuns.Reachable CleanStep { toProcess := Process.begin .empty } :=
    .start ⟨_, rfl⟩
  obtain ⟨s, hs, hc, hdrained⟩ := hstart.exists_of_exec
    (connected (joining ++ [.logoutRequest ⟨5⟩]) ++ handle 1 ++ handle 5 ++ handle 1 ++ handle 6 ++
      handle 1 ++ disconnect 3 ++ [.application, .application])
    (fun s => 1 ∈ s.disconnected ∧ s.Drained 1) (by decide +kernel)
  obtain ⟨hsessions, hchannels⟩ := disconnected_leaves_nothing hs hc
  exact ⟨s, hs, hc, hdrained, hsessions, hchannels hdrained.2⟩

/-- Four runs that leave an entry behind. A client that joined a channel stays in it. A login that
is handled after `OnDisconnected` keeps its session, and so does a login that has made its tests
before. A join that has tested the session before `OnDisconnected` keeps its channel. -/
theorem disconnected_leaves_channel_and_session :
    (∃ s, disconnectRuns.Reachable Lts.anyStep s ∧ 1 ∈ s.disconnected ∧ s.Drained 1 ∧
      (1, 1) ∈ s.server.channels.connectionChannelMap) ∧
    (∃ s, disconnectRuns.Reachable Lts.anyStep s ∧ 1 ∈ s.disconnected ∧ s.Drained 1 ∧
      (1, 1) ∈ s.server.users.userSessions) ∧
    (∃ s, disconnectRuns.Reachable Lts.anyStep s ∧ 1 ∈ s.disconnected ∧ s.Drained 1 ∧
      (1, 1) ∈ s.server.users.userSessions) ∧
    ∃ s, disconnectRuns.Reachable Lts.anyStep s ∧ 1 ∈ s.disconnected ∧ s.Drained 1 ∧
      (1, 1) ∈ s.server.channels.connectionChannelMap := by
  have hstart : disconnectRuns.Reachable Lts.anyStep { toProcess := Process.begin .empty } :=
    .start ⟨_, rfl⟩
  refine ⟨?_, ?_, ?_, ?_⟩
  · exact hstart.exists_of_exec
      (connected joining ++ handle 1 ++ handle 5 ++ handle 1 ++ handle 6 ++ disconnect 3)
      (fun s => 1 ∈ s.disconnected ∧ s.Drained 1 ∧
        (1, 1) ∈ s.server.channels.connectionChannelMap.pairs) (by decide +kernel)
  · exact hstart.exists_of_exec
      (connected (joining.take 2) ++ handle 1 ++ disconnect 1 ++ handle 5)
      (fun s => 1 ∈ s.disconnected ∧ s.Drained 1 ∧
        (1, 1) ∈ s.server.users.userSessions.pairs) (by decide +kernel)
  · exact hstart.exists_of_exec
      (connected (joining.take 2) ++ handle 1 ++ handle 3 ++ disconnect 1 ++
        [.application, .application])
      (fun s => 1 ∈ s.disconnected ∧ s.Drained 1 ∧
        (1, 1) ∈ s.server.users.userSessions.pairs) (by decide +kernel)
  · exact hstart.exists_of_exec
      (connected joining ++ handle 1 ++ handle 5 ++ handle 1 ++ handle 2 ++ disconnect 3 ++
        List.replicate 4 .application)
      (fun s => 1 ∈ s.disconnected ∧ s.Drained 1 ∧
        (1, 1) ∈ s.server.channels.connectionChannelMap.pairs) (by decide +kernel)

end DisconnectRun

end ChatCore.Server
