import ChatCore.Proofs.Handlers
import ChatCore.Server.Steps

/-!
# `ChatCore.Proofs.Sessions`: sessions are what the authentication history says

`AssignSession` inserts into a bimap and does not report a conflict. The response that
`HandleAuthenticateUser` sends afterwards is true only because the guards before it rule a
conflict out: the connection has no session, and neither has the user.

`SessionInv` ties the state to the trace. The table of users is the table at start-up with
the users of the successful `CreateUser` requests, and the sessions are the responses since
which the connection has neither logged out nor disconnected (`Lib.Since`). The step lemmas
split on `Handled`, so no handler is opened here.
-/

set_option autoImplicit false

namespace ChatCore.Server

open ChatCore.Api
open ChatCore.Lib

/-! ### What an event says -/

namespace Event

/-- Quiet calls authenticate nobody. -/
theorem not_authenticates_of_quiet {op : ServerOp} {calls : List Call}
    (h : ∀ call ∈ calls, call.Quiet) (c : Nat) (u : User) :
    ¬ (⟨op, calls⟩ : Event).Authenticates c u := by
  intro hauth
  obtain ⟨requestId, hmem⟩ := hauth
  exact (h _ hmem).2.1 rfl

/-- Quiet calls answer no `CreateUserRequest`. -/
theorem not_createsUser_of_quiet {op : ServerOp} {calls : List Call}
    (h : ∀ call ∈ calls, call.Quiet) (row : UserRow) :
    ¬ (⟨op, calls⟩ : Event).CreatesUser row := by
  intro hcreates
  obtain ⟨c, requestId, -, hmem⟩ := hcreates
  exact (h _ hmem).1 rfl

/-- Quiet calls answer no `LogoutRequest`. -/
theorem logsOut_of_quiet {op : ServerOp} {calls : List Call}
    (h : ∀ call ∈ calls, call.Quiet) (c : Nat) : (⟨op, calls⟩ : Event).logsOut c = false := by
  unfold logsOut
  split
  · rename_i c' m heq
    rw [decide_eq_false_iff_not]
    intro hmem
    exact (h _ hmem.2).2.2.2 rfl
  · rfl

/-- Quiet calls answer no `JoinChatChannelRequest`. -/
theorem joins_of_quiet {op : ServerOp} {calls : List Call}
    (h : ∀ call ∈ calls, call.Quiet) (c : Nat) : (⟨op, calls⟩ : Event).joins c = none := by
  unfold joins
  split
  · rename_i c' m heq
    rw [if_neg]
    intro hmem
    exact (h _ hmem.2).2.2.1 rfl
  · rfl

/-- A message of another type creates no user. -/
theorem not_createsUser_of_ne {c : Nat} {m : Message} {calls : List Call}
    (h : ∀ request, m ≠ .createUserRequest request) (row : UserRow) :
    ¬ (⟨.handle c m, calls⟩ : Event).CreatesUser row := by
  intro hcreates
  obtain ⟨c', requestId, hop, -⟩ := hcreates
  injection hop with _ hm
  exact h _ hm

/-- An event that is neither a disconnect nor an answered logout ends no session. -/
theorem not_endsSession {op : ServerOp} {calls : List Call} {c : Nat}
    (hop : op ≠ .disconnect c) (hlogout : (⟨op, calls⟩ : Event).logsOut c = false) :
    ¬ (⟨op, calls⟩ : Event).EndsSession c := by
  intro hends
  rcases hends with hends | hends
  · exact hop hends
  · rw [hlogout] at hends
    cases hends

end Event

namespace ServerRun

/-! ### Steps -/

/-- What a step does: it accepts a connection, handles a message, disconnects or persists. -/
theorem step_cases {r r' : ServerRun} {op : ServerOp} (h : r.step op = some r') :
    (op = .connect ∧ r' = r.record .connect (r.server.createConnection, [])) ∨
    (∃ c m, op = .handle c m ∧ r.Issued c ∧ r' = r.record (.handle c m) (r.server.handle c m)) ∨
    (∃ c, op = .disconnect c ∧ r.Issued c ∧
      r' = r.record (.disconnect c) ((r.server.removeConnection c).removeSession c)) ∨
    (∃ db messages persist, op = .persist ∧
      persistStep r.server.db r.server.messages r.persist = some (db, messages, persist) ∧
      r' = { r.record .persist ({ r.server with db := db, messages := messages }, []) with
        persist := persist }) := by
  cases op with
  | connect =>
    cases h
    exact Or.inl ⟨rfl, rfl⟩
  | handle c m =>
    simp only [step] at h
    split at h
    · rename_i hissued
      cases h
      exact Or.inr (Or.inl ⟨c, m, rfl, hissued, rfl⟩)
    · cases h
  | disconnect c =>
    simp only [step] at h
    split at h
    · rename_i hissued
      cases h
      exact Or.inr (Or.inr (Or.inl ⟨c, rfl, hissued, rfl⟩))
    · cases h
  | persist =>
    obtain ⟨⟨db, messages, persist⟩, hstep, heq⟩ := Option.map_eq_some_iff.mp h
    exact Or.inr (Or.inr (Or.inr ⟨db, messages, persist, rfl, hstep, heq.symm⟩))

/-- The step that handles a message. -/
theorem step_handle {r r' : ServerRun} {c : Nat} {m : Message}
    (h : r.step (.handle c m) = some r') :
    r.Issued c ∧ r' = r.record (.handle c m) (r.server.handle c m) := by
  rcases step_cases h with ⟨hop, -⟩ | ⟨c1, m1, hop, hissued, heq⟩ | ⟨c1, hop, -⟩ | ⟨_, _, _, hop, -⟩
  · cases hop
  · cases hop
    exact ⟨hissued, heq⟩
  · cases hop
  · cases hop

/-- A step puts one event at the end of the trace. -/
theorem step_trace {r r' : ServerRun} {op : ServerOp} (h : r.step op = some r') :
    r'.start = r.start ∧ ∃ calls, r'.trace = r.trace ++ [⟨op, calls⟩] := by
  rcases step_cases h with ⟨rfl, rfl⟩ | ⟨c, m, rfl, -, rfl⟩ | ⟨c, rfl, -, rfl⟩ |
    ⟨db, messages, persist, rfl, -, rfl⟩
  · exact ⟨rfl, _, rfl⟩
  · exact ⟨rfl, _, rfl⟩
  · exact ⟨rfl, _, rfl⟩
  · exact ⟨rfl, _, rfl⟩

/-- The calls of the last event are the calls of the step. -/
theorem calls_of_record {r : ServerRun} {op : ServerOp} {result : ServerState × List Call}
    {calls : List Call} (h : (r.record op result).trace = r.trace ++ [⟨op, calls⟩]) :
    calls = result.2 := by
  simpa [record] using h.symm

/-- A disconnect leaves the stores consistent. -/
theorem consistent_removeConnection {s : ServerState} (h : s.Consistent) (c : Nat) :
    (s.removeConnection c).Consistent :=
  ⟨h.users, h.channels, h.sessions, h.assigned⟩

/-- Every step keeps the stores consistent. -/
theorem consistent_step {r r' : ServerRun} {op : ServerOp} (h : r.server.Consistent)
    (hs : r.step op = some r') : r'.server.Consistent := by
  rcases step_cases hs with ⟨-, rfl⟩ | ⟨c, m, -, -, rfl⟩ | ⟨c, -, -, rfl⟩ |
    ⟨db, messages, persist, -, hstep, rfl⟩
  · exact ⟨h.users, h.channels, h.sessions, h.assigned⟩
  · exact h.handled (ServerState.handled_handle h c m)
  · exact (consistent_removeConnection h c).removeSession c
  · exact h.persistStep hstep

/-- The stores of every reachable state are consistent. -/
theorem consistent_reachable {r : ServerRun} (h : serverRuns.Reachable Lts.anyStep r) :
    r.server.Consistent := by
  refine h.invariant (I := fun r => r.server.Consistent) ?_ ?_
  · intro r hstart
    obtain ⟨db, rfl⟩ := hstart
    exact ServerState.consistent_begin db
  · intro r op r' ih _ hs
    exact consistent_step ih hs

/-! ### The sessions -/

/-- An event that opens and closes no session of `c` keeps what holds about it. -/
theorem mem_sessions_of_same {S S' : Bimap Nat Nat} {e : Event} {c : Nat} (heq : S' = S)
    (hno : ∀ user, ¬ e.Authenticates c user) (hends : ¬ e.EndsSession c) (u : Nat) :
    (c, u) ∈ S' ↔ (∃ user, e.Authenticates c user ∧ user.id = u) ∨
      ((c, u) ∈ S ∧ ¬ e.EndsSession c) := by
  have hnone : ¬ ∃ user, e.Authenticates c user ∧ user.id = u :=
    fun ⟨user, hauth, _⟩ => hno user hauth
  rw [heq, or_iff_right hnone, and_iff_left hends]

/-- A handled message opens the session of its response and closes the session of its
logout. -/
theorem mem_sessions_handled {s s' : ServerState} {c : Nat} {m : Message} {calls : List Call}
    (hh : Handled s c m s' calls) (c' u : Nat) :
    (c', u) ∈ s'.users.userSessions
      ↔ (∃ user, (⟨.handle c m, calls⟩ : Event).Authenticates c' user ∧ user.id = u) ∨
        ((c', u) ∈ s.users.userSessions ∧ ¬ (⟨.handle c m, calls⟩ : Event).EndsSession c') := by
  cases hh with
  | served hs hquiet =>
    exact mem_sessions_of_same hs.sessions
      (fun user => Event.not_authenticates_of_quiet hquiet c' user)
      (Event.not_endsSession (by simp) (Event.logsOut_of_quiet hquiet c')) u
  | createdUser hcreate =>
    refine mem_sessions_of_same rfl (fun user hauth => ?_)
      (Event.not_endsSession (by simp) rfl) u
    obtain ⟨requestId, hmem⟩ := hauth
    simp at hmem
  | @authenticated r user hfree hmatch huser =>
    have hauth : ∀ user', (⟨.handle c (.authenticateUserRequest r),
        [.send c (.authenticateUserResponse ⟨r.requestId, user⟩),
          .broadcast (.userLoginEvent ⟨user.id⟩)]⟩ : Event).Authenticates c' user'
        ↔ c' = c ∧ user' = user := by
      intro user'
      simp [Event.Authenticates]
    have hends : ¬ (⟨.handle c (.authenticateUserRequest r),
        [.send c (.authenticateUserResponse ⟨r.requestId, user⟩),
          .broadcast (.userLoginEvent ⟨user.id⟩)]⟩ : Event).EndsSession c' :=
      Event.not_endsSession (by simp) rfl
    -- The guards say that `insert` has no conflict, so the pair is really in the bimap.
    show (c', u) ∈ s.users.userSessions.insert c user.id ↔ _
    rw [Bimap.mem_insert hfree huser, and_iff_left hends, or_comm]
    refine or_congr_left ⟨fun h => ⟨user, (hauth user).mpr ⟨h.1, rfl⟩, h.2.symm⟩, fun h => ?_⟩
    obtain ⟨user', hmem, hid⟩ := h
    obtain ⟨hc, rfl⟩ := (hauth user').mp hmem
    exact ⟨hc, hid.symm⟩
  | @joined r s1 u1 calls hs hsession hchannel hquiet =>
    refine mem_sessions_of_same hs.sessions (fun user hauth => ?_)
      (Event.not_endsSession (by simp) rfl) u
    obtain ⟨requestId, hmem⟩ := hauth
    -- The events of the join are quiet, and its response is of another type.
    rcases List.mem_append.mp hmem with hmem | hmem
    · exact (hquiet _ hmem).2.1 rfl
    · simp at hmem
  | @loggedOut r s1 u1 hs hsession =>
    have hends : (⟨.handle c (.logoutRequest r), [.broadcast (.userLogoutEvent ⟨u1⟩),
        .send c (.logoutResponse ⟨r.requestId⟩)]⟩ : Event).EndsSession c' ↔ c = c' := by
      simp [Event.EndsSession, Event.logsOut]
    have hnone : ¬ ∃ user, (⟨.handle c (.logoutRequest r), [.broadcast (.userLogoutEvent ⟨u1⟩),
        .send c (.logoutResponse ⟨r.requestId⟩)]⟩ : Event).Authenticates c' user ∧
        user.id = u := by
      simp [Event.Authenticates]
    show (c', u) ∈ s1.users.userSessions.eraseLeft c ↔ _
    rw [Bimap.mem_eraseLeft, hs.sessions, hends, or_iff_right hnone, ne_comm]
  | @createdChannel r s1 db channel u1 hs hcreate =>
    refine mem_sessions_of_same hs.sessions (fun user hauth => ?_)
      (Event.not_endsSession (by simp) rfl) u
    obtain ⟨requestId, hmem⟩ := hauth
    simp at hmem
  | read =>
    refine mem_sessions_of_same rfl (fun user hauth => ?_)
      (Event.not_endsSession (by simp) rfl) u
    obtain ⟨requestId, hmem⟩ := hauth
    simp at hmem
  | wrote hs hsession hassigned =>
    refine mem_sessions_of_same hs.sessions (fun user hauth => ?_)
      (Event.not_endsSession (by simp) rfl) u
    obtain ⟨requestId, hmem⟩ := hauth
    simp at hmem

/-- A disconnect closes the session of its connection. -/
theorem mem_sessions_removeSession {s : ServerState} (h : s.Consistent) (c c' u : Nat) :
    (c', u) ∈ (s.removeSession c).1.users.userSessions
      ↔ (c', u) ∈ s.users.userSessions ∧ c' ≠ c := by
  obtain ⟨users, hserved, hsessions, -, -, -⟩ := ServerState.removeSession_spec h c
  rw [hsessions, Bimap.mem_eraseLeft]
  have heq : users.userSessions = s.users.userSessions := hserved.sessions
  rw [heq]

/-- The sessions after a step, by the event of the step. -/
theorem mem_sessions_step {r r' : ServerRun} {op : ServerOp} (h : r.server.Consistent)
    (hs : r.step op = some r') {calls : List Call}
    (htrace : r'.trace = r.trace ++ [⟨op, calls⟩]) (c u : Nat) :
    (c, u) ∈ r'.server.users.userSessions
      ↔ (∃ user, (⟨op, calls⟩ : Event).Authenticates c user ∧ user.id = u) ∨
        ((c, u) ∈ r.server.users.userSessions ∧ ¬ (⟨op, calls⟩ : Event).EndsSession c) := by
  rcases step_cases hs with ⟨rfl, rfl⟩ | ⟨c1, m, rfl, -, rfl⟩ | ⟨c1, rfl, -, rfl⟩ |
    ⟨db, messages, persist, rfl, hstep, rfl⟩
  · have hcalls : calls = [] := calls_of_record htrace
    subst hcalls
    simp [Event.Authenticates, Event.EndsSession, Event.logsOut, record,
      ServerState.createConnection]
  · have hcalls : calls = (r.server.handle c1 m).2 := calls_of_record htrace
    rw [hcalls]
    exact mem_sessions_handled (ServerState.handled_handle h c1 m) c u
  · have hcalls : calls = ((r.server.removeConnection c1).removeSession c1).2 :=
      calls_of_record htrace
    -- A disconnect ends the session of its connection and starts none.
    have hcons := consistent_removeConnection h c1
    obtain ⟨-, -, -, -, -, hquiet⟩ := ServerState.removeSession_spec hcons c1
    rw [← hcalls] at hquiet
    have hnone : ¬ ∃ user, (⟨.disconnect c1, calls⟩ : Event).Authenticates c user ∧ user.id = u :=
      fun ⟨user, hauth, _⟩ => Event.not_authenticates_of_quiet hquiet c user hauth
    have hends : (⟨.disconnect c1, calls⟩ : Event).EndsSession c ↔ c1 = c := by
      simp [Event.EndsSession, Event.logsOut]
    have hmem := mem_sessions_removeSession hcons c1 c u
    rw [or_iff_right hnone, hends, ← ne_eq, ne_comm]
    exact hmem
  · have hcalls : calls = [] := calls_of_record htrace
    subst hcalls
    simp [Event.Authenticates, Event.EndsSession, Event.logsOut, record]

/-! ### The table of users -/

/-- A handled message adds the row of a successful `CreateUser` and no other. -/
theorem mem_users_handled {s s' : ServerState} {c : Nat} {m : Message} {calls : List Call}
    (hh : Handled s c m s' calls) (row : UserRow) :
    row ∈ s'.db.users.rows
      ↔ row ∈ s.db.users.rows ∨ (⟨.handle c m, calls⟩ : Event).CreatesUser row := by
  cases hh with
  | served hs hquiet =>
    rw [hs.db, or_iff_left (Event.not_createsUser_of_quiet hquiet row)]
  | @createdUser r db u hcreate =>
    obtain ⟨hname, hrows, -, -⟩ := Database.createUser_spec hcreate
    show row ∈ db.users.rows ↔ _
    rw [hrows, List.mem_append, List.mem_singleton]
    refine or_congr_right ⟨fun h => ?_, fun h => ?_⟩
    · -- The response carries the id and the name of the new row.
      subst h
      refine ⟨c, r.requestId, rfl, ?_⟩
      rw [List.mem_singleton, UserRow.toUser, ← hname]
    · obtain ⟨c', requestId, hop, hmem⟩ := h
      have hr : r = ⟨requestId, row.name, row.password⟩ := by
        injection hop with _ hm
        injection hm
      have hu : row.toUser = u := by
        simp only [List.mem_singleton, Call.send.injEq, Message.createUserResponse.injEq,
          CreateUserResponseMessage.mk.injEq] at hmem
        exact hmem.2.2
      rw [hr, ← hu]
      rfl
  -- The other messages leave the table of users as it is.
  | authenticated hfree hmatch huser =>
    rw [or_iff_left (Event.not_createsUser_of_ne (by simp) row)]
  | joined hs hsession hchannel hquiet =>
    rw [or_iff_left (Event.not_createsUser_of_ne (by simp) row)]
    show row ∈ _ ↔ _
    rw [hs.db]
  | loggedOut hs hsession =>
    rw [or_iff_left (Event.not_createsUser_of_ne (by simp) row)]
    show row ∈ _ ↔ _
    rw [hs.db]
  | @createdChannel r s1 db channel u hs hcreate =>
    rw [or_iff_left (Event.not_createsUser_of_ne (by simp) row)]
    show row ∈ db.users.rows ↔ _
    rw [(Database.createChatChannel_spec hcreate).2.2.1]
  | read =>
    rw [or_iff_left (Event.not_createsUser_of_ne (by simp) row)]
  | wrote hs hsession hassigned =>
    rw [or_iff_left (Event.not_createsUser_of_ne (by simp) row)]
    show row ∈ _ ↔ _
    rw [hs.db]

/-- The rows of users after a step, by the event of the step. -/
theorem mem_users_step {r r' : ServerRun} {op : ServerOp} (h : r.server.Consistent)
    (hs : r.step op = some r') {calls : List Call}
    (htrace : r'.trace = r.trace ++ [⟨op, calls⟩]) (row : UserRow) :
    row ∈ r'.server.db.users.rows
      ↔ row ∈ r.server.db.users.rows ∨ (⟨op, calls⟩ : Event).CreatesUser row := by
  rcases step_cases hs with ⟨rfl, rfl⟩ | ⟨c1, m, rfl, -, rfl⟩ | ⟨c1, rfl, -, rfl⟩ |
    ⟨db, messages, persist, rfl, hstep, rfl⟩
  · simp [Event.CreatesUser, record, ServerState.createConnection]
  · have hcalls : calls = (r.server.handle c1 m).2 := calls_of_record htrace
    rw [hcalls]
    exact mem_users_handled (ServerState.handled_handle h c1 m) row
  · obtain ⟨-, -, -, heq, -, -⟩ :=
      ServerState.removeSession_spec (consistent_removeConnection h c1) c1
    rw [or_iff_left (by simp [Event.CreatesUser])]
    show row ∈ ((r.server.removeConnection c1).removeSession c1).1.db.users.rows ↔ _
    rw [heq]
    rfl
  · rw [or_iff_left (by simp [Event.CreatesUser])]
    show row ∈ db.users.rows ↔ _
    rw [(persistStep_frame hstep).2.2.2.2]

/-! ### Runs -/

/-- The state is what the trace says. -/
structure SessionInv (r : ServerRun) : Prop where
  consistent : r.server.Consistent
  users : ∀ row, row ∈ r.server.db.users.rows ↔ r.Registered row
  sessions : ∀ c u, (c, u) ∈ r.server.users.userSessions
    ↔ Since (fun e => ∃ user, e.Authenticates c user ∧ user.id = u) (·.EndsSession c) r.trace

/-- The invariant holds at the start. -/
theorem sessionInv_start (db : Database) :
    SessionInv { server := ServerState.begin db, start := db } := by
  refine ⟨ServerState.consistent_begin db, fun row => ?_, fun c u => ?_⟩
  · simp [Registered, ServerState.begin]
  · have hempty : (ServerState.begin db).users.userSessions = Bimap.empty :=
      (UserStore.prewarm_spec (UserStore.cachedFrom_empty db)).2
    show (c, u) ∈ (ServerState.begin db).users.userSessions ↔ _
    rw [hempty]
    simp

/-- A step keeps the invariant. -/
theorem sessionInv_step {r r' : ServerRun} {op : ServerOp} (h : SessionInv r)
    (hs : r.step op = some r') : SessionInv r' := by
  obtain ⟨hstart, calls, htrace⟩ := step_trace hs
  refine ⟨consistent_step h.consistent hs, fun row => ?_, fun c u => ?_⟩
  · rw [mem_users_step h.consistent hs htrace, h.users, Registered, Registered, hstart, htrace]
    simp only [List.mem_append, List.mem_singleton, or_and_right, exists_or, exists_eq_left,
      or_assoc]
  · rw [mem_sessions_step h.consistent hs htrace, h.sessions, htrace, since_append_singleton]

/-- The state of every reachable run is what its trace says. -/
theorem sessionInv_reachable {r : ServerRun} (h : serverRuns.Reachable Lts.anyStep r) :
    SessionInv r := by
  refine h.invariant (I := SessionInv) ?_ ?_
  · intro r hstart
    obtain ⟨db, rfl⟩ := hstart
    exact sessionInv_start db
  · intro r op r' ih _ hs
    exact sessionInv_step ih hs

/-- `HandleAuthenticateUser` on valid credentials, when neither side has a session. -/
theorem handleAuthenticateUser_of_valid {s : ServerState} {c : Nat}
    {m : AuthenticateUserRequestMessage} {user : User}
    (hmatch : s.db.matchUserCredentials m.name m.password = some user)
    (hfree : ∀ u, (c, u) ∉ s.users.userSessions)
    (huser : ∀ c', (c', user.id) ∉ s.users.userSessions) :
    .send c (.authenticateUserResponse ⟨m.requestId, user⟩) ∈ (s.handleAuthenticateUser c m).2 := by
  have hnot : ¬ s.users.hasSession c = true := by
    rw [ServerState.hasSession_iff]
    exact fun ⟨u, hu⟩ => hfree u hu
  have hnot' : ¬ s.users.hasUserSession user.id = true := by
    rw [ServerState.hasUserSession_iff]
    exact fun ⟨c', hc'⟩ => huser c' hc'
  unfold ServerState.handleAuthenticateUser
  rw [if_neg hnot, hmatch]
  simp only [if_neg hnot']
  exact List.mem_cons_self

/-- The only call that authenticates is the one of an accepted `AuthenticateUserRequest`. -/
theorem authenticates_handled {s s' : ServerState} {c : Nat} {m : Message} {calls : List Call}
    (hh : Handled s c m s' calls) {c' : Nat} {user : User}
    (hauth : (⟨.handle c m, calls⟩ : Event).Authenticates c' user) :
    c' = c ∧ ∃ request, m = .authenticateUserRequest request ∧
      s.db.matchUserCredentials request.name request.password = some user ∧
      (∀ u, (c, u) ∉ s.users.userSessions) ∧ ∀ c', (c', user.id) ∉ s.users.userSessions := by
  obtain ⟨requestId, hmem⟩ := hauth
  cases hh with
  | served hs hquiet => exact absurd rfl (hquiet _ hmem).2.1
  | createdUser hcreate => simp at hmem
  | @authenticated r u hfree hmatch huser =>
    simp only [List.mem_cons, Call.send.injEq, Message.authenticateUserResponse.injEq,
      AuthenticateUserResponseMessage.mk.injEq, reduceCtorEq, List.not_mem_nil, or_false] at hmem
    obtain ⟨rfl, -, rfl⟩ := hmem
    exact ⟨rfl, r, rfl, hmatch, hfree, huser⟩
  | joined hs hsession hchannel hquiet =>
    rcases List.mem_append.mp hmem with hmem | hmem
    · exact absurd rfl (hquiet _ hmem).2.1
    · simp at hmem
  | loggedOut hs hsession => simp at hmem
  | createdChannel hs hcreate => simp at hmem
  | read => simp at hmem
  | wrote hs hsession hassigned => simp at hmem

/-- A message that neither authenticates nor logs out leaves the sessions as they are. -/
theorem userSessions_handled {s s' : ServerState} {c : Nat} {m : Message} {calls : List Call}
    (hh : Handled s c m s' calls)
    (hno : ∀ user, ¬ (⟨.handle c m, calls⟩ : Event).Authenticates c user)
    (hlogout : ∀ request, m ≠ .logoutRequest request) :
    s'.users.userSessions = s.users.userSessions := by
  cases hh with
  | served hs _ => exact hs.sessions
  | createdUser _ => rfl
  | @authenticated r user _ _ _ => exact absurd ⟨r.requestId, List.mem_cons_self⟩ (hno user)
  | joined hs _ _ _ => exact hs.sessions
  | @loggedOut r _ _ _ _ => exact absurd rfl (hlogout r)
  | createdChannel hs _ => exact hs.sessions
  | read => rfl
  | wrote hs _ _ => exact hs.sessions

/-- When a step authenticates: exactly on the registered name and password, without a session
on either side. -/
theorem SessionInv.authenticates_iff {r r' : ServerRun} {op : ServerOp} (h : SessionInv r)
    (hs : r.step op = some r') {calls : List Call}
    (htrace : r'.trace = r.trace ++ [⟨op, calls⟩]) (c : Nat) (user : User) :
    (⟨op, calls⟩ : Event).Authenticates c user
      ↔ ∃ request, op = .handle c (.authenticateUserRequest request) ∧
        user.name = request.name ∧
        r.Registered ⟨user.id, request.name, request.password⟩ ∧
        (∀ u, (c, u) ∉ r.server.users.userSessions) ∧
        ∀ c', (c', user.id) ∉ r.server.users.userSessions := by
  constructor
  · intro hauth
    -- Of the four kinds of steps only a handled message can send the response.
    rcases step_cases hs with ⟨rfl, rfl⟩ | ⟨c1, m, rfl, -, rfl⟩ | ⟨c1, rfl, -, rfl⟩ |
      ⟨db, messages, persist, rfl, hstep, rfl⟩
    · have hcalls : calls = [] := calls_of_record htrace
      subst hcalls
      simp [Event.Authenticates] at hauth
    · have hcalls : calls = (r.server.handle c1 m).2 := calls_of_record htrace
      rw [hcalls] at hauth
      obtain ⟨rfl, request, rfl, hmatch, hfree, huser⟩ :=
        authenticates_handled (ServerState.handled_handle h.consistent c1 m) hauth
      obtain ⟨hname, hrow⟩ := Database.matchUserCredentials_eq_some.mp hmatch
      exact ⟨request, rfl, hname, (h.users _).mp hrow, hfree, huser⟩
    · have hcalls : calls = ((r.server.removeConnection c1).removeSession c1).2 :=
        calls_of_record htrace
      obtain ⟨-, -, -, -, -, hquiet⟩ :=
        ServerState.removeSession_spec (consistent_removeConnection h.consistent c1) c1
      rw [← hcalls] at hquiet
      exact absurd hauth (Event.not_authenticates_of_quiet hquiet c user)
    · have hcalls : calls = [] := calls_of_record htrace
      subst hcalls
      simp [Event.Authenticates] at hauth
  · intro hvalid
    obtain ⟨request, rfl, hname, hreg, hfree, huser⟩ := hvalid
    obtain ⟨-, rfl⟩ := step_handle hs
    have hcalls : calls = (r.server.handle c (.authenticateUserRequest request)).2 :=
      calls_of_record htrace
    rw [hcalls]
    -- The registered row is in the database, and its name is unique there.
    have hmatch : r.server.db.matchUserCredentials request.name request.password = some user :=
      Database.matchUserCredentials_eq_some.mpr ⟨hname, (h.users _).mpr hreg⟩
    exact ⟨request.requestId, handleAuthenticateUser_of_valid hmatch hfree huser⟩

/-- Sessions are exactly what the authentication history says, in every reachable state. They
are a partial bijection. A pair is a session exactly if a response for it was sent and the
connection has neither logged out nor disconnected since. A response is sent exactly on
registered credentials without a session on either side, and then the session is there.
A message that sends no such response and is no logout leaves the sessions as they are. -/
theorem sessions_follow_history {r : ServerRun} (h : serverRuns.Reachable Lts.anyStep r) :
    (∀ c c' u u', (c, u) ∈ r.server.users.userSessions →
      (c', u') ∈ r.server.users.userSessions → (c = c' ↔ u = u')) ∧
    (∀ c u, (c, u) ∈ r.server.users.userSessions
      ↔ Since (fun e => ∃ user, e.Authenticates c user ∧ user.id = u) (·.EndsSession c)
        r.trace) ∧
    ∀ op r', r.step op = some r' → ∃ calls, r'.trace = r.trace ++ [⟨op, calls⟩] ∧
      (∀ c user, (⟨op, calls⟩ : Event).Authenticates c user
        ↔ ∃ request, op = .handle c (.authenticateUserRequest request) ∧
          user.name = request.name ∧
          r.Registered ⟨user.id, request.name, request.password⟩ ∧
          (∀ u, (c, u) ∉ r.server.users.userSessions) ∧
          ∀ c', (c', user.id) ∉ r.server.users.userSessions) ∧
      (∀ c user, (⟨op, calls⟩ : Event).Authenticates c user →
        (c, user.id) ∈ r'.server.users.userSessions) ∧
      (∀ c m, op = .handle c m → (∀ user, ¬ (⟨op, calls⟩ : Event).Authenticates c user) →
        (∀ request, m ≠ .logoutRequest request) →
        r'.server.users.userSessions = r.server.users.userSessions) := by
  have hinv := sessionInv_reachable h
  refine ⟨fun c c' u u' hm hm' => ⟨fun heq => ?_, fun heq => ?_⟩, hinv.sessions,
    fun op r' hs => ?_⟩
  · subst heq
    exact Bimap.right_eq hm hm'
  · subst heq
    exact Bimap.left_eq hm hm'
  · obtain ⟨-, calls, htrace⟩ := step_trace hs
    refine ⟨calls, htrace, fun c user => hinv.authenticates_iff hs htrace c user,
      fun c user hauth => ?_, fun c m hop hno hlogout => ?_⟩
    · exact (mem_sessions_step hinv.consistent hs htrace c user.id).mpr
        (Or.inl ⟨user, hauth, rfl⟩)
    · subst hop
      obtain ⟨-, rfl⟩ := step_handle hs
      have hcalls : calls = (r.server.handle c m).2 := calls_of_record htrace
      rw [hcalls] at hno
      exact userSessions_handled (ServerState.handled_handle hinv.consistent c m) hno hlogout

/-- A user registers, logs in on connection 1 and is rejected on connection 2. -/
theorem sessions_follow_history_login :
    ∃ r, serverRuns.Reachable Lts.anyStep r ∧ r.trace.length = 5 ∧
      (1, 1) ∈ r.server.users.userSessions ∧
      Since (fun e => ∃ user, e.Authenticates 1 user ∧ user.id = 1) (·.EndsSession 1) r.trace := by
  have hstart : serverRuns.Reachable Lts.anyStep
      { server := ServerState.begin Database.empty, start := Database.empty } :=
    .start ⟨Database.empty, rfl⟩
  obtain ⟨r, hr, hlength, hmem⟩ := hstart.exists_of_exec
    [.connect, .connect, .handle 1 (.createUserRequest ⟨7, "ann", "pw"⟩),
      .handle 1 (.authenticateUserRequest ⟨8, "ann", "pw"⟩),
      .handle 2 (.authenticateUserRequest ⟨9, "ann", "pw"⟩)]
    (fun r => r.trace.length = 5 ∧ (1, 1) ∈ r.server.users.userSessions.pairs) (by decide)
  exact ⟨r, hr, hlength, hmem, ((sessions_follow_history hr).2.1 1 1).mp hmem⟩

end ServerRun

end ChatCore.Server
