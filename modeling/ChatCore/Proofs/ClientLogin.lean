import ChatCore.Proofs.ClientRun

/-!
# `ChatCore.Proofs.ClientLogin`: the login and the channel prompt of the client

`connection_id_`, `user_` and the channel name are written by different handlers, and none of them
looks at the connection or at the login that it is about. `LoginInTurn` and `PromptInTurn` say when
this does no harm. Both invariants follow from `Performed`, one case for each kind of step.
-/

set_option autoImplicit false

namespace ChatCore.Client

open ChatCore.Api
open ChatCore.Lib

namespace ClientRun

variable {r r' : ClientRun} {op : ClientOp} {s' : SessionSystem}

/-! ### Messages by their kind -/

/-- The accepted user is that of an `AuthenticateUserResponse`. -/
theorem acceptedUser_eq_some {s : SessionSystem} {c : Nat} {message : Message} {user : User}
    (h : acceptedUser s c message = some user) :
    ∃ requestId, message = .authenticateUserResponse ⟨requestId, user⟩ := by
  unfold acceptedUser at h
  split at h
  · rename_i response _ _
    obtain rfl := Option.some.inj h
    exact ⟨response.requestId, rfl⟩
  · cases h

/-- The reply to a join is no response to a login. -/
theorem acceptedUser_of_join {s : SessionSystem} {c : Nat} {message : Message}
    {join : Nat × PendingCall} (h : acceptedJoin s c message = some join) :
    acceptedUser s c message = none := by
  unfold acceptedJoin at h
  split at h
  · rfl
  · cases h

/-- The answer to a channel lookup is neither. -/
theorem accepted_of_continued {s : SessionSystem} {c channelId : Nat} {message : Message}
    (h : continuedJoin s c message = some channelId) :
    acceptedUser s c message = none ∧ acceptedJoin s c message = none := by
  unfold continuedJoin at h
  split at h
  · exact ⟨rfl, rfl⟩
  · cases h

/-- A step fails with the answer to a user lookup. -/
theorem receive_of_not_inSession (h : ¬ r.ChatLinesInSession op) :
    ∃ c id m, op = .receive c id (.getUsersResponse m) := by
  cases op with
  | receive c id message =>
    cases message with
    | getUsersResponse m => exact ⟨c, id, m, rfl⟩
    | _ => exact absurd (fun hprints => nomatch hprints) h
  | _ => exact absurd trivial h

/-! ### The login -/

/-- A step that ends no login keeps the justification of a connection and a user that stay. -/
theorem LoginJustified.of_same (h : r.LoginJustified) (result : Result)
    (hconnection : (r.record op result).system.connectionId = r.system.connectionId)
    (huser : (r.record op result).system.user = r.system.user)
    (hlogout : op = .logout → r.system.validateSession = false)
    (hdisconnected : ∀ c, op ≠ .disconnected c) : (r.record op result).LoginJustified := by
  intro c u hc hu
  rw [hconnection] at hc
  rw [huser] at hu
  refine since_append_singleton.mpr (.inr ⟨h c u hc hu, ?_⟩)
  rintro (hends | hends)
  · have hvalid := validateSession_eq_true.mpr ⟨c, u, hc, hu⟩
    rw [hlogout hends] at hvalid
    cases hvalid
  · exact hdisconnected c hends

/-- Every step in turn keeps the login justified. -/
theorem loginJustified_step (h : r.LoginJustified) (hturn : r.LoginInTurn op)
    (hs : r.step op = some r') : r'.LoginJustified := by
  obtain ⟨-, -, ⟨s', -, hperformed, rfl⟩ | ⟨hnot, rfl⟩⟩ := step_cases hs
  -- The first three kinds of steps leave one of the two optionals empty, or it was empty before.
  · cases hperformed with
    | connected =>
      intro c u _ hu
      exact absurd (Eq.trans hu.symm hturn) (by simp)
    | disconnected c =>
      intro c' u hc' _
      cases hc'
    | loggedOut _ hkeeps =>
      intro c u _ hu
      cases hkeeps.user.symm.trans hu
    | @authenticated c id message user s' haccepted hkeeps =>
      intro c' u hc' hu
      obtain rfl : user = u := Option.some.inj (hkeeps.user.symm.trans hu)
      have hcurrent : r.system.connectionId = some c' := hkeeps.connectionId.symm.trans hc'
      refine since_append_singleton.mpr ?_
      -- The response itself is the justification, or there is one already.
      rcases hturn user haccepted c' hcurrent with rfl | hsame
      · obtain ⟨requestId, rfl⟩ := acceptedUser_eq_some haccepted
        exact .inl ⟨id, requestId, rfl⟩
      · refine .inr ⟨h c' user hcurrent hsame, ?_⟩
        rintro (hends | hends) <;> cases hends
    | joined _ _ _ hkeeps =>
      exact h.of_same _ hkeeps.connectionId hkeeps.user (fun heq => nomatch heq)
        fun _ heq => nomatch heq
    | continued _ _ hkeeps =>
      exact h.of_same _ hkeeps.connectionId hkeeps.user (fun heq => nomatch heq)
        fun _ heq => nomatch heq
    | kept hunmoved hkeeps =>
      refine h.of_same _ hkeeps.connectionId hkeeps.user ?_ ?_
      · rintro rfl
        exact hunmoved
      · rintro c rfl
        exact hunmoved
  · -- A step that fails leaves the system as it was.
    obtain ⟨c, id, m, rfl⟩ := receive_of_not_inSession hnot
    exact h.of_same _ rfl rfl (fun heq => nomatch heq) fun _ heq => nomatch heq

/-- In a run whose steps are in turn for the login, the client with the connection `c` and the user
`u` has received the response for `u` on `c`, and there was neither a `Logout` nor an
`OnDisconnected(c)` since then. The loss of another connection changes nothing. -/
theorem login_justified (h : clientRuns.Reachable LoginInTurn r) :
    r.LoginJustified ∧ ∀ c r', r.LoginInTurn (.disconnected c) →
      r.step (.disconnected c) = some r' → r.system.connectionId ≠ some c →
      r'.system.connectionId = r.system.connectionId ∧ r'.system.user = r.system.user := by
  refine ⟨?_, fun c r' hturn hs hother => ?_⟩
  · refine h.invariant ?_ fun r op r' ih hturn hs => loginJustified_step ih hturn hs
    rintro r rfl c u hc _
    cases hc
  · simp only [step, Option.ite_none_right_eq_some] at hs
    obtain ⟨-, hs⟩ := hs
    cases hs
    rcases hturn with hcurrent | ⟨hconnection, huser⟩
    · exact absurd hcurrent hother
    · exact ⟨hconnection.symm, huser.symm⟩

/-- The user logs in, loses the connection and logs in on a second one. -/
theorem login_justified_again :
    ∃ r, clientRuns.Reachable LoginInTurn r ∧
      Since (Authenticates 2 ⟨1, "ann"⟩) (EndsLogin 2) r.trace := by
  have hstart : clientRuns.Reachable LoginInTurn {} := .start rfl
  obtain ⟨r, hreach, hc, hu⟩ := hstart.exists_of_exec
    [.connect, .connected, .login "ann" "pw",
      .receive 1 0 (.authenticateUserResponse ⟨1, ⟨1, "ann"⟩⟩), .disconnected 1, .connect,
      .connected, .login "ann" "pw", .receive 2 0 (.authenticateUserResponse ⟨2, ⟨1, "ann"⟩⟩),
      .joinChannel 1]
    (fun r => r.system.connectionId = some 2 ∧ r.system.user = some ⟨1, "ann"⟩)
    (by decide +kernel)
  exact ⟨r, hreach, (login_justified hreach).1 2 ⟨1, "ann"⟩ hc hu⟩

/-- A second connection is established while the user is logged in on the first one. -/
theorem login_unjustified :
    ∃ r, clientRuns.Reachable Lts.anyStep r ∧ r.system.connectionId = some 2 ∧
      r.system.user = some ⟨1, "ann"⟩ ∧ ¬ r.LoginJustified := by
  have hstart : clientRuns.Reachable Lts.anyStep {} := .start rfl
  obtain ⟨r, hreach, hc, hu, htrace⟩ := hstart.exists_of_exec
    [.connect, .connected, .login "ann" "pw",
      .receive 1 0 (.authenticateUserResponse ⟨1, ⟨1, "ann"⟩⟩), .connect, .connected]
    (fun r => r.system.connectionId = some 2 ∧ r.system.user = some ⟨1, "ann"⟩ ∧
      r.trace = [.connect, .connected, .login "ann" "pw",
        .receive 1 0 (.authenticateUserResponse ⟨1, ⟨1, "ann"⟩⟩), .connect, .connected])
    (by decide +kernel)
  refine ⟨r, hreach, hc, hu, fun hjustified => ?_⟩
  obtain ⟨before, op, after, hsplit, ⟨id, requestId, hop⟩, -⟩ := hjustified 2 ⟨1, "ann"⟩ hc hu
  have hmem : op ∈ r.trace := by
    rw [hsplit]
    simp
  rw [htrace, hop] at hmem
  simp at hmem

/-! ### The channel prompt -/

/-- There is no channel name, or the client has a user and the name is that of the joined
channel. -/
theorem promptFollows_iff : r.PromptFollows ↔ r.system.model.channelName = none ∨
    ∃ channelId channel, r.system.user ≠ none ∧ r.joinedChannel = some channelId ∧
      r.system.store.channelsCache channelId = some channel ∧
      r.system.model.channelName = some channel.name := by
  unfold PromptFollows
  cases huser : r.system.user with
  | none => simp
  | some user =>
    cases hname : r.system.model.channelName with
    | none => simp
    | some name => simp [eq_comm]

/-- A step with the same user, name and joined channel. -/
theorem PromptFollows.of_keeps (h : r.PromptFollows) (hkeeps : Keeps r.system r'.system)
    (hjoined : r'.joinedChannel = r.joinedChannel) : r'.PromptFollows := by
  refine promptFollows_iff.mpr ?_
  rw [hkeeps.channelName, hkeeps.user, hjoined]
  refine (promptFollows_iff.mp h).imp_right ?_
  rintro ⟨channelId, channel, huser, hchannel, hcached, hname⟩
  exact ⟨channelId, channel, huser, hchannel, hkeeps.channels _ _ hcached, hname⟩

/-- The joined channel after a message that is neither a response to a login nor a reply to a
join. -/
theorem nextJoined_of_none {c : Nat} {message : Message}
    (huser : acceptedUser r.system c message = none)
    (hjoin : acceptedJoin r.system c message = none) :
    r.nextJoined c message = r.joinedChannel := by
  unfold nextJoined
  rw [huser, hjoin]
  rfl

/-- The joined channel after a reply to a join. -/
theorem nextJoined_of_join {c : Nat} {message : Message} {join : Nat × PendingCall}
    (hjoin : acceptedJoin r.system c message = some join) :
    r.nextJoined c message = if r.OfLogin join.2 then some join.1 else r.joinedChannel := by
  unfold nextJoined
  rw [acceptedUser_of_join hjoin, hjoin]
  rfl

/-- A message that keeps the channel name. Only the reply to a join of this login moves the joined
channel, and then there is no name. -/
theorem promptFollows_kept {c id : Nat} {message : Message} (h : r.PromptFollows)
    (hturn : r.PromptInTurn (.receive c id message))
    (hunmoved : r.Unmoved (.receive c id message)) (hkeeps : Keeps r.system s') :
    (r.record (.receive c id message) (.ok s')).PromptFollows := by
  obtain ⟨huser, hsilent, -⟩ := hunmoved
  cases hjoin : acceptedJoin r.system c message with
  | none => exact h.of_keeps hkeeps (nextJoined_of_none huser hjoin)
  | some join =>
    have hnext := nextJoined_of_join hjoin
    have hin := hturn.2.1 join hjoin
    by_cases hlogin : r.OfLogin join.2
    · -- The joined channel moves before the name does, so there must be no name yet.
      rw [if_pos hlogin] at hin
      refine promptFollows_iff.mpr (.inl (hkeeps.channelName.trans ?_))
      rcases hin with hname | ⟨hvalid, hcached⟩
      · exact hname
      · rcases hsilent join hjoin with hinvalid | huncached
        · rw [hinvalid] at hvalid
          cases hvalid
        · exact absurd huncached hcached
    · rw [if_neg hlogin] at hnext
      exact h.of_keeps hkeeps hnext

/-- Every step in turn keeps the channel prompt. -/
theorem promptFollows_step (h : r.PromptFollows) (hturn : r.PromptInTurn op)
    (hs : r.step op = some r') : r'.PromptFollows := by
  obtain ⟨-, -, ⟨s', -, hperformed, rfl⟩ | ⟨hnot, rfl⟩⟩ := step_cases hs
  · cases hperformed with
    | connected => exact promptFollows_iff.mpr (promptFollows_iff.mp h)
    | disconnected c => exact promptFollows_iff.mpr (.inl rfl)
    | loggedOut _ hkeeps => exact promptFollows_iff.mpr (.inl hkeeps.channelName)
    | authenticated haccepted hkeeps =>
      refine promptFollows_iff.mpr (.inl (hkeeps.channelName.trans (hturn.1 ?_)))
      rw [haccepted]
      simp
    | @joined c id message join channel s' hjoin hvalid hcached hkeeps =>
      obtain ⟨-, u, -, hu⟩ := validateSession_eq_true.mp hvalid
      -- A late reply to a join of an earlier login is in turn only for the joined channel.
      have hnext : r.nextJoined c message = some join.1 := by
        have hin := hturn.2.1 join hjoin
        rw [nextJoined_of_join hjoin]
        by_cases hlogin : r.OfLogin join.2
        · rw [if_pos hlogin]
        · rw [if_neg hlogin] at hin ⊢
          exact hin hvalid (by simp [hcached])
      refine promptFollows_iff.mpr (.inr ⟨join.1, channel, ?_, hnext, hkeeps.channels _ _ hcached,
        hkeeps.channelName⟩)
      show s'.user ≠ none
      rw [hkeeps.user]
      show r.system.user ≠ none
      simp [hu]
    | @continued c id channelId message channel s' hcontinued hcached hkeeps =>
      obtain ⟨huser, hjoined⟩ := hturn.2.2 channelId hcontinued
      obtain ⟨hlogin, hjoin⟩ := accepted_of_continued hcontinued
      have hnext := (nextJoined_of_none hlogin hjoin).trans hjoined
      refine promptFollows_iff.mpr (.inr ⟨channelId, channel, ?_, hnext, hcached,
        hkeeps.channelName⟩)
      show s'.user ≠ none
      rw [hkeeps.user]
      exact huser
    | kept hunmoved hkeeps =>
      cases op with
      | receive c id message => exact promptFollows_kept h hturn hunmoved hkeeps
      | connected => exact hunmoved.elim
      | disconnected c => exact hunmoved.elim
      | _ => exact h.of_keeps hkeeps rfl
  · obtain ⟨c, id, m, rfl⟩ := receive_of_not_inSession hnot
    have hnext : r.nextJoined c (.getUsersResponse m) = r.joinedChannel :=
      nextJoined_of_none rfl rfl
    exact h.of_keeps (.refl _) hnext

/-- In a run whose steps are in turn for the prompt, a client without a user shows no channel name,
and otherwise it shows none or that of the channel of the last successful reply to a join of the
current login. -/
theorem prompt_follows (h : clientRuns.Reachable PromptInTurn r) : r.PromptFollows := by
  refine h.invariant ?_ fun r op r' ih hturn hs => promptFollows_step ih hturn hs
  rintro r rfl
  exact promptFollows_iff.mpr (.inl rfl)

/-- The user joins a channel that the client does not know, and then a second one that it knows. -/
theorem prompt_follows_second :
    ∃ r, clientRuns.Reachable PromptInTurn r ∧ r.system.model.channelName = some "other" ∧
      r.joinedChannel = some 2 ∧ r.PromptFollows := by
  have hstart : clientRuns.Reachable PromptInTurn {} := .start rfl
  obtain ⟨r, hreach, hname, hjoined⟩ := hstart.exists_of_exec
    [.connect, .connected, .login "ann" "pw",
      .receive 1 0 (.authenticateUserResponse ⟨1, ⟨1, "ann"⟩⟩), .joinChannel 1,
      .receive 1 0 (.joinChatChannelResponse ⟨2, 1⟩),
      .receive 1 0 (.getChatChannelResponse ⟨3, ⟨1, "general"⟩⟩),
      .receive 1 0 (.channelCreateEvent ⟨⟨2, "other"⟩, 2⟩), .joinChannel 2,
      .receive 1 0 (.joinChatChannelResponse ⟨6, 2⟩)]
    (fun r => r.system.model.channelName = some "other" ∧ r.joinedChannel = some 2)
    (by decide +kernel)
  exact ⟨r, hreach, hname, hjoined, prompt_follows hreach⟩

/-- The user logs out while the channel of a join is looked up. -/
theorem prompt_without_user :
    ∃ r, clientRuns.Reachable Lts.anyStep r ∧ r.system.user = none ∧
      r.system.model.channelName = some "general" := by
  have hstart : clientRuns.Reachable Lts.anyStep {} := .start rfl
  exact hstart.exists_of_exec
    [.connect, .connected, .login "ann" "pw",
      .receive 1 0 (.authenticateUserResponse ⟨1, ⟨1, "ann"⟩⟩), .joinChannel 1,
      .receive 1 0 (.joinChatChannelResponse ⟨2, 1⟩), .logout,
      .receive 1 0 (.getChatChannelResponse ⟨3, ⟨1, "general"⟩⟩)]
    (fun r => r.system.user = none ∧ r.system.model.channelName = some "general")
    (by decide +kernel)

end ClientRun

end ChatCore.Client
