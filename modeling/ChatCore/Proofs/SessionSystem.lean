import ChatCore.Client.ClientRun

/-!
# `ChatCore.Proofs.SessionSystem`: what the functions of the client do

`Continues s s' printed made` says that a function prints the chat lines `printed`, makes the calls
`made` and keeps the connection, the user and the channel name. Caches only grow. Nearly all
functions of `SessionSystem` do just this, and each has one lemma that says what it prints and which
calls it makes. The others change one of the three fields first.

The only access to an empty optional is the one of `ProcessChatMessage`, in a callback of
`LoadUsers`: all other functions look at the optionals before they access them.
-/

set_option autoImplicit false

namespace ChatCore.Client

open ChatCore.Api

variable {s s' s'' : SessionSystem}

/-- The access to an optional with a value. -/
@[simp] theorem value_some {α : Type} (a : α) (member : EmptyOptional) :
    value (some a) member = .ok a := rfl

/-- The access to an empty optional. -/
@[simp] theorem value_none {α : Type} (member : EmptyOptional) :
    value (none : Option α) member = .error member := rfl

/-! ### The effect of a function -/

/-- The function prints `printed` and makes the calls `made`. -/
structure Continues (s s' : SessionSystem) (printed : List ChatMessage) (made : List RpcCallback) :
    Prop where
  connectionId : s'.connectionId = s.connectionId
  user : s'.user = s.user
  channelName : s'.model.channelName = s.model.channelName
  channels : ∀ channelId channel, s.store.channelsCache channelId = some channel →
    s'.store.channelsCache channelId = some channel
  shown : s'.shown = s.shown ++ printed
  calls : s'.calls.map PendingCall.callback = s.calls.map PendingCall.callback ++ made

/-- The function has this result. -/
def Runs (s : SessionSystem) (result : Result) (printed : List ChatMessage)
    (made : List RpcCallback) : Prop :=
  ∃ s', result = .ok s' ∧ Continues s s' printed made

namespace Continues

/-- A function that does nothing. -/
theorem refl (s : SessionSystem) : Continues s s [] [] where
  connectionId := rfl
  user := rfl
  channelName := rfl
  channels _ _ h := h
  shown := (List.append_nil _).symm
  calls := (List.append_nil _).symm

/-- Two functions one after the other print and call one after the other. -/
theorem trans {printed printed' : List ChatMessage} {made made' : List RpcCallback}
    (h : Continues s s' printed made) (h' : Continues s' s'' printed' made') :
    Continues s s'' (printed ++ printed') (made ++ made') where
  connectionId := h'.connectionId.trans h.connectionId
  user := h'.user.trans h.user
  channelName := h'.channelName.trans h.channelName
  channels id channel hc := h'.channels id channel (h.channels id channel hc)
  shown := by rw [h'.shown, h.shown, List.append_assoc]
  calls := by rw [h'.calls, h.calls, List.append_assoc]

/-- A function that runs after a step without prints and calls. -/
theorem runs {result : Result} {printed : List ChatMessage} {made : List RpcCallback}
    (h : Continues s s' [] []) (h' : Runs s' result printed made) : Runs s result printed made := by
  obtain ⟨s'', hresult, hcontinues⟩ := h'
  exact ⟨s'', hresult, h.trans hcontinues⟩

end Continues

/-- A function that ends without an error has such a result. -/
theorem Continues.ok {printed : List ChatMessage} {made : List RpcCallback}
    (h : Continues s s' printed made) : Runs s (.ok s') printed made :=
  ⟨s', rfl, h⟩

/-- A line is no chat line and no call. -/
theorem continues_addLine (s : SessionSystem) (line : String) :
    Continues s (s.addLine line) [] [] := by
  refine ⟨rfl, rfl, rfl, fun _ _ h => h, ?_, ?_⟩
  · simp [SessionSystem.addLine]
  · simp [SessionSystem.addLine]

/-- `Call` makes the call and prints nothing. -/
theorem continues_call (s : SessionSystem) (c : Nat) (request : Nat → Message)
    (callback : RpcCallback) : Continues s (s.call c request callback) [] [callback] := by
  refine ⟨rfl, rfl, rfl, fun _ _ h => h, ?_, ?_⟩
  · simp [SessionSystem.call]
  · simp [SessionSystem.call]

/-- `CacheUser` changes the cache of users only. -/
theorem continues_cacheUser (s : SessionSystem) (user : User) :
    Continues s (s.cacheUser user) [] [] := by
  have hchannels : (s.store.cacheUser user).channelsCache = s.store.channelsCache := by
    unfold SessionStore.cacheUser
    split <;> rfl
  refine ⟨rfl, rfl, rfl, fun id channel h => ?_, ?_, ?_⟩
  · show (s.store.cacheUser user).channelsCache id = some channel
    rw [hchannels, h]
  · simp [SessionSystem.cacheUser]
  · simp [SessionSystem.cacheUser]

/-- `try_emplace` keeps the entries that are there. -/
theorem continues_cacheChannel (s : SessionSystem) (channel : ChatChannel) :
    Continues s (s.cacheChannel channel) [] [] := by
  refine ⟨rfl, rfl, rfl, fun id channel' h => ?_, ?_, ?_⟩
  · show (s.store.cacheChannel channel).channelsCache id = some channel'
    unfold SessionStore.cacheChannel
    split
    · exact h
    · rename_i hnone
      have hne : id ≠ channel.id := by
        rintro rfl
        rw [hnone] at h
        cases h
      simp [hne, h]
  · simp [SessionSystem.cacheChannel]
  · simp [SessionSystem.cacheChannel]

/-- The channel that was given to `CacheChannel` has an entry afterwards. -/
theorem cacheChannel_self (s : SessionSystem) (channel : ChatChannel) :
    ∃ cached, (s.cacheChannel channel).store.channelsCache channel.id = some cached := by
  show ∃ cached, (s.store.cacheChannel channel).channelsCache channel.id = some cached
  unfold SessionStore.cacheChannel
  split
  · rename_i cached h
    exact ⟨cached, h⟩
  · exact ⟨channel, by simp⟩

/-- A step that has no prints and no calls, once for each element of a list. -/
theorem continues_foldl {α : Type} {f : SessionSystem → α → SessionSystem}
    (hf : ∀ s a, Continues s (f s a) [] []) (l : List α) (s : SessionSystem) :
    Continues s (l.foldl f s) [] [] := by
  induction l generalizing s with
  | nil => exact .refl s
  | cons a l ih => exact (hf s a).trans (ih (f s a))

/-- A session is valid when there is a connection and a user. -/
theorem validateSession_eq_true :
    s.validateSession = true ↔ ∃ c u, s.connectionId = some c ∧ s.user = some u := by
  simp [SessionSystem.validateSession, Option.isSome_iff_exists]

/-- In a session the connection is there. -/
theorem connectionId_of_valid (h : s.validateSession = true) :
    ∃ c, value s.connectionId .connectionId = .ok c := by
  obtain ⟨c, u, hc, -⟩ := validateSession_eq_true.mp h
  exact ⟨c, by rw [hc, value_some]⟩

/-! ### Callbacks -/

/-- The chat line of a callback of `LoadUser`. -/
def userLines : UserCallback → Option User → List ChatMessage
  | .receiveChat message, some _ => [message]
  | _, _ => []

/-- The chat lines of a callback of `LoadUsers`. -/
def usersLines (s : SessionSystem) : UsersCallback → List ChatMessage
  | .chatLog messages =>
    messages.filter fun message => (s.store.usersCache message.userId).isSome
  | .user userId callback => userLines callback (s.store.usersCache userId)

/-- `ProcessChatMessage` in a session leaves the caches as they are. -/
theorem processChatMessage_ok {self : User} (h : s.user = some self) (user : User)
    (message : ChatMessage) :
    ∃ s', s.processChatMessage user message = .ok s' ∧ Continues s s' [message] [] ∧
      s'.store = s.store := by
  have hshown : Continues s { s with shown := s.shown ++ [message] } [message] [] :=
    ⟨rfl, rfl, rfl, fun _ _ h => h, rfl, (List.append_nil _).symm⟩
  have hvalue : value s.user .user = .ok self := by
    rw [h, value_some]
  unfold SessionSystem.processChatMessage
  rw [hvalue]
  show ∃ s', (if user.id = self.id then _ else _) = Except.ok s' ∧ _
  split
  · exact ⟨_, rfl, hshown.trans (continues_addLine _ _), rfl⟩
  · exact ⟨_, rfl, hshown.trans (continues_addLine _ _), rfl⟩

/-- Without a user `ProcessChatMessage` accesses an empty optional. -/
theorem processChatMessage_error (h : s.user = none) (user : User) (message : ChatMessage) :
    s.processChatMessage user message = .error .user := by
  unfold SessionSystem.processChatMessage
  rw [h, value_none]
  rfl

/-- The callback of `LoadUser` prints its chat line, if it has one, while there is a user. -/
theorem runs_runUserCallback {callback : UserCallback} {user : Option User}
    (h : s.user ≠ none ∨ userLines callback user = []) :
    Runs s (s.runUserCallback callback user) (userLines callback user) [] := by
  cases user with
  | none => cases callback <;> exact (Continues.refl s).ok
  | some user =>
    cases callback with
    | receiveChat message =>
      rcases h with huser | hnil
      · obtain ⟨self, hself⟩ := Option.ne_none_iff_exists'.mp huser
        obtain ⟨s', hok, hcontinues, -⟩ := processChatMessage_ok hself user message
        exact ⟨s', hok, hcontinues⟩
      · cases hnil
    | _ => exact (continues_addLine s _).ok

/-- Without a user a callback that has a chat line to print fails. -/
theorem runUserCallback_error {callback : UserCallback} {user : Option User}
    (huser : s.user = none) (h : userLines callback user ≠ []) :
    s.runUserCallback callback user = .error .user := by
  cases user with
  | none => cases callback <;> exact absurd rfl h
  | some user =>
    cases callback with
    | receiveChat message => exact processChatMessage_error huser user message
    | _ => exact absurd rfl h

/-- The chat log prints the messages whose senders are known, in order. -/
theorem runs_processChatLog {self : User} (huser : s.user = some self)
    (messages : List ChatMessage) :
    Runs s (s.processChatLog messages) (usersLines s (.chatLog messages)) [] := by
  induction messages generalizing s with
  | nil => exact (Continues.refl s).ok
  | cons message messages ih =>
    unfold SessionSystem.processChatLog
    rw [usersLines]
    cases hcached : s.store.usersCache message.userId with
    | none =>
      rw [List.filter_cons_of_neg (by simp [hcached])]
      exact ih huser
    | some user =>
      rw [List.filter_cons_of_pos (by simp [hcached])]
      obtain ⟨s1, hok, hcontinues, hstore⟩ := processChatMessage_ok huser user message
      obtain ⟨s2, hrest, hcontinues'⟩ := ih (hcontinues.user.trans huser)
      refine ⟨s2, ?_, ?_⟩
      · simp only [hok]
        exact hrest
      · have hlines := hcontinues.trans hcontinues'
        rw [usersLines, hstore] at hlines
        exact hlines

/-- Messages of unknown senders are skipped. -/
theorem processChatLog_of_unknown {messages : List ChatMessage}
    (h : usersLines s (.chatLog messages) = []) : s.processChatLog messages = .ok s := by
  rw [usersLines, List.filter_eq_nil_iff] at h
  induction messages with
  | nil => rfl
  | cons message messages ih =>
    have hnone : s.store.usersCache message.userId = none := by
      simpa using h message List.mem_cons_self
    unfold SessionSystem.processChatLog
    rw [hnone]
    exact ih fun m hm => h m (List.mem_cons_of_mem _ hm)

/-- Without a user the first message of a known sender accesses an empty optional. -/
theorem processChatLog_error {messages : List ChatMessage} (huser : s.user = none)
    (h : usersLines s (.chatLog messages) ≠ []) : s.processChatLog messages = .error .user := by
  induction messages with
  | nil => exact absurd rfl h
  | cons message messages ih =>
    unfold SessionSystem.processChatLog
    cases hcached : s.store.usersCache message.userId with
    | none =>
      rw [usersLines, List.filter_cons_of_neg (by simp [hcached])] at h
      exact ih h
    | some user =>
      simp only [processChatMessage_error huser]
      rfl

/-- The callback of `LoadUsers` prints its chat lines, if it has some, while there is a user. -/
theorem runs_runUsersCallback {callback : UsersCallback}
    (h : s.user ≠ none ∨ usersLines s callback = []) :
    Runs s (s.runUsersCallback callback) (usersLines s callback) [] := by
  cases callback with
  | user userId callback => exact runs_runUserCallback h
  | chatLog messages =>
    rcases h with huser | hnil
    · obtain ⟨self, hself⟩ := Option.ne_none_iff_exists'.mp huser
      exact runs_processChatLog hself messages
    · rw [hnil]
      exact ⟨s, processChatLog_of_unknown hnil, .refl s⟩

/-- Without a user it fails when it has one to print. -/
theorem runUsersCallback_error {callback : UsersCallback} (huser : s.user = none)
    (h : usersLines s callback ≠ []) : s.runUsersCallback callback = .error .user := by
  cases callback with
  | user userId callback => exact runUserCallback_error huser h
  | chatLog messages => exact processChatLog_error huser h

/-! ### The functions of the store -/

/-- The callback prints no chat line and is no part of a join. -/
def RpcCallback.Aside : RpcCallback → Prop
  | .gotUsers (.chatLog _) | .gotUsers (.user _ (.receiveChat _)) => False
  | .joined | .gotChats | .gotChannel .joined => False
  | _ => True

/-- The function prints no chat line, and the calls that it makes are no part of a join. -/
def RunsAside (s : SessionSystem) (result : Result) : Prop :=
  ∃ made, (∀ callback ∈ made, callback.Aside) ∧ Runs s result [] made

/-- A function without chat lines and calls stays aside. -/
theorem Continues.runsAside (h : Continues s s' [] []) : RunsAside s (.ok s') :=
  ⟨[], by simp, h.ok⟩

/-- `LoadUser` of a cached user runs the callback at once. -/
theorem runs_loadUser_cached {c u : Nat} {callback : UserCallback} {user : User}
    (hcached : s.store.usersCache u = some user)
    (h : s.user ≠ none ∨ userLines callback (some user) = []) :
    Runs s (s.loadUser c u callback) (userLines callback (some user)) [] := by
  unfold SessionSystem.loadUser
  rw [hcached]
  exact runs_runUserCallback h

/-- `LoadUser` of another user makes a call, and the callback waits for the answer. -/
theorem runs_loadUser_uncached {c u : Nat} {callback : UserCallback}
    (hcached : s.store.usersCache u = none) :
    Runs s (s.loadUser c u callback) [] [.gotUsers (.user u callback)] := by
  unfold SessionSystem.loadUser
  rw [hcached]
  simp only [SessionSystem.loadUsers, List.filter_cons, hcached, Option.isNone_none, if_true,
    List.filter_nil, List.isEmpty_cons]
  exact (continues_call s c _ _).ok

/-- A callback without chat lines stays aside, whether the user is cached or not. -/
theorem runsAside_loadUser {callback : UserCallback} (h : ∀ user, userLines callback user = [])
    (c u : Nat) : RunsAside s (s.loadUser c u callback) := by
  cases hcached : s.store.usersCache u with
  | some user =>
    have hruns := runs_loadUser_cached (c := c) hcached (.inr (h (some user)))
    rw [h] at hruns
    exact ⟨[], by simp, hruns⟩
  | none =>
    refine ⟨_, fun made hmade => ?_, runs_loadUser_uncached hcached⟩
    rw [List.mem_singleton.mp hmade]
    cases callback with
    | receiveChat message => exact absurd (h (some default)) (by simp [userLines])
    | _ => trivial

/-- `LoadUsers` prints at once, or it makes one call. -/
theorem loadUsers_cases (s : SessionSystem) (c : Nat) (userIds : List Nat)
    (callback : UsersCallback) :
    s.loadUsers c userIds callback = s.runUsersCallback callback ∨
      Runs s (s.loadUsers c userIds callback) [] [.gotUsers callback] := by
  simp only [SessionSystem.loadUsers]
  split
  · exact .inl rfl
  · exact .inr (continues_call s c _ _).ok

/-- `LoadLatestChatLog` asks for the history in a session. -/
theorem runs_loadLatestChatLog_valid (h : s.validateSession = true) (channelId : Nat) :
    Runs s (s.loadLatestChatLog channelId) [] [.gotChats] := by
  obtain ⟨c, hvalue⟩ := connectionId_of_valid h
  unfold SessionSystem.loadLatestChatLog
  rw [h, hvalue]
  exact (continues_call s c _ _).ok

/-- Outside of a session it does nothing. -/
theorem loadLatestChatLog_invalid (h : s.validateSession = false) (channelId : Nat) :
    s.loadLatestChatLog channelId = .ok s := by
  unfold SessionSystem.loadLatestChatLog
  rw [h]
  rfl

/-- The lines about members that join or leave are no chat lines. -/
theorem runsAside_memberChanged {callback : UserCallback}
    (h : ∀ user, userLines callback user = []) (userId : Nat) :
    RunsAside s (s.memberChanged userId callback) := by
  unfold SessionSystem.memberChanged
  cases hvalid : s.validateSession with
  | false => exact (Continues.refl s).runsAside
  | true =>
    obtain ⟨c, hvalue⟩ := connectionId_of_valid hvalid
    rw [hvalue]
    exact runsAside_loadUser h c userId

/-- The lambda of `JoinChannel` for the channel sets the name first. -/
theorem runs_runChannelCallback_joined (s : SessionSystem) (channel : ChatChannel) :
    ∃ made, (made = if s.validateSession then [.gotChats] else []) ∧
      Runs (s.setChannelName (some channel.name)) (s.runChannelCallback channel .joined) [] made := by
  have hcontinues : Continues (s.setChannelName (some channel.name))
      ((s.addLine ("[Client] Joined channel: " ++ channel.name)).setChannelName
        (some channel.name)) [] [] :=
    continues_addLine (s.setChannelName (some channel.name)) _
  refine ⟨_, rfl, hcontinues.runs ?_⟩
  -- Neither the line nor the name changes whether the session is valid.
  have hsame : ((s.addLine ("[Client] Joined channel: " ++ channel.name)).setChannelName
      (some channel.name)).validateSession = s.validateSession := rfl
  show Runs _ (SessionSystem.loadLatestChatLog _ channel.id) _ _
  cases hvalid : s.validateSession with
  | false =>
    rw [loadLatestChatLog_invalid (hsame.trans hvalid)]
    exact (Continues.refl _).ok
  | true => exact runs_loadLatestChatLog_valid (hsame.trans hvalid) channel.id

/-- The callbacks of `LoadChannel` other than that of a join stay aside. -/
theorem runsAside_runChannelCallback {callback : ChannelCallback} (h : callback ≠ .joined)
    (channel : ChatChannel) : RunsAside s (s.runChannelCallback channel callback) := by
  cases callback with
  | joined => exact absurd rfl h
  | memberJoined userId =>
    refine runsAside_memberChanged (fun user => ?_) userId
    cases user <;> rfl
  | memberLeft userId =>
    refine runsAside_memberChanged (fun user => ?_) userId
    cases user <;> rfl

/-- `LoadChannel` of a channel that is not cached makes a call. -/
theorem runs_loadChannel_uncached {channelId : Nat} (hcached : s.store.channelsCache channelId = none)
    (c : Nat) (callback : ChannelCallback) :
    Runs s (s.loadChannel c channelId callback) [] [.gotChannel callback] := by
  unfold SessionSystem.loadChannel
  rw [hcached]
  exact (continues_call s c _ _).ok

/-- `LoadChannel` for another purpose than a join stays aside. -/
theorem runsAside_loadChannel {callback : ChannelCallback} (h : callback ≠ .joined)
    (c channelId : Nat) : RunsAside s (s.loadChannel c channelId callback) := by
  cases hcached : s.store.channelsCache channelId with
  | none =>
    refine ⟨_, fun made hmade => ?_, runs_loadChannel_uncached hcached c callback⟩
    rw [List.mem_singleton.mp hmade]
    cases callback with
    | joined => exact absurd rfl h
    | _ => trivial
  | some channel =>
    unfold SessionSystem.loadChannel
    rw [hcached]
    exact runsAside_runChannelCallback h channel

/-! ### Responses -/

/-- The history is dropped outside of a session. -/
theorem gotChats_invalid (h : s.validateSession = false) (response : GetChatsResponseMessage) :
    s.gotChats response = .ok s := by
  unfold SessionSystem.gotChats
  rw [h]
  rfl

/-- The history is printed at once, or after a user lookup. -/
theorem runs_gotChats (h : s.validateSession = true) (response : GetChatsResponseMessage) :
    Runs s (s.gotChats response) (usersLines s (.chatLog response.messages)) [] ∨
      Runs s (s.gotChats response) [] [.gotUsers (.chatLog response.messages)] := by
  obtain ⟨c, hvalue⟩ := connectionId_of_valid h
  obtain ⟨-, u, -, hu⟩ := validateSession_eq_true.mp h
  unfold SessionSystem.gotChats
  rw [h, hvalue]
  rcases loadUsers_cases s c _ (.chatLog response.messages) with hload | hload
  · refine .inl ?_
    show Runs s (s.loadUsers c _ _) _ _
    rw [hload]
    exact runs_runUsersCallback (.inl (by simp [hu]))
  · exact .inr hload

/-- The users of the answer are cached, and then the callback runs as `runs_runUsersCallback` says.
-/
theorem runs_gotUsers {response : GetUsersResponseMessage} {callback : UsersCallback}
    (h : s.user ≠ none ∨
      usersLines (response.users.foldl SessionSystem.cacheUser s) callback = []) :
    Runs s (s.gotUsers response callback)
      (usersLines (response.users.foldl SessionSystem.cacheUser s) callback) [] := by
  have hcache := continues_foldl continues_cacheUser response.users s
  refine hcache.runs (runs_runUsersCallback (h.imp_left fun huser => ?_))
  rw [hcache.user]
  exact huser

/-- Without a user the answer to a lookup fails when its callback has a chat line to print. -/
theorem gotUsers_error {response : GetUsersResponseMessage} {callback : UsersCallback}
    (huser : s.user = none)
    (h : usersLines (response.users.foldl SessionSystem.cacheUser s) callback ≠ []) :
    s.gotUsers response callback = .error .user := by
  have hcache := continues_foldl continues_cacheUser response.users s
  exact runUsersCallback_error (hcache.user.trans huser) h

/-- A lookup brings a channel with which a join goes on. -/
theorem runs_gotChannel_joined (s : SessionSystem) (response : GetChatChannelResponseMessage) :
    ∃ channel made, (made = if s.validateSession then [.gotChats] else []) ∧
      (s.cacheChannel response.channel).store.channelsCache response.channel.id = some channel ∧
      Runs ((s.cacheChannel response.channel).setChannelName (some channel.name))
        (s.gotChannel response .joined) [] made := by
  obtain ⟨channel, hchannel⟩ := cacheChannel_self s response.channel
  obtain ⟨made, hmade, hruns⟩ :=
    runs_runChannelCallback_joined (s.cacheChannel response.channel) channel
  refine ⟨channel, made, hmade, hchannel, ?_⟩
  show Runs _ ((s.cacheChannel response.channel).runChannelCallback
    (((s.cacheChannel response.channel).store.channelsCache response.channel.id).getD
      response.channel) .joined) _ _
  rw [hchannel]
  exact hruns

/-- The answer to a lookup of a channel stays aside unless the lookup belongs to a join. -/
theorem runsAside_gotChannel {callback : ChannelCallback} (h : callback ≠ .joined)
    (response : GetChatChannelResponseMessage) : RunsAside s (s.gotChannel response callback) := by
  obtain ⟨made, haside, hruns⟩ := runsAside_runChannelCallback (s := s.cacheChannel response.channel) h
    (((s.cacheChannel response.channel).store.channelsCache response.channel.id).getD
      response.channel)
  exact ⟨made, haside, (continues_cacheChannel s response.channel).runs hruns⟩

/-- The answer to a join is dropped outside of a session. -/
theorem joined_invalid (h : s.validateSession = false) (response : JoinChatChannelResponseMessage) :
    s.joined response = .ok s := by
  unfold SessionSystem.joined
  rw [h]
  rfl

/-- A join of a channel that is not cached goes on with a lookup of the channel. -/
theorem runs_joined_uncached (h : s.validateSession = true)
    {response : JoinChatChannelResponseMessage}
    (hcached : s.store.channelsCache response.channelId = none) :
    Runs s (s.joined response) [] [.gotChannel .joined] := by
  obtain ⟨c, hvalue⟩ := connectionId_of_valid h
  unfold SessionSystem.joined
  rw [h, hvalue]
  exact runs_loadChannel_uncached hcached c .joined

/-- A join of a cached channel sets the channel name and asks for the history. -/
theorem runs_joined_cached (h : s.validateSession = true)
    {response : JoinChatChannelResponseMessage} {channel : ChatChannel}
    (hcached : s.store.channelsCache response.channelId = some channel) :
    Runs (s.setChannelName (some channel.name)) (s.joined response) [] [.gotChats] := by
  obtain ⟨c, hvalue⟩ := connectionId_of_valid h
  obtain ⟨made, hmade, hruns⟩ := runs_runChannelCallback_joined s channel
  rw [h, if_pos rfl] at hmade
  subst hmade
  unfold SessionSystem.joined
  rw [h, hvalue]
  show Runs _ (s.loadChannel c response.channelId .joined) _ _
  unfold SessionSystem.loadChannel
  rw [hcached]
  exact hruns

/-- The answer to a login sets the user, and prints no chat line. -/
theorem runs_authenticated (s : SessionSystem) (response : AuthenticateUserResponseMessage) :
    Runs { s with user := some response.user } (s.authenticated response) [] [] := by
  have hcache : Continues { s with user := some response.user }
      { s.cacheUser response.user with user := some response.user } [] [] :=
    continues_cacheUser { s with user := some response.user } response.user
  exact (hcache.trans (continues_addLine _ _)).ok

/-- The answer to `AddUser` prints a line and caches the user. -/
theorem continues_createdUser (s : SessionSystem) (response : CreateUserResponseMessage) :
    Continues s (s.createdUser response) [] [] :=
  (continues_cacheUser s response.user).trans (continues_addLine _ _)

/-- The answer to `CreateChannel` prints a line and caches the channel. -/
theorem continues_createdChannel (s : SessionSystem) (response : CreateChannelResponseMessage) :
    Continues s (s.createdChannel response) [] [] :=
  (continues_cacheChannel s response.channel).trans (continues_addLine _ _)

/-- The answer to `GetChannels` prints a line and caches the channels. -/
theorem continues_gotChannels (s : SessionSystem) (response : GetChatChannelsResponseMessage) :
    Continues s (s.gotChannels response) [] [] :=
  (continues_foldl continues_cacheChannel response.channels s).trans (continues_addLine _ _)

/-! ### Events -/

/-- The answered call is one of `calls_`, and the message answers it. -/
theorem answered_eq_some {c : Nat} {message : Message} {call : PendingCall}
    (h : s.answered c message = some call) : call ∈ s.calls ∧ call.AnsweredBy c message :=
  ⟨List.mem_of_find?_eq_some h, by simpa using List.find?_some h⟩

/-- Only answers are taken by a call. -/
theorem answered_eq_none {message : Message} (h : message.type.isRpcAnswer = false) (c : Nat) :
    s.answered c message = none := by
  cases hanswered : s.answered c message with
  | none => rfl
  | some call =>
    obtain ⟨-, -, -, htype⟩ := answered_eq_some hanswered
    have hanswer : message.type.isRpcAnswer = true :=
      MessageType.isRpcAnswer_iff.mpr ⟨_, htype⟩
    rw [hanswer] at h
    cases h

/-- An event about another user stays aside when its handler does. -/
theorem runsAside_handleUserEvent {handler : SessionSystem → Nat → Result}
    (h : ∀ c, RunsAside s (handler s c)) (userId : Nat) :
    RunsAside s (s.handleUserEvent userId handler) := by
  unfold SessionSystem.handleUserEvent
  cases hvalid : s.validateSession with
  | false => exact (Continues.refl s).runsAside
  | true =>
    obtain ⟨c, hvalue⟩ := connectionId_of_valid hvalid
    obtain ⟨-, self, -, hself⟩ := validateSession_eq_true.mp hvalid
    rw [hself, hvalue]
    show RunsAside s (if self.id = userId then _ else _)
    split
    · exact (Continues.refl s).runsAside
    · exact h c

/-- A message that is neither a chat message nor an answer. -/
theorem runsAside_receive {message : Message} (hchat : message.type ≠ .receiveChat)
    (hanswer : message.type.isRpcAnswer = false) (c id : Nat) :
    RunsAside s (s.receive c id message) := by
  have hsilent : s.handleAnswer c message = .ok s := by
    unfold SessionSystem.handleAnswer
    rw [answered_eq_none hanswer]
  cases message with
  | receiveChat m => exact absurd rfl hchat
  | print m =>
    show RunsAside s (.ok (if s.connectionId.isNone then s else _))
    split
    · exact (Continues.refl s).runsAside
    · exact (continues_addLine s _).runsAside
  | error m => exact (Continues.refl s).runsAside
  | userLoginEvent m =>
    show RunsAside s (s.handleUserLoginEvent m)
    unfold SessionSystem.handleUserLoginEvent
    refine runsAside_handleUserEvent (fun c => ?_) _
    exact runsAside_loadUser (fun user => by cases user <;> rfl) c _
  | userLogoutEvent m =>
    show RunsAside s (s.handleUserLogoutEvent m)
    unfold SessionSystem.handleUserLogoutEvent
    refine runsAside_handleUserEvent (fun c => ?_) _
    exact runsAside_loadUser (fun user => by cases user <;> rfl) c _
  | channelCreateEvent m =>
    show RunsAside s (s.handleChannelCreateEvent m)
    unfold SessionSystem.handleChannelCreateEvent
    refine runsAside_handleUserEvent (fun c => ?_) _
    have hlines : ∀ user, userLines (.channelCreated m.channel) user = [] := by
      intro user
      cases user <;> rfl
    obtain ⟨made, haside, hruns⟩ :=
      runsAside_loadUser (s := s.cacheChannel m.channel) hlines c m.userId
    exact ⟨made, haside, (continues_cacheChannel s m.channel).runs hruns⟩
  | channelJoinEvent m =>
    show RunsAside s (s.handleChannelJoinEvent m)
    unfold SessionSystem.handleChannelJoinEvent
    refine runsAside_handleUserEvent (fun c => ?_) _
    exact runsAside_loadChannel (by simp) c _
  | channelLeaveEvent m =>
    show RunsAside s (s.handleChannelLeaveEvent m)
    unfold SessionSystem.handleChannelLeaveEvent
    refine runsAside_handleUserEvent (fun c => ?_) _
    exact runsAside_loadChannel (by simp) c _
  | _ =>
    show RunsAside s (s.handleAnswer c _)
    rw [hsilent]
    exact (Continues.refl s).runsAside

/-- A chat message is printed at once when its sender is known, and otherwise after a lookup. -/
theorem runs_receiveChat (h : s.validateSession = true) (c id : Nat) (m : ReceiveChatMessage) :
    (∃ user, s.store.usersCache m.userId = some user ∧
      Runs s (s.receive c id (.receiveChat m)) [⟨id, m.channelId, m.userId, m.content⟩] []) ∨
    s.store.usersCache m.userId = none ∧ Runs s (s.receive c id (.receiveChat m)) []
      [.gotUsers (.user m.userId (.receiveChat ⟨id, m.channelId, m.userId, m.content⟩))] := by
  obtain ⟨current, hvalue⟩ := connectionId_of_valid h
  obtain ⟨-, self, -, hself⟩ := validateSession_eq_true.mp h
  have hreceive : s.receive c id (.receiveChat m) = s.loadUser current m.userId
      (.receiveChat ⟨id, m.channelId, m.userId, m.content⟩) := by
    show s.handleReceiveChatEvent m id = _
    unfold SessionSystem.handleReceiveChatEvent
    rw [h, hvalue]
    rfl
  rw [hreceive]
  cases hcached : s.store.usersCache m.userId with
  | some user => exact .inl ⟨user, rfl, runs_loadUser_cached hcached (.inl (by simp [hself]))⟩
  | none => exact .inr ⟨rfl, runs_loadUser_uncached hcached⟩

/-- A chat event outside of a session is dropped. -/
theorem receiveChat_invalid (h : s.validateSession = false) (c id : Nat) (m : ReceiveChatMessage) :
    s.receive c id (.receiveChat m) = .ok s := by
  show s.handleReceiveChatEvent m id = _
  unfold SessionSystem.handleReceiveChatEvent
  rw [h]
  rfl

end ChatCore.Client
