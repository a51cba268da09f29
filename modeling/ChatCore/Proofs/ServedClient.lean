import ChatCore.Client.ServedClient
import ChatCore.Proofs.ChatService
import ChatCore.Proofs.ClientRun

/-!
# `ChatCore.Proofs.ServedClient`: the client shows what is true at the server

The service never forgets a user, a channel or a message (`Grows`), so what was true stays true.
All that it sends is true when it is sent (`honest_step`), and the client keeps nothing else:
`Informed` says this of the caches, of the callbacks that wait for an answer and of the lines. A
function of the client keeps `Informed` when the messages that it is given are vouched for.

One callback needs more than that. The line about a member that joins or leaves has the name of the
channel that a lookup brings. So the answer to a lookup has to be about the channel that was asked
for: the requests of the client have different ids, and the server answers a request with its id
(`Linked.lookups`).
-/

set_option autoImplicit false

namespace ChatCore.Client

open ChatCore.Api
open ChatCore.Lib
open ChatCore.Server (ChatService Notice ServedOp ServedRun ServiceOp ServerOp UserRow servedRuns)

/-! ### The service -/

/-- Nothing that was true of the service is forgotten. -/
structure Grows (σ σ' : ChatService) : Prop where
  people : people σ ⊆ people σ'
  channels : σ.channels ⊆ σ'.channels
  history : σ.history ⊆ σ'.history

section

variable {σ σ' σ'' : ChatService}

namespace Grows

/-- A service has grown from itself. -/
theorem refl (σ : ChatService) : Grows σ σ := ⟨fun _ h => h, fun _ h => h, fun _ h => h⟩

/-- What grows twice has grown. -/
theorem trans (h : Grows σ σ') (h' : Grows σ' σ'') : Grows σ σ'' :=
  ⟨fun _ hu => h'.people (h.people hu), fun _ hc => h'.channels (h.channels hc),
    fun _ hw => h'.history (h.history hw)⟩

/-- A written message stays written. -/
theorem written (h : Grows σ σ') {userId : Nat} {content : String}
    (hw : Written σ userId content) : Written σ' userId content := by
  obtain ⟨w, hmem, heq⟩ := hw
  exact ⟨w, h.history hmem, heq⟩

/-- What is vouched for stays so. -/
theorem vouched (h : Grows σ σ') {m : Message} (hm : Vouched σ m) : Vouched σ' m := by
  cases m with
  | receiveChat m => exact h.written hm
  | getChatsResponse m => exact fun chat hchat => h.written (hm chat hchat)
  | createUserResponse m => exact h.people hm
  | authenticateUserResponse m => exact h.people hm
  | getUserResponse m => exact h.people hm
  | getUsersResponse m => exact fun user huser => h.people (hm user huser)
  | createChannelResponse m => exact h.channels hm
  | getChatChannelResponse m => exact h.channels hm
  | getChatChannelsResponse m => exact fun channel hchannel => h.channels (hm channel hchannel)
  | channelCreateEvent m => exact h.channels hm
  | _ => exact hm

/-- What the client was told of it has been told of later. -/
theorem told {heard heard' : List Message} (hheard : heard ⊆ heard') {userId : Nat}
    {content : String} (h : Told heard userId content) : Told heard' userId content := by
  rcases h with ⟨m, hm, hmessage⟩ | ⟨m, hm, hpage⟩
  · exact .inl ⟨m, hheard hm, hmessage⟩
  · exact .inr ⟨m, hheard hm, hpage⟩

/-- A line that reports something true does so later. -/
theorem reports (h : Grows σ σ') {heard heard' : List Message} (hheard : heard ⊆ heard')
    {asked asked' : List (Nat × User)} (hasked : asked ⊆ asked') {self : Option User}
    {line : String} (hline : Reports σ heard asked self line) :
    Reports σ' heard' asked' self line := by
  cases hline with
  | own hself hu hw ht => exact .own hself (h.people hu) (h.written hw) (told hheard ht)
  | chat hother hu hw ht => exact .chat hother (h.people hu) (h.written hw) (told hheard ht)
  | loggedInAs hself hu hm => exact .loggedInAs hself (h.people hu) (hheard hm)
  | loggedOutAs hout hu hm => exact .loggedOutAs (hasked hout) (h.people hu) (hheard hm)
  | createdUser hu hm => exact .createdUser (h.people hu) (hheard hm)
  | channels hcs hm => exact .channels (fun c hc => h.channels (hcs c hc)) (hheard hm)
  | createdChannel hc hm => exact .createdChannel (h.channels hc) (hheard hm)
  | joined hc hm => exact .joined (h.channels hc) (hheard hm)
  | loggedOut hu hm => exact .loggedOut (h.people hu) (hheard hm)
  | loggedIn hu hm => exact .loggedIn (h.people hu) (hheard hm)
  | channelCreated hu hc hm => exact .channelCreated (h.people hu) (h.channels hc) (hheard hm)
  | channelJoined hu hc hm => exact .channelJoined (h.people hu) (h.channels hc) (hheard hm)
  | channelLeft hu hc hm => exact .channelLeft (h.people hu) (h.channels hc) (hheard hm)

end Grows

/-- What arrives of a message is as true as the message. -/
theorem vouched_received {m : Message} (h : Vouched σ m) : Vouched σ m.received := by
  cases m with
  | getChatsResponse m =>
    intro chat hchat
    obtain ⟨chat', hchat', rfl⟩ := List.mem_map.mp hchat
    exact h chat' hchat'
  | _ => exact h

/-- A notice is true, and the answer to a channel lookup is about the channel of the request. -/
structure Honest (op : ServiceOp) (σ : ChatService) (notice : Notice) : Prop where
  vouched : Vouched σ notice.message
  lookup : ∀ requestId channel, notice.message = .getChatChannelResponse ⟨requestId, channel⟩ →
    ∀ o ∈ notice.audience, op = .handle o (.getChatChannelRequest ⟨requestId, channel.id⟩)

/-- A step forgets nothing, and its notices are true afterwards. -/
structure HonestStep (op : ServiceOp) (σ : ChatService) (result : ChatService × List Notice) :
    Prop where
  grows : Grows σ result.1
  honest : ∀ notice ∈ result.2, Honest op result.1 notice

namespace HonestStep

variable {op : ServiceOp}

/-- A step that only says what is always true. -/
theorem of_grows {result : ChatService × List Notice} (hgrows : Grows σ result.1)
    (h : ∀ notice ∈ result.2, Vouched result.1 notice.message ∧
      notice.message.type ≠ .getChatChannelResponse) : HonestStep op σ result := by
  refine ⟨hgrows, fun notice hmem => ⟨(h notice hmem).1, fun requestId channel heq => ?_⟩⟩
  exact absurd (congrArg Message.type heq) (h notice hmem).2

/-- An error response changes nothing and is true. -/
theorem reject (c requestId : Nat) (text : String) :
    HonestStep op σ (σ, [ChatService.reject c requestId text]) :=
  of_grows (.refl σ) (by simp [ChatService.reject, ChatService.reply, Vouched, Message.type])

/-- A guarded operation is honest when its error and its body are. -/
theorem authorized {c : Nat} {error : Message} {act : Nat → ChatService × List Notice}
    (herror : Vouched σ error ∧ error.type ≠ .getChatChannelResponse)
    (hact : ∀ u, HonestStep op σ (act u)) : HonestStep op σ (σ.authorized c error act) := by
  unfold ChatService.authorized
  cases σ.userOf c with
  | none => exact of_grows (.refl σ) (by simpa [ChatService.reply] using herror)
  | some u => exact hact u

end HonestStep

/-- A registration adds a user. -/
theorem honest_createUser (c : Nat) (m : CreateUserRequestMessage) :
    HonestStep (.handle c (.createUserRequest m)) σ (σ.createUser c m) := by
  unfold ChatService.createUser
  split
  · exact .reject c m.requestId _
  · refine .of_grows ⟨fun u hu => ?_, fun _ h => h, fun _ h => h⟩ ?_
    · simp only [people, List.map_append]
      exact List.mem_append_left _ hu
    · simp [ChatService.reply, Vouched, people, UserRow.toUser, Message.type]

/-- The answer to `AuthenticateUser` is true. -/
theorem honest_authenticate (c : Nat) (m : AuthenticateUserRequestMessage) :
    HonestStep (.handle c (.authenticateUserRequest m)) σ (σ.authenticate c m) := by
  unfold ChatService.authenticate
  split
  · exact .reject c m.requestId _
  · exact .reject c m.requestId _
  · rename_i row hnone hfind
    split
    · exact .reject c m.requestId _
    · have hrow : row.toUser ∈ people σ := List.mem_map_of_mem (List.mem_of_find?_eq_some hfind)
      refine .of_grows ⟨fun _ h => h, fun _ h => h, fun _ h => h⟩ fun notice hmem => ?_
      simp only [List.mem_cons, List.not_mem_nil, or_false] at hmem
      rcases hmem with rfl | rfl
      · exact ⟨hrow, by simp [ChatService.reply, Message.type]⟩
      · exact ⟨trivial, by simp [ChatService.announce, Message.type]⟩

/-- A message is in the history before it is sent. -/
theorem honest_write {op : ServiceOp} (c u : Nat) (content : String) :
    HonestStep op σ (σ.write c u content) := by
  unfold ChatService.write
  cases σ.channelOf c with
  | none =>
    exact .of_grows (.refl σ) (by simp [ChatService.reply, Vouched, Message.type])
  | some channel =>
    refine .of_grows ⟨fun _ h => h, fun _ h => h, fun w hw => List.mem_append_left _ hw⟩ ?_
    simp [ChatService.tell, Vouched, Written, Message.type]

/-- The answer to `CreateChannel` and its announcement are true. -/
theorem honest_createChannel (c u : Nat) (m : CreateChannelRequestMessage) :
    HonestStep (.handle c (.createChannelRequest m)) σ (σ.createChannel c u m) := by
  unfold ChatService.createChannel
  cases hfind : σ.channels.find? (·.name = m.name) with
  | some channel =>
    have hchannel := List.mem_of_find?_eq_some hfind
    refine .of_grows (.refl σ) ?_
    simpa [ChatService.reply, Vouched, Message.type] using hchannel
  | none =>
    refine .of_grows ⟨fun _ h => h, fun ch hch => List.mem_append_left _ hch, fun _ h => h⟩ ?_
    simp [ChatService.reply, ChatService.announce, Vouched, Message.type]

/-- The answer to a join and its events are true. -/
theorem honest_join {op : ServiceOp} (c u : Nat) (m : JoinChatChannelRequestMessage) :
    HonestStep op σ (σ.join c u m) := by
  unfold ChatService.join
  split
  · refine .of_grows ⟨fun _ h => h, fun _ h => h, fun _ h => h⟩ fun notice hmem => ?_
    rcases List.mem_append.mp hmem with hleave | hrest
    · cases hprevious : σ.channelOf c with
      | none =>
        rw [hprevious] at hleave
        cases hleave
      | some previous =>
        rw [hprevious] at hleave
        obtain rfl := List.mem_singleton.mp hleave
        exact ⟨trivial, by simp [ChatService.tell, Message.type]⟩
    · simp only [List.mem_cons, List.not_mem_nil, or_false] at hrest
      rcases hrest with rfl | rfl
      · exact ⟨trivial, by simp [ChatService.tell, Message.type]⟩
      · exact ⟨trivial, by simp [ChatService.reply, Message.type]⟩
  · exact .reject c m.requestId _

/-- The answer to a channel lookup is for the connection that asked, and about its channel. -/
theorem honest_getChatChannel (c : Nat) (m : GetChatChannelRequestMessage) :
    HonestStep (.handle c (.getChatChannelRequest m)) σ
      (match σ.channels.find? (·.id = m.channelId) with
      | none => (σ, [ChatService.reject c m.requestId "Channel not found."])
      | some channel =>
        (σ, [ChatService.reply c (.getChatChannelResponse ⟨m.requestId, channel⟩)])) := by
  cases hfind : σ.channels.find? (·.id = m.channelId) with
  | none => exact .reject c m.requestId _
  | some channel =>
    have hid : channel.id = m.channelId := by
      simpa using List.find?_some hfind
    refine ⟨.refl σ, fun notice hmem => ?_⟩
    obtain rfl := List.mem_singleton.mp hmem
    refine ⟨List.mem_of_find?_eq_some hfind, fun requestId channel' heq o ho => ?_⟩
    cases heq
    obtain rfl : o = c := ho
    rw [hid]

/-- What the service makes of a message is true. -/
theorem honest_handle (c : Nat) (m : Message) :
    HonestStep (.handle c m) σ (σ.handle c m) := by
  have hnothing : HonestStep (.handle c m) σ (σ, []) := .of_grows (.refl σ) (by simp)
  cases m with
  | createUserRequest m => exact honest_createUser c m
  | authenticateUserRequest m => exact honest_authenticate c m
  | getUsersRequest m =>
    refine .authorized ⟨trivial, by simp [Message.type]⟩ fun u => .of_grows (.refl σ) ?_
    intro notice hmem
    obtain rfl := List.mem_singleton.mp hmem
    refine ⟨fun user huser => ?_, by simp [ChatService.reply, Message.type]⟩
    obtain ⟨id, -, hrow⟩ := List.mem_filterMap.mp huser
    obtain ⟨row, hfind, rfl⟩ := Option.map_eq_some_iff.mp hrow
    exact List.mem_map_of_mem (List.mem_of_find?_eq_some hfind)
  | getUserRequest m =>
    refine .authorized ⟨trivial, by simp [Message.type]⟩ fun u => ?_
    cases hfind : σ.users.find? (·.name = m.name) with
    | none => exact .reject c m.requestId _
    | some row =>
      have hrow : row.toUser ∈ people σ := List.mem_map_of_mem (List.mem_of_find?_eq_some hfind)
      refine .of_grows (.refl σ) ?_
      simpa [ChatService.reply, Vouched, Message.type] using hrow
  | writeChat m =>
    exact .authorized ⟨trivial, by simp [Message.type]⟩ fun u => honest_write c u m.content
  | createChannelRequest m =>
    exact .authorized ⟨trivial, by simp [Message.type]⟩ fun u => honest_createChannel c u m
  | joinChatChannelRequest m =>
    exact .authorized ⟨trivial, by simp [Message.type]⟩ fun u => honest_join c u m
  | getChatsRequest m =>
    refine .authorized ⟨trivial, by simp [Message.type]⟩ fun u => .of_grows (.refl σ) ?_
    intro notice hmem
    obtain rfl := List.mem_singleton.mp hmem
    refine ⟨fun chat hchat => ?_, by simp [ChatService.reply, Message.type]⟩
    -- A page is a part of the history of the channel.
    have hchats : chat ∈ σ.chats m.channelId := List.mem_of_mem_drop hchat
    exact ⟨chat, List.mem_of_mem_filter hchats, rfl, rfl⟩
  | getChatChannelsRequest m =>
    refine .authorized ⟨trivial, by simp [Message.type]⟩ fun u => .of_grows (.refl σ) ?_
    simp [ChatService.reply, Vouched, Message.type]
  | getChatChannelRequest m =>
    exact .authorized ⟨trivial, by simp [Message.type]⟩ fun u => honest_getChatChannel c m
  | shutdown m =>
    refine .authorized ⟨trivial, by simp [Message.type]⟩ fun u => ?_
    exact .of_grows ⟨fun _ h => h, fun _ h => h, fun _ h => h⟩ (by simp)
  | logoutRequest m =>
    refine .authorized ⟨trivial, by simp [Message.type]⟩ fun u => ?_
    refine .of_grows ⟨fun _ h => h, fun _ h => h, fun _ h => h⟩ ?_
    simp [ChatService.reply, ChatService.announce, Vouched, Message.type]
  | _ => exact hnothing

/-- So is what it sends in any other step. -/
theorem honest_step (op : ServiceOp) : HonestStep op σ (σ.step op) := by
  cases op with
  | handle c m => exact honest_handle c m
  | connect =>
    exact .of_grows ⟨fun _ h => h, fun _ h => h, fun _ h => h⟩ (by simp [ChatService.step])
  | restart =>
    exact .of_grows ⟨fun _ h => h, fun _ h => h, fun _ h => h⟩ (by simp [ChatService.step])
  | disconnect c =>
    simp only [ChatService.step, ChatService.disconnect]
    cases σ.userOf c with
    | none => exact .of_grows ⟨fun _ h => h, fun _ h => h, fun _ h => h⟩ (by simp)
    | some u =>
      refine .of_grows ⟨fun _ h => h, fun _ h => h, fun _ h => h⟩ ?_
      simp [ChatService.announce, Vouched, Message.type]

end

/-! ### The client -/

section

variable (σ : ChatService) (heard : List Message) (asked : List (Nat × User))

/-- What a callback of `LoadUser` for the user prints is true. -/
def BackedUser (userId : Nat) : UserCallback → Prop
  | .loggedOut => .userLogoutEvent ⟨userId⟩ ∈ heard
  | .loggedIn => .userLoginEvent ⟨userId⟩ ∈ heard
  | .receiveChat message => message.userId = userId ∧ Written σ userId message.content ∧
      Told heard userId message.content
  | .channelCreated channel =>
    channel ∈ σ.channels ∧ .channelCreateEvent ⟨channel, userId⟩ ∈ heard
  | .channelJoined channelName => ∃ channel ∈ σ.channels, channel.name = channelName ∧
      .channelJoinEvent ⟨channel.id, userId⟩ ∈ heard
  | .channelLeft channelName => ∃ channel ∈ σ.channels, channel.name = channelName ∧
      .channelLeaveEvent ⟨channel.id, userId⟩ ∈ heard

/-- What a callback of `LoadUsers` prints is true. -/
def BackedUsers : UsersCallback → Prop
  | .chatLog messages => ∀ chat ∈ messages, Written σ chat.userId chat.content ∧
      Told heard chat.userId chat.content
  | .user userId callback => BackedUser σ heard userId callback

/-- What a callback of `LoadChannel` for the channel prints is true. -/
def BackedChannel (channelId : Nat) : ChannelCallback → Prop
  | .joined => ∃ requestId, .joinChatChannelResponse ⟨requestId, channelId⟩ ∈ heard
  | .memberJoined userId => .channelJoinEvent ⟨channelId, userId⟩ ∈ heard
  | .memberLeft userId => .channelLeaveEvent ⟨channelId, userId⟩ ∈ heard

/-- What a call prints when it is answered is true. A call of `LoadChannel` has asked for the
channel that its callback is about. -/
def BackedCall (sent : List (Nat × Message)) (requestId : Nat) : RpcCallback → Prop
  | .loggedOut user => user ∈ people σ ∧ (requestId, user) ∈ asked
  | .gotUsers callback => BackedUsers σ heard callback
  | .gotChannel callback => ∃ connectionId channelId,
      (connectionId, .getChatChannelRequest ⟨requestId, channelId⟩) ∈ sent ∧
      BackedChannel heard channelId callback
  | _ => True

/-- The client knows only what is true. Since `s₀` it has taken nothing back that it has sent, and
it has shown only what is true. -/
structure Informed (s₀ s : SessionSystem) : Prop where
  users : ∀ id user, s.store.usersCache id = some user → user.id = id ∧ user ∈ people σ
  channels : ∀ id channel, s.store.channelsCache id = some channel →
    channel.id = id ∧ channel ∈ σ.channels
  user : ∀ user ∈ s.user, user ∈ people σ
  prompt : ∀ name ∈ s.model.channelName, ∃ channel ∈ σ.channels, channel.name = name
  lines : ∃ lines, s.model.lines = s₀.model.lines ++ lines ∧
    ∀ line ∈ lines, Reports σ heard asked s.user line
  calls : ∀ call ∈ s.calls, BackedCall σ heard asked s.sent call.requestId call.callback
  fresh : ∀ p ∈ s.sent, ∀ requestId ∈ p.2.requestId, requestId < s.nextRequestId
  lookups : ∀ c c' requestId channelId channelId',
    (c, .getChatChannelRequest ⟨requestId, channelId⟩) ∈ s.sent →
    (c', .getChatChannelRequest ⟨requestId, channelId'⟩) ∈ s.sent → channelId = channelId'
  sent : s₀.sent ⊆ s.sent

/-- The function ends in a state that knows only what is true, or it fails. -/
def Informs (s₀ : SessionSystem) (result : Result) : Prop :=
  ∀ s', result = .ok s' → Informed σ heard asked s₀ s'

end

section

variable {σ σ' : ChatService} {heard heard' : List Message} {asked asked' : List (Nat × User)}
  {s₀ s : SessionSystem}

namespace Grows

/-- What waits for a user stays backed. -/
theorem backedUser (h : Grows σ σ') (hheard : heard ⊆ heard') {userId : Nat}
    {callback : UserCallback} (hb : BackedUser σ heard userId callback) :
    BackedUser σ' heard' userId callback := by
  cases callback with
  | loggedOut => exact hheard hb
  | loggedIn => exact hheard hb
  | receiveChat message => exact ⟨hb.1, h.written hb.2.1, told hheard hb.2.2⟩
  | channelCreated channel => exact ⟨h.channels hb.1, hheard hb.2⟩
  | channelJoined name =>
    obtain ⟨channel, hchannel, hname, hm⟩ := hb
    exact ⟨channel, h.channels hchannel, hname, hheard hm⟩
  | channelLeft name =>
    obtain ⟨channel, hchannel, hname, hm⟩ := hb
    exact ⟨channel, h.channels hchannel, hname, hheard hm⟩

/-- What waits for users stays backed. -/
theorem backedUsers (h : Grows σ σ') (hheard : heard ⊆ heard') {callback : UsersCallback}
    (hb : BackedUsers σ heard callback) : BackedUsers σ' heard' callback := by
  cases callback with
  | chatLog messages =>
    exact fun chat hchat => ⟨h.written (hb chat hchat).1, told hheard (hb chat hchat).2⟩
  | user userId callback => exact h.backedUser hheard hb

/-- What waits for an answer stays backed. -/
theorem backedCall (h : Grows σ σ') (hheard : heard ⊆ heard') (hasked : asked ⊆ asked')
    {sent sent' : List (Nat × Message)} (hsent : sent ⊆ sent') {requestId : Nat}
    {callback : RpcCallback}
    (hb : BackedCall σ heard asked sent requestId callback) :
    BackedCall σ' heard' asked' sent' requestId callback := by
  cases callback with
  | loggedOut user => exact ⟨h.people hb.1, hasked hb.2⟩
  | gotUsers callback => exact h.backedUsers hheard hb
  | gotChannel callback =>
    obtain ⟨c, channelId, hrequest, hchannel⟩ := hb
    refine ⟨c, channelId, hsent hrequest, ?_⟩
    cases callback with
    | joined =>
      obtain ⟨rid, hm⟩ := hchannel
      exact ⟨rid, hheard hm⟩
    | memberJoined userId => exact hheard hchannel
    | memberLeft userId => exact hheard hchannel
  | _ => trivial

/-- An informed client stays informed while the service grows and more is heard. -/
theorem informed (h : Grows σ σ') (hheard : heard ⊆ heard') (hasked : asked ⊆ asked')
    (hs : Informed σ heard asked s₀ s) :
    Informed σ' heard' asked' s₀ s where
  users id user hu := ⟨(hs.users id user hu).1, h.people (hs.users id user hu).2⟩
  channels id channel hc :=
    ⟨(hs.channels id channel hc).1, h.channels (hs.channels id channel hc).2⟩
  user user hu := h.people (hs.user user hu)
  prompt name hname := by
    obtain ⟨channel, hchannel, heq⟩ := hs.prompt name hname
    exact ⟨channel, h.channels hchannel, heq⟩
  lines := by
    obtain ⟨lines, heq, hlines⟩ := hs.lines
    exact ⟨lines, heq, fun line hline => h.reports hheard hasked (hlines line hline)⟩
  calls call hcall := h.backedCall hheard hasked (fun _ hp => hp) (hs.calls call hcall)
  fresh := hs.fresh
  lookups := hs.lookups
  sent := hs.sent

end Grows

/-! #### The parts of a function -/

/-- A session that has shown nothing. -/
theorem shown_nothing {lines : List String} {self : Option User} (h : lines = s₀.model.lines) :
    ∃ shown, lines = s₀.model.lines ++ shown ∧
      ∀ line ∈ shown, Reports σ heard asked self line :=
  ⟨[], by rw [List.append_nil, h], fun _ hline => absurd hline List.not_mem_nil⟩

/-- What the client knows before the next step. -/
theorem Informed.rest (h : Informed σ heard asked s₀ s) : Informed σ heard asked s s :=
  ⟨h.users, h.channels, h.user, h.prompt, shown_nothing rfl, h.calls, h.fresh, h.lookups,
    fun _ hp => hp⟩

/-- A function that ends in an informed state informs. -/
theorem Informed.ok (h : Informed σ heard asked s₀ s) : Informs σ heard asked s₀ (.ok s) := by
  intro s' heq
  cases heq
  exact h

/-- A function of an optional informs when it does for the value. Without one it ends with an error.
-/
theorem informs_value {α : Type} {optional : Option α} {member : EmptyOptional} {f : α → Result}
    (h : ∀ a, optional = some a → Informs σ heard asked s₀ (f a)) :
    Informs σ heard asked s₀ (value optional member >>= f) := by
  cases optional with
  | none => exact fun s' heq => absurd heq (by simp [value, bind, Except.bind])
  | some a => exact h a rfl

namespace Informed

/-- `AddLine`. -/
theorem addLine (h : Informed σ heard asked s₀ s) {line : String}
    (hline : Reports σ heard asked s.user line) :
    Informed σ heard asked s₀ (s.addLine line) where
  users := h.users
  channels := h.channels
  user := h.user
  prompt := h.prompt
  lines := by
    obtain ⟨lines, heq, hlines⟩ := h.lines
    refine ⟨lines ++ [line], ?_, fun l hl => ?_⟩
    · show s.model.lines ++ [line] = s₀.model.lines ++ (lines ++ [line])
      rw [heq, List.append_assoc]
    · rcases List.mem_append.mp hl with hl | hl
      · exact hlines l hl
      · rw [List.mem_singleton.mp hl]
        exact hline
  calls := h.calls
  fresh := h.fresh
  lookups := h.lookups
  sent := h.sent

/-- `SetChannelName`. -/
theorem setChannelName (h : Informed σ heard asked s₀ s) {channelName : Option String}
    (hname : ∀ name ∈ channelName, ∃ channel ∈ σ.channels, channel.name = name) :
    Informed σ heard asked s₀ (s.setChannelName channelName) :=
  ⟨h.users, h.channels, h.user, hname, h.lines, h.calls, h.fresh, h.lookups, h.sent⟩

/-- `CacheUser`. -/
theorem cacheUser (h : Informed σ heard asked s₀ s) {user : User} (hu : user ∈ people σ) :
    Informed σ heard asked s₀ (s.cacheUser user) := by
  refine ⟨fun id user' hcached => ?_, ?_, h.user, h.prompt, h.lines, h.calls, h.fresh, h.lookups,
    h.sent⟩
  · have hstore : (s.store.cacheUser user).usersCache id = some user' := hcached
    unfold SessionStore.cacheUser at hstore
    split at hstore
    · exact h.users id user' hstore
    · by_cases heq : id = user.id
      · subst heq
        simp only [Function.update_self, Option.some.injEq] at hstore
        subst hstore
        exact ⟨rfl, hu⟩
      · simp only [Function.update_of_ne heq] at hstore
        exact h.users id user' hstore
  · have hchannels : (s.store.cacheUser user).channelsCache = s.store.channelsCache := by
      unfold SessionStore.cacheUser
      split <;> rfl
    intro id channel hcached
    have hstore : (s.store.cacheUser user).channelsCache id = some channel := hcached
    rw [hchannels] at hstore
    exact h.channels id channel hstore

/-- `CacheChannel`. -/
theorem cacheChannel (h : Informed σ heard asked s₀ s) {channel : ChatChannel}
    (hc : channel ∈ σ.channels) : Informed σ heard asked s₀ (s.cacheChannel channel) := by
  refine ⟨?_, fun id channel' hcached => ?_, h.user, h.prompt, h.lines, h.calls, h.fresh,
    h.lookups, h.sent⟩
  · have husers : (s.store.cacheChannel channel).usersCache = s.store.usersCache := by
      unfold SessionStore.cacheChannel
      split <;> rfl
    intro id user hcached
    have hstore : (s.store.cacheChannel channel).usersCache id = some user := hcached
    rw [husers] at hstore
    exact h.users id user hstore
  · have hstore : (s.store.cacheChannel channel).channelsCache id = some channel' := hcached
    unfold SessionStore.cacheChannel at hstore
    split at hstore
    · exact h.channels id channel' hstore
    · by_cases heq : id = channel.id
      · subst heq
        simp only [Function.update_self, Option.some.injEq] at hstore
        subst hstore
        exact ⟨rfl, hc⟩
      · simp only [Function.update_of_ne heq] at hstore
        exact h.channels id channel' hstore

/-- Both caches, once for each entry of a list. -/
theorem foldl {α : Type} {f : SessionSystem → α → SessionSystem} {l : List α}
    (hf : ∀ a ∈ l, ∀ s, Informed σ heard asked s₀ s → Informed σ heard asked s₀ (f s a))
    (h : Informed σ heard asked s₀ s) : Informed σ heard asked s₀ (l.foldl f s) := by
  induction l generalizing s with
  | nil => exact h
  | cons a l ih =>
    exact ih (fun b hb => hf b (List.mem_cons_of_mem _ hb)) (hf a List.mem_cons_self s h)

/-- `Prepare` and `Call`: the request has a new id. -/
theorem call (h : Informed σ heard asked s₀ s) (c : Nat) {request : Nat → Message}
    {callback : RpcCallback}
    (hid : (request s.nextRequestId).requestId = some s.nextRequestId)
    (hb : BackedCall σ heard asked (s.sent ++ [(c, request s.nextRequestId)]) s.nextRequestId
      callback) :
    Informed σ heard asked s₀ (s.call c request callback) where
  users := h.users
  channels := h.channels
  user := h.user
  prompt := h.prompt
  lines := h.lines
  calls call hcall := by
    rcases List.mem_append.mp hcall with hcall | hcall
    · exact (Grows.refl σ).backedCall (fun _ hm => hm) (fun _ hl => hl)
        (fun _ hp => List.mem_append_left _ hp)
        (h.calls call hcall)
    · rw [List.mem_singleton.mp hcall]
      exact hb
  fresh p hp requestId hrequestId := by
    show requestId < s.nextRequestId + 1
    rcases List.mem_append.mp hp with hp | hp
    · exact Nat.lt_succ_of_lt (h.fresh p hp requestId hrequestId)
    · rw [List.mem_singleton.mp hp, hid] at hrequestId
      cases hrequestId
      exact Nat.lt_succ_self _
  lookups c₁ c₂ requestId channelId channelId' h₁ h₂ := by
    -- An older request has a smaller id than the new one.
    have hold : ∀ {c' i}, (c', Message.getChatChannelRequest ⟨s.nextRequestId, i⟩) ∉ s.sent := by
      intro c' i hmem
      exact absurd (h.fresh _ hmem s.nextRequestId rfl) (Nat.lt_irrefl _)
    have hnew : ∀ {c' i j}, (c', Message.getChatChannelRequest ⟨i, j⟩)
        = (c, request s.nextRequestId) → i = s.nextRequestId := by
      intro c' i j heq
      have hrequest := (Prod.mk.inj heq).2
      rw [← hrequest] at hid
      exact Option.some.inj hid
    rcases List.mem_append.mp h₁ with h₁ | h₁ <;> rcases List.mem_append.mp h₂ with h₂ | h₂
    · exact h.lookups c₁ c₂ requestId channelId channelId' h₁ h₂
    · rw [hnew (List.mem_singleton.mp h₂)] at h₁
      exact absurd h₁ hold
    · rw [hnew (List.mem_singleton.mp h₁)] at h₂
      exact absurd h₂ hold
    · have heq := (List.mem_singleton.mp h₁).trans (List.mem_singleton.mp h₂).symm
      cases heq
      rfl
  sent p hp := List.mem_append_left _ (h.sent hp)

/-- `HandleCallback` up to the callback. -/
theorem complete (h : Informed σ heard asked s₀ s) (requestId : Nat) :
    Informed σ heard asked s₀ (s.complete requestId) :=
  ⟨h.users, h.channels, h.user, h.prompt, h.lines,
    fun call hcall => h.calls call (List.mem_of_mem_filter hcall), h.fresh, h.lookups, h.sent⟩

end Informed

namespace Informed

/-! #### Callbacks -/

/-- A chat line names its writer and has a text that was written. -/
theorem processChatMessage (h : Informed σ heard asked s₀ s) {user : User} {message : ChatMessage}
    (hu : user ∈ people σ) (hw : Written σ user.id message.content)
    (ht : Told heard user.id message.content) :
    Informs σ heard asked s₀ (s.processChatMessage user message) := by
  refine informs_value fun self hself => ?_
  have hshown : Informed σ heard asked s₀ { s with shown := s.shown ++ [message] } :=
    ⟨h.users, h.channels, h.user, h.prompt, h.lines, h.calls, h.fresh, h.lookups, h.sent⟩
  show Informs σ heard asked s₀ (if user.id = self.id then _ else _)
  split
  · rename_i hown
    rw [hown] at hw ht
    exact (hshown.addLine (.own hself (h.user self hself) hw ht)).ok
  · rename_i hother
    refine (hshown.addLine (.chat (fun own hmem => ?_) hu hw ht)).ok
    rw [hself] at hmem
    cases hmem
    exact hother

/-- What waited for a user shows the truth about it. -/
theorem runUserCallback (h : Informed σ heard asked s₀ s) {user : User} {callback : UserCallback}
    (hu : user ∈ people σ) (hb : BackedUser σ heard user.id callback) :
    Informs σ heard asked s₀ (s.runUserCallback callback (some user)) := by
  cases callback with
  | loggedOut => exact (h.addLine (.loggedOut hu hb)).ok
  | loggedIn => exact (h.addLine (.loggedIn hu hb)).ok
  | receiveChat message => exact h.processChatMessage hu hb.2.1 hb.2.2
  | channelCreated channel => exact (h.addLine (.channelCreated hu hb.1 hb.2)).ok
  | channelJoined name =>
    obtain ⟨channel, hchannel, rfl, hm⟩ := hb
    exact (h.addLine (.channelJoined hu hchannel hm)).ok
  | channelLeft name =>
    obtain ⟨channel, hchannel, rfl, hm⟩ := hb
    exact (h.addLine (.channelLeft hu hchannel hm)).ok

/-- The users of the lines are those of the cache. -/
theorem processChatLog (h : Informed σ heard asked s₀ s) {messages : List ChatMessage}
    (hw : ∀ chat ∈ messages, Written σ chat.userId chat.content ∧
      Told heard chat.userId chat.content) :
    Informs σ heard asked s₀ (s.processChatLog messages) := by
  induction messages generalizing s with
  | nil => exact h.ok
  | cons message messages ih =>
    have hrest := fun chat hchat => hw chat (List.mem_cons_of_mem message hchat)
    unfold SessionSystem.processChatLog
    cases hcached : s.store.usersCache message.userId with
    | none => exact ih h hrest
    | some user =>
      obtain ⟨hid, hu⟩ := h.users _ _ hcached
      obtain ⟨hmessage, htold⟩ := hw message List.mem_cons_self
      rw [← hid] at hmessage htold
      intro s' heq
      cases hprint : s.processChatMessage user message with
      | error member =>
        simp only [hprint] at heq
        cases heq
      | ok s1 =>
        simp only [hprint] at heq
        exact ih (h.processChatMessage hu hmessage htold s1 hprint) hrest s' heq

/-- What waited for users shows the truth about them. -/
theorem runUsersCallback (h : Informed σ heard asked s₀ s) {callback : UsersCallback}
    (hb : BackedUsers σ heard callback) :
    Informs σ heard asked s₀ (s.runUsersCallback callback) := by
  cases callback with
  | chatLog messages => exact h.processChatLog hb
  | user userId callback =>
    show Informs σ heard asked s₀ (s.runUserCallback callback (s.store.usersCache userId))
    cases hcached : s.store.usersCache userId with
    | none =>
      -- Without a user the callback does nothing.
      cases callback <;> exact h.ok
    | some user =>
      obtain ⟨rfl, hu⟩ := h.users _ _ hcached
      exact h.runUserCallback hu hb

/-- `LoadUsers` looks the users up or shows the truth about them. -/
theorem loadUsers (h : Informed σ heard asked s₀ s) (c : Nat) (userIds : List Nat)
    {callback : UsersCallback} (hb : BackedUsers σ heard callback) :
    Informs σ heard asked s₀ (s.loadUsers c userIds callback) := by
  simp only [SessionSystem.loadUsers]
  split
  · exact h.runUsersCallback hb
  · refine (h.call c rfl ?_).ok
    exact hb

/-- `LoadUser` looks the user up or shows the truth about it. -/
theorem loadUser (h : Informed σ heard asked s₀ s) (c : Nat) {userId : Nat}
    {callback : UserCallback} (hb : BackedUser σ heard userId callback) :
    Informs σ heard asked s₀ (s.loadUser c userId callback) := by
  unfold SessionSystem.loadUser
  cases hcached : s.store.usersCache userId with
  | none => exact h.loadUsers c [userId] hb
  | some user =>
    obtain ⟨rfl, hu⟩ := h.users _ _ hcached
    exact h.runUserCallback hu hb

/-- `LoadLatestChatLog` shows nothing. -/
theorem loadLatestChatLog (h : Informed σ heard asked s₀ s) (channelId : Nat) :
    Informs σ heard asked s₀ (s.loadLatestChatLog channelId) := by
  unfold SessionSystem.loadLatestChatLog
  cases s.validateSession with
  | false => exact h.ok
  | true =>
    refine informs_value fun c _ => (h.call c rfl ?_).ok
    trivial

/-- An event about a member shows the truth about it. -/
theorem memberChanged (h : Informed σ heard asked s₀ s) {userId : Nat} {callback : UserCallback}
    (hb : BackedUser σ heard userId callback) :
    Informs σ heard asked s₀ (s.memberChanged userId callback) := by
  unfold SessionSystem.memberChanged
  cases s.validateSession with
  | false => exact h.ok
  | true => exact informs_value fun c _ => h.loadUser c hb

/-- What waited for a channel shows the truth about it. -/
theorem runChannelCallback (h : Informed σ heard asked s₀ s) {channel : ChatChannel}
    {callback : ChannelCallback} (hc : channel ∈ σ.channels)
    (hb : BackedChannel heard channel.id callback) :
    Informs σ heard asked s₀ (s.runChannelCallback channel callback) := by
  cases callback with
  | joined =>
    obtain ⟨requestId, hm⟩ := hb
    refine loadLatestChatLog (setChannelName (h.addLine (.joined hc hm)) fun name hname => ?_) _
    cases hname
    exact ⟨channel, hc, rfl⟩
  | memberJoined userId => exact h.memberChanged ⟨channel, hc, rfl, hb⟩
  | memberLeft userId => exact h.memberChanged ⟨channel, hc, rfl, hb⟩

/-- `LoadChannel` looks the channel up or shows the truth about it. -/
theorem loadChannel (h : Informed σ heard asked s₀ s) (c : Nat) {channelId : Nat}
    {callback : ChannelCallback} (hb : BackedChannel heard channelId callback) :
    Informs σ heard asked s₀ (s.loadChannel c channelId callback) := by
  unfold SessionSystem.loadChannel
  cases hcached : s.store.channelsCache channelId with
  | none =>
    refine (h.call c rfl ?_).ok
    exact ⟨c, channelId, List.mem_append_right _ List.mem_cons_self, hb⟩
  | some channel =>
    obtain ⟨rfl, hc⟩ := h.channels _ _ hcached
    exact h.runChannelCallback hc hb

/-! #### Answers -/

/-- The history shows messages that were written. -/
theorem gotChats (h : Informed σ heard asked s₀ s) {m : GetChatsResponseMessage}
    (hv : Vouched σ (.getChatsResponse m)) (hm : .getChatsResponse m ∈ heard) :
    Informs σ heard asked s₀ (s.gotChats m) := by
  unfold SessionSystem.gotChats
  cases s.validateSession with
  | false => exact h.ok
  | true =>
    refine informs_value fun c _ => h.loadUsers c _ fun chat hchat => ⟨hv chat hchat, ?_⟩
    exact .inr ⟨m, hm, chat, hchat, rfl, rfl⟩

/-- The answer to a user lookup is cached, and what waited for it shows the truth. -/
theorem gotUsers (h : Informed σ heard asked s₀ s) {m : GetUsersResponseMessage}
    {callback : UsersCallback} (hv : Vouched σ (.getUsersResponse m))
    (hb : BackedUsers σ heard callback) : Informs σ heard asked s₀ (s.gotUsers m callback) :=
  runUsersCallback (foldl (fun user huser _ hs => hs.cacheUser (hv user huser)) h) hb

/-- The channel that the callback is about is the one that was asked for. -/
theorem gotChannel (h : Informed σ heard asked s₀ s) {m : GetChatChannelResponseMessage}
    {callback : ChannelCallback} (hv : Vouched σ (.getChatChannelResponse m))
    (hb : BackedChannel heard m.channel.id callback) :
    Informs σ heard asked s₀ (s.gotChannel m callback) := by
  have hcache := h.cacheChannel hv
  obtain ⟨channel, hcached⟩ := cacheChannel_self s m.channel
  obtain ⟨hid, hc⟩ := hcache.channels _ _ hcached
  show Informs σ heard asked s₀ ((s.cacheChannel m.channel).runChannelCallback
    (((s.cacheChannel m.channel).store.channelsCache m.channel.id).getD m.channel) callback)
  rw [hcached, Option.getD_some]
  rw [← hid] at hb
  exact hcache.runChannelCallback hc hb

/-- The answer to a join names a channel. -/
theorem joined (h : Informed σ heard asked s₀ s) {m : JoinChatChannelResponseMessage}
    (hm : .joinChatChannelResponse m ∈ heard) : Informs σ heard asked s₀ (s.joined m) := by
  unfold SessionSystem.joined
  cases s.validateSession with
  | false => exact h.ok
  | true => exact informs_value fun c _ => h.loadChannel c ⟨m.requestId, hm⟩

/-- The answer to a login names the user. -/
theorem authenticated (h : Informed σ heard asked s₀ s) {m : AuthenticateUserResponseMessage}
    (hv : Vouched σ (.authenticateUserResponse m)) (hm : .authenticateUserResponse m ∈ heard)
    (hquiet : s.model.lines = s₀.model.lines) :
    Informs σ heard asked s₀ (s.authenticated m) := by
  have hcache := h.cacheUser hv
  have huser : Informed σ heard asked s₀ { s.cacheUser m.user with user := some m.user } := by
    refine ⟨hcache.users, hcache.channels, fun user hu => ?_, hcache.prompt,
      shown_nothing hquiet, hcache.calls, hcache.fresh, hcache.lookups, hcache.sent⟩
    cases hu
    exact hv
  exact (huser.addLine (.loggedInAs rfl hv hm)).ok

/-- The list of channels is true. -/
theorem gotChannels (h : Informed σ heard asked s₀ s) {m : GetChatChannelsResponseMessage}
    (hv : Vouched σ (.getChatChannelsResponse m)) (hm : .getChatChannelsResponse m ∈ heard) :
    Informed σ heard asked s₀ (s.gotChannels m) :=
  addLine (foldl (fun channel hc _ hs => hs.cacheChannel (hv channel hc)) h) (.channels hv hm)

/-- A new channel is one of the table. -/
theorem createdChannel (h : Informed σ heard asked s₀ s) {m : CreateChannelResponseMessage}
    (hv : Vouched σ (.createChannelResponse m)) (hm : .createChannelResponse m ∈ heard) :
    Informed σ heard asked s₀ (s.createdChannel m) :=
  (h.cacheChannel hv).addLine (.createdChannel hv hm)

/-- A new user is one of the table. -/
theorem createdUser (h : Informed σ heard asked s₀ s) {m : CreateUserResponseMessage}
    (hv : Vouched σ (.createUserResponse m)) (hm : .createUserResponse m ∈ heard) :
    Informed σ heard asked s₀ (s.createdUser m) :=
  (h.cacheUser hv).addLine (.createdUser hv hm)

end Informed

/-- The message is the answer to a channel lookup of the client: the channel is the one that was
asked for. -/
def AnswersLookup (sent : List (Nat × Message)) (m : Message) : Prop :=
  ∀ requestId channel, m = .getChatChannelResponse ⟨requestId, channel⟩ →
    ∃ c, (c, .getChatChannelRequest ⟨requestId, channel.id⟩) ∈ sent

namespace Informed

/-- A message that is an answer. -/
theorem handleAnswer (h : Informed σ heard asked s₀ s) {m : Message} (hv : Vouched σ m)
    (hm : m ∈ heard) (hlookup : AnswersLookup s.sent m) (hquiet : s.model.lines = s₀.model.lines)
    (c : Nat) :
    Informs σ heard asked s₀ (s.handleAnswer c m) := by
  cases hanswered : s.answered c m with
  | none =>
    rw [ClientRun.handleAnswer_none hanswered]
    exact h.ok
  | some call =>
    rw [ClientRun.handleAnswer_some hanswered]
    obtain ⟨hcall, hby⟩ := answered_eq_some hanswered
    have hb := h.calls call hcall
    have hdone := h.complete call.requestId
    have hanswers := answers_of_answeredBy hby
    generalize call.callback = callback at hanswers hb
    cases hanswers with
    | error _ m => cases callback <;> exact hdone.ok
    | authenticated m => exact hdone.authenticated hv hm hquiet
    | loggedOut user m =>
      have hrequestId : m.requestId = call.requestId := Option.some.inj hby.2.1
      have hasked : (m.requestId, user) ∈ asked := hrequestId ▸ hb.2
      exact (hdone.addLine (.loggedOutAs hasked hb.1 hm)).ok
    | createdUser m => exact (hdone.createdUser hv hm).ok
    | gotChannels m => exact (hdone.gotChannels hv hm).ok
    | createdChannel m => exact (hdone.createdChannel hv hm).ok
    | joined m => exact hdone.joined hm
    | gotChats m => exact hdone.gotChats hv hm
    | gotUsers callback m => exact hdone.gotUsers hv hb
    | gotChannel callback m =>
      obtain ⟨c', channelId, hrequest, hchannel⟩ := hb
      obtain ⟨c'', hasked⟩ := hlookup m.requestId m.channel rfl
      -- The two requests have the same id, so they are the same request.
      have hrequestId : m.requestId = call.requestId := Option.some.inj hby.2.1
      rw [hrequestId] at hasked
      rw [h.lookups _ _ _ _ _ hrequest hasked] at hchannel
      exact hdone.gotChannel hv hchannel

/-- An event about a user informs when its handler does. -/
theorem handleUserEvent (h : Informed σ heard asked s₀ s) {handler : SessionSystem → Nat → Result}
    (hhandler : ∀ c, Informs σ heard asked s₀ (handler s c)) (userId : Nat) :
    Informs σ heard asked s₀ (s.handleUserEvent userId handler) := by
  unfold SessionSystem.handleUserEvent
  cases s.validateSession with
  | false => exact h.ok
  | true =>
    refine informs_value fun self _ => ?_
    show Informs σ heard asked s₀ (if self.id = userId then _ else _)
    split
    · exact h.ok
    · exact informs_value fun c _ => hhandler c

/-- A message of the server. -/
theorem receive (h : Informed σ heard asked s₀ s) {m : Message} (hv : Vouched σ m) (hm : m ∈ heard)
    (hlookup : AnswersLookup s.sent m) (hquiet : s.model.lines = s₀.model.lines)
    (c messageId : Nat) :
    Informs σ heard asked s₀ (s.receive c messageId m) := by
  cases m with
  | print m => exact hv.elim
  | error m => exact h.ok
  | userLoginEvent m =>
    show Informs σ heard asked s₀ (s.handleUserLoginEvent m)
    unfold SessionSystem.handleUserLoginEvent
    refine h.handleUserEvent (fun c => ?_) m.userId
    refine h.loadUser c ?_
    exact hm
  | userLogoutEvent m =>
    show Informs σ heard asked s₀ (s.handleUserLogoutEvent m)
    unfold SessionSystem.handleUserLogoutEvent
    refine h.handleUserEvent (fun c => ?_) m.userId
    refine h.loadUser c ?_
    exact hm
  | receiveChat m =>
    show Informs σ heard asked s₀ (s.handleReceiveChatEvent m messageId)
    unfold SessionSystem.handleReceiveChatEvent
    cases s.validateSession with
    | false => exact h.ok
    | true =>
      -- The sender is looked up, and the line waits for the answer.
      refine informs_value fun c _ => h.loadUser c ?_
      exact ⟨rfl, hv, .inl ⟨m, hm, rfl, rfl⟩⟩
  | channelCreateEvent m =>
    show Informs σ heard asked s₀ (s.handleChannelCreateEvent m)
    unfold SessionSystem.handleChannelCreateEvent
    refine h.handleUserEvent (fun c => ?_) m.userId
    -- The channel is cached before the user is looked up.
    refine (h.cacheChannel hv).loadUser c ?_
    exact ⟨hv, hm⟩
  | channelJoinEvent m =>
    show Informs σ heard asked s₀ (s.handleChannelJoinEvent m)
    unfold SessionSystem.handleChannelJoinEvent
    refine h.handleUserEvent (fun c => ?_) m.userId
    refine h.loadChannel c ?_
    exact hm
  | channelLeaveEvent m =>
    show Informs σ heard asked s₀ (s.handleChannelLeaveEvent m)
    unfold SessionSystem.handleChannelLeaveEvent
    refine h.handleUserEvent (fun c => ?_) m.userId
    refine h.loadChannel c ?_
    exact hm
  | _ => exact h.handleAnswer hv hm hlookup hquiet c

/-! #### Commands and connection events -/

/-- A command that needs a connection makes its call, or nothing happens. -/
theorem ifConnected (h : Informed σ heard asked s₀ s) {request : Nat → Message}
    {callback : RpcCallback}
    (hid : (request s.nextRequestId).requestId = some s.nextRequestId)
    (hb : ∀ sent, BackedCall σ heard asked sent s.nextRequestId callback) :
    Informs σ heard asked s₀ (do
      if s.connectionId.isNone then return s
      let connectionId ← value s.connectionId .connectionId
      return s.call connectionId request callback) := by
  cases s.connectionId with
  | none => exact h.ok
  | some c => exact (h.call c hid (hb _)).ok

/-- A command that needs a session makes its call, or nothing happens. -/
theorem ifInSession (h : Informed σ heard asked s₀ s) {request : Nat → Message}
    {callback : RpcCallback}
    (hid : (request s.nextRequestId).requestId = some s.nextRequestId)
    (hb : ∀ sent, BackedCall σ heard asked sent s.nextRequestId callback) :
    Informs σ heard asked s₀ (do
      if !s.validateSession then return s
      let connectionId ← value s.connectionId .connectionId
      return s.call connectionId request callback) := by
  cases s.validateSession with
  | false => exact h.ok
  | true => exact informs_value fun c _ => (h.call c hid (hb _)).ok

/-- `Send` shows nothing. -/
theorem send (h : Informed σ heard asked s₀ s) (content : String) :
    Informs σ heard asked s₀ (s.send content) := by
  unfold SessionSystem.send
  cases s.connectionId with
  | none => exact h.ok
  | some c =>
    have hold : ∀ {c' : Nat} {i j : Nat}, (c', Message.getChatChannelRequest ⟨i, j⟩) ∈
        s.sent ++ [(c, .writeChat ⟨content⟩)] →
        (c', Message.getChatChannelRequest ⟨i, j⟩) ∈ s.sent := by
      intro c' i j hp
      rcases List.mem_append.mp hp with hp | hp
      · exact hp
      · cases List.mem_singleton.mp hp
    refine ok ⟨h.users, h.channels, h.user, h.prompt, h.lines, fun call hcall => ?_, ?_, ?_,
      fun p hp => List.mem_append_left _ (h.sent hp)⟩
    · exact (Grows.refl σ).backedCall (fun _ hm => hm) (fun _ hl => hl)
        (fun _ hp => List.mem_append_left _ hp)
        (h.calls call hcall)
    · intro p hp requestId hrequestId
      rcases List.mem_append.mp hp with hp | hp
      · exact h.fresh p hp requestId hrequestId
      · rw [List.mem_singleton.mp hp] at hrequestId
        cases hrequestId
    · intro c₁ c₂ requestId channelId channelId' h₁ h₂
      exact h.lookups c₁ c₂ requestId channelId channelId' (hold h₁) (hold h₂)

/-- `Logout` records the user who asks for it. -/
theorem logout (h : Informed σ heard asked s₀ s) (hquiet : s.model.lines = s₀.model.lines)
    (hasked : ∀ s', s.logout = .ok s' →
      logoutsAs s.user (s'.sent.drop s.sent.length) ⊆ asked) :
    Informs σ heard asked s₀ s.logout := by
  intro s' heq
  have hsent := hasked s' heq
  cases hsession : s.validateSession with
  | false =>
    obtain rfl : s = s' := by
      simpa [SessionSystem.logout, hsession, pure, Except.pure] using heq
    exact h
  | true =>
    obtain ⟨⟨c, hc⟩, ⟨user, huser⟩⟩ :
        (∃ c, s.connectionId = some c) ∧ ∃ user, s.user = some user := by
      simpa [SessionSystem.validateSession, Option.isSome_iff_exists] using hsession
    obtain rfl : ({ s with user := none }.setChannelName none).call c
        (fun requestId => .logoutRequest ⟨requestId⟩) (.loggedOut user) = s' := by
      simpa [SessionSystem.logout, hsession, SessionSystem.setChannelName, hc, huser, value, bind,
        Except.bind, pure, Except.pure] using heq
    have hout : Informed σ heard asked s₀ ({ s with user := none }.setChannelName none) :=
      ⟨h.users, h.channels, fun _ hu => absurd hu (by simp [SessionSystem.setChannelName]),
        fun _ hname => absurd hname (by simp [SessionSystem.setChannelName]),
        shown_nothing hquiet, h.calls, h.fresh, h.lookups, h.sent⟩
    -- The new call waits for the answer to the request that `logoutsAs` lists.
    refine hout.call c rfl ⟨h.user user huser, hsent ?_⟩
    simp [logoutsAs, SessionSystem.call, SessionSystem.setChannelName, huser]

/-- `OnDisconnected`. -/
theorem onDisconnected (h : Informed σ heard asked s₀ s) (hquiet : s.model.lines = s₀.model.lines)
    (c : Nat) : Informed σ heard asked s₀ (s.onDisconnected c) :=
  ⟨h.users, h.channels, fun _ hu => absurd hu (by simp [SessionSystem.onDisconnected,
      SessionSystem.setChannelName]),
    fun _ hname => absurd hname (by simp [SessionSystem.onDisconnected,
      SessionSystem.setChannelName]), shown_nothing hquiet, h.calls, h.fresh, h.lookups, h.sent⟩

end Informed

end

/-! ### Steps -/

/-- A step of the client keeps what it knows true. It takes nothing back that it has sent, and it
shows only what is true. -/
theorem informed_step {σ : ChatService} {heard : List Message} {asked : List (Nat × User)}
    {r r' : ClientRun} {op : ClientOp} (h : Informed σ heard asked r.system r.system)
    (hs : r.step op = some r')
    (hop : ∀ c id m, op = .receive c id m →
      Vouched σ m ∧ m ∈ heard ∧ AnswersLookup r.system.sent m)
    (hasked : logoutsAs r.system.user (r'.system.sent.drop r.system.sent.length) ⊆ asked) :
    Informed σ heard asked r.system r'.system := by
  simp only [ClientRun.step, Option.ite_none_right_eq_some] at hs
  obtain ⟨-, hstep⟩ := hs
  obtain rfl := Option.some.inj hstep
  have hperform : Informs σ heard asked r.system (r.perform op) := by
    cases op with
    | connect => exact h.ok
    | connectionFailed => exact h.ok
    | connected =>
      exact Informed.ok ⟨h.users, h.channels, h.user, h.prompt, h.lines, h.calls, h.fresh,
        h.lookups, fun _ hp => hp⟩
    | disconnected c => exact (h.onDisconnected rfl c).ok
    | login name password => exact h.ifConnected rfl fun _ => trivial
    | logout =>
      refine h.logout rfl fun s' heq => ?_
      have hrecord : (r.record .logout (r.perform .logout)).system = s' := by
        have hperform : r.perform .logout = .ok s' := heq
        rw [hperform]
        rfl
      rw [hrecord] at hasked
      exact hasked
    | send content => exact h.send content
    | addUser name password => exact h.ifConnected rfl fun _ => trivial
    | getChannels => exact h.ifConnected rfl fun _ => trivial
    | createChannel name => exact h.ifInSession rfl fun _ => trivial
    | joinChannel channelId => exact h.ifInSession rfl fun _ => trivial
    | receive c id m =>
      obtain ⟨hv, hm, hlookup⟩ := hop c id m rfl
      exact h.receive hv hm hlookup rfl c id
    | timeout requestId => exact (h.complete requestId).ok
  cases hresult : r.perform op with
  | ok s' => exact hperform s' hresult
  | error member => exact h

/-- What the server sends in a step that its connections see. -/
theorem honest_record {r : ServedRun} {current : Server.ServerRun} {input : ServiceOp}
    {output : Nat → List Message} (hr : r.Simulates)
    (hr' : (r.record current (some input) output).Simulates) :
    Grows r.service (r.record current (some input) output).service ∧
      ∀ o, ∀ m ∈ output o, Vouched (r.record current (some input) output).service m ∧
        ∀ requestId channel, m = .getChatChannelResponse ⟨requestId, channel⟩ →
          input = .handle o (.getChatChannelRequest ⟨requestId, channel.id⟩) := by
  have hservice := r.service_record current input output
  have hhonest := @honest_step r.service input
  rw [hservice]
  refine ⟨hhonest.grows, fun o m hm => ?_⟩
  rw [hr.output_eq hr'] at hm
  unfold ChatService.received at hm
  split at hm
  · obtain ⟨notice, hnotice, rfl⟩ := List.mem_map.mp hm
    obtain ⟨hmem, haudience⟩ := List.mem_filter.mp hnotice
    have hn := hhonest.honest notice hmem
    exact ⟨hn.vouched, fun requestId channel heq =>
      hn.lookup requestId channel heq o (by simpa using haudience)⟩
  · cases hm

/-- What the server sends is true, and it answers a channel lookup when it handles the request. -/
theorem honest_server {r r' : ServedRun} {op : ServedOp}
    (h : servedRuns.Reachable Lts.anyStep r) (hs : r.step op = some r')
    (hlen : r'.service.history.length < uint32Size - 1) :
    Grows r.service r'.service ∧
      ∀ output ∈ r'.outputs.drop r.outputs.length, ∀ o, ∀ m ∈ output o,
        Vouched r'.service m ∧
        ∀ requestId channel, m = .getChatChannelResponse ⟨requestId, channel⟩ →
          op = .op (.handle o (.getChatChannelRequest ⟨requestId, channel.id⟩)) := by
  have hlen0 := Nat.lt_of_le_of_lt (ServedRun.length_history_le hs) hlen
  have hr := ServedRun.simulates_reachable h hlen0
  have hr' := ServedRun.simulates_step hr hs hlen hlen0
  have hdrop : ∀ (current : Server.ServerRun) (input : ServiceOp) (output : Nat → List Message),
      (r.record current (some input) output).outputs.drop r.outputs.length = [output] :=
    fun _ _ _ => List.drop_left
  cases op with
  | restart =>
    -- A restart sends nothing: the connections are gone.
    replace hs := (ServedRun.step_eq_some.mp hs).2
    simp only [ServedRun.transition] at hs
    split at hs
    · obtain ⟨persisted, hpersist, rfl⟩ := Option.map_eq_some_iff.mp hs
      obtain ⟨hgrows, hsent⟩ := honest_record hr hr'
      refine ⟨hgrows, fun output houtput o m hm => ?_⟩
      rw [hdrop, List.mem_singleton] at houtput
      subst houtput
      cases hm
    · cases hs
  | op o =>
    obtain ⟨current, calls, -, -, rfl⟩ := ServedRun.step_op hs
    cases hinput : o.input with
    | none =>
      rw [hinput] at hr'
      refine ⟨by rw [ServedRun.service_record_none]; exact .refl _, fun output houtput => ?_⟩
      have hnone : (r.outputs ++ []).drop r.outputs.length = [] := by
        simp
      exact absurd (hnone ▸ houtput) List.not_mem_nil
    | some input =>
      rw [hinput] at hr'
      obtain ⟨hgrows, hsent⟩ := honest_record hr hr'
      refine ⟨hgrows, fun output houtput c m hm => ?_⟩
      rw [hdrop, List.mem_singleton] at houtput
      subst houtput
      obtain ⟨hv, hlookup⟩ := hsent c m hm
      refine ⟨hv, fun requestId channel heq => ?_⟩
      -- The input of the service is the request that the server handles.
      have hhandle := hlookup requestId channel heq
      rw [hhandle] at hinput
      cases o with
      | handle c' m' =>
        cases hinput
        rfl
      | connect => cases hinput
      | disconnect c' => cases hinput
      | persist => cases hinput

/-! ### Runs -/

namespace ServedClient

/-- The client knows what is true and has shown nothing else. What it has sent is on the way or was
handled, and what is on the way to it is true and answers what it has asked. -/
structure Linked (s : ServedClient) : Prop where
  served : servedRuns.Reachable Lts.anyStep s.server
  informed : Informed s.server.service s.heard s.logouts s.client.system s.client.system
  lines : s.client.system.model.lines = s.shown.map Prod.snd
  shown : ∀ p ∈ s.shown, Reports s.server.service s.heard s.logouts p.1 p.2
  toServer : ∀ l ∈ s.links, ∀ m ∈ l.toServer, ∃ c, (c, m) ∈ s.client.system.sent
  toClient : ∀ l ∈ s.links, ∀ m ∈ l.toClient,
    Vouched s.server.service m ∧ AnswersLookup s.client.system.sent m

variable {s s' : ServedClient}

/-- The links may lose messages. -/
theorem Linked.of_links (h : s.Linked) {links : List Link}
    (hlinks : ∀ l ∈ links, ∃ l' ∈ s.links, l.toServer ⊆ l'.toServer ∧ l.toClient ⊆ l'.toClient) :
    Linked { s with links := links } := by
  refine ⟨h.served, h.informed, h.lines, h.shown, fun l hl m hm => ?_, fun l hl m hm => ?_⟩
  · obtain ⟨l', hl', hserver, -⟩ := hlinks l hl
    exact h.toServer l' hl' m (hserver hm)
  · obtain ⟨l', hl', -, hclient⟩ := hlinks l hl
    exact h.toClient l' hl' m (hclient hm)

/-- A link that is replaced by one with fewer messages. -/
theorem Linked.set (h : s.Linked) {k : Nat} {l : Link} (l' : Link) (hk : s.links[k]? = some l)
    (hserver : l'.toServer ⊆ l.toServer) (hclient : l'.toClient ⊆ l.toClient) :
    Linked { s with links := s.links.set k l' } := by
  refine h.of_links fun m hm => ?_
  rcases List.mem_or_eq_of_mem_set hm with hm | rfl
  · exact ⟨m, hm, fun _ hx => hx, fun _ hx => hx⟩
  · exact ⟨l, List.mem_of_getElem? hk, hserver, hclient⟩

/-- A step of the client that is told only what is true. -/
theorem Linked.clientStep (h : s.Linked) {op : ClientOp} (hs : s.clientStep op = some s')
    (hop : ∀ c id m, op = .receive c id m → Vouched s.server.service m ∧ m ∈ s.heard ∧
      AnswersLookup s.client.system.sent m) : s'.Linked := by
  obtain ⟨client, hclient, rfl⟩ := Option.map_eq_some_iff.mp hs
  -- A logout is recorded with its step, so the step may already speak of it.
  have hbefore := (Grows.refl _).informed (fun _ hm => hm)
    (fun _ hp => List.mem_append_left (logoutsAs s.client.system.user
      (client.system.sent.drop s.client.system.sent.length)) hp) h.informed
  have hinformed := informed_step hbefore hclient hop fun _ hp => List.mem_append_right _ hp
  have hsent := hinformed.sent
  obtain ⟨lines, hlines, hreports⟩ := hinformed.lines
  -- The lines of this step are those behind the old ones.
  have hdrop : client.system.model.lines.drop s.client.system.model.lines.length = lines := by
    rw [hlines, List.drop_left]
  refine ⟨h.served, hinformed.rest, ?_, fun p hp => ?_, fun l hl m hm => ?_, fun l hl m hm => ?_⟩
  · show client.system.model.lines = (s.shown ++ (client.system.model.lines.drop
      s.client.system.model.lines.length).map (client.system.user, ·)).map Prod.snd
    rw [hdrop, hlines, h.lines, List.map_append, List.map_map]
    simp [Function.comp_def]
  · rcases List.mem_append.mp hp with hp | hp
    · exact (Grows.refl _).reports (fun _ hm => hm) (fun _ hl => List.mem_append_left _ hl)
        (h.shown p hp)
    · rw [hdrop] at hp
      obtain ⟨line, hline, rfl⟩ := List.mem_map.mp hp
      exact hreports line hline
  · obtain ⟨l', hl', rfl⟩ := List.mem_map.mp hl
    rcases List.mem_append.mp hm with hm | hm
    · obtain ⟨c, hc⟩ := h.toServer l' hl' m hm
      exact ⟨c, hsent hc⟩
    · obtain ⟨⟨c, m⟩, hp, rfl⟩ := List.mem_map.mp hm
      exact ⟨c, List.mem_of_mem_drop (List.mem_of_mem_filter hp)⟩
  · obtain ⟨l', hl', rfl⟩ := List.mem_map.mp hl
    obtain ⟨hv, hlookup⟩ := h.toClient l' hl' m hm
    refine ⟨hv, fun requestId channel heq => ?_⟩
    obtain ⟨c, hc⟩ := hlookup requestId channel heq
    exact ⟨c, hsent hc⟩

/-- A step of the server. The channel lookups that it handles on a link are ones of the client. -/
theorem Linked.serverStep (h : s.Linked) {op : ServedOp} (hs : s.serverStep op = some s')
    (hlen : s'.server.service.history.length < uint32Size - 1)
    (hop : ∀ l ∈ s.links, l.served → ∀ m, op = .op (.handle l.serverId m) →
      ∀ requestId channelId, m = .getChatChannelRequest ⟨requestId, channelId⟩ →
        ∃ c, (c, m) ∈ s.client.system.sent) : s'.Linked := by
  obtain ⟨server, hserver, rfl⟩ := Option.map_eq_some_iff.mp hs
  obtain ⟨hgrows, hhonest⟩ := honest_server h.served hserver hlen
  refine ⟨.step h.served trivial hserver,
    hgrows.informed (fun _ hm => hm) (fun _ hl => hl) h.informed, h.lines,
    fun p hp => hgrows.reports (fun _ hm => hm) (fun _ hl => hl) (h.shown p hp),
    fun l hl m hm => ?_, fun l hl m hm => ?_⟩
  · obtain ⟨l', hl', rfl⟩ := List.mem_map.mp hl
    refine h.toServer l' hl' m ?_
    unfold Link.receive at hm
    split at hm <;> exact hm
  · obtain ⟨l', hl', rfl⟩ := List.mem_map.mp hl
    -- What was on its way stays vouched for, since the service only grows.
    have hold : m ∈ l'.toClient → Vouched server.service m ∧
        AnswersLookup s.client.system.sent m := by
      intro hm
      obtain ⟨hv, hlookup⟩ := h.toClient l' hl' m hm
      exact ⟨hgrows.vouched hv, hlookup⟩
    unfold Link.receive at hm
    split at hm
    · rename_i hserved
      rcases List.mem_append.mp hm with hm | hm
      · exact hold hm
      · obtain ⟨output, houtput, hm⟩ := List.mem_flatMap.mp hm
        obtain ⟨hv, hlookup⟩ := hhonest output houtput l'.serverId m hm
        refine ⟨hv, fun requestId channel heq => ?_⟩
        exact hop l' hl' hserved _ (hlookup requestId channel heq) _ _ rfl
    · exact hold hm

/-- What a step is. -/
inductive Stepped (s : ServedClient) : ServedClientOp → ServedClient → Prop
  | accept {t : ServedClient} : s.serverStep (.op .connect) = some t →
      Stepped s .accept { t with
        links := t.links ++ [{ serverId := s.server.current.server.nextConnectionId }] }
  | connected {k : Nat} {t : ServedClient} : s.clientStep .connected = some t →
      Stepped s (.connected k) { t with
        links := t.links.modify k
          fun l => { l with clientId := some s.client.nextConnectionId } }
  | client {op : ClientOp} {t : ServedClient} : Alone op → s.clientStep op = some t →
      Stepped s (.client op) t
  | serve {k : Nat} {l : Link} {message : Message} {rest : List Message} {t : ServedClient} :
      s.links[k]? = some l → l.toServer = message :: rest →
      { s with links := s.links.set k { l with toServer := rest } }.serverStep
        (.op (.handle l.serverId message.received)) = some t →
      Stepped s (.serve k) t
  | server {op : ServerOp} {t : ServedClient} : s.Elsewhere op → s.serverStep (.op op) = some t →
      Stepped s (.server op) t
  | restart {t : ServedClient} : s.serverStep .restart = some t →
      Stepped s .restart { t with links := t.links.map ({ · with served := false }) }
  | deliver {k messageId connectionId : Nat} {l : Link} {message : Message} {rest : List Message}
      {t : ServedClient} : s.links[k]? = some l → l.toClient = message :: rest →
      { s with
        links := s.links.set k { l with toClient := rest }
        heard := s.heard ++ [message.received] }.clientStep
          (.receive connectionId messageId message.received) = some t →
      Stepped s (.deliver k messageId) t

/-- Every step is one of these. -/
theorem stepped_of_step {op : ServedClientOp} (hs : s.step op = some s') : Stepped s op s' := by
  cases op with
  | accept =>
    simp only [step] at hs
    obtain ⟨t, ht, rfl⟩ := Option.map_eq_some_iff.mp hs
    exact .accept ht
  | connected k =>
    simp only [step] at hs
    split at hs
    · cases hs
    · split at hs
      · obtain ⟨t, ht, rfl⟩ := Option.map_eq_some_iff.mp hs
        exact .connected ht
      · cases hs
  | client op =>
    simp only [step, Option.ite_none_right_eq_some] at hs
    exact .client hs.1 hs.2
  | serve k =>
    simp only [step] at hs
    split at hs
    · cases hs
    · rename_i l hk
      split at hs
      · cases hs
      · rename_i message rest hqueue
        split at hs
        · exact .serve hk hqueue hs
        · cases hs
  | server op =>
    simp only [step, Option.ite_none_right_eq_some] at hs
    exact .server hs.1 hs.2
  | restart =>
    simp only [step] at hs
    obtain ⟨t, ht, rfl⟩ := Option.map_eq_some_iff.mp hs
    exact .restart ht
  | deliver k messageId =>
    simp only [step] at hs
    split at hs
    · cases hs
    · rename_i l hk
      split at hs
      · rename_i connectionId message rest hclient hqueue
        exact .deliver hk hqueue hs
      · cases hs

/-- No step of the server shortens the history, and the other steps leave it as it is. -/
theorem length_history_le {op : ServedClientOp} (hs : s.step op = some s') :
    s.server.service.history.length ≤ s'.server.service.history.length := by
  have hclient : ∀ {t t' : ServedClient} {op : ClientOp}, t.clientStep op = some t' →
      t.server.service.history.length ≤ t'.server.service.history.length := by
    intro t t' op ht
    obtain ⟨client, -, rfl⟩ := Option.map_eq_some_iff.mp ht
    exact Nat.le_refl _
  have hserver : ∀ {t t' : ServedClient} {op : ServedOp}, t.serverStep op = some t' →
      t.server.service.history.length ≤ t'.server.service.history.length := by
    intro t t' op ht
    obtain ⟨server, hserver, rfl⟩ := Option.map_eq_some_iff.mp ht
    exact ServedRun.length_history_le hserver
  cases stepped_of_step hs with
  | accept ht | restart ht =>
    have hle := hserver ht
    exact hle
  | serve _ _ ht | server _ ht =>
    have hle := hserver ht
    exact hle
  | connected ht =>
    have hle := hclient ht
    exact hle
  | client _ ht | deliver _ _ ht =>
    have hle := hclient ht
    exact hle

/-- A step keeps the client linked to the server. -/
theorem linked_step {op : ServedClientOp} (h : s.Linked) (hs : s.step op = some s')
    (hlen : s'.server.service.history.length < uint32Size - 1) : s'.Linked := by
  cases stepped_of_step hs with
  | accept ht =>
    have hlinked := h.serverStep ht hlen fun _ _ _ m heq => by cases heq
    refine ⟨hlinked.served, hlinked.informed, hlinked.lines, hlinked.shown,
      fun l hl m hm => ?_, fun l hl m hm => ?_⟩
    · rcases List.mem_append.mp hl with hl | hl
      · exact hlinked.toServer l hl m hm
      · rw [List.mem_singleton.mp hl] at hm
        cases hm
    · rcases List.mem_append.mp hl with hl | hl
      · exact hlinked.toClient l hl m hm
      · rw [List.mem_singleton.mp hl] at hm
        cases hm
  | restart ht =>
    have hlinked := h.serverStep ht hlen fun _ _ _ m heq => by cases heq
    refine hlinked.of_links fun l hl => ?_
    obtain ⟨l', hl', rfl⟩ := List.mem_map.mp hl
    exact ⟨l', hl', fun _ hm => hm, fun _ hm => hm⟩
  | @connected k t ht =>
    have hlinked := h.clientStep ht fun _ _ _ heq => by cases heq
    refine hlinked.of_links fun l hl => ?_
    obtain ⟨i, hi, rfl⟩ := List.mem_iff_getElem.mp hl
    rw [List.getElem_modify]
    rw [List.length_modify] at hi
    refine ⟨t.links[i], List.getElem_mem hi, ?_, ?_⟩
    · split <;> exact fun _ hm => hm
    · split <;> exact fun _ hm => hm
  | client halone ht =>
    refine h.clientStep ht fun c id m heq => ?_
    rw [heq] at halone
    exact halone.elim
  | @serve k l message rest t hk hqueue ht =>
    have hset := h.set { l with toServer := rest } hk
      (fun m hm => hqueue ▸ List.mem_cons_of_mem _ hm) (fun _ hm => hm)
    refine hset.serverStep ht hlen fun l' _ _ m heq requestId channelId hm => ?_
    -- A request arrives as it was sent.
    have hreceived : message.received = m := (ServerOp.handle.inj (ServedOp.op.inj heq)).2
    have hmessage : message = m := by
      subst hm
      cases message <;> first | exact hreceived | cases hreceived
    rw [← hmessage]
    exact h.toServer l (List.mem_of_getElem? hk) message (hqueue ▸ List.mem_cons_self)
  | server helsewhere ht =>
    refine h.serverStep ht hlen fun l hl hserved m heq => ?_
    cases heq
    exact absurd rfl (helsewhere l hl hserved)
  | @deliver k messageId connectionId l message rest t hk hqueue ht =>
    have hset := h.set { l with toClient := rest } hk (fun _ hm => hm)
      (fun m hm => hqueue ▸ List.mem_cons_of_mem _ hm)
    obtain ⟨hv, hlookup⟩ := h.toClient l (List.mem_of_getElem? hk) message
      (hqueue ▸ List.mem_cons_self)
    have hheard : Linked { s with
        links := s.links.set k { l with toClient := rest }
        heard := s.heard ++ [message.received] } :=
      ⟨h.served, (Grows.refl _).informed (fun _ hm => List.mem_append_left _ hm) (fun _ hl => hl)
          h.informed, h.lines,
        fun p hp => (Grows.refl _).reports (fun _ hm => List.mem_append_left _ hm) (fun _ hl => hl)
          (h.shown p hp), hset.toServer, hset.toClient⟩
    refine hheard.clientStep ht fun c id m heq => ?_
    cases heq
    refine ⟨vouched_received hv, List.mem_append_right _ List.mem_cons_self, ?_⟩
    intro requestId channel heq
    refine hlookup requestId channel ?_
    cases message <;> first | exact heq | cases heq

/-- The client is linked to the server in every run. -/
theorem linked_reachable (h : servedClients.Reachable Lts.anyStep s) :
    s.server.service.history.length < uint32Size - 1 → s.Linked := by
  refine h.invariant
    (I := fun s => s.server.service.history.length < uint32Size - 1 → s.Linked) ?_ ?_
  · rintro s ⟨server, hserver, rfl⟩ -
    refine ⟨hserver, ?_, rfl, fun p hp => absurd hp List.not_mem_nil,
      fun l hl => absurd hl List.not_mem_nil, fun l hl => absurd hl List.not_mem_nil⟩
    constructor <;> simp
  · intro s op s' ih _ hs hlen
    exact linked_step (ih (Nat.lt_of_le_of_lt (length_history_le hs) hlen)) hs hlen

/-- The client knows and shows only what is true at the server. Its caches hold rows of the tables,
the prompt names a channel of the table, and every line reports something that the server has told
it and that is true. A chat line has the text of a message that the client was told of and that is
in the history. Where the user of the client at this moment wrote it, the line says so, and else it
has the name of the registered user who did. A line about a logout of the user has the name of the
user who asked for it. This holds in every run, with any other clients, with reconnections and
restarts, and for answers in any order. -/
theorem client_shows_truth (h : servedClients.Reachable Lts.anyStep s)
    (hlen : s.server.service.history.length < uint32Size - 1) :
    (∀ id user, s.client.system.store.usersCache id = some user →
      ∃ row ∈ s.server.current.server.db.users.rows, row.id = id ∧ row.toUser = user) ∧
    (∀ id channel, s.client.system.store.channelsCache id = some channel →
      channel.id = id ∧ channel ∈ s.server.current.server.db.channels.rows) ∧
    (∀ name ∈ s.client.system.model.channelName,
      ∃ channel ∈ s.server.current.server.db.channels.rows, channel.name = name) ∧
    s.client.system.model.lines = s.shown.map Prod.snd ∧
    ∀ p ∈ s.shown, Reports s.server.service s.heard s.logouts p.1 p.2 := by
  have hlinked := linked_reachable h hlen
  have hinformed := hlinked.informed
  have himplements := (ServedRun.simulates_reachable hlinked.served hlen).implements
  rw [← himplements.users, ← himplements.channels]
  refine ⟨fun id user hcached => ?_, hinformed.channels, hinformed.prompt, hlinked.lines,
    hlinked.shown⟩
  obtain ⟨rfl, hpeople⟩ := hinformed.users id user hcached
  obtain ⟨row, hrow, rfl⟩ := List.mem_map.mp hpeople
  exact ⟨row, hrow, rfl, rfl⟩

/-- Ann joins a channel in which bob, of another client, writes. Her client asks the server for the
name of the writer. -/
def bobWrites : List ServedClientOp :=
  let ask (op : ClientOp) : List ServedClientOp := [.client op, .serve 0, .deliver 0 0]
  let bob (message : Message) : ServedClientOp := .server (.handle 2 message)
  [.client .connect, .accept, .connected 0] ++ ask (.addUser "ann" "pw") ++
    ask (.login "ann" "pw") ++ [.deliver 0 0] ++ ask (.createChannel "general") ++
    [.deliver 0 0] ++ ask (.joinChannel 1) ++ [.deliver 0 0, .serve 0, .deliver 0 0,
      .server .connect, bob (.createUserRequest ⟨1, "bob", "pw"⟩),
      bob (.authenticateUserRequest ⟨2, "bob", "pw"⟩), bob (.joinChatChannelRequest ⟨3, 1⟩),
      bob (.writeChat ⟨"hi"⟩), .deliver 0 0, .deliver 0 0, .deliver 0 0, .serve 0, .serve 0,
      .serve 0, .deliver 0 0, .deliver 0 0, .deliver 0 0]

/-- Bob writes in the channel of ann, and her client shows it under his name. -/
theorem client_shows_truth_bob : ∃ s, servedClients.Reachable Lts.anyStep s ∧
    (some ⟨1, "ann"⟩, "[User::bob] hi") ∈ s.shown ∧
    s.client.system.model.lines = s.shown.map Prod.snd ∧
    ∀ p ∈ s.shown, Reports s.server.service s.heard s.logouts p.1 p.2 := by
  have hserver : servedRuns.Reachable Lts.anyStep (ServedRun.begin Server.Database.empty) :=
    .start ⟨_, rfl, rfl⟩
  have hstart : servedClients.Reachable Lts.anyStep
      { server := ServedRun.begin Server.Database.empty } := .start ⟨_, hserver, rfl⟩
  obtain ⟨s, hs, hline, hinputs, hrows⟩ := hstart.exists_of_exec bobWrites
    (fun s => (some ⟨1, "ann"⟩, "[User::bob] hi") ∈ s.shown ∧ s.server.inputs.length = 14 ∧
      s.server.start.messages.rows = []) (by decide +kernel)
  have hlen : s.server.service.history.length < uint32Size - 1 := by
    have hbound := ChatService.length_history_after s.server.inputs
      (ChatService.ofDatabase s.server.start)
    rw [show (ChatService.ofDatabase s.server.start).history = [] from hrows, hinputs] at hbound
    exact Nat.lt_of_le_of_lt hbound (by decide)
  exact ⟨s, hs, hline, (client_shows_truth hs hlen).2.2.2⟩

end ServedClient

end ChatCore.Client
