import ChatCore.Proofs.ChannelList
import ChatCore.Proofs.History
import ChatCore.Proofs.Membership
import ChatCore.Server.ChatService

/-!
# `ChatCore.Proofs.ChatService`: the server behaves as the chat service

`Implements` relates a state of the server to a state of the service: the tables have the users
and the channels, the containers of the stores have the users and the channels of the
connections, and the message store with its database, wherever `Persist` stands, is one of
`HistoryInv` with the messages of the service as its history. Every step of the server keeps
this relation to the step of the service that it is for the connections
(`implements_step`), and hands each connection what the service sends it
(`outputs_step`).

`server_refines_service` puts the steps together. What the connections are sent in a run is a
function of what they asked for. It depends neither on the moments at which `Persist` runs nor
on the state of the caches, and a restart forgets nothing but the connections.
-/

set_option autoImplicit false

namespace ChatCore.Server

open ChatCore.Api
open ChatCore.Lib

/-! ### What the calls hand to a connection -/

section

variable {connections : List Nat}

/-- The messages of two lists of calls one after the other. -/
theorem handedTo_append (calls calls' : List Call) (o : Nat) :
    handedTo connections (calls ++ calls') o
      = handedTo connections calls o ++ handedTo connections calls' o :=
  received_append connections o calls calls'

/-- The messages of the first call come first. -/
theorem handedTo_cons (call : Call) (calls : List Call) (o : Nat) :
    handedTo connections (call :: calls) o
      = handedTo connections [call] o ++ handedTo connections calls o :=
  handedTo_append [call] calls o

/-- In a list without duplicates, one message for each connection is one message for `o`. -/
theorem handedTo_of_nodup {call : Call} {cs : List Nat} {message : Message} (hcs : cs.Nodup)
    (h : call.deliveries connections = cs.map (·, message)) (o : Nat) :
    handedTo connections [call] o = if o ∈ cs then [message] else [] := by
  have hcall : handedTo connections [call] o = ((cs.filter (· = o)).map fun _ => message) := by
    simp [handedTo, h, List.filter_map, Function.comp_def]
  rw [hcall]
  split
  · rename_i hmem
    have hfilter : cs.filter (· = o) = [o] := by
      rw [List.filter_eq, List.count_eq_one_of_mem hcs hmem, List.replicate_one]
    rw [hfilter, List.map_singleton]
  · rename_i hmem
    rw [List.filter_eq_nil_iff.mpr fun x hx => ?_, List.map_nil]
    have hne : x ≠ o := fun he => hmem (he ▸ hx)
    simpa using hne

end

/-! ### The relation -/

/-- The message store and the database have this history, with `Persist` at the given step. -/
def Remembers (s : ServerState) (persist : PersistStep) (history : List ChatMessage) : Prop :=
  ∃ l : Lifetimes, l.HistoryInv ∧ l.current.db = s.db ∧ l.current.store = s.messages ∧
    l.current.persist = persist ∧ l.history = history

/-- The state of the server is that of the service. -/
structure Implements (s : ServerState) (persist : PersistStep) (σ : ChatService) : Prop where
  consistent : s.Consistent
  complete : s.channels.Complete s.db
  users : σ.users = s.db.users.rows
  channels : σ.channels = s.db.channels.rows
  userOf : σ.userOf = s.users.userSessions.findLeft
  channelOf : σ.channelOf = s.channels.connectionChannelMap.findLeft
  connections : ∀ c, c ∈ σ.connections ↔ c ∈ s.connections
  nodup : s.connections.Nodup
  below : ∀ c ∈ s.connections, c < s.nextConnectionId
  opened : s.nextConnectionId = σ.opened + 1
  running : σ.running = s.running
  remembers : Remembers s persist σ.history

/-- The calls hand every connection what the notices tell it. -/
def Carries (s : ServerState) (calls : List Call) (σ : ChatService) (notices : List Notice) :
    Prop :=
  ∀ o, handedTo s.connections calls o = σ.received notices o

section

variable {s : ServerState} {p : PersistStep} {σ : ChatService}

namespace Implements

/-- A session of the server is one of the service. -/
theorem userOf_eq_some (h : Implements s p σ) {c u : Nat} :
    σ.userOf c = some u ↔ (c, u) ∈ s.users.userSessions := by
  rw [h.userOf]
  exact Bimap.findLeft_eq_some

/-- An assigned channel of the server is one of the service. -/
theorem channelOf_eq_some (h : Implements s p σ) {c ch : Nat} :
    σ.channelOf c = some ch ↔ (c, ch) ∈ s.channels.connectionChannelMap := by
  rw [h.channelOf]
  exact MultiBimap.findLeft_eq_some

end Implements

/-! ### What is sent -/

/-- The messages of the first notice come first. -/
theorem ChatService.received_cons (notice : Notice) (notices : List Notice) (o : Nat) :
    σ.received (notice :: notices) o = σ.received [notice] o ++ σ.received notices o := by
  unfold ChatService.received
  split
  · rw [← List.map_append, ← List.filter_append]
    rfl
  · rfl

/-- A notice reaches its audience, as far as it is connected. -/
theorem ChatService.received_singleton (audience : Set Nat) (message : Message) (o : Nat) :
    σ.received [⟨audience, message⟩] o
      = open Classical in if o ∈ σ.connections ∧ o ∈ audience then [message] else [] := by
  classical
  unfold ChatService.received
  by_cases ho : o ∈ σ.connections <;> by_cases ha : o ∈ audience <;> simp [ho, ha]

/-- Only the open connections matter for what is received. -/
theorem ChatService.received_congr {σ' : ChatService} {o : Nat}
    (h : o ∈ σ.connections ↔ o ∈ σ'.connections) (notices : List Notice) :
    σ.received notices o = σ'.received notices o := by
  unfold ChatService.received
  by_cases ho : o ∈ σ.connections
  · rw [if_pos ho, if_pos (h.mp ho)]
  · rw [if_neg ho, if_neg fun ho' => ho (h.mpr ho')]

namespace Carries

/-- No calls carry no notices. -/
theorem nil (s : ServerState) (σ : ChatService) : Carries s [] σ [] := by
  intro o
  unfold handedTo ChatService.received
  split <;> rfl

/-- Calls carry notices one by one. -/
theorem cons {call : Call} {calls : List Call} {notice : Notice} {notices : List Notice}
    (hcall : Carries s [call] σ [notice]) (hcalls : Carries s calls σ notices) :
    Carries s (call :: calls) σ (notice :: notices) := by
  intro o
  rw [handedTo_cons, ChatService.received_cons, hcall o, hcalls o]

/-- A message in the message store is not sent. -/
theorem cons_createMessage {message : ChatMessage} {calls : List Call} {notices : List Notice}
    (h : Carries s calls σ notices) : Carries s (.createMessage message :: calls) σ notices := by
  intro o
  rw [handedTo_cons, ← h o]
  rfl

/-- A call to the registered connections among `cs`. -/
theorem of_nodup {call : Call} {cs : List Nat} {message : Message} {audience : Set Nat}
    (hconn : ∀ c, c ∈ σ.connections ↔ c ∈ s.connections) (hcs : cs.Nodup)
    (hcall : call.deliveries s.connections = cs.map (·, message))
    (haudience : ∀ o ∈ s.connections, o ∈ cs ↔ o ∈ audience)
    (hregistered : ∀ o ∈ cs, o ∈ s.connections) :
    Carries s [call] σ [⟨audience, message⟩] := by
  classical
  intro o
  rw [handedTo_of_nodup hcs hcall o, ChatService.received_singleton]
  have hiff : o ∈ cs ↔ o ∈ σ.connections ∧ o ∈ audience := by
    rw [hconn]
    constructor
    · intro ho
      exact ⟨hregistered o ho, (haudience o (hregistered o ho)).mp ho⟩
    · rintro ⟨ho, ha⟩
      exact (haudience o ho).mpr ha
  simp only [hiff]

/-- `Send` carries a reply. -/
theorem send (h : ∀ c, c ∈ σ.connections ↔ c ∈ s.connections) (c : Nat) (message : Message) :
    Carries s [.send c message] σ [ChatService.reply c message] := by
  by_cases hc : c ∈ s.connections
  · refine of_nodup h (List.nodup_singleton c) (if_pos hc) (fun o _ => ?_) fun o ho => ?_
    · rw [List.mem_singleton, Set.mem_singleton_iff]
    · rwa [List.mem_singleton.mp ho]
  · refine of_nodup h List.nodup_nil (if_neg hc) (fun o ho => ?_) fun o ho => nomatch ho
    have hne : o ≠ c := fun he => hc (he ▸ ho)
    simpa using hne

/-- `Broadcast` to all carries an announcement. -/
theorem broadcast (h : ∀ c, c ∈ σ.connections ↔ c ∈ s.connections) (hnodup : s.connections.Nodup)
    (message : Message) : Carries s [.broadcast message] σ [ChatService.announce message] :=
  of_nodup h hnodup rfl (fun o ho => ⟨fun _ => Set.mem_univ o, fun _ => ho⟩) fun _ ho => ho

/-- A broadcast in a channel. The audience is that of the moment of the call. -/
theorem broadcastTo (σ' : ChatService) (h : ∀ c, c ∈ σ.connections ↔ c ∈ s.connections)
    {map : MultiBimap Nat Nat} (hmap : σ'.channelOf = map.findLeft) (channelId : Nat)
    (message : Message) :
    Carries s [.broadcastTo (map.rangeRight channelId) message] σ [σ'.tell channelId message] := by
  refine of_nodup h ((map.nodup_rangeRight channelId).filter (· ∈ s.connections)) rfl
    (fun o ho => ?_) fun o ho => of_decide_eq_true (List.mem_filter.mp ho).2
  show _ ↔ σ'.channelOf o = some channelId
  rw [hmap, MultiBimap.findLeft_eq_some, List.mem_filter, MultiBimap.mem_rangeRight]
  simp [ho]

end Carries

/-! ### The answers -/

namespace Implements

variable (h : Implements s p σ) (c : Nat)
include h

/-- `Send` carries a reply, by the connections of an implementation. -/
theorem carries_send (message : Message) :
    Carries s [.send c message] σ [ChatService.reply c message] :=
  .send h.connections c message

/-- `Broadcast` carries an announcement, by the connections of an implementation. -/
theorem carries_broadcast (message : Message) :
    Carries s [.broadcast message] σ [ChatService.announce message] :=
  .broadcast h.connections h.nodup message

/-- The next user id of the table is that of the service. -/
theorem nextKey_users : s.db.users.nextKey = ChatService.nextId (σ.users.map UserRow.id) := by
  unfold Table.nextKey Table.maxKey ChatService.nextId
  rw [h.users, List.getLast?_map]

/-- The next channel id of the table is that of the service. -/
theorem nextKey_channels :
    s.db.channels.nextKey = ChatService.nextId (σ.channels.map ChatChannel.id) := by
  unfold Table.nextKey Table.maxKey ChatService.nextId
  rw [h.channels, List.getLast?_map]

/-- The answer to a request that needs a session. -/
theorem carries_authorized {error : Message} {rest : Nat → List Call}
    {act : Nat → ChatService × List Notice}
    (hrest : ∀ u, σ.userOf c = some u → Carries s (rest u) σ (act u).2) :
    Carries s (s.authorized c error rest) σ (σ.authorized c error act).2 := by
  unfold ServerState.authorized ChatService.authorized
  rw [← congrFun h.userOf c]
  cases hu : σ.userOf c with
  | none => exact h.carries_send c error
  | some u => exact hrest u hu

/-- The answer to `CreateUser` is that of the service. -/
theorem carries_createUser (m : CreateUserRequestMessage) :
    Carries s (s.replies c (.createUserRequest m)) σ (σ.createUser c m).2 := by
  simp only [ServerState.replies, ChatService.createUser, h.nextKey_users, ← h.users]
  split
  · exact h.carries_send c _
  · exact h.carries_send c _

omit c in
/-- The credentials match the same user. -/
theorem matchUserCredentials_eq (name password : String) :
    s.db.matchUserCredentials name password
      = (σ.users.find? fun row => row.name = name ∧ row.password = password).map
        fun row => ⟨row.id, name⟩ := by
  rw [h.users]
  rfl

omit c in
/-- The name finds the same channel. -/
theorem getChatChannelByName_eq (name : String) :
    s.db.getChatChannelByName name
      = (σ.channels.find? (·.name = name)).map fun row => ⟨row.id, name⟩ := by
  rw [h.channels]
  rfl

/-- The answer to `AuthenticateUser` is that of the service. -/
theorem carries_authenticate (m : AuthenticateUserRequestMessage) :
    Carries s (s.replies c (.authenticateUserRequest m)) σ (σ.authenticate c m).2 := by
  simp only [ServerState.replies, ChatService.authenticate, h.matchUserCredentials_eq,
    ← congrFun h.userOf c]
  cases σ.userOf c with
  | some u => exact h.carries_send c _
  | none =>
    cases hrow : σ.users.find? fun row => row.name = m.name ∧ row.password = m.password with
    | none => exact h.carries_send c _
    | some row =>
      have hname : row.name = m.name ∧ row.password = m.password := by
        simpa using List.find?_some hrow
      have hiff : s.users.hasUserSession row.id = true ↔ ∃ c', σ.userOf c' = some row.id := by
        rw [ServerState.hasUserSession_iff]
        exact exists_congr fun c' => h.userOf_eq_some.symm
      simp only [Option.map_some]
      by_cases hex : ∃ c', σ.userOf c' = some row.id
      · rw [if_pos (hiff.mpr hex), if_pos hex]
        exact h.carries_send c _
      · rw [if_neg fun hin => hex (hiff.mp hin), if_neg hex,
          show row.toUser = ⟨row.id, m.name⟩ from congrArg _ hname.1]
        exact (h.carries_send c _).cons (h.carries_broadcast _)

/-- A written message goes to those that the service sends it to. -/
theorem carries_write {u : Nat} (content : String) :
    Carries s (match s.channels.connectionChannelMap.findLeft c with
      | none => [.send c (.error ⟨"No channel joined."⟩)]
      | some channel =>
        [.createMessage (s.messages.nextMessage channel u content),
          .broadcastTo (s.channels.connectionChannelMap.rangeRight channel)
            (.receiveChat ⟨u, channel, content⟩)]) σ (σ.write c u content).2 := by
  unfold ChatService.write
  rw [← congrFun h.channelOf c]
  cases σ.channelOf c with
  | none => exact h.carries_send c _
  | some ch => exact (Carries.broadcastTo σ h.connections h.channelOf ch _).cons_createMessage

/-- The answer to `CreateChannel`, with its announcement, is that of the service. -/
theorem carries_createChannel {u : Nat} (m : CreateChannelRequestMessage) :
    Carries s (match s.db.getChatChannelByName m.name with
      | some channel => [.send c (.createChannelResponse ⟨m.requestId, channel⟩)]
      | none =>
        [.send c (.createChannelResponse ⟨m.requestId, ⟨s.db.channels.nextKey, m.name⟩⟩),
          .broadcast (.channelCreateEvent ⟨⟨s.db.channels.nextKey, m.name⟩, u⟩)])
      σ (σ.createChannel c u m).2 := by
  simp only [ChatService.createChannel, h.getChatChannelByName_eq, h.nextKey_channels]
  cases hrow : σ.channels.find? (·.name = m.name) with
  | none => exact (h.carries_send c _).cons (h.carries_broadcast _)
  | some channel =>
    have hname : channel.name = m.name := by simpa using List.find?_some hrow
    rw [Option.map_some, ← hname]
    exact h.carries_send c _

/-- The same channel ids exist. -/
theorem mem_channels_iff (id : Nat) :
    id ∈ σ.channels.map ChatChannel.id ↔ ∃ channel, s.db.getChatChannel id = some channel := by
  rw [h.channels, List.mem_map]
  constructor
  · rintro ⟨channel, hrow, hid⟩
    exact ⟨channel, Database.getChatChannel_eq_some.mpr ⟨hid, hrow⟩⟩
  · rintro ⟨channel, hchannel⟩
    obtain ⟨hid, hrow⟩ := Database.getChatChannel_eq_some.mp hchannel
    exact ⟨channel, hrow, hid⟩

/-- After the assignment of a connection it is in the channel. -/
theorem channelOf_assignConnection (ch : Nat) :
    Function.update σ.channelOf c (some ch)
      = (s.channels.assignConnection c ch).connectionChannelMap.findLeft := by
  have hfree : ∀ x, (c, x) ∉ s.channels.connectionChannelMap.eraseLeft c := by
    intro x hx
    exact (MultiBimap.mem_eraseLeft.mp hx).2 rfl
  show _ = ((s.channels.connectionChannelMap.eraseLeft c).insert c ch).findLeft
  rw [MultiBimap.findLeft_insert ch hfree, MultiBimap.findLeft_eraseLeft, h.channelOf]
  exact (Function.update_idem ..).symm

/-- The answer to a join, with its events, is that of the service. -/
theorem carries_join {u : Nat} (m : JoinChatChannelRequestMessage) :
    Carries s (match s.db.getChatChannel m.channelId with
      | none => [handleRpcError c m.requestId "Channel not found."]
      | some _ => s.joinReplies c u m.channelId m.requestId) σ (σ.join c u m).2 := by
  unfold ChatService.join
  have hmem := h.mem_channels_iff m.channelId
  cases hchannel : s.db.getChatChannel m.channelId with
  | none =>
    have hnot : m.channelId ∉ σ.channels.map ChatChannel.id := by
      rw [hmem, hchannel]
      simp
    rw [if_neg hnot]
    exact h.carries_send c _
  | some channel =>
    rw [if_pos (hmem.mpr ⟨channel, hchannel⟩)]
    -- The events of the new channel go to the members after the move.
    have hjoined : Carries s _ σ _ :=
      (Carries.broadcastTo
        { σ with channelOf := Function.update σ.channelOf c (some m.channelId) } h.connections
        (h.channelOf_assignConnection c m.channelId) m.channelId
        (.channelJoinEvent ⟨m.channelId, u⟩)).cons
      (h.carries_send c (.joinChatChannelResponse ⟨m.requestId, m.channelId⟩))
    show Carries s (s.joinReplies c u m.channelId m.requestId) σ _
    unfold ServerState.joinReplies
    simp only [← congrFun h.channelOf c]
    cases σ.channelOf c with
    | none => exact hjoined
    | some previous =>
      exact (Carries.broadcastTo σ h.connections h.channelOf previous _).cons hjoined

/-- The messages of a channel that a request for the newest ones gets. -/
theorem getMessagesBefore_eq (hlen : σ.history.length < uint32Size - 1) (ch limit : Nat) :
    (s.messages.getMessagesBefore s.db ch maxMessageId limit).2 = (σ.chats ch).rtake limit := by
  obtain ⟨l, hinv, hdb, hstore, -, hhistory⟩ := h.remembers
  have hresult := (Lifetimes.getMessagesBefore_of_historyInv hinv (hhistory ▸ hlen) ch limit).1
  rw [hdb, hstore] at hresult
  rw [hresult, Lifetimes.channelHistory, hhistory]
  rfl

/-- The server hands the connections what the service sends them. -/
theorem carries_handle (hlen : σ.history.length < uint32Size - 1) (m : Message) :
    Carries s (s.handle c m).2 σ (σ.handle c m).2 := by
  rw [ServerState.handle_replies h.consistent c m]
  cases m with
  | createUserRequest m => exact h.carries_createUser c m
  | authenticateUserRequest m => exact h.carries_authenticate c m
  | getUsersRequest m =>
    refine h.carries_authorized c fun u _ => ?_
    rw [h.users]
    exact h.carries_send c _
  | getUserRequest m =>
    refine h.carries_authorized c fun u _ => ?_
    have hfind : s.db.getUserByName m.name
        = (σ.users.find? (·.name = m.name)).map fun row => ⟨row.id, m.name⟩ := by
      rw [h.users]
      rfl
    rw [hfind]
    cases hrow : σ.users.find? (·.name = m.name) with
    | none => exact h.carries_send c _
    | some row =>
      -- The response has the name of the request, which is that of the row.
      have hname : row.name = m.name := by simpa using List.find?_some hrow
      rw [Option.map_some, ← hname]
      exact h.carries_send c _
  | writeChat m => exact h.carries_authorized c fun u _ => h.carries_write c m.content
  | createChannelRequest m => exact h.carries_authorized c fun u _ => h.carries_createChannel c m
  | joinChatChannelRequest m => exact h.carries_authorized c fun u _ => h.carries_join c m
  | getChatsRequest m =>
    refine h.carries_authorized c fun u _ => ?_
    rw [h.getMessagesBefore_eq hlen]
    exact h.carries_send c _
  | getChatChannelsRequest m =>
    refine h.carries_authorized c fun u _ => ?_
    rw [show s.channels.getChannels = σ.channels from h.complete.trans h.channels.symm]
    exact h.carries_send c _
  | getChatChannelRequest m =>
    refine h.carries_authorized c fun u _ => ?_
    have hfind : s.db.getChatChannel m.channelId
        = (σ.channels.find? (·.id = m.channelId)).map fun row => ⟨m.channelId, row.name⟩ := by
      rw [h.channels]
      rfl
    rw [hfind]
    cases hrow : σ.channels.find? (·.id = m.channelId) with
    | none => exact h.carries_send c _
    | some channel =>
      -- The response has the id of the request, which is that of the row.
      have hid : channel.id = m.channelId := by simpa using List.find?_some hrow
      rw [Option.map_some, ← hid]
      exact h.carries_send c _
  | shutdown m => exact h.carries_authorized c fun u _ => .nil s σ
  | logoutRequest m =>
    exact h.carries_authorized c fun u _ => (h.carries_broadcast _).cons (h.carries_send c _)
  | _ => exact .nil s σ

end Implements

/-! ### The history -/

section

variable {history : List ChatMessage}

/-- Users and channels may be added to the database. -/
theorem Remembers.grow (h : Remembers s p history) {db : Database}
    (hmessages : db.messages = s.db.messages) (hchannels : s.db.channels.keys ⊆ db.channels.keys)
    {s' : ServerState} (hdb : s'.db = db) (hstore : s'.messages = s.messages) :
    Remembers s' p history := by
  obtain ⟨l, hinv, hldb, hlstore, hlp, hhistory⟩ := h
  have hrows : db.messages = l.current.db.messages := hmessages.trans (congrArg _ hldb.symm)
  refine ⟨{ l with current := { l.current with db := db } }, ?_, hdb.symm,
    hlstore.trans hstore.symm, hlp, hhistory⟩
  have hp := hinv.persist
  refine ⟨⟨?_, hp.ascending, hp.nextId, hp.below, hp.stored, hp.latest, hp.batch, hp.publish,
    hp.logs, hp.logged⟩, hinv.history, hinv.ids, fun m hm => ?_, hinv.unlogged, hinv.logged⟩
  · rw [hrows]
    exact hp.split
  · rw [← hldb] at hchannels
    exact hchannels (hinv.channels m hm)

/-- With the same database and the same message store, the history is the same. -/
theorem Remembers.of_eq {s' : ServerState} (h : Remembers s p history) (hdb : s'.db = s.db)
    (hstore : s'.messages = s.messages) : Remembers s' p history :=
  h.grow rfl (List.Subset.refl _) hdb hstore

/-- A step of the message store, as a step of `lifetimes`. -/
theorem Remembers.step {s' : ServerState} {p' : PersistStep} {history' : List ChatMessage}
    (h : Remembers s p history) (o : LifetimesOp)
    (hstep : ∀ l : Lifetimes, l.HistoryInv → l.current.db = s.db → l.current.store = s.messages →
      l.current.persist = p → l.history = history → ∃ l', l.step o = some l' ∧ servesHistory l o ∧
        l'.current.db = s'.db ∧ l'.current.store = s'.messages ∧ l'.current.persist = p' ∧
        l'.history = history')
    (hlen : history'.length < uint32Size - 1) : Remembers s' p' history' := by
  obtain ⟨l, hinv, hdb, hstore, hp, hhistory⟩ := h
  obtain ⟨l', hs, hok, hdb', hstore', hp', hhistory'⟩ := hstep l hinv hdb hstore hp hhistory
  exact ⟨l', Lifetimes.historyInv_step hinv hok hs (hhistory' ▸ hlen), hdb', hstore', hp',
    hhistory'⟩

end

/-! ### The flag of the application -/

namespace ServerState

/-- A session check keeps the server running when what follows does. -/
theorem running_validateRpcSession {c requestId : Nat} {rest : ServerState × List Call}
    (h : rest.1.running = s.running) :
    (s.validateRpcSession requestId c rest).1.running = s.running := by
  unfold validateRpcSession
  split
  · exact h
  · rfl

/-- `RemoveSession` keeps the server running. -/
theorem running_removeSession (c : Nat) : (s.removeSession c).1.running = s.running := by
  unfold removeSession
  split
  split <;> rfl

/-- Only a shutdown changes the flag. -/
theorem running_handle (c : Nat) (m : Message) (hm : m.type ≠ .shutdown) :
    (s.handle c m).1.running = s.running := by
  cases m with
  | shutdown m => exact absurd rfl hm
  | createUserRequest m =>
    simp only [handle, handleCreateUser]
    repeat' split
    all_goals rfl
  | authenticateUserRequest m =>
    simp only [handle, handleAuthenticateUser]
    repeat' split
    all_goals rfl
  | getUserRequest m =>
    simp only [handle, handleGetUser]
    refine running_validateRpcSession ?_
    cases s.users.getUserByName s.db m.name with
    | mk users result => cases result <;> rfl
  | getChatChannelRequest m =>
    simp only [handle, handleGetChatChannel]
    refine running_validateRpcSession ?_
    cases s.channels.getChannel s.db m.channelId with
    | mk channels result => cases result <;> rfl
  | writeChat m =>
    simp only [handle, handleWriteChatMessage, validateSession]
    repeat' split
    all_goals rfl
  | createChannelRequest m =>
    simp only [handle, handleCreateChatChannel]
    refine running_validateRpcSession ?_
    cases s.users.getSessionUser s.db c with
    | mk users potentialUser =>
      cases potentialUser with
      | none => rfl
      | some user =>
        -- A name that is taken is looked up, and a new one is cached.
        cases s.db.createChatChannel m.name with
        | mk db result =>
          cases result with
          | some channel => rfl
          | none =>
            cases s.channels.getChannelByName db m.name with
            | mk channels cached =>
              cases cached <;> rfl
  | joinChatChannelRequest m =>
    simp only [handle, handleJoinChatChannel]
    refine running_validateRpcSession ?_
    cases s.users.getSessionUser s.db c with
    | mk users potentialUser =>
      cases potentialUser with
      | none => rfl
      | some user =>
        cases s.channels.getChannel s.db m.channelId with
        | mk channels potentialChannel =>
          cases potentialChannel <;> rfl
  | logoutRequest m => exact running_validateRpcSession (running_removeSession c)
  | getUsersRequest m => exact running_validateRpcSession rfl
  | getChatsRequest m => exact running_validateRpcSession rfl
  | getChatChannelsRequest m => exact running_validateRpcSession rfl
  | _ => rfl

end ServerState

/-! ### The state after a message -/

namespace Implements

/-- After lookups the server is in the same state for the service. -/
theorem of_served {s' : ServerState} (h : Implements s p σ) (hs : Served s s')
    (hcomplete : s'.channels.Complete s'.db) (hrunning : s'.running = s.running) :
    Implements s' p σ where
  consistent := h.consistent.of_served hs
  complete := hcomplete
  users := by rw [hs.db, h.users]
  channels := by rw [hs.db, h.channels]
  userOf := by rw [hs.sessions, h.userOf]
  channelOf := by rw [hs.assigned, h.channelOf]
  connections := by rw [hs.connections]; exact h.connections
  nodup := by rw [hs.connections]; exact h.nodup
  below := by rw [hs.connections, hs.nextConnectionId]; exact h.below
  opened := by rw [hs.nextConnectionId, h.opened]
  running := by rw [hrunning, h.running]
  remembers := h.remembers.of_eq hs.db hs.messages

/-- What every message leaves as it is. -/
theorem of_handled {c : Nat} {m : Message} {s' : ServerState} {calls : List Call}
    {σ' : ChatService} (h : Implements s p σ) (hh : Handled s c m s' calls)
    (hcomplete : s'.channels.Complete s'.db) (hconnections : σ'.connections = σ.connections)
    (hopened : σ'.opened = σ.opened) (husers : σ'.users = s'.db.users.rows)
    (hchannels : σ'.channels = s'.db.channels.rows)
    (huserOf : σ'.userOf = s'.users.userSessions.findLeft)
    (hchannelOf : σ'.channelOf = s'.channels.connectionChannelMap.findLeft)
    (hrunning : σ'.running = s'.running) (hremembers : Remembers s' p σ'.history) :
    Implements s' p σ' := by
  obtain ⟨hconn, hnext⟩ := ServerState.connections_handled hh
  refine ⟨h.consistent.handled hh, hcomplete, husers, hchannels, huserOf, hchannelOf, ?_, ?_, ?_,
    ?_, hrunning, hremembers⟩
  · rw [hconnections, hconn]
    exact h.connections
  · rw [hconn]
    exact h.nodup
  · rw [hconn, hnext]
    exact h.below
  · rw [hnext, hopened]
    exact h.opened

end Implements

/-- `s'` is the state after the message. -/
structure Answered (s : ServerState) (c : Nat) (m : Message) (s' : ServerState) : Prop where
  handled : Handled s c m s' (s.replies c m)
  complete : s'.channels.Complete s'.db
  running : m.type ≠ .shutdown → s'.running = s.running

/-- What is known about a handler applies to a server that implements the service. -/
theorem Implements.answered_handle (h : Implements s p σ) (c : Nat) (m : Message) :
    Answered s c m (s.handle c m).1 where
  handled := by
    rw [← ServerState.handle_replies h.consistent c m]
    exact ServerState.handled_handle h.consistent c m
  complete := (ServerState.complete_handle h.complete h.consistent c m).2
  running := ServerState.running_handle c m

namespace Implements

variable {c : Nat} {s' : ServerState} (h : Implements s p σ)
include h

/-- After `CreateUser` the server implements the next service. -/
theorem answered_createUser {m : CreateUserRequestMessage}
    (ha : Answered s c (.createUserRequest m) s') : Implements s' p (σ.createUser c m).1 := by
  obtain ⟨hh, hcomplete, hrunning⟩ := ha
  have hh' := hh
  generalize hcalls : s.replies c (.createUserRequest m) = calls at hh
  simp only [ServerState.replies] at hcalls
  unfold ChatService.createUser
  by_cases htaken : m.name ∈ s.db.users.rows.map UserRow.name
  · rw [if_pos (h.users ▸ htaken)]
    cases hh with
    | served hs _ => exact h.of_served hs hcomplete (hrunning (by simp [Message.type]))
    | createdUser hcreate =>
      rw [Database.createUser_of_taken m.password htaken] at hcreate
      -- `CreateUser` fails where the name is taken.
      cases hcreate
  · rw [if_neg fun hin => htaken (h.users ▸ hin)]
    rw [if_neg htaken] at hcalls
    subst hcalls
    cases hh with
    | served hs hquiet => exact absurd rfl (hquiet _ (List.mem_singleton_self _)).1
    | createdUser hcreate =>
      obtain ⟨db, heq, hrows, hchannels, hmessages⟩ :=
        @Database.createUser_of_fresh s.db m.name m.password htaken
      rw [heq] at hcreate
      cases hcreate
      refine h.of_handled hh' hcomplete rfl rfl ?_ ?_ h.userOf h.channelOf h.running ?_
      · rw [hrows, ← h.nextKey_users, h.users]
      · rw [hchannels, h.channels]
      · refine h.remembers.grow hmessages ?_ rfl rfl
        rw [hchannels]
        exact List.Subset.refl _

/-- After `AuthenticateUser` the server implements the next service. -/
theorem answered_authenticate {m : AuthenticateUserRequestMessage}
    (ha : Answered s c (.authenticateUserRequest m) s') :
    Implements s' p (σ.authenticate c m).1 := by
  obtain ⟨hh, hcomplete, hrunning⟩ := ha
  have hh' := hh
  generalize hcalls : s.replies c (.authenticateUserRequest m) = calls at hh
  simp only [ServerState.replies, ← congrFun h.userOf c, h.matchUserCredentials_eq] at hcalls
  unfold ChatService.authenticate
  cases hh with
  | served hs hquiet =>
    have hσ : Implements s' p σ := h.of_served hs hcomplete (hrunning (by simp [Message.type]))
    cases hu : σ.userOf c with
    | some u => exact hσ
    | none =>
      cases hrow : σ.users.find? fun row => row.name = m.name ∧ row.password = m.password with
      | none => exact hσ
      | some row =>
        by_cases hex : ∃ c', σ.userOf c' = some row.id
        · simp only [if_pos hex]
          exact hσ
        · -- The login would have been answered with a response.
          have hfree : ¬ s.users.hasUserSession row.id = true := by
            rw [ServerState.hasUserSession_iff]
            rintro ⟨c', hc'⟩
            exact hex ⟨c', h.userOf_eq_some.mpr hc'⟩
          simp only [hu, hrow, Option.map_some, if_neg hfree] at hcalls
          subst hcalls
          exact absurd rfl (hquiet _ List.mem_cons_self).2.1
  | authenticated hfree hmatch huser =>
    have hu : σ.userOf c = none := by
      rw [h.userOf]
      exact Bimap.findLeft_eq_none.mpr hfree
    rw [h.matchUserCredentials_eq] at hmatch
    obtain ⟨row, hrow, rfl⟩ := Option.map_eq_some_iff.mp hmatch
    -- No connection has this user, here and there.
    have hex : ¬ ∃ c', σ.userOf c' = some row.id := by
      rintro ⟨c', hc'⟩
      exact huser c' (h.userOf_eq_some.mp hc')
    simp only [hu, hrow, if_neg hex]
    refine h.of_handled hh' hcomplete rfl rfl h.users h.channels ?_ h.channelOf h.running
      (h.remembers.grow rfl (List.Subset.refl _) rfl rfl)
    show _ = (s.users.userSessions.insert c row.id).findLeft
    rw [Bimap.findLeft_insert hfree huser, h.userOf]

/-- Without a user of the connection nothing changes. -/
theorem answered_of_no_user {m : Message} (hu : σ.userOf c = none)
    (hcreate : m.type ≠ .createUserRequest) (hauthenticate : m.type ≠ .authenticateUserRequest) :
    Implements (s.handle c m).1 p σ := by
  have hfree : ∀ u, (c, u) ∉ s.users.userSessions := fun u hmem => by
    rw [h.userOf_eq_some.mpr hmem] at hu
    cases hu
  rw [ServerState.handle_of_no_session hfree hcreate hauthenticate]
  exact h

/-- A written message is the next one of the history. -/
theorem remembers_write {ch u : Nat} {content : String} (hassigned : (c, ch) ∈
      s.channels.connectionChannelMap) (hdb : s'.db = s.db)
    (hstore : s'.messages = s.messages.createMessage ch u content)
    (hlen : σ.history.length + 1 < uint32Size - 1) :
    Remembers s' p (σ.history ++ [⟨σ.history.length, ch, u, content⟩]) := by
  refine h.remembers.step (.op (.createMessage ch u content)) ?_ (by simpa using hlen)
  intro l hinv hldb hlstore hlp hhistory
  refine ⟨_, rfl, ?_, hldb.trans hdb.symm, ?_, hlp, ?_⟩
  · show ch ∈ l.current.db.channels.keys
    rw [hldb]
    exact h.consistent.assigned c ch hassigned
  · show l.current.store.createMessage ch u content = s'.messages
    rw [hlstore, hstore]
  · show l.earlier ++ (l.current.created ++ [l.current.store.nextMessage ch u content]) = _
    have hid : (l.current.store.nextMessage ch u content).id = l.history.length := hinv.nextId
    rw [← List.append_assoc, show l.earlier ++ l.current.created = σ.history from hhistory]
    rw [← hhistory, ← hid]
    rfl

/-- After a write the server implements the next service. -/
theorem answered_write {u : Nat} {m : WriteChatMessage} (hu : σ.userOf c = some u)
    (ha : Answered s c (.writeChat m) s')
    (hlen : (σ.write c u m.content).1.history.length < uint32Size - 1) :
    Implements s' p (σ.write c u m.content).1 := by
  obtain ⟨hh, hcomplete, hrunning⟩ := ha
  have hh' := hh
  generalize hcalls : s.replies c (.writeChat m) = calls at hh
  simp only [ServerState.replies, ServerState.authorized, ← congrFun h.userOf c, hu,
    ← congrFun h.channelOf c] at hcalls
  unfold ChatService.write at hlen ⊢
  cases hch : σ.channelOf c with
  | none =>
    simp only [hch] at hcalls
    cases hh with
    | served hs _ => exact h.of_served hs hcomplete (hrunning (by simp [Message.type]))
    | wrote hs _ hassigned =>
      -- The message was written, so there is a channel.
      rw [h.channelOf_eq_some.mpr hassigned] at hch
      cases hch
  | some ch =>
    simp only [hch] at hcalls hlen
    subst hcalls
    cases hh with
    | served hs hquiet => exact absurd (hquiet _ List.mem_cons_self) id
    | wrote hs _ hassigned =>
      refine h.of_handled hh' hcomplete rfl rfl ?_ ?_ ?_ ?_ ?_ ?_
      · rw [hs.db, h.users]
      · rw [hs.db, h.channels]
      · rw [hs.sessions, h.userOf]
      · rw [hs.assigned, h.channelOf]
      · rw [hrunning (by simp [Message.type]), h.running]
      · exact h.remembers_write hassigned hs.db rfl (by simpa using hlen)

/-- After `CreateChannel` the server implements the next service. -/
theorem answered_createChannel {u : Nat} {m : CreateChannelRequestMessage}
    (hu : σ.userOf c = some u) (hrows : s'.db.channels.rows
      = s.db.channels.rows ++ (s.newChannel c (.createChannelRequest m)).toList)
    (ha : Answered s c (.createChannelRequest m) s') :
    Implements s' p (σ.createChannel c u m).1 := by
  obtain ⟨hh, hcomplete, hrunning⟩ := ha
  have hfind := h.getChatChannelByName_eq m.name
  -- The service adds the channel that the server inserts.
  have hchannels : (σ.createChannel c u m).1
      = { σ with channels := s'.db.channels.rows } := by
    have hnew : s.newChannel c (.createChannelRequest m) = (s.db.createChatChannel m.name).2 := by
      unfold ServerState.newChannel
      rw [← congrFun h.userOf c, hu]
      rfl
    rw [hrows, hnew]
    unfold ChatService.createChannel
    cases hrow : σ.channels.find? (·.name = m.name) with
    | some channel =>
      rw [hrow] at hfind
      rw [Database.createChatChannel_of_taken hfind]
      simp [← h.channels]
    | none =>
      rw [hrow] at hfind
      rw [Database.createChatChannel_of_fresh hfind, h.nextKey_channels]
      simp [← h.channels]
  have hkeys : s.db.channels.keys ⊆ s'.db.channels.keys := by
    unfold Table.keys
    rw [hrows, List.map_append]
    exact List.subset_append_left _ _
  have hh' := hh
  generalize s.replies c (.createChannelRequest m) = calls at hh
  rw [hchannels]
  cases hh with
  | served hs _ =>
    refine h.of_handled hh' hcomplete rfl rfl ?_ rfl ?_ ?_ ?_ (h.remembers.of_eq hs.db hs.messages)
    · rw [hs.db, h.users]
    · rw [hs.sessions, h.userOf]
    · rw [hs.assigned, h.channelOf]
    · rw [hrunning (by simp [Message.type]), h.running]
  | @createdChannel r s1 db channel u hs hcreate =>
    obtain ⟨-, -, husers, hmessages⟩ := Database.createChatChannel_spec hcreate
    refine h.of_handled hh' hcomplete rfl rfl ?_ rfl ?_ ?_ ?_ ?_
    · rw [husers, h.users]
    · rw [hs.sessions, h.userOf]
    · show _ = (s1.channels.cacheChannel channel).1.connectionChannelMap.findLeft
      rw [ChannelStore.connectionChannelMap_cacheChannel, hs.assigned, h.channelOf]
    · rw [hrunning (by simp [Message.type]), h.running]
    · exact h.remembers.grow hmessages hkeys rfl hs.messages

/-- After a join the server implements the next service. -/
theorem answered_join {u : Nat} {m : JoinChatChannelRequestMessage} (hu : σ.userOf c = some u)
    (ha : Answered s c (.joinChatChannelRequest m) s') : Implements s' p (σ.join c u m).1 := by
  obtain ⟨hh, hcomplete, hrunning⟩ := ha
  have hh' := hh
  generalize hcalls : s.replies c (.joinChatChannelRequest m) = calls at hh
  simp only [ServerState.replies, ServerState.authorized, ← congrFun h.userOf c, hu] at hcalls
  unfold ChatService.join
  have hmem := h.mem_channels_iff m.channelId
  cases hh with
  | served hs hquiet =>
    have hσ : Implements s' p σ := h.of_served hs hcomplete (hrunning (by simp [Message.type]))
    split
    · rename_i hin
      obtain ⟨channel, hchannel⟩ := hmem.mp hin
      -- The join would have been answered with a response.
      rw [hchannel] at hcalls
      subst hcalls
      have hlast : Call.send c (.joinChatChannelResponse ⟨m.requestId, m.channelId⟩)
          ∈ s.joinReplies c u m.channelId m.requestId := by
        unfold ServerState.joinReplies
        simp
      exact absurd rfl (hquiet _ hlast).2.2.1
    · exact hσ
  | @joined r s1 u' calls hs hsession hchannel _ =>
    have hin : m.channelId ∈ σ.channels.map ChatChannel.id := by
      rw [h.channels]
      exact hchannel
    rw [if_pos hin]
    refine h.of_handled hh' hcomplete rfl rfl ?_ ?_ ?_ ?_ ?_ (h.remembers.of_eq hs.db hs.messages)
    · rw [hs.db, h.users]
    · rw [hs.db, h.channels]
    · rw [hs.sessions, h.userOf]
    · have hmap := h.channelOf_assignConnection c m.channelId
      unfold ChannelStore.assignConnection ChannelStore.unassignConnection at hmap ⊢
      rw [hs.assigned]
      exact hmap
    · rw [hrunning (by simp [Message.type]), h.running]

/-- A page for a client changes the caches of the message store at most. -/
theorem answered_getChats {m : GetChatsRequestMessage} (ha : Answered s c (.getChatsRequest m) s')
    (hlen : σ.history.length < uint32Size - 1) : Implements s' p σ := by
  obtain ⟨hh, hcomplete, hrunning⟩ := ha
  have hh' := hh
  generalize s.replies c (.getChatsRequest m) = calls at hh
  cases hh with
  | served hs _ => exact h.of_served hs hcomplete (hrunning (by simp [Message.type]))
  | read =>
    refine h.of_handled hh' hcomplete rfl rfl h.users h.channels h.userOf h.channelOf h.running ?_
    refine h.remembers.step (.op (.getMessagesBefore m.channelId maxMessageId m.limit)) ?_ hlen
    intro l hinv hldb hlstore hlp hhistory
    refine ⟨_, rfl, rfl, hldb, ?_, hlp, hhistory⟩
    show (l.current.store.getMessagesBefore l.current.db m.channelId maxMessageId m.limit).1 = _
    rw [hldb, hlstore]

/-- After a logout the server implements the next service. -/
theorem answered_logout {u : Nat} {m : LogoutRequestMessage} (hu : σ.userOf c = some u)
    (ha : Answered s c (.logoutRequest m) s') :
    Implements s' p { σ with
      userOf := Function.update σ.userOf c none
      channelOf := Function.update σ.channelOf c none } := by
  obtain ⟨hh, hcomplete, hrunning⟩ := ha
  have hh' := hh
  generalize hcalls : s.replies c (.logoutRequest m) = calls at hh
  simp only [ServerState.replies, ServerState.authorized, ← congrFun h.userOf c, hu] at hcalls
  cases hh with
  | served hs hquiet =>
    subst hcalls
    have hmem : Call.send c (.logoutResponse ⟨m.requestId⟩)
        ∈ [Call.broadcast (.userLogoutEvent ⟨u⟩), .send c (.logoutResponse ⟨m.requestId⟩)] :=
      List.mem_cons_of_mem _ List.mem_cons_self
    exact absurd rfl (hquiet _ hmem).2.2.2
  | @loggedOut r s1 u' hs _ =>
    refine h.of_handled hh' hcomplete rfl rfl ?_ ?_ ?_ ?_ ?_ (h.remembers.of_eq hs.db hs.messages)
    · rw [hs.db, h.users]
    · rw [hs.db, h.channels]
    · show _ = (s1.users.userSessions.eraseLeft c).findLeft
      rw [Bimap.findLeft_eraseLeft, hs.sessions, h.userOf]
    · show _ = (s1.channels.connectionChannelMap.eraseLeft c).findLeft
      rw [MultiBimap.findLeft_eraseLeft, hs.assigned, h.channelOf]
    · rw [hrunning (by simp [Message.type]), h.running]

/-- A message that asks for users or channels. -/
theorem answered_lookup {m : Message} (ha : Answered s c m s')
    (hm : m.type ∈ [MessageType.getUsersRequest, .getUserRequest, .getChatChannelsRequest,
      .getChatChannelRequest]) : Implements s' p σ := by
  obtain ⟨hh, hcomplete, hrunning⟩ := ha
  generalize s.replies c m = calls at hh
  cases hh with
  | served hs _ =>
    refine h.of_served hs hcomplete (hrunning ?_)
    rintro heq
    rw [heq] at hm
    simp at hm
  | _ => simp [Message.type] at hm

/-- Every message of a connection leads to the state of the service after it. -/
theorem handle (m : Message) (hlen : (σ.handle c m).1.history.length < uint32Size - 1)
    (hlen0 : σ.history.length < uint32Size - 1) :
    Implements (s.handle c m).1 p (σ.handle c m).1 := by
  have ha := h.answered_handle c m
  have hnone := h.answered_of_no_user (c := c) (m := m)
  cases m with
  | createUserRequest m => exact h.answered_createUser ha
  | authenticateUserRequest m => exact h.answered_authenticate ha
  | writeChat m =>
    simp only [ChatService.handle, ChatService.authorized] at hlen ⊢
    cases hu : σ.userOf c with
    | none => exact hnone hu nofun nofun
    | some u =>
      rw [hu] at hlen
      exact h.answered_write hu ha hlen
  | createChannelRequest m =>
    simp only [ChatService.handle, ChatService.authorized]
    cases hu : σ.userOf c with
    | none => exact hnone hu nofun nofun
    | some u =>
      exact h.answered_createChannel hu
        (ServerState.complete_handle h.complete h.consistent c (.createChannelRequest m)).1 ha
  | joinChatChannelRequest m =>
    simp only [ChatService.handle, ChatService.authorized]
    cases hu : σ.userOf c with
    | none => exact hnone hu nofun nofun
    | some u => exact h.answered_join hu ha
  | getChatsRequest m =>
    have hσ := h.answered_getChats ha hlen0
    simp only [ChatService.handle, ChatService.authorized]
    cases σ.userOf c <;> exact hσ
  | logoutRequest m =>
    simp only [ChatService.handle, ChatService.authorized]
    cases hu : σ.userOf c with
    | none => exact hnone hu nofun nofun
    | some u => exact h.answered_logout hu ha
  | shutdown m =>
    simp only [ChatService.handle, ChatService.authorized]
    cases hu : σ.userOf c with
    | none => exact hnone hu nofun nofun
    | some u =>
      -- A session of the service is one of the server, so the handler goes on.
      have hsession : s.users.hasSession c = true :=
        ServerState.hasSession_iff.mpr ⟨u, h.userOf_eq_some.mp hu⟩
      have heq : s.handle c (.shutdown m) = ({ s with running := false }, []) := if_pos hsession
      rw [heq] at ha ⊢
      exact h.of_handled ha.handled ha.complete rfl rfl h.users h.channels h.userOf h.channelOf rfl
        (h.remembers.grow rfl (List.Subset.refl _) rfl rfl)
  | getUsersRequest m | getChatChannelsRequest m =>
    have hσ := h.answered_lookup ha (by simp [Message.type])
    simp only [ChatService.handle, ChatService.authorized]
    cases σ.userOf c <;> exact hσ
  | getUserRequest m =>
    have hσ := h.answered_lookup ha (by simp [Message.type])
    simp only [ChatService.handle, ChatService.authorized]
    cases σ.userOf c with
    | none => exact hσ
    | some u => cases σ.users.find? (·.name = m.name) <;> exact hσ
  | getChatChannelRequest m =>
    have hσ := h.answered_lookup ha (by simp [Message.type])
    simp only [ChatService.handle, ChatService.authorized]
    cases σ.userOf c with
    | none => exact hσ
    | some u => cases σ.channels.find? (·.id = m.channelId) <;> exact hσ
  | _ => exact h

end Implements

/-! ### The other steps -/

/-- `Prewarm` reads the users and the channels of the database, and nobody is connected. -/
theorem implements_begin {db : Database} {history : List ChatMessage}
    (h : Remembers (ServerState.begin db) .idle history) :
    Implements (ServerState.begin db) .idle
      { users := db.users.rows, channels := db.channels.rows, history := history } where
  consistent := ServerState.consistent_begin db
  complete := ChannelStore.complete_prewarm db
  users := rfl
  channels := rfl
  userOf := by
    show _ = (({} : UserStore).prewarm db).userSessions.findLeft
    rw [(UserStore.prewarm_spec (UserStore.cachedFrom_empty db)).2]
    rfl
  channelOf := by
    show _ = (({} : ChannelStore).prewarm db).connectionChannelMap.findLeft
    rw [(ChannelStore.prewarm_spec (ChannelStore.cachedFrom_empty db)).2]
    rfl
  connections := fun c => by simp [ServerState.begin]
  nodup := List.nodup_nil
  below := nofun
  opened := rfl
  running := rfl
  remembers := h

namespace Implements

variable (h : Implements s p σ)
include h

/-- The id of a new connection is above every id that was handed out. -/
theorem createConnection : Implements s.createConnection p (σ.step .connect).1 where
  consistent := ⟨h.consistent.users, h.consistent.channels, h.consistent.sessions,
    h.consistent.assigned⟩
  complete := h.complete
  users := h.users
  channels := h.channels
  userOf := h.userOf
  channelOf := h.channelOf
  connections := fun c => by
    show c ∈ insert (σ.opened + 1) σ.connections ↔ c ∈ s.connections ++ [s.nextConnectionId]
    rw [Set.mem_insert_iff, h.connections, h.opened, List.mem_append, List.mem_singleton, or_comm]
  nodup := by
    -- The new id is above all ids of connections.
    refine List.Nodup.append h.nodup (List.nodup_singleton _) ?_
    rw [List.disjoint_singleton]
    intro hmem
    exact absurd (h.below _ hmem) (Nat.lt_irrefl _)
  below := fun c hc => by
    show c < s.nextConnectionId + 1
    rcases List.mem_append.mp hc with hc | hc
    · have := h.below c hc
      omega
    · rw [List.mem_singleton.mp hc]
      omega
  opened := by
    show s.nextConnectionId + 1 = σ.opened + 1 + 1
    rw [h.opened]
  running := h.running
  remembers := h.remembers.of_eq rfl rfl

/-- The connection is removed first. -/
theorem removeConnection (c : Nat) :
    Implements (s.removeConnection c) p { σ with connections := σ.connections \ {c} } where
  consistent := ServerRun.consistent_removeConnection h.consistent c
  complete := h.complete
  users := h.users
  channels := h.channels
  userOf := h.userOf
  channelOf := h.channelOf
  connections := fun c' => by
    show c' ∈ σ.connections \ {c} ↔ c' ∈ s.connections.filter (· ≠ c)
    rw [Set.mem_sdiff, h.connections, Set.mem_singleton_iff, List.mem_filter]
    simp
  nodup := h.nodup.filter _
  below := fun c' hc' => h.below c' (List.mem_filter.mp hc').1
  opened := h.opened
  running := h.running
  remembers := h.remembers.of_eq rfl rfl

/-- Then the user is logged out, and the connections that are left are told so. -/
theorem disconnect (c : Nat) :
    Implements ((s.removeConnection c).removeSession c).1 p (σ.disconnect c).1 ∧
      ∀ o, handedTo ((s.removeConnection c).removeSession c).1.connections
          ((s.removeConnection c).removeSession c).2 o
        = (σ.disconnect c).1.received (σ.disconnect c).2 o := by
  have h' := h.removeConnection c
  unfold ChatService.disconnect
  cases hu : σ.userOf c with
  | none =>
    have hfree : ∀ u, (c, u) ∉ (s.removeConnection c).users.userSessions := fun u hmem => by
      rw [h.userOf_eq_some.mpr hmem] at hu
      cases hu
    rw [ServerState.removeSession_of_not_session c hfree]
    exact ⟨h', Carries.nil _ _⟩
  | some u =>
    have hmem : (c, u) ∈ (s.removeConnection c).users.userSessions := h.userOf_eq_some.mp hu
    obtain ⟨users, hserved, heq⟩ :=
      ServerState.removeSession_of_session h'.consistent c hmem
    have hconsistent := h'.consistent.removeSession c
    rw [heq] at hconsistent ⊢
    refine ⟨⟨hconsistent, h.complete, h.users, h.channels, ?_, h.channelOf, h'.connections,
      h'.nodup, h'.below, h.opened, h.running, h.remembers.of_eq rfl rfl⟩, h'.carries_broadcast _⟩
    show _ = (users.userSessions.eraseLeft c).findLeft
    have hsessions : users.userSessions = s.users.userSessions := hserved.sessions
    rw [Bimap.findLeft_eraseLeft, hsessions, h.userOf]

/-- The service does not see a step of `Persist`. -/
theorem persist {db : Database} {messages : MessageStore} {p' : PersistStep}
    (hstep : persistStep s.db s.messages p = some (db, messages, p'))
    (hlen : σ.history.length < uint32Size - 1) :
    Implements { s with db := db, messages := messages } p' σ := by
  obtain ⟨-, -, -, hchannels, husers⟩ := persistStep_frame hstep
  refine ⟨h.consistent.persistStep hstep, ?_, ?_, ?_, h.userOf, h.channelOf, h.connections, h.nodup,
    h.below, h.opened, h.running, ?_⟩
  · show s.channels.channels.rows = db.channels.rows
    rw [hchannels]
    exact h.complete
  · show σ.users = db.users.rows
    rw [husers, h.users]
  · show σ.channels = db.channels.rows
    rw [hchannels, h.channels]
  · refine h.remembers.step (.op .persist) ?_ hlen
    intro l hinv hldb hlstore hlp hhistory
    rw [← hldb, ← hlstore, ← hlp] at hstep
    have hs : ∃ batches, l.step (.op .persist) = some { l with
        current := { l.current with
          db := db
          store := messages
          persist := p'
          batches := batches } } := by
      simp only [Lifetimes.step, Lifetime.step, hstep, Option.map_some]
      exact ⟨_, rfl⟩
    obtain ⟨batches, hs⟩ := hs
    exact ⟨_, hs, trivial, rfl, rfl, rfl, hhistory⟩

/-- The next start finds the users, the channels and the whole history in the database. -/
theorem restart (hidle : p = .idle) {db : Database} {messages : MessageStore}
    (hpersist : persistToEnd s.db s.messages = some (db, messages))
    (hlen : σ.history.length < uint32Size - 1) :
    Implements (ServerState.begin db) .idle (σ.step .restart).1 := by
  have htables : db.channels = s.db.channels ∧ db.users = s.db.users := by
    unfold persistToEnd at hpersist
    obtain ⟨⟨db1, s1, p1⟩, h1, hpersist⟩ := Option.bind_eq_some_iff.mp hpersist
    obtain ⟨⟨db2, s2, p2⟩, h2, hpersist⟩ := Option.bind_eq_some_iff.mp hpersist
    obtain ⟨⟨db3, s3, p3⟩, h3, heq⟩ := Option.map_eq_some_iff.mp hpersist
    obtain ⟨-, -, -, hc1, hu1⟩ := persistStep_frame h1
    obtain ⟨-, -, -, hc2, hu2⟩ := persistStep_frame h2
    obtain ⟨-, -, -, hc3, hu3⟩ := persistStep_frame h3
    cases heq
    exact ⟨hc3.trans (hc2.trans hc1), hu3.trans (hu2.trans hu1)⟩
  have hremembers : Remembers (ServerState.begin db) .idle σ.history := by
    refine h.remembers.step .restart ?_ hlen
    intro l hinv hldb hlstore hlp hhistory
    rw [← hldb, ← hlstore] at hpersist
    refine ⟨⟨Lifetime.begin db, l.earlier ++ l.current.created⟩, ?_, trivial, rfl, rfl, rfl, ?_⟩
    · simp only [Lifetimes.step, hlp, hidle, hpersist, Option.map_some]
    · exact (List.append_nil _).trans hhistory
  have hbegin := implements_begin hremembers
  rw [htables.1, htables.2, ← h.users, ← h.channels] at hbegin
  exact hbegin

end Implements

end

/-! ### Runs -/

namespace ChatService

variable {s : ChatService}

/-- The state `s'` has the history of `s` and at most one more message. -/
def Extends (s s' : ChatService) : Prop :=
  ∃ written : Option ChatMessage, s'.history = s.history ++ written.toList

/-- A step that writes nothing extends the history. -/
theorem Extends.of_eq {s' : ChatService} (h : s'.history = s.history) : Extends s s' :=
  ⟨none, by simp [h]⟩

/-- A message of a connection forgets no written message, and writes at most one. -/
theorem extends_handle (c : Nat) (m : Message) : Extends s (s.handle c m).1 := by
  have hrefl : Extends s s := .of_eq rfl
  have hauthorized : ∀ {error : Message} {act : Nat → ChatService × List Notice},
      (∀ u, Extends s (act u).1) → Extends s (s.authorized c error act).1 := by
    intro error act hact
    unfold authorized
    cases s.userOf c with
    | none => exact hrefl
    | some u => exact hact u
  cases m with
  | createUserRequest m =>
    simp only [handle, createUser]
    split <;> exact .of_eq rfl
  | authenticateUserRequest m =>
    simp only [handle, authenticate]
    split
    · exact hrefl
    · exact hrefl
    · split <;> exact .of_eq rfl
  | writeChat m =>
    refine hauthorized fun u => ?_
    -- Only a write into a channel adds a message.
    unfold write
    cases s.channelOf c with
    | none => exact hrefl
    | some ch => exact ⟨some _, rfl⟩
  | createChannelRequest m =>
    refine hauthorized fun u => ?_
    unfold createChannel
    cases s.channels.find? (·.name = m.name) <;> exact .of_eq rfl
  | joinChatChannelRequest m =>
    refine hauthorized fun u => ?_
    unfold join
    split <;> exact .of_eq rfl
  | getUserRequest m =>
    refine hauthorized fun u => ?_
    cases s.users.find? (·.name = m.name) <;> exact hrefl
  | getChatChannelRequest m =>
    refine hauthorized fun u => ?_
    cases s.channels.find? (·.id = m.channelId) <;> exact hrefl
  | getUsersRequest m => exact hauthorized fun u => hrefl
  | getChatsRequest m => exact hauthorized fun u => hrefl
  | getChatChannelsRequest m => exact hauthorized fun u => hrefl
  | shutdown m => exact hauthorized fun u => .of_eq rfl
  | logoutRequest m => exact hauthorized fun u => .of_eq rfl
  | _ => exact hrefl

/-- No step forgets a written message. -/
theorem extends_step (op : ServiceOp) : Extends s (s.step op).1 := by
  cases op with
  | handle c m => exact extends_handle c m
  | connect => exact .of_eq rfl
  | restart => exact .of_eq rfl
  | disconnect c =>
    simp only [step, disconnect]
    cases s.userOf c <;> exact .of_eq rfl

/-- One step more is at most one message more. -/
theorem length_history_step (op : ServiceOp) :
    s.history.length ≤ (s.step op).1.history.length ∧
      (s.step op).1.history.length ≤ s.history.length + 1 := by
  obtain ⟨written, hwritten⟩ := @extends_step s op
  rw [hwritten, List.length_append]
  cases written <;> simp

/-- There are at most as many new messages as steps. -/
theorem length_history_after (ops : List ServiceOp) (s : ChatService) :
    (s.after ops).history.length ≤ s.history.length + ops.length := by
  induction ops generalizing s with
  | nil => exact Nat.le_refl _
  | cons op ops ih =>
    have hstep := (@length_history_step s op).2
    have hrest := ih (s.step op).1
    show ((s.step op).1.after ops).history.length ≤ s.history.length + (ops.length + 1)
    omega

/-- The outputs with one more operation. -/
theorem outputs_concat (op : ServiceOp) (ops : List ServiceOp) (s : ChatService) :
    s.outputs (ops ++ [op]) = s.outputs ops ++
      [((s.after ops).step op).1.received ((s.after ops).step op).2] := by
  induction ops generalizing s with
  | nil => rfl
  | cons o ops ih =>
    show _ :: (s.step o).1.outputs (ops ++ [op]) = _ :: _
    rw [ih]
    rfl

/-- The state after one more operation. -/
theorem after_concat (op : ServiceOp) (ops : List ServiceOp) (s : ChatService) :
    s.after (ops ++ [op]) = ((s.after ops).step op).1 := by
  unfold after
  rw [List.foldl_append]
  rfl

/-! ### The rows that a message refers to -/

/-- The users of the sessions and of the messages are registered. -/
structure Signed (s : ChatService) : Prop where
  sessions : ∀ c u, s.userOf c = some u → u ∈ s.users.map UserRow.id
  writers : ∀ m ∈ s.history, m.userId ∈ s.users.map UserRow.id

/-- A guarded operation keeps the history signed when its body does. -/
theorem Signed.authorized (h : s.Signed) {c : Nat} {error : Message}
    {act : Nat → ChatService × List Notice}
    (hact : ∀ u, s.userOf c = some u → (act u).1.Signed) :
    (s.authorized c error act).1.Signed := by
  unfold ChatService.authorized
  cases huser : s.userOf c with
  | none => exact h
  | some u => exact hact u huser

/-- The session of one connection changes, to a registered user or to none. -/
theorem Signed.update (h : s.Signed) (c : Nat) {session : Option Nat}
    (hsession : ∀ u, session = some u → u ∈ s.users.map UserRow.id) (c' u : Nat)
    (hu : Function.update s.userOf c session c' = some u) : u ∈ s.users.map UserRow.id := by
  by_cases heq : c' = c
  · rw [heq, Function.update_self] at hu
    exact hsession u hu
  · rw [Function.update_of_ne heq] at hu
    exact h.sessions c' u hu

/-- A message that is handled keeps the history signed. -/
theorem Signed.handle (h : s.Signed) (c : Nat) (m : Message) : (s.handle c m).1.Signed := by
  cases m with
  | createUserRequest m =>
    simp only [ChatService.handle, createUser]
    split
    · exact h
    · refine ⟨fun c' u hu => ?_, fun m' hm => ?_⟩
      · rw [List.map_append]
        exact List.mem_append_left _ (h.sessions c' u hu)
      · rw [List.map_append]
        exact List.mem_append_left _ (h.writers m' hm)
  | authenticateUserRequest m =>
    simp only [ChatService.handle, authenticate]
    split
    · exact h
    · exact h
    · rename_i row hnone hfind
      split
      · exact h
      · refine ⟨h.update c fun u hu => ?_, h.writers⟩
        cases hu
        exact List.mem_map_of_mem (List.mem_of_find?_eq_some hfind)
  | writeChat m =>
    refine h.authorized fun u hu => ?_
    unfold write
    cases s.channelOf c with
    | none => exact h
    | some channel =>
      refine ⟨h.sessions, fun m' hm => ?_⟩
      rcases List.mem_append.mp hm with hm | hm
      · exact h.writers m' hm
      · rw [List.mem_singleton.mp hm]
        exact h.sessions c u hu
  | createChannelRequest m =>
    refine h.authorized fun u _ => ?_
    unfold createChannel
    cases s.channels.find? (·.name = m.name) <;> exact ⟨h.sessions, h.writers⟩
  | joinChatChannelRequest m =>
    refine h.authorized fun u _ => ?_
    unfold join
    split <;> exact ⟨h.sessions, h.writers⟩
  | getUserRequest m =>
    refine h.authorized fun u _ => ?_
    cases s.users.find? (·.name = m.name) <;> exact h
  | getChatChannelRequest m =>
    refine h.authorized fun u _ => ?_
    cases s.channels.find? (·.id = m.channelId) <;> exact h
  | getUsersRequest m | getChatsRequest m | getChatChannelsRequest m =>
    exact h.authorized fun u _ => h
  | shutdown m => exact h.authorized fun u _ => ⟨h.sessions, h.writers⟩
  | logoutRequest m => exact h.authorized fun u _ => ⟨h.update c nofun, h.writers⟩
  | _ => exact h

/-- An operation keeps the history signed. -/
theorem Signed.step (h : s.Signed) (op : ServiceOp) : (s.step op).1.Signed := by
  cases op with
  | handle c m => exact h.handle c m
  | connect => exact ⟨h.sessions, h.writers⟩
  | restart => exact ⟨nofun, h.writers⟩
  | disconnect c =>
    simp only [ChatService.step, disconnect]
    cases s.userOf c with
    | none => exact ⟨h.sessions, h.writers⟩
    | some u => exact ⟨h.update c nofun, h.writers⟩

/-- A run keeps the history signed. -/
theorem Signed.after (ops : List ServiceOp) (h : s.Signed) : (s.after ops).Signed := by
  induction ops generalizing s with
  | nil => exact h
  | cons op ops ih => exact ih (h.step op)

end ChatService

namespace ServedRun

variable {r r' : ServedRun}

/-- The server is in the state of the service, and it has sent what the service sends. -/
structure Simulates (r : ServedRun) : Prop where
  implements : Implements r.current.server r.current.persist r.service
  outputs : r.outputs = (ChatService.ofDatabase r.start).outputs r.inputs

/-- The state of the service after one more input. -/
theorem service_record (current : ServerRun) (input : ServiceOp) (output : Nat → List Message) :
    (r.record current (some input) output).service = (r.service.step input).1 :=
  ChatService.after_concat input r.inputs _

/-- Without an input the service stays as it is. -/
theorem service_record_none (current : ServerRun) (output : Nat → List Message) :
    (r.record current none output).service = r.service := by
  show (ChatService.ofDatabase r.start).after (r.inputs ++ []) = _
  rw [List.append_nil]
  rfl

/-- A step that the connections see sends what the service sends for the input. -/
theorem Simulates.output_eq (h : r.Simulates) {current : ServerRun} {input : ServiceOp}
    {output : Nat → List Message} (h' : (r.record current (some input) output).Simulates) :
    output = (r.service.step input).1.received (r.service.step input).2 := by
  have houtputs : r.outputs ++ [output]
      = (ChatService.ofDatabase r.start).outputs (r.inputs ++ [input]) := h'.outputs
  rw [ChatService.outputs_concat, ← h.outputs] at houtputs
  exact List.head_eq_of_cons_eq (List.append_cancel_left houtputs)

/-- A step that the connections see. -/
theorem Simulates.record (h : r.Simulates) {current : ServerRun} {input : ServiceOp}
    {output : Nat → List Message}
    (himplements : Implements current.server current.persist (r.service.step input).1)
    (houtput : ∀ o, output o = (r.service.step input).1.received (r.service.step input).2 o) :
    (r.record current (some input) output).Simulates := by
  refine ⟨?_, ?_⟩
  · rw [service_record]
    exact himplements
  · show r.outputs ++ [output] = (ChatService.ofDatabase r.start).outputs (r.inputs ++ [input])
    rw [ChatService.outputs_concat, h.outputs, funext houtput]
    rfl

/-- A step that the connections do not see. -/
theorem Simulates.record_none (h : r.Simulates) {current : ServerRun}
    {output : Nat → List Message}
    (himplements : Implements current.server current.persist r.service) :
    (r.record current none output).Simulates := by
  refine ⟨?_, ?_⟩
  · rw [service_record_none]
    exact himplements
  · show r.outputs ++ [] = (ChatService.ofDatabase r.start).outputs (r.inputs ++ [])
    rw [List.append_nil, List.append_nil, h.outputs]

/-- A step is one of messages that the database takes. -/
theorem step_eq_some {o : ServedOp} : r.step o = some r' ↔
    (∀ m ∈ r.writes o, r.current.server.db.ForeignKeys m) ∧ r.transition o = some r' :=
  Option.ite_none_right_eq_some

/-- What a step of the server hands to the connections. -/
theorem step_op {o : ServerOp} (hs : r.step (.op o) = some r') :
    ∃ current calls, r.current.step o = some current ∧
      current.trace = r.current.trace ++ [⟨o, calls⟩] ∧
      r' = r.record current o.input (handedTo current.server.connections calls) := by
  obtain ⟨current, hcurrent, rfl⟩ := Option.map_eq_some_iff.mp (step_eq_some.mp hs).2
  obtain ⟨-, calls, htrace⟩ := ServerRun.step_trace hcurrent
  refine ⟨current, calls, hcurrent, htrace, ?_⟩
  rw [htrace, List.drop_left, List.flatMap_singleton]

/-- Every step of the server is one of the service, or one that the connections do not see. -/
theorem simulates_step {o : ServedOp} (h : r.Simulates) (hs : r.step o = some r')
    (hlen : r'.service.history.length < uint32Size - 1)
    (hlen0 : r.service.history.length < uint32Size - 1) : r'.Simulates := by
  cases o with
  | restart =>
    replace hs := (step_eq_some.mp hs).2
    simp only [transition] at hs
    split at hs
    · rename_i hidle
      obtain ⟨⟨db, messages⟩, hpersist, rfl⟩ := Option.map_eq_some_iff.mp hs
      refine h.record (h.implements.restart hidle hpersist hlen0) fun o => ?_
      unfold ChatService.received
      exact (ite_self _).symm
    · cases hs
  | op o =>
    obtain ⟨current, calls, hcurrent, htrace, rfl⟩ := step_op hs
    rcases ServerRun.step_cases hcurrent with ⟨rfl, rfl⟩ | ⟨c, m, rfl, -, rfl⟩ | ⟨c, rfl, -, rfl⟩ |
      ⟨db, messages, persist, rfl, hstep, rfl⟩
    · obtain rfl := ServerRun.calls_of_record htrace
      exact h.record h.implements.createConnection (Carries.nil _ _)
    · obtain rfl := ServerRun.calls_of_record htrace
      rw [show (ServerOp.handle c m).input = some (.handle c m) from rfl, service_record] at hlen
      -- A message changes the registered connections neither here nor there.
      have himplements := h.implements.handle (c := c) m hlen hlen0
      refine h.record himplements fun o => ?_
      obtain ⟨hconn, -⟩ := ServerState.connections_handled
        (ServerState.handled_handle h.implements.consistent c m)
      show handedTo (r.current.server.handle c m).1.connections _ o = _
      rw [hconn, h.implements.carries_handle c hlen0 m o]
      refine ChatService.received_congr ?_ _
      show o ∈ r.service.connections ↔ o ∈ (r.service.handle c m).1.connections
      rw [h.implements.connections, himplements.connections, hconn]
    · obtain rfl := ServerRun.calls_of_record htrace
      obtain ⟨himplements, hsent⟩ := h.implements.disconnect c
      exact h.record himplements hsent
    · exact h.record_none (h.implements.persist hstep hlen0)

/-- No step of the server makes the history shorter. -/
theorem length_history_le {o : ServedOp} (hs : r.step o = some r') :
    r.service.history.length ≤ r'.service.history.length := by
  have hrecord : ∀ (current : ServerRun) (input : Option ServiceOp) (output : Nat → List Message),
      r.service.history.length ≤ (r.record current input output).service.history.length := by
    intro current input output
    cases input with
    | some input =>
      rw [service_record]
      exact (ChatService.length_history_step input).1
    | none => rw [service_record_none]
  cases o with
  | restart =>
    replace hs := (step_eq_some.mp hs).2
    simp only [transition] at hs
    split at hs
    · obtain ⟨-, -, rfl⟩ := Option.map_eq_some_iff.mp hs
      exact hrecord ..
    · cases hs
  | op o =>
    obtain ⟨current, calls, -, -, rfl⟩ := step_op hs
    exact hrecord ..

/-- As long as the ids of the messages fit, the server simulates the service. -/
theorem simulates_reachable (h : servedRuns.Reachable Lts.anyStep r) :
    r.service.history.length < uint32Size - 1 → r.Simulates := by
  refine h.invariant (I := fun r => r.service.history.length < uint32Size - 1 → r.Simulates) ?_ ?_
  · rintro r ⟨db, hempty, rfl⟩ hlen
    have hinv : Lifetimes.HistoryInv ⟨Lifetime.begin db, []⟩ :=
      Lifetimes.historyInv_reachable (.start ⟨db, hempty, rfl⟩)
        (by show 0 < uint32Size - 1; decide)
    have hremembers : Remembers (ServerState.begin db) .idle db.messages.rows :=
      ⟨_, hinv, rfl, rfl, rfl, hempty.symm⟩
    exact ⟨implements_begin hremembers, rfl⟩
  · intro r o r' ih _ hs hlen
    have hlen0 := Nat.lt_of_le_of_lt (length_history_le hs) hlen
    exact simulates_step (ih hlen0) hs hlen hlen0

/-- The server is the chat service. In every run over a database file that starts without
messages, with restarts in it and with the steps of `Persist` anywhere between the others, each
connection is sent exactly what the service sends it for the same inputs, as long as no more than
`2 ^ 32 - 2` messages are written. -/
theorem server_refines_service (h : servedRuns.Reachable Lts.anyStep r)
    (hlen : r.service.history.length < uint32Size - 1) :
    r.outputs = (ChatService.ofDatabase r.start).outputs r.inputs :=
  (simulates_reachable h hlen).outputs

/-- Two connections, a channel, a message that is written while `Persist` is between its steps, a
restart, and a request for the history after it. -/
theorem server_refines_service_restart : ∃ r, servedRuns.Reachable Lts.anyStep r ∧
    r.service.history.length < uint32Size - 1 ∧ r.inputs.length = 10 ∧
    r.outputs = (ChatService.ofDatabase r.start).outputs r.inputs := by
  have hstart : servedRuns.Reachable Lts.anyStep (ServedRun.begin Database.empty) :=
    .start ⟨_, rfl, rfl⟩
  obtain ⟨r, hr, hinputs, hrows⟩ := hstart.exists_of_exec
    [.op .connect, .op (.handle 1 (.createUserRequest ⟨1, "ann", "pw"⟩)),
      .op (.handle 1 (.authenticateUserRequest ⟨2, "ann", "pw"⟩)),
      .op (.handle 1 (.createChannelRequest ⟨3, "general"⟩)),
      .op (.handle 1 (.joinChatChannelRequest ⟨4, 1⟩)),
      .op (.handle 1 (.writeChat ⟨"hello"⟩)), .op .persist, .op .persist, .op .persist, .restart,
      .op .connect, .op (.handle 1 (.authenticateUserRequest ⟨1, "ann", "pw"⟩)),
      .op (.handle 1 (.getChatsRequest ⟨2, 1, 10⟩))]
    (fun r => r.inputs.length = 10 ∧ r.start.messages.rows = []) (by decide +kernel)
  have hlen : r.service.history.length < uint32Size - 1 := by
    have hbound := ChatService.length_history_after r.inputs (ChatService.ofDatabase r.start)
    rw [show (ChatService.ofDatabase r.start).history = [] from hrows, hinputs] at hbound
    exact Nat.lt_of_le_of_lt hbound (by decide)
  exact ⟨r, hr, hlen, hinputs, server_refines_service hr hlen⟩

/-! ### A restart is always possible -/

/-- The steps of `Persist` until it returns. -/
def stepsLeft : PersistStep → Nat
  | .idle => 0
  | .swapped _ => 2
  | .written _ => 1

/-- The service of a run over a database without messages has only registered users. -/
theorem signed_reachable (h : servedRuns.Reachable Lts.anyStep r) : r.service.Signed := by
  have hempty : r.start.messages.rows = [] := by
    refine h.invariant (I := fun r => r.start.messages.rows = []) ?_ fun r o r' ih _ hs => ?_
    · rintro r ⟨db, hempty, rfl⟩
      exact hempty
    · cases o with
      | op o =>
        obtain ⟨current, calls, -, -, rfl⟩ := step_op hs
        exact ih
      | restart =>
        replace hs := (step_eq_some.mp hs).2
        simp only [transition] at hs
        split at hs
        · obtain ⟨persisted, -, rfl⟩ := Option.map_eq_some_iff.mp hs
          exact ih
        · cases hs
  refine ChatService.Signed.after r.inputs ⟨nofun, fun m hm => ?_⟩
  rw [show (ChatService.ofDatabase r.start).history = [] from hempty] at hm
  cases hm

/-- The messages that are not in the database yet are in the history, and their ids are above those
that are. -/
theorem Simulates.unwritten_above (h : r.Simulates) :
    (∀ m ∈ r.unwritten, m ∈ r.service.history) ∧
      ((r.current.server.db.messages.rows ++ r.unwritten).map ChatMessage.id).SortedLT := by
  obtain ⟨l, hinv, hdb, hstore, hp, hhistory⟩ := h.implements.remembers
  obtain ⟨written, hrows, -, hcreated⟩ := hinv.persist.split
  rw [hp, hstore, List.append_assoc] at hcreated
  have hcreated' : l.current.created = written ++ r.unwritten := hcreated
  refine ⟨fun m hm => ?_, ?_⟩
  · rw [← hhistory, ← hinv.history, hcreated']
    exact List.mem_append_right _ (List.mem_append_right _ hm)
  · rw [← hdb, hrows, List.append_assoc, ← hcreated']
    exact hinv.persist.ascending

/-- Every message that is not in the database yet has a channel and a user that are. -/
theorem foreignKeys_reachable (h : servedRuns.Reachable Lts.anyStep r)
    (hlen : r.service.history.length < uint32Size - 1) :
    ∀ m ∈ r.unwritten, r.current.server.db.ForeignKeys m := by
  have hsim := simulates_reachable h hlen
  intro m hm
  have hmem := hsim.unwritten_above.1 m hm
  obtain ⟨l, hinv, hdb, -, -, hhistory⟩ := hsim.implements.remembers
  refine ⟨?_, ?_⟩
  · rw [← hdb]
    exact hinv.channels m (hhistory ▸ hmem)
  · have huser := (signed_reachable h).writers m hmem
    rw [hsim.implements.users] at huser
    exact huser

/-- So the database takes what a step writes. -/
theorem step_eq_transition (h : servedRuns.Reachable Lts.anyStep r)
    (hlen : r.service.history.length < uint32Size - 1) (o : ServedOp) :
    r.step o = r.transition o := by
  refine if_pos fun m hm => foreignKeys_reachable h hlen m ?_
  -- The messages of a batch or of the last `Persist` are among those that are not written yet.
  cases o with
  | restart => exact List.mem_append_right _ hm
  | op o =>
    cases o with
    | persist => exact List.mem_append_left _ hm
    | connect | handle c m | disconnect c => cases hm

/-- `Persist` is never stuck: its batch has fresh ids and rows to refer to, so the write
succeeds. -/
theorem exists_step_persist (h : servedRuns.Reachable Lts.anyStep r)
    (hlen : r.service.history.length < uint32Size - 1) :
    ∃ r', r.step (.op .persist) = some r' ∧ r'.service = r.service ∧
      (r.current.persist ≠ .idle →
        stepsLeft r.current.persist = stepsLeft r'.current.persist + 1) := by
  obtain ⟨l, hinv, hdb, hstore, hp, -⟩ := (simulates_reachable h hlen).implements.remembers
  have henabled : ∃ db messages p', persistStep r.current.server.db r.current.server.messages
      r.current.persist = some (db, messages, p') ∧
      (r.current.persist ≠ .idle → stepsLeft r.current.persist = stepsLeft p' + 1) := by
    cases hpersist : r.current.persist with
    | idle =>
      simp only [persistStep]
      split <;> exact ⟨_, _, _, rfl, fun hne => absurd rfl hne⟩
    | written latest => exact ⟨_, _, _, rfl, fun _ => rfl⟩
    | swapped batch =>
      -- The write is the only step that could throw.
      obtain ⟨-, hwrite⟩ := hinv.persist.write_succeeds (hp.trans hpersist)
      rw [hdb] at hwrite
      obtain ⟨⟨db, latest⟩, hwrite⟩ := Option.isSome_iff_exists.mp hwrite
      refine ⟨db, r.current.server.messages, .written latest, ?_, fun _ => rfl⟩
      simp only [persistStep, hwrite, Option.map_some]
  obtain ⟨db, messages, p', hstep, hleft⟩ := henabled
  rw [step_eq_transition h hlen]
  have hs : ∃ r', r.transition (.op .persist) = some r' ∧ r'.current.persist = p' ∧
      r'.service = r.service := by
    simp only [transition, ServerRun.step, hstep, Option.map_some]
    exact ⟨_, rfl, rfl, r.service_record_none _ _⟩
  obtain ⟨r', hs, rfl, hservice⟩ := hs
  exact ⟨r', hs, hservice, hleft⟩

/-- Outside of `Persist` the server can restart: the `Persist` of the restart writes all pending
messages. -/
theorem exists_step_restart (h : servedRuns.Reachable Lts.anyStep r)
    (hlen : r.service.history.length < uint32Size - 1) (hidle : r.current.persist = .idle) :
    ∃ r', r.step .restart = some r' := by
  have hasc := (simulates_reachable h hlen).unwritten_above.2
  have hpersist : ∃ result, persistToEnd r.current.server.db r.current.server.messages
      = some result := by
    -- What is not written yet is pending, and its ids ascend above those of the rows.
    rw [ServedRun.unwritten, hidle] at hasc
    unfold persistToEnd
    by_cases hempty : r.current.server.messages.pendingMessages = []
    · simp [persistStep, hempty]
    · obtain ⟨db, last, hwrite, -⟩ := Database.persistChatMessages_of_ascending hempty hasc
      simp [persistStep, hempty, hwrite]
  obtain ⟨result, hpersist⟩ := hpersist
  rw [step_eq_transition h hlen]
  simp only [transition, hidle, hpersist, Option.map_some]
  exact ⟨_, rfl⟩

/-- From every state of every run the scheduler thread alone comes to a state in which the server
can restart, and it takes at most two steps. No write of `Persist` throws on the way or at the
restart: all messages that are not in the database yet have fresh ids, a channel and a user. -/
theorem restart_reached (h : servedRuns.Reachable Lts.anyStep r)
    (hlen : r.service.history.length < uint32Size - 1) :
    (∀ m ∈ r.unwritten,
      m.id ∉ r.current.server.db.messages.keys ∧ r.current.server.db.ForeignKeys m) ∧
    ∃ n ≤ 2, ∃ r' r'', servedRuns.exec Lts.anyStep r (List.replicate n (.op .persist)) = some r' ∧
      r'.step .restart = some r'' := by
  have hrun : ∀ (n : Nat) (r : ServedRun), servedRuns.Reachable Lts.anyStep r →
      r.service.history.length < uint32Size - 1 → stepsLeft r.current.persist = n →
      ∃ r' r'', servedRuns.exec Lts.anyStep r (List.replicate n (.op .persist)) = some r' ∧
        r'.step .restart = some r'' := by
    intro n
    induction n with
    | zero =>
      intro r hreach hlen hleft
      -- No step is left, so the scheduler thread is outside of `Persist`.
      have hidle : r.current.persist = .idle := by
        cases hp : r.current.persist with
        | idle => rfl
        | swapped batch => rw [hp] at hleft; cases hleft
        | written latest => rw [hp] at hleft; cases hleft
      obtain ⟨r'', hs⟩ := exists_step_restart hreach hlen hidle
      exact ⟨r, r'', rfl, hs⟩
    | succ n ih =>
      intro r hreach hlen hleft
      -- Each step of `Persist` takes one off the number that is left.
      have hne : r.current.persist ≠ .idle := fun hidle => by
        rw [hidle] at hleft
        cases hleft
      obtain ⟨r1, hs, hservice, hleft1⟩ := exists_step_persist hreach hlen
      have hlen1 : r1.service.history.length < uint32Size - 1 := by rw [hservice]; exact hlen
      obtain ⟨r', r'', hexec, hrestart⟩ :=
        ih r1 (.step hreach trivial hs) hlen1 (by have := hleft1 hne; omega)
      refine ⟨r', r'', ?_, hrestart⟩
      rw [List.replicate_succ, Lts.exec_cons_anyStep]
      show (r.step (.op .persist)).bind _ = _
      rw [hs]
      exact hexec
  have hle : stepsLeft r.current.persist ≤ 2 := by
    cases r.current.persist <;> simp [stepsLeft]
  obtain ⟨r', r'', hexec, hrestart⟩ := hrun _ r h hlen rfl
  refine ⟨fun m hm => ⟨fun hkey => ?_, foreignKeys_reachable h hlen m hm⟩, _, hle, r', r'', hexec,
    hrestart⟩
  have hnodup := (simulates_reachable h hlen).unwritten_above.2.nodup
  rw [List.map_append] at hnodup
  exact List.disjoint_of_nodup_append hnodup hkey (List.mem_map_of_mem hm)

/-- A restart after a message whose batch is swapped out and not written yet. -/
theorem restart_reached_in_flight : ∃ r, servedRuns.Reachable Lts.anyStep r ∧
    r.service.history.length < uint32Size - 1 ∧ r.current.persist.inFlight.length = 1 ∧
    (∀ m ∈ r.unwritten,
      m.id ∉ r.current.server.db.messages.keys ∧ r.current.server.db.ForeignKeys m) ∧
    ∃ n ≤ 2, ∃ r' r'', servedRuns.exec Lts.anyStep r (List.replicate n (.op .persist)) = some r' ∧
      r'.step .restart = some r'' := by
  have hstart : servedRuns.Reachable Lts.anyStep (ServedRun.begin Database.empty) :=
    .start ⟨_, rfl, rfl⟩
  obtain ⟨r, hr, hinputs, hrows, hflight⟩ := hstart.exists_of_exec
    [.op .connect, .op (.handle 1 (.createUserRequest ⟨1, "ann", "pw"⟩)),
      .op (.handle 1 (.authenticateUserRequest ⟨2, "ann", "pw"⟩)),
      .op (.handle 1 (.createChannelRequest ⟨3, "general"⟩)),
      .op (.handle 1 (.joinChatChannelRequest ⟨4, 1⟩)),
      .op (.handle 1 (.writeChat ⟨"hello"⟩)), .op .persist]
    (fun r => r.inputs.length = 6 ∧ r.start.messages.rows = [] ∧
      r.current.persist.inFlight.length = 1) (by decide +kernel)
  have hlen : r.service.history.length < uint32Size - 1 := by
    have hbound := ChatService.length_history_after r.inputs (ChatService.ofDatabase r.start)
    rw [show (ChatService.ofDatabase r.start).history = [] from hrows, hinputs] at hbound
    exact Nat.lt_of_le_of_lt hbound (by decide)
  exact ⟨r, hr, hlen, hflight, restart_reached hr hlen⟩

end ServedRun

end ChatCore.Server
