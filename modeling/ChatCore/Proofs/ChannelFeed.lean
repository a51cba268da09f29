import ChatCore.Proofs.ChatService

/-!
# `ChatCore.Proofs.ChannelFeed`: the members of a channel see its history

While a connection is open and in a channel, the chat messages that it is sent are the messages
that are written to the channel in this time, in the order of the history. So all members of a
channel see the same messages in the same order, whoever writes them and whatever else happens on
the server. A connection that closes while it joins may stay in its channel, and it is sent nothing
there; so `Stays` asks for both.

`Feeds` is one step of the service: what the connection is sent, and what is added to the history.
`feeds_served` is one step of the server, and `feed_follows_history` is the run, by induction on
its steps.
-/

set_option autoImplicit false

namespace ChatCore.Server

open ChatCore.Api
open ChatCore.Lib

/-- The chat messages among the messages that a connection is sent. -/
def chatsOf (messages : List Message) : List ReceiveChatMessage :=
  messages.filterMap fun
    | .receiveChat m => some m
    | _ => none

/-- The chat messages that a connection is sent in some steps. -/
def feed (outputs : List (Nat → List Message)) (connectionId : Nat) : List ReceiveChatMessage :=
  chatsOf (outputs.flatMap (· connectionId))

/-- The messages of a channel, as the members are sent them. -/
def broadcasts (channelId : Nat) (history : List ChatMessage) : List ReceiveChatMessage :=
  (history.filter (·.channelId = channelId)).map fun m => ⟨m.userId, m.channelId, m.content⟩

namespace ChatService

variable {s : ChatService} {c ch : Nat}

/-! ### One step -/

/-- A step in which a connection of the channel was sent what was written there. -/
def Feeds (s : ChatService) (c ch : Nat) (result : ChatService × List Notice) : Prop :=
  ∃ written : Option ChatMessage, result.1.history = s.history ++ written.toList ∧
    chatsOf (result.1.received result.2 c) = broadcasts ch written.toList

/-- The chat messages of two lists one after the other. -/
theorem chatsOf_append (messages messages' : List Message) :
    chatsOf (messages ++ messages') = chatsOf messages ++ chatsOf messages' :=
  List.filterMap_append

/-- Notices without a chat message. -/
def Quiet (notices : List Notice) : Prop := chatsOf (notices.map Notice.message) = []

/-- Notices without a chat message bring no connection one. -/
theorem chatsOf_received_of_quiet {notices : List Notice} (h : Quiet notices) :
    chatsOf (s.received notices c) = [] := by
  unfold received
  split
  · refine List.filterMap_eq_nil_iff.mpr fun m hm => ?_
    obtain ⟨notice, hnotice, rfl⟩ := List.mem_map.mp hm
    exact List.filterMap_eq_nil_iff.mp h _
      (List.mem_map_of_mem (List.mem_of_mem_filter hnotice))
  · rfl

/-- A step that writes nothing. -/
theorem Feeds.quiet {result : ChatService × List Notice} (hhistory : result.1.history = s.history)
    (hquiet : Quiet result.2) : Feeds s c ch result :=
  ⟨none, by simp [hhistory], chatsOf_received_of_quiet hquiet⟩

/-- A rejection of a connection without a session writes nothing. -/
theorem feeds_authorized {d : Nat} {error : Message} {act : Nat → ChatService × List Notice}
    (herror : Quiet [reply d error]) (hact : ∀ user, Feeds s c ch (act user)) :
    Feeds s c ch (s.authorized d error act) := by
  unfold authorized
  cases s.userOf d with
  | none => exact .quiet rfl herror
  | some user => exact hact user

/-- A written message reaches the connection when it is for its channel. -/
theorem feeds_write (hch : s.channelOf c = some ch) (hc : c ∈ s.connections) (d user : Nat)
    (content : String) : Feeds s c ch (s.write d user content) := by
  unfold write
  cases hd : s.channelOf d with
  | none => exact .quiet rfl rfl
  | some channel =>
    refine ⟨some _, rfl, ?_⟩
    simp only
    rw [tell, received_singleton]
    by_cases hsame : channel = ch
    · subst hsame
      rw [if_pos ⟨hc, hch⟩]
      simp [chatsOf, broadcasts]
    · have hother : ¬ (c ∈ s.connections ∧ c ∈ {c' | s.channelOf c' = some channel}) := by
        rintro ⟨-, hin⟩
        exact hsame (Option.some.inj (hin.symm.trans hch))
      rw [if_neg hother]
      simp [chatsOf, broadcasts, hsame]

/-- Every handler feeds the connection, and only a write feeds it anything. -/
theorem feeds_handle (hch : s.channelOf c = some ch) (hc : c ∈ s.connections) (d : Nat)
    (m : Message) : Feeds s c ch (s.handle d m) := by
  cases m with
  -- Only a write sends chat messages, and only a write adds one to the history.
  | writeChat m => exact feeds_authorized rfl fun user => feeds_write hch hc d user m.content
  | createUserRequest m =>
    simp only [handle, createUser]
    split <;> exact .quiet rfl rfl
  | authenticateUserRequest m =>
    simp only [handle, authenticate]
    split
    · exact .quiet rfl rfl
    · exact .quiet rfl rfl
    · split <;> exact .quiet rfl rfl
  | createChannelRequest m =>
    refine feeds_authorized rfl fun user => ?_
    unfold createChannel
    cases s.channels.find? (·.name = m.name) <;> exact .quiet rfl rfl
  | joinChatChannelRequest m =>
    refine feeds_authorized rfl fun user => ?_
    unfold join
    split
    · refine .quiet rfl ?_
      cases s.channelOf d <;> rfl
    · exact .quiet rfl rfl
  | getUserRequest m =>
    refine feeds_authorized rfl fun user => ?_
    cases s.users.find? (·.name = m.name) <;> exact .quiet rfl rfl
  | getChatChannelRequest m =>
    refine feeds_authorized rfl fun user => ?_
    cases s.channels.find? (·.id = m.channelId) <;> exact .quiet rfl rfl
  | logoutRequest m | shutdown m | getUsersRequest m | getChatsRequest m
  | getChatChannelsRequest m => exact feeds_authorized rfl fun user => .quiet rfl rfl
  | _ => exact .quiet rfl rfl

/-- So does every step of the service. -/
theorem feeds_step (hch : s.channelOf c = some ch) (hc : c ∈ s.connections) (op : ServiceOp) :
    Feeds s c ch (s.step op) := by
  cases op with
  | handle d m => exact feeds_handle hch hc d m
  | connect | restart => exact .quiet rfl rfl
  | disconnect d =>
    simp only [step, disconnect]
    cases s.userOf d <;> exact .quiet rfl rfl

end ChatService

/-! ### A run of the server -/

/-- The feed of two runs one after the other. -/
theorem feed_append (outputs outputs' : List (Nat → List Message)) (c : Nat) :
    feed (outputs ++ outputs') c = feed outputs c ++ feed outputs' c := by
  unfold feed
  rw [List.flatMap_append, ChatService.chatsOf_append]

/-- The broadcasts of two histories one after the other. -/
theorem broadcasts_append (ch : Nat) (history history' : List ChatMessage) :
    broadcasts ch (history ++ history') = broadcasts ch history ++ broadcasts ch history' := by
  simp [broadcasts]

namespace ServedRun

variable {r r' : ServedRun} {c ch : Nat}

/-- The connection is open and in the channel. As a condition on the steps of a run it says so of
every state from which the run goes on. -/
def Stays (c ch : Nat) (r : ServedRun) : ServedOp → Prop := fun _ =>
  c ∈ r.current.server.connections ∧
    r.current.server.channels.connectionChannelMap.findLeft c = some ch

instance (c ch : Nat) : DecidableRel (Stays c ch) := fun _ _ =>
  inferInstanceAs (Decidable (_ ∧ _))

/-- Every step records what it is for the connections. -/
theorem step_record {o : ServedOp} (hs : r.step o = some r') :
    ∃ current input output, r' = r.record current input output := by
  cases o with
  | op o =>
    obtain ⟨current, calls, -, -, rfl⟩ := step_op hs
    exact ⟨current, o.input, _, rfl⟩
  | restart =>
    replace hs := (step_eq_some.mp hs).2
    simp only [transition] at hs
    split at hs
    · obtain ⟨⟨db, messages⟩, -, rfl⟩ := Option.map_eq_some_iff.mp hs
      exact ⟨_, some .restart, _, rfl⟩
    · cases hs

/-- In a step the connection is sent what the step adds for its channel. -/
theorem feeds_served (h : servedRuns.Reachable Lts.anyStep r) {o : ServedOp}
    (hs : r.step o = some r') (hlen : r'.service.history.length < uint32Size - 1)
    (hstays : Stays c ch r o) :
    ∃ outputs written, r'.outputs = r.outputs ++ outputs ∧
      r'.service.history = r.service.history ++ written ∧
      feed outputs c = broadcasts ch written := by
  have hlen0 := Nat.lt_of_le_of_lt (length_history_le hs) hlen
  have hsim := simulates_reachable h hlen0
  have hsim' := simulates_step hsim hs hlen hlen0
  obtain ⟨current, input, output, rfl⟩ := step_record hs
  cases input with
  | none =>
    refine ⟨[], [], rfl, ?_, rfl⟩
    rw [service_record_none, List.append_nil]
  | some input =>
    obtain ⟨written, hhistory, hfed⟩ := ChatService.feeds_step
      (by rw [hsim.implements.channelOf]; exact hstays.2)
      ((hsim.implements.connections c).mpr hstays.1) input
    refine ⟨[output], written.toList, rfl, ?_, ?_⟩
    · rw [service_record]
      exact hhistory
    · rw [← hfed, hsim.output_eq hsim']
      show chatsOf ([_].flatMap _) = _
      rw [List.flatMap_singleton]

/-- While a connection is open and in a channel, the chat messages that it is sent are the messages
that are written to the channel in this time, in the order of the history. So the members of a
channel are sent the same messages in the same order. -/
theorem feed_follows_history (h : servedRuns.Reachable Lts.anyStep r) {ops : List ServedOp}
    (hrun : servedRuns.exec (Stays c ch) r ops = some r')
    (hlen : r'.service.history.length < uint32Size - 1) :
    r.service.history <+: r'.service.history ∧
      feed (r'.outputs.drop r.outputs.length) c
        = broadcasts ch (r'.service.history.drop r.service.history.length) := by
  suffices hrun : ∃ outputs written, r'.outputs = r.outputs ++ outputs ∧
      r'.service.history = r.service.history ++ written ∧
      feed outputs c = broadcasts ch written by
    obtain ⟨outputs, written, houtputs, hhistory, hfeed⟩ := hrun
    rw [houtputs, hhistory, List.drop_left, List.drop_left]
    exact ⟨List.prefix_append _ _, hfeed⟩
  -- What is sent and what is written in the steps of the run, one step at a time.
  induction ops generalizing r with
  | nil =>
    obtain rfl : r = r' := Option.some.inj hrun
    exact ⟨[], [], (List.append_nil _).symm, (List.append_nil _).symm, rfl⟩
  | cons op ops ih =>
    simp only [Lts.exec, Option.ite_none_right_eq_some] at hrun
    obtain ⟨hstays, hrun⟩ := hrun
    obtain ⟨t, ht, hrest⟩ := Option.bind_eq_some_iff.mp hrun
    have hreach : servedRuns.Reachable Lts.anyStep t := .step h trivial ht
    obtain ⟨outputs', written', houtputs', hhistory', hfeed'⟩ := ih hreach hrest
    have hlent : t.service.history.length < uint32Size - 1 := by
      rw [hhistory', List.length_append] at hlen
      omega
    obtain ⟨outputs, written, houtputs, hhistory, hfeed⟩ := feeds_served h ht hlent hstays
    refine ⟨outputs ++ outputs', written ++ written', ?_, ?_, ?_⟩
    · rw [houtputs', houtputs, List.append_assoc]
    · rw [hhistory', hhistory, List.append_assoc]
    · rw [feed_append, broadcasts_append, hfeed, hfeed']

/-- Users 1 and 2 are in channel 1, on connections 1 and 2. -/
def joinTwo : List ServedOp :=
  [.op .connect, .op .connect, .op (.handle 1 (.createUserRequest ⟨1, "ann", "pw"⟩)),
    .op (.handle 2 (.createUserRequest ⟨1, "bob", "pw"⟩)),
    .op (.handle 1 (.authenticateUserRequest ⟨2, "ann", "pw"⟩)),
    .op (.handle 2 (.authenticateUserRequest ⟨2, "bob", "pw"⟩)),
    .op (.handle 1 (.createChannelRequest ⟨3, "general"⟩)),
    .op (.handle 1 (.joinChatChannelRequest ⟨4, 1⟩)),
    .op (.handle 2 (.joinChatChannelRequest ⟨3, 1⟩))]

/-- Both of them write, with a step of `Persist` and a join that fails between. -/
def writeBoth : List ServedOp :=
  [.op (.handle 1 (.writeChat ⟨"hello"⟩)), .op .persist,
    .op (.handle 2 (.joinChatChannelRequest ⟨4, 9⟩)), .op (.handle 2 (.writeChat ⟨"hi"⟩)),
    .op .persist]

/-- Two members of a channel. A join that fails, of one of them, does not end the feed. -/
theorem feed_follows_history_two : ∃ r r', servedRuns.Reachable Lts.anyStep r ∧
    servedRuns.exec (Stays 1 1) r writeBoth = some r' ∧
    servedRuns.exec (Stays 2 1) r writeBoth = some r' ∧
    feed (r'.outputs.drop r.outputs.length) 1 = [⟨1, 1, "hello"⟩, ⟨2, 1, "hi"⟩] ∧
    feed (r'.outputs.drop r.outputs.length) 2 = feed (r'.outputs.drop r.outputs.length) 1 := by
  have hstart : servedRuns.Reachable Lts.anyStep (ServedRun.begin Database.empty) :=
    .start ⟨_, rfl, rfl⟩
  obtain ⟨r, hr, hrun⟩ := hstart.exists_of_exec joinTwo
    (fun r => (servedRuns.exec (fun r o => Stays 1 1 r o ∧ Stays 2 1 r o) r writeBoth).any
      (fun r' => r'.inputs.length = 12 ∧ r'.start.messages.rows = [] ∧
        feed (r'.outputs.drop r.outputs.length) 1 = [⟨1, 1, "hello"⟩, ⟨2, 1, "hi"⟩]) = true)
    (by decide +kernel)
  obtain ⟨r', hexec, hr'⟩ := Option.any_eq_true _ _ |>.mp hrun
  obtain ⟨hinputs, hrows, hfeed⟩ := of_decide_eq_true hr'
  have hlen : r'.service.history.length < uint32Size - 1 := by
    have hbound := ChatService.length_history_after r'.inputs (ChatService.ofDatabase r'.start)
    rw [show (ChatService.ofDatabase r'.start).history = [] from hrows, hinputs] at hbound
    exact Nat.lt_of_le_of_lt hbound (by decide)
  have hexec1 : servedRuns.exec (Stays 1 1) r writeBoth = some r' :=
    Lts.exec_mono (fun _ _ hstays => hstays.1) hexec
  have hexec2 : servedRuns.exec (Stays 2 1) r writeBoth = some r' :=
    Lts.exec_mono (fun _ _ hstays => hstays.2) hexec
  have hone := feed_follows_history hr hexec1 hlen
  have htwo := feed_follows_history hr hexec2 hlen
  exact ⟨r, r', hr, hexec1, hexec2, hfeed, htwo.2.trans hone.2.symm⟩

end ServedRun

end ChatCore.Server
