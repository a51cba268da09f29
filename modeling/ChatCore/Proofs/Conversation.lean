import ChatCore.Client.Conversation
import ChatCore.Proofs.ClientRun
import ChatCore.Proofs.History
import Mathlib.Data.List.Flatten

/-!
# `ChatCore.Proofs.Conversation`: when a conversation is shown in order

A line of the channel is printed, or it waits for a user lookup, or it is in a chat event on the
wire. `InOrder` says that these three lists, one after the other, have ascending ids. Then a step in
turn only moves lines from one list to the next or drops some, so the lists after the step are a
sublist of the lists before it.

The history of the join is what comes from outside: it is on the wire in a response and not in an
event. Before it is delivered the first two lists are empty, and behind it on the wire there are
only newer events, because the server created them after it had handled the request.
-/

set_option autoImplicit false

namespace ChatCore.Client

open ChatCore.Api
open ChatCore.Lib
open ChatCore.Server (Lifetimes LifetimeOp lifetimes servesHistory)

/-- The first message was created before the second one. -/
def Older (m m' : ChatMessage) : Prop := m.id < m'.id

instance : Std.Antisymm Older where
  antisymm _ _ h h' := absurd h (Nat.lt_asymm h')

instance : Std.Irrefl Older where
  irrefl m := Nat.lt_irrefl m.id

namespace Conversation

variable {channelId : Nat}

/-! ### Lines -/

/-- The line of the channel in a chat event. -/
def eventLines (channelId : Nat) (delivery : Delivery) : List ChatMessage :=
  match delivery.message with
  | .receiveChat m =>
    [⟨delivery.messageId, m.channelId, m.userId, m.content⟩].filter (·.channelId = channelId)
  | _ => []

/-- The lines of the channel in a history. -/
def historyLines (channelId : Nat) (delivery : Delivery) : List ChatMessage :=
  match delivery.message with
  | .getChatsResponse m => m.messages.filter (·.channelId = channelId)
  | _ => []

/-- Only a chat event has lines of its own. -/
theorem eventLines_of_type {delivery : Delivery} (h : delivery.message.type ≠ .receiveChat) :
    eventLines channelId delivery = [] := by
  unfold eventLines
  split
  · rename_i m hmessage
    rw [hmessage] at h
    exact absurd rfl h
  · rfl

/-- Taking calls out brings no lines. -/
theorem lines_of_sublist {callbacks callbacks' : List RpcCallback}
    (hsub : callbacks'.Sublist callbacks) (h : callbacks.flatMap (linesOf channelId) = []) :
    callbacks'.flatMap (linesOf channelId) = [] := by
  have hlines := hsub.flatMap (linesOf channelId)
  rw [h] at hlines
  exact List.sublist_nil.mp hlines

/-- Where no callback joins, none is counted. -/
theorem countP_joins {callbacks : List RpcCallback}
    (h : ∀ callback ∈ callbacks, joins callback = false) : callbacks.countP joins = 0 := by
  refine List.countP_eq_zero.mpr fun callback hc => ?_
  simp [h callback hc]

/-- The lines that are printed, that wait and that are on the wire. -/
def allLines (channelId : Nat) (shown : List ChatMessage) (callbacks : List RpcCallback)
    (wire : List Delivery) : List ChatMessage :=
  shown ++ (callbacks.flatMap (linesOf channelId) ++ wire.flatMap (eventLines channelId))

/-- The lines of the channel are in order. -/
structure InOrder (channelId : Nat) (history shown : List ChatMessage)
    (callbacks : List RpcCallback) (wire : List Delivery) : Prop where
  known : ∀ m ∈ allLines channelId shown callbacks wire, m ∈ history
  ordered : (allLines channelId shown callbacks wire).Pairwise Older
  /-- A history on the wire is in order, -/
  replies : ∀ delivery ∈ wire, (historyLines channelId delivery).Pairwise Older ∧
    ∀ m ∈ historyLines channelId delivery, m ∈ history
  /-- and the events behind it are newer. -/
  newer : wire.Pairwise fun delivery later =>
    ∀ m ∈ historyLines channelId delivery, ∀ m' ∈ eventLines channelId later, Older m m'
  /-- There is one join, -/
  one : callbacks.countP joins ≤ 1
  /-- and before its history there are no lines. -/
  silent : (∃ callback ∈ callbacks, joins callback = true) →
    shown = [] ∧ callbacks.flatMap (linesOf channelId) = []

namespace InOrder

variable {history shown shown' : List ChatMessage} {callbacks callbacks' : List RpcCallback}
  {wire wire' : List Delivery} {delivery : Delivery}

/-- Lines are moved or dropped, and messages leave the wire. -/
theorem mono (h : InOrder channelId history shown callbacks wire)
    (hlines : (allLines channelId shown' callbacks' wire').Sublist
      (allLines channelId shown callbacks wire))
    (hwire : wire'.Sublist wire) (hone : callbacks'.countP joins ≤ 1)
    (hsilent : (∃ callback ∈ callbacks', joins callback = true) →
      shown' = [] ∧ callbacks'.flatMap (linesOf channelId) = []) :
    InOrder channelId history shown' callbacks' wire' where
  known m hm := h.known m (hlines.subset hm)
  ordered := h.ordered.sublist hlines
  replies delivery hd := h.replies delivery (hwire.subset hd)
  newer := h.newer.sublist hwire
  one := hone
  silent := hsilent

/-- Calls are taken out. -/
theorem complete (h : InOrder channelId history shown callbacks wire)
    (hsub : callbacks'.Sublist callbacks) : InOrder channelId history shown callbacks' wire := by
  have hlines := hsub.flatMap (linesOf channelId)
  refine h.mono ?_ (List.Sublist.refl _) (Nat.le_trans hsub.countP_le h.one) ?_
  · exact (List.Sublist.refl _).append (hlines.append (List.Sublist.refl _))
  · rintro ⟨callback, hmem, hjoins⟩
    obtain ⟨hshown, hnone⟩ := h.silent ⟨callback, hsub.subset hmem, hjoins⟩
    exact ⟨hshown, lines_of_sublist hsub hnone⟩

/-- Calls without lines that are no part of a join are made. -/
theorem made (h : InOrder channelId history shown callbacks wire) {made : List RpcCallback}
    (haside : ∀ callback ∈ made, joins callback = false ∧ linesOf channelId callback = []) :
    InOrder channelId history shown (callbacks ++ made) wire := by
  have hlines : (callbacks ++ made).flatMap (linesOf channelId)
      = callbacks.flatMap (linesOf channelId) := by
    rw [List.flatMap_append]
    have hnone : made.flatMap (linesOf channelId) = [] :=
      List.flatMap_eq_nil_iff.mpr fun callback hc => (haside callback hc).2
    rw [hnone, List.append_nil]
  have hcount : made.countP joins = 0 := countP_joins fun callback hc => (haside callback hc).1
  refine h.mono ?_ (List.Sublist.refl _) ?_ ?_
  · unfold allLines
    rw [hlines]
  · rw [List.countP_append, hcount]
    exact h.one
  · rintro ⟨callback, hmem, hjoins⟩
    rw [hlines]
    rcases List.mem_append.mp hmem with hold | hnew
    · exact h.silent ⟨callback, hold, hjoins⟩
    · rw [(haside callback hnew).1] at hjoins
      cases hjoins

/-- The join goes on with another call. -/
theorem pass (h : InOrder channelId history shown callbacks wire)
    (hjoining : ∃ callback ∈ callbacks, joins callback = true)
    (hsub : callbacks'.Sublist callbacks) (hnone : ∀ callback ∈ callbacks', joins callback = false)
    {callback : RpcCallback} (hlines : linesOf channelId callback = []) :
    InOrder channelId history shown (callbacks' ++ [callback]) wire := by
  obtain ⟨hshown, hwaiting⟩ := h.silent hjoining
  have hsame : (callbacks' ++ [callback]).flatMap (linesOf channelId)
      = callbacks'.flatMap (linesOf channelId) := by
    rw [List.flatMap_append, List.flatMap_singleton, hlines, List.append_nil]
  have hrest := hsub.flatMap (linesOf channelId)
  refine h.mono ?_ (List.Sublist.refl _) ?_ fun _ => ⟨hshown, ?_⟩
  · unfold allLines
    rw [hsame]
    exact (List.Sublist.refl _).append (hrest.append (List.Sublist.refl _))
  · rw [List.countP_append, countP_joins hnone, Nat.zero_add]
    exact List.countP_le_length
  · rw [hsame]
    exact lines_of_sublist hsub hwaiting

/-- A message without a line is taken from the wire. -/
theorem tail (h : InOrder channelId history shown callbacks (delivery :: wire))
    (hevent : eventLines channelId delivery = []) :
    InOrder channelId history shown callbacks wire := by
  refine h.mono ?_ (List.sublist_cons_self _ _) h.one h.silent
  unfold allLines
  rw [List.flatMap_cons, hevent, List.nil_append]

/-- A chat event of a sender who is not known: the line waits. -/
theorem event_waits (h : InOrder channelId history shown callbacks (delivery :: wire))
    (hjoining : ¬ ∃ callback ∈ callbacks, joins callback = true) {callback : RpcCallback}
    (hjoins : joins callback = false)
    (hlines : linesOf channelId callback = eventLines channelId delivery) :
    InOrder channelId history shown (callbacks ++ [callback]) wire := by
  refine h.mono ?_ (List.sublist_cons_self _ _) ?_ ?_
  · unfold allLines
    rw [List.flatMap_append, List.flatMap_singleton, hlines, List.flatMap_cons, List.append_assoc]
  · rw [List.countP_append, List.countP_singleton, hjoins]
    exact h.one
  · rintro ⟨callback', hmem, hjoins'⟩
    rcases List.mem_append.mp hmem with hold | hnew
    · exact absurd ⟨callback', hold, hjoins'⟩ hjoining
    · rw [List.mem_singleton.mp hnew, hjoins] at hjoins'
      cases hjoins'

/-- A chat event of a known sender: the line is printed, and none waits. -/
theorem event_printed (h : InOrder channelId history shown callbacks (delivery :: wire))
    (hjoining : ¬ ∃ callback ∈ callbacks, joins callback = true)
    (hwaiting : callbacks.flatMap (linesOf channelId) = []) :
    InOrder channelId history (shown ++ eventLines channelId delivery) callbacks wire := by
  refine h.mono ?_ (List.sublist_cons_self _ _) h.one fun hcontra => absurd hcontra hjoining
  unfold allLines
  rw [hwaiting, List.flatMap_cons, List.nil_append, List.nil_append, List.append_assoc]

/-- The history of the join arrives. Its lines are printed, or they wait, or some are dropped. -/
theorem historyArrives (h : InOrder channelId history shown callbacks (delivery :: wire))
    (hevent : eventLines channelId delivery = [])
    (hnone : ∀ callback ∈ callbacks', joins callback = false)
    (hlines : (shown' ++ callbacks'.flatMap (linesOf channelId)).Sublist
      (historyLines channelId delivery)) :
    InOrder channelId history shown' callbacks' wire := by
  obtain ⟨hsorted, hknown⟩ := h.replies delivery List.mem_cons_self
  have hnewer := (List.pairwise_cons.mp h.newer).1
  -- What is on the wire behind the history is in order, since nothing else is there.
  have hwire : (wire.flatMap (eventLines channelId)).Sublist
      (allLines channelId shown callbacks (delivery :: wire)) := by
    unfold allLines
    rw [List.flatMap_cons, hevent, List.nil_append]
    exact (List.sublist_append_right _ _).trans (List.sublist_append_right _ _)
  have hall : (allLines channelId shown' callbacks' wire).Sublist
      (historyLines channelId delivery ++ wire.flatMap (eventLines channelId)) := by
    unfold allLines
    rw [← List.append_assoc]
    exact hlines.append (List.Sublist.refl _)
  refine ⟨fun m hm => ?_, List.Pairwise.sublist hall ?_,
    fun d hd => h.replies d (List.mem_cons_of_mem _ hd), (List.pairwise_cons.mp h.newer).2, ?_, ?_⟩
  · rcases List.mem_append.mp (hall.subset hm) with hold | hnew
    · exact hknown m hold
    · exact h.known m (hwire.subset hnew)
  · refine List.pairwise_append.mpr ⟨hsorted, h.ordered.sublist hwire, fun m hm m' hm' => ?_⟩
    obtain ⟨later, hlater, hline⟩ := List.mem_flatMap.mp hm'
    exact hnewer later hlater m hm m' hline
  · rw [countP_joins hnone]
    exact Nat.zero_le 1
  · rintro ⟨callback, hmem, hjoins⟩
    rw [hnone callback hmem] at hjoins
    cases hjoins

end InOrder

/-! ### Messages that the client handles -/

/-- The lines are in order, with those of the client. -/
def ClientInOrder (channelId : Nat) (history : List ChatMessage) (client : SessionSystem)
    (wire : List Delivery) : Prop :=
  InOrder channelId history (client.shown.filter (·.channelId = channelId))
    (client.calls.map PendingCall.callback) wire

variable {history : List ChatMessage} {client client' : SessionSystem} {wire : List Delivery}
  {delivery : Delivery} {printed : List ChatMessage} {made : List RpcCallback}

/-- A completed call is taken out of the list. -/
theorem callbacks_complete (client : SessionSystem) (requestId : Nat) :
    ((client.complete requestId).calls.map PendingCall.callback).Sublist
      (client.calls.map PendingCall.callback) :=
  List.filter_sublist.map _

/-- A call that is completed without a callback, by a timeout, keeps the order. -/
theorem ClientInOrder.complete (h : ClientInOrder channelId history client wire)
    (requestId : Nat) : ClientInOrder channelId history (client.complete requestId) wire :=
  InOrder.complete h (callbacks_complete client requestId)

/-- The call of a join is the only one that is part of a join. -/
theorem joins_complete (h : ClientInOrder channelId history client wire) {call : PendingCall}
    (hmem : call ∈ client.calls) (hjoins : joins call.callback = true) :
    ∀ callback ∈ (client.complete call.requestId).calls.map PendingCall.callback,
      joins callback = false := by
  obtain ⟨before, after, hsplit⟩ := List.append_of_mem hmem
  have hone : (client.calls.map PendingCall.callback).countP joins ≤ 1 := h.one
  rw [hsplit, List.map_append, List.map_cons, List.countP_append, List.countP_cons_of_pos hjoins]
    at hone
  have hbefore : (before.map PendingCall.callback).countP joins = 0 := by omega
  have hafter : (after.map PendingCall.callback).countP joins = 0 := by omega
  rw [List.countP_eq_zero] at hbefore hafter
  intro callback hcallback
  obtain ⟨other, hother, rfl⟩ := List.mem_map.mp hcallback
  obtain ⟨hother, hid⟩ := List.mem_filter.mp hother
  rw [hsplit, List.mem_append, List.mem_cons] at hother
  rcases hother with hother | rfl | hother
  · simpa using hbefore _ (List.mem_map_of_mem hother)
  · simp at hid
  · simpa using hafter _ (List.mem_map_of_mem hother)

/-- A function that prints no line of the channel and makes no call of a join. -/
theorem ClientInOrder.continues (h : ClientInOrder channelId history client wire)
    (hcontinues : Continues client client' printed made)
    (hprinted : printed.filter (·.channelId = channelId) = [])
    (hmade : ∀ callback ∈ made, joins callback = false ∧ linesOf channelId callback = []) :
    ClientInOrder channelId history client' wire := by
  unfold ClientInOrder
  rw [hcontinues.shown, hcontinues.calls, List.filter_append, hprinted, List.append_nil]
  exact InOrder.made h hmade

/-- A function that prints no chat line and makes no call keeps the order. -/
theorem ClientInOrder.quiet (h : ClientInOrder channelId history client wire)
    (hcontinues : Continues client client' [] []) :
    ClientInOrder channelId history client' wire :=
  h.continues hcontinues rfl fun _ hmem => nomatch hmem

/-- A callback that stays aside neither joins nor brings lines. -/
theorem aside_lines {callback : RpcCallback} (h : callback.Aside) :
    joins callback = false ∧ linesOf channelId callback = [] := by
  cases callback with
  | gotUsers callback =>
    cases callback with
    | chatLog messages => exact h.elim
    | user userId callback =>
      cases callback with
      | receiveChat message => exact h.elim
      | _ => exact ⟨rfl, rfl⟩
  | gotChannel callback =>
    cases callback with
    | joined => exact h.elim
    | _ => exact ⟨rfl, rfl⟩
  | joined => exact h.elim
  | gotChats => exact h.elim
  | _ => exact ⟨rfl, rfl⟩

/-- A function that stays aside ends without an error and keeps the order. -/
theorem ClientInOrder.aside (h : ClientInOrder channelId history client wire) {result : Result}
    (haside : RunsAside client result) :
    ∃ client', result = .ok client' ∧ ClientInOrder channelId history client' wire := by
  obtain ⟨made, hmade, client', hok, hcontinues⟩ := haside
  exact ⟨client', hok, h.continues hcontinues rfl fun callback hc => aside_lines (hmade callback hc)⟩

/-- The join goes on with another call. -/
theorem ClientInOrder.joinGoesOn (h : ClientInOrder channelId history client wire)
    {call : PendingCall} (hmem : call ∈ client.calls) (hjoins : joins call.callback = true)
    {callback : RpcCallback} (hlines : linesOf channelId callback = [])
    (hshown : client'.shown = client.shown)
    (hcalls : client'.calls.map PendingCall.callback
      = (client.complete call.requestId).calls.map PendingCall.callback ++ [callback]) :
    ClientInOrder channelId history client' wire := by
  unfold ClientInOrder
  rw [hshown, hcalls]
  exact InOrder.pass h ⟨_, List.mem_map_of_mem hmem, hjoins⟩
    (callbacks_complete client call.requestId) (joins_complete h hmem hjoins) hlines

/-- A callback of `LoadUsers` prints some of its lines. -/
theorem usersLines_sublist (client : SessionSystem) (callback : UsersCallback) :
    ((usersLines client callback).filter (·.channelId = channelId)).Sublist
      (linesOf channelId (.gotUsers callback)) := by
  cases callback with
  | chatLog messages => exact List.filter_sublist.filter _
  | user userId callback =>
    rw [usersLines]
    cases client.store.usersCache userId with
    | none => cases callback <;> exact List.nil_sublist _
    | some user => cases callback <;> exact List.Sublist.refl _

/-- The client handles the response with the history. -/
theorem ClientInOrder.gotChats {call : PendingCall} {m : GetChatsResponseMessage}
    (h : ClientInOrder channelId history client (delivery :: wire))
    (hvalid : client.validateSession = true) (hmem : call ∈ client.calls)
    (hcallback : call.callback = .gotChats) (hmessage : delivery.message = .getChatsResponse m) :
    ∃ client', (client.complete call.requestId).gotChats m = .ok client' ∧
      ClientInOrder channelId history client' wire := by
  have hjoins : joins call.callback = true := by
    rw [hcallback]
    rfl
  -- Nothing is printed and nothing waits yet, so the history is all there is.
  obtain ⟨hshown, hwaiting⟩ := h.silent ⟨_, List.mem_map_of_mem hmem, hjoins⟩
  have hnone := joins_complete h hmem hjoins
  have hrest : ((client.complete call.requestId).calls.map PendingCall.callback).flatMap
      (linesOf channelId) = [] :=
    lines_of_sublist (callbacks_complete client call.requestId) hwaiting
  have hevent : eventLines channelId delivery = [] := by
    refine eventLines_of_type ?_
    simp [hmessage, Message.type]
  have hhistory : historyLines channelId delivery
      = m.messages.filter (·.channelId = channelId) := by
    unfold historyLines
    rw [hmessage]
  rcases runs_gotChats (s := client.complete call.requestId) hvalid m with
    ⟨client', hok, hcontinues⟩ | ⟨client', hok, hcontinues⟩
  · refine ⟨client', hok, ?_⟩
    unfold ClientInOrder
    rw [hcontinues.shown, hcontinues.calls, List.append_nil, List.filter_append]
    refine InOrder.historyArrives h hevent hnone ?_
    show ((client.shown.filter _ ++ _) ++ _).Sublist _
    rw [hshown, hrest, List.nil_append, List.append_nil, hhistory]
    exact usersLines_sublist (client.complete call.requestId) (.chatLog m.messages)
  · refine ⟨client', hok, ?_⟩
    unfold ClientInOrder
    rw [hcontinues.shown, hcontinues.calls, List.append_nil]
    refine InOrder.historyArrives h hevent (fun callback hc => ?_) ?_
    · rcases List.mem_append.mp hc with hold | hnew
      · exact hnone callback hold
      · rw [List.mem_singleton.mp hnew]
        rfl
    · show (client.shown.filter _ ++ _).Sublist _
      rw [hshown, List.flatMap_append, hrest, List.flatMap_singleton, List.nil_append,
        List.nil_append, hhistory]
      exact List.Sublist.refl _

/-- The client handles an answer from the wire. -/
theorem ClientInOrder.answer (h : ClientInOrder channelId history client (delivery :: wire))
    (hvalid : client.validateSession = true) (hanswer : delivery.message.type.isRpcAnswer = true)
    (hlookup : delivery.message.type ≠ .getUsersResponse) (c : Nat) :
    ∃ client', client.handleAnswer c delivery.message = .ok client' ∧
      ClientInOrder channelId history client' wire := by
  have hevent : eventLines channelId delivery = [] := by
    refine eventLines_of_type fun hchat => ?_
    rw [hchat] at hanswer
    cases hanswer
  have htail : ClientInOrder channelId history client wire := InOrder.tail h hevent
  cases hanswered : client.answered c delivery.message with
  | none => exact ⟨client, ClientRun.handleAnswer_none hanswered, htail⟩
  | some call =>
    obtain ⟨hmem, hby⟩ := answered_eq_some hanswered
    have hrest := htail.complete call.requestId
    -- The calls of a join hand it on or bring the history. All others have no lines.
    rw [ClientRun.handleAnswer_some hanswered]
    have hanswers := answers_of_answeredBy hby
    generalize hcallback : call.callback = callback at hanswers
    generalize hmessage : delivery.message = message at hanswers hlookup
    cases hanswers with
    | error _ m => exact ⟨_, by cases callback <;> rfl, hrest⟩
    | authenticated m =>
      obtain ⟨client', hok, hcontinues⟩ := runs_authenticated (client.complete call.requestId) m
      have hsame : ClientInOrder channelId history
          { client.complete call.requestId with user := some m.user } wire := hrest
      exact ⟨client', hok, hsame.quiet hcontinues⟩
    | loggedOut user m => exact ⟨_, rfl, hrest.quiet (continues_addLine _ _)⟩
    | createdUser m => exact ⟨_, rfl, hrest.quiet (continues_createdUser _ m)⟩
    | gotChannels m => exact ⟨_, rfl, hrest.quiet (continues_gotChannels _ m)⟩
    | createdChannel m => exact ⟨_, rfl, hrest.quiet (continues_createdChannel _ m)⟩
    | joined m =>
      have hjoins : joins call.callback = true := by
        rw [hcallback]
        rfl
      cases hcached : client.store.channelsCache m.channelId with
      | none =>
        obtain ⟨client', hok, hcontinues⟩ :=
          runs_joined_uncached (s := client.complete call.requestId) hvalid hcached
        refine ⟨client', hok, htail.joinGoesOn hmem hjoins rfl ?_ hcontinues.calls⟩
        exact hcontinues.shown.trans (List.append_nil _)
      | some channel =>
        obtain ⟨client', hok, hcontinues⟩ :=
          runs_joined_cached (s := client.complete call.requestId) hvalid hcached
        refine ⟨client', hok, htail.joinGoesOn hmem hjoins rfl ?_ hcontinues.calls⟩
        exact hcontinues.shown.trans (List.append_nil _)
    | gotChats m => exact h.gotChats hvalid hmem hcallback hmessage
    | gotUsers callback m => exact absurd rfl hlookup
    | gotChannel callback m =>
      by_cases hjoined : callback = .joined
      · subst hjoined
        have hjoins : joins call.callback = true := by
          rw [hcallback]
          rfl
        obtain ⟨channel, made, hmade, -, client', hok, hcontinues⟩ :=
          runs_gotChannel_joined (client.complete call.requestId) m
        have hvalid' : (client.complete call.requestId).validateSession = true := hvalid
        rw [hvalid', if_pos rfl] at hmade
        subst hmade
        refine ⟨client', hok, htail.joinGoesOn hmem hjoins rfl ?_ hcontinues.calls⟩
        exact hcontinues.shown.trans (List.append_nil _)
      · exact hrest.aside (runsAside_gotChannel hjoined m)

/-- The client handles an event. A chat message of the channel is in turn. -/
theorem ClientInOrder.event (h : ClientInOrder channelId history client (delivery :: wire))
    (hvalid : client.validateSession = true) (hanswer : delivery.message.type.isRpcAnswer = false)
    (hturn : ∀ sender ∈ senderOf channelId delivery,
      (¬ ∃ callback ∈ client.calls.map PendingCall.callback, joins callback = true) ∧
        (client.store.usersCache sender ≠ none →
          (client.calls.map PendingCall.callback).flatMap (linesOf channelId) = [])) (c : Nat) :
    ∃ client', client.receive c delivery.messageId delivery.message = .ok client' ∧
      ClientInOrder channelId history client' wire := by
  by_cases hchat : delivery.message.type = .receiveChat
  · obtain ⟨m, hmessage⟩ : ∃ m, delivery.message = .receiveChat m := by
      generalize delivery.message = message at hchat
      cases message <;> cases hchat
      exact ⟨_, rfl⟩
    have hlines : eventLines channelId delivery
        = [⟨delivery.messageId, m.channelId, m.userId, m.content⟩].filter
          (·.channelId = channelId) := by
      unfold eventLines
      rw [hmessage]
    rw [hmessage]
    by_cases hown : m.channelId = channelId
    · have hsender : senderOf channelId delivery = some m.userId := by
        unfold senderOf
        rw [hmessage]
        exact if_pos hown
      obtain ⟨hjoining, hwaiting⟩ := hturn m.userId hsender
      rcases runs_receiveChat hvalid c delivery.messageId m with
        ⟨user, hcached, client', hok, hcontinues⟩ | ⟨-, client', hok, hcontinues⟩
      · refine ⟨client', hok, ?_⟩
        unfold ClientInOrder
        rw [hcontinues.shown, hcontinues.calls, List.append_nil, List.filter_append, ← hlines]
        exact InOrder.event_printed h hjoining (hwaiting (by simp [hcached]))
      · refine ⟨client', hok, ?_⟩
        unfold ClientInOrder
        rw [hcontinues.shown, hcontinues.calls, List.append_nil]
        exact InOrder.event_waits h hjoining rfl hlines.symm
    · -- The message is about another channel.
      have hnone : [(⟨delivery.messageId, m.channelId, m.userId, m.content⟩ : ChatMessage)].filter
          (·.channelId = channelId) = [] := by
        simp [hown]
      have htail : ClientInOrder channelId history client wire :=
        InOrder.tail h (hlines.trans hnone)
      rcases runs_receiveChat hvalid c delivery.messageId m with
        ⟨-, -, client', hok, hcontinues⟩ | ⟨-, client', hok, hcontinues⟩
      · exact ⟨client', hok, htail.continues hcontinues hnone fun _ hmem => nomatch hmem⟩
      · refine ⟨client', hok, htail.continues hcontinues rfl fun callback hmem => ?_⟩
        rw [List.mem_singleton.mp hmem]
        exact ⟨rfl, hnone⟩
  · exact ClientInOrder.aside (InOrder.tail h (eventLines_of_type hchat))
      (runsAside_receive hchat hanswer c delivery.messageId)

/-- A message without lines in front of the wire. -/
theorem InOrder.cons {shown : List ChatMessage} {callbacks : List RpcCallback}
    (h : InOrder channelId history shown callbacks wire)
    (hevent : eventLines channelId delivery = []) (hhistory : historyLines channelId delivery = []) :
    InOrder channelId history shown callbacks (delivery :: wire) := by
  have hlines : allLines channelId shown callbacks (delivery :: wire)
      = allLines channelId shown callbacks wire := by
    unfold allLines
    rw [List.flatMap_cons, hevent, List.nil_append]
  refine ⟨hlines ▸ h.known, hlines ▸ h.ordered, fun d hd => ?_,
    List.pairwise_cons.mpr ⟨fun later _ m hm => ?_, h.newer⟩, h.one, h.silent⟩
  · rcases List.mem_cons.mp hd with rfl | hold
    · rw [hhistory]
      exact ⟨List.Pairwise.nil, fun m hm => nomatch hm⟩
    · exact h.replies d hold
  · rw [hhistory] at hm
    cases hm

/-- The client handles an event that is not about the channel. -/
theorem ClientInOrder.unrelated (h : ClientInOrder channelId history client wire)
    (hvalid : client.validateSession = true) {message : Message}
    (hunrelated : Unrelated channelId message) (c id : Nat) :
    ∃ client', client.receive c id message = .ok client' ∧
      ClientInOrder channelId history client' wire := by
  obtain ⟨hanswer, hchannel⟩ := hunrelated
  have hother : ∀ m, message = .receiveChat m → m.channelId ≠ channelId := by
    rintro m rfl heq
    exact hchannel (congrArg some heq)
  have hevent : eventLines channelId ⟨message, id⟩ = [] := by
    cases message with
    | receiveChat m => simp [eventLines, hother m rfl]
    | _ => rfl
  have hhistory : historyLines channelId ⟨message, id⟩ = [] := by
    cases message with
    | getChatsResponse m => cases hanswer
    | _ => rfl
  have hsender : senderOf channelId ⟨message, id⟩ = none := by
    cases message with
    | receiveChat m => exact if_neg (hother m rfl)
    | _ => rfl
  have hcons : ClientInOrder channelId history client (⟨message, id⟩ :: wire) :=
    InOrder.cons h hevent hhistory
  refine hcons.event hvalid hanswer (fun sender hs => ?_) c
  rw [hsender] at hs
  cases hs

/-- Taking out the oldest call with lines leaves the lines behind it. -/
theorem waiting_complete {calls : List PendingCall} {call : PendingCall}
    (h : calls.find? (fun call => linesOf channelId call.callback ≠ []) = some call) :
    (linesOf channelId call.callback ++
      ((calls.filter (·.requestId ≠ call.requestId)).map PendingCall.callback).flatMap
        (linesOf channelId)).Sublist
      ((calls.map PendingCall.callback).flatMap (linesOf channelId)) := by
  obtain ⟨-, before, after, rfl, hbefore⟩ := List.find?_eq_some_iff_append.mp h
  have hnone : (before.map PendingCall.callback).flatMap (linesOf channelId) = [] := by
    refine List.flatMap_eq_nil_iff.mpr fun callback hc => ?_
    obtain ⟨other, hother, rfl⟩ := List.mem_map.mp hc
    simpa using hbefore other hother
  have hnone' := lines_of_sublist ((List.filter_sublist (p := fun other : PendingCall =>
    decide (other.requestId ≠ call.requestId)) (l := before)).map PendingCall.callback) hnone
  rw [List.filter_append, List.map_append, List.flatMap_append, hnone',
    List.filter_cons_of_neg (by simp), List.map_append, List.flatMap_append, hnone, List.map_cons,
    List.flatMap_cons, List.nil_append, List.nil_append]
  exact (List.Sublist.refl _).append ((List.filter_sublist.map _).flatMap _)

/-- The client handles the answer to a user lookup that is in turn. -/
theorem ClientInOrder.lookup (h : ClientInOrder channelId history client wire)
    (hvalid : client.validateSession = true) {c : Nat} {m : GetUsersResponseMessage}
    (hturn : ∀ call ∈ client.answered c (.getUsersResponse m),
      linesOf channelId call.callback ≠ [] →
        client.calls.find? (fun call => linesOf channelId call.callback ≠ []) = some call) :
    ∃ client', client.handleAnswer c (.getUsersResponse m) = .ok client' ∧
      ClientInOrder channelId history client' wire := by
  cases hanswered : client.answered c (.getUsersResponse m) with
  | none => exact ⟨client, ClientRun.handleAnswer_none hanswered, h⟩
  | some call =>
    obtain ⟨hmem, hby⟩ := answered_eq_some hanswered
    obtain ⟨callback, hcallback⟩ : ∃ callback, call.callback = .gotUsers callback := by
      have hanswers := answers_of_answeredBy hby
      generalize call.callback = callback at hanswers
      cases hanswers
      exact ⟨_, rfl⟩
    obtain ⟨-, user, -, huser⟩ := validateSession_eq_true.mp hvalid
    have huser' : (client.complete call.requestId).user ≠ none := by
      simp [SessionSystem.complete, huser]
    obtain ⟨client', hok, hcontinues⟩ : Runs (client.complete call.requestId)
        ((client.complete call.requestId).gotUsers m callback)
        (usersLines (m.users.foldl SessionSystem.cacheUser (client.complete call.requestId))
          callback) [] := runs_gotUsers (.inl huser')
    have hprinted : ((usersLines
        (m.users.foldl SessionSystem.cacheUser (client.complete call.requestId)) callback).filter
          (·.channelId = channelId)).Sublist (linesOf channelId call.callback) := by
      rw [hcallback]
      exact usersLines_sublist _ callback
    refine ⟨client', ?_, ?_⟩
    · rw [ClientRun.handleAnswer_some hanswered, hcallback]
      exact hok
    · by_cases hlines : linesOf channelId call.callback = []
      · rw [hlines] at hprinted
        exact (h.complete call.requestId).continues hcontinues (List.sublist_nil.mp hprinted)
          fun _ hc => nomatch hc
      · have holdest := waiting_complete (hturn call hanswered hlines)
        unfold ClientInOrder
        rw [hcontinues.shown, hcontinues.calls, List.append_nil, List.filter_append]
        have hsub := callbacks_complete client call.requestId
        refine InOrder.mono h ?_ (List.Sublist.refl _) (Nat.le_trans hsub.countP_le h.one) ?_
        · unfold allLines
          rw [List.append_assoc, ← List.append_assoc _ (List.flatMap _ _)]
          refine (List.Sublist.refl _).append (List.Sublist.append ?_ (List.Sublist.refl _))
          exact (hprinted.append (List.Sublist.refl _)).trans holdest
        · -- While a join goes on no lines wait, but the call has some.
          rintro ⟨other, hother, hjoins⟩
          have hwaiting := (h.silent ⟨other, hsub.subset hother, hjoins⟩).2
          have hnil := List.flatMap_eq_nil_iff.mp hwaiting call.callback
            (List.mem_map_of_mem hmem)
          exact absurd hnil hlines

/-- A client in session stays in session with every message that it handles. -/
theorem receive_valid (hvalid : client.validateSession = true) {c id : Nat} {message : Message}
    (hok : client.receive c id message = .ok client') : client'.validateSession = true := by
  obtain ⟨current, user, hc, hu⟩ := validateSession_eq_true.mp hvalid
  have hlines : ClientRun.ChatLinesInSession { system := client } (.receive c id message) :=
    fun _ => by simp [hu]
  obtain ⟨client'', hok', hperformed⟩ := ClientRun.performed_receive hlines
  obtain rfl : client'' = client' := Except.ok.inj (hok'.symm.trans hok)
  have hkept : ∀ {before : SessionSystem}, Keeps before client'' →
      before.connectionId = some current → before.user ≠ none →
      client''.validateSession = true := by
    intro before hkeeps hcurrent huser
    obtain ⟨user, hsome⟩ := Option.ne_none_iff_exists'.mp huser
    exact validateSession_eq_true.mpr
      ⟨current, user, hkeeps.connectionId.trans hcurrent, hkeeps.user.trans hsome⟩
  have huser : client.user ≠ none := by simp [hu]
  cases hperformed with
  | authenticated _ hkeeps => exact hkept hkeeps hc (by simp)
  | joined _ _ _ hkeeps => exact hkept hkeeps hc huser
  | continued _ _ hkeeps => exact hkept hkeeps hc huser
  | kept _ hkeeps => exact hkept hkeeps hc huser

/-! ### Steps of the server -/

/-- The history grows, and the server sends a message. Its event is newer than the history so
far. -/
theorem InOrder.append {shown history' : List ChatMessage} {callbacks : List RpcCallback}
    (h : InOrder channelId history shown callbacks wire) (hsub : history ⊆ history')
    (hevent : ∀ m ∈ eventLines channelId delivery, m ∈ history' ∧ ∀ x ∈ history, Older x m)
    (hone : (eventLines channelId delivery).Pairwise Older)
    (hreply : (historyLines channelId delivery).Pairwise Older ∧
      ∀ m ∈ historyLines channelId delivery, m ∈ history') :
    InOrder channelId history' shown callbacks (wire ++ [delivery]) := by
  have hlines : allLines channelId shown callbacks (wire ++ [delivery])
      = allLines channelId shown callbacks wire ++ eventLines channelId delivery := by
    unfold allLines
    rw [List.flatMap_append, List.flatMap_singleton, List.append_assoc, List.append_assoc]
  refine ⟨fun m hm => ?_, ?_, fun d hd => ?_, ?_, h.one, h.silent⟩
  · rw [hlines, List.mem_append] at hm
    rcases hm with hold | hnew
    · exact hsub (h.known m hold)
    · exact (hevent m hnew).1
  · rw [hlines, List.pairwise_append]
    exact ⟨h.ordered, hone, fun m hm m' hm' => (hevent m' hm').2 m (h.known m hm)⟩
  · rcases List.mem_append.mp hd with hold | hnew
    · obtain ⟨hsorted, hknown⟩ := h.replies d hold
      exact ⟨hsorted, fun m hm => hsub (hknown m hm)⟩
    · rw [List.mem_singleton.mp hnew]
      exact hreply
  · refine List.pairwise_append.mpr ⟨h.newer, List.pairwise_singleton _ _, fun d hd later hl => ?_⟩
    rw [List.mem_singleton.mp hl]
    exact fun m hm m' hm' => (hevent m' hm').2 m ((h.replies d hd).2 m hm)

/-- A message without lines is sent. -/
theorem InOrder.append_silent {shown : List ChatMessage} {callbacks : List RpcCallback}
    (h : InOrder channelId history shown callbacks wire)
    (hevent : eventLines channelId delivery = []) (hhistory : historyLines channelId delivery = []) :
    InOrder channelId history shown callbacks (wire ++ [delivery]) := by
  refine h.append (List.Subset.refl _) ?_ ?_ ?_
  · rw [hevent]
    exact fun m hm => nomatch hm
  · rw [hevent]
    exact List.Pairwise.nil
  · rw [hhistory]
    exact ⟨List.Pairwise.nil, fun m hm => nomatch hm⟩

/-- A longer history keeps the order. -/
theorem InOrder.grow {shown history' : List ChatMessage} {callbacks : List RpcCallback}
    (h : InOrder channelId history shown callbacks wire) (hsub : history ⊆ history') :
    InOrder channelId history' shown callbacks wire where
  known m hm := hsub (h.known m hm)
  ordered := h.ordered
  replies d hd := ⟨(h.replies d hd).1, fun m hm => hsub ((h.replies d hd).2 m hm)⟩
  newer := h.newer
  one := h.one
  silent := h.silent

/-- The history of a channel is in order of creation. -/
theorem pairwise_channelHistory {server : Lifetimes} (h : server.HistoryInv) (channel : Nat) :
    (server.channelHistory channel).Pairwise Older := by
  have hascending := (h.ascending channel).pairwise
  rw [List.pairwise_map] at hascending
  exact hascending

/-- What holds in a conversation whose steps are in turn. -/
structure ConversationInv (channelId : Nat) (s : Conversation) : Prop where
  session : s.client.validateSession = true
  length : s.server.history.length < uint32Size - 1
  server : s.server.HistoryInv
  lookups : ∀ delivery ∈ s.wire, delivery.message.type ≠ .getUsersResponse
  lines : ClientInOrder channelId (s.server.channelHistory channelId) s.client s.wire

variable {s s' : Conversation}

/-- The invariant holds where the conversation begins. -/
theorem conversationInv_begins (h : Begins channelId client s) : ConversationInv channelId s := by
  obtain ⟨user, huser⟩ := Option.ne_none_iff_exists'.mp h.user
  have hvalid := validateSession_eq_true.mpr ⟨s.connectionId, user, h.connected, huser⟩
  have hcontinues : Continues client s.client [] [.joined] := by
    have hjoin := h.join
    unfold SessionSystem.joinChannel at hjoin
    rw [hvalid, h.connected] at hjoin
    rw [← Except.ok.inj hjoin]
    exact continues_call client s.connectionId _ _
  obtain ⟨hreach, hlength⟩ := h.server
  refine ⟨?_, hlength, Lifetimes.historyInv_reachable hreach hlength, ?_, ?_⟩
  · exact validateSession_eq_true.mpr ⟨s.connectionId, user,
      hcontinues.connectionId.trans h.connected, hcontinues.user.trans huser⟩
  · rw [h.wire]
    exact fun d hd => nomatch hd
  · have hwaiting : (client.calls.map PendingCall.callback ++ [RpcCallback.joined]).flatMap
        (linesOf channelId) = [] := by
      refine List.flatMap_eq_nil_iff.mpr fun callback hc => ?_
      rcases List.mem_append.mp hc with hold | hnew
      · obtain ⟨call, hcall, rfl⟩ := List.mem_map.mp hold
        exact (h.calls call hcall).2
      · rw [List.mem_singleton.mp hnew]
        rfl
    have hcount : (client.calls.map PendingCall.callback).countP joins = 0 := by
      refine countP_joins fun callback hc => ?_
      obtain ⟨call, hcall, rfl⟩ := List.mem_map.mp hc
      exact (h.calls call hcall).1
    have hnothing : allLines channelId [] (client.calls.map PendingCall.callback ++ [.joined]) []
        = [] := by
      unfold allLines
      rw [hwaiting]
      rfl
    unfold ClientInOrder
    rw [hcontinues.shown, hcontinues.calls, h.shown, h.wire]
    refine ⟨?_, ?_, fun d hd => (nomatch hd), List.Pairwise.nil, ?_, fun _ => ⟨rfl, hwaiting⟩⟩
    · show ∀ m ∈ allLines channelId [] _ [], _
      rw [hnothing]
      exact fun m hm => nomatch hm
    · show (allLines channelId [] _ []).Pairwise Older
      rw [hnothing]
      exact List.Pairwise.nil
    · rw [List.countP_append, hcount, Nat.zero_add]
      exact List.countP_le_length

/-- An operation that creates no message leaves the history as it is. -/
theorem history_of_maintains {server server' : Lifetimes} {op : LifetimeOp}
    (hcreates : creates op = false) (hs : server.step (.op op) = some server') :
    server'.history = server.history := by
  obtain ⟨current, hcurrent, rfl⟩ := Option.map_eq_some_iff.mp hs
  cases op with
  | createMessage channel userId content => cases hcreates
  | createChannel name =>
    cases hcurrent
    rfl
  | getMessagesBefore channel messageId limit =>
    cases hcurrent
    rfl
  | persist =>
    obtain ⟨result, -, rfl⟩ := Option.map_eq_some_iff.mp hcurrent
    rfl

/-- The server executes an operation that creates no message. -/
theorem ConversationInv.maintain (h : ConversationInv channelId s) {server : Lifetimes}
    {op : LifetimeOp} (hop : Maintains s.server op) (hs : s.server.step (.op op) = some server) :
    ConversationInv channelId { s with server := server } := by
  have hhistory := history_of_maintains hop.2 hs
  have hchannel : server.channelHistory channelId = s.server.channelHistory channelId := by
    unfold Lifetimes.channelHistory
    rw [hhistory]
  have hlength : server.history.length < uint32Size - 1 := hhistory ▸ h.length
  refine ⟨h.session, hlength, Lifetimes.historyInv_step h.server hop.1 hs hlength, h.lookups, ?_⟩
  show ClientInOrder channelId (server.channelHistory channelId) s.client s.wire
  rw [hchannel]
  exact h.lines

/-- The server sends a message that is no chat event and no answer to a user lookup. -/
theorem ConversationInv.send (h : ConversationInv channelId s)
    (hlookup : delivery.message.type ≠ .getUsersResponse)
    (hlines : ClientInOrder channelId (s.server.channelHistory channelId) s.client
      (s.wire ++ [delivery])) :
    ConversationInv channelId { s with wire := s.wire ++ [delivery] } := by
  refine ⟨h.session, h.length, h.server, fun d hd => ?_, hlines⟩
  rcases List.mem_append.mp hd with hold | hnew
  · exact h.lookups d hold
  · rw [List.mem_singleton.mp hnew]
    exact hlookup

/-- The answer to a request for the history is a part of the history, in order. -/
theorem getChats_lines (h : ConversationInv channelId s) (m : GetChatsRequestMessage) :
    ClientInOrder channelId (s.server.channelHistory channelId) s.client (s.wire ++
      [⟨.getChatsResponse ⟨m.requestId, m.channelId,
        (s.server.current.store.getMessagesBefore s.server.current.db m.channelId maxMessageId
          m.limit).2⟩, 0⟩]) := by
  have hpage := (Lifetimes.getMessagesBefore_of_historyInv h.server h.length m.channelId m.limit).1
  rw [hpage]
  have hsub : ((s.server.channelHistory m.channelId).rtake m.limit).Sublist
      (s.server.channelHistory m.channelId) := by
    rw [List.rtake_eq_reverse_take_reverse]
    refine List.reverse_sublist.mp ?_
    rw [List.reverse_reverse]
    exact List.take_sublist _ _
  refine InOrder.append h.lines (List.Subset.refl _) (fun _ hm => nomatch hm) List.Pairwise.nil
    ⟨?_, fun x hx => ?_⟩
  · exact (pairwise_channelHistory h.server m.channelId).sublist (List.filter_sublist.trans hsub)
  · obtain ⟨hx, hchannel⟩ := List.mem_filter.mp hx
    have hall : x ∈ s.server.history := List.mem_of_mem_filter (hsub.subset hx)
    exact List.mem_filter.mpr ⟨hall, hchannel⟩

/-- The server handles a message of the client. -/
theorem conversationInv_handle (h : ConversationInv channelId s) {request : Message}
    (hs : s.handle request = some s') : ConversationInv channelId s' := by
  cases request with
  | joinChatChannelRequest m =>
    simp only [handle] at hs
    split at hs
    · cases hs
      exact h.send (by simp [Message.type]) (InOrder.append_silent h.lines rfl rfl)
    · rename_i channel _
      cases hs
      have hsent : ConversationInv channelId { s with
          wire := s.wire ++ [⟨.joinChatChannelResponse ⟨m.requestId, channel.id⟩, 0⟩] } :=
        h.send (by simp [Message.type]) (InOrder.append_silent h.lines rfl rfl)
      exact ⟨hsent.session, hsent.length, hsent.server, hsent.lookups, hsent.lines⟩
  | getChatChannelRequest m =>
    simp only [handle] at hs
    split at hs
    · cases hs
      exact h.send (by simp [Message.type]) (InOrder.append_silent h.lines rfl rfl)
    · cases hs
      exact h.send (by simp [Message.type]) (InOrder.append_silent h.lines rfl rfl)
  | getChatsRequest m =>
    simp only [handle, Option.map_eq_some_iff] at hs
    obtain ⟨server, hserver, rfl⟩ := hs
    -- The request also fills the cache of the store, which does not change the history.
    have hsent := h.send (by simp [Message.type]) (getChats_lines h m)
    have hop : Maintains s.server (.getMessagesBefore m.channelId maxMessageId m.limit) :=
      ⟨rfl, rfl⟩
    exact hsent.maintain hop hserver
  | _ =>
    cases hs
    exact h

/-- A chat message is written. -/
theorem conversationInv_write (h : ConversationInv channelId s) {channel userId : Nat}
    {content : String} (hturn : s.server.history.length + 1 < uint32Size - 1)
    (hchannel : channel ∈ s.server.current.db.channels.keys)
    (hs : s.write channel userId content = some s') : ConversationInv channelId s' := by
  obtain ⟨server, hserver, rfl⟩ := Option.map_eq_some_iff.mp hs
  have hhistory : server.history
      = s.server.history ++ [s.server.current.store.nextMessage channel userId content] := by
    cases hserver
    exact (List.append_assoc ..).symm
  have hlength : server.history.length < uint32Size - 1 := by
    rw [hhistory, List.length_append, List.length_singleton]
    exact hturn
  have hserves : servesHistory s.server (.op (.createMessage channel userId content)) := hchannel
  have hinv := Lifetimes.historyInv_step h.server hserves hserver hlength
  have hnext : server.channelHistory channelId = if channelId = channel then
      s.server.channelHistory channelId ++
        [s.server.current.store.nextMessage channel userId content]
      else s.server.channelHistory channelId :=
    Lifetimes.channelHistory_of_append hhistory channelId
  have hsub : s.server.channelHistory channelId ⊆ server.channelHistory channelId := by
    rw [hnext]
    split
    · exact List.subset_append_left _ _
    · exact List.Subset.refl _
  by_cases hassigned : s.assigned = some channel
  · -- The event has the next id, which is above all ids of the history.
    simp only [hassigned, if_true]
    refine ⟨h.session, hlength, hinv, fun d hd => ?_, InOrder.append h.lines hsub ?_ ?_ ?_⟩
    · rcases List.mem_append.mp hd with hold | hnew
      · exact h.lookups d hold
      · rw [List.mem_singleton.mp hnew]
        simp [Message.type]
    · intro m hm
      obtain ⟨hm, hown⟩ := List.mem_filter.mp hm
      obtain rfl := List.mem_singleton.mp hm
      have hown : channel = channelId := of_decide_eq_true hown
      refine ⟨?_, fun x hx => h.server.id_lt_nextId hx⟩
      show s.server.current.store.nextMessage channel userId content ∈ _
      rw [hnext, if_pos hown.symm]
      exact List.mem_append_right _ (List.mem_singleton_self _)
    · exact (List.pairwise_singleton _ _).sublist List.filter_sublist
    · exact ⟨List.Pairwise.nil, fun m hm => nomatch hm⟩
  · simp only [hassigned, if_false]
    exact ⟨h.session, hlength, hinv, h.lookups, InOrder.grow h.lines hsub⟩

/-- The client handles a message. -/
theorem conversationInv_receive (h : ConversationInv channelId s) {wire : List Delivery}
    (hwire : wire ⊆ s.wire) {id : Nat} {message : Message}
    (hlines : ∃ client', s.client.receive s.connectionId id message = .ok client' ∧
      ClientInOrder channelId (s.server.channelHistory channelId) client' wire)
    (hs : { s with wire := wire }.receive id message = some s') :
    ConversationInv channelId s' := by
  obtain ⟨client', hok, hlines⟩ := hlines
  simp only [receive, hok] at hs
  cases hs
  exact ⟨receive_valid h.session hok, h.length, h.server, fun d hd => h.lookups d (hwire hd), hlines⟩

/-- Every step in turn keeps the invariant. -/
theorem conversationInv_step {op : ConversationOp} (h : ConversationInv channelId s)
    (hturn : InTurn channelId s op) (hs : s.step channelId op = some s') :
    ConversationInv channelId s' := by
  cases op with
  | write channel userId content =>
    simp only [step, Option.ite_none_right_eq_some] at hs
    exact conversationInv_write h hturn hs.1 hs.2
  | store op =>
    simp only [step, Option.ite_none_right_eq_some] at hs
    obtain ⟨hop, hs⟩ := hs
    obtain ⟨server, hserver, rfl⟩ := Option.map_eq_some_iff.mp hs
    exact h.maintain hop hserver
  | serve =>
    obtain ⟨request, -, hs⟩ := Option.bind_eq_some_iff.mp hs
    have hserved : ConversationInv channelId { s with served := s.served + 1 } :=
      ⟨h.session, h.length, h.server, h.lookups, h.lines⟩
    exact conversationInv_handle hserved hs
  | deliver =>
    cases hwire : s.wire with
    | nil =>
      simp only [step, hwire] at hs
      cases hs
    | cons delivery wire =>
      simp only [step, hwire] at hs
      have hlines := h.lines
      rw [hwire] at hlines
      have hlookup := h.lookups delivery (hwire ▸ List.mem_cons_self)
      refine conversationInv_receive h (hwire ▸ List.subset_cons_self _ _) ?_ hs
      cases hanswer : delivery.message.type.isRpcAnswer with
      | true =>
        rw [ClientRun.receive_answer hanswer]
        exact hlines.answer h.session hanswer hlookup s.connectionId
      | false =>
        have hin := hturn delivery (by rw [hwire]; rfl)
        exact hlines.event h.session hanswer hin s.connectionId
  | lookup requestId users =>
    have hlines := h.lines.lookup h.session hturn
    rw [← ClientRun.receive_answer rfl s.connectionId 0] at hlines
    exact conversationInv_receive h (List.Subset.refl _) hlines hs
  | event id message =>
    simp only [step, Option.ite_none_right_eq_some] at hs
    obtain ⟨hunrelated, hs⟩ := hs
    exact conversationInv_receive h (List.Subset.refl _)
      (h.lines.unrelated h.session hunrelated s.connectionId id) hs

/-- The invariant holds in every conversation whose steps are in turn. -/
theorem conversationInv_reachable (h : (conversations channelId).Reachable (InTurn channelId) s) :
    ConversationInv channelId s := by
  refine h.invariant ?_ fun s op s' ih hturn hs => conversationInv_step ih hturn hs
  rintro s ⟨client, hbegins⟩
  exact conversationInv_begins hbegins

/-- In a conversation whose steps are in turn, the chat lines of the channel are messages of the
channel in the order in which the server created them, each of them at most once. -/
theorem conversation_in_order
    (h : (conversations channelId).Reachable (InTurn channelId) s) :
    (s.shown channelId).Sublist (s.server.channelHistory channelId) ∧
      ((s.shown channelId).map ChatMessage.id).Nodup := by
  have hinv := conversationInv_reachable h
  have hhistory := pairwise_channelHistory hinv.server channelId
  have hshown : (s.shown channelId).Pairwise Older :=
    hinv.lines.ordered.sublist (List.sublist_append_left _ _)
  have hsub : s.shown channelId ⊆ s.server.channelHistory channelId :=
    fun m hm => hinv.lines.known m (List.mem_append_left _ hm)
  -- Both lists ascend, so a subset is a sublist.
  have hsubperm := List.subperm_of_subset hshown.nodup hsub
  refine ⟨List.sublist_of_subperm_of_pairwise hsubperm hshown hhistory, ?_⟩
  exact List.pairwise_map.mpr (hshown.imp Nat.ne_of_lt)

/-- Ann, who knows Bob, has requested to join the only channel of the server. -/
def joinGeneral : Conversation where
  client := ({
    connectionId := some 1
    user := some ⟨1, "ann"⟩
    store := ({} : SessionStore).cacheUser ⟨2, "bob"⟩ } : SessionSystem).call 1
      (fun requestId => .joinChatChannelRequest ⟨requestId, 1⟩) .joined
  connectionId := 1
  server := ⟨Server.Lifetime.begin (Server.Database.empty.createChatChannel "general").1, []⟩
  served := 0

/-- The conversation of `joinGeneral` begins after the join. -/
theorem begins_joinGeneral : ∃ client, Begins 1 client joinGeneral := by
  refine ⟨{
    connectionId := some 1
    user := some ⟨1, "ann"⟩
    store := ({} : SessionStore).cacheUser ⟨2, "bob"⟩ }, rfl, by simp, rfl, ?_, rfl, rfl, rfl, ?_⟩
  · exact fun call hcall => nomatch hcall
  · exact ⟨.start ⟨_, rfl, rfl⟩, by decide⟩

/-- The history has a message of a user whom the client does not know. The messages after it are
shown when this user is looked up. -/
theorem conversation_in_order_lookup :
    ∃ s, (conversations 1).Reachable (InTurn 1) s ∧
      (s.shown 1).map ChatMessage.content = ["first", "second", "third"] ∧
      (s.shown 1).Sublist (s.server.channelHistory 1) := by
  have hstart : (conversations 1).Reachable (InTurn 1) joinGeneral := .start begins_joinGeneral
  obtain ⟨s, hreach, hshown⟩ := hstart.exists_of_exec
    [.write 1 2 "first", .write 1 3 "second", .serve, .deliver, .serve, .deliver, .serve,
      .write 1 2 "third", .store .persist, .deliver, .lookup 4 [⟨3, "eve"⟩], .deliver]
    (fun s => (s.shown 1).map ChatMessage.content = ["first", "second", "third"])
    (by decide +kernel)
  exact ⟨s, hreach, hshown, (conversation_in_order hreach).1⟩

/-- A message is written between the join and the request for the history. It is shown with its
event and once more with the history. -/
theorem message_shown_twice :
    ∃ s, (conversations 1).Reachable Lts.anyStep s ∧
      (s.shown 1).map ChatMessage.id = [0, 0] := by
  have hstart : (conversations 1).Reachable Lts.anyStep joinGeneral := .start begins_joinGeneral
  exact hstart.exists_of_exec
    [.serve, .write 1 2 "hello", .deliver, .serve, .deliver, .deliver, .serve, .deliver]
    (fun s => (s.shown 1).map ChatMessage.id = [0, 0]) (by decide +kernel)

end Conversation

end ChatCore.Client
