import ChatCore.Tester.LoadTest
import Mathlib.Data.List.Nodup
import Mathlib.Data.List.Perm.Subperm

/-!
# `ChatCore.Proofs.Preparation`: the clients of the load test prepare themselves

The clients prepare themselves next to each other. What a client waits for is in one of three
lists: it is connecting, it has a call, or it has called `SetClientReady`. No client is in these
lists twice (`Prepared.stages`), so the set of connection ids that `SetClientReady` compares with
`clients_` has one id for each client that is ready (`Prepared.connected`), and the condition for
the beginning of the test becomes true once (`Prepared.begun`).

A callback of a call keeps this and either leaves the test alone or begins it
(`Prepared.runCallback`).
-/

set_option autoImplicit false

namespace ChatCore.Tester

open ChatCore.Api
open ChatCore.Lib

/-- A function that ends without an error hands its result on. -/
theorem ok_bind {α β : Type} (a : α) (f : α → Except Abort β) : (Except.ok a >>= f) = f a := rfl

/-- A function that only returns ends without an error. -/
theorem pure_eq_ok {α : Type} (a : α) : (pure a : Except Abort α) = .ok a := rfl

/-! ### One client -/

/-- The numbers after `try_emplace`. -/
theorem mem_tryEmplace {messages : List TrackedMessage} {message : TrackedMessage} {id : Nat} :
    id ∈ (tryEmplace messages message).map TrackedMessage.messageId ↔
      id ∈ messages.map TrackedMessage.messageId ∨ id = message.messageId := by
  unfold tryEmplace
  split
  · rename_i hmem
    constructor
    · exact .inl
    · intro h
      cases h with
      | inl hold => exact hold
      | inr heq => exact heq ▸ hmem
  · rw [List.map_append, List.mem_append]
    simp

/-- A new number is put at the end. -/
theorem map_tryEmplace {messages : List TrackedMessage} {message : TrackedMessage}
    (h : message.messageId ∉ messages.map TrackedMessage.messageId) :
    (tryEmplace messages message).map TrackedMessage.messageId
      = messages.map TrackedMessage.messageId ++ [message.messageId] := by
  unfold tryEmplace
  rw [if_neg h, List.map_append]
  rfl

namespace TestClient

variable {c : TestClient}

instance (c : TestClient) (connectionId : Nat) (message : ReceiveChatMessage) :
    Decidable (c.Accepts connectionId message) :=
  inferInstanceAs (Decidable (_ ∧ _))

/-- The event is the echo of a message with this number. -/
def Echoes (c : TestClient) (messageId : Nat) (event : Nat × ReceiveChatMessage) : Prop :=
  c.Accepts event.1 event.2 ∧ stoul event.2.content = some messageId

instance (c : TestClient) (messageId : Nat) (event : Nat × ReceiveChatMessage) :
    Decidable (c.Echoes messageId event) :=
  inferInstanceAs (Decidable (_ ∧ _))

/-- What holds of a client alone. -/
structure Inv (c : TestClient) : Prop where
  prepared : c.subscribed = true → c.connectionId ≠ none ∧ c.user ≠ none
  unheard : c.subscribed = false → c.heard = [] ∧ c.incomingMessages = []
  /-- The numbers that have come back are those of the echoes. -/
  incoming : ∀ id, id ∈ c.incomingMessages.map TrackedMessage.messageId ↔
    ∃ event ∈ c.heard, c.Echoes id event

/-- A client that has heard nothing may still change. -/
theorem Inv.of_unheard (hprepared : c.subscribed = true → c.connectionId ≠ none ∧ c.user ≠ none)
    (hheard : c.heard = []) (hincoming : c.incomingMessages = []) : c.Inv where
  prepared := hprepared
  unheard _ := ⟨hheard, hincoming⟩
  incoming id := by simp [hheard, hincoming]

/-- The three ends of the slot: the event is not for this client, its content is no number, or it
is an echo. -/
theorem receiveChat_cases (huser : c.user ≠ none) (now connectionId : Nat)
    (message : ReceiveChatMessage) :
    (¬ c.Accepts connectionId message ∧ c.receiveChat now connectionId message
      = .ok { c with heard := c.heard ++ [(connectionId, message)] }) ∨
    c.receiveChat now connectionId message = .error .terminate ∨
    ∃ messageId, c.Accepts connectionId message ∧ stoul message.content = some messageId ∧
      c.receiveChat now connectionId message = .ok { c with
        heard := c.heard ++ [(connectionId, message)]
        incomingMessages := tryEmplace c.incomingMessages ⟨now, messageId⟩ } := by
  obtain ⟨user, huser⟩ := Option.ne_none_iff_exists'.mp huser
  by_cases hconnection : c.connectionId = some connectionId
  · by_cases hchannel : message.channelId = c.channelId
    · by_cases hsame : message.userId = user.id
      · have haccepts : c.Accepts connectionId message :=
          ⟨hconnection, hchannel, by rw [huser, hsame]; rfl⟩
        cases hnumber : stoul message.content with
        | none =>
          refine .inr (.inl ?_)
          simp [receiveChat, hconnection, hchannel, huser, hsame, value, stoull, hnumber,
            ok_bind]
        | some messageId =>
          refine .inr (.inr ⟨messageId, haccepts, rfl, ?_⟩)
          simp [receiveChat, hconnection, hchannel, huser, hsame, value, stoull, hnumber,
            ok_bind]
      · refine .inl ⟨fun haccepts => hsame ?_, ?_⟩
        · have hid := haccepts.2.2
          rw [huser] at hid
          exact (Option.some.inj hid).symm
        · simp [receiveChat, hconnection, hchannel, huser, hsame, value, ok_bind, pure_eq_ok]
    · refine .inl ⟨fun haccepts => hchannel haccepts.2.1, ?_⟩
      simp [receiveChat, hconnection, hchannel, pure_eq_ok]
  · refine .inl ⟨fun haccepts => hconnection haccepts.1, ?_⟩
    simp [receiveChat, hconnection, pure_eq_ok]

/-- An event of which a client takes note changes nothing else. -/
theorem Inv.heard (h : c.Inv) (hsubscribed : c.subscribed = true) {event : Nat × ReceiveChatMessage}
    {incomingMessages : List TrackedMessage}
    (hincoming : ∀ id, id ∈ incomingMessages.map TrackedMessage.messageId ↔
      id ∈ c.incomingMessages.map TrackedMessage.messageId ∨ c.Echoes id event) :
    Inv { c with heard := c.heard ++ [event], incomingMessages } where
  prepared := h.prepared
  unheard hfalse := absurd (hsubscribed.symm.trans hfalse) (by decide)
  incoming id := by
    show id ∈ incomingMessages.map TrackedMessage.messageId ↔
      ∃ e ∈ c.heard ++ [event], c.Echoes id e
    rw [hincoming, h.incoming]
    constructor
    · intro hid
      cases hid with
      | inl hold =>
        obtain ⟨e, he, hechoes⟩ := hold
        exact ⟨e, List.mem_append_left _ he, hechoes⟩
      | inr hnew => exact ⟨event, by simp, hnew⟩
    · intro hid
      obtain ⟨e, he, hechoes⟩ := hid
      cases List.mem_append.mp he with
      | inl hold => exact .inl ⟨e, hold, hechoes⟩
      | inr hnew =>
        rw [List.mem_singleton.mp hnew] at hechoes
        exact .inr hechoes

/-- The slot ends the process only through `std::stoull`, and otherwise keeps the client. -/
theorem Inv.receiveChat (h : c.Inv) (hsubscribed : c.subscribed = true) (now connectionId : Nat)
    (message : ReceiveChatMessage) :
    c.receiveChat now connectionId message = .error .terminate ∨
    ∃ c', c.receiveChat now connectionId message = .ok c' ∧ c'.Inv ∧
      c'.connectionId = c.connectionId ∧ c'.subscribed = c.subscribed ∧
      c'.outgoingMessages = c.outgoingMessages := by
  rcases receiveChat_cases (h.prepared hsubscribed).2 now connectionId message with
    ⟨hnot, heq⟩ | heq | ⟨messageId, haccepts, hnumber, heq⟩
  · refine .inr ⟨_, heq, h.heard hsubscribed fun id => ?_, rfl, rfl, rfl⟩
    have hnever : ¬ c.Echoes id (connectionId, message) := fun hechoes => hnot hechoes.1
    simp [hnever]
  · exact .inl heq
  · refine .inr ⟨_, heq, h.heard hsubscribed fun id => ?_, rfl, rfl, rfl⟩
    rw [mem_tryEmplace]
    have hechoes : c.Echoes id (connectionId, message) ↔ id = messageId := by
      constructor
      · intro hechoes
        exact Option.some.inj (hechoes.2.symm.trans hnumber)
      · intro heq
        exact ⟨haccepts, hnumber.trans (congrArg some heq.symm)⟩
    rw [hechoes]

end TestClient

namespace LoadTest

variable {s s' : LoadTest}

/-! ### Preparation -/

/-- The connection of a client. -/
def connectionOf (s : LoadTest) (client : Option Nat) : Option Nat :=
  (s.client client).bind Client.connectionId

/-- Whether a test client listens to chat events. -/
def subscribedOf (s : LoadTest) : Option Nat → Option Bool
  | none => none
  | some i => (s.clients[i]?).map TestClient.subscribed

/-- The clients, each in the list that shows what it waits for. -/
def stages (s : LoadTest) : List (Option Nat) :=
  s.connecting ++ s.calls.map PendingCall.client ++ s.ready.map some

/-- What a call knows about its client. -/
def CallOk (s : LoadTest) (call : PendingCall) : Prop :=
  s.connectionOf call.client ≠ none ∧
  match call.callback with
  | .createUser | .authenticateUser => s.subscribedOf call.client ≠ some true
  | .createChannel => call.client = none
  | .joinChannel => s.subscribedOf call.client = some true

/-- What holds of the preparation. -/
structure Prepared (s : LoadTest) : Prop where
  stages : s.stages.Nodup
  /-- The root client is done when it has made the test clients. -/
  root : s.clients ≠ [] → none ∉ s.stages
  scope : ∀ i, some i ∈ s.stages → i < s.clients.length
  count : s.clients ≠ [] → s.clients.length = s.arguments.clientCount
  below : ∀ w c, s.connectionOf w = some c → c < s.nextConnectionId
  distinct : ∀ w w' c, s.connectionOf w = some c → s.connectionOf w' = some c → w = w'
  connecting : ∀ w ∈ s.connecting, s.subscribedOf w ≠ some true
  calls : ∀ call ∈ s.calls, s.CallOk call
  clients : ∀ (i : Nat) (c : TestClient), s.clients[i]? = some c → c.Inv
  ready : ∀ i ∈ s.ready, s.subscribedOf (some i) = some true
  connected : s.connectedClients.map some = s.ready.map fun i => s.connectionOf (some i)
  begun : s.begun = if s.clients ≠ [] ∧ s.ready.length = s.clients.length then 1 else 0

/-- The fields that `Prepared` is about. -/
def preparation (s : LoadTest) :=
  (s.arguments, s.root, s.clients, s.connectedClients, s.nextConnectionId, s.connecting, s.calls,
    s.ready, s.begun)

/-- Only the preparation matters. -/
theorem Prepared.congr (h : s.Prepared) (heq : s'.preparation = s.preparation) : s'.Prepared := by
  cases s
  cases s'
  simp only [preparation, Prod.mk.injEq] at heq
  obtain ⟨rfl, rfl, rfl, rfl, rfl, rfl, rfl, rfl, rfl⟩ := heq
  exact ⟨h.stages, h.root, h.scope, h.count, h.below, h.distinct, h.connecting, h.calls, h.clients,
    h.ready, h.connected, h.begun⟩

/-- A client that listens has a connection. -/
theorem Prepared.connectionOf_ne_none (h : s.Prepared) {i : Nat}
    (hsubscribed : s.subscribedOf (some i) = some true) : s.connectionOf (some i) ≠ none := by
  obtain ⟨c, hc, htrue⟩ := Option.map_eq_some_iff.mp hsubscribed
  have hconnection := ((h.clients i c hc).prepared htrue).1
  simpa [connectionOf, client, hc] using hconnection

/-- A client that is ready has a stage. -/
theorem ready_subset_stages {i : Nat} (h : i ∈ s.ready) : some i ∈ s.stages :=
  List.mem_append_right _ (List.mem_map_of_mem h)

/-- A client with a call has a stage. -/
theorem calls_subset_stages {call : PendingCall} (h : call ∈ s.calls) : call.client ∈ s.stages :=
  List.mem_append_left _ (List.mem_append_right _ (List.mem_map_of_mem h))

/-- A client that is connecting has a stage. -/
theorem connecting_subset_stages {w : Option Nat} (h : w ∈ s.connecting) : w ∈ s.stages :=
  List.mem_append_left _ (List.mem_append_left _ h)

/-- No client is ready twice. -/
theorem Prepared.nodup_ready (h : s.Prepared) : s.ready.Nodup :=
  List.Nodup.of_map some ((List.nodup_append.mp h.stages).2.1)

/-- The clients that are ready exist. -/
theorem Prepared.ready_subset (h : s.Prepared) : s.ready ⊆ List.range s.clients.length := by
  intro i hi
  exact List.mem_range.mpr (h.scope i (ready_subset_stages hi))

/-- No more clients are ready than there are. -/
theorem Prepared.length_ready_le (h : s.Prepared) : s.ready.length ≤ s.clients.length := by
  have hle := (List.subperm_of_subset h.nodup_ready h.ready_subset).length_le
  rwa [List.length_range] at hle

/-- Once the test has begun, every test client is ready. -/
theorem Prepared.all_ready (h : s.Prepared) (hbegun : s.begun ≠ 0) {i : Nat}
    (hi : i < s.clients.length) : i ∈ s.ready := by
  have hfull : s.clients ≠ [] ∧ s.ready.length = s.clients.length := by
    by_contra hnot
    exact hbegun (h.begun.trans (if_neg hnot))
  have hperm := (List.subperm_of_subset h.nodup_ready h.ready_subset).perm_of_length_le
    (by rw [List.length_range]; omega)
  exact hperm.mem_iff.mpr (List.mem_range.mpr hi)

/-! ### Changes of one client -/

/-- The change of one client. -/
theorem client_modifyClient (f : Client → Client) (w w' : Option Nat) :
    (s.modifyClient f w).client w' = if w' = w then (s.client w).map f else s.client w' := by
  cases w with
  | none =>
    cases w' with
    | none => rfl
    | some j => rfl
  | some i =>
    cases w' with
    | none => rfl
    | some j =>
      show ((s.clients.modify i _)[j]?).map TestClient.toClient = _
      rw [List.getElem?_modify]
      by_cases heq : i = j
      · subst heq
        simp only [if_true, client]
        cases s.clients[i]? <;> rfl
      · have hne : some j ≠ some i := fun hsome => heq (Option.some.inj hsome).symm
        rw [if_neg hne]
        simp only [if_neg heq, client]
        cases s.clients[j]? <;> rfl

/-- What is read of the elements does not change when the changed element reads the same. -/
theorem bind_getElem?_modify {α β : Type} {f : α → Option β} {g : α → α} {l : List α} {i j : Nat}
    (h : ∀ a, j = i → l[i]? = some a → f (g a) = f a) :
    ((l.modify i g)[j]?).bind f = (l[j]?).bind f := by
  rw [List.getElem?_modify]
  by_cases heq : i = j
  · subst heq
    cases ha : l[i]? with
    | none => rfl
    | some a => simpa using h a rfl ha
  · simp [heq]

/-- The connection of a test client. -/
theorem connectionOf_some (s : LoadTest) (i : Nat) :
    s.connectionOf (some i) = (s.clients[i]?).bind fun c => c.connectionId := by
  rw [connectionOf, client]
  cases s.clients[i]? <;> rfl

/-- The subscription of a test client. -/
theorem subscribedOf_some (s : LoadTest) (i : Nat) :
    s.subscribedOf (some i) = (s.clients[i]?).bind fun c => some c.subscribed := by
  rw [subscribedOf]
  cases s.clients[i]? <;> rfl

/-- A change that keeps the connection id keeps the connection. -/
theorem connectionOf_modify {i : Nat} {g : TestClient → TestClient} {w : Option Nat}
    (h : ∀ c, w = some i → s.clients[i]? = some c → (g c).connectionId = c.connectionId) :
    connectionOf { s with clients := s.clients.modify i g } w = s.connectionOf w := by
  cases w with
  | none => rfl
  | some j =>
    rw [connectionOf_some, connectionOf_some]
    exact bind_getElem?_modify fun c heq hc => h c (congrArg some heq) hc

/-- A change that keeps the subscription keeps it. -/
theorem subscribedOf_modify {i : Nat} {g : TestClient → TestClient} {w : Option Nat}
    (h : ∀ c, w = some i → s.clients[i]? = some c → (g c).subscribed = c.subscribed) :
    subscribedOf { s with clients := s.clients.modify i g } w = s.subscribedOf w := by
  cases w with
  | none => rfl
  | some j =>
    rw [subscribedOf_some, subscribedOf_some]
    exact bind_getElem?_modify fun c heq hc => congrArg some (h c (congrArg some heq) hc)

/-- A test client changes. Its connection or its subscription only changes while it waits for
nothing. -/
theorem Prepared.modify (h : s.Prepared) (i : Nat) (g : TestClient → TestClient)
    (hinv : ∀ c, s.clients[i]? = some c → (g c).Inv)
    (hconnection : ∀ c, s.clients[i]? = some c → (g c).connectionId = c.connectionId ∨
      some i ∉ s.stages ∧ ∀ id, (g c).connectionId = some id →
        id < s.nextConnectionId ∧ ∀ w, w ≠ some i → s.connectionOf w ≠ some id)
    (hsubscribed : ∀ c, s.clients[i]? = some c → (g c).subscribed = c.subscribed ∨
      some i ∉ s.stages) :
    Prepared { s with clients := s.clients.modify i g } := by
  -- What the other clients, and this one as long as it waits for something, look like afterwards.
  have hconnectionOf : ∀ w, w ≠ some i ∨ w ∈ s.stages →
      connectionOf { s with clients := s.clients.modify i g } w = s.connectionOf w := by
    intro w hw
    refine connectionOf_modify fun c heq hc => ?_
    cases hconnection c hc with
    | inl hsame => exact hsame
    | inr hchanged => exact absurd hw (by simp [heq, hchanged.1])
  have hsubscribedOf : ∀ w, w ≠ some i ∨ w ∈ s.stages →
      subscribedOf { s with clients := s.clients.modify i g } w = s.subscribedOf w := by
    intro w hw
    refine subscribedOf_modify fun c heq hc => ?_
    cases hsubscribed c hc with
    | inl hsame => exact hsame
    | inr hchanged => exact absurd hw (by simp [heq, hchanged])
  -- The connection of the client itself.
  have hself : ∀ id, connectionOf { s with clients := s.clients.modify i g } (some i) = some id →
      s.connectionOf (some i) = some id ∨
      id < s.nextConnectionId ∧ ∀ w, w ≠ some i → s.connectionOf w ≠ some id := by
    intro id hid
    cases hc : s.clients[i]? with
    | none => simp [connectionOf, client, hc] at hid
    | some c =>
      have hg : (g c).connectionId = some id := by simpa [connectionOf, client, hc] using hid
      cases hconnection c hc with
      | inl hsame => exact .inl (by simpa [connectionOf, client, hc] using hsame.symm.trans hg)
      | inr hchanged => exact .inr (hchanged.2 id hg)
  have hlength : (s.clients.modify i g).length = s.clients.length := List.length_modify ..
  have hnil : s.clients.modify i g ≠ [] ↔ s.clients ≠ [] := by
    rw [← List.length_pos_iff, ← List.length_pos_iff, hlength]
  refine ⟨h.stages, fun hne => h.root (hnil.mp hne), ?_, ?_, ?_, ?_, ?_, ?_, ?_, ?_, ?_, ?_⟩
  · intro j hj
    show j < (s.clients.modify i g).length
    rw [hlength]
    exact h.scope j hj
  · intro hne
    show (s.clients.modify i g).length = _
    rw [hlength]
    exact h.count (hnil.mp hne)
  · intro w id hid
    by_cases hw : w = some i
    · subst hw
      cases hself id hid with
      | inl hold => exact h.below _ id hold
      | inr hnew => exact hnew.1
    · rw [hconnectionOf w (.inl hw)] at hid
      exact h.below w id hid
  · intro w w' id hid hid'
    -- The new id of the client is not the id of another one.
    by_cases hw : w = some i
    · by_cases hw' : w' = some i
      · rw [hw, hw']
      · rw [hconnectionOf w' (.inl hw')] at hid'
        rw [hw] at hid ⊢
        cases hself id hid with
        | inl hold => exact h.distinct _ w' id hold hid'
        | inr hnew => exact absurd hid' (hnew.2 w' hw')
    · rw [hconnectionOf w (.inl hw)] at hid
      by_cases hw' : w' = some i
      · rw [hw'] at hid' ⊢
        cases hself id hid' with
        | inl hold => exact h.distinct w _ id hid hold
        | inr hnew => exact absurd hid (hnew.2 w hw)
      · rw [hconnectionOf w' (.inl hw')] at hid'
        exact h.distinct w w' id hid hid'
  · intro w hw
    rw [hsubscribedOf w (.inr (connecting_subset_stages hw))]
    exact h.connecting w hw
  · intro call hcall
    have hw := calls_subset_stages hcall
    unfold CallOk
    rw [hconnectionOf _ (.inr hw), hsubscribedOf _ (.inr hw)]
    exact h.calls call hcall
  · intro j c hc
    have hc : (s.clients.modify i g)[j]? = some c := hc
    rw [List.getElem?_modify] at hc
    obtain ⟨c', hc', heq⟩ := Option.map_eq_some_iff.mp hc
    by_cases hij : i = j
    · rw [if_pos hij] at heq
      subst hij
      exact heq ▸ hinv c' hc'
    · rw [if_neg hij] at heq
      exact heq ▸ h.clients j c' hc'
  · intro j hj
    rw [hsubscribedOf _ (.inr (ready_subset_stages hj))]
    exact h.ready j hj
  · rw [h.connected]
    refine List.map_congr_left fun j hj => ?_
    exact (hconnectionOf _ (.inr (ready_subset_stages hj))).symm
  · show s.begun = if s.clients.modify i g ≠ [] ∧ s.ready.length = (s.clients.modify i g).length
      then 1 else 0
    rw [h.begun, hlength]
    exact if_congr (and_congr_left fun _ => hnil.symm) rfl rfl

/-- A client that waits for nothing and does not listen changes its common part. -/
theorem Prepared.modifyClient (h : s.Prepared) {w : Option Nat} (hw : w ∉ s.stages)
    (hunheard : s.subscribedOf w ≠ some true) (f : Client → Client)
    (hconnection : ∀ b id, s.client w = some b → (f b).connectionId = some id →
      id < s.nextConnectionId ∧ ∀ w', w' ≠ w → s.connectionOf w' ≠ some id) :
    (s.modifyClient f w).Prepared := by
  cases w with
  | some i =>
    refine h.modify i _ ?_ ?_ ?_
    · intro c hc
      have hfalse : c.subscribed = false := by
        simpa [subscribedOf, hc] using hunheard
      obtain ⟨hheard, hincoming⟩ := (h.clients i c hc).unheard hfalse
      exact .of_unheard (fun htrue => absurd (hfalse.symm.trans htrue) (by decide)) hheard hincoming
    · intro c hc
      exact .inr ⟨hw, fun id hid => hconnection c.toClient id (by simp [client, hc]) hid⟩
    · intro c hc
      exact .inl rfl
  | none =>
    have hother : ∀ w', w' ≠ none →
        connectionOf (s.modifyClient f none) w' = s.connectionOf w' := by
      intro w' hw'
      simp only [connectionOf, client_modifyClient, if_neg hw']
    have hroot : ∀ id, connectionOf (s.modifyClient f none) none = some id →
        id < s.nextConnectionId ∧ ∀ w', w' ≠ none → s.connectionOf w' ≠ some id :=
      fun id hid => hconnection s.root id rfl hid
    have hne : ∀ w' ∈ s.stages, w' ≠ none := fun w' hw' heq => hw (heq ▸ hw')
    refine ⟨h.stages, h.root, h.scope, h.count, ?_, ?_, h.connecting, ?_, h.clients, h.ready, ?_,
      h.begun⟩
    · intro w' id hid
      by_cases heq : w' = none
      · exact (hroot id (heq ▸ hid)).1
      · exact h.below w' id ((hother w' heq).symm.trans hid)
    · intro w1 w2 id h1 h2
      by_cases heq1 : w1 = none
      · by_cases heq2 : w2 = none
        · rw [heq1, heq2]
        · exact absurd ((hother w2 heq2).symm.trans h2) ((hroot id (heq1 ▸ h1)).2 w2 heq2)
      · by_cases heq2 : w2 = none
        · exact absurd ((hother w1 heq1).symm.trans h1) ((hroot id (heq2 ▸ h2)).2 w1 heq1)
        · exact h.distinct w1 w2 id ((hother w1 heq1).symm.trans h1)
            ((hother w2 heq2).symm.trans h2)
    · intro call hcall
      obtain ⟨hconnected, hcallback⟩ := h.calls call hcall
      refine ⟨?_, hcallback⟩
      rw [hother _ (hne _ (calls_subset_stages hcall))]
      exact hconnected
    · refine h.connected.trans ?_
      exact List.map_congr_left fun j _ => (hother (some j) (by simp)).symm

/-- A client that waits for nothing. -/
structure Free (s : LoadTest) (w : Option Nat) : Prop where
  idle : w ∉ s.stages
  root : w = none → s.clients = []
  scope : ∀ i, w = some i → i < s.clients.length

/-- A client that is free exists. -/
theorem Free.exists_client {w : Option Nat} (h : s.Free w) : ∃ b, s.client w = some b := by
  cases w with
  | none => exact ⟨s.root, rfl⟩
  | some i =>
    have hi := h.scope i rfl
    exact ⟨s.clients[i].toClient, by simp [client, List.getElem?_eq_getElem hi]⟩

/-- It stays free when a client is changed. -/
theorem Free.modifyClient {w : Option Nat} (h : s.Free w) (f : Client → Client) :
    (s.modifyClient f w).Free w := by
  cases w with
  | none => exact ⟨h.idle, h.root, h.scope⟩
  | some i =>
    refine ⟨h.idle, fun hnone => absurd hnone (by simp), fun j hj => ?_⟩
    show j < (s.clients.modify i _).length
    rw [List.length_modify]
    exact h.scope j hj

/-- A change of a client keeps its subscription. -/
theorem subscribedOf_modifyClient (f : Client → Client) (w w' : Option Nat) :
    (s.modifyClient f w).subscribedOf w' = s.subscribedOf w' := by
  cases w with
  | none => cases w' <;> rfl
  | some i => exact subscribedOf_modify fun _ _ _ => rfl

/-- Clients stop to connect and calls end. -/
theorem Prepared.shrink (h : s.Prepared) {connecting : List (Option Nat)} {calls : List PendingCall}
    {nextConnectionId : Nat} (hconnecting : connecting.Sublist s.connecting)
    (hcalls : calls.Sublist s.calls) (hnext : s.nextConnectionId ≤ nextConnectionId) :
    Prepared { s with connecting, calls, nextConnectionId } := by
  have hstages :
      (LoadTest.stages { s with connecting, calls, nextConnectionId }).Sublist s.stages :=
    (hconnecting.append (hcalls.map _)).append (List.Sublist.refl _)
  refine ⟨hstages.nodup h.stages, fun hne hroot => h.root hne (hstages.subset hroot), ?_, h.count,
    ?_, h.distinct, ?_, ?_, h.clients, h.ready, h.connected, h.begun⟩
  · intro i hi
    exact h.scope i (hstages.subset hi)
  · intro w c hc
    exact Nat.lt_of_lt_of_le (h.below w c hc) hnext
  · intro w hw
    exact h.connecting w (hconnecting.subset hw)
  · intro call hcall
    exact h.calls call (hcalls.subset hcall)

/-- A client that leaves one of the lists of stages is in none of them. -/
theorem Prepared.free_of_mem (h : s.Prepared) {w : Option Nat} {connecting : List (Option Nat)}
    {calls : List PendingCall} (nextConnectionId : Nat) (hw : w ∈ s.stages)
    (hidle : w ∉ LoadTest.stages { s with connecting, calls, nextConnectionId }) :
    Free { s with connecting, calls, nextConnectionId } w where
  idle := hidle
  root hnone := by
    by_contra hne
    exact h.root hne (hnone ▸ hw)
  scope i hi := h.scope i (hi ▸ hw)

/-- A completed call leaves its client without a stage. -/
theorem Prepared.not_mem_stages_complete (h : s.Prepared) {call : PendingCall}
    (hcall : call ∈ s.calls) : call.client ∉ (s.complete call.requestId).stages := by
  obtain ⟨hleft, -, hready⟩ := List.nodup_append.mp h.stages
  obtain ⟨-, hcalls, hconnecting⟩ := List.nodup_append.mp hleft
  have hmem : call.client ∈ s.calls.map PendingCall.client := List.mem_map_of_mem hcall
  intro hw
  rcases List.mem_append.mp hw with hw | hw
  · rcases List.mem_append.mp hw with hw | hw
    · exact hconnecting _ hw _ hmem rfl
    · obtain ⟨call', hcall', heq⟩ := List.mem_map.mp hw
      obtain ⟨hcall', hne⟩ := List.mem_filter.mp hcall'
      have hsame : call' = call := List.inj_on_of_nodup_map hcalls hcall' hcall heq
      rw [hsame] at hne
      simp at hne
  · exact hready _ (List.mem_append_right _ hmem) _ hw rfl

/-- A connection that is there leaves its client without a stage. -/
theorem Prepared.not_mem_stages_erase (h : s.Prepared) {w : Option Nat} (nextConnectionId : Nat)
    (hw : w ∈ s.connecting) : w ∉ LoadTest.stages { s with
      connecting := s.connecting.erase w
      nextConnectionId } := by
  have hperm : s.stages.Perm (w :: LoadTest.stages { s with
      connecting := s.connecting.erase w
      nextConnectionId }) :=
    ((List.perm_cons_erase hw).append_right _).append_right _
  exact (List.nodup_cons.mp (hperm.nodup_iff.mp h.stages)).1

/-- What the clients have sent. -/
def outgoing (s : LoadTest) : List (List Nat) :=
  s.clients.map fun c => c.outgoingMessages.map TrackedMessage.messageId

/-- The fields of the test itself. -/
def measurement (s : LoadTest) :=
  (s.tasks, s.callbacks, s.sending, s.reports, s.written, s.nextId)

/-- What a step of the preparation may do to the test: make its clients, or begin it. -/
structure Moved (s s' : LoadTest) : Prop where
  aborted : s'.aborted = s.aborted
  measurement : s'.measurement = s.measurement
  begins : s'.begun = s.begun ∧ s'.starting = s.starting ∨
    s.begun = 0 ∧ s'.begun = 1 ∧ s'.starting = some 0
  clients : s'.outgoing = s.outgoing ∨ s.clients = [] ∧ ∀ messages ∈ s'.outgoing, messages = []

/-- A change of one client leaves alone what was sent. -/
theorem map_modify_of_eq {α β : Type} {f : α → β} {g : α → α} {l : List α} {i : Nat}
    (h : ∀ a, l[i]? = some a → f (g a) = f a) : (l.modify i g).map f = l.map f := by
  refine List.ext_getElem? fun j => ?_
  rw [List.getElem?_map, List.getElem?_map, Option.map_eq_bind, Option.map_eq_bind]
  exact bind_getElem?_modify fun a _ ha => congrArg some (h a ha)

/-- A change that keeps the outgoing messages of a client keeps all. -/
theorem outgoing_modify {g : TestClient → TestClient}
    (h : ∀ c, (g c).outgoingMessages = c.outgoingMessages) (i : Nat) :
    outgoing { s with clients := s.clients.modify i g } = s.outgoing := by
  show (s.clients.modify i g).map _ = s.clients.map _
  refine map_modify_of_eq fun c _ => ?_
  rw [h c]

/-- A change of a client keeps the outgoing messages. -/
theorem outgoing_modifyClient (f : Client → Client) (w : Option Nat) :
    (s.modifyClient f w).outgoing = s.outgoing := by
  cases w with
  | none => rfl
  | some i => exact outgoing_modify (by intro c; rfl) i

/-- A client that waits for nothing makes a call. -/
theorem Prepared.call (h : s.Prepared) {w : Option Nat} {callback : Callback} (hfree : s.Free w)
    (hok : ∀ requestId connectionId, s.CallOk ⟨requestId, connectionId, w, callback⟩)
    (request : Nat → Message) :
    ∃ s', s.call w callback request = .ok s' ∧ s'.Prepared ∧ Moved s s' := by
  obtain ⟨c, hc⟩ := Option.ne_none_iff_exists'.mp (hok 0 0).1
  have hc' : (s.client w).bind Client.connectionId = some c := hc
  generalize hnew : (⟨s.nextRequestId, c, w, callback⟩ : PendingCall) = new
  have hnew' : new.client = w := by rw [← hnew]
  refine ⟨{ s with
    nextRequestId := s.nextRequestId + 1
    calls := s.calls ++ [new] }.tcpSend c (request s.nextRequestId),
    ?_, ?_, rfl, rfl, .inl ⟨rfl, rfl⟩, .inl rfl⟩
  · rw [LoadTest.call, hc', ← hnew]
    rfl
  have hperm : (s.connecting ++ (s.calls ++ [new]).map PendingCall.client ++ s.ready.map some).Perm
      (w :: s.stages) := by
    rw [List.map_append, ← List.append_assoc s.connecting, List.append_assoc _ _ (s.ready.map some),
      ← hnew']
    exact List.perm_middle
  refine ⟨?_, ?_, ?_, h.count, h.below, h.distinct, h.connecting, ?_, h.clients, h.ready,
    h.connected, h.begun⟩
  · exact hperm.nodup_iff.mpr (List.nodup_cons.mpr ⟨hfree.idle, h.stages⟩)
  · intro hne hnone
    cases List.mem_cons.mp (hperm.mem_iff.mp hnone) with
    | inl heq => exact hne (hfree.root heq.symm)
    | inr hold => exact h.root hne hold
  · intro i hi
    cases List.mem_cons.mp (hperm.mem_iff.mp hi) with
    | inl heq => exact hfree.scope i heq.symm
    | inr hold => exact h.scope i hold
  · intro call hcall
    have hcall : call ∈ s.calls ++ [new] := hcall
    cases List.mem_append.mp hcall with
    | inl hold => exact h.calls call hold
    | inr hlast =>
      rw [List.mem_singleton.mp hlast, ← hnew]
      exact hok _ _

/-- Steps after a change of the clients only. -/
theorem Moved.trans_of_eq {t : LoadTest} (h : Moved t s') (haborted : t.aborted = s.aborted)
    (hmeasurement : t.measurement = s.measurement) (hbegun : t.begun = s.begun)
    (hstarting : t.starting = s.starting) (houtgoing : t.outgoing = s.outgoing) : Moved s s' where
  aborted := h.aborted.trans haborted
  measurement := h.measurement.trans hmeasurement
  begins := by
    rw [← hbegun, ← hstarting]
    exact h.begins
  clients := by
    cases h.clients with
    | inl hsame => exact .inl (hsame.trans houtgoing)
    | inr hgrown =>
      have hnil : s.outgoing = [] := by
        rw [← houtgoing, outgoing, hgrown.1]
        rfl
      exact .inr ⟨List.map_eq_nil_iff.mp hnil, hgrown.2⟩

/-- Steps after a change of one client. -/
theorem Moved.trans_modifyClient {w : Option Nat} {f : Client → Client}
    (h : Moved (s.modifyClient f w) s') : Moved s s' := by
  refine h.trans_of_eq ?_ ?_ ?_ ?_ (outgoing_modifyClient f w)
  all_goals cases w <;> rfl

/-- A client that waits for nothing and does not listen changes and asks for its user. -/
theorem Prepared.modifyCall (h : s.Prepared) {w : Option Nat} {callback : Callback}
    (hfree : s.Free w) (hunheard : s.subscribedOf w ≠ some true) (f : Client → Client)
    (hconnection : ∀ b, s.client w = some b → (f b).connectionId ≠ none)
    (hnew : ∀ b id, s.client w = some b → (f b).connectionId = some id →
      id < s.nextConnectionId ∧ ∀ w', w' ≠ w → s.connectionOf w' ≠ some id)
    (hcallback : callback = .createUser ∨ callback = .authenticateUser ∨
      callback = .createChannel ∧ w = none) (request : Nat → Message) :
    ∃ s', (s.modifyClient f w).call w callback request = .ok s' ∧ s'.Prepared ∧ Moved s s' := by
  obtain ⟨b, hb⟩ := hfree.exists_client
  have hmodified := h.modifyClient hfree.idle hunheard f hnew
  have hconnected : (s.modifyClient f w).connectionOf w ≠ none := by
    rw [connectionOf, client_modifyClient, if_pos rfl, hb]
    exact hconnection b hb
  have hok : ∀ requestId connectionId,
      (s.modifyClient f w).CallOk ⟨requestId, connectionId, w, callback⟩ := by
    intro requestId connectionId
    refine ⟨hconnected, ?_⟩
    have hsubscribed : (s.modifyClient f w).subscribedOf w ≠ some true := by
      rw [subscribedOf_modifyClient]
      exact hunheard
    rcases hcallback with rfl | rfl | ⟨rfl, rfl⟩
    · exact hsubscribed
    · exact hsubscribed
    · rfl
  obtain ⟨s', hs', hprepared, hmoved⟩ := hmodified.call (hfree.modifyClient f) hok request
  exact ⟨s', hs', hprepared, hmoved.trans_modifyClient⟩

/-- A client is connected: its id is new, and it asks for its user. -/
theorem Prepared.onConnected (h : s.Prepared) {w : Option Nat} (hw : w ∈ s.connecting) :
    ∃ s', LoadTest.onConnected { s with
        connecting := s.connecting.erase w
        nextConnectionId := s.nextConnectionId + 1 } w s.nextConnectionId = .ok s' ∧
      s'.Prepared ∧ Moved s s' := by
  have hshrunk := h.shrink (@List.erase_sublist _ _ w s.connecting) (List.Sublist.refl s.calls)
    (Nat.le_succ s.nextConnectionId)
  have hfree := h.free_of_mem (s.nextConnectionId + 1) (connecting_subset_stages hw)
    (h.not_mem_stages_erase _ hw)
  have hcall : ∃ s', LoadTest.onConnected { s with
        connecting := s.connecting.erase w
        nextConnectionId := s.nextConnectionId + 1 } w s.nextConnectionId = .ok s' ∧
      s'.Prepared ∧ Moved { s with
        connecting := s.connecting.erase w
        nextConnectionId := s.nextConnectionId + 1 } s' := by
    unfold LoadTest.onConnected
    refine hshrunk.modifyCall hfree (h.connecting w hw)
      (fun c => { c with connectionId := some s.nextConnectionId }) ?_ ?_ (.inl rfl) _
    · intro b _
      simp
    · intro b id _ hid
      obtain rfl := Option.some.inj hid
      refine ⟨Nat.lt_succ_self _, fun w' _ hw' => ?_⟩
      exact absurd (h.below w' _ hw') (Nat.lt_irrefl _)
  obtain ⟨s', hs', hprepared, hmoved⟩ := hcall
  exact ⟨s', hs', hprepared, hmoved.aborted, hmoved.measurement, hmoved.begins, hmoved.clients⟩

/-- A test client with a connection and a user listens and joins the channel. -/
theorem Prepared.listen (h : s.Prepared) {i : Nat} (hfree : s.Free (some i))
    (hunheard : s.subscribedOf (some i) ≠ some true) {b : Client} (hb : s.client (some i) = some b)
    (hconnected : b.connectionId ≠ none) (huser : b.user ≠ none) :
    ∃ s', s.onPrepared (some i) = .ok s' ∧ s'.Prepared ∧ Moved s s' := by
  obtain ⟨c, hc, rfl⟩ := Option.map_eq_some_iff.mp hb
  have hlistening : Prepared { s with
      clients := s.clients.modify i fun c => { c with subscribed := true } } := by
    refine h.modify i _ ?_ (fun _ _ => .inl rfl) fun _ _ => .inr hfree.idle
    intro c' hc'
    obtain rfl := Option.some.inj (hc.symm.trans hc')
    have hfalse : c.subscribed = false := by simpa [subscribedOf, hc] using hunheard
    obtain ⟨hheard, hincoming⟩ := (h.clients i c hc).unheard hfalse
    exact .of_unheard (fun _ => ⟨hconnected, huser⟩) hheard hincoming
  have hfree' : Free { s with
      clients := s.clients.modify i fun c => { c with subscribed := true } } (some i) := by
    refine ⟨hfree.idle, fun hnone => absurd hnone (by simp), fun j hj => ?_⟩
    show j < (s.clients.modify i _).length
    rw [List.length_modify]
    exact hfree.scope j hj
  have hcall : ∃ s', s.onPrepared (some i) = .ok s' ∧ s'.Prepared ∧ Moved { s with
      clients := s.clients.modify i fun c => { c with subscribed := true } } s' := by
    unfold onPrepared
    refine hlistening.call hfree' (fun requestId connectionId => ⟨?_, ?_⟩) _
    · simpa [connectionOf, client, hc] using hconnected
    · simp [subscribedOf, hc]
  obtain ⟨s', hs', hprepared, hmoved⟩ := hcall
  refine ⟨s', hs', hprepared, hmoved.trans_of_eq rfl rfl rfl rfl ?_⟩
  exact outgoing_modify (by intro c; rfl) i

/-- A client gets its user and goes on: the root client makes the channel, and a test client
listens and joins it. -/
theorem Prepared.authenticated (h : s.Prepared) {w : Option Nat} (hfree : s.Free w)
    (hconnected : s.connectionOf w ≠ none) (hunheard : s.subscribedOf w ≠ some true) (user : User) :
    ∃ s', (s.modifyClient (fun c => { c with user := some user }) w).onPrepared w = .ok s' ∧
      s'.Prepared ∧ Moved s s' := by
  obtain ⟨b, hb⟩ := hfree.exists_client
  have hb' : b.connectionId ≠ none := by simpa [connectionOf, hb] using hconnected
  have hkept : ∀ b' id, s.client w = some b' → b'.connectionId = some id →
      id < s.nextConnectionId ∧ ∀ w', w' ≠ w → s.connectionOf w' ≠ some id := by
    intro b' id hclient hid
    have hw : s.connectionOf w = some id := by simp [connectionOf, hclient, hid]
    exact ⟨h.below w id hw, fun w' hne hw' => hne (h.distinct w' w id hw' hw)⟩
  cases w with
  | none =>
    unfold onPrepared
    dsimp only
    refine h.modifyCall hfree hunheard (fun c => { c with user := some user }) ?_ hkept
      (.inr (.inr ⟨rfl, rfl⟩)) _
    intro b' hclient
    obtain rfl := Option.some.inj (hb.symm.trans hclient)
    exact hb'
  | some i =>
    have hmodified :=
      h.modifyClient hfree.idle hunheard (fun c => { c with user := some user }) hkept
    have hfree' := hfree.modifyClient fun c => { c with user := some user }
    have hclient : (s.modifyClient (fun c => { c with user := some user }) (some i)).client (some i)
        = some { b with user := some user } := by
      rw [client_modifyClient, if_pos rfl, hb]
      rfl
    have hunheard' := hunheard
    rw [← subscribedOf_modifyClient (fun c => { c with user := some user }) (some i)] at hunheard'
    have hcall : ∃ s', (s.modifyClient (fun c => { c with user := some user }) (some i)).onPrepared
        (some i) = .ok s' ∧ s'.Prepared ∧
        Moved (s.modifyClient (fun c => { c with user := some user }) (some i)) s' :=
      hmodified.listen hfree' hunheard' hclient hb' (by simp)
    obtain ⟨s', hs', hprepared, hmoved⟩ := hcall
    exact ⟨s', hs', hprepared, hmoved.trans_modifyClient⟩

/-- Without test clients, only the root client can be in a list of stages. -/
theorem Prepared.eq_none_of_nil (h : s.Prepared) (hnil : s.clients = []) {w : Option Nat}
    (hw : w ∈ s.stages) : w = none := by
  cases w with
  | none => rfl
  | some i =>
    have hi := h.scope i hw
    rw [hnil] at hi
    exact absurd hi (Nat.not_lt_zero i)

/-- While the root client is the only client and waits for nothing, nobody does. -/
theorem Prepared.empty_of_free_root (h : s.Prepared) (hfree : s.Free none) :
    s.connecting = [] ∧ s.calls = [] ∧ s.ready = [] ∧ s.connectedClients = [] ∧ s.begun = 0 := by
  have hnil := hfree.root rfl
  have hstages : s.stages = [] := by
    refine List.eq_nil_iff_forall_not_mem.mpr fun w hw => ?_
    exact hfree.idle (h.eq_none_of_nil hnil hw ▸ hw)
  obtain ⟨hleft, hready⟩ := List.append_eq_nil_iff.mp hstages
  obtain ⟨hconnecting, hcalls⟩ := List.append_eq_nil_iff.mp hleft
  have hready : s.ready = [] := List.map_eq_nil_iff.mp hready
  refine ⟨hconnecting, List.map_eq_nil_iff.mp hcalls, hready, ?_, ?_⟩
  · have hmap := h.connected
    rw [hready] at hmap
    exact List.map_eq_nil_iff.mp hmap
  · rw [h.begun, hnil]
    rfl

/-- The root client makes the test clients, which connect. -/
theorem Prepared.handleRootClientReady (h : s.Prepared) {w : Option Nat} (hfree : s.Free w)
    (hw : w = none) (channelId : Nat) :
    Prepared { s with testChannelId := channelId }.handleRootClientReady ∧
      Moved s { s with testChannelId := channelId }.handleRootClientReady := by
  subst hw
  have hnil := hfree.root rfl
  obtain ⟨hconnecting, hcalls, hready, hconnected, hbegun⟩ := h.empty_of_free_root hfree
  generalize hmade : ((List.range s.arguments.clientCount).map fun i =>
    ({ name := "tester" ++ toString i, channelId := channelId } : TestClient)) = made
  have hlength : made.length = s.arguments.clientCount := by
    rw [← hmade, List.length_map, List.length_range]
  have hfresh : ∀ c ∈ made, c.connectionId = none ∧ c.subscribed = false ∧ c.heard = [] ∧
      c.incomingMessages = [] ∧ c.outgoingMessages = [] := by
    rw [← hmade]
    intro c hc
    obtain ⟨i, -, rfl⟩ := List.mem_map.mp hc
    exact ⟨rfl, rfl, rfl, rfl, rfl⟩
  have heq : { s with testChannelId := channelId }.handleRootClientReady = { s with
      testChannelId := channelId
      clients := made
      connecting := (List.range made.length).map some } := by
    unfold LoadTest.handleRootClientReady
    simp only [hnil, hconnecting, List.nil_append, hmade]
  rw [heq]
  -- The new clients have no connection.
  have hconnectionOf : ∀ i, connectionOf { s with
      testChannelId := channelId
      clients := made
      connecting := (List.range made.length).map some } (some i) = none := by
    intro i
    cases hc : made[i]? with
    | none => simp [connectionOf, client, hc]
    | some c =>
      have hnone := (hfresh c (List.mem_of_getElem? hc)).1
      simp [connectionOf, client, hc, hnone]
  have hstages' : LoadTest.stages { s with
      testChannelId := channelId
      clients := made
      connecting := (List.range made.length).map some } = (List.range made.length).map some := by
    simp [LoadTest.stages, hcalls, hready]
  refine ⟨⟨?_, ?_, ?_, fun _ => hlength, ?_, ?_, ?_, ?_, ?_, ?_, ?_, ?_⟩, rfl, rfl, .inl ⟨rfl, rfl⟩,
    .inr ⟨hnil, ?_⟩⟩
  · rw [hstages']
    exact List.nodup_range.map (Option.some_injective _)
  · intro _ hnone
    rw [hstages'] at hnone
    obtain ⟨i, -, heq⟩ := List.mem_map.mp hnone
    cases heq
  · intro i hi
    rw [hstages'] at hi
    obtain ⟨j, hj, heq⟩ := List.mem_map.mp hi
    obtain rfl := Option.some.inj heq
    exact List.mem_range.mp hj
  · intro w c hc
    cases w with
    | none => exact h.below none c hc
    | some i => cases (hconnectionOf i).symm.trans hc
  · intro w w' c hc hc'
    cases w with
    | some i => cases (hconnectionOf i).symm.trans hc
    | none =>
      cases w' with
      | some i => cases (hconnectionOf i).symm.trans hc'
      | none => rfl
  · intro w hw
    obtain ⟨i, hi, rfl⟩ := List.mem_map.mp hw
    have hi := List.mem_range.mp hi
    have hfalse := (hfresh made[i] (List.getElem_mem hi)).2.1
    simp [subscribedOf, hi, hfalse]
  · intro call hcall
    have hcall : call ∈ s.calls := hcall
    rw [hcalls] at hcall
    cases hcall
  · intro i c hc
    obtain ⟨-, hfalse, hheard, hincoming, -⟩ := hfresh c (List.mem_of_getElem? hc)
    exact .of_unheard (fun htrue => absurd (hfalse.symm.trans htrue) (by decide)) hheard hincoming
  · intro i hi
    have hi : i ∈ s.ready := hi
    rw [hready] at hi
    cases hi
  · show s.connectedClients.map some = s.ready.map _
    rw [hconnected, hready]
    rfl
  · show s.begun = if made ≠ [] ∧ s.ready.length = made.length then 1 else 0
    rw [hbegun, if_neg]
    rintro ⟨hne, hfull⟩
    rw [hready] at hfull
    exact hne (List.length_eq_zero_iff.mp hfull.symm)
  · intro messages hmessages
    obtain ⟨c, hc, rfl⟩ := List.mem_map.mp hmessages
    rw [(hfresh c hc).2.2.2.2]
    rfl

/-- As long as a test client waits for nothing, not all of them are ready. -/
theorem Prepared.length_ready_lt (h : s.Prepared) {i : Nat} (hfree : s.Free (some i)) :
    s.ready.length < s.clients.length := by
  have hnot : i ∉ s.ready := fun hi => hfree.idle (ready_subset_stages hi)
  have hnodup : (i :: s.ready).Nodup := List.nodup_cons.mpr ⟨hnot, h.nodup_ready⟩
  have hsubset : i :: s.ready ⊆ List.range s.clients.length :=
    List.cons_subset.mpr ⟨List.mem_range.mpr (hfree.scope i rfl), h.ready_subset⟩
  have hle := (List.subperm_of_subset hnodup hsubset).length_le
  rwa [List.length_cons, List.length_range] at hle

/-- A test client is ready. With the last one the test begins. -/
theorem Prepared.setClientReady (h : s.Prepared) {i connectionId : Nat} (hfree : s.Free (some i))
    (hconnection : s.connectionOf (some i) = some connectionId)
    (hsubscribed : s.subscribedOf (some i) = some true) :
    (s.setClientReady i connectionId).Prepared ∧ Moved s (s.setClientReady i connectionId) := by
  have hlength : s.connectedClients.length = s.ready.length := by
    have hmap := congrArg List.length h.connected
    rwa [List.length_map, List.length_map] at hmap
  have hnew : connectionId ∉ s.connectedClients := by
    intro hmem
    have hmem : some connectionId ∈ s.connectedClients.map some := List.mem_map_of_mem hmem
    rw [h.connected] at hmem
    obtain ⟨j, hj, heq⟩ := List.mem_map.mp hmem
    have hsame := h.distinct _ _ _ heq hconnection
    exact hfree.idle (hsame ▸ ready_subset_stages hj)
  have hi : i < s.clients.length := hfree.scope i rfl
  have hne : s.clients ≠ [] := List.ne_nil_of_length_pos (Nat.lt_of_le_of_lt (Nat.zero_le i) hi)
  have hperm : (s.connecting ++ s.calls.map PendingCall.client ++ (s.ready ++ [i]).map some).Perm
      (some i :: s.stages) := by
    rw [List.map_append, ← List.append_assoc]
    exact List.perm_append_singleton _ _
  have hnodup := hperm.nodup_iff.mpr (List.nodup_cons.mpr ⟨hfree.idle, h.stages⟩)
  have hscope : ∀ j, some j ∈ s.connecting ++ s.calls.map PendingCall.client
      ++ (s.ready ++ [i]).map some → j < s.clients.length := by
    intro j hj
    cases List.mem_cons.mp (hperm.mem_iff.mp hj) with
    | inl heq =>
      obtain rfl := Option.some.inj heq
      exact hi
    | inr hold => exact h.scope j hold
  -- One client was still missing, so the test has not begun.
  have hbegun : s.begun = 0 := by
    rw [h.begun, if_neg]
    rintro ⟨-, hfull⟩
    exact (h.length_ready_lt hfree).ne hfull
  have hprepared : ∀ (starting : Option Nat) (begun : Nat),
      begun = (if s.clients ≠ [] ∧ (s.ready ++ [i]).length = s.clients.length then 1 else 0) →
      Prepared { s with
        connectedClients := s.connectedClients ++ [connectionId]
        ready := s.ready ++ [i]
        starting
        begun } := by
    intro starting begun hcount
    refine ⟨hnodup, ?_, hscope, h.count, h.below, h.distinct, h.connecting, h.calls, h.clients,
      ?_, ?_, hcount⟩
    · intro hclients hnone
      cases List.mem_cons.mp (hperm.mem_iff.mp hnone) with
      | inl heq => cases heq
      | inr hold => exact h.root hclients hold
    · intro j hj
      cases List.mem_append.mp hj with
      | inl hold => exact h.ready j hold
      | inr hlast =>
        obtain rfl := List.mem_singleton.mp hlast
        exact hsubscribed
    · show (s.connectedClients ++ [connectionId]).map some
        = (s.ready ++ [i]).map fun j => s.connectionOf (some j)
      rw [List.map_append, List.map_append, h.connected]
      simp [hconnection]
  unfold LoadTest.setClientReady
  simp only [if_neg hnew, List.length_append, List.length_singleton, hlength]
  by_cases hlast : s.ready.length + 1 = s.clients.length
  · rw [if_neg (by simpa using hlast)]
    -- The last client: the set has as many ids as there are test clients.
    refine ⟨hprepared (some 0) (s.begun + 1) ?_, rfl, rfl, .inr ⟨hbegun, ?_, rfl⟩, .inl rfl⟩
    · rw [if_pos ⟨hne, by rw [List.length_append]; exact hlast⟩, hbegun]
    · show s.begun + 1 = 1
      rw [hbegun]
  · rw [if_pos hlast]
    refine ⟨hprepared s.starting s.begun ?_, rfl, rfl, .inl ⟨rfl, rfl⟩, .inl rfl⟩
    rw [if_neg, hbegun]
    rintro ⟨-, hfull⟩
    rw [List.length_append] at hfull
    exact hlast hfull

/-- The callbacks of a call. Its client waits for nothing when they are called. -/
theorem Prepared.runCallback (h : s.Prepared) {w : Option Nat} {callback : Callback}
    (hfree : s.Free w)
    (hok : ∀ requestId connectionId, s.CallOk ⟨requestId, connectionId, w, callback⟩)
    (message : Message) :
    ∃ s', s.runCallback w callback message = .ok s' ∧ s'.Prepared ∧ Moved s s' := by
  obtain ⟨hconnected, hcallback⟩ := hok 0 0
  have hensured : (callback = .createUser ∨ callback = .authenticateUser) →
      ∃ s', s.onUserEnsured w = .ok s' ∧ s'.Prepared ∧ Moved s s' := by
    intro hunheard
    unfold onUserEnsured
    refine h.call hfree (fun requestId connectionId => ⟨hconnected, ?_⟩) _
    cases hunheard with
    | inl heq =>
      subst heq
      exact hcallback
    | inr heq =>
      subst heq
      exact hcallback
  unfold LoadTest.runCallback
  split
  · exact hensured (.inl rfl)
  · exact hensured (.inl rfl)
  · -- The client has its user. A test client listens from now on.
    rename_i m
    exact h.authenticated hfree hconnected hcallback m.user
  · -- The root client makes the test clients.
    rename_i m
    exact ⟨_, rfl, h.handleRootClientReady hfree hcallback m.channel.id⟩
  · -- A test client has joined.
    cases w with
    | none => cases hcallback
    | some i =>
      obtain ⟨c, hc⟩ := Option.ne_none_iff_exists'.mp hconnected
      have hc' : (s.client (some i)).bind Client.connectionId = some c := hc
      rw [hc']
      exact ⟨_, rfl, h.setClientReady hfree hc hcallback⟩
  · exact ⟨_, rfl, h.congr rfl, rfl, rfl, .inl ⟨rfl, rfl⟩, .inl rfl⟩
  · exact ⟨s, rfl, h, rfl, rfl, .inl ⟨rfl, rfl⟩, .inl rfl⟩

end LoadTest

end ChatCore.Tester
