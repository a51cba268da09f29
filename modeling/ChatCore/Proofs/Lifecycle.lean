import Mathlib.Data.List.Infix
import ChatCore.Proofs.Handlers
import ChatCore.Proofs.Prewarm
import ChatCore.Server.Lifecycle

/-!
# `ChatCore.Proofs.Lifecycle`: the steps of the server process

What every run of the process keeps, and what one step can do to the messages.

`ControlInv` follows the main thread through its program. What is left of the program is a
suffix of `mainProgram`, with the rounds of the loop of `Prewarm` in front. Facts about the
order of the program are decided on its finitely many suffixes (`program_order`).

`MessageMove` lists what a step can do to the message store, to the table of messages and to
the batches in flight. The proofs about start-up and shutdown split on it.
-/

set_option autoImplicit false

namespace ChatCore.Server

open ChatCore.Api
open ChatCore.Lib

namespace Process

/-! ### What a step can do -/

/-- Everything that an operation of the main thread can do. -/
inductive MainStepped (s : Process) (rest : List MainOp) : MainOp → Process → Prop
  | startScheduler :
      MainStepped s rest .startScheduler { s with remaining := rest, schedulerThread := true }
  | startApplicationThread :
      MainStepped s rest .startApplicationThread
        { s with remaining := rest, applicationThread := true }
  | startAccept : MainStepped s rest .startAccept { s with remaining := rest, accepting := true }
  | register {type : MessageType} :
      MainStepped s rest (.register type)
        { s with remaining := rest, registered := type :: s.registered }
  | prewarmUsers :
      MainStepped s rest .prewarmUsers
        { s with
          remaining := rest
          server := { s.server with users := s.server.users.prewarm s.server.db } }
  | prewarmChannels :
      MainStepped s rest .prewarmChannels
        { s with
          remaining := rest
          server := { s.server with channels := s.server.channels.prewarm s.server.db } }
  | prewarmMessageIds :
      MainStepped s rest .prewarmMessageIds
        { s with
          remaining := rest
          server := { s.server with messages := s.server.messages.prewarmIds s.server.db } }
  | prewarmMessageLogs :
      MainStepped s rest .prewarmMessageLogs
        { s with remaining := s.server.db.getChatChannels.map .prewarmMessageLog ++ rest }
  | prewarmMessageLog {channel : ChatChannel} :
      MainStepped s rest (.prewarmMessageLog channel)
        { s with
          remaining := rest
          server := { s.server with
            messages := MessageStore.prewarmChannel s.server.db s.server.messages channel } }
  | schedulePersist :
      MainStepped s rest .schedulePersist { s with remaining := rest, persistTask := true }
  | waitQuit (hquit : s.server.running = false) :
      MainStepped s rest .waitQuit { s with remaining := rest }
  | removeTask : MainStepped s rest .removeTask { s with remaining := rest, persistTask := false }
  | persist {db : Database} {messages : MessageStore} {p : PersistStep}
      (hstep : persistStep s.server.db s.server.messages s.mainPersist = some (db, messages, p)) :
      MainStepped s rest .persist
        { s with
          server := { s.server with db := db, messages := messages }
          mainPersist := p
          remaining := if p = .idle then rest else .persist :: rest }
  | stopProcessor : MainStepped s rest .stopProcessor { s with remaining := rest, stopped := true }
  | joinApplicationThread (hbuffer : s.buffer = []) :
      MainStepped s rest .joinApplicationThread
        { s with remaining := rest, applicationThread := false }
  | joinScheduler (hcallback : s.callback = none) :
      MainStepped s rest .joinScheduler { s with remaining := rest, schedulerThread := false }

/-- Everything that a step can do. -/
inductive Stepped (s : Process) : ProcessOp → Process → Prop
  | main {op : MainOp} {rest : List MainOp} {s' : Process} (hremaining : s.remaining = op :: rest)
      (hs : MainStepped s rest op s') : Stepped s .main s'
  | accepted (haccepting : s.accepting = true) :
      Stepped s .accept { s with server := s.server.createConnection }
  | dropped {c : Nat} {m : Message} (hstopped : s.stopped = true) : Stepped s (.receive c m) s
  | received {c : Nat} {m : Message} (hconnected : c ∈ s.server.connections) :
      Stepped s (.receive c m) { s with tasks := s.tasks ++ [(c, m)] }
  | removed {c : Nat} (hconnected : c ∈ s.server.connections) :
      Stepped s (.removeConnection c)
        { s with
          server := s.server.removeConnection c
          disconnecting := s.disconnecting ++ [c] }
  | disconnected {c : Nat} (hc : c ∈ s.disconnecting) :
      Stepped s (.onDisconnected c)
        { s with
          server := (s.server.removeSession c).1
          disconnecting := s.disconnecting.filter (· ≠ c)
          disconnected := s.disconnected ++ [c] }
  | taken : Stepped s .takeTasks { s with tasks := [], buffer := s.tasks }
  | handled {c : Nat} {m : Message} {rest : List (Nat × Message)}
      (hbuffer : s.buffer = (c, m) :: rest) (hregistered : m.type ∈ s.registered) :
      Stepped s .handleTask
        { s with
          server := (s.server.handle c m).1
          buffer := rest
          created := s.created ++ (s.server.handle c m).2.flatMap Call.created }
  | ignored {c : Nat} {m : Message} {rest : List (Nat × Message)}
      (hbuffer : s.buffer = (c, m) :: rest) : Stepped s .handleTask { s with buffer := rest }
  | collected (hthread : s.schedulerThread = true) (htask : s.persistTask = true)
      (hcallback : s.callback = none) : Stepped s .collect { s with callback := some .idle }
  | ran {p p' : PersistStep} {db : Database} {messages : MessageStore}
      (hcallback : s.callback = some p)
      (hstep : persistStep s.server.db s.server.messages p = some (db, messages, p')) :
      Stepped s .runCallback
        { s with
          server := { s.server with db := db, messages := messages }
          callback := if p' = .idle then none else some p' }

variable {s s' : Process} {l : ProcessOp}

/-- `MainStepped` lists every operation. -/
theorem mainStepped_of_mainStep {op : MainOp} {rest : List MainOp}
    (hs : s.mainStep rest op = some s') : MainStepped s rest op s' := by
  cases op with
  | persist =>
    obtain ⟨⟨db, messages, p⟩, hstep, rfl⟩ := Option.map_eq_some_iff.mp hs
    exact .persist hstep
  | waitQuit =>
    simp only [mainStep] at hs
    split at hs
    · cases hs
    · rename_i hquit
      cases hs
      exact .waitQuit (Bool.eq_false_iff.mpr hquit)
  | joinApplicationThread =>
    simp only [mainStep] at hs
    split at hs
    · rename_i hready
      cases hs
      exact .joinApplicationThread (List.isEmpty_iff.mp hready.2)
    · cases hs
  | joinScheduler =>
    simp only [mainStep] at hs
    split at hs
    · rename_i hcallback
      cases hs
      exact .joinScheduler (Option.isNone_iff_eq_none.mp hcallback)
    · cases hs
  | _ =>
    cases hs
    constructor

/-- `Stepped` lists every step. -/
theorem stepped_of_step (hs : s.step l = some s') : Stepped s l s' := by
  cases l with
  | main =>
    simp only [step] at hs
    split at hs
    · cases hs
    · rename_i op rest hremaining
      exact .main hremaining (mainStepped_of_mainStep hs)
  | accept =>
    simp only [step] at hs
    split at hs
    · rename_i haccepting
      cases hs
      exact .accepted haccepting
    · cases hs
  | receive c m =>
    simp only [step] at hs
    split at hs
    · rename_i hconnected
      split at hs
      · rename_i hstopped
        cases hs
        exact .dropped hstopped
      · cases hs
        exact .received hconnected
    · cases hs
  | removeConnection c =>
    simp only [step] at hs
    split at hs
    · rename_i hconnected
      cases hs
      exact .removed hconnected
    · cases hs
  | onDisconnected c =>
    simp only [step] at hs
    split at hs
    · rename_i hc
      cases hs
      exact .disconnected hc
    · cases hs
  | takeTasks =>
    simp only [step] at hs
    split at hs
    · cases hs
      exact .taken
    · cases hs
  | handleTask =>
    simp only [step] at hs
    split at hs
    · cases hs
    · -- Without a handler for its type the message is dropped.
      rename_i c m rest hbuffer
      split at hs
      · rename_i hregistered
        cases hs
        exact .handled hbuffer hregistered
      · cases hs
        exact .ignored hbuffer
  | collect =>
    simp only [step] at hs
    split at hs
    · rename_i henabled
      cases hs
      obtain ⟨hthread, htask, hcallback⟩ := henabled
      exact .collected hthread htask (Option.isNone_iff_eq_none.mp hcallback)
    · cases hs
  | runCallback =>
    simp only [step] at hs
    split at hs
    · cases hs
    · rename_i p hcallback
      obtain ⟨⟨db, messages, p'⟩, hstep, rfl⟩ := Option.map_eq_some_iff.mp hs
      exact .ran hcallback hstep

/-! ### The stores -/

/-- Every operation of the main thread keeps the stores consistent. -/
theorem consistent_mainStep {op : MainOp} {rest : List MainOp} (h : s.server.Consistent)
    (hs : MainStepped s rest op s') : s'.server.Consistent := by
  cases hs with
  | prewarmUsers =>
    obtain ⟨hcached, hsessions⟩ := UserStore.prewarm_spec h.users
    refine ⟨hcached, h.channels, ?_, h.assigned⟩
    show ∀ c u, (c, u) ∈ (s.server.users.prewarm s.server.db).userSessions → _
    rw [hsessions]
    exact h.sessions
  | prewarmChannels =>
    obtain ⟨hcached, hmap⟩ := ChannelStore.prewarm_spec h.channels
    refine ⟨h.users, hcached, h.sessions, ?_⟩
    show ∀ c ch, (c, ch) ∈ (s.server.channels.prewarm s.server.db).connectionChannelMap → _
    rw [hmap]
    exact h.assigned
  | prewarmMessageIds | prewarmMessageLog =>
    exact ⟨h.users, h.channels, h.sessions, h.assigned⟩
  | persist hstep => exact h.persistStep hstep
  | _ => exact h

/-- Every step keeps the stores consistent. -/
theorem consistent_step (h : s.server.Consistent) (hs : s.step l = some s') :
    s'.server.Consistent := by
  cases stepped_of_step hs with
  | main _ hmain => exact consistent_mainStep h hmain
  | accepted _ => exact ⟨h.users, h.channels, h.sessions, h.assigned⟩
  | dropped _ => exact h
  | received _ => exact h
  | removed _ => exact ⟨h.users, h.channels, h.sessions, h.assigned⟩
  | disconnected _ => exact h.removeSession _
  | taken => exact h
  | handled _ _ => exact h.handled (ServerState.handled_handle h _ _)
  | ignored _ => exact h
  | collected _ _ _ => exact h
  | ran _ hstep => exact h.persistStep hstep

/-- A process starts with consistent stores. -/
theorem consistent_begin (db : Database) : (begin db).server.Consistent :=
  ⟨UserStore.cachedFrom_empty db, ChannelStore.cachedFrom_empty db,
    fun _ _ h => absurd h (Bimap.not_mem_empty _),
    fun _ _ h => absurd h (MultiBimap.not_mem_empty _)⟩

/-! ### The program of the main thread -/

/-- A round of the loop of `ChatMessageStore::Prewarm`. -/
def isLog : MainOp → Bool
  | .prewarmMessageLog _ => true
  | _ => false

/-- An operation that the program has only after the ids are loaded. -/
def afterLoad : MainOp → Bool
  | .prewarmMessageLogs | .schedulePersist | .persist => true
  | _ => false

/-- Facts about the order of the program, for every part of it that may be left. -/
theorem program_order {ops : List MainOp} (h : ops <:+ mainProgram) :
    (∀ op ∈ ops.head?, afterLoad op = true → .prewarmMessageIds ∉ ops) ∧
    (ops.head? = some .prewarmMessageIds → .prewarmMessageIds ∉ ops.tail) ∧
    (ops.head? = some .startScheduler → .joinScheduler ∈ ops) := by
  have hall : ∀ ops ∈ mainProgram.tails,
      (∀ op ∈ ops.head?, afterLoad op = true → .prewarmMessageIds ∉ ops) ∧
      (ops.head? = some .prewarmMessageIds → .prewarmMessageIds ∉ ops.tail) ∧
      (ops.head? = some .startScheduler → .joinScheduler ∈ ops) := by decide
  exact hall ops ((List.mem_tails ops mainProgram).mpr h)

/-- Where the main thread stands, and what this says about the other threads. -/
structure ControlInv (s : Process) : Prop where
  suffix : s.remaining.filter (fun op => !isLog op) <:+ mainProgram
  /-- The loop of `Prewarm` runs after the ids are loaded. -/
  logs : ∀ channel, .prewarmMessageLog channel ∈ s.remaining → s.IdsLoaded
  /-- Nothing is persisted before the ids are loaded. -/
  early : ¬ s.IdsLoaded → s.persistTask = false ∧ s.callback = none ∧ s.mainPersist = .idle
  /-- Inside its `Persist` the main thread has this operation in front. -/
  inside : s.mainPersist ≠ .idle → s.remaining.head? = some .persist
  /-- After the join no callback runs any more. -/
  joined : .joinScheduler ∉ s.remaining → s.callback = none ∧ s.schedulerThread = false

/-- The filtered program of a state whose next operation is no round of the loop. -/
theorem filter_remaining {op : MainOp} {rest : List MainOp} (hremaining : s.remaining = op :: rest)
    (hop : isLog op = false) :
    s.remaining.filter (fun op => !isLog op) = op :: rest.filter (fun op => !isLog op) := by
  rw [hremaining, List.filter_cons_of_pos (by simp [hop])]

/-- At such an operation the ids are loaded, and nothing of the rest loads them again. -/
theorem ControlInv.idsLoaded {op : MainOp} {rest : List MainOp} (h : ControlInv s)
    (hremaining : s.remaining = op :: rest) (hop : afterLoad op = true) :
    s.IdsLoaded ∧ .prewarmMessageIds ∉ rest := by
  have hlog : isLog op = false := by
    cases op <;> first | rfl | cases hop
  have horder := (program_order h.suffix).1
  rw [filter_remaining hremaining hlog] at horder
  have hloaded : s.IdsLoaded := fun hmem => by
    refine horder op rfl hop ?_
    rw [← filter_remaining hremaining hlog]
    exact List.mem_filter.mpr ⟨hmem, rfl⟩
  refine ⟨hloaded, fun hmem => hloaded ?_⟩
  rw [hremaining]
  exact List.mem_cons_of_mem _ hmem

/-- An operation that is done and leaves the rest of the program. It may start the scheduler
or its task only where the program has them. -/
theorem controlInv_done {op : MainOp} {rest : List MainOp} (h : ControlInv s)
    (hremaining : s.remaining = op :: rest) (hrest : s'.remaining = rest)
    (htask : op ≠ .schedulePersist → s'.persistTask = s.persistTask ∨ s'.persistTask = false)
    (hmain : s'.mainPersist = .idle) (hcallback : s'.callback = s.callback)
    (hthread : op ≠ .startScheduler →
      s'.schedulerThread = s.schedulerThread ∨ s'.schedulerThread = false)
    (hjoin : op = .joinScheduler → s.callback = none ∧ s'.schedulerThread = false) :
    ControlInv s' := by
  have hmem : ∀ x, x ∈ rest → x ∈ s.remaining := fun x hx => by
    rw [hremaining]
    exact List.mem_cons_of_mem _ hx
  have hids : ¬ s'.IdsLoaded → ¬ s.IdsLoaded := fun h' hl => h' fun hmem' =>
    hl (hmem _ (hrest ▸ hmem'))
  refine ⟨?_, ?_, ?_, ?_, ?_⟩
  · -- A round of the loop is not in the filtered program. Any other operation is its head.
    rw [hrest]
    cases hop : isLog op with
    | true =>
      have hsuffix := h.suffix
      rw [hremaining, List.filter_cons_of_neg (by simp [hop])] at hsuffix
      exact hsuffix
    | false =>
      have hsuffix := h.suffix
      rw [filter_remaining hremaining hop] at hsuffix
      exact (List.suffix_cons _ _).trans hsuffix
  · intro channel hlog
    have hloaded := h.logs channel (hmem _ (hrest ▸ hlog))
    exact fun hmem' => hloaded (hmem _ (hrest ▸ hmem'))
  · intro hnot
    obtain ⟨htask0, hcallback0, -⟩ := h.early (hids hnot)
    refine ⟨?_, hcallback.trans hcallback0, hmain⟩
    by_cases hop : op = .schedulePersist
    · -- The task is scheduled after the ids are loaded.
      exact absurd (h.idsLoaded hremaining (by rw [hop]; rfl)).1 (hids hnot)
    · rcases htask hop with heq | heq
      · exact heq.trans htask0
      · exact heq
  · intro hne
    exact absurd hmain hne
  · intro hjoined
    rw [hrest] at hjoined
    by_cases hop : op = .joinScheduler
    · -- The join itself: it waited for the callback.
      obtain ⟨hnone, hstopped⟩ := hjoin hop
      exact ⟨hcallback.trans hnone, hstopped⟩
    · have hnot : .joinScheduler ∉ s.remaining := by
        rw [hremaining, List.mem_cons]
        rintro (heq | hmem')
        · exact hop heq.symm
        · exact hjoined hmem'
      obtain ⟨hnone, hstopped⟩ := h.joined hnot
      refine ⟨hcallback.trans hnone, ?_⟩
      by_cases hstart : op = .startScheduler
      · -- The scheduler starts before it is joined.
        exfalso
        have horder := (program_order h.suffix).2.2
        rw [filter_remaining hremaining (by rw [hstart]; rfl), hstart] at horder
        exact hnot (List.mem_of_mem_filter
          (filter_remaining hremaining (by rw [hstart]; rfl) ▸ hstart ▸ horder rfl))
      · rcases hthread hstart with heq | heq
        · exact heq.trans hstopped
        · exact heq

/-- The main thread is outside of `Persist` at any other operation. -/
theorem ControlInv.idle_of_ne {op : MainOp} {rest : List MainOp} (h : ControlInv s)
    (hremaining : s.remaining = op :: rest) (hop : op ≠ .persist) : s.mainPersist = .idle := by
  by_contra hne
  have hhead := h.inside hne
  rw [hremaining] at hhead
  exact hop (Option.some.inj hhead)

/-- A `Persist` of the main thread keeps the invariant. -/
theorem controlInv_persist {rest : List MainOp} (h : ControlInv s)
    (hremaining : s.remaining = .persist :: rest) (hs : MainStepped s rest .persist s') :
    ControlInv s' := by
  cases hs with
  | @persist db messages p hstep =>
    by_cases hp : p = .idle
    · exact controlInv_done h hremaining (if_pos hp) (fun _ => .inl rfl) hp rfl (fun _ => .inl rfl)
        (by simp)
    · -- `Persist` goes on, and the program stays where it is.
      have hsame : (if p = .idle then rest else .persist :: rest) = s.remaining := by
        rw [if_neg hp, hremaining]
      have hloaded := (h.idsLoaded hremaining rfl).1
      refine ⟨?_, ?_, ?_, ?_, ?_⟩
      · simp only [hsame]
        exact h.suffix
      · simp only [IdsLoaded, hsame]
        exact h.logs
      · simp only [IdsLoaded, hsame]
        exact fun hnot => absurd hloaded hnot
      · simp only [if_neg hp]
        exact fun _ => rfl
      · simp only [hsame]
        exact h.joined

/-- `Prewarm` of the message logs keeps the invariant. -/
theorem controlInv_prewarmMessageLogs {rest : List MainOp} (h : ControlInv s)
    (hremaining : s.remaining = .prewarmMessageLogs :: rest)
    (hs : MainStepped s rest .prewarmMessageLogs s') : ControlInv s' := by
  cases hs
  have hfilter := filter_remaining hremaining rfl
  obtain ⟨hloaded, hrest⟩ := h.idsLoaded hremaining rfl
  have hloaded' :
      .prewarmMessageIds ∉ s.server.db.getChatChannels.map MainOp.prewarmMessageLog ++ rest := by
    simp [hrest]
  refine ⟨?_, fun _ _ => hloaded', fun hnot => absurd hloaded' hnot, ?_, ?_⟩
  · have hlogs : (s.server.db.getChatChannels.map MainOp.prewarmMessageLog).filter
        (fun op => !isLog op) = [] := by
      simp [List.filter_eq_nil_iff, isLog]
    have hsuffix := h.suffix
    rw [hfilter] at hsuffix
    simp only [List.filter_append, hlogs, List.nil_append]
    exact (List.suffix_cons _ _).trans hsuffix
  · exact fun hne => absurd (h.idle_of_ne hremaining (by simp)) hne
  · intro hjoined
    refine h.joined fun hmem => hjoined ?_
    rw [hremaining] at hmem
    exact List.mem_append_right _ (List.mem_of_ne_of_mem (by simp) hmem)

/-- Every operation of the main thread keeps `ControlInv`. -/
theorem controlInv_mainStep {op : MainOp} {rest : List MainOp} (h : ControlInv s)
    (hremaining : s.remaining = op :: rest) (hs : MainStepped s rest op s') : ControlInv s' := by
  have hidle := fun hop => h.idle_of_ne hremaining hop
  cases hs with
  | persist hstep => exact controlInv_persist h hremaining (.persist hstep)
  | prewarmMessageLogs => exact controlInv_prewarmMessageLogs h hremaining .prewarmMessageLogs
  | startScheduler =>
    exact controlInv_done h hremaining rfl (fun _ => .inl rfl) (hidle (by simp)) rfl (by simp)
      (by simp)
  | schedulePersist =>
    exact controlInv_done h hremaining rfl (by simp) (hidle (by simp)) rfl (fun _ => .inl rfl)
      (by simp)
  | removeTask =>
    exact controlInv_done h hremaining rfl (fun _ => .inr rfl) (hidle (by simp)) rfl
      (fun _ => .inl rfl) (by simp)
  | joinScheduler hcallback =>
    exact controlInv_done h hremaining rfl (fun _ => .inl rfl) (hidle (by simp)) rfl
      (fun _ => .inr rfl) fun _ => ⟨hcallback, rfl⟩
  | _ =>
    exact controlInv_done h hremaining rfl (fun _ => .inl rfl) (hidle (by simp)) rfl
      (fun _ => .inl rfl) (by simp)

/-- Every step keeps `ControlInv`. -/
theorem controlInv_step (h : ControlInv s) (hs : s.step l = some s') : ControlInv s' := by
  cases stepped_of_step hs with
  | main hremaining hmain => exact controlInv_mainStep h hremaining hmain
  | collected hthread htask hcallback =>
    -- The task is in the table and the thread runs, so the ids are loaded and nothing is joined.
    refine ⟨h.suffix, h.logs, fun hnot => ?_, h.inside, fun hnot => ?_⟩
    · rw [(h.early hnot).1] at htask
      cases htask
    · rw [(h.joined hnot).2] at hthread
      cases hthread
  | ran hcallback _ =>
    refine ⟨h.suffix, h.logs, fun hnot => ?_, h.inside, fun hnot => ?_⟩
    · rw [(h.early hnot).2.1] at hcallback
      cases hcallback
    · rw [(h.joined hnot).1] at hcallback
      cases hcallback
  | _ => exact ⟨h.suffix, h.logs, h.early, h.inside, h.joined⟩

/-- The process begins with the invariant. -/
theorem controlInv_begin (db : Database) : ControlInv (begin db) where
  suffix := by
    have hfilter : mainProgram.filter (fun op => !isLog op) = mainProgram := by decide
    show mainProgram.filter _ <:+ mainProgram
    rw [hfilter]
  logs channel hlog := by
    have hnot : ∀ op ∈ mainProgram, isLog op = false := by decide
    exact absurd (hnot _ hlog) (by simp [isLog])
  early _ := ⟨rfl, rfl, rfl⟩
  inside hne := absurd rfl hne
  joined _ := ⟨rfl, rfl⟩

/-- In every reachable state the stores are consistent and the main thread is on its way
through its program, whatever steps a run may take. -/
theorem controlled_reachable {ok : Process → ProcessOp → Prop} (h : process.Reachable ok s) :
    s.server.Consistent ∧ ControlInv s := by
  refine Lts.Reachable.invariant (I := fun s => s.server.Consistent ∧ ControlInv s) ?_ ?_ h
  · rintro s ⟨db, rfl⟩
    exact ⟨consistent_begin db, controlInv_begin db⟩
  · rintro s l s' ⟨hconsistent, hcontrol⟩ - hs
    exact ⟨consistent_step hconsistent hs, controlInv_step hcontrol hs⟩

/-! ### The messages -/

/-- What handling a message can do to the messages: it caches rows, or it is a
`WriteChatMessage` of a connection with a session and a channel. -/
theorem messages_handle {st : ServerState} (h : st.Consistent) (c : Nat) (m : Message) :
    (MessageStore.Paged st.db st.messages (st.handle c m).1.messages ∧
      (st.handle c m).1.db.messages = st.db.messages ∧
      (st.handle c m).2.flatMap Call.created = []) ∨
    ∃ w u ch, m = .writeChat w ∧ (c, u) ∈ st.users.userSessions ∧
      (c, ch) ∈ st.channels.connectionChannelMap ∧
      (st.handle c m).1.messages = st.messages.createMessage ch u w.content ∧
      (st.handle c m).1.db = st.db ∧
      (st.handle c m).2.flatMap Call.created = [st.messages.nextMessage ch u w.content] := by
  have hhandled := ServerState.handled_handle h c m
  generalize (st.handle c m).1 = st' at hhandled ⊢
  generalize (st.handle c m).2 = calls at hhandled ⊢
  -- A quiet call creates no message.
  have hquiet : ∀ calls : List Call, (∀ call ∈ calls, call.Quiet) →
      calls.flatMap Call.created = [] := by
    intro calls hcalls
    rw [List.flatMap_eq_nil_iff]
    intro call hcall
    cases call with
    | createMessage _ => exact absurd (hcalls _ hcall) (by simp [Call.Quiet])
    | _ => rfl
  cases hhandled with
  | served hs hcalls =>
    refine .inl ⟨?_, by rw [hs.db], hquiet _ hcalls⟩
    rw [hs.messages]
    exact .refl _ _
  | createdUser hcreate =>
    exact .inl ⟨.refl _ _, (Database.createUser_spec hcreate).2.2.2, rfl⟩
  | authenticated _ _ _ => exact .inl ⟨.refl _ _, rfl, rfl⟩
  | joined hs _ _ hcalls =>
    refine .inl ⟨?_, by rw [hs.db], ?_⟩
    · rw [hs.messages]
      exact .refl _ _
    · rw [List.flatMap_append, hquiet _ hcalls]
      rfl
  | loggedOut hs _ =>
    refine .inl ⟨?_, by rw [hs.db], rfl⟩
    rw [hs.messages]
    exact .refl _ _
  | createdChannel hs hcreate =>
    refine .inl ⟨?_, (Database.createChatChannel_spec hcreate).2.2.2, rfl⟩
    rw [hs.messages]
    exact .refl _ _
  | read => exact .inl ⟨MessageStore.paged_getMessagesBefore _ _ _ _ _, rfl, rfl⟩
  | wrote hs hsession hassigned =>
    exact .inr ⟨_, _, _, rfl, hsession, hassigned, rfl, hs.db, rfl⟩

/-- What a step can do to the messages. -/
inductive MessageMove (s : Process) : ProcessOp → Process → Prop
  | paged {l : ProcessOp} {s' : Process}
      (hpaged : MessageStore.Paged s.server.db s.server.messages s'.server.messages)
      (hrows : s'.server.db.messages = s.server.db.messages) (hcreated : s'.created = s.created)
      (hflight : s'.inFlight = s.inFlight) (hids : s'.IdsLoaded ↔ s.IdsLoaded) :
      MessageMove s l s'
  | created {s' : Process} {ch u : Nat} {content : String} (hwrites : s.writesNext = true)
      (hstore : s'.server.messages = s.server.messages.createMessage ch u content)
      (hrows : s'.server.db.messages = s.server.db.messages)
      (hcreated : s'.created = s.created ++ [s.server.messages.nextMessage ch u content])
      (hflight : s'.inFlight = s.inFlight) (hids : s'.IdsLoaded ↔ s.IdsLoaded) :
      MessageMove s .handleTask s'
  | loaded {s' : Process} (hbefore : ¬ s.IdsLoaded)
      (hstore : s'.server.messages = s.server.messages.prewarmIds s.server.db)
      (hrows : s'.server.db.messages = s.server.db.messages) (hcreated : s'.created = s.created)
      (hflight : s'.inFlight = s.inFlight) (hids : s'.IdsLoaded) : MessageMove s .main s'
  | persisted {l : ProcessOp} {s' : Process} {p p' : PersistStep} (other : List ChatMessage)
      (hstep : persistStep s.server.db s.server.messages p
        = some (s'.server.db, s'.server.messages, p'))
      (hcreated : s'.created = s.created)
      (hbefore : ∀ m, m ∈ s.inFlight ↔ m ∈ p.inFlight ∨ m ∈ other)
      (hafter : ∀ m, m ∈ s'.inFlight ↔ m ∈ p'.inFlight ∨ m ∈ other)
      (hids : s.IdsLoaded) (hids' : s'.IdsLoaded) : MessageMove s l s'

/-- The application thread writes next when its message is a `WriteChatMessage` of a
connection with a session and a channel. -/
theorem writesNext_of_mem {c u ch : Nat} {w : WriteChatMessage} {rest : List (Nat × Message)}
    (hbuffer : s.buffer = (c, .writeChat w) :: rest) (hregistered : .writeChat ∈ s.registered)
    (hsession : (c, u) ∈ s.server.users.userSessions)
    (hassigned : (c, ch) ∈ s.server.channels.connectionChannelMap) : s.writesNext = true := by
  have hfound : (s.server.channels.connectionChannelMap.findLeft c).isSome = true := by
    by_contra hnone
    rw [Bool.not_eq_true, Option.isSome_eq_false_iff, Option.isNone_iff_eq_none] at hnone
    exact MultiBimap.findLeft_eq_none.mp hnone ch hassigned
  simp [writesNext, hbuffer, hregistered, ServerState.hasSession_iff.mpr ⟨u, hsession⟩, hfound]

/-- A step that leaves the store of messages as it is. -/
theorem MessageMove.kept (hstore : s'.server.messages = s.server.messages)
    (hrows : s'.server.db.messages = s.server.db.messages) (hcreated : s'.created = s.created)
    (hflight : s'.inFlight = s.inFlight) (hids : s'.IdsLoaded ↔ s.IdsLoaded) :
    MessageMove s l s' :=
  .paged (hstore ▸ .refl _ _) hrows hcreated hflight hids

/-- Any other operation does not load the ids. -/
theorem idsLoaded_rest {op : MainOp} {rest : List MainOp} (hremaining : s.remaining = op :: rest)
    (hop : op ≠ .prewarmMessageIds) (hrest : s'.remaining = rest) :
    s'.IdsLoaded ↔ s.IdsLoaded := by
  unfold IdsLoaded
  rw [hremaining, hrest, List.mem_cons, not_or]
  exact ⟨fun h => ⟨hop.symm, h⟩, fun h => h.2⟩

/-- The `Persist` of the main thread. -/
theorem messageMove_persist {rest : List MainOp} (h : ControlInv s)
    (hremaining : s.remaining = .persist :: rest) (hs : MainStepped s rest .persist s') :
    MessageMove s .main s' := by
  cases hs with
  | @persist db messages p hstep =>
    obtain ⟨hloaded, hrest⟩ := h.idsLoaded hremaining rfl
    refine .persisted (s.callback.elim [] PersistStep.inFlight) hstep rfl
      (fun m => List.mem_append) (fun m => List.mem_append) hloaded ?_
    show .prewarmMessageIds ∉ (if p = .idle then rest else .persist :: rest)
    split
    · exact hrest
    · exact hremaining ▸ hloaded

/-- The operations of the main thread. -/
theorem messageMove_mainStep {op : MainOp} {rest : List MainOp} (h : ControlInv s)
    (hremaining : s.remaining = op :: rest) (hs : MainStepped s rest op s') :
    MessageMove s .main s' := by
  cases hs with
  | persist hstep => exact messageMove_persist h hremaining (.persist hstep)
  | prewarmMessageIds =>
    -- The program loads the ids once.
    have horder := (program_order h.suffix).2.1
    rw [filter_remaining hremaining rfl] at horder
    refine .loaded (fun hloaded => ?_) rfl rfl rfl rfl fun hmem => ?_
    · exact hloaded (hremaining ▸ List.mem_cons_self)
    · exact horder rfl (List.mem_filter.mpr ⟨hmem, rfl⟩)
  | prewarmMessageLogs =>
    -- The rounds of the loop that go in front are not the load of the ids.
    refine .kept rfl rfl rfl rfl ?_
    unfold IdsLoaded
    rw [hremaining]
    simp
  | prewarmMessageLog =>
    exact .paged (MessageStore.paged_prewarmChannel _ _ _) rfl rfl rfl
      (idsLoaded_rest hremaining (by simp) rfl)
  | _ => exact .kept rfl rfl rfl rfl (idsLoaded_rest hremaining (by simp) rfl)

/-- `MessageMove` lists what every step does to the messages. -/
theorem messageMove_step (hconsistent : s.server.Consistent) (h : ControlInv s)
    (hs : s.step l = some s') : MessageMove s l s' := by
  cases stepped_of_step hs with
  | main hremaining hmain => exact messageMove_mainStep h hremaining hmain
  | @handled c m rest hbuffer hregistered =>
    rcases messages_handle hconsistent c m with
      ⟨hpaged, hrows, hcreated⟩ |
        ⟨w, u, ch, rfl, hsession, hassigned, hstore, hdb, hcreated⟩
    · refine .paged hpaged hrows ?_ rfl Iff.rfl
      show s.created ++ _ = _
      rw [hcreated, List.append_nil]
    · exact .created (writesNext_of_mem hbuffer hregistered hsession hassigned) hstore
        (by rw [hdb]) (congrArg (s.created ++ ·) hcreated) rfl Iff.rfl
  | @disconnected c _ =>
    obtain ⟨-, -, -, heq, -⟩ := ServerState.removeSession_spec hconsistent c
    refine .kept ?_ ?_ rfl rfl Iff.rfl
    · show (s.server.removeSession c).1.messages = _
      rw [heq]
    · show (s.server.removeSession c).1.db.messages = _
      rw [heq]
  | collected hthread htask hcallback =>
    exact .kept rfl rfl rfl (by simp [inFlight, hcallback, PersistStep.inFlight]) Iff.rfl
  | @ran p p' db messages hcallback hstep =>
    have hloaded : s.IdsLoaded := by
      by_contra hnot
      rw [(h.early hnot).2.1] at hcallback
      cases hcallback
    -- The batch of the main thread, if it has one, is the other one in flight.
    refine .persisted s.mainPersist.inFlight hstep rfl (fun m => ?_) (fun m => ?_)
      hloaded hloaded
    · rw [inFlight, List.mem_append, hcallback, or_comm]
      rfl
    · rw [inFlight, List.mem_append, or_comm]
      by_cases hp : p' = .idle
      · simp [hp, PersistStep.inFlight]
      · simp [hp]
  | _ => exact .kept rfl rfl rfl rfl Iff.rfl

end Process

end ChatCore.Server
