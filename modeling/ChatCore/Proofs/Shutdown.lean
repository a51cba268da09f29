import ChatCore.Proofs.Lifecycle

/-!
# `ChatCore.Proofs.Shutdown`: which messages are in the database after a shutdown

`ChatServerSystem::Deinitialize` calls `Persist`, and `ApplicationSystem::Deinitialize` joins
the application thread afterwards. A `WriteChatMessage` that is handled in between calls
`CreateMessage`, and nothing writes its message any more.

`DurableStep` excludes such a write. It also excludes a write whose id is at most the latest
persisted one, since `AssignMessage` does not queue its message. Under this condition a
created message is pending, in flight or in the database at every moment (`DurableInv`). After
the swap of the last `Persist` the pending messages are rows that a request read back.
-/

set_option autoImplicit false

namespace ChatCore.Server

open ChatCore.Api
open ChatCore.Lib

namespace Process

variable {s s' : Process} {l : ProcessOp}

/-- A write happens before the last `Persist` swaps the pending messages out, and its id is
above the latest persisted one. -/
def DurableStep (s : Process) (l : ProcessOp) : Prop :=
  s.writes l = true →
    s.FlushOpen ∧ s.server.messages.alreadyPersisted s.server.messages.nextId = false

instance : DecidableRel DurableStep := fun _ _ => inferInstanceAs (Decidable (_ → _))

/-! ### The last flush -/

/-- Any other operation leaves the `Persist` of the main thread where it stands. -/
theorem mainStep_remaining {op : MainOp} {rest : List MainOp} (hop : op ≠ .persist)
    (hs : MainStepped s rest op s') :
    (∀ x ∈ rest, x ∈ s'.remaining) ∧ s'.mainPersist = s.mainPersist := by
  cases hs with
  | persist _ => exact absurd rfl hop
  | prewarmMessageLogs => exact ⟨fun x hx => List.mem_append_right _ hx, rfl⟩
  | _ => exact ⟨fun x hx => hx, rfl⟩

/-- The step that closes the flush is the swap of the main thread. Nothing is pending right
after it. -/
theorem flush_closes (hs : s.step l = some s') (hopen : s.FlushOpen) (hclosed : ¬ s'.FlushOpen) :
    s.writes l = false ∧ s'.server.messages.pendingMessages = [] := by
  cases stepped_of_step hs with
  | @main op rest _ hremaining hmain =>
    refine ⟨rfl, ?_⟩
    by_cases hop : op = .persist
    · subst hop
      cases hmain with
      | @persist db messages p hstep =>
        rw [hopen.2] at hstep
        rcases persistStep_cases hstep with ⟨-, hpending, -, hstore, -⟩ | ⟨-, -, -, hstore, -⟩ |
          ⟨_, _, hp, -⟩ | ⟨_, hp, -⟩
        · show messages.pendingMessages = []
          rw [hstore, hpending]
        · show messages.pendingMessages = []
          rw [hstore]
        · cases hp
        · cases hp
    · obtain ⟨hkept, hsame⟩ := mainStep_remaining hop hmain
      have hrest := hopen.1
      rw [hremaining] at hrest
      exact absurd ⟨hkept _ (List.mem_of_ne_of_mem (Ne.symm hop) hrest), hsame.trans hopen.2⟩
        hclosed
  | _ => exact absurd hopen hclosed

/-! ### No created message is lost -/

/-- Where the created messages are. -/
structure DurableInv (s : Process) : Prop where
  kept : ∀ m ∈ s.created, m ∈ s.server.messages.pendingMessages ∨ m ∈ s.inFlight ∨
    m ∈ s.server.db.messages.rows
  flushed : ¬ s.FlushOpen → ∀ m ∈ s.server.messages.pendingMessages,
    m ∈ s.server.db.messages.rows

/-- The process begins with the invariant. -/
theorem durableInv_begin (db : Database) : DurableInv (begin db) where
  kept m hm := by cases hm
  flushed _ m hm := by cases hm

/-- A step that satisfies `DurableStep` keeps `DurableInv`. -/
theorem durableInv_step (hconsistent : s.server.Consistent) (hcontrol : ControlInv s)
    (h : DurableInv s) (hok : s.DurableStep l) (hs : s.step l = some s') : DurableInv s' := by
  -- Once the flush is closed in `s'`, nothing is pending or it was closed before.
  have hflush : ¬ s'.FlushOpen → s'.server.messages.pendingMessages = [] ∨ ¬ s.FlushOpen := by
    intro hclosed
    by_cases hopen : s.FlushOpen
    · exact .inl (flush_closes hs hopen hclosed).2
    · exact .inr hopen
  cases messageMove_step hconsistent hcontrol hs with
  | paged hpaged hrows hcreated hflight _ =>
    obtain ⟨page, hpage, hpending⟩ := hpaged.pending
    refine ⟨fun m hm => ?_, fun hclosed m hm => ?_⟩
    · rw [hcreated] at hm
      rw [hpending, hflight, hrows, List.mem_append]
      exact (h.kept m hm).imp_left Or.inl
    · rcases hflush hclosed with hnil | hbefore
      · rw [hnil] at hm
        cases hm
      · rw [hpending, List.mem_append] at hm
        rw [hrows]
        exact hm.elim (h.flushed hbefore m) (hpage m)
  | @created _ ch u content hwrites hstore hrows hcreated hflight _ =>
    obtain ⟨hopen, hfresh⟩ := hok hwrites
    have hpending : s'.server.messages.pendingMessages = s.server.messages.pendingMessages ++
        [s.server.messages.nextMessage ch u content] := by
      rw [hstore, MessageStore.pendingMessages_createMessage,
        List.filter_cons_of_pos (by simpa [MessageStore.nextMessage] using hfresh)]
      rfl
    refine ⟨fun m hm => ?_, fun hclosed => ?_⟩
    · rw [hcreated, List.mem_append] at hm
      rw [hpending, hflight, hrows, List.mem_append]
      rcases hm with hm | hm
      · exact (h.kept m hm).imp_left Or.inl
      · exact .inl (.inr hm)
    · -- A write does not close the flush.
      have hwrites' := (flush_closes hs hopen hclosed).1
      rw [show s.writes .handleTask = true from hwrites] at hwrites'
      cases hwrites'
  | loaded _ hstore hrows hcreated hflight _ =>
    have hpending : s'.server.messages.pendingMessages = s.server.messages.pendingMessages := by
      rw [hstore]
      rfl
    refine ⟨fun m hm => ?_, fun hclosed m hm => ?_⟩
    · rw [hcreated] at hm
      rw [hpending, hflight, hrows]
      exact h.kept m hm
    · rcases hflush hclosed with hnil | hbefore
      · rw [hnil] at hm
        cases hm
      · rw [hpending] at hm
        rw [hrows]
        exact h.flushed hbefore m hm
  | persisted _ hstep hcreated hbefore hafter _ _ =>
    refine ⟨fun m hm => ?_, fun hclosed m hm => ?_⟩
    · -- `Persist` moves a message from the pending ones to a batch and from there to a row.
      rw [hcreated] at hm
      obtain ⟨hrow, hbatch, hpending, -⟩ := persistStep_moves hstep m
      rcases h.kept m hm with hold | hold | hold
      · rcases hpending hold with hnew | hnew
        · exact .inl hnew
        · exact .inr (.inl ((hafter m).mpr (.inl hnew)))
      · rcases (hbefore m).mp hold with hold | hold
        · exact .inr (.inr (hbatch hold))
        · exact .inr (.inl ((hafter m).mpr (.inr hold)))
      · exact .inr (.inr (hrow hold))
    · rcases hflush hclosed with hnil | hopen
      · rw [hnil] at hm
        cases hm
      · obtain ⟨hrow, -, -, hpending⟩ := persistStep_moves hstep m
        exact hrow (h.flushed hopen m (hpending hm))

/-- The invariant holds in every such run. -/
theorem durableInv_reachable (h : process.Reachable DurableStep s) : DurableInv s := by
  refine Lts.Reachable.invariant_of_reachable ?_ ?_ h
  · rintro s ⟨db, rfl⟩
    exact durableInv_begin db
  · intro s l s' hr hinv hok hs
    obtain ⟨hconsistent, hcontrol⟩ := controlled_reachable hr
    exact durableInv_step hconsistent hcontrol hinv hok hs

/-- After `Deinitialize` no batch is in flight. -/
theorem inFlight_of_done (h : ControlInv s) (hdone : s.remaining = []) : s.inFlight = [] := by
  have hmain : s.mainPersist = .idle := by
    by_contra hne
    have hhead := h.inside hne
    rw [hdone] at hhead
    cases hhead
  obtain ⟨hcallback, -⟩ := h.joined (by simp [hdone])
  simp [inFlight, hmain, hcallback, PersistStep.inFlight]

/-- When every write of a run satisfies `DurableStep`, the database has every created message
after `Deinitialize`. -/
theorem shutdown_durable (h : process.Reachable DurableStep s) (hdone : s.remaining = []) :
    ∀ m ∈ s.created, m ∈ s.server.db.messages.rows := by
  intro m hm
  have hinv := durableInv_reachable h
  have hclosed : ¬ s.FlushOpen := fun hopen => by simp [FlushOpen, hdone] at hopen
  have hflight := inFlight_of_done (controlled_reachable h).2 hdone
  rcases hinv.kept m hm with hpending | hbatch | hrow
  · exact hinv.flushed hclosed m hpending
  · rw [hflight] at hbatch
    cases hbatch
  · exact hrow

/-- A client that logs in, creates a channel and joins it, and what comes after. -/
def joinThen (rest : List Message) : List ProcessOp :=
  let join : List Message :=
    [.createUserRequest ⟨1, "ann", "pw"⟩, .authenticateUserRequest ⟨2, "ann", "pw"⟩,
      .createChannelRequest ⟨3, "general"⟩, .joinChatChannelRequest ⟨4, 1⟩]
  List.replicate 20 .main ++ [.accept] ++ (join ++ rest).map (.receive 1) ++ [.takeTasks] ++
    List.replicate (4 + rest.length) .handleTask

/-- A write before the shutdown is written by the last `Persist`. -/
theorem shutdown_durable_write :
    ∃ s, process.Reachable DurableStep s ∧ s.remaining = [] ∧ s.created.length = 1 ∧
      ∀ m ∈ s.created, m ∈ s.server.db.messages.rows := by
  have hstart : process.Reachable DurableStep (begin Database.empty) := .start ⟨_, rfl⟩
  obtain ⟨s, hs, hdone, hcreated⟩ := hstart.exists_of_exec
    (joinThen [.writeChat ⟨"hi"⟩, .shutdown ⟨⟩] ++ List.replicate 9 .main)
    (fun s => s.remaining = [] ∧ s.created.length = 1) (by decide +kernel)
  exact ⟨s, hs, hdone, hcreated, shutdown_durable hs hdone⟩

/-- A write behind the shutdown request in the queue. The main thread executes its `Persist`
before the application thread handles the write, and the message is lost. -/
theorem shutdown_loses_write :
    ∃ s, process.Reachable Lts.anyStep s ∧ s.remaining = [] ∧
      ∃ m ∈ s.created, m ∉ s.server.db.messages.rows := by
  have hstart : process.Reachable Lts.anyStep (begin Database.empty) := .start ⟨_, rfl⟩
  obtain ⟨s, hs, hdone, hlost⟩ := hstart.exists_of_exec
    (joinThen [.shutdown ⟨⟩] ++ [.receive 1 (.writeChat ⟨"hi"⟩), .takeTasks] ++
      List.replicate 3 .main ++ [.handleTask] ++ List.replicate 4 .main)
    (fun s => s.remaining = [] ∧ ∃ m ∈ s.created, m ∉ s.server.db.messages.rows) (by decide +kernel)
  exact ⟨s, hs, hdone, hlost⟩

end Process

end ChatCore.Server
