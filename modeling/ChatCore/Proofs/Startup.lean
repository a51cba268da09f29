import ChatCore.Proofs.Lifecycle

/-!
# `ChatCore.Proofs.Startup`: the ids of messages that are written during start-up

`ApplicationSystem::Initialize` starts the application thread and the acceptor.
`ChatServerSystem::Initialize` registers its handlers and calls `ChatMessageStore::Prewarm`
afterwards, which loads `next_id_`. A `WriteChatMessage` that is handled in between gets its
id from the initial value of `next_id_`, and `Prewarm` then resets the counter.

`LoadedStep` excludes such a write. Then the ids of the created messages are the numbers from
`Database.firstId` on, in order (`FreshInv`), and every message that the process knows is a
row of the start or a created one.
-/

set_option autoImplicit false

namespace ChatCore.Server

open ChatCore.Api
open ChatCore.Lib

namespace Process

variable {s s' : Process} {l : ProcessOp}

/-- A write happens after `Prewarm` has loaded the ids. -/
def LoadedStep (s : Process) (l : ProcessOp) : Prop := s.writes l = true → s.IdsLoaded

instance : DecidableRel LoadedStep := fun _ _ => inferInstanceAs (Decidable (_ → _))

/-- The greatest id of the start and the number of created messages leave room for the next
id. -/
def IdsRemain (s : Process) : Prop :=
  s.start.messages.maxKey.getD 0 + s.created.length < 2 ^ 32 - 1

/-- The database of the start stays the same. -/
theorem start_step (hs : s.step l = some s') : s'.start = s.start := by
  cases stepped_of_step hs with
  | main _ hmain => cases hmain <;> rfl
  | _ => rfl

/-- The messages that the process knows, and the ids that it gave. -/
structure FreshInv (s : Process) : Prop where
  known : ∀ m, m ∈ s.server.messages.pendingMessages ∨ m ∈ s.inFlight ∨
    m ∈ s.server.db.messages.rows → m ∈ s.start.messages.rows ∨ m ∈ s.created
  before : ¬ s.IdsLoaded → s.created = [] ∧ s.server.db.messages = s.start.messages
  next : s.IdsLoaded → s.server.messages.nextId = s.start.firstId + s.created.length
  ids : s.created.map ChatMessage.id = List.range' s.start.firstId s.created.length

/-- The process begins with the invariant. -/
theorem freshInv_begin (db : Database) : FreshInv (begin db) where
  known m hm := by
    rcases hm with hm | hm | hm
    · cases hm
    · cases hm
    · exact .inl hm
  before _ := ⟨rfl, rfl⟩
  next h := absurd (show .prewarmMessageIds ∈ mainProgram by decide) h
  ids := rfl

/-- The first id, as the bound on the ids sees it. -/
theorem firstId_le (db : Database) : db.firstId ≤ db.messages.maxKey.getD 0 + 1 := by
  unfold Database.firstId
  cases db.messages.maxKey with
  | none => exact Nat.zero_le _
  | some n => exact Nat.le_refl _

/-- A step that satisfies `LoadedStep` keeps `FreshInv`, as long as there are ids. -/
theorem freshInv_step (hconsistent : s.server.Consistent) (hcontrol : ControlInv s)
    (h : FreshInv s) (hok : s.LoadedStep l) (hs : s.step l = some s') (hremain : s'.IdsRemain) :
    FreshInv s' := by
  have hstart := start_step hs
  cases messageMove_step hconsistent hcontrol hs with
  | paged hpaged hrows hcreated hflight hids =>
    obtain ⟨page, hpage, hpending⟩ := hpaged.pending
    refine ⟨fun m hm => ?_, ?_, ?_, ?_⟩
    · rw [hpending, hflight, hrows, List.mem_append] at hm
      rw [hstart, hcreated]
      rcases hm with (hm | hm) | hm | hm
      · exact h.known m (.inl hm)
      · exact h.known m (.inr (.inr (hpage m hm)))
      · exact h.known m (.inr (.inl hm))
      · exact h.known m (.inr (.inr hm))
    · rw [hids, hcreated, hrows, hstart]
      exact h.before
    · rw [hids, hcreated, hstart, hpaged.next]
      exact h.next
    · rw [hcreated, hstart]
      exact h.ids
  | @created _ ch u content hwrites hstore hrows hcreated hflight hids =>
    have hloaded := hok hwrites
    have hnext := h.next hloaded
    have hpending : ∀ m ∈ s'.server.messages.pendingMessages,
        m ∈ s.server.messages.pendingMessages ∨
          m = s.server.messages.nextMessage ch u content := by
      intro m hm
      rw [hstore, MessageStore.pendingMessages_createMessage, List.mem_append] at hm
      exact hm.imp_right fun hm => List.mem_singleton.mp (List.mem_of_mem_filter hm)
    have hlength : s'.created.length = s.created.length + 1 := by
      rw [hcreated, List.length_append]
      rfl
    refine ⟨fun m hm => ?_, fun hnot => absurd (hids.mpr hloaded) hnot, fun _ => ?_, ?_⟩
    · rw [hstart, hcreated, List.mem_append, List.mem_singleton, ← or_assoc]
      rw [hflight, hrows] at hm
      rcases hm with hm | hm
      · exact (hpending m hm).imp_left fun hm => h.known m (.inl hm)
      · exact .inl (h.known m (.inr hm))
    · -- The counter does not wrap, because there are ids left after this one.
      have hfirst := firstId_le s.start
      unfold IdsRemain at hremain
      rw [hstart, hlength] at hremain
      rw [hstore, MessageStore.nextId_createMessage, hnext, hlength, hstart]
      rw [Nat.mod_eq_of_lt (by unfold uint32Size; omega), Nat.add_assoc]
    · rw [hlength, hstart, List.range'_1_concat, hcreated, List.map_append, h.ids]
      simp [MessageStore.nextMessage, hnext]
  | loaded hbefore hstore hrows hcreated hflight hids =>
    -- Nothing was created or written before, so the counter continues the ids of the start.
    obtain ⟨hnone, hsame⟩ := h.before hbefore
    refine ⟨fun m hm => ?_, fun hnot => absurd hids hnot, fun _ => ?_, ?_⟩
    · rw [hstore, hflight, hrows] at hm
      rw [hstart, hcreated]
      exact h.known m hm
    · unfold IdsRemain at hremain
      rw [hcreated, hnone, hstart] at hremain
      rw [hcreated, hnone, hstart, hstore]
      simp only [MessageStore.prewarmIds, Database.getLastChatMessageId, hsame, Database.firstId]
      cases hmax : s.start.messages.maxKey with
      | none => rfl
      | some n =>
        rw [hmax] at hremain
        simp only [Option.getD_some, List.length_nil] at hremain
        simp only [Option.elim_some, List.length_nil, Nat.add_zero]
        exact Nat.mod_eq_of_lt (by unfold uint32Size; omega)
    · rw [hcreated, hstart]
      exact h.ids
  | persisted _ hstep hcreated hbefore hafter hids hids' =>
    refine ⟨fun m hm => ?_, fun hnot => absurd hids' hnot, fun _ => ?_, ?_⟩
    · rw [hstart, hcreated]
      refine h.known m ?_
      rw [hbefore]
      rw [hafter] at hm
      rcases hm with hm | (hm | hm) | hm
      · exact (persistStep_sources hstep (.inl hm)).imp_right (.imp_left .inl)
      · exact (persistStep_sources hstep (.inr (.inl hm))).imp_right (.imp_left .inl)
      · exact .inr (.inl (.inr hm))
      · exact (persistStep_sources hstep (.inr (.inr hm))).imp_right (.imp_left .inl)
    · rw [hcreated, hstart, (persistStep_frame hstep).2.2.1]
      exact h.next hids
    · rw [hcreated, hstart]
      exact h.ids

/-- The number of created messages does not shrink. -/
theorem length_created_step (hconsistent : s.server.Consistent) (hcontrol : ControlInv s)
    (hs : s.step l = some s') : s.created.length ≤ s'.created.length := by
  cases messageMove_step hconsistent hcontrol hs with
  | paged _ _ hcreated _ _ => rw [hcreated]
  | created _ _ _ hcreated _ _ =>
    rw [hcreated, List.length_append]
    exact Nat.le_add_right _ _
  | loaded _ _ _ hcreated _ _ => rw [hcreated]
  | persisted _ _ hcreated _ _ _ _ => rw [hcreated]

/-- The invariant holds in every such run. -/
theorem freshInv_reachable (h : process.Reachable LoadedStep s) (hremain : s.IdsRemain) :
    FreshInv s := by
  refine Lts.Reachable.invariant_of_reachable (I := fun s => s.IdsRemain → FreshInv s) ?_ ?_ h
    hremain
  · rintro s ⟨db, rfl⟩ -
    exact freshInv_begin db
  · intro s l s' hr hinv hok hs hremain
    obtain ⟨hconsistent, hcontrol⟩ := controlled_reachable hr
    have hgrow := length_created_step hconsistent hcontrol hs
    have hremain' : s.IdsRemain := by
      unfold IdsRemain at hremain ⊢
      rw [start_step hs] at hremain
      omega
    exact freshInv_step hconsistent hcontrol (hinv hremain') hok hs hremain

/-- When every write of a run satisfies `LoadedStep`, a new message gets an id that is in no
row of the database and that no other created message has. -/
theorem created_id_fresh {m : ChatMessage} (h : process.Reachable LoadedStep s)
    (hremain : s.IdsRemain) (hok : s.LoadedStep l) (hs : s.step l = some s')
    (hnew : s'.created = s.created ++ [m]) :
    m.id ∉ s.server.db.messages.keys ∧ (s'.created.map ChatMessage.id).Nodup := by
  have hinv := freshInv_reachable h hremain
  obtain ⟨hconsistent, hcontrol⟩ := controlled_reachable h
  have hid : m.id = s.start.firstId + s.created.length := by
    cases messageMove_step hconsistent hcontrol hs with
    | created hwrites _ _ hcreated _ _ =>
      have hm := List.append_cancel_left (hnew.symm.trans hcreated)
      rw [List.cons.inj hm |>.1, ← hinv.next (hok hwrites)]
      rfl
    | paged _ _ hcreated _ _ | loaded _ _ _ hcreated _ _ | persisted _ _ hcreated _ _ _ _ =>
      rw [hcreated] at hnew
      exact absurd hnew.symm (by simp)
  refine ⟨fun hmem => ?_, ?_⟩
  · -- A row is one of the start or a created one, and both are below the new id.
    obtain ⟨row, hrow, hkey⟩ := List.mem_map.mp hmem
    rcases hinv.known row (.inr (.inr hrow)) with hold | hcreated
    · have hlt := Database.id_lt_firstId hold
      omega
    · have hrange : row.id ∈ s.created.map ChatMessage.id := List.mem_map_of_mem hcreated
      rw [hinv.ids, List.mem_range'_1] at hrange
      omega
  · have hids : s'.created.map ChatMessage.id
        = List.range' s.start.firstId (s.created.length + 1) := by
      rw [hnew, List.map_append, hinv.ids, List.range'_1_concat]
      simp [hid]
    rw [hids]
    exact List.nodup_range'

/-- A client that logs in, creates a channel, joins it and writes while the main thread has
done the first `ops` operations of its program. -/
def writeAfter (ops : Nat) : List ProcessOp :=
  let messages : List Message :=
    [.createUserRequest ⟨1, "ann", "pw"⟩, .authenticateUserRequest ⟨2, "ann", "pw"⟩,
      .createChannelRequest ⟨3, "general"⟩, .joinChatChannelRequest ⟨4, 1⟩,
      .writeChat ⟨"hi"⟩, .writeChat ⟨"ho"⟩]
  List.replicate ops .main ++ [.accept] ++ messages.map (.receive 1) ++ [.takeTasks] ++
    List.replicate 5 .handleTask

/-- Two writes after start-up. -/
theorem created_id_fresh_second :
    ∃ s s' m, process.Reachable LoadedStep s ∧ s.created.length = 1 ∧
      s.step .handleTask = some s' ∧ s'.created = s.created ++ [m] ∧
      m.id ∉ s.server.db.messages.keys ∧ (s'.created.map ChatMessage.id).Nodup := by
  have hstart : process.Reachable LoadedStep (begin Database.empty) := .start ⟨_, rfl⟩
  obtain ⟨s, hs, hlength, hmax, hok, hnext⟩ := hstart.exists_of_exec (writeAfter 20)
    (fun s => s.created.length = 1 ∧ s.start.messages.maxKey = none ∧ s.LoadedStep .handleTask ∧
      (s.step .handleTask).any (fun s' => s'.created = s.created ++ [⟨1, 1, 1, "ho"⟩]) = true)
    (by decide +kernel)
  obtain ⟨s', hstep, hnew⟩ := Option.any_eq_true _ _ |>.mp hnext
  have hremain : s.IdsRemain := by
    unfold IdsRemain
    rw [hlength, hmax]
    decide
  have hnew := of_decide_eq_true hnew
  exact ⟨s, s', _, hs, hlength, hstep, hnew, created_id_fresh hs hremain hok hstep hnew⟩

/-- A write after the registration of the handlers and before `Prewarm`, and one afterwards.
The two messages get the same id. -/
theorem created_id_reused :
    ∃ s, process.Reachable Lts.anyStep s ∧ s.IdsRemain ∧
      s.created.map ChatMessage.id = [0, 0] := by
  have hstart : process.Reachable Lts.anyStep (begin Database.empty) := .start ⟨_, rfl⟩
  obtain ⟨s, hs, hids, hmax⟩ := hstart.exists_of_exec
    (writeAfter 16 ++ List.replicate 2 .main ++ [.handleTask])
    (fun s => s.created.map ChatMessage.id = [0, 0] ∧ s.start.messages.maxKey = none) (by decide +kernel)
  refine ⟨s, hs, ?_, hids⟩
  have hlength : s.created.length = 2 := by simpa using congrArg List.length hids
  unfold IdsRemain
  rw [hlength, hmax]
  decide

end Process

end ChatCore.Server
