import ChatCore.Lib.Wakeup
import ChatCore.Proofs.Preparation
import Mathlib.Algebra.BigOperators.Group.List.Basic

/-!
# `ChatCore.Proofs.LoadTest`: the load test begins once and counts every message

What the scheduler has still to do belongs to one client or is the evaluation, and nothing of this
exists twice (`Measured.owners`). So a client has at most one `Send` under way, and it has noted all
messages that it has sent up to this one (`Measured.outgoing`).

With the preparation this is an invariant of every run (`inv_reachable`). Only `Send` gives the
`TcpSystem` a chat message (`wire_step`). The test begins once (`test_begins_once`), and what
`Evaluate` counts is what was sent (`report_accounts`).
-/

set_option autoImplicit false

namespace ChatCore.Tester

open ChatCore.Api
open ChatCore.Lib

namespace LoadTest

variable {s s' : LoadTest}

/-! ### The test -/

/-- The test client that a task is about. The evaluation is about none. -/
def ownerOf : TestTask → Option Nat
  | .start i | .send i => some i
  | .evaluate => none

/-- The tasks that `SetClientReady` has still to schedule. -/
def future (s : LoadTest) : List (Option Nat) :=
  match s.starting with
  | none => []
  | some i => (List.range' i (s.outgoing.length - i)).map some ++ [none]

/-- What the scheduler has to do, wherever it is. -/
def owners (s : LoadTest) : List (Option Nat) :=
  s.tasks.map (fun task => ownerOf task.2) ++ s.callbacks.map ownerOf
    ++ s.sending.toList.map (fun sending => some sending.1) ++ s.future

/-- What holds of the test. -/
structure Measured (s : LoadTest) : Prop where
  owners : s.owners.Nodup
  scope : ∀ i, some i ∈ s.owners → i < s.outgoing.length
  reports : s.reports.length ≤ 1
  reported : s.reports ≠ [] → none ∉ s.owners
  idle : s.begun = 0 → s.owners = [] ∧ s.written = [] ∧ s.reports = []
  numbers : s.written.map Prod.snd = List.range s.nextId
  writers : ∀ message ∈ s.written, message.1 < s.outgoing.length
  /-- A client has noted what it has sent, up to the `Send` that is under way. -/
  outgoing : ∀ (i : Nat) (messages : List Nat), s.outgoing[i]? = some messages →
    messages ++ (s.sending.toList.filter (·.1 = i)).map Prod.snd
      = (s.written.filter (·.1 = i)).map Prod.snd

/-- There is one list of outgoing messages for each test client. -/
theorem length_outgoing : s.outgoing.length = s.clients.length := List.length_map ..

/-- There is something to do only after the test has begun. -/
theorem Measured.begun_ne_zero (h : s.Measured) {w : Option Nat} (hw : w ∈ s.owners) :
    s.begun ≠ 0 := by
  intro hzero
  rw [(h.idle hzero).1] at hw
  cases hw

/-- The same work at other places. -/
theorem Measured.perm (h : s.Measured) (howners : s'.owners.Perm s.owners)
    (houtgoing : s'.outgoing = s.outgoing) (hreports : s'.reports = s.reports)
    (hbegun : s'.begun = s.begun) (hwritten : s'.written = s.written)
    (hnextId : s'.nextId = s.nextId) (hsending : s'.sending = s.sending) : s'.Measured := by
  refine ⟨howners.nodup_iff.mpr h.owners, ?_, ?_, ?_, ?_, ?_, ?_, ?_⟩
  · intro i hi
    rw [houtgoing]
    exact h.scope i (howners.mem_iff.mp hi)
  · rw [hreports]
    exact h.reports
  · rw [hreports]
    exact fun hne hnone => h.reported hne (howners.mem_iff.mp hnone)
  · rw [hbegun, hwritten, hreports]
    intro hzero
    obtain ⟨hnil, hrest⟩ := h.idle hzero
    rw [hnil] at howners
    exact ⟨howners.eq_nil, hrest⟩
  · rw [hwritten, hnextId]
    exact h.numbers
  · rw [hwritten, houtgoing]
    exact h.writers
  · rw [hwritten, houtgoing, hsending]
    exact h.outgoing

/-- When there is nothing to do, the places where something may be to do are empty. -/
theorem places_of_owners_nil (h : s.owners = []) :
    s.tasks.map (fun task => ownerOf task.2) ++ s.callbacks.map ownerOf = [] ∧
      s.sending = none ∧ s.starting = none := by
  obtain ⟨hrest, hfuture⟩ := List.append_eq_nil_iff.mp h
  obtain ⟨hrest, hnosending⟩ := List.append_eq_nil_iff.mp hrest
  refine ⟨hrest, ?_, ?_⟩
  · cases hsome : s.sending with
    | none => rfl
    | some sending => simp [hsome] at hnosending
  · cases hsome : s.starting with
    | none => rfl
    | some i => simp [future, hsome] at hfuture

/-- No client has noted a message before the test has begun. -/
theorem Measured.outgoing_of_idle (h : s.Measured) (hzero : s.begun = 0) :
    ∀ messages ∈ s.outgoing, messages = [] := by
  obtain ⟨hnil, hnowritten, -⟩ := h.idle hzero
  intro messages hmessages
  obtain ⟨i, hi⟩ := List.mem_iff_getElem?.mp hmessages
  have hsent := h.outgoing i messages hi
  rw [(places_of_owners_nil hnil).2.1, hnowritten] at hsent
  simpa using hsent

/-- A step of the preparation. While the test has not begun there is nothing to do, and when it
begins there is one task for each client, and the evaluation. -/
theorem Measured.moved (h : s.Measured) (hprepared : s.Prepared) (hmoved : Moved s s') :
    s'.Measured := by
  have hmeasurement := hmoved.measurement
  simp only [measurement, Prod.mk.injEq] at hmeasurement
  obtain ⟨htasks, hcallbacks, hsending, hreports, hwritten, hnextId⟩ := hmeasurement
  by_cases hsame : s'.outgoing = s.outgoing ∧ s'.begun = s.begun ∧ s'.starting = s.starting
  · obtain ⟨houtgoing, hbegun, hstarting⟩ := hsame
    refine h.perm (List.Perm.of_eq ?_) houtgoing hreports hbegun hwritten hnextId hsending
    rw [LoadTest.owners, LoadTest.owners, future, future, htasks, hcallbacks, hsending, houtgoing,
      hstarting]
  · -- The test has not begun before.
    have hzero : s.begun = 0 := by
      cases hmoved.begins with
      | inr hbegins => exact hbegins.1
      | inl hbegins =>
        cases hmoved.clients with
        | inl houtgoing => exact absurd ⟨houtgoing, hbegins⟩ hsame
        | inr hgrown =>
          rw [hprepared.begun, hgrown.1]
          rfl
    obtain ⟨hnil, hnowritten, hnoreports⟩ := h.idle hzero
    obtain ⟨hrest, hnosending, hnostarting⟩ := places_of_owners_nil hnil
    have howners : s'.owners = s'.future := by
      rw [LoadTest.owners, htasks, hcallbacks, hrest, hsending, hnosending]
      rfl
    have hfresh : ∀ messages ∈ s'.outgoing, messages = [] := by
      cases hmoved.clients with
      | inr hgrown => exact hgrown.2
      | inl houtgoing =>
        rw [houtgoing]
        exact h.outgoing_of_idle hzero
    -- Whether the test begins with this step or not, no client has two tasks.
    have hstarting : s'.starting = none ∧ s'.begun = 0 ∨ s'.starting = some 0 ∧ s'.begun = 1 := by
      cases hmoved.begins with
      | inl hbegins => exact .inl ⟨hbegins.2.trans hnostarting, hbegins.1.trans hzero⟩
      | inr hbegins => exact .inr ⟨hbegins.2.2, hbegins.2.1⟩
    refine ⟨?_, ?_, ?_, ?_, ?_, ?_, ?_, ?_⟩
    · rw [howners, future]
      cases hstarting with
      | inl hnone =>
        rw [hnone.1]
        exact List.nodup_nil
      | inr hsome =>
        rw [hsome.1]
        refine List.nodup_append.mpr ⟨?_, List.nodup_singleton _, ?_⟩
        · exact List.Nodup.map (Option.some_injective _) (List.nodup_range' ..)
        · intro a ha b hb hab
          obtain ⟨i, -, rfl⟩ := List.mem_map.mp ha
          rw [List.mem_singleton.mp hb] at hab
          cases hab
    · intro i hi
      rw [howners, future] at hi
      cases hstarting with
      | inl hnone =>
        rw [hnone.1] at hi
        cases hi
      | inr hsome =>
        rw [hsome.1] at hi
        simp only [List.mem_append, List.mem_map, List.mem_range'_1, List.mem_singleton,
          Option.some.injEq, exists_eq_right, reduceCtorEq, or_false] at hi
        omega
    · rw [hreports]
      exact h.reports
    · rw [hreports, hnoreports]
      exact fun hne => absurd rfl hne
    · intro hbegun
      cases hstarting with
      | inl hnone =>
        rw [howners, future, hnone.1, hwritten, hreports]
        exact ⟨rfl, hnowritten, hnoreports⟩
      | inr hsome => exact absurd (hbegun.symm.trans hsome.2) (by decide)
    · rw [hwritten, hnextId]
      exact h.numbers
    · rw [hwritten, hnowritten]
      intro message hmessage
      cases hmessage
    · intro i messages hi
      rw [hfresh messages (List.mem_of_getElem? hi), hwritten, hnowritten, hsending, hnosending]
      rfl

/-- The next round of the loop in `SetClientReady`. -/
theorem Measured.schedule (h : s.Measured) {i : Nat} (hstarting : s.starting = some i) :
    Measured (if i < s.clients.length
      then { s.scheduleAfter (.start i) with starting := some (i + 1) }
      else { s.scheduleAfter .evaluate with starting := none }) := by
  split
  · rename_i hi
    -- The task of client `i` moves from what is to come into the table.
    refine h.perm (List.perm_iff_count.mpr fun a => ?_) rfl rfl rfl rfl rfl rfl
    have hsucc : s.outgoing.length - i = s.outgoing.length - (i + 1) + 1 := by
      rw [length_outgoing]
      omega
    have hfuture : s.future = some i ::
        ((List.range' (i + 1) (s.outgoing.length - (i + 1))).map some ++ [none]) := by
      rw [future, hstarting]
      simp only [hsucc, List.range'_succ, List.map_cons, List.cons_append]
    rw [LoadTest.owners, LoadTest.owners, hfuture]
    simp only [scheduleAfter, future, LoadTest.outgoing, List.map_append, List.map_cons,
      List.map_nil, List.count_append, List.count_cons, List.count_nil, ownerOf]
    omega
  · rename_i hi
    -- Only the evaluation is left.
    refine h.perm (List.perm_iff_count.mpr fun a => ?_) rfl rfl rfl rfl rfl rfl
    have hzero : s.outgoing.length - i = 0 := by
      rw [length_outgoing]
      omega
    have hfuture : s.future = [none] := by
      rw [future, hstarting]
      simp only [hzero, List.range'_zero, List.map_nil, List.nil_append]
    rw [LoadTest.owners, LoadTest.owners, hfuture]
    simp only [scheduleAfter, future, List.map_append, List.map_cons,
      List.map_nil, List.count_append, List.count_cons, List.count_nil, ownerOf]
    omega

/-- A task is taken out of the table and put into the pass. -/
theorem Measured.collect (h : s.Measured) {i : Nat} {task : Nat × TestTask}
    (htask : s.tasks[i]? = some task) :
    Measured { s with tasks := s.tasks.eraseIdx i, callbacks := s.callbacks ++ [task.2] } := by
  refine h.perm (List.perm_iff_count.mpr fun a => ?_) rfl rfl rfl rfl rfl rfl
  have hcount := ((perm_eraseIdx_of_get htask).map fun task => ownerOf task.2).count_eq a
  rw [List.map_cons, List.count_cons] at hcount
  rw [LoadTest.owners, LoadTest.owners]
  simp only [future, LoadTest.outgoing, List.map_append, List.map_cons, List.map_nil,
    List.count_append, List.count_cons, List.count_nil]
  omega

/-- `Start`. -/
theorem Measured.start (h : s.Measured) {i : Nat} {callbacks : List TestTask}
    (hcallbacks : s.callbacks = .start i :: callbacks) (currentSendTaskId : Nat) :
    Measured { scheduleAfter { s with callbacks } (.send i) with
      clients := s.clients.modify i fun c => { c with currentSendTaskId } } := by
  have houtgoing := outgoing_modify (s := s) (g := fun c => { c with currentSendTaskId })
    (by intro c; rfl) i
  refine h.perm (List.perm_iff_count.mpr fun a => ?_) houtgoing rfl rfl rfl rfl rfl
  have hlength : (LoadTest.outgoing { s with
      clients := s.clients.modify i fun c => { c with currentSendTaskId } }).length
      = s.outgoing.length := congrArg List.length houtgoing
  have hfuture : future { scheduleAfter { s with callbacks } (.send i) with
      clients := s.clients.modify i fun c => { c with currentSendTaskId } } = s.future := by
    unfold future
    show (match s.starting with | none => _ | some j => _) = _
    rw [← hlength]
    rfl
  rw [LoadTest.owners, LoadTest.owners, hfuture, hcallbacks]
  simp only [scheduleAfter, List.map_append, List.map_cons, List.map_nil, List.count_append,
    List.count_cons, List.count_nil, ownerOf]
  omega

/-- `Send`, up to its call of the `TcpSystem`: the message has a new number. -/
theorem Measured.send (h : s.Measured) {i : Nat} {callbacks : List TestTask}
    (hcallbacks : s.callbacks = .send i :: callbacks) (hsending : s.sending = none)
    (sent : List (Nat × Message)) :
    Measured { s with
      callbacks, sent
      nextId := s.nextId + 1
      sending := some (i, s.nextId)
      written := s.written ++ [(i, s.nextId)] } := by
  generalize hs' : { s with
    callbacks, sent
    nextId := s.nextId + 1
    sending := some (i, s.nextId)
    written := s.written ++ [(i, s.nextId)] } = s'
  have howners : s'.owners.Perm s.owners := by
    rw [← hs']
    -- The callback leaves the queue, and the task is `sending`: the owners are the same.
    refine List.perm_iff_count.mpr fun a => ?_
    rw [LoadTest.owners, LoadTest.owners, hcallbacks, hsending]
    simp only [future, LoadTest.outgoing, Option.toList, List.map_cons, List.map_nil,
      List.count_append, List.count_cons, List.count_nil, ownerOf]
    omega
  have hmem : some i ∈ s.owners := by
    rw [LoadTest.owners, hcallbacks]
    simp [ownerOf]
  have hi := h.scope i hmem
  refine ⟨howners.nodup_iff.mpr h.owners, ?_, ?_, ?_, ?_, ?_, ?_, ?_⟩
  · intro j hj
    have hlt := h.scope j (howners.mem_iff.mp hj)
    rw [← hs']
    exact hlt
  · rw [← hs']
    exact h.reports
  · intro hne hnone
    rw [← hs'] at hne
    exact h.reported hne (howners.mem_iff.mp hnone)
  · intro hzero
    rw [← hs'] at hzero
    exact absurd hzero (h.begun_ne_zero hmem)
  · rw [← hs']
    show (s.written ++ [(i, s.nextId)]).map Prod.snd = List.range (s.nextId + 1)
    rw [List.map_append, h.numbers, List.range_succ]
    rfl
  · rw [← hs']
    intro message hmessage
    cases List.mem_append.mp hmessage with
    | inl hold => exact h.writers message hold
    | inr hnew =>
      rw [List.mem_singleton.mp hnew]
      exact hi
  · rw [← hs']
    intro j messages hj
    have hsent := h.outgoing j messages hj
    rw [hsending] at hsent
    -- The number goes to the client of the task, which has not noted it yet.
    show messages ++ (([(i, s.nextId)]).filter (·.1 = j)).map Prod.snd
      = ((s.written ++ [(i, s.nextId)]).filter (·.1 = j)).map Prod.snd
    rw [List.filter_append, List.map_append, ← hsent]
    simp

/-- `Send` notes its message: no other message of the client has this number. -/
theorem Measured.noteSent (h : s.Measured) {i messageId : Nat}
    (hsending : s.sending = some (i, messageId)) : (s.noteSent i messageId).Measured := by
  -- What the clients have noted afterwards.
  have hget : ∀ (j : Nat) (messages : List Nat),
      (s.noteSent i messageId).outgoing[j]? = some messages →
      ∃ before, s.outgoing[j]? = some before ∧
        messages = before ++ if i = j then [messageId] else [] := by
    intro j messages hj
    have hj : ((s.clients.modify i fun c => { c with
        outgoingMessages := tryEmplace c.outgoingMessages ⟨s.now, messageId⟩
        currentSendTaskId := s.nextTaskId }).map fun c =>
        c.outgoingMessages.map TrackedMessage.messageId)[j]? = some messages := hj
    rw [List.getElem?_map, List.getElem?_modify] at hj
    obtain ⟨c', hc', rfl⟩ := Option.map_eq_some_iff.mp hj
    obtain ⟨c, hc, rfl⟩ := Option.map_eq_some_iff.mp hc'
    have hbefore : s.outgoing[j]? = some (c.outgoingMessages.map TrackedMessage.messageId) := by
      rw [LoadTest.outgoing, List.getElem?_map, hc]
      rfl
    refine ⟨_, hbefore, ?_⟩
    by_cases hij : i = j
    · subst hij
      rw [if_pos rfl, if_pos rfl]
      refine map_tryEmplace fun hmem => ?_
      have hsent := h.outgoing i _ hbefore
      rw [hsending] at hsent
      -- The numbers of what the client has sent are different from each other.
      have hnodup : ((s.written.filter (·.1 = i)).map Prod.snd).Nodup := by
        refine (List.filter_sublist.map Prod.snd).nodup ?_
        rw [h.numbers]
        exact List.nodup_range
      rw [← hsent] at hnodup
      exact (List.nodup_append.mp hnodup).2.2 messageId hmem messageId (by simp) rfl
    · rw [if_neg hij, if_neg hij, List.append_nil]
  have hlength : (s.noteSent i messageId).outgoing.length = s.outgoing.length := by
    rw [length_outgoing, length_outgoing]
    exact List.length_modify ..
  have howners : (s.noteSent i messageId).owners.Perm s.owners := by
    refine List.perm_iff_count.mpr fun a => ?_
    have hfuture : (s.noteSent i messageId).future = s.future := by
      rw [future, hlength]
      rfl
    rw [LoadTest.owners, LoadTest.owners, hfuture, hsending]
    simp only [LoadTest.noteSent, scheduleAfter, Option.toList, List.map_append, List.map_cons,
      List.map_nil, List.count_append, List.count_cons, List.count_nil, ownerOf]
    omega
  refine ⟨howners.nodup_iff.mpr h.owners, ?_, h.reports, ?_, ?_, h.numbers, ?_, ?_⟩
  · intro j hj
    rw [hlength]
    exact h.scope j (howners.mem_iff.mp hj)
  · exact fun hne hnone => h.reported hne (howners.mem_iff.mp hnone)
  · intro hzero
    obtain ⟨hnil, hrest⟩ := h.idle hzero
    rw [hnil] at howners
    exact ⟨howners.eq_nil, hrest⟩
  · intro message hmessage
    rw [hlength]
    exact h.writers message hmessage
  · intro j messages hj
    obtain ⟨before, hbefore, rfl⟩ := hget j messages hj
    have hsent := h.outgoing j before hbefore
    rw [hsending] at hsent
    show before ++ (if i = j then [messageId] else []) ++ _
      = (s.written.filter (·.1 = j)).map Prod.snd
    rw [← hsent]
    by_cases hij : i = j
    · simp [hij, LoadTest.noteSent]
    · simp [hij, LoadTest.noteSent]

/-- `Evaluate` takes tasks away and reports. -/
theorem Measured.evaluate (h : s.Measured) {callbacks : List TestTask}
    (hcallbacks : s.callbacks = .evaluate :: callbacks) {tasks : List (Nat × TestTask)}
    (htasks : tasks.Sublist s.tasks) (disconnected : List Nat) (report : Report) :
    s.reports = [] ∧ Measured { s with
      callbacks, tasks, disconnected
      reports := s.reports ++ [report]
      quit := true } := by
  have hmem : none ∈ s.owners := by
    rw [LoadTest.owners, hcallbacks]
    simp [ownerOf]
  have hnil : s.reports = [] := by
    -- A report that is there already would have used up `Evaluate`.
    by_contra hne
    exact h.reported hne hmem
  generalize hs' : { s with
    callbacks, tasks, disconnected
    reports := s.reports ++ [report]
    quit := true } = s'
  have hsublist : ∃ others, (none :: s'.owners).Sublist others ∧ others.Perm s.owners := by
    -- `Evaluate` is the one owner that goes; the disconnected clients take their tasks with them.
    refine ⟨none :: (s.tasks.map (fun task => ownerOf task.2) ++ callbacks.map ownerOf
      ++ s.sending.toList.map (fun sending => some sending.1) ++ s.future), ?_, ?_⟩
    · rw [← hs']
      exact ((((htasks.map _).append_right _).append_right _).append_right _).cons_cons _
    · refine List.perm_iff_count.mpr fun a => ?_
      rw [LoadTest.owners, hcallbacks]
      simp only [List.map_cons, List.count_append, List.count_cons, ownerOf]
      omega
  obtain ⟨others, hsublist, hperm⟩ := hsublist
  have hnodup := hsublist.nodup (hperm.nodup_iff.mpr h.owners)
  obtain ⟨hnone, hnodup⟩ := List.nodup_cons.mp hnodup
  have hsubset : ∀ w ∈ s'.owners, w ∈ s.owners := fun w hw =>
    hperm.mem_iff.mp (hsublist.subset (List.mem_cons_of_mem _ hw))
  refine ⟨hnil, hnodup, ?_, ?_, fun _ => hnone, ?_, ?_, ?_, ?_⟩
  · intro i hi
    have hlt := h.scope i (hsubset _ hi)
    rw [← hs']
    exact hlt
  · rw [← hs', hnil]
    exact Nat.le_refl _
  · intro hzero
    rw [← hs'] at hzero
    exact absurd hzero (h.begun_ne_zero hmem)
  · rw [← hs']
    exact h.numbers
  · rw [← hs']
    exact h.writers
  · rw [← hs']
    exact h.outgoing

/-! ### Steps -/

/-- What holds of the whole process. -/
structure Inv (s : LoadTest) : Prop where
  prepared : s.Prepared
  measured : s.Measured
  aborted : s.aborted ≠ some .emptyOptional

/-- While there is something to do, every test client has a connection. -/
theorem Inv.connectionOf_ne_none (h : s.Inv) {w : Option Nat} (hw : w ∈ s.owners) {i : Nat}
    (hi : i < s.clients.length) : s.connectionOf (some i) ≠ none := by
  have hready := h.prepared.all_ready (h.measured.begun_ne_zero hw) hi
  exact h.prepared.connectionOf_ne_none (h.prepared.ready i hready)

/-- A step that moves the clients keeps the invariant. -/
theorem Inv.moved (h : s.Inv) (hprepared : s'.Prepared) (hmoved : Moved s s') : s'.Inv where
  prepared := hprepared
  measured := h.measured.moved h.prepared hmoved
  aborted := by
    rw [hmoved.aborted]
    exact h.aborted

/-- A callback ends well, or with the exception of `std::stoull`. -/
theorem Inv.finish (h : s.Inv) {result : Except Abort LoadTest}
    (hresult : (∃ t, result = .ok t ∧ t.Prepared ∧ Moved s t) ∨ result = .error .terminate) :
    (s.finish result).Inv := by
  rcases hresult with ⟨t, rfl, hprepared, hmoved⟩ | rfl
  · exact h.moved hprepared hmoved
  · refine ⟨h.prepared.congr rfl, ?_, ?_⟩
    · exact h.measured.perm (List.Perm.refl _) rfl rfl rfl rfl rfl rfl
    · intro heq
      cases heq

/-- The handler of a new connection keeps the invariant. -/
theorem Inv.connected (h : s.Inv) {w : Option Nat} (hw : w ∈ s.connecting) :
    (s.finish (onConnected { s with
      connecting := s.connecting.erase w
      nextConnectionId := s.nextConnectionId + 1 } w s.nextConnectionId)).Inv :=
  h.finish (.inl (h.prepared.onConnected hw))

/-- The callback of an answer keeps the invariant. -/
theorem Inv.answer (h : s.Inv) {connectionId : Nat} {message : Message} {call : PendingCall}
    (hcall : s.calls.find? (·.AnsweredBy connectionId message) = some call) :
    (s.finish ((s.complete call.requestId).runCallback call.client call.callback message)).Inv := by
  have hmem : call ∈ s.calls := List.mem_of_find?_eq_some hcall
  have hcomplete : (s.complete call.requestId).Prepared :=
    h.prepared.shrink (List.Sublist.refl s.connecting) List.filter_sublist
      (Nat.le_refl s.nextConnectionId)
  have hfree : (s.complete call.requestId).Free call.client :=
    h.prepared.free_of_mem s.nextConnectionId (calls_subset_stages hmem)
      (h.prepared.not_mem_stages_complete hmem)
  obtain ⟨s', hs', hprepared, hmoved⟩ := hcomplete.runCallback hfree
    (fun requestId connectionId => h.prepared.calls call hmem) message
  exact h.finish (.inl ⟨s', hs', hprepared, hmoved.trans_of_eq rfl rfl rfl rfl rfl⟩)

/-- An echo keeps the invariant. -/
theorem Inv.receiveChat (h : s.Inv) {i connectionId : Nat} {message : ReceiveChatMessage}
    {c : TestClient} (hc : s.clients[i]? = some c) (hsubscribed : c.subscribed = true) :
    (s.finish ((c.receiveChat s.now connectionId message).map fun c =>
      { s with clients := s.clients.set i c })).Inv := by
  refine h.finish ?_
  rcases (h.prepared.clients i c hc).receiveChat hsubscribed s.now connectionId message with
    heq | ⟨c', heq, hinv, hconnection, hsame, houtgoing⟩
  · rw [heq]
    exact .inr rfl
  · rw [heq]
    have hset : s.clients.set i c' = s.clients.modify i fun _ => c' :=
      List.set_eq_modify c' i s.clients
    refine .inl ⟨{ s with clients := s.clients.set i c' }, rfl, ?_, rfl, rfl, .inl ⟨rfl, rfl⟩,
      .inl ?_⟩
    · rw [hset]
      refine h.prepared.modify i _ (fun _ _ => hinv) ?_ ?_
      · intro c'' hc''
        obtain rfl := Option.some.inj (hc.symm.trans hc'')
        exact .inl hconnection
      · intro c'' hc''
        obtain rfl := Option.some.inj (hc.symm.trans hc'')
        exact .inl hsame
    · show (s.clients.set i c').map _ = s.clients.map _
      rw [hset]
      refine map_modify_of_eq fun c'' hc'' => ?_
      obtain rfl := Option.some.inj (hc.symm.trans hc'')
      rw [houtgoing]

/-- A timeout keeps the invariant. -/
theorem Inv.timeout (h : s.Inv) (requestId : Nat) :
    Inv { s.complete requestId with quit := true } := by
  have hcomplete : (s.complete requestId).Prepared :=
    h.prepared.shrink (List.Sublist.refl s.connecting) List.filter_sublist
      (Nat.le_refl s.nextConnectionId)
  exact h.moved (hcomplete.congr rfl) ⟨rfl, rfl, .inl ⟨rfl, rfl⟩, .inl rfl⟩

/-- What a client has sent does not matter for the preparation. -/
theorem Prepared.modify_outgoing (h : s.Prepared) (i currentSendTaskId : Nat)
    (note : List TrackedMessage → List TrackedMessage) :
    Prepared { s with clients := s.clients.modify i fun c => { c with
      outgoingMessages := note c.outgoingMessages
      currentSendTaskId } } := by
  refine h.modify i _ ?_ (fun _ _ => .inl rfl) fun _ _ => .inl rfl
  intro c hc
  have hinv := h.clients i c hc
  exact ⟨hinv.prepared, hinv.unheard, hinv.incoming⟩

/-- The loop over the clients in `Evaluate`. -/
theorem foldlM_stopClient (clients : List TestClient) :
    ∀ s : LoadTest, (∀ c ∈ clients, c.connectionId ≠ none) → ∃ tasks disconnected,
      clients.foldlM stopClient s = .ok { s with tasks, disconnected } ∧
      tasks.Sublist s.tasks := by
  induction clients with
  | nil => exact fun s _ => ⟨s.tasks, s.disconnected, rfl, List.Sublist.refl _⟩
  | cons c clients ih =>
    intro s hall
    obtain ⟨connectionId, hc⟩ := Option.ne_none_iff_exists'.mp (hall c List.mem_cons_self)
    obtain ⟨tasks, disconnected, heq, hsublist⟩ := ih { s with
      tasks := s.tasks.filter (·.1 ≠ c.currentSendTaskId)
      disconnected := s.disconnected ++ [connectionId] }
      fun c' hc' => hall c' (List.mem_cons_of_mem _ hc')
    refine ⟨tasks, disconnected, ?_, hsublist.trans List.filter_sublist⟩
    rw [List.foldlM_cons, stopClient, hc]
    exact heq

/-- What is reported about the clients. -/
def reportOf (clients : List TestClient) : Report where
  totalSent := ((clients.map TestClient.evaluate).map ClientReport.sentCount).sum
  totalFailed := ((clients.map TestClient.evaluate).map ClientReport.failedCount).sum
  latencies := (clients.map TestClient.evaluate).flatMap ClientReport.roundtripTimes

/-- `Evaluate` of connected clients reports them and goes on. -/
theorem evaluate_eq (s : LoadTest) (h : ∀ c ∈ s.clients, c.connectionId ≠ none) :
    ∃ tasks disconnected,
    s.evaluate = .ok { s with
      tasks, disconnected
      reports := s.reports ++ [reportOf s.clients]
      quit := true } ∧
    tasks.Sublist s.tasks := by
  obtain ⟨tasks, disconnected, heq, hsublist⟩ := foldlM_stopClient s.clients s h
  refine ⟨tasks, disconnected, ?_, hsublist⟩
  rw [evaluate, heq]
  rfl

/-- The evaluation, when its task is the next one of the pass. -/
theorem Inv.evaluate (h : s.Inv) {callbacks : List TestTask}
    (hcallbacks : s.callbacks = .evaluate :: callbacks) :
    ∃ t, LoadTest.evaluate { s with callbacks } = .ok t ∧ t.Inv ∧
      t.reports = [reportOf s.clients] := by
  have hmem : none ∈ s.owners := by
    rw [owners, hcallbacks]
    simp [ownerOf]
  have hconnected : ∀ c ∈ s.clients, c.connectionId ≠ none := by
    intro c hc
    obtain ⟨i, hi⟩ := List.mem_iff_getElem?.mp hc
    have hne := h.connectionOf_ne_none hmem (List.getElem?_eq_some_iff.mp hi).1
    simpa [connectionOf, client, hi] using hne
  obtain ⟨tasks, disconnected, heq, hsublist⟩ := evaluate_eq { s with callbacks } hconnected
  obtain ⟨hnil, hmeasured⟩ := h.measured.evaluate hcallbacks hsublist disconnected
    (reportOf s.clients)
  refine ⟨_, heq, ⟨h.prepared.congr rfl, hmeasured, h.aborted⟩, ?_⟩
  show s.reports ++ [reportOf s.clients] = _
  rw [hnil, List.nil_append]

/-- A callback of the scheduler keeps the invariant. -/
theorem Inv.run (h : s.Inv) (hsending : s.sending = none) {task : TestTask}
    {callbacks : List TestTask} (hcallbacks : s.callbacks = task :: callbacks) :
    (s.finish (runTask { s with callbacks } task)).Inv := by
  cases task with
  | start i =>
    refine ⟨?_, h.measured.start hcallbacks _, h.aborted⟩
    exact (h.prepared.modify_outgoing i s.nextTaskId id).congr rfl
  | send i =>
    have hmem : some i ∈ s.owners := by
      rw [owners, hcallbacks]
      simp [ownerOf]
    have hi := h.measured.scope i hmem
    rw [length_outgoing] at hi
    obtain ⟨connectionId, hconnection⟩ :=
      Option.ne_none_iff_exists'.mp (h.connectionOf_ne_none hmem hi)
    have hconnection' : (client { s with callbacks } (some i)).bind Client.connectionId
        = some connectionId := hconnection
    rw [runTask, hconnection']
    exact ⟨h.prepared.congr rfl, h.measured.send hcallbacks hsending _, h.aborted⟩
  | evaluate =>
    obtain ⟨t, heq, hinv, -⟩ := h.evaluate hcallbacks
    rw [runTask, heq]
    exact hinv

/-- A step keeps the invariant. -/
theorem inv_step {l : LoadTestOp} (h : s.Inv) (hs : s.step l = some s') : s'.Inv := by
  simp only [step, Option.ite_none_left_eq_some] at hs
  obtain ⟨-, hs⟩ := hs
  -- The io thread and the application thread prepare the clients, the scheduler thread measures.
  cases l with
  | connected w =>
    simp only [advance, Option.ite_none_right_eq_some, Option.some.injEq] at hs
    obtain ⟨hw, rfl⟩ := hs
    exact h.connected hw
  | connectionFailed w =>
    simp only [advance, Option.ite_none_right_eq_some, Option.some.injEq] at hs
    obtain ⟨hw, rfl⟩ := hs
    have hshrunk := h.prepared.shrink (@List.erase_sublist _ _ w s.connecting)
      (List.Sublist.refl s.calls) (Nat.le_refl s.nextConnectionId)
    exact h.moved (hshrunk.congr rfl) ⟨rfl, rfl, .inl ⟨rfl, rfl⟩, .inl rfl⟩
  | answer connectionId message =>
    simp only [advance, Option.ite_none_left_eq_some] at hs
    obtain ⟨-, hs⟩ := hs
    obtain ⟨call, hcall, rfl⟩ := Option.map_eq_some_iff.mp hs
    exact h.answer hcall
  | receiveChat i connectionId message =>
    simp only [advance, Option.ite_none_left_eq_some] at hs
    obtain ⟨-, hs⟩ := hs
    obtain ⟨c, hc, hs⟩ := Option.bind_eq_some_iff.mp hs
    simp only [Option.ite_none_right_eq_some, Option.some.injEq] at hs
    obtain ⟨hsubscribed, rfl⟩ := hs
    exact h.receiveChat hc hsubscribed
  | schedule =>
    obtain ⟨i, hstarting, rfl⟩ := Option.map_eq_some_iff.mp hs
    refine ⟨h.prepared.congr ?_, h.measured.schedule hstarting, ?_⟩
    · split <;> rfl
    · split <;> exact h.aborted
  | timeout requestId =>
    simp only [advance, Option.ite_none_right_eq_some, Option.some.injEq] at hs
    obtain ⟨-, rfl⟩ := hs
    exact h.timeout requestId
  | collect i =>
    obtain ⟨task, htask, rfl⟩ := Option.map_eq_some_iff.mp hs
    exact ⟨h.prepared.congr rfl, h.measured.collect htask, h.aborted⟩
  | run =>
    simp only [advance, Option.ite_none_left_eq_some] at hs
    obtain ⟨hsending, hs⟩ := hs
    have hsending : s.sending = none := by simpa using hsending
    cases hcallbacks : s.callbacks with
    | nil => simp [hcallbacks] at hs
    | cons task callbacks =>
      simp only [hcallbacks, Option.some.injEq] at hs
      subst hs
      exact h.run hsending hcallbacks
  | noteSent =>
    obtain ⟨⟨i, messageId⟩, hsending, rfl⟩ := Option.map_eq_some_iff.mp hs
    refine ⟨?_, h.measured.noteSent hsending, h.aborted⟩
    exact (h.prepared.modify_outgoing i s.nextTaskId
      fun messages => tryEmplace messages ⟨s.now, messageId⟩).congr rfl
  | tick =>
    cases hs
    exact ⟨h.prepared.congr rfl, h.measured.perm (List.Perm.refl _) rfl rfl rfl rfl rfl rfl,
      h.aborted⟩

/-- Only the root client connects at first. -/
theorem inv_begin (arguments : Apps.LoadTesterArguments) : (begin arguments).Inv where
  prepared := by
    refine ⟨List.nodup_singleton none, fun hne => absurd rfl hne, ?_, fun hne => absurd rfl hne,
      ?_, ?_, ?_, ?_, ?_, ?_, rfl, rfl⟩
    · intro i hi
      cases List.mem_singleton.mp hi
    · intro w c hc
      cases w <;> cases hc
    · intro w w' c hc
      cases w <;> cases hc
    · intro w _
      cases w <;> simp [subscribedOf, begin]
    · intro call hcall
      cases hcall
    · intro i c hc
      cases hc
    · intro i hi
      cases hi
  measured := by
    refine ⟨List.nodup_nil, ?_, Nat.zero_le _, fun hne => absurd rfl hne, fun _ => ⟨rfl, rfl, rfl⟩,
      rfl, ?_, ?_⟩
    · intro i hi
      cases hi
    · intro message hmessage
      cases hmessage
    · intro i messages hi
      cases hi
  aborted heq := by cases heq

/-- The invariant holds in every run. -/
theorem inv_reachable (h : loadTests.Reachable Lts.anyStep s) : s.Inv := by
  refine h.invariant (I := Inv) ?_ fun s l s' hinv _ hs => inv_step hinv hs
  rintro s ⟨arguments, rfl⟩
  exact inv_begin arguments

/-! ### The messages -/

/-- The contents of the chat messages that the `TcpSystem` was given. -/
def chats (s : LoadTest) : List String :=
  s.sent.filterMap fun sent =>
    match sent.2 with
    | .writeChat m => some m.content
    | _ => none

/-- These, and what the ghost says. -/
def wire (s : LoadTest) : List String × List (Nat × Nat) := (s.chats, s.written)

/-- A callback that gives the `TcpSystem` no chat message. -/
def Quiet (s : LoadTest) (result : Except Abort LoadTest) : Prop :=
  ∀ s', result = .ok s' → s'.wire = s.wire

/-- A function that leaves the wire alone is quiet. -/
theorem quiet_ok (h : s'.wire = s.wire) : s.Quiet (.ok s') := by
  intro t ht
  cases ht
  exact h

/-- A quiet function may begin in another state with the same wire. -/
theorem Quiet.of_wire {result : Except Abort LoadTest} (h : s'.Quiet result)
    (heq : s'.wire = s.wire) : s.Quiet result := by
  intro t ht
  exact (h t ht).trans heq

/-- A quiet function that ends leaves the wire alone. -/
theorem Quiet.finish {result : Except Abort LoadTest} (h : s'.Quiet result)
    (heq : s'.wire = s.wire) : (s.finish result).wire = s.wire := by
  cases result with
  | ok t => exact h.of_wire heq t rfl
  | error abort => rfl

/-- A call that is no chat message is quiet. -/
theorem quiet_call (w : Option Nat) (callback : Callback) {request : Nat → Message}
    (hrequest : ∀ requestId m, request requestId ≠ .writeChat m) :
    s.Quiet (s.call w callback request) := by
  unfold LoadTest.call
  cases (s.client w).bind Client.connectionId with
  | none =>
    intro t ht
    cases ht
  | some connectionId =>
    refine quiet_ok ?_
    have hnone : ∀ m, request s.nextRequestId ≠ .writeChat m := hrequest s.nextRequestId
    have hchats : (s.sent ++ [(connectionId, request s.nextRequestId)]).filterMap (fun sent =>
        match sent.2 with
        | .writeChat m => some m.content
        | _ => none) = s.chats := by
      rw [List.filterMap_append, chats]
      cases hrequest : request s.nextRequestId with
      | writeChat m => exact absurd hrequest (hnone m)
      | _ => exact List.append_nil _
    exact congrArg (fun chats => (chats, s.written)) hchats

/-- `OnPrepared` is quiet. -/
theorem quiet_onPrepared (w : Option Nat) : s.Quiet (s.onPrepared w) := by
  unfold onPrepared
  cases w with
  | none =>
    refine quiet_call none .createChannel fun _ _ heq => ?_
    cases heq
  | some i =>
    refine Quiet.of_wire (quiet_call (some i) .joinChannel fun _ _ heq => ?_) rfl
    cases heq

/-- A change of a client leaves the wire alone. -/
theorem wire_modifyClient (f : Client → Client) (w : Option Nat) :
    (s.modifyClient f w).wire = s.wire := by
  cases w <;> rfl

/-- `SetClientReady` leaves the wire alone. -/
theorem wire_setClientReady (i connectionId : Nat) :
    (s.setClientReady i connectionId).wire = s.wire := by
  unfold LoadTest.setClientReady
  dsimp only
  generalize (if connectionId ∈ s.connectedClients then s.connectedClients
    else s.connectedClients ++ [connectionId]) = connectedClients
  split
  · rfl
  · rfl

/-- `OnUserEnsured` is quiet. -/
theorem quiet_onUserEnsured (w : Option Nat) : s.Quiet (s.onUserEnsured w) := by
  unfold onUserEnsured
  refine quiet_call w .authenticateUser fun _ _ heq => ?_
  cases heq

/-- `OnConnected` is quiet. -/
theorem quiet_onConnected (w : Option Nat) (connectionId : Nat) :
    s.Quiet (s.onConnected w connectionId) := by
  unfold onConnected
  refine Quiet.of_wire (quiet_call w .createUser fun _ _ heq => ?_) (wire_modifyClient _ w)
  cases heq

/-- The callbacks of answers are quiet. -/
theorem quiet_runCallback (w : Option Nat) (callback : Callback) (message : Message) :
    s.Quiet (s.runCallback w callback message) := by
  unfold LoadTest.runCallback
  split
  · exact quiet_onUserEnsured w
  · exact quiet_onUserEnsured w
  · rename_i m
    exact (quiet_onPrepared w).of_wire (wire_modifyClient _ w)
  · exact quiet_ok rfl
  · cases (s.client w).bind Client.connectionId with
    | none =>
      intro t ht
      cases ht
    | some connectionId => exact quiet_ok (wire_setClientReady _ _)
  · exact quiet_ok rfl
  · exact quiet_ok rfl

/-- `Stop` of all test clients is quiet. -/
theorem quiet_stopClients (clients : List TestClient) :
    ∀ s : LoadTest, s.Quiet (clients.foldlM stopClient s) := by
  induction clients with
  | nil => exact fun s => quiet_ok rfl
  | cons c clients ih =>
    intro s
    rw [List.foldlM_cons, stopClient]
    cases c.connectionId with
    | none =>
      intro t ht
      cases ht
    | some connectionId => exact ih _

/-- `Evaluate` is quiet. -/
theorem quiet_evaluate : s.Quiet s.evaluate := by
  have hstop := quiet_stopClients s.clients s
  unfold LoadTest.evaluate
  cases hresult : s.clients.foldlM stopClient s with
  | error abort =>
    intro t ht
    cases ht
  | ok t => exact quiet_ok (hstop t hresult)

/-- Only `Send` gives the `TcpSystem` a chat message. -/
theorem wire_step {l : LoadTestOp} (hs : s.step l = some s') : s'.wire = s.wire ∨
    ∃ i connectionId, s'.sent = s.sent ++ [(connectionId, .writeChat ⟨toString s.nextId⟩)] ∧
      s'.written = s.written ++ [(i, s.nextId)] := by
  simp only [step, Option.ite_none_left_eq_some] at hs
  obtain ⟨-, hs⟩ := hs
  cases l with
  | connected w =>
    simp only [advance, Option.ite_none_right_eq_some, Option.some.injEq] at hs
    obtain ⟨-, rfl⟩ := hs
    exact .inl (Quiet.finish (quiet_onConnected w s.nextConnectionId) rfl)
  | connectionFailed w =>
    simp only [advance, Option.ite_none_right_eq_some, Option.some.injEq] at hs
    obtain ⟨-, rfl⟩ := hs
    exact .inl rfl
  | answer connectionId message =>
    simp only [advance, Option.ite_none_left_eq_some] at hs
    obtain ⟨-, hs⟩ := hs
    obtain ⟨call, -, rfl⟩ := Option.map_eq_some_iff.mp hs
    exact .inl (Quiet.finish (quiet_runCallback call.client call.callback message) rfl)
  | receiveChat i connectionId message =>
    simp only [advance, Option.ite_none_left_eq_some] at hs
    obtain ⟨-, hs⟩ := hs
    obtain ⟨c, -, hs⟩ := Option.bind_eq_some_iff.mp hs
    simp only [Option.ite_none_right_eq_some, Option.some.injEq] at hs
    obtain ⟨-, rfl⟩ := hs
    cases c.receiveChat s.now connectionId message with
    | ok c' => exact .inl rfl
    | error abort => exact .inl rfl
  | schedule =>
    obtain ⟨i, -, rfl⟩ := Option.map_eq_some_iff.mp hs
    split
    · exact .inl rfl
    · exact .inl rfl
  | timeout requestId =>
    simp only [advance, Option.ite_none_right_eq_some, Option.some.injEq] at hs
    obtain ⟨-, rfl⟩ := hs
    exact .inl rfl
  | collect i =>
    obtain ⟨task, -, rfl⟩ := Option.map_eq_some_iff.mp hs
    exact .inl rfl
  | run =>
    simp only [advance, Option.ite_none_left_eq_some] at hs
    obtain ⟨-, hs⟩ := hs
    cases hcallbacks : s.callbacks with
    | nil => simp [hcallbacks] at hs
    | cons task callbacks =>
      simp only [hcallbacks, Option.some.injEq] at hs
      subst hs
      cases task with
      | start i => exact .inl rfl
      | send i =>
        -- The only chat message: it has the number that the ghost notes.
        rw [runTask]
        cases (client { s with callbacks } (some i)).bind Client.connectionId with
        | none => exact .inl rfl
        | some connectionId => exact .inr ⟨i, connectionId, rfl, rfl⟩
      | evaluate =>
        rw [runTask]
        exact .inl (Quiet.finish quiet_evaluate rfl)
  | noteSent =>
    obtain ⟨⟨i, messageId⟩, -, rfl⟩ := Option.map_eq_some_iff.mp hs
    exact .inl rfl
  | tick =>
    cases hs
    exact .inl rfl

/-- The ghost is right: the chat messages have the numbers as their contents. -/
theorem chats_reachable (h : loadTests.Reachable Lts.anyStep s) :
    s.chats = s.written.map fun message => toString message.2 := by
  refine h.invariant (I := fun s => s.chats = s.written.map fun message => toString message.2)
    ?_ ?_
  · rintro s ⟨arguments, rfl⟩
    rfl
  · intro s l s' hchats _ hs
    cases wire_step hs with
    | inl hsame =>
      obtain ⟨heq, hwritten⟩ := Prod.mk.inj hsame
      rw [heq, hwritten, hchats]
    | inr hsent =>
      obtain ⟨i, connectionId, hsent, hwritten⟩ := hsent
      have heq : s'.chats = s.chats ++ [toString s.nextId] := by
        rw [chats, hsent, List.filterMap_append]
        rfl
      rw [heq, hwritten, hchats, List.map_append]
      rfl

/-! ### The beginning of the test -/

/-- The tasks of a test client that are under way: its `Start`, its next `Send`, or the `Send` that
runs. -/
def tasksOf (s : LoadTest) (i : Nat) : Nat := s.owners.count (some i)

/-- Whatever the server answers and however the threads interleave, the test begins at most once,
and it has begun exactly when there are test clients and all of them are ready. These are as many as
the arguments ask for. Before, nobody sends and nothing is reported; there is at most one report; no
test client has two tasks; and an empty optional is never read. -/
theorem test_begins_once (h : loadTests.Reachable Lts.anyStep s) :
    s.begun ≤ 1 ∧ (s.begun = 1 ↔ s.clients ≠ [] ∧ ∀ i < s.clients.length, i ∈ s.ready) ∧
    (s.clients ≠ [] → s.clients.length = s.arguments.clientCount) ∧
    (s.begun = 0 → s.written = [] ∧ s.reports = []) ∧ s.reports.length ≤ 1 ∧
    (∀ i, s.tasksOf i ≤ 1) ∧ s.aborted ≠ some .emptyOptional := by
  have hinv := inv_reachable h
  have hcases : s.begun = 0 ∨ s.begun = 1 := by
    rw [hinv.prepared.begun]
    split
    · exact .inr rfl
    · exact .inl rfl
  refine ⟨by omega, ⟨?_, ?_⟩, hinv.prepared.count, fun hzero => (hinv.measured.idle hzero).2,
    hinv.measured.reports, fun i => List.nodup_iff_count_le_one.mp hinv.measured.owners (some i),
    hinv.aborted⟩
  · intro hone
    refine ⟨fun hnil => ?_, fun i hi => hinv.prepared.all_ready (by omega) hi⟩
    rw [hinv.prepared.begun, hnil] at hone
    cases hone
  · rintro ⟨hne, hall⟩
    have hsubset : List.range s.clients.length ⊆ s.ready := by
      intro i hi
      exact hall i (List.mem_range.mp hi)
    have hle := (List.subperm_of_subset List.nodup_range hsubset).length_le
    rw [List.length_range] at hle
    rw [hinv.prepared.begun, if_pos]
    exact ⟨hne, Nat.le_antisymm hinv.prepared.length_ready_le hle⟩

/-- A load test with two test clients, up to the moment before its evaluation. Both send a message.
The first one is brought to both test clients, on both connections, and the second one to none. -/
def twosRun : List LoadTestOp :=
  [.connected none,
    .answer 1 (.createUserResponse ⟨1, ⟨1, "root-tester"⟩⟩),
    .answer 1 (.authenticateUserResponse ⟨2, ⟨1, "root-tester"⟩⟩),
    .answer 1 (.createChannelResponse ⟨3, ⟨1, "test-channel"⟩⟩),
    .connected (some 0), .connected (some 1),
    .answer 2 (.createUserResponse ⟨4, ⟨2, "tester0"⟩⟩),
    .answer 3 (.createUserResponse ⟨5, ⟨3, "tester1"⟩⟩),
    .answer 2 (.authenticateUserResponse ⟨6, ⟨2, "tester0"⟩⟩),
    .answer 3 (.authenticateUserResponse ⟨7, ⟨3, "tester1"⟩⟩),
    .answer 3 (.joinChatChannelResponse ⟨9, 1⟩), .answer 2 (.joinChatChannelResponse ⟨8, 1⟩),
    .schedule, .schedule, .schedule, .collect 0, .collect 0, .run, .run,
    .collect 1, .run, .noteSent, .collect 1, .run, .tick,
    .receiveChat 0 2 ⟨2, 1, "0"⟩, .receiveChat 1 2 ⟨2, 1, "0"⟩,
    .receiveChat 0 3 ⟨2, 1, "0"⟩, .receiveChat 1 3 ⟨2, 1, "0"⟩, .noteSent, .collect 0]

/-- The load tester begins in a reachable state. -/
theorem begin_reachable (arguments : Apps.LoadTesterArguments) :
    loadTests.Reachable Lts.anyStep (begin arguments) :=
  .start ⟨arguments, rfl⟩

/-- The test does not begin with the first client that is ready, and it begins with the second. -/
theorem test_begins_once_two : ∃ s s', loadTests.Reachable Lts.anyStep s ∧ s.ready = [1] ∧
    s.begun = 0 ∧ s.written = [] ∧ loadTests.Reachable Lts.anyStep s' ∧ s'.ready = [1, 0] ∧
    s'.begun = 1 ∧ s'.reports.length ≤ 1 := by
  obtain ⟨s, hreach, hready, hbegun⟩ := (begin_reachable ⟨"", "", 2, .info⟩).exists_of_exec
    (twosRun.take 11) (fun s => s.ready = [1] ∧ s.begun = 0) (by decide)
  obtain ⟨s', hreach', hready', hbegun'⟩ := (begin_reachable ⟨"", "", 2, .info⟩).exists_of_exec
    twosRun (fun s => s.ready = [1, 0] ∧ s.begun = 1) (by decide)
  obtain ⟨-, -, -, hidle, -⟩ := test_begins_once hreach
  exact ⟨s, s', hreach, hready, hbegun, (hidle hbegun).1, hreach', hready', hbegun',
    (test_begins_once hreach').2.2.2.2.1⟩

/-! ### The report -/

/-- The client of a message has heard its echo. -/
def echoed (s : LoadTest) (message : Nat × Nat) : Bool :=
  (s.clients[message.1]?).any fun c => c.heard.any (c.Echoes message.2 ·)

/-- The round trips of a client are those of its messages that have come back. -/
theorem length_roundtripTimes (sent incoming : List TrackedMessage) :
    (sent.filterMap fun m => (incoming.find? (·.messageId = m.messageId)).map fun received =>
      (received.timePoint : Int) - m.timePoint).length
      = ((sent.map TrackedMessage.messageId).filter
          (· ∈ incoming.map TrackedMessage.messageId)).length := by
  induction sent with
  | nil => rfl
  | cons m sent ih =>
    rw [List.filterMap_cons, List.map_cons, List.filter_cons]
    cases hfind : incoming.find? (·.messageId = m.messageId) with
    | none =>
      have hnot : m.messageId ∉ incoming.map TrackedMessage.messageId := by
        intro hmem
        obtain ⟨received, hreceived, heq⟩ := List.mem_map.mp hmem
        exact List.find?_eq_none.mp hfind received hreceived (by simpa using heq)
      rw [if_neg (by simpa using hnot)]
      exact ih
    | some received =>
      have hmem : m.messageId ∈ incoming.map TrackedMessage.messageId := by
        have heq := List.find?_some hfind
        exact List.mem_map.mpr ⟨received, List.mem_of_find?_eq_some hfind, by simpa using heq⟩
      rw [if_pos (by simpa using hmem), List.length_cons]
      exact congrArg Nat.succ ih

/-- What a list has, counted by the owners of its elements. -/
theorem sum_length_filter {β : Type} (l : List (Nat × β)) {n : Nat} (h : ∀ a ∈ l, a.1 < n) :
    ((List.range n).map fun i => (l.filter (·.1 = i)).length).sum = l.length := by
  induction l with
  | nil => simp
  | cons a l ih =>
    have hone : ∀ is : List Nat, (is.map fun i => if a.1 = i then 1 else 0).sum = is.count a.1 := by
      intro is
      induction is with
      | nil => rfl
      | cons i is ih =>
        rw [List.map_cons, List.sum_cons, ih]
        by_cases heq : a.1 = i
        · rw [if_pos heq, heq, List.count_cons_self, Nat.add_comm]
        · rw [if_neg heq, List.count_cons_of_ne (Ne.symm heq), Nat.zero_add]
    have hcons : ∀ i, ((a :: l).filter (·.1 = i)).length
        = (l.filter (·.1 = i)).length + if a.1 = i then 1 else 0 := by
      intro i
      by_cases heq : a.1 = i
      · simp [heq]
      · simp [heq]
    have hcount : (List.range n).count a.1 = 1 :=
      List.count_eq_one_of_mem List.nodup_range (List.mem_range.mpr (h a List.mem_cons_self))
    rw [List.map_congr_left fun i _ => hcons i, List.sum_map_add, hone, hcount, List.length_cons,
      ih fun b hb => h b (List.mem_cons_of_mem _ hb)]

/-- The report of a client: it counts what the client has sent, and what has come back. -/
theorem Inv.evaluate_client (h : s.Inv) (hsending : s.sending = none) {i : Nat} {c : TestClient}
    (hc : s.clients[i]? = some c) :
    c.evaluate.sentCount = (s.written.filter (·.1 = i)).length ∧
    c.evaluate.completedCount = ((s.written.filter (s.echoed ·)).filter (·.1 = i)).length := by
  have hoc : s.outgoing[i]? = some (c.outgoingMessages.map TrackedMessage.messageId) := by
    rw [LoadTest.outgoing, List.getElem?_map, hc]
    rfl
  have hsent := h.measured.outgoing i _ hoc
  rw [hsending] at hsent
  simp only [Option.toList, List.filter_nil, List.map_nil, List.append_nil] at hsent
  refine ⟨?_, ?_⟩
  · have hlength := congrArg List.length hsent
    rwa [List.length_map, List.length_map] at hlength
  · -- A message is completed when its number has come back, which only an echo brings.
    show (c.outgoingMessages.filterMap _).length = _
    rw [length_roundtripTimes, hsent, List.filter_map, List.length_map, List.filter_filter,
      List.filter_filter]
    refine congrArg List.length (List.filter_congr fun message _ => ?_)
    by_cases hi : message.1 = i
    · subst hi
      have hiff := (h.prepared.clients _ c hc).incoming message.2
      have hechoed : s.echoed message = true ↔ message.2 ∈
          c.incomingMessages.map TrackedMessage.messageId := by
        rw [hiff, echoed, hc]
        simp
      rw [Bool.eq_iff_iff]
      simp [hechoed]
    · simp [hi]

/-- A number of every client, when it counts messages of this client, summed up. -/
theorem Inv.sum_clients (h : s.Inv) {f : TestClient → Nat} {p : Nat × Nat → Bool}
    (hf : ∀ (i : Nat) (c : TestClient), s.clients[i]? = some c →
      f c = ((s.written.filter p).filter (·.1 = i)).length) :
    (s.clients.map f).sum = (s.written.filter p).length := by
  have hmap : s.clients.map f = (List.range s.clients.length).map fun i =>
      ((s.written.filter p).filter (·.1 = i)).length := by
    refine List.ext_getElem? fun i => ?_
    rw [List.getElem?_map, List.getElem?_map]
    by_cases hi : i < s.clients.length
    · have hc := List.getElem?_eq_getElem hi
      rw [hc, List.getElem?_range hi]
      exact congrArg some (hf i _ hc)
    · rw [List.getElem?_eq_none (by omega), List.getElem?_eq_none (by simpa using hi)]
      rfl
  rw [hmap]
  refine sum_length_filter _ fun message hmessage => ?_
  have hwriter := h.measured.writers message (List.mem_filter.mp hmessage).1
  rwa [length_outgoing] at hwriter

/-- The report accounts for every message. At the moment of the evaluation, whatever the server has
sent, each message that was sent is counted once: as completed when its client has heard its echo,
and as failed otherwise. The `TcpSystem` was given just these messages. There is no other report. -/
theorem report_accounts (h : loadTests.Reachable Lts.anyStep s) {callbacks : List TestTask}
    (hcallbacks : s.callbacks = .evaluate :: callbacks) (hs : s.step .run = some s') :
    ∃ report, s'.reports = [report] ∧ s.written.map Prod.snd = List.range s.nextId ∧
      s.chats = s.written.map (fun message => toString message.2) ∧
      report.totalSent = s.written.length ∧
      report.latencies.length = (s.written.filter (s.echoed ·)).length ∧
      report.totalFailed = (s.written.filter (! s.echoed ·)).length := by
  have hinv := inv_reachable h
  simp only [step, advance, Option.ite_none_left_eq_some, hcallbacks] at hs
  obtain ⟨-, hsending, hs⟩ := hs
  have hsending : s.sending = none := by simpa using hsending
  obtain ⟨t, heq, -, hreports⟩ := hinv.evaluate hcallbacks
  rw [runTask, heq] at hs
  obtain rfl : t = s' := Option.some.inj hs
  refine ⟨reportOf s.clients, hreports, hinv.measured.numbers, chats_reachable h, ?_, ?_, ?_⟩
  · have hsent := hinv.sum_clients (p := fun _ => true) fun i c hc =>
      (hinv.evaluate_client hsending hc).1.trans (by rw [List.filter_true])
    rw [List.filter_true] at hsent
    rw [reportOf, List.map_map]
    exact hsent
  · have hcompleted := hinv.sum_clients fun i c hc => (hinv.evaluate_client hsending hc).2
    rw [reportOf, List.length_flatMap, List.map_map]
    exact hcompleted
  · refine (congrArg List.sum List.map_map).trans (hinv.sum_clients fun i c hc => ?_)
    obtain ⟨hsent, hcompleted⟩ := hinv.evaluate_client hsending hc
    show c.evaluate.sentCount - c.evaluate.completedCount = _
    -- What was sent is what was completed and what was not.
    have hsplit := List.length_eq_length_filter_add (l := s.written.filter (·.1 = i)) (s.echoed ·)
    rw [List.filter_comm] at hcompleted
    rw [List.filter_comm, hsent, hcompleted, hsplit]
    omega

/-- The echo of the first message counts once, for the client that has sent it. -/
theorem report_accounts_two : ∃ s s' : LoadTest, s.step .run = some s' ∧
    s.written = [(0, 0), (1, 1)] ∧ ∃ report, s'.reports = [report] ∧ report.totalSent = 2 ∧
      report.latencies.length = 1 ∧ report.totalFailed = 1 := by
  obtain ⟨s, hreach, hcallbacks, hwritten, hechoed, hlost, hsome⟩ :=
    (begin_reachable ⟨"", "", 2, .info⟩).exists_of_exec twosRun
      (fun s => s.callbacks = [.evaluate] ∧ s.written = [(0, 0), (1, 1)] ∧
        s.echoed (0, 0) = true ∧ s.echoed (1, 1) = false ∧ (s.step .run).isSome) (by decide)
  obtain ⟨s', hs⟩ := Option.isSome_iff_exists.mp hsome
  obtain ⟨report, hreports, -, -, hsent, hcompleted, hfailed⟩ :=
    report_accounts hreach hcallbacks hs
  refine ⟨s, s', hs, hwritten, report, hreports, ?_, ?_, ?_⟩
  · rw [hsent, hwritten]
    rfl
  · rw [hcompleted, hwritten]
    simp [hechoed, hlost]
  · rw [hfailed, hwritten]
    simp [hechoed, hlost]

end LoadTest

end ChatCore.Tester
