import ChatCore.Proofs.MessageStore
import ChatCore.Server.Lifetime

/-!
# `ChatCore.Proofs.FailedPersist`: what is left of a flush whose write throws

A call of `Persist` that fails swaps the pending messages out, and the adapter throws. Between
the two, the application thread may create messages. `failedPersist` is this call as a run.

`exec_failedPersist` says what such a call leaves behind, from any state in which there is
something to write: the database and the latest persisted id as they were, and as pending
messages at most the ones created during the call. So nothing that was pending before the call
is pending after it (`failed_persist_loses_batch`).
-/

set_option autoImplicit false

namespace ChatCore.Server

open ChatCore.Api
open ChatCore.Lib

namespace Lifetime

/-- The arguments of a call of `CreateMessage`. -/
structure MessageArguments where
  channelId : Nat
  userId : Nat
  content : String

/-- The call of `CreateMessage`. -/
def MessageArguments.create (a : MessageArguments) : FailingOp :=
  .op (.createMessage a.channelId a.userId a.content)

/-- A call of `Persist` whose write throws, with calls of `CreateMessage` after the swap. -/
def failedPersist (creates : List MessageArguments) : List FailingOp :=
  .op .persist :: (creates.map MessageArguments.create ++ [.writeFails])

/-- Nothing was lost by a call of `Persist`: the messages that were pending in `s` and those
created since are pending in `s'`, each of them once and in ascending order of their ids, and
the latest persisted id is the one of before. -/
structure LosesNothing (s : Lifetime) (created : List ChatMessage) (s' : Lifetime) : Prop where
  kept : (s.store.pendingMessages ++ created).Subperm s'.store.pendingMessages
  once : s'.store.pendingMessages.Nodup
  ascending : (s'.store.pendingMessages.map ChatMessage.id).SortedLT
  latest : s'.store.latestPersistedId = s.store.latestPersistedId

/-- The calls of `CreateMessage` and the exception, from the swap on. -/
theorem exec_creates (creates : List MessageArguments) :
    ∀ {s : Lifetime} {batch : List ChatMessage},
    s.persist = .swapped batch →
    ∃ s' created, failingLifetime.exec Lts.anyStep s
        (creates.map MessageArguments.create ++ [.writeFails]) = some s' ∧
      s'.created = s.created ++ created ∧ created.length = creates.length ∧ s'.persist = .idle ∧
      s'.db = s.db ∧ s'.store.latestPersistedId = s.store.latestPersistedId ∧
      ∃ added, added.Sublist created ∧
        s'.store.pendingMessages = s.store.pendingMessages ++ added := by
  induction creates with
  | nil =>
    intro s batch hbatch
    refine ⟨{ s with persist := .idle }, [], ?_, by simp, rfl, rfl, rfl, rfl, [], .slnil, by simp⟩
    simp [Lts.exec, Lts.anyStep, failingLifetime, failingStep, writeFails, hbatch]
  | cons a creates ih =>
    intro s batch hbatch
    set s₁ : Lifetime := { s with
      store := s.store.createMessage a.channelId a.userId a.content
      created := s.created ++ [s.store.nextMessage a.channelId a.userId a.content] } with hs₁
    obtain ⟨s', created, hexec, hcreated, hlength, hidle, hdb, hlatest, added, hadded, hpending⟩ :=
      ih (s := s₁) hbatch
    refine ⟨s', s.store.nextMessage a.channelId a.userId a.content :: created, ?_, ?_, ?_, hidle,
      hdb, ?_, ?_⟩
    · rw [List.map_cons, List.cons_append, Lts.exec_cons_anyStep]
      exact hexec
    · rw [hcreated, hs₁, List.append_assoc, List.singleton_append]
    · simp [hlength]
    · rw [hlatest, hs₁]
      exact MessageStore.latestPersistedId_createMessage _ _ _ _
    · -- The message that was created first is pending, unless its id counts as persisted.
      refine ⟨[s.store.nextMessage a.channelId a.userId a.content].filter
        (fun m => !s.store.alreadyPersisted m.id) ++ added, ?_, ?_⟩
      · have hfirst : ([s.store.nextMessage a.channelId a.userId a.content].filter
            (fun m => !s.store.alreadyPersisted m.id)).Sublist
            [s.store.nextMessage a.channelId a.userId a.content] := List.filter_sublist
        exact hfirst.append hadded
      · rw [hpending, hs₁, MessageStore.pendingMessages_createMessage, List.append_assoc]

/-- What a failed call of `Persist` leaves behind. -/
theorem exec_failedPersist {s : Lifetime} (hidle : s.persist = .idle)
    (hpending : s.store.pendingMessages ≠ []) (creates : List MessageArguments) :
    ∃ s' created, failingLifetime.exec Lts.anyStep s (failedPersist creates) = some s' ∧
      s'.created = s.created ++ created ∧ created.length = creates.length ∧ s'.persist = .idle ∧
      s'.db = s.db ∧ s'.store.latestPersistedId = s.store.latestPersistedId ∧
      s'.store.pendingMessages.Sublist created := by
  set s₁ : Lifetime := { s with
    store := { s.store with pendingMessages := [] }
    persist := .swapped s.store.pendingMessages
    batches := s.batches ++ [s.store.pendingMessages] } with hs₁
  have hswap : s.failingStep (.op .persist) = some s₁ := by
    simp [failingStep, step, persistStep, hidle, hpending, hs₁]
  obtain ⟨s', created, hexec, hcreated, hlength, hidle', hdb, hlatest, added, hadded, hpending'⟩ :=
    exec_creates creates (s := s₁) rfl
  refine ⟨s', created, ?_, hcreated, hlength, hidle', hdb, hlatest, ?_⟩
  · rw [failedPersist, Lts.exec_cons_anyStep]
    simp only [failingLifetime, hswap, Option.bind_some]
    exact hexec
  · rw [hpending', hs₁]
    simpa using hadded

/-- A failed flush always loses: from every state with pending messages and with every list of
messages created meanwhile, the call of `Persist` that throws leaves at most the created ones
pending, so the messages that were pending before it are gone. -/
theorem failed_persist_loses_batch {s : Lifetime} (hidle : s.persist = .idle)
    (hpending : s.store.pendingMessages ≠ []) (creates : List MessageArguments) :
    ∃ s' created, failingLifetime.exec Lts.anyStep s (failedPersist creates) = some s' ∧
      s'.created = s.created ++ created ∧ s'.persist = .idle ∧ s'.db = s.db ∧
      s'.store.pendingMessages.Sublist created ∧ ¬ s.LosesNothing created s' := by
  obtain ⟨s', created, hexec, hcreated, -, hidle', hdb, -, hsublist⟩ :=
    exec_failedPersist hidle hpending creates
  refine ⟨s', created, hexec, hcreated, hidle', hdb, hsublist, fun hloses => ?_⟩
  have hkept := hloses.kept.length_le
  have hcount := hsublist.length_le
  have hpos := List.length_pos_iff.mpr hpending
  rw [List.length_append] at hkept
  omega

/-- A reachable state with one pending message, and a failed flush from there. -/
theorem failed_persist_loses_batch_run : ∃ s, failingLifetime.Reachable Lts.anyStep s ∧
    s.store.pendingMessages = [⟨0, 1, 1, "a"⟩] ∧
    ∃ s' created, failingLifetime.exec Lts.anyStep s (failedPersist [⟨1, 2, "b"⟩]) = some s' ∧
      ¬ s.LosesNothing created s' := by
  have hstart : failingLifetime.Reachable Lts.anyStep (begin Database.empty) :=
    .start ⟨Database.empty, rfl⟩
  obtain ⟨s, hs, hidle, hpending⟩ := hstart.exists_of_exec
    [.op (.createMessage 1 1 "a")]
    (fun s => s.persist = .idle ∧ s.store.pendingMessages = [⟨0, 1, 1, "a"⟩]) (by decide)
  obtain ⟨s', created, hexec, -, -, -, -, hloses⟩ :=
    failed_persist_loses_batch hidle (by simp [hpending]) [⟨1, 2, "b"⟩]
  exact ⟨s, hs, hpending, s', created, hexec, hloses⟩

/-- A message is pending, the flush fails, and the next flush has nothing to write: the message
is neither pending nor stored. -/
theorem flush_fails_message_lost : ∃ s s', failingLifetime.Reachable Lts.anyStep s ∧
    s.persist = .idle ∧ s.store.pendingMessages = [⟨0, 1, 1, "a"⟩] ∧
    failingLifetime.exec Lts.anyStep s (failedPersist [] ++ [.op .persist]) = some s' ∧
    s'.store.pendingMessages = [] ∧ s'.db.messages.rows = [] := by
  have hstart : failingLifetime.Reachable Lts.anyStep (begin Database.empty) :=
    .start ⟨Database.empty, rfl⟩
  obtain ⟨s, hs, hidle, hpending, hrun⟩ := hstart.exists_of_exec
    [.op (.createMessage 1 1 "a")]
    (fun s => s.persist = .idle ∧ s.store.pendingMessages = [⟨0, 1, 1, "a"⟩] ∧
      (failingLifetime.exec Lts.anyStep s (failedPersist [] ++ [.op .persist])).any
        (fun s' => s'.store.pendingMessages = [] ∧ s'.db.messages.rows = []) = true) (by decide)
  obtain ⟨s', hexec, hend⟩ := (Option.any_eq_true _ _).mp hrun
  obtain ⟨hpending', hrows⟩ := of_decide_eq_true hend
  exact ⟨s, s', hs, hidle, hpending, hexec, hpending', hrows⟩

end Lifetime

end ChatCore.Server
