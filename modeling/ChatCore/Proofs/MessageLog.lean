import ChatCore.Lib.History
import ChatCore.Proofs.MessageStore

/-!
# `ChatCore.Proofs.MessageLog`: the ids of a channel log over every history of calls

`channel_message_ids_` of `ChatChannelMessageLog` is declared sorted and free of duplicates.
Two member functions write it, `AppendMessageId` and `AssignMessageIds`, and `LogCall` is a
call of one of them with any id or any list of ids.

`mem_call` is the step: a call keeps the vector strictly ascending and adds to its ids the
list that is assigned, or the id that is appended when it is above every id then stored.
`mem_calls` folds it over a history from the empty log. What a batch of assigned lists makes
of the log depends on the ids in the batch only (`calls_assign_congr`), because two strictly
ascending vectors with the same ids are equal.
-/

set_option autoImplicit false

namespace ChatCore.Server

open ChatCore.Lib

/-- A call that writes `channel_message_ids_`. -/
inductive LogCall where
  | appendMessageId (messageId : Nat)
  | assignMessageIds (messageIds : List Nat)

namespace ChannelMessageLog

/-- The log after one call. -/
def call (log : ChannelMessageLog) : LogCall → ChannelMessageLog
  | .appendMessageId messageId => log.appendMessageId messageId
  | .assignMessageIds messageIds => log.assignMessageIds messageIds

/-- The log after a history of calls, the first call first. -/
def calls (log : ChannelMessageLog) (history : List LogCall) : ChannelMessageLog :=
  history.foldl call log

/-- No calls change nothing. -/
@[simp] theorem calls_nil (log : ChannelMessageLog) : log.calls [] = log := rfl

/-- The calls of two lists one after the other. -/
@[simp] theorem calls_append (log : ChannelMessageLog) (before after : List LogCall) :
    log.calls (before ++ after) = (log.calls before).calls after := by
  simp [calls]

/-- The ids that one call adds to `log`. -/
def Adds (log : ChannelMessageLog) (id : Nat) : LogCall → Prop
  | .appendMessageId messageId =>
    id = messageId ∧ ∀ stored ∈ log.channelMessageIds, stored < messageId
  | .assignMessageIds messageIds => id ∈ messageIds

/-- In a strictly ascending vector the last id is the greatest one, so the test of
`AppendMessageId` against `back()` is a test against every id. -/
theorem appendMessageId_of_le {log : ChannelMessageLog} (h : log.channelMessageIds.SortedLT)
    {id stored : Nat} (hmem : stored ∈ log.channelMessageIds) (hle : id ≤ stored) :
    log.appendMessageId id = log := by
  unfold appendMessageId
  have hne : log.channelMessageIds ≠ [] := List.ne_nil_of_mem hmem
  have hlast : stored ≤ log.channelMessageIds.getLast hne :=
    h.sortedLE.pairwise.rel_getLast hmem
  rw [List.getLast?_eq_getLast_of_ne_nil hne]
  simp [Nat.le_trans hle hlast]

/-- The invariant and the ids of `AppendMessageId`. -/
theorem mem_appendMessageId {log : ChannelMessageLog} (h : log.channelMessageIds.SortedLT)
    (messageId : Nat) :
    (log.appendMessageId messageId).channelMessageIds.SortedLT ∧
      ∀ id, id ∈ (log.appendMessageId messageId).channelMessageIds ↔
        id ∈ log.channelMessageIds ∨ log.Adds id (.appendMessageId messageId) := by
  by_cases habove : ∀ stored ∈ log.channelMessageIds, stored < messageId
  · rw [appendMessageId_of_forall_lt habove]
    refine ⟨sortedLT_append_singleton h habove, fun id => ?_⟩
    simp only [List.mem_append, List.mem_singleton, Adds]
    tauto
  · have hnot := habove
    push Not at hnot
    obtain ⟨stored, hmem, hle⟩ := hnot
    rw [appendMessageId_of_le h hmem hle]
    refine ⟨h, fun id => ?_⟩
    simp only [Adds]
    tauto

/-- The invariant and the ids of `AssignMessageIds`. -/
theorem mem_assignMessageIds {log : ChannelMessageLog} (h : log.channelMessageIds.SortedLT)
    (messageIds : List Nat) :
    (log.assignMessageIds messageIds).channelMessageIds.SortedLT ∧
      ∀ id, id ∈ (log.assignMessageIds messageIds).channelMessageIds ↔
        id ∈ log.channelMessageIds ∨ id ∈ messageIds := by
  rw [channelMessageIds_assignMessageIds h]
  exact ⟨sortedLT_mergeUnique h messageIds, mem_mergeUnique h messageIds⟩

/-- One call keeps the vector strictly ascending and adds what `Adds` says. -/
theorem mem_call {log : ChannelMessageLog} (h : log.channelMessageIds.SortedLT) (c : LogCall) :
    (log.call c).channelMessageIds.SortedLT ∧
      ∀ id, id ∈ (log.call c).channelMessageIds ↔ id ∈ log.channelMessageIds ∨ log.Adds id c := by
  cases c with
  | appendMessageId messageId => exact mem_appendMessageId h messageId
  | assignMessageIds messageIds => exact mem_assignMessageIds h messageIds

/-- A history of calls keeps the vector strictly ascending and adds what each of its calls
adds to the log of that moment. -/
theorem mem_calls {log : ChannelMessageLog} (h : log.channelMessageIds.SortedLT)
    (history : List LogCall) :
    (log.calls history).channelMessageIds.SortedLT ∧
      ∀ id, id ∈ (log.calls history).channelMessageIds ↔ id ∈ log.channelMessageIds ∨
        ∃ before c after, history = before ++ c :: after ∧ (log.calls before).Adds id c := by
  induction history using List.reverseRecOn with
  | nil => exact ⟨h, by simp⟩
  | append_singleton history last ih =>
    obtain ⟨hsorted, hmem⟩ := ih
    obtain ⟨hsorted', hmem'⟩ := mem_call hsorted last
    have hcalls : log.calls (history ++ [last]) = (log.calls history).call last := by
      simp [calls]
    rw [hcalls]
    refine ⟨hsorted', fun id => ?_⟩
    rw [hmem', hmem, or_assoc]
    refine or_congr_right ⟨?_, ?_⟩
    · rintro (⟨before, c, after, rfl, hadds⟩ | hadds)
      · exact ⟨before, c, after ++ [last], by simp, hadds⟩
      · exact ⟨history, last, [], rfl, hadds⟩
    · rintro ⟨before, c, after, heq, hadds⟩
      -- The call that adds `id` is the last one, or one of the calls before it.
      rcases split_snoc heq with ⟨-, rfl, rfl⟩ | ⟨after', -, rfl⟩
      · exact .inr hadds
      · exact .inl ⟨before, c, after', rfl, hadds⟩

/-- The calls that assign a batch of lists, one call for each. -/
def assignCalls (batch : List (List Nat)) : List LogCall := batch.map .assignMessageIds

/-- The ids after a batch of assigned lists: those of the log and those of the batch. -/
theorem mem_calls_assignCalls {log : ChannelMessageLog} (h : log.channelMessageIds.SortedLT)
    (batch : List (List Nat)) :
    (log.calls (assignCalls batch)).channelMessageIds.SortedLT ∧
      ∀ id, id ∈ (log.calls (assignCalls batch)).channelMessageIds ↔
        id ∈ log.channelMessageIds ∨ id ∈ batch.flatten := by
  induction batch generalizing log with
  | nil => exact ⟨h, by simp [assignCalls]⟩
  | cons ids batch ih =>
    obtain ⟨hsorted, hmem⟩ := mem_assignMessageIds h ids
    obtain ⟨hsorted', hmem'⟩ := ih hsorted
    refine ⟨hsorted', fun id => (hmem' id).trans ?_⟩
    rw [hmem, List.flatten_cons, List.mem_append, or_assoc]

/-- `AssignMessageIds` does not make the cache complete. -/
@[simp] theorem cacheComplete_calls_assignCalls (log : ChannelMessageLog)
    (batch : List (List Nat)) :
    (log.calls (assignCalls batch)).cacheComplete = log.cacheComplete := by
  induction batch generalizing log with
  | nil => rfl
  | cons ids batch ih => exact (ih _).trans (cacheComplete_assignMessageIds log ids)

/-- Two batches with the same ids make the same log. -/
theorem calls_assign_congr {log : ChannelMessageLog} (h : log.channelMessageIds.SortedLT)
    {batch batch' : List (List Nat)} (hids : ∀ id, id ∈ batch.flatten ↔ id ∈ batch'.flatten) :
    log.calls (assignCalls batch) = log.calls (assignCalls batch') := by
  obtain ⟨hsorted, hmem⟩ := mem_calls_assignCalls h batch
  obtain ⟨hsorted', hmem'⟩ := mem_calls_assignCalls h batch'
  have hvector : (log.calls (assignCalls batch)).channelMessageIds
      = (log.calls (assignCalls batch')).channelMessageIds := by
    refine hsorted.eq_of_mem_iff hsorted' fun id => ?_
    rw [hmem, hmem', hids]
  have hcomplete : (log.calls (assignCalls batch)).cacheComplete
      = (log.calls (assignCalls batch')).cacheComplete := by simp
  cases hlog : log.calls (assignCalls batch)
  cases hlog' : log.calls (assignCalls batch')
  simp only [hlog, hlog'] at hvector hcomplete
  rw [hvector, hcomplete]

/-- An empty log is ascending. -/
theorem sortedLT_empty : (({} : ChannelMessageLog).channelMessageIds).SortedLT := by
  simp [List.sortedLT_iff_pairwise]

/-- After every history of calls from the empty log, `channel_message_ids_` is strictly
ascending, and its ids are those of the assigned lists and the appended ids that were above
every id then stored. From there a batch of assigned lists and any other batch with the same
ids, such as a permutation or another splitting of it, leave the same log. -/
theorem channelMessageIds_history (history : List LogCall) :
    (({} : ChannelMessageLog).calls history).channelMessageIds.SortedLT ∧
    (∀ id, id ∈ (({} : ChannelMessageLog).calls history).channelMessageIds ↔
      (∃ messageIds, .assignMessageIds messageIds ∈ history ∧ id ∈ messageIds) ∨
      ∃ before after, history = before ++ .appendMessageId id :: after ∧
        ∀ stored ∈ (({} : ChannelMessageLog).calls before).channelMessageIds, stored < id) ∧
    ∀ batch batch' : List (List Nat), (∀ id, id ∈ batch.flatten ↔ id ∈ batch'.flatten) →
      ({} : ChannelMessageLog).calls (history ++ assignCalls batch)
        = ({} : ChannelMessageLog).calls (history ++ assignCalls batch') := by
  obtain ⟨hsorted, hmem⟩ := mem_calls sortedLT_empty history
  refine ⟨hsorted, fun id => ?_, fun batch batch' hids => ?_⟩
  · rw [hmem]
    constructor
    · rintro (hnil | ⟨before, c, after, rfl, hadds⟩)
      · cases hnil
      · cases c with
        | appendMessageId messageId =>
          obtain ⟨rfl, habove⟩ := hadds
          exact .inr ⟨before, after, rfl, habove⟩
        | assignMessageIds messageIds => exact .inl ⟨messageIds, by simp, hadds⟩
    · rintro (⟨messageIds, hcall, hid⟩ | ⟨before, after, rfl, habove⟩)
      · obtain ⟨before, after, rfl⟩ := List.append_of_mem hcall
        exact .inr ⟨before, _, after, rfl, hid⟩
      · exact .inr ⟨before, _, after, rfl, rfl, habove⟩
  · rw [calls_append, calls_append]
    exact calls_assign_congr hsorted hids

/-- A batch in two splittings, after an id was appended and one was refused. -/
theorem channelMessageIds_two_splittings :
    ({} : ChannelMessageLog).calls
        ([.appendMessageId 5, .appendMessageId 4] ++ assignCalls [[7, 2], [2, 9]])
      = ({} : ChannelMessageLog).calls
        ([.appendMessageId 5, .appendMessageId 4] ++ assignCalls [[9], [2], [7]]) :=
  (channelMessageIds_history [.appendMessageId 5, .appendMessageId 4]).2.2 _ _ (by
    intro id
    simp
    tauto)

/-- The list of `AssignMessageIdsUniqueSorted`. -/
example : (({} : ChannelMessageLog).calls
      [.assignMessageIds [4, 5, 2, 3, 3, 1, 2, 4, 4, 4, 77, 123]]).channelMessageIds
    = [1, 2, 3, 4, 5, 77, 123] := by decide

end ChannelMessageLog

end ChatCore.Server
