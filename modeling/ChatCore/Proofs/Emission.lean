import ChatCore.Lib.History
import ChatCore.Utility.Signal

/-!
# `ChatCore.Proofs.Emission`: what one `Emit` calls, whatever its slots do

The slots that `Emit` calls may change the slots of the signal and emit again. The statements
here are about the history of a run. `Subscribed h id slot` says that the history `h` leaves
`slot` subscribed under `id`. An emission has its start in the history, and `EmissionSpec`
says what stands after the start:

* each invocation carries the emitted arguments and is of a slot that was subscribed at the
  start, was not unsubscribed since and was not invoked before by this emission;
* when the emission has finished, each slot that was subscribed at the start was invoked, or
  its turn came after it had been unsubscribed.

The invariant (`Emitter.Consistent`) ties the history to the state. The slots are those that the
history leaves subscribed, an id is subscribed once only since `id_counter_` grows, and for
each emission the ids whose turn came together with the ids that its buffer still holds are
the ids subscribed at its start (`Progress`). `emit_safe` reads the result off the invariant.
`returns` adds that an `Emit` whose slots return comes to its end.
-/

set_option autoImplicit false

namespace ChatCore.Utility

open ChatCore.Lib

variable {Slot Arguments : Type}

/-- `h` leaves `slot` subscribed under `id`. -/
def Subscribed (h : List (Event Slot Arguments)) (id : Int) (slot : Slot) : Prop :=
  ∃ before after, h = before ++ .subscribed id slot :: after ∧ .unsubscribed id ∉ after

namespace Subscribed

variable {h t : List (Event Slot Arguments)} {id : Int} {slot : Slot}

/-- A subscribed slot was subscribed before. -/
theorem mem (hs : Subscribed h id slot) : .subscribed id slot ∈ h := by
  obtain ⟨before, after, rfl, -⟩ := hs
  simp

/-- A subscription stays until the id is unsubscribed. -/
theorem append (hs : Subscribed h id slot) (ht : .unsubscribed id ∉ t) :
    Subscribed (h ++ t) id slot := by
  obtain ⟨before, after, rfl, hafter⟩ := hs
  refine ⟨before, after ++ t, by simp, ?_⟩
  simp only [List.mem_append, not_or]
  exact ⟨hafter, ht⟩

/-- A subscription that does not stem from `t` was there before `t`, and `t` kept it. -/
theorem of_append (hs : Subscribed (h ++ t) id slot) (ht : ∀ slot', .subscribed id slot' ∉ t) :
    Subscribed h id slot ∧ .unsubscribed id ∉ t := by
  obtain ⟨before, after, heq, hafter⟩ := hs
  rcases List.append_eq_append_iff.mp heq with ⟨mid, -, rfl⟩ | ⟨mid, rfl, htail⟩
  · exact absurd (by simp) (ht slot)
  · cases mid with
    | nil =>
      rw [List.nil_append] at htail
      exact absurd (by simp [← htail]) (ht slot)
    | cons e mid =>
      obtain ⟨rfl, rfl⟩ : Event.subscribed id slot = e ∧ after = mid ++ t := by
        simpa using htail
      simp only [List.mem_append, not_or] at hafter
      exact ⟨⟨before, mid, rfl, hafter.1⟩, hafter.2⟩

/-- An event that neither subscribes nor unsubscribes `id`. -/
theorem snoc_iff {e : Event Slot Arguments} (hsub : ∀ slot', e ≠ .subscribed id slot')
    (hunsub : e ≠ .unsubscribed id) : Subscribed (h ++ [e]) id slot ↔ Subscribed h id slot := by
  constructor
  · intro hs
    exact (hs.of_append fun slot' hmem => hsub slot' (List.mem_singleton.mp hmem).symm).1
  · intro hs
    exact hs.append fun hmem => hunsub (List.mem_singleton.mp hmem).symm

/-- A fresh id is subscribed with the slot that was given. -/
theorem snoc_subscribed_iff (hfresh : ∀ slot', .subscribed id slot' ∉ h) {slot' : Slot} :
    Subscribed (h ++ [.subscribed id slot']) id slot ↔ slot' = slot := by
  constructor
  · rintro ⟨before, after, heq, -⟩
    rcases split_snoc heq with ⟨-, -, he⟩ | ⟨after', -, rfl⟩
    · cases he
      rfl
    · exact absurd (by simp) (hfresh slot)
  · rintro rfl
    exact ⟨h, [], rfl, by simp⟩

/-- An unsubscribed slot is not subscribed. -/
theorem not_snoc_unsubscribed : ¬ Subscribed (h ++ [.unsubscribed id]) id slot := by
  rintro ⟨before, after, heq, hafter⟩
  rcases split_snoc heq with ⟨-, -, he⟩ | ⟨after', rfl, -⟩
  · cases he
  · simp at hafter

end Subscribed

/-- The emission that an event is of. -/
def Event.emission? : Event Slot Arguments → Option Nat
  | .subscribed _ _ => none
  | .unsubscribed _ => none
  | .started n _ => some n
  | .invoked n _ _ _ => some n
  | .skipped n _ => some n
  | .finished n => some n

/-- The id whose turn came in the emission `n` with this event. -/
def Event.turn? (n : Nat) : Event Slot Arguments → Option Int
  | .invoked m id _ _ => if m = n then some id else none
  | .skipped m id => if m = n then some id else none
  | _ => none

/-- An event of another emission is no turn of this one. -/
theorem Event.turn?_eq_none {e : Event Slot Arguments} {n : Nat} (h : e.emission? ≠ some n) :
    e.turn? n = none := by
  cases e <;> simp_all [emission?, turn?]

/-- The ids whose turn came in the emission `n`, in this order. -/
def turns (n : Nat) (h : List (Event Slot Arguments)) : List Int := h.filterMap (Event.turn? n)

/-- The turns of two histories one after the other. -/
@[simp] theorem turns_append (n : Nat) (h t : List (Event Slot Arguments)) :
    turns n (h ++ t) = turns n h ++ turns n t := by
  simp [turns]

/-- An event of another emission adds no turn. -/
theorem turns_singleton_of_ne {e : Event Slot Arguments} {n : Nat} (h : e.emission? ≠ some n) :
    turns n [e] = [] := by
  simp [turns, Event.turn?_eq_none h]

/-- What stands after the start of the emission `n` with the arguments `arguments`, when
`before` is the history up to the start and `left` are the ids its buffer still holds. -/
structure Progress (before : List (Event Slot Arguments)) (n : Nat) (arguments : Arguments)
    (during : List (Event Slot Arguments)) (left : List Int) : Prop where
  earlier : ∀ e ∈ before, e.emission? ≠ some n
  nodup : (turns n during ++ left).Nodup
  mem : ∀ id, id ∈ turns n during ++ left ↔ ∃ slot, Subscribed before id slot
  invoked : ∀ mid id slot arguments' rest, during = mid ++ .invoked n id slot arguments' :: rest →
    arguments' = arguments ∧ Subscribed before id slot ∧ .unsubscribed id ∉ mid
  skipped : ∀ mid id rest, during = mid ++ .skipped n id :: rest → .unsubscribed id ∈ mid
  finished : .finished n ∈ during → left = []

namespace Progress

variable {before during : List (Event Slot Arguments)} {n : Nat} {arguments : Arguments}
  {left : List Int}

/-- An event of the emission `n` at the end of what stands after its start. The turns and the
ids left are given by the event, and so is what an invocation or a skip asks for. -/
theorem snoc (h : Progress before n arguments during left) {e : Event Slot Arguments}
    {left' : List Int} (hturns : turns n [e] ++ left' = left)
    (hinvoked : ∀ id slot arguments', e = .invoked n id slot arguments' →
      arguments' = arguments ∧ Subscribed before id slot ∧ .unsubscribed id ∉ during)
    (hskipped : ∀ id, e = .skipped n id → .unsubscribed id ∈ during)
    (hfinished : .finished n ∈ during ++ [e] → left' = []) :
    Progress before n arguments (during ++ [e]) left' where
  earlier := h.earlier
  nodup := by
    rw [turns_append, List.append_assoc, hturns]
    exact h.nodup
  mem id := by
    rw [turns_append, List.append_assoc, hturns]
    exact h.mem id
  invoked mid id slot arguments' rest heq := by
    rcases split_snoc heq with ⟨-, rfl, he⟩ | ⟨rest', -, heq'⟩
    · exact hinvoked id slot arguments' he.symm
    · exact h.invoked mid id slot arguments' rest' heq'
  skipped mid id rest heq := by
    rcases split_snoc heq with ⟨-, rfl, he⟩ | ⟨rest', -, heq'⟩
    · exact hskipped id he.symm
    · exact h.skipped mid id rest' heq'
  finished := hfinished

/-- An event that is not of the emission leaves its progress as it is. -/
theorem snoc_of_ne (h : Progress before n arguments during left) {e : Event Slot Arguments}
    (he : e.emission? ≠ some n) : Progress before n arguments (during ++ [e]) left := by
  refine h.snoc (by rw [turns_singleton_of_ne he, List.nil_append]) ?_ ?_ ?_
  · rintro id slot arguments' rfl
    exact absurd rfl he
  · rintro id rfl
    exact absurd rfl he
  · intro hmem
    rcases List.mem_append.mp hmem with hmem | hmem
    · exact h.finished hmem
    · rw [List.mem_singleton] at hmem
      subst hmem
      exact absurd rfl he

end Progress

/-- An event of an emission leaves every subscription as it is. -/
theorem Subscribed.snoc_emission_iff {h : List (Event Slot Arguments)} {id : Int} {slot : Slot}
    {e : Event Slot Arguments} {n : Nat} (he : e.emission? = some n) :
    Subscribed (h ++ [e]) id slot ↔ Subscribed h id slot := by
  refine snoc_iff ?_ ?_
  · rintro slot' rfl
    cases he
  · rintro rfl
    cases he

namespace Emitter

/-- The history against the state. -/
structure Consistent (s : Emitter Slot Arguments) : Prop where
  table : ∀ id slot, s.state.slots.lookup id = some slot ↔ Subscribed s.history id slot
  drawn : ∀ id slot, .subscribed id slot ∈ s.history → id < s.idCounter
  once : ∀ before id slot after, s.history = before ++ .subscribed id slot :: after →
    ∀ slot', .subscribed id slot' ∉ after
  called : ∀ before n id slot arguments after,
    s.history = before ++ .invoked n id slot arguments :: after → Subscribed before id slot
  numbered : ∀ e ∈ s.history, ∀ n, e.emission? = some n → n < s.emissionCount
  running : ∀ e ∈ s.emissions, e.number < s.emissionCount
  distinct : (s.emissions.map Emission.number).Nodup
  progress : ∀ before n arguments during,
    s.history = before ++ .started n arguments :: during →
    ∃ left, Progress before n arguments during left ∧
      ∀ e ∈ s.emissions, e.number = n → e.arguments = arguments ∧ e.buffer = left

/-- The invariant holds at the start. -/
theorem consistent_start : Consistent ({} : Emitter Slot Arguments) where
  table id slot := by
    simp [Subscribed]
  drawn id slot h := by cases h
  once before id slot after h := by simp at h
  called before n id slot arguments after h := by simp at h
  numbered e he := by cases he
  running e he := by cases he
  distinct := List.nodup_nil
  progress before n arguments during h := by simp at h

variable {s : Emitter Slot Arguments}

namespace Consistent

/-- The id that `Subscribe` draws was not used. -/
theorem fresh (h : s.Consistent) (slot : Slot) : .subscribed s.idCounter slot ∉ s.history := by
  intro hmem
  have hlt := h.drawn _ _ hmem
  omega

/-- The start of the next emission was not recorded. -/
theorem emission?_ne (h : s.Consistent) {e : Event Slot Arguments} (he : e ∈ s.history) :
    e.emission? ≠ some s.emissionCount := by
  intro hn
  have hlt := h.numbered e he _ hn
  omega

/-- An event outside the emissions leaves their progress as it is. -/
theorem progress_snoc (h : s.Consistent) {e : Event Slot Arguments} (he : e.emission? = none)
    {before during : List (Event Slot Arguments)} {n : Nat} {arguments : Arguments}
    (heq : s.history ++ [e] = before ++ .started n arguments :: during) :
    ∃ left, Progress before n arguments during left ∧
      ∀ e ∈ s.emissions, e.number = n → e.arguments = arguments ∧ e.buffer = left := by
  rcases split_snoc heq with ⟨-, -, rfl⟩ | ⟨during', rfl, heq'⟩
  · cases he
  · obtain ⟨left, hprogress, hrunning⟩ := h.progress before n arguments during' heq'
    exact ⟨left, hprogress.snoc_of_ne (by simp [he]), hrunning⟩

/-- A new event carries the number of an emission that has begun. -/
theorem numbered_snoc (h : s.Consistent) {e : Event Slot Arguments} {count : Nat}
    (hcount : s.emissionCount ≤ count) (he : ∀ n, e.emission? = some n → n < count) :
    ∀ e' ∈ s.history ++ [e], ∀ n, e'.emission? = some n → n < count := by
  intro e' hmem n hn
  rcases List.mem_append.mp hmem with hmem | hmem
  · exact lt_of_lt_of_le (h.numbered e' hmem n hn) hcount
  · rw [List.mem_singleton] at hmem
    subst hmem
    exact he n hn

/-- A new event does not use an id a second time. -/
theorem once_snoc (h : s.Consistent) {e : Event Slot Arguments}
    (he : ∀ id slot, e = .subscribed id slot → id = s.idCounter) :
    ∀ before id slot after, s.history ++ [e] = before ++ .subscribed id slot :: after →
      ∀ slot', .subscribed id slot' ∉ after := by
  intro before id slot after heq slot' hmem
  rcases split_snoc heq with ⟨rfl, -, -⟩ | ⟨after', rfl, heq'⟩
  · cases hmem
  · rcases List.mem_append.mp hmem with hmem | hmem
    · exact h.once before id slot after' heq' slot' hmem
    · have hid := he id slot' (List.mem_singleton.mp hmem).symm
      subst hid
      exact h.fresh slot (by simp [heq'])

/-- A new call is one of a slot that is subscribed. -/
theorem called_snoc (h : s.Consistent) {e : Event Slot Arguments}
    (he : ∀ n id slot arguments, e = .invoked n id slot arguments → Subscribed s.history id slot) :
    ∀ before n id slot arguments after,
      s.history ++ [e] = before ++ .invoked n id slot arguments :: after →
      Subscribed before id slot := by
  intro before n id slot arguments after heq
  rcases split_snoc heq with ⟨-, rfl, hlast⟩ | ⟨after', -, heq'⟩
  · exact he n id slot arguments hlast.symm
  · exact h.called before n id slot arguments after' heq'

/-- A new event that is no subscription uses no id. -/
theorem drawn_snoc (h : s.Consistent) {e : Event Slot Arguments}
    (he : ∀ id slot, e ≠ .subscribed id slot) :
    ∀ id slot, .subscribed id slot ∈ s.history ++ [e] → id < s.idCounter := by
  intro id slot hmem
  rcases List.mem_append.mp hmem with hmem | hmem
  · exact h.drawn id slot hmem
  · exact absurd (List.mem_singleton.mp hmem).symm (he id slot)

/-- `Subscribe` keeps the invariant. -/
theorem subscribe (h : s.Consistent) {slot : Slot} {s' : Emitter Slot Arguments}
    (hs : s.subscribe slot = some s') : s'.Consistent := by
  simp only [Emitter.subscribe, SignalState.subscribe, Option.map_eq_some_iff] at hs
  obtain ⟨⟨state, idCounter⟩, hsub, rfl⟩ := hs
  split at hsub
  · cases hsub
    refine ⟨fun id slot' => ?_, fun id slot' hmem => ?_, h.once_snoc ?_,
      h.called_snoc (by rintro n id slot arguments ⟨⟩), h.numbered_snoc le_rfl ?_, h.running,
      h.distinct, fun before n arguments during heq => h.progress_snoc rfl heq⟩
    · by_cases hid : id = s.idCounter
      -- The id is new, so the slot under it is the one that was just added.
      · subst hid
        rw [AList.lookup_insert, Subscribed.snoc_subscribed_iff h.fresh, Option.some.injEq]
      · rw [AList.lookup_insert_ne hid, h.table, Subscribed.snoc_iff]
        · rintro slot'' heq
          cases heq
          exact hid rfl
        · rintro ⟨⟩
    · show id < s.idCounter + 1
      rcases List.mem_append.mp hmem with hmem | hmem
      · have hlt := h.drawn id slot' hmem
        omega
      · cases List.mem_singleton.mp hmem
        omega
    · rintro id slot' ⟨⟩
      rfl
    · rintro n ⟨⟩
  · cases hsub

/-- `Unsubscribe` keeps the invariant. -/
theorem unsubscribe (h : s.Consistent) (id : Int) : (s.unsubscribe id).Consistent := by
  refine ⟨fun id' slot => ?_, h.drawn_snoc (by rintro id' slot ⟨⟩),
    h.once_snoc (by rintro id' slot ⟨⟩), h.called_snoc (by rintro n id' slot arguments ⟨⟩),
    h.numbered_snoc le_rfl (by rintro n ⟨⟩), h.running, h.distinct,
    fun before n arguments during heq => h.progress_snoc rfl heq⟩
  show (s.state.slots.erase id).lookup id' = some slot ↔ _
  by_cases hid : id' = id
  · subst hid
    rw [AList.lookup_erase]
    exact iff_of_false (by simp) Subscribed.not_snoc_unsubscribed
  · rw [AList.lookup_erase_ne hid, h.table]
    refine (Subscribed.snoc_iff (by rintro slot' ⟨⟩) ?_).symm
    rintro ⟨⟩
    exact hid rfl

/-- A new emission: its buffer holds the ids that are subscribed. -/
theorem progress_emit (h : s.Consistent) (arguments : Arguments) {buffer : List Int}
    (hbuffer : buffer.Perm s.state.slots.keys) :
    Progress s.history s.emissionCount arguments [] buffer where
  earlier e he := h.emission?_ne he
  nodup := by
    rw [turns, List.filterMap_nil, List.nil_append]
    exact hbuffer.nodup_iff.mpr s.state.slots.keys_nodup
  mem id := by
    rw [turns, List.filterMap_nil, List.nil_append, hbuffer.mem_iff, ← AList.mem_keys,
      ← AList.lookup_isSome, Option.isSome_iff_exists]
    exact exists_congr fun slot => h.table id slot
  invoked mid id slot arguments' rest heq := by simp at heq
  skipped mid id rest heq := by simp at heq
  finished hmem := by cases hmem

/-- The beginning of `Emit` keeps the invariant. -/
theorem emit (h : s.Consistent) (arguments : Arguments) {buffer : List Int}
    (hbuffer : buffer.Perm s.state.slots.keys) : (s.emit arguments buffer).Consistent := by
  refine ⟨fun id slot => ?_, h.drawn_snoc (by rintro id slot ⟨⟩),
    h.once_snoc (by rintro id slot ⟨⟩), h.called_snoc (by rintro n id slot arguments ⟨⟩),
    h.numbered_snoc (Nat.le_succ _) ?_, ?_, ?_, ?_⟩
  · exact (h.table id slot).trans (Subscribed.snoc_emission_iff rfl).symm
  · rintro n ⟨⟩
    exact Nat.lt_succ_self _
  · intro e he
    rcases List.mem_cons.mp he with rfl | he
    · exact Nat.lt_succ_self _
    · exact Nat.lt_succ_of_lt (h.running e he)
  · refine List.nodup_cons.mpr ⟨fun hmem => ?_, h.distinct⟩
    obtain ⟨e, he, hnumber⟩ := List.mem_map.mp hmem
    exact absurd hnumber (Nat.ne_of_lt (h.running e he))
  · intro before n arguments' during heq
    rcases split_snoc heq with ⟨rfl, rfl, hstart⟩ | ⟨during', rfl, heq'⟩
    -- The start that was just recorded.
    · cases hstart
      refine ⟨buffer, h.progress_emit arguments hbuffer, fun e he hn => ?_⟩
      rcases List.mem_cons.mp he with rfl | he
      · exact ⟨rfl, rfl⟩
      · have hlt := h.running e he
        omega
    -- The start of an earlier emission.
    · obtain ⟨left, hprogress, hrunning⟩ := h.progress before n arguments' during' heq'
      have hlt : n < s.emissionCount :=
        h.numbered (.started n arguments') (by simp [heq']) n rfl
      have hne : (Event.started s.emissionCount arguments : Event Slot Arguments).emission?
          ≠ some n := by
        intro hsome
        cases hsome
        omega
      refine ⟨left, hprogress.snoc_of_ne hne, fun e he hn => ?_⟩
      rcases List.mem_cons.mp he with rfl | he
      · exact absurd hn (Nat.ne_of_gt hlt)
      · exact hrunning e he hn

/-- The innermost emission `e` makes one event `ev` of its own. It stays with `left` in its
buffer, or it is gone. The other emissions keep their progress. -/
theorem event (h : s.Consistent) {e : Emission Arguments}
    {outer emissions : List (Emission Arguments)}
    (hs : s.emissions = e :: outer) {ev : Event Slot Arguments} (hev : ev.emission? = some e.number)
    (hstarted : ∀ n arguments, ev ≠ .started n arguments)
    (hcalled : ∀ n id slot arguments, ev = .invoked n id slot arguments →
      s.state.slots.lookup id = some slot) (left : List Int)
    (hnumbers : (emissions.map Emission.number).Sublist (s.emissions.map Emission.number))
    (hemissions : ∀ e' ∈ emissions, e' ∈ outer ∨
      e'.number = e.number ∧ e'.arguments = e.arguments ∧ e'.buffer = left)
    (hprogress : ∀ before during,
      s.history = before ++ .started e.number e.arguments :: during →
      Progress before e.number e.arguments during e.buffer →
      Progress before e.number e.arguments (during ++ [ev]) left) :
    Consistent { s with emissions, history := s.history ++ [ev] } := by
  have hsub : ∀ id slot, ev ≠ .subscribed id slot := by
    rintro id slot rfl
    cases hev
  have hlt : e.number < s.emissionCount := h.running e (by simp [hs])
  have houter : ∀ e' ∈ outer, e'.number ≠ e.number := by
    have hd := h.distinct
    rw [hs, List.map_cons, List.nodup_cons] at hd
    intro e' he' heq
    exact hd.1 (heq ▸ List.mem_map_of_mem he')
  refine ⟨fun id slot => ?_, h.drawn_snoc hsub,
    h.once_snoc fun id slot heq => absurd heq (hsub id slot),
    h.called_snoc fun n id slot arguments heq =>
      (h.table id slot).mp (hcalled n id slot arguments heq),
    h.numbered_snoc le_rfl ?_, fun e' he' => ?_, hnumbers.nodup h.distinct, ?_⟩
  · exact (h.table id slot).trans (Subscribed.snoc_emission_iff hev).symm
  · intro n hn
    cases hev.symm.trans hn
    exact hlt
  · rcases hemissions e' he' with houter' | ⟨hn, -⟩
    · exact h.running e' (by simp [hs, houter'])
    · exact hn ▸ hlt
  · intro before n arguments during heq
    rcases split_snoc heq with ⟨-, -, hstart⟩ | ⟨during', rfl, heq'⟩
    · exact absurd hstart.symm (hstarted n arguments)
    obtain ⟨left', hprogress', hrunning⟩ := h.progress before n arguments during' heq'
    by_cases hn : e.number = n
    -- The emission of the event: its buffer becomes `left`.
    · subst hn
      obtain ⟨rfl, rfl⟩ := hrunning e (by simp [hs]) rfl
      refine ⟨left, hprogress before during' heq' hprogress', fun e' he' hn' => ?_⟩
      rcases hemissions e' he' with houter' | ⟨-, hrest⟩
      · exact absurd hn' (houter e' houter')
      · exact hrest
    -- Another emission, which is further out or over.
    · refine ⟨left', hprogress'.snoc_of_ne (by simpa [hev] using hn), fun e' he' hn' => ?_⟩
      rcases hemissions e' he' with houter' | ⟨hnumber, -⟩
      · exact hrunning e' (by simp [hs, houter']) hn'
      · exact absurd (hnumber.symm.trans hn') hn

section Turn
variable {before during : List (Event Slot Arguments)} {n : Nat} {arguments : Arguments}
  {left : List Int} {id : Int}

/-- An id that an emission has in its buffer was subscribed before its start, so it is not
subscribed again after it. -/
theorem not_subscribed_during (h : s.Consistent)
    (heq : s.history = before ++ .started n arguments :: during) {slot : Slot}
    (hbefore : Subscribed before id slot) (slot' : Slot) :
    .subscribed id slot' ∉ Event.started n arguments :: during := by
  obtain ⟨early, late, rfl, -⟩ := hbefore
  have hnot := h.once early id slot (late ++ .started n arguments :: during) (by simp [heq]) slot'
  exact fun hmem => hnot (List.mem_append_right _ hmem)

/-- The slot that is found at the turn of `id` was subscribed at the start and was not
unsubscribed since. -/
theorem found (h : s.Consistent) (heq : s.history = before ++ .started n arguments :: during)
    (hprogress : Progress before n arguments during left) (hid : id ∈ left) {slot : Slot}
    (hlookup : s.state.slots.lookup id = some slot) :
    Subscribed before id slot ∧ .unsubscribed id ∉ during := by
  obtain ⟨slot', hbefore⟩ := (hprogress.mem id).mp (List.mem_append_right _ hid)
  have hsub := (h.table id slot).mp hlookup
  rw [heq] at hsub
  obtain ⟨hslot, hkept⟩ := hsub.of_append (h.not_subscribed_during heq hbefore)
  exact ⟨hslot, fun hmem => hkept (List.mem_cons_of_mem _ hmem)⟩

/-- When no slot is found at the turn of `id`, it was unsubscribed after the start. -/
theorem not_found (h : s.Consistent) (heq : s.history = before ++ .started n arguments :: during)
    (hprogress : Progress before n arguments during left) (hid : id ∈ left)
    (hlookup : s.state.slots.lookup id = none) : .unsubscribed id ∈ during := by
  obtain ⟨slot, hbefore⟩ := (hprogress.mem id).mp (List.mem_append_right _ hid)
  by_contra hkept
  have hsub : Subscribed s.history id slot := by
    rw [heq]
    exact hbefore.append (by simpa using hkept)
  rw [(h.table id slot).mpr hsub] at hlookup
  cases hlookup

end Turn

/-- One round of the loop. -/
theorem round (h : s.Consistent) {e : Emission Arguments} {outer : List (Emission Arguments)}
    (hs : s.emissions = e :: outer) {id : Int} {buffer : List Int}
    (hbuffer : e.buffer = id :: buffer) :
    (s.round e outer id buffer).Consistent := by
  have hid : id ∈ e.buffer := by simp [hbuffer]
  -- The buffer is not empty, so the emission has not finished.
  have hrunning : ∀ {before during : List (Event Slot Arguments)},
      Progress before e.number e.arguments during e.buffer → .finished e.number ∉ during := by
    intro before during hprogress hmem
    cases hbuffer.symm.trans (hprogress.finished hmem)
  have hemissions : ∀ inSlot, ∀ e' ∈ ({ e with buffer, inSlot } : Emission Arguments) :: outer,
      e' ∈ outer ∨ e'.number = e.number ∧ e'.arguments = e.arguments ∧ e'.buffer = buffer := by
    intro inSlot e' he'
    rcases List.mem_cons.mp he' with rfl | he'
    · exact .inr ⟨rfl, rfl, rfl⟩
    · exact .inl he'
  unfold Emitter.round
  split
  -- The id is skipped.
  · rename_i hlookup
    refine h.event hs rfl (by rintro n arguments ⟨⟩) (by rintro n id slot arguments ⟨⟩) buffer
      (by simp [hs]) (hemissions _) ?_
    intro before during heq hprogress
    refine hprogress.snoc (by simp [turns, Event.turn?, hbuffer]) (by rintro id slot arguments ⟨⟩)
      ?_ ?_
    · rintro id' ⟨⟩
      exact h.not_found heq hprogress hid hlookup
    · intro hmem
      exact absurd (by simpa using hmem) (hrunning hprogress)
  -- The slot of the id is called.
  · rename_i slot hlookup
    refine h.event hs rfl (by rintro n arguments ⟨⟩) ?_ buffer (by simp [hs]) (hemissions _) ?_
    · rintro n id' slot' arguments ⟨⟩
      exact hlookup
    intro before during heq hprogress
    refine hprogress.snoc (by simp [turns, Event.turn?, hbuffer]) ?_ (by rintro id ⟨⟩) ?_
    · rintro id' slot' arguments' ⟨⟩
      exact ⟨rfl, h.found heq hprogress hid hlookup⟩
    · intro hmem
      exact absurd (by simpa using hmem) (hrunning hprogress)

/-- The end of `Emit`. -/
theorem finish (h : s.Consistent) {e : Emission Arguments} {outer : List (Emission Arguments)}
    (hs : s.emissions = e :: outer) (hbuffer : e.buffer = []) : (s.finish e outer).Consistent := by
  refine h.event hs rfl (by rintro n arguments ⟨⟩) (by rintro n id slot arguments ⟨⟩) []
    (by simp [hs]) (fun e' he' => .inl he') ?_
  intro before during heq hprogress
  exact hprogress.snoc (by simp [turns, Event.turn?, hbuffer]) (by rintro id slot arguments ⟨⟩)
    (by rintro id ⟨⟩) (fun _ => rfl)

/-- The return of a slot. -/
theorem slotReturns (h : s.Consistent) {e : Emission Arguments} {outer : List (Emission Arguments)}
    (hs : s.emissions = e :: outer) :
    Consistent { s with emissions := { e with inSlot := false } :: outer } := by
  have hmem : ∀ e' ∈ ({ e with inSlot := false } : Emission Arguments) :: outer,
      ∃ e'' ∈ s.emissions, e''.number = e'.number ∧ e''.arguments = e'.arguments ∧
        e''.buffer = e'.buffer := by
    intro e' he'
    rcases List.mem_cons.mp he' with rfl | he'
    · exact ⟨e, by simp [hs], rfl, rfl, rfl⟩
    · exact ⟨e', by simp [hs, he'], rfl, rfl, rfl⟩
  refine ⟨h.table, h.drawn, h.once, h.called, h.numbered, ?_, by simpa [hs] using h.distinct, ?_⟩
  · intro e' he'
    obtain ⟨e'', he'', hn, -⟩ := hmem e' he'
    exact hn ▸ h.running e'' he''
  · intro before n arguments during heq
    obtain ⟨left, hprogress, hrunning⟩ := h.progress before n arguments during heq
    refine ⟨left, hprogress, fun e' he' hn => ?_⟩
    obtain ⟨e'', he'', hnumber, harguments, hbuffer⟩ := hmem e' he'
    rw [← harguments, ← hbuffer]
    exact hrunning e'' he'' (hnumber.trans hn)

/-- Every step keeps the history and the state consistent. -/
theorem step (h : s.Consistent) {a : Action Slot Arguments} {s' : Emitter Slot Arguments}
    (hs : s.step a = some s') : s'.Consistent := by
  cases a with
  | subscribe slot =>
    simp only [Emitter.step] at hs
    split at hs
    · exact h.subscribe hs
    · cases hs
  | subscribeOther =>
    simp only [Emitter.step] at hs
    split at hs
    · cases hs
      refine ⟨h.table, fun id slot hmem => ?_, h.once, h.called, h.numbered, h.running, h.distinct,
        h.progress⟩
      -- Another signal draws the id, so all ids of this one are below it.
      have hlt := h.drawn id slot hmem
      show id < s.idCounter + 1
      omega
    · cases hs
  | unsubscribe id =>
    simp only [Emitter.step] at hs
    split at hs
    · cases hs
      exact h.unsubscribe id
    · cases hs
  | emit arguments buffer =>
    simp only [Emitter.step] at hs
    split at hs
    · rename_i hguard
      cases hs
      exact h.emit arguments hguard.2
    · cases hs
  | next =>
    simp only [Emitter.step] at hs
    split at hs
    · cases hs
    · rename_i e outer hemissions
      split at hs
      · cases hs
      · split at hs
        · rename_i hbuffer
          cases hs
          exact h.finish hemissions hbuffer
        · rename_i id buffer hbuffer
          cases hs
          exact h.round hemissions hbuffer
  | slotReturns =>
    simp only [Emitter.step] at hs
    split at hs
    · cases hs
    · rename_i e outer hemissions
      split at hs
      · cases hs
        exact h.slotReturns hemissions
      · cases hs

end Consistent

/-- The invariant holds in every run. -/
theorem consistent_reachable (h : (emitter Slot Arguments).Reachable Lts.anyStep s) :
    s.Consistent := by
  refine h.invariant ?_ ?_
  · rintro s rfl
    exact consistent_start
  · intro s a s' hs _ hstep
    exact hs.step hstep

/-- Some run of the innermost loop and of returning slots, without any other operation, takes
the emission `e` to its end. -/
def Returns (s : Emitter Slot Arguments) (e : Emission Arguments)
    (outer : List (Emission Arguments)) : Prop :=
  ∃ actions s', (∀ a ∈ actions, a = .next ∨ a = .slotReturns) ∧
    (emitter Slot Arguments).exec Lts.anyStep s actions = some s' ∧ s'.emissions = outer ∧
    .finished e.number ∈ s'.history

/-- One step of the loop or one return in front of such a run. -/
theorem Returns.of_step {s s' : Emitter Slot Arguments} {e e' : Emission Arguments}
    {outer : List (Emission Arguments)} {a : Action Slot Arguments}
    (ha : a = .next ∨ a = .slotReturns) (hs : s.step a = some s') (hnumber : e'.number = e.number)
    (h : s'.Returns e' outer) : s.Returns e outer := by
  obtain ⟨actions, s'', hactions, hexec, houter, hfinished⟩ := h
  refine ⟨a :: actions, s'', ?_, ?_, houter, hnumber ▸ hfinished⟩
  · intro a' ha'
    rcases List.mem_cons.mp ha' with rfl | ha'
    · exact ha
    · exact hactions a' ha'
  · rw [Lts.exec_cons_anyStep]
    simp only [emitter, hs, Option.bind_some]
    exact hexec

/-- The slot that is being called returns. -/
theorem step_slotReturns {e : Emission Arguments} {outer : List (Emission Arguments)}
    (hs : s.emissions = e :: outer) (hslot : e.inSlot = true) :
    s.step .slotReturns = some { s with emissions := { e with inSlot := false } :: outer } := by
  simp [Emitter.step, hs, hslot]

/-- Each round takes one id of the buffer, so the loop comes to its end when the slots it
calls return. -/
theorem returns_of_loop (buffer : List Int) : ∀ {s : Emitter Slot Arguments}
    {e : Emission Arguments} {outer : List (Emission Arguments)},
    s.emissions = e :: outer → e.inSlot = false → e.buffer = buffer → s.Returns e outer := by
  induction buffer with
  | nil =>
    intro s e outer hs hslot hbuffer
    refine ⟨[.next], s.finish e outer, by simp, ?_, rfl, by simp [finish]⟩
    simp [Lts.exec, Lts.anyStep, emitter, Emitter.step, hs, hslot, hbuffer]
  | cons id buffer ih =>
    intro s e outer hs hslot hbuffer
    have hstep : s.step .next = some (s.round e outer id buffer) := by
      simp [Emitter.step, hs, hslot, hbuffer]
    have hnumber : ({ e with buffer } : Emission Arguments).number = e.number := rfl
    refine Returns.of_step (.inl rfl) hstep hnumber ?_
    cases hlookup : s.state.slots.lookup id with
    | none =>
      have hround : (s.round e outer id buffer).emissions = { e with buffer } :: outer := by
        simp [round, hlookup]
      exact ih hround hslot rfl
    | some slot =>
      have hround : (s.round e outer id buffer).emissions
          = { e with buffer, inSlot := true } :: outer := by
        simp [round, hlookup]
      refine Returns.of_step (.inr rfl) (step_slotReturns hround rfl) rfl ?_
      exact ih (e := { e with buffer, inSlot := false }) rfl rfl rfl

/-- When the slots it calls return, the innermost `Emit` comes to its end. -/
theorem returns {e : Emission Arguments} {outer : List (Emission Arguments)}
    (hs : s.emissions = e :: outer) : s.Returns e outer := by
  cases hslot : e.inSlot with
  | false => exact returns_of_loop e.buffer hs hslot rfl
  | true =>
    refine Returns.of_step (.inr rfl) (step_slotReturns hs hslot) rfl ?_
    exact returns_of_loop e.buffer (e := { e with inSlot := false }) rfl rfl rfl

end Emitter

/-- What the history must say of an emission `n` that started after `before` with `arguments`,
when `during` stands after its start. -/
structure EmissionSpec (before : List (Event Slot Arguments)) (n : Nat) (arguments : Arguments)
    (during : List (Event Slot Arguments)) : Prop where
  /-- All calls of the emission stand after its start. -/
  after_start : ∀ id slot arguments', .invoked n id slot arguments' ∉ before
  /-- A call has the emitted arguments, its slot was subscribed at the start and not
  unsubscribed or called by this emission since. The slot was not subscribed during the
  emission. -/
  only : ∀ mid id slot arguments' rest, during = mid ++ .invoked n id slot arguments' :: rest →
    arguments' = arguments ∧ Subscribed before id slot ∧ .unsubscribed id ∉ mid ∧
    (∀ slot' arguments'', .invoked n id slot' arguments'' ∉ mid) ∧
    ∀ slot', .subscribed id slot' ∉ during
  /-- At the end every slot that was subscribed at the start was called, or it was
  unsubscribed before its turn. -/
  all : .finished n ∈ during → ∀ id slot, Subscribed before id slot →
    .invoked n id slot arguments ∈ during ∨
    ∃ mid rest, during = mid ++ .skipped n id :: rest ∧ .unsubscribed id ∈ mid

namespace Emitter

variable {s : Emitter Slot Arguments}

/-- An id is subscribed with one slot only. -/
theorem Consistent.subscribed_unique (h : s.Consistent) {before after : List (Event Slot Arguments)}
    (heq : s.history = before ++ after) {id : Int} {slot slot' : Slot}
    (hslot : .subscribed id slot ∈ before) (hslot' : .subscribed id slot' ∈ before) :
    slot = slot' := by
  obtain ⟨early, late, rfl⟩ := List.append_of_mem hslot
  have hsplit : s.history = early ++ .subscribed id slot :: (late ++ after) := by simp [heq]
  rcases List.mem_append.mp hslot' with hmem | hmem
  -- Before the event it would stand twice, and so it would after it.
  · obtain ⟨first, second, rfl⟩ := List.append_of_mem hmem
    exact absurd (by simp) (h.once first id slot'
      (second ++ .subscribed id slot :: (late ++ after)) (by simp [hsplit]) slot)
  · rcases List.mem_cons.mp hmem with heq' | hmem
    · cases heq'
      rfl
    · exact absurd (List.mem_append_left _ hmem) (h.once early id slot _ hsplit slot')

/-- The history of a consistent state says of each emission what it must. -/
theorem Consistent.emissionSpec (h : s.Consistent) {before during : List (Event Slot Arguments)}
    {n : Nat} {arguments : Arguments}
    (heq : s.history = before ++ .started n arguments :: during) :
    EmissionSpec before n arguments during := by
  obtain ⟨left, hprogress, -⟩ := h.progress before n arguments during heq
  refine ⟨fun id slot arguments' hmem => hprogress.earlier _ hmem rfl, ?_, ?_⟩
  · rintro mid id slot arguments' rest rfl
    obtain ⟨harguments, hbefore, hkept⟩ := hprogress.invoked mid id slot arguments' rest rfl
    refine ⟨harguments, hbefore, hkept, fun slot' arguments'' hmem => ?_, fun slot' hmem => ?_⟩
    · -- Two calls would be two turns of one id.
      have hturn : id ∈ turns n mid :=
        List.mem_filterMap.mpr ⟨_, hmem, by simp [Event.turn?]⟩
      have hnodup := (List.nodup_append.mp hprogress.nodup).1
      rw [turns_append, List.nodup_append] at hnodup
      exact hnodup.2.2 id hturn id (by simp [turns, Event.turn?]) rfl
    · exact h.not_subscribed_during heq hbefore slot' (List.mem_cons_of_mem _ hmem)
  · intro hfinished id slot hbefore
    have hturn := (hprogress.mem id).mpr ⟨slot, hbefore⟩
    rw [hprogress.finished hfinished, List.append_nil] at hturn
    -- The turn of the slot is a call, or the slot was skipped.
    obtain ⟨e, he, hid⟩ := List.mem_filterMap.mp hturn
    obtain ⟨mid, rest, hsplit⟩ := List.append_of_mem he
    cases e with
    | invoked m id' slot' arguments' =>
      simp only [Event.turn?, Option.ite_none_right_eq_some, Option.some.injEq] at hid
      obtain ⟨rfl, rfl⟩ := hid
      obtain ⟨rfl, hbefore', -⟩ := hprogress.invoked mid id' slot' arguments' rest hsplit
      cases h.subscribed_unique heq hbefore.mem hbefore'.mem
      exact .inl he
    | skipped m id' =>
      simp only [Event.turn?, Option.ite_none_right_eq_some, Option.some.injEq] at hid
      obtain ⟨rfl, rfl⟩ := hid
      exact .inr ⟨mid, rest, hsplit, hprogress.skipped mid id' rest hsplit⟩
    | _ => cases hid

/-- A slot that was unsubscribed is not called after that. -/
theorem Consistent.not_invoked (h : s.Consistent) {before mid after : List (Event Slot Arguments)}
    {id : Int} {slot : Slot}
    (heq : s.history = before ++ .subscribed id slot :: mid ++ .unsubscribed id :: after)
    (n : Nat) (slot' : Slot) (arguments : Arguments) :
    .invoked n id slot' arguments ∉ after := by
  intro hmem
  obtain ⟨early, late, rfl⟩ := List.append_of_mem hmem
  -- The slot is subscribed when it is called, but the id is not subscribed a second time.
  have hsub := h.called (before ++ .subscribed id slot :: mid ++ .unsubscribed id :: early) n id slot'
    arguments late (by simp [heq])
  have honce := h.once before id slot
    (mid ++ .unsubscribed id :: (early ++ .invoked n id slot' arguments :: late)) (by simp [heq])
  have hearly : ∀ slot'', .subscribed id slot'' ∉ .unsubscribed id :: early := by
    intro slot'' hmem'
    refine honce slot'' (List.mem_append_right _ ?_)
    rw [← List.cons_append]
    exact List.mem_append_left _ hmem'
  exact (hsub.of_append hearly).2 (by simp)

/-- In every run of a signal, whatever its slots do to it: each emission calls exactly the slots
that were subscribed at its start and not unsubscribed before their turn, once and with the
emitted arguments (`EmissionSpec`); a slot that was unsubscribed is never called again; and an
emission whose slots return comes to its end. -/
theorem emit_safe (h : (emitter Slot Arguments).Reachable Lts.anyStep s) :
    (∀ before n arguments during, s.history = before ++ .started n arguments :: during →
      EmissionSpec before n arguments during) ∧
    (∀ before id slot mid after,
      s.history = before ++ .subscribed id slot :: mid ++ .unsubscribed id :: after →
      ∀ n slot' arguments, .invoked n id slot' arguments ∉ after) ∧
    ∀ e outer, s.emissions = e :: outer → s.Returns e outer := by
  have hc := consistent_reachable h
  exact ⟨fun _ _ _ _ heq => hc.emissionSpec heq, fun _ _ _ _ _ heq => hc.not_invoked heq,
    fun _ _ hs => returns hs⟩

/-- A run with two slots. The first one unsubscribes the second, subscribes a third and emits
again. The outer emission calls the first slot only, the inner one the first and the third. -/
theorem emit_safe_reentrant : ∃ s : Emitter String Nat,
    (emitter String Nat).Reachable Lts.anyStep s ∧
    s.history = [.subscribed 0 "a", .subscribed 1 "b"] ++ .started 0 7 ::
      [.invoked 0 0 "a" 7, .unsubscribed 1, .subscribed 2 "c", .started 1 8, .invoked 1 2 "c" 8,
        .invoked 1 0 "a" 8, .finished 1, .skipped 0 1, .finished 0] ∧
    EmissionSpec [.subscribed 0 "a", .subscribed 1 "b"] 0 7
      [.invoked 0 0 "a" 7, .unsubscribed 1, .subscribed 2 "c", .started 1 8, .invoked 1 2 "c" 8,
        .invoked 1 0 "a" 8, .finished 1, .skipped 0 1, .finished 0] := by
  have hstart : (emitter String Nat).Reachable Lts.anyStep {} := .start rfl
  obtain ⟨s, hs, hhistory⟩ := hstart.exists_of_exec
    [.subscribe "a", .subscribe "b", .emit 7 [0, 1], .next, .unsubscribe 1, .subscribe "c",
      .emit 8 [2, 0], .next, .slotReturns, .next, .slotReturns, .next, .slotReturns, .next, .next]
    (fun s => s.history = [.subscribed 0 "a", .subscribed 1 "b"] ++ .started 0 7 ::
      [.invoked 0 0 "a" 7, .unsubscribed 1, .subscribed 2 "c", .started 1 8, .invoked 1 2 "c" 8,
        .invoked 1 0 "a" 8, .finished 1, .skipped 0 1, .finished 0]) (by decide)
  exact ⟨s, hs, hhistory, (emit_safe hs).1 _ _ _ _ hhistory⟩

end Emitter

end ChatCore.Utility
