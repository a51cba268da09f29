import ChatCore.Network.TcpConnection

/-!
# `ChatCore.Proofs.ConnectionEvents`: how often a connection ends

The read chain alone reports its end once: a handler that calls `OnDisconnect` starts no other
read. The write chain reports an error in the same way, but the read of the other chain stays
outstanding. When it completes, the connection reports bytes or a second end behind the first.

So a run without a failed write ends once and is silent then, and every failed write breaks
this, at once or when the outstanding read fails too.
-/

set_option autoImplicit false

namespace ChatCore.Network

open ChatCore.Lib

/-- Nothing is reported after `OnDisconnect`, neither bytes nor another `OnDisconnect`. -/
def EndsOnce (events : List ConnectionEvent) : Prop :=
  ∀ before after, events = before ++ .disconnected :: after → after = []

/-- Payloads, and then at most one end. -/
theorem endsOnce_received (payloads : List (List UInt8)) {last : List ConnectionEvent}
    (hlast : last = [] ∨ last = [.disconnected]) :
    EndsOnce (payloads.map .received ++ last) := by
  intro before after heq
  induction payloads generalizing before with
  | nil =>
    rw [List.map_nil, List.nil_append] at heq
    cases before with
    | nil =>
      cases hlast with
      | inl hnil => rw [hnil] at heq; cases heq
      | inr hone => rw [hone] at heq; cases heq; rfl
    | cons e before =>
      have hlength := congrArg List.length heq
      cases hlast with
      | inl hnil => rw [hnil] at heq; cases heq
      | inr hone =>
        rw [hone] at hlength
        simp only [List.length_cons, List.length_append, List.length_nil] at hlength
        omega
  | cons payload payloads ih =>
    cases before with
    | nil => cases heq
    | cons e before => exact ih before (List.cons.inj heq).2

/-- After an end every further event is too much. -/
theorem not_endsOnce_append {events : List ConnectionEvent} (event : ConnectionEvent)
    (h : .disconnected ∈ events) : ¬ EndsOnce (events ++ [event]) := by
  intro hends
  obtain ⟨before, after, rfl⟩ := List.append_of_mem h
  have hnil := hends before (after ++ [event]) (by rw [List.append_assoc, List.cons_append])
  cases after <;> cases hnil

/-- What the handler of a read reports, and whether another read is outstanding after it. -/
theorem ReadLoop.handler_cases {s : ReadLoop} {result : ReadLoop × List ConnectionEvent}
    (h : (∃ movedFrom, s.complete movedFrom = some result) ∨ s.fail = some result) :
    s.reading ≠ .stopped ∧
      ((∃ payloads : List (List UInt8), result.2 = payloads.map .received) ∧
          result.1.reading ≠ .stopped ∨
        result.2 = [.disconnected] ∧ result.1.reading = .stopped) := by
  cases h with
  | inl h =>
    obtain ⟨movedFrom, hc⟩ := h
    unfold complete at hc
    cases hreading : s.reading with
    | stopped => simp [hreading] at hc
    | header =>
      simp only [hreading] at hc
      refine ⟨(nomatch ·), ?_⟩
      split at hc
      · cases hc
      · split at hc
        · -- The header announces too much.
          cases hc
          exact .inr ⟨rfl, rfl⟩
        · cases hc
          exact .inl ⟨⟨[], rfl⟩, (nomatch ·)⟩
    | body =>
      simp only [hreading] at hc
      refine ⟨(nomatch ·), ?_⟩
      split at hc
      · cases hc
      · cases hc
        exact .inl ⟨⟨[_], rfl⟩, (nomatch ·)⟩
  | inr h =>
    unfold fail at h
    cases hreading : s.reading with
    | stopped => simp [hreading] at h
    | header | body =>
      simp only [hreading] at h
      cases h
      exact ⟨(nomatch ·), .inr ⟨rfl, rfl⟩⟩

namespace TcpConnection

variable {s s' : TcpConnection} {l : ConnectionOp}

/-- What a step does to the read side and to the reports. -/
theorem step_cases (h : s.step l = some s') :
    (s'.readLoop.reading = s.readLoop.reading ∧ s'.events = s.events) ∨
    (∃ result, s.readLoop.reading ≠ .stopped ∧
      ((∃ payloads : List (List UInt8), result.2 = payloads.map .received) ∧
          result.1.reading ≠ .stopped ∨
        result.2 = [.disconnected] ∧ result.1.reading = .stopped) ∧
      s' = s.readHandled result) ∨
    (∃ i, l = .writeError i ∧ s'.readLoop = s.readLoop ∧
      s'.events = s.events ++ [.disconnected]) := by
  -- The write chain does not see the read side.
  have hsend : ∀ {t : TcpConnection} {op : SendOp}, t.send op = some s' →
      s'.readLoop = t.readLoop ∧ s'.events = t.events := by
    intro t op hop
    obtain ⟨_, _, rfl⟩ := Option.map_eq_some_iff.mp hop
    exact ⟨rfl, rfl⟩
  cases l with
  | arrive chunk =>
    cases h
    exact .inl ⟨rfl, rfl⟩
  | readComplete movedFrom =>
    obtain ⟨result, hresult, rfl⟩ := Option.map_eq_some_iff.mp h
    obtain ⟨hreading, hcases⟩ := ReadLoop.handler_cases (.inl ⟨movedFrom, hresult⟩)
    exact .inr (.inl ⟨result, hreading, hcases, rfl⟩)
  | readError =>
    obtain ⟨result, hresult, rfl⟩ := Option.map_eq_some_iff.mp h
    obtain ⟨hreading, hcases⟩ := ReadLoop.handler_cases (.inr hresult)
    exact .inr (.inl ⟨result, hreading, hcases, rfl⟩)
  | lookup bytes =>
    simp only [step] at h
    split at h
    · cases h
      exact .inl ⟨rfl, rfl⟩
    · cases h
  | sendBytes i =>
    obtain ⟨bytes, _, hop⟩ := Option.bind_eq_some_iff.mp h
    exact .inl ⟨congrArg _ (hsend hop).1, (hsend hop).2⟩
  | sendNext | asyncWrite _ | writeComplete _ =>
    exact .inl ⟨congrArg _ (hsend h).1, (hsend h).2⟩
  | writeError i =>
    simp only [step] at h
    split at h
    · cases h
      exact .inr (.inr ⟨i, rfl, rfl, rfl⟩)
    · cases h

/-- No `async_write` completes with an error. -/
def NoWriteError (_ : TcpConnection) : ConnectionOp → Prop
  | .writeError _ => False
  | _ => True

instance : DecidableRel NoWriteError := fun _ l =>
  match l with
  | .writeError _ => inferInstanceAs (Decidable False)
  | .arrive _ | .readComplete _ | .readError | .lookup _ | .sendBytes _ | .sendNext
  | .asyncWrite _ | .writeComplete _ => inferInstanceAs (Decidable True)

/-- The reports of a run without a failed write. -/
theorem events_of_noWriteError (h : Lts.Reachable tcpConnections NoWriteError s) :
    ∃ payloads : List (List UInt8), s.events = payloads.map .received ++
      if s.readLoop.reading = .stopped then [.disconnected] else [] := by
  refine h.invariant (I := fun s => ∃ payloads : List (List UInt8),
    s.events = payloads.map .received ++
      if s.readLoop.reading = .stopped then [.disconnected] else []) ?_ ?_
  · rintro s rfl
    exact ⟨[], rfl⟩
  · rintro s l s' ⟨payloads, hevents⟩ hok hstep
    obtain ⟨hreading, hsame⟩ | ⟨result, hreading, hcases, rfl⟩ | ⟨i, rfl, -, -⟩ := step_cases hstep
    · exact ⟨payloads, by rw [hsame, hreading, hevents]⟩
    · -- A handler runs only while the end is not reported, so its reports come last.
      rw [if_neg hreading, List.append_nil] at hevents
      have hreport : (s.readHandled result).events = payloads.map .received ++ result.2 := by
        rw [← hevents]
        rfl
      cases hcases with
      | inl hgoes =>
        obtain ⟨⟨more, hmore⟩, hnot⟩ := hgoes
        refine ⟨payloads ++ more, ?_⟩
        show _ = _ ++ if result.1.reading = .stopped then _ else _
        rw [hreport, hmore, if_neg hnot, List.map_append, List.append_nil]
      | inr hstops =>
        refine ⟨payloads, ?_⟩
        show _ = _ ++ if result.1.reading = .stopped then _ else _
        rw [hreport, hstops.1, if_pos hstops.2]
    · exact absurd hok id

/-- Every connection whose read loop has stopped has reported its end. -/
theorem disconnected_of_stopped (h : Lts.Reachable tcpConnections Lts.anyStep s)
    (hstopped : s.readLoop.reading = .stopped) : .disconnected ∈ s.events := by
  revert hstopped
  refine h.invariant (I := fun s => s.readLoop.reading = .stopped → .disconnected ∈ s.events) ?_ ?_
  · rintro s rfl hstopped
    cases hstopped
  · intro s l s' ih _ hstep hstopped
    obtain ⟨hreading, hsame⟩ | ⟨result, -, hcases, rfl⟩ | ⟨i, -, hloop, hevents⟩ := step_cases hstep
    · rw [hsame]
      exact ih (hreading ▸ hstopped)
    · cases hcases with
      | inl hgoes => exact absurd hstopped hgoes.2
      | inr hstops =>
        show _ ∈ s.events ++ result.2
        rw [hstops.1]
        exact List.mem_append_right _ List.mem_cons_self
    · rw [hevents]
      exact List.mem_append_right _ List.mem_cons_self

/-- A connection without failed writes ends once and is silent then. A failed write breaks this,
either at once or when the outstanding read fails. -/
theorem endsOnce_of_noWriteError (s : TcpConnection) :
    (Lts.Reachable tcpConnections NoWriteError s → EndsOnce s.events) ∧
    ∀ i s', Lts.Reachable tcpConnections Lts.anyStep s → s.step (.writeError i) = some s' →
      ¬ EndsOnce s'.events ∨ ∃ s'', s'.step .readError = some s'' ∧ ¬ EndsOnce s''.events := by
  constructor
  · intro h
    obtain ⟨payloads, hevents⟩ := events_of_noWriteError h
    rw [hevents]
    apply endsOnce_received
    split
    · exact .inr rfl
    · exact .inl rfl
  · intro i s' h hstep
    simp only [step] at hstep
    split at hstep
    · cases hstep
      by_cases hstopped : s.readLoop.reading = .stopped
      · have hmem := disconnected_of_stopped h hstopped
        exact .inl (show ¬ EndsOnce (s.events ++ _) from not_endsOnce_append _ hmem)
      · -- The read is still outstanding, and its error is reported as another end.
        have hfail : s.readLoop.fail
            = some ({ s.readLoop with reading := .stopped }, [.disconnected]) := by
          unfold ReadLoop.fail
          cases hreading : s.readLoop.reading with
          | stopped => exact absurd hreading hstopped
          | header | body => rfl
        refine .inr ⟨_, congrArg (Option.map _) hfail, ?_⟩
        exact not_endsOnce_append _ (List.mem_append_right _ List.mem_cons_self)
    · cases hstep

/-- A connection that delivers one payload and then fails to read. -/
theorem endsOnce_of_noWriteError_read : ∃ s, Lts.Reachable tcpConnections NoWriteError s ∧
    s.events = [.received [7], .disconnected] ∧ EndsOnce s.events := by
  have hstart : tcpConnections.Reachable NoWriteError {} := .start rfl
  obtain ⟨s, hreach, hevents⟩ := hstart.exists_of_exec
      [.arrive [0, 0, 0, 1, 7], .readComplete [], .readComplete [], .readError]
      (fun s => s.events = [.received [7], .disconnected]) (by decide)
  exact ⟨s, hreach, hevents, (endsOnce_of_noWriteError s).1 hreach⟩

/-- A write fails, and then the outstanding read delivers a payload and fails too. -/
theorem not_endsOnce_writeError :
    ¬ ∀ s, Lts.Reachable tcpConnections Lts.anyStep s → EndsOnce s.events := by
  intro h
  have hstart : tcpConnections.Reachable Lts.anyStep {} := .start rfl
  obtain ⟨s, hreach, hevents⟩ := hstart.exists_of_exec
      [.lookup [1], .sendBytes 0, .sendNext, .asyncWrite 0, .writeError 0,
        .arrive [0, 0, 0, 1, 7], .readComplete [], .readComplete [], .readError]
      (fun s => s.events = [.disconnected, .received [7], .disconnected]) (by decide)
  have hnil := h s hreach [] [.received [7], .disconnected] hevents
  cases hnil

end TcpConnection

end ChatCore.Network
