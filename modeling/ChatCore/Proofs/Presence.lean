import ChatCore.Proofs.Sessions
import ChatCore.Server.Presence

/-!
# `ChatCore.Proofs.Presence`: when presence events tell the truth

Between its lookup and its erase a call of `RemoveSession` leaves the session in place. A second
call that looks up the same connection meanwhile finds the session too and broadcasts a second
logout. And a logout that falls between the assignment of a session and its login event comes
before the login. `InTurn` excludes both.

Then the last event about a user is a login exactly when the user has a session whose login is
broadcast and whose logout is not. `Truthful` states this for the sessions, the login that is still
to be broadcast and the two calls of `RemoveSession`. It is the same for both calls, so each step
of `RemoveSession` is treated once.
-/

set_option autoImplicit false

namespace ChatCore.Server

open ChatCore.Api
open ChatCore.Lib
open PresenceRun (lookedUp removed loggedOut)

/-! ### The events about a user -/

/-- The events about a user. -/
def eventsOf (u : Nat) (events : List PresenceEvent) : List Bool :=
  events.filterMap (PresenceEvent.about u)

section

variable {u : Nat} {events : List PresenceEvent} {event : PresenceEvent} {b : Bool}

/-- An event about the user is added to its events. -/
theorem eventsOf_append_about (h : event.about u = some b) :
    eventsOf u (events ++ [event]) = eventsOf u events ++ [b] := by
  simp [eventsOf, h]

/-- Another event is not. -/
theorem eventsOf_append_other (h : event.about u = none) :
    eventsOf u (events ++ [event]) = eventsOf u events := by
  simp [eventsOf, h]

/-- One more event continues the alternation when it differs from the last one. -/
theorem alternate_append {l : List Bool} {b : Bool} (h : (false :: l).IsChain (· ≠ ·))
    (hb : l.getLast? = some true ↔ b = false) : (false :: (l ++ [b])).IsChain (· ≠ ·) := by
  rw [← List.cons_append, List.isChain_append]
  refine ⟨h, List.isChain_singleton b, fun x hx y hy => ?_⟩
  obtain rfl : b = y := Option.some.inj hy
  rw [List.getLast?_cons, Option.mem_def, Option.some.injEq] at hx
  subst hx
  cases hlast : l.getLast? with
  | none =>
    rw [hlast] at hb
    cases b with
    | true => exact Bool.false_ne_true
    | false => exact nomatch hb.mpr rfl
  | some last =>
    rw [hlast] at hb
    cases last <;> cases b <;> simp_all

/-- An event about user `u` that differs from the last one about this user. -/
theorem alternate_event (h : ∀ w, (false :: eventsOf w events).IsChain (· ≠ ·))
    (hself : event.about u = some b) (hother : ∀ w, u ≠ w → event.about w = none)
    (hlast : (eventsOf u events).getLast? = some true ↔ b = false) (w : Nat) :
    (false :: eventsOf w (events ++ [event])).IsChain (· ≠ ·) := by
  by_cases hw : u = w
  · subst hw
    rw [eventsOf_append_about hself]
    exact alternate_append (h u) hlast
  · rw [eventsOf_append_other (hother w hw)]
    exact h w

end

/-! ### The invariant -/

/-- The user whose logout is broadcast and whose session is still to be erased. -/
def erasing : Nat × RemoveSessionCall → Option Nat
  | (_, .erase userId) => some userId
  | _ => none

/-- What the events say is true. `login` is the login that is still to be broadcast, `a` and `n`
are the calls of `RemoveSession`. -/
structure Truthful (sessions : Bimap Nat Nat) (login : Option Nat)
    (a n : Option (Nat × RemoveSessionCall)) (events : List PresenceEvent) : Prop where
  alternate : ∀ u, (false :: eventsOf u events).IsChain (· ≠ ·)
  /-- The last event about a user is a login. -/
  present : ∀ u, (eventsOf u events).getLast? = some true
    ↔ (∃ c, (c, u) ∈ sessions) ∧ login ≠ some u ∧ a.bind erasing ≠ some u ∧ n.bind erasing ≠ some u
  /-- A session that a call has found is there until the call erases it. -/
  found : ∀ session ∈ a.bind removed, session ∈ sessions
  found' : ∀ session ∈ n.bind removed, session ∈ sessions
  apart : ∀ session ∈ a.bind removed, ∀ session' ∈ n.bind removed, session.1 ≠ session'.1
  waiting : ∀ u ∈ login, (∃ c, (c, u) ∈ sessions) ∧ a.bind erasing ≠ some u ∧
    n.bind erasing ≠ some u

namespace Truthful

variable {sessions : Bimap Nat Nat} {login : Option Nat} {a n : Option (Nat × RemoveSessionCall)}
  {events : List PresenceEvent} {c u : Nat}

/-- The two calls of `RemoveSession` may change places. -/
theorem symm (h : Truthful sessions login a n events) : Truthful sessions login n a events where
  alternate := h.alternate
  present u := by
    rw [h.present u, and_comm (a := a.bind erasing ≠ some u)]
  found := h.found'
  found' := h.found
  apart session hn session' ha := (h.apart session' ha session hn).symm
  waiting u hu := by
    obtain ⟨hsession, ha, hn⟩ := h.waiting u hu
    exact ⟨hsession, hn, ha⟩

/-- The session that the other call has found is not that of this user. -/
theorem erasing_ne (h : Truthful sessions login a n events) (ha : (c, u) ∈ a.bind removed) :
    n.bind erasing ≠ some u := by
  intro hn
  cases n with
  | none => cases hn
  | some call =>
    obtain ⟨c', call⟩ := call
    cases call with
    | lookup => cases hn
    | broadcast u' => cases hn
    | erase u' =>
      cases hn
      have hne := h.apart (c, u) ha (c', u) rfl
      exact hne (Bimap.left_eq (h.found _ ha) (h.found' (c', u) rfl))

/-- A call begins, or returns after a lookup that found nothing. -/
theorem idle {a' : Option (Nat × RemoveSessionCall)} (h : Truthful sessions login a n events)
    (ha : a.bind erasing = none) (hremoved : a'.bind removed = none)
    (herasing : a'.bind erasing = none) : Truthful sessions login a' n events where
  alternate := h.alternate
  present u := by
    rw [h.present u, ha, herasing]
  found session hs := by
    rw [hremoved] at hs
    cases hs
  found' := h.found'
  apart session hs := by
    rw [hremoved] at hs
    cases hs
  waiting u hu := by
    obtain ⟨hsession, -, hn⟩ := h.waiting u hu
    refine ⟨hsession, ?_, hn⟩
    rw [herasing]
    simp

/-- The lookup of a connection that the other call is not removing. -/
theorem lookup (h : Truthful sessions login (some (c, .lookup)) n events)
    (hsession : (c, u) ∈ sessions) (hn : ∀ session ∈ n.bind removed, session.1 ≠ c) :
    Truthful sessions login (some (c, .broadcast u)) n events where
  alternate := h.alternate
  present := h.present
  found session hs := by
    cases hs
    exact hsession
  found' := h.found'
  apart session hs session' hs' := by
    cases hs
    exact (hn session' hs').symm
  waiting := h.waiting

/-- The broadcast of a logout. -/
theorem broadcast (h : Truthful sessions login (some (c, .broadcast u)) n events)
    (hlogin : login ≠ some u) :
    Truthful sessions login (some (c, .erase u)) n (events ++ [.logout u]) := by
  have hsession : (c, u) ∈ sessions := h.found (c, u) rfl
  have hn : n.bind erasing ≠ some u := h.erasing_ne (c := c) rfl
  have hpresent : (eventsOf u events).getLast? = some true :=
    (h.present u).mpr ⟨⟨c, hsession⟩, hlogin, by simp [erasing], hn⟩
  have hself : (PresenceEvent.logout u).about u = some false := if_pos rfl
  have hother : ∀ w, u ≠ w → (PresenceEvent.logout u).about w = none := fun w hw => if_neg hw
  refine ⟨alternate_event h.alternate hself hother (by simp [hpresent]), fun w => ?_, h.found,
    h.found', h.apart, fun w hw => ?_⟩
  · by_cases hw : u = w
    · subst hw
      rw [eventsOf_append_about hself, List.getLast?_concat]
      simp [erasing]
    · rw [eventsOf_append_other (hother w hw), h.present w]
      simp [erasing, hw]
  · obtain ⟨hw', -, hn'⟩ := h.waiting w hw
    refine ⟨hw', ?_, hn'⟩
    rintro heq
    obtain rfl : u = w := Option.some.inj heq
    exact hlogin hw

/-- The erase of a session whose logout is broadcast. -/
theorem erase (h : Truthful sessions login (some (c, .erase u)) n events) :
    Truthful (sessions.eraseLeft c) login none n events := by
  have hsession : (c, u) ∈ sessions := h.found (c, u) rfl
  have hmem : ∀ w, w ≠ u → ((∃ c', (c', w) ∈ sessions.eraseLeft c) ↔ ∃ c', (c', w) ∈ sessions) := by
    intro w hw
    refine exists_congr fun c' => ?_
    rw [Bimap.mem_eraseLeft]
    refine and_iff_left_of_imp fun hc' => ?_
    rintro rfl
    exact hw (Bimap.right_eq hc' hsession)
  refine ⟨h.alternate, fun w => ?_, fun session hs => (nomatch hs),
    fun session hs => ?_, fun session hs => (nomatch hs), fun w hw => ?_⟩
  · rw [h.present w]
    by_cases hw : w = u
    · subst hw
      have hgone : ¬∃ c', (c', w) ∈ sessions.eraseLeft c := by
        rintro ⟨c', hc'⟩
        obtain ⟨hold, hne⟩ := Bimap.mem_eraseLeft.mp hc'
        exact hne (Bimap.left_eq hold hsession)
      exact iff_of_false (fun hpresent => hpresent.2.2.1 rfl) fun hpresent => hgone hpresent.1
    · rw [hmem w hw]
      simp [erasing, Ne.symm hw]
  · obtain ⟨c', w⟩ := session
    exact Bimap.mem_eraseLeft.mpr ⟨h.found' _ hs, (h.apart (c, u) rfl (c', w) hs).symm⟩
  · obtain ⟨hw', ha, hn⟩ := h.waiting w hw
    have hne : w ≠ u := fun heq => ha (by simp [erasing, heq])
    exact ⟨(hmem w hne).mpr hw', by simp, hn⟩

/-- A session is assigned, and its login is still to be broadcast. -/
theorem authenticate (h : Truthful sessions none a n events)
    (hfree : ∀ w, (c, w) ∉ sessions) (huser : ∀ c', (c', u) ∉ sessions) :
    Truthful (sessions.insert c u) (some u) a n events := by
  have hmem : ∀ c' w, (c', w) ∈ sessions.insert c u ↔ (c', w) ∈ sessions ∨ c' = c ∧ w = u :=
    fun c' w => Bimap.mem_insert hfree huser
  have herasing : ∀ call : Option (Nat × RemoveSessionCall),
      (∀ session ∈ call.bind removed, session ∈ sessions) → call.bind erasing ≠ some u := by
    intro call hfound heq
    cases call with
    | none => cases heq
    | some call =>
      obtain ⟨c', call⟩ := call
      cases call with
      | lookup => cases heq
      | broadcast u' => cases heq
      | erase u' =>
        cases heq
        exact huser c' (hfound (c', u) rfl)
  -- The user had no session, so the last event about the user was no login.
  refine ⟨h.alternate, fun w => ?_, fun session hs => (hmem _ _).mpr (.inl (h.found session hs)),
    fun session hs => (hmem _ _).mpr (.inl (h.found' session hs)), h.apart, fun w hw => ?_⟩
  · rw [h.present w]
    by_cases hw : u = w
    · subst hw
      simp [huser]
    · simp [hmem, hw, Ne.symm hw]
  · cases hw
    exact ⟨⟨c, (hmem c u).mpr (.inr ⟨rfl, rfl⟩)⟩, herasing a h.found, herasing n h.found'⟩

/-- The broadcast of a login. -/
theorem announce (h : Truthful sessions (some u) a n events) :
    Truthful sessions none a n (events ++ [.login u]) := by
  obtain ⟨hsession, ha, hn⟩ := h.waiting u rfl
  have hself : (PresenceEvent.login u).about u = some true := if_pos rfl
  have hother : ∀ w, u ≠ w → (PresenceEvent.login u).about w = none := fun w hw => if_neg hw
  refine ⟨alternate_event h.alternate hself hother (by simp [h.present u]), fun w => ?_, h.found,
    h.found', h.apart, fun w hw => nomatch hw⟩
  by_cases hw : u = w
  · subst hw
    rw [eventsOf_append_about hself, List.getLast?_concat]
    simp [hsession, ha, hn]
  · rw [eventsOf_append_other (hother w hw), h.present w]
    simp [hw]

end Truthful

/-! ### The steps of the two threads -/

namespace ServerState

variable {s : ServerState} {c : Nat}

/-- The lookup of `RemoveSession` finds the user of the session. -/
theorem removeSessionStep_lookup (h : s.Consistent) :
    ∃ s', Served s s' ∧ removeSessionStep s c .lookup
      = (s', (s.users.userSessions.findLeft c).map RemoveSessionCall.broadcast, []) := by
  refine ⟨_, served_getSessionUser h c, ?_⟩
  cases hsession : s.users.userSessions.findLeft c with
  | none =>
    have hnone : s.users.getSessionUser s.db c = (s.users, none) := by
      unfold UserStore.getSessionUser
      rw [hsession]
    simp [removeSessionStep, hnone]
  | some u =>
    obtain ⟨user, huser, rfl⟩ := h.getSessionUser_eq (Bimap.findLeft_eq_some.mp hsession)
    cases hlookup : s.users.getSessionUser s.db c with
    | mk users potentialUser =>
      rw [hlookup] at huser
      cases huser
      simp [removeSessionStep, hlookup]

/-- Without a step of the other thread in between, the three steps are `RemoveSession`. -/
theorem removeSession_eq_steps : s.removeSession c =
    match removeSessionStep s c .lookup with
    | (s1, none, events) => (s1, events.map PresenceEvent.call)
    | (s1, some call, _) =>
      let (s2, next, events) := removeSessionStep s1 c call
      (next.elim s2 fun call => (removeSessionStep s2 c call).1, events.map PresenceEvent.call) := by
  unfold removeSession removeSessionStep
  cases s.users.getSessionUser s.db c with
  | mk users potentialUser => cases potentialUser <;> rfl

/-- `HandleAuthenticateUser` assigns a session and announces it, or it leaves the sessions as they
are and announces nothing. -/
theorem handleAuthenticateUser_login (m : AuthenticateUserRequestMessage) :
    (∃ u, (∀ w, (c, w) ∉ s.users.userSessions) ∧ (∀ c', (c', u) ∉ s.users.userSessions) ∧
      (s.handleAuthenticateUser c m).1.users.userSessions = s.users.userSessions.insert c u ∧
      loginOf (s.handleAuthenticateUser c m).2 = some u) ∨
    (s.handleAuthenticateUser c m).1.users.userSessions = s.users.userSessions ∧
      loginOf (s.handleAuthenticateUser c m).2 = none := by
  unfold handleAuthenticateUser
  split
  · exact .inr ⟨rfl, rfl⟩
  · rename_i hsession
    split
    · exact .inr ⟨rfl, rfl⟩
    · rename_i user hmatch
      split
      · exact .inr ⟨rfl, rfl⟩
      · rename_i hbusy
        refine .inl ⟨user.id, fun w hw => ?_, fun c' hc' => ?_, rfl, rfl⟩
        · exact hsession (hasSession_iff.mpr ⟨w, hw⟩)
        · exact hbusy (hasUserSession_iff.mpr ⟨c', hc'⟩)

end ServerState

namespace PresenceRun

variable {s s' : PresenceRun} {op : PresenceOp} {c u : Nat}

/-- The login that the application thread has still to broadcast. -/
def pendingLogin (s : PresenceRun) : Option Nat :=
  match s.application with
  | .authenticate userId => some userId
  | _ => none

/-- What holds in a run whose steps are in turn. -/
structure PresenceInv (s : PresenceRun) : Prop where
  consistent : s.server.Consistent
  truthful : Truthful s.server.users.userSessions s.pendingLogin s.applicationCall s.network
    s.broadcasts

/-- The invariant holds at the start. -/
theorem presenceInv_begin (db : Database) : PresenceInv { server := ServerState.begin db } := by
  have hempty : (ServerState.begin db).users.userSessions = Bimap.empty :=
    (UserStore.prewarm_spec (UserStore.cachedFrom_empty db)).2
  refine ⟨ServerState.consistent_begin db, fun u => List.isChain_singleton _, fun u => ?_,
    fun session hs => (nomatch hs), fun session hs => (nomatch hs), fun session hs => (nomatch hs),
    fun u hu => (nomatch hu)⟩
  refine iff_of_false (fun hlast => nomatch hlast) fun hpresent => ?_
  obtain ⟨⟨c, hc⟩, -⟩ := hpresent
  rw [show (ServerState.begin db).users.userSessions = _ from hempty] at hc
  exact Bimap.not_mem_empty _ hc

/-- A step that keeps the sessions and the application thread. -/
theorem PresenceInv.server (h : PresenceInv s) {server : ServerState} (hcons : server.Consistent)
    (hsessions : server.users.userSessions = s.server.users.userSessions) :
    PresenceInv { s with server := server } := by
  refine ⟨hcons, ?_⟩
  show Truthful server.users.userSessions s.pendingLogin s.applicationCall s.network s.broadcasts
  rw [hsessions]
  exact h.truthful

/-- The application thread begins to handle a message. -/
theorem presenceInv_handle (h : PresenceInv s) (hidle : s.application = .idle) (c : Nat)
    (m : Message) : PresenceInv (s.beginHandle c m) := by
  have hlogin : s.pendingLogin = none := by rw [pendingLogin, hidle]
  have hcall : s.applicationCall = none := by rw [applicationCall, hidle]
  have htruthful := h.truthful
  rw [hlogin, hcall] at htruthful
  have hother : (∀ r, m ≠ .authenticateUserRequest r) → (∀ r, m ≠ .logoutRequest r) →
      PresenceInv { s with server := (s.server.handle c m).1 } := by
    intro hauth hlogout
    have hh := ServerState.handled_handle h.consistent c m
    refine h.server (h.consistent.handled hh) (ServerRun.userSessions_handled hh ?_ hlogout)
    intro user hno
    obtain ⟨-, r, rfl, -⟩ := ServerRun.authenticates_handled hh hno
    exact hauth r rfl
  cases m with
  | authenticateUserRequest m =>
    have hcons := h.consistent.handled
      (ServerState.handled_handleAuthenticateUser h.consistent c m)
    rcases ServerState.handleAuthenticateUser_login (s := s.server) (c := c) m with
      ⟨u, hfree, huser, hsessions, hevent⟩ | ⟨hsessions, hevent⟩
    · refine ⟨hcons, ?_⟩
      have hnext := htruthful.authenticate hfree huser
      rw [← hsessions] at hnext
      simp only [beginHandle, hevent]
      exact hnext
    · refine ⟨hcons, ?_⟩
      simp only [beginHandle, hevent, hsessions]
      exact htruthful
  | logoutRequest m =>
    -- The session is validated here, and looked up once more by `RemoveSession`.
    show PresenceInv (if s.server.users.hasSession c then _ else s)
    split
    · refine ⟨h.consistent, ?_⟩
      show Truthful _ none (some (c, .lookup)) s.network s.broadcasts
      exact htruthful.idle rfl rfl rfl
    · exact h
  | _ => exact hother (fun _ heq => nomatch heq) fun _ heq => nomatch heq

/-- What `Truthful` says of a call that has made its next step. -/
theorem truthful_removeSessionStep {server : ServerState} {login : Option Nat}
    {call : RemoveSessionCall} {n : Option (Nat × RemoveSessionCall)} {events : List PresenceEvent}
    (hcons : server.Consistent)
    (h : Truthful server.users.userSessions login (some (c, call)) n events)
    (hlookup : ∀ c' ∈ lookedUp (c, call), ∀ session ∈ n.bind removed, session.1 ≠ c')
    (hlogout : ∀ u ∈ loggedOut (c, call), login ≠ some u) :
    (removeSessionStep server c call).1.Consistent ∧
      Truthful (removeSessionStep server c call).1.users.userSessions login
        ((removeSessionStep server c call).2.1.map (c, ·)) n
        (events ++ (removeSessionStep server c call).2.2) := by
  cases call with
  | lookup =>
    obtain ⟨server', hserved, hstep⟩ := ServerState.removeSessionStep_lookup (c := c) hcons
    rw [hstep, List.append_nil, hserved.sessions]
    refine ⟨hcons.of_served hserved, ?_⟩
    cases hsession : server.users.userSessions.findLeft c with
    | none => exact h.idle rfl rfl rfl
    | some u => exact h.lookup (Bimap.findLeft_eq_some.mp hsession) (hlookup c rfl)
  | broadcast u => exact ⟨hcons, h.broadcast (hlogout u rfl)⟩
  | erase u =>
    refine ⟨⟨hcons.users, hcons.channels, fun c' w hw => ?_, hcons.assigned⟩, ?_⟩
    · exact hcons.sessions c' w (Bimap.mem_eraseLeft.mp hw).1
    · show Truthful (server.users.userSessions.eraseLeft c) login none n (events ++ [])
      rw [List.append_nil]
      exact h.erase

/-- The next step of the handler. -/
theorem presenceInv_application (h : PresenceInv s) (hturn : s.InTurn .application)
    (hs : s.applicationStep = some s') : PresenceInv s' := by
  have htruthful := h.truthful
  unfold applicationStep at hs
  cases happ : s.application with
  | idle =>
    rw [happ] at hs
    cases hs
  | authenticate u =>
    rw [happ] at hs
    cases hs
    simp only [pendingLogin, applicationCall, happ] at htruthful
    exact ⟨h.consistent, htruthful.announce⟩
  | logout c call =>
    rw [happ] at hs
    simp only [pendingLogin, applicationCall, happ] at htruthful
    simp only [InTurn, applicationCall, happ, Option.bind_some] at hturn
    obtain ⟨hcons, hnext⟩ := truthful_removeSessionStep h.consistent htruthful hturn
      (fun u _ => (Option.some_ne_none u).symm)
    dsimp only at hs
    generalize removeSessionStep s.server c call = result at hs hcons hnext
    obtain ⟨server, next, events⟩ := result
    cases next with
    | some call =>
      cases hs
      exact ⟨hcons, hnext⟩
    | none =>
      -- `HandleLogout` goes on and unassigns the connection.
      cases hs
      refine ⟨⟨hcons.users, hcons.channels, hcons.sessions, fun c' ch hch => ?_⟩, hnext⟩
      exact hcons.assigned c' ch (MultiBimap.mem_eraseLeft.mp hch).1

/-- The next step of `OnDisconnected`. -/
theorem presenceInv_network (h : PresenceInv s) (hturn : s.InTurn .network)
    (hs : s.networkStep = some s') : PresenceInv s' := by
  have htruthful := h.truthful.symm
  cases hnet : s.network with
  | none =>
    rw [networkStep, hnet] at hs
    cases hs
  | some call =>
    obtain ⟨c, call⟩ := call
    rw [networkStep, hnet] at hs
    cases hs
    rw [hnet] at htruthful
    simp only [InTurn, hnet, Option.bind_some] at hturn
    have hlogout : ∀ u ∈ loggedOut (c, call), s.pendingLogin ≠ some u := by
      intro u hu hlogin
      refine hturn.2 u hu ?_
      unfold pendingLogin at hlogin
      cases happ : s.application <;> simp_all
    obtain ⟨hcons, hnext⟩ := truthful_removeSessionStep h.consistent htruthful hturn.1 hlogout
    exact ⟨hcons, hnext.symm⟩

/-- Every step in turn keeps the invariant. -/
theorem presenceInv_step (h : PresenceInv s) (hturn : s.InTurn op) (hs : s.step op = some s') :
    PresenceInv s' := by
  cases op with
  | connect =>
    cases hs
    exact h.server ⟨h.consistent.users, h.consistent.channels, h.consistent.sessions,
      h.consistent.assigned⟩ rfl
  | handle c m =>
    simp only [step, Option.ite_none_right_eq_some] at hs
    obtain ⟨⟨hidle, -⟩, hs⟩ := hs
    cases hs
    exact presenceInv_handle h hidle c m
  | application => exact presenceInv_application h hturn hs
  | disconnect c =>
    simp only [step, Option.ite_none_right_eq_some] at hs
    obtain ⟨⟨hnet, -⟩, hs⟩ := hs
    cases hs
    have htruthful := h.truthful.symm
    rw [hnet] at htruthful
    exact ⟨ServerRun.consistent_removeConnection h.consistent c,
      (htruthful.idle rfl rfl rfl).symm⟩
  | network => exact presenceInv_network h hturn hs

/-- The invariant holds in every run whose steps are in turn. -/
theorem presenceInv_reachable (h : presenceRuns.Reachable InTurn s) : PresenceInv s := by
  refine h.invariant ?_ fun s op s' ih hturn hs => presenceInv_step ih hturn hs
  rintro s ⟨db, rfl⟩
  exact presenceInv_begin db

/-- In a run whose steps are in turn, the login and logout events about each user alternate and
begin with a login. While no handler and no `OnDisconnected` is in progress, a user has a session
exactly when the last event about the user is a login. -/
theorem presence_truthful (h : presenceRuns.Reachable InTurn s) (u : Nat) :
    s.Alternate u ∧ (s.application = .idle → s.network = none →
      ((∃ c, (c, u) ∈ s.server.users.userSessions) ↔ s.Present u)) := by
  obtain ⟨-, htruthful⟩ := presenceInv_reachable h
  refine ⟨htruthful.alternate u, fun hidle hnet => ?_⟩
  have hpresent := htruthful.present u
  simp only [pendingLogin, applicationCall, hidle, hnet] at hpresent
  show _ ↔ (eventsOf u s.broadcasts).getLast? = some true
  rw [hpresent]
  simp

/-- A disconnect logs the user out between two steps of the application thread, and the user logs
in again on a second connection. -/
theorem presence_truthful_again :
    ∃ s, presenceRuns.Reachable InTurn s ∧ s.broadcasts = [.login 1, .logout 1, .login 1] ∧
      s.Alternate 1 ∧ ∃ c, (c, 1) ∈ s.server.users.userSessions := by
  have hstart : presenceRuns.Reachable InTurn { server := ServerState.begin Database.empty } :=
    .start ⟨Database.empty, rfl⟩
  obtain ⟨s, hreach, hidle, hnet, hbroadcasts, hpresent⟩ := hstart.exists_of_exec
    [.connect, .connect, .handle 1 (.createUserRequest ⟨1, "ann", "pw"⟩),
      .handle 1 (.authenticateUserRequest ⟨2, "ann", "pw"⟩), .disconnect 1, .network, .application,
      .network, .handle 2 (.logoutRequest ⟨3⟩), .network,
      .handle 2 (.authenticateUserRequest ⟨4, "ann", "pw"⟩), .application]
    (fun s => s.application = .idle ∧ s.network = none ∧
      s.broadcasts = [.login 1, .logout 1, .login 1] ∧ s.Present 1)
    (by decide +kernel)
  obtain ⟨halternate, hiff⟩ := presence_truthful hreach 1
  exact ⟨s, hreach, hbroadcasts, halternate, (hiff hidle hnet).mpr hpresent⟩

/-- A logout request and a socket error of the same connection: both calls of `RemoveSession` find
the session, and the logout is broadcast twice. -/
theorem logout_broadcast_twice :
    ∃ s, presenceRuns.Reachable Lts.anyStep s ∧ s.broadcasts = [.login 1, .logout 1, .logout 1] ∧
      ¬ s.Alternate 1 := by
  have hstart : presenceRuns.Reachable Lts.anyStep { server := ServerState.begin Database.empty } :=
    .start ⟨Database.empty, rfl⟩
  exact hstart.exists_of_exec
    [.connect, .handle 1 (.createUserRequest ⟨1, "ann", "pw"⟩),
      .handle 1 (.authenticateUserRequest ⟨2, "ann", "pw"⟩), .application,
      .handle 1 (.logoutRequest ⟨3⟩), .disconnect 1, .application, .network, .application, .network]
    (fun s => s.broadcasts = [.login 1, .logout 1, .logout 1] ∧ ¬ s.Alternate 1)
    (by decide +kernel)

end PresenceRun

end ChatCore.Server
