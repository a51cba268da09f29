import ChatCore.Client.UiSystem
import ChatCore.Lib.Wakeup
import Mathlib.Data.List.DropRight
import Mathlib.Data.Multiset.AddSub

/-!
# `ChatCore.Proofs.UiSystem`: what the user gets to see

The log is a window of the last 99 lines of the banner and the lines that `WriteLine` has had
(`writeLine_rtake`). These are the lines that were put into the queue, in the same order, less those
that are still in the buffer or in the queue (`UiInv.order`).

Two changes must not go unnoticed. A line in the queue has an event that it is taken by
(`lineWaits`), and a channel name that is not on the screen has an event after which the screen is
drawn again (`nameWaits`). Both are posted after the change, so both are a `Wakeup`. The first one
does not hold for the lines from before the loop, because the screen may drop an event that is
posted too early: they wait for the next line.

The internal steps decrease `work`, so the thread comes to rest. Then it has drawn everything. With
`Exit` called it has ended.

All this holds of every screen that is `Documented`. What its functions do is used once, in
`stepped_of_step`.
-/

set_option autoImplicit false

namespace ChatCore.Client

open ChatCore.Lib

/-! ### The screen -/

/-- A task is posted unless the screen has quit. -/
theorem QueueScreen.posts_post (s : QueueScreen) (task : ScreenTask) :
    Screen.queue.Posts task s (s.post task) := by
  unfold post
  split
  · rename_i hquit
    exact ⟨.inr ⟨hquit, rfl⟩, rfl, rfl⟩
  · exact ⟨.inl rfl, rfl, rfl⟩

/-- It does what `UiSystem` relies on. -/
theorem Screen.documented_queue : Screen.queue.Documented where
  postEvent s event := s.posts_post (.event event)
  exit s := s.posts_post .exit
  next_event := by
    rintro ⟨_ | ⟨_ | _, tasks⟩, _ | _, _ | _⟩ event s' hnext <;> cases hnext <;>
      exact ⟨rfl, rfl, rfl⟩
  next_exit := by
    rintro ⟨_ | ⟨_ | _, tasks⟩, _ | _, _ | _⟩ s' hnext <;> cases hnext <;> exact ⟨rfl, rfl⟩
  next_render := by
    rintro ⟨_ | ⟨_ | _, tasks⟩, _ | _, _ | _⟩ s' hnext <;> cases hnext <;>
      exact ⟨rfl, rfl, rfl, rfl⟩
  next_leave := by
    rintro ⟨_ | ⟨_ | _, tasks⟩, _ | _, _ | _⟩ s' hnext <;> cases hnext
    exact ⟨rfl, rfl, rfl, rfl⟩
  next_none := by
    rintro ⟨_ | ⟨_ | _, tasks⟩, _ | _, _ | _⟩ hnext <;> cases hnext
    exact ⟨rfl, rfl, rfl⟩

/-! ### The log -/

/-- The log after a line: the oldest line goes when there would be 100. -/
theorem writeLine_rtake (lines : List String) (line : String) :
    writeLine (lines.rtake 99) line = (lines ++ [line]).rtake 99 := by
  have hlength : (lines.rtake 99 ++ [line]).length = min lines.length 99 + 1 := by
    simp only [List.rtake, List.length_append, List.length_drop, List.length_singleton]
    omega
  unfold writeLine
  simp only [hlength]
  by_cases hfull : 99 ≤ lines.length
  · rw [if_neg (by omega)]
    simp only [List.rtake, List.length_append, List.length_singleton]
    rw [List.tail_append_of_ne_nil (by simp; omega), List.tail_drop,
      List.drop_append_of_le_length (by omega)]
    congr 2
    omega
  · rw [if_pos (by omega)]
    simp only [List.rtake, List.length_append, List.length_singleton]
    rw [Nat.sub_eq_zero_of_le (by omega), Nat.sub_eq_zero_of_le (by omega), List.drop_zero,
      List.drop_zero]

namespace UiStage

/-- The thread is about to take the queue. -/
def taking (stage : UiStage) : Nat := if stage = .handling .custom then 1 else 0

/-- How many steps the thread has ahead of it because of where it stands. -/
def rest : UiStage → Nat
  | .ended => 0
  | .looping => 1
  | .writing => 2
  | .handling _ => 3

end UiStage

namespace UiSystem

variable {σ : Type} {S : Screen σ} {s s' : UiSystem σ}

/-! ### The steps -/

/-- What a step does. -/
inductive Stepped (S : Screen σ) (s : UiSystem σ) : UiOp → UiSystem σ → Prop
  | addLine (line : String) (adding : List String) : Stepped S s (.addLine line)
      { s with adding := adding }
  | emplace {i : Nat} {line : String} : s.adding[i]? = some line → Stepped S s (.emplace i)
      { s with
        adding := s.adding.eraseIdx i
        messageQueue := s.messageQueue ++ [line]
        posting := s.posting + 1
        added := s.added ++ [line] }
  | setChannelName (channelName : Option String) : Stepped S s (.setChannelName channelName)
      { s with channelName := channelName, posting := s.posting + 1 }
  | postEvent {screen : σ} : 0 < s.posting → S.Posts (.event .custom) s.screen screen →
      Stepped S s .postEvent { s with posting := s.posting - 1, screen := screen }
  | post {event : ScreenEvent} {screen : σ} : S.Posts (.event event) s.screen screen →
      Stepped S s (.post event) { s with screen := screen }
  | unsubscribe : Stepped S s .unsubscribe { s with subscribed := false }
  | exit {screen : σ} : S.Posts .exit s.screen screen →
      Stepped S s .exit { s with screen := screen }
  | takes {event : ScreenEvent} {screen : σ} : s.stage = .looping →
      S.pending s.screen = .event event :: S.pending screen →
      S.quit screen = S.quit s.screen → S.drawn screen = false →
      Stepped S s .advance { s with screen := screen, stage := .handling event }
  | draws {screen : σ} : s.stage = .looping → S.pending screen = S.pending s.screen →
      S.quit screen = S.quit s.screen → S.drawn s.screen = false → S.drawn screen = true →
      Stepped S s .advance { s with screen := screen, frame := some s.render }
  | quits {screen : σ} : s.stage = .looping →
      S.pending s.screen = .exit :: S.pending screen → S.quit screen = true →
      Stepped S s .advance { s with screen := screen }
  | leaves {screen : σ} : s.stage = .looping → S.pending screen = S.pending s.screen →
      S.quit s.screen = true → S.quit screen = true → S.drawn screen = S.drawn s.screen →
      Stepped S s .advance { s with screen := screen, stage := .ended }
  | swaps : s.stage = .handling .custom → s.messageQueue ≠ [] →
      Stepped S s .advance
        { s with messageQueue := [], buffer := s.messageQueue, stage := .writing }
  /-- The event is handled in one step. -/
  | handles {event : ScreenEvent} {inputBuffer : String} {entered : List String} :
      s.stage = .handling event → (event = .custom → s.messageQueue = []) →
      Stepped S s .advance { s with
        inputBuffer := inputBuffer
        entered := entered
        stage := .looping }
  | returns : s.stage = .writing → s.buffer = [] →
      Stepped S s .advance { s with stage := .looping }
  | writes {line : String} {buffer : List String} : s.stage = .writing →
      s.buffer = line :: buffer →
      Stepped S s .advance { s with
        chatLogViewModel := writeLine s.chatLogViewModel line
        buffer := buffer
        shown := s.shown ++ [line] }

/-- `HandleEvent` is one of the steps. -/
theorem stepped_handleEvent {event : ScreenEvent} (hstage : s.stage = .handling event) :
    Stepped S s .advance (s.handleEvent event) := by
  cases event with
  | custom =>
    -- An empty queue is left alone: another event has taken its lines.
    by_cases hqueue : s.messageQueue = []
    · have heq : s.handleEvent .custom = { s with stage := .looping } := by
        simp [handleEvent, hqueue]
      rw [heq]
      exact .handles hstage fun _ => hqueue
    · have heq : s.handleEvent .custom
          = { s with messageQueue := [], buffer := s.messageQueue, stage := .writing } := by
        simp [handleEvent, hqueue]
      rw [heq]
      exact .swaps hstage hqueue
  | returnKey =>
    by_cases hempty : s.inputBuffer = ""
    · have heq : s.handleEvent .returnKey = { s with stage := .looping } := if_pos hempty
      rw [heq]
      exact .handles hstage (by simp)
    · have heq : s.handleEvent .returnKey
          = { s with
              entered := s.entered ++ [s.inputBuffer]
              inputBuffer := ""
              stage := .looping } := if_neg hempty
      rw [heq]
      exact .handles hstage (by simp)
  | edit text => exact .handles hstage (by simp)

/-- The thread of the user interface takes one of the steps. -/
theorem stepped_advance (hS : S.Documented) (hs : s.advance S = some s') :
    Stepped S s .advance s' := by
  unfold advance at hs
  split at hs
  · rename_i hstage
    obtain ⟨⟨action, screen⟩, hnext, rfl⟩ := Option.map_eq_some_iff.mp hs
    -- One law of the screen for each of its actions.
    cases action with
    | event event =>
      obtain ⟨hpending, hquit, hdrawn⟩ := hS.next_event _ _ _ hnext
      exact .takes hstage hpending hquit hdrawn
    | render =>
      obtain ⟨hpending, hquit, hundrawn, hdrawn⟩ := hS.next_render _ _ hnext
      exact .draws hstage hpending hquit hundrawn hdrawn
    | exit =>
      obtain ⟨hpending, hquit⟩ := hS.next_exit _ _ hnext
      exact .quits hstage hpending hquit
    | leave =>
      obtain ⟨hpending, hquit, hquit', hdrawn⟩ := hS.next_leave _ _ hnext
      exact .leaves hstage hpending hquit hquit' hdrawn
  · rename_i event hstage
    obtain rfl := Option.some.inj hs
    exact stepped_handleEvent hstage
  · rename_i hstage
    split at hs
    · rename_i hbuffer
      obtain rfl := Option.some.inj hs
      exact .returns hstage hbuffer
    · rename_i line buffer hbuffer
      obtain rfl := Option.some.inj hs
      exact .writes hstage hbuffer
  · cases hs

/-- Every step is one of these. -/
theorem stepped_of_step (hS : S.Documented) {l : UiOp} (hs : s.step S l = some s') :
    Stepped S s l s' := by
  cases l with
  | addLine line =>
    obtain rfl := Option.some.inj hs
    split
    · exact .addLine line _
    · exact .addLine line s.adding
  | emplace i =>
    obtain ⟨line, hget, rfl⟩ := Option.map_eq_some_iff.mp hs
    exact .emplace hget
  | setChannelName channelName =>
    obtain rfl := Option.some.inj hs
    exact .setChannelName channelName
  | postEvent =>
    simp only [step, Option.ite_none_left_eq_some] at hs
    obtain ⟨hpos, hs⟩ := hs
    obtain rfl := Option.some.inj hs
    exact .postEvent (by omega) (hS.postEvent s.screen .custom)
  | post event =>
    obtain rfl := Option.some.inj hs
    exact .post (hS.postEvent s.screen event)
  | unsubscribe =>
    obtain rfl := Option.some.inj hs
    exact .unsubscribe
  | exit =>
    obtain rfl := Option.some.inj hs
    exact .exit (hS.exit s.screen)
  | advance => exact stepped_advance hS hs

/-! ### The lines -/

/-- What holds of the lines between two steps. -/
structure UiInv (S : Screen σ) (s : UiSystem σ) : Prop where
  early : s.early ≤ s.added.length
  order : s.shown ++ s.buffer ++ s.messageQueue = s.added
  log : s.chatLogViewModel = (banner ++ s.shown).rtake 99
  /-- The buffer is local to the loop over it. -/
  buffer : s.stage ≠ .writing → s.buffer = []
  /-- The frame shows the lines up to one of them. -/
  frame : ∀ frame ∈ s.frame, ∃ n ≤ s.added.length,
    frame.log = (banner ++ s.added.take n).rtake 99
  /-- While an event is handled the component has to be drawn again. -/
  undrawn : s.stage = .writing ∨ (∃ event, s.stage = .handling event) → S.drawn s.screen = false
  /-- The frame shows the log and the input. -/
  drawn : S.quit s.screen = false → s.stage = .looping → S.drawn s.screen = true →
    ∃ frame, s.frame = some frame ∧ frame.log = s.chatLogViewModel ∧
      frame.input = s.inputBuffer
  ended : s.stage = .ended → S.quit s.screen = true

/-- The lines that are written are the first ones that were added. -/
theorem shown_eq_take (hinv : UiInv S s) : s.shown = s.added.take s.shown.length := by
  rw [← hinv.order, List.append_assoc, List.take_left]

/-- What is posted to the screen changes none of the lines. -/
theorem UiInv.posts {task : ScreenTask} {screen : σ} (hinv : UiInv S s)
    (hposts : S.Posts task s.screen screen) : UiInv S { s with screen := screen } := by
  obtain ⟨-, hquit, hdrawn⟩ := hposts
  refine ⟨hinv.early, hinv.order, hinv.log, hinv.buffer, hinv.frame, ?_, ?_, ?_⟩
  · intro hstage
    rw [hdrawn]
    exact hinv.undrawn hstage
  · intro hrunning hstage hshown
    rw [hquit] at hrunning
    rw [hdrawn] at hshown
    exact hinv.drawn hrunning hstage hshown
  · intro hstage
    rw [hquit]
    exact hinv.ended hstage

/-- A step keeps the invariant. -/
theorem UiInv.step {l : UiOp} (hinv : UiInv S s) (hs : Stepped S s l s') : UiInv S s' := by
  cases hs with
  | addLine _ _ | setChannelName _ | unsubscribe =>
    exact ⟨hinv.early, hinv.order, hinv.log, hinv.buffer, hinv.frame, hinv.undrawn, hinv.drawn,
      hinv.ended⟩
  | @emplace i line _ =>
    refine ⟨?_, ?_, hinv.log, hinv.buffer, ?_, hinv.undrawn, hinv.drawn, hinv.ended⟩
    · have hearly := hinv.early
      simp only [List.length_append]
      omega
    · show s.shown ++ s.buffer ++ (s.messageQueue ++ [line]) = s.added ++ [line]
      rw [← hinv.order]
      simp only [List.append_assoc]
    · intro frame hframe
      obtain ⟨n, hn, hlog⟩ := hinv.frame frame hframe
      refine ⟨n, ?_, ?_⟩
      · simp only [List.length_append]
        omega
      · rw [List.take_append_of_le_length hn]
        exact hlog
  | postEvent _ hposts =>
    have hposted := hinv.posts hposts
    exact ⟨hposted.early, hposted.order, hposted.log, hposted.buffer, hposted.frame,
      hposted.undrawn, hposted.drawn, hposted.ended⟩
  | post hposts | exit hposts => exact hinv.posts hposts
  | takes hstage _ _ hdrawn =>
    -- From here on to the next frame the component counts as not drawn.
    refine ⟨hinv.early, hinv.order, hinv.log, ?_, hinv.frame, fun _ => hdrawn, ?_, ?_⟩
    · intro _
      exact hinv.buffer (by simp [hstage])
    · intro _ h
      cases h
    · intro h
      cases h
  | draws hstage _ _ _ _ =>
    refine ⟨hinv.early, hinv.order, hinv.log, hinv.buffer, ?_, ?_, ?_, ?_⟩
    · -- The new frame shows the log, which ends with the lines that were written.
      intro frame hframe
      obtain rfl := Option.some.inj hframe
      refine ⟨s.shown.length, ?_, ?_⟩
      · show s.shown.length ≤ s.added.length
        rw [← hinv.order, List.append_assoc, List.length_append]
        omega
      · rw [← shown_eq_take hinv]
        exact hinv.log
    · rintro (h | ⟨event, h⟩)
      · simp [hstage] at h
      · simp [hstage] at h
    · intro _ _ _
      exact ⟨s.render, rfl, rfl, rfl⟩
    · intro h
      simp [hstage] at h
  | quits hstage _ hquit =>
    refine ⟨hinv.early, hinv.order, hinv.log, hinv.buffer, hinv.frame, ?_, ?_, fun _ => hquit⟩
    · rintro (h | ⟨event, h⟩)
      · simp [hstage] at h
      · simp [hstage] at h
    · intro hrunning
      exact absurd (hrunning.symm.trans hquit) Bool.false_ne_true
  | leaves hstage _ _ hquit _ =>
    refine ⟨hinv.early, hinv.order, hinv.log, ?_, hinv.frame, ?_, ?_, fun _ => hquit⟩
    · intro _
      exact hinv.buffer (by simp [hstage])
    · rintro (h | ⟨event, h⟩) <;> cases h
    · intro _ h
      cases h
  | swaps hstage _ =>
    refine ⟨hinv.early, ?_, hinv.log, fun h => absurd rfl h, hinv.frame,
      fun _ => hinv.undrawn (.inr ⟨_, hstage⟩), ?_, ?_⟩
    · -- The buffer was empty, so the queue takes its place in the order.
      have hbuffer := hinv.buffer (by simp [hstage])
      have horder := hinv.order
      rw [hbuffer, List.append_nil] at horder
      simpa using horder
    · intro _ h
      cases h
    · intro h
      cases h
  | handles hstage _ =>
    have hundrawn := hinv.undrawn (.inr ⟨_, hstage⟩)
    refine ⟨hinv.early, hinv.order, hinv.log, ?_, hinv.frame, fun _ => hundrawn, ?_,
      fun h => by cases h⟩
    · intro _
      exact hinv.buffer (by simp [hstage])
    · intro _ _ hdrawn
      exact absurd (hundrawn.symm.trans hdrawn) Bool.false_ne_true
  | returns hstage hbuffer =>
    have hundrawn := hinv.undrawn (.inl hstage)
    refine ⟨hinv.early, hinv.order, hinv.log, fun _ => hbuffer, hinv.frame, fun _ => hundrawn, ?_,
      fun h => by cases h⟩
    intro _ _ hdrawn
    exact absurd (hundrawn.symm.trans hdrawn) Bool.false_ne_true
  | @writes line buffer hstage hbuffer =>
    refine ⟨hinv.early, ?_, ?_, fun h => absurd hstage h, hinv.frame, hinv.undrawn, ?_,
      hinv.ended⟩
    · have horder := hinv.order
      rw [hbuffer] at horder
      simpa using horder
    · show writeLine s.chatLogViewModel line = (banner ++ (s.shown ++ [line])).rtake 99
      rw [hinv.log, writeLine_rtake, List.append_assoc]
    · intro _ h
      simp [hstage] at h

/-- The invariant holds in every run. -/
theorem uiInv_reachable (hS : S.Documented) (h : (uiSystems S).Reachable Lts.anyStep s) :
    UiInv S s := by
  induction h with
  | start hstart =>
    obtain ⟨screen, lines, adding, posting, channelName, -, hdrawn, rfl⟩ := hstart
    refine ⟨Nat.le_refl _, rfl, rfl, fun _ => rfl, ?_, fun _ => hdrawn, ?_, fun h => by cases h⟩
    · intro frame hframe
      cases hframe
    · intro _ _ hshown
      exact absurd (hdrawn.symm.trans hshown) Bool.false_ne_true
  | step _ _ hs ih => exact ih.step (stepped_of_step hS hs)

/-! ### What must not go unnoticed -/

/-- A line that came during the loop is in the queue. It is waiting for an event. -/
def lineWaits (S : Screen σ) : Wakeup (UiSystem σ) where
  asleep s := S.quit s.screen = false
  ready s := s.messageQueue ≠ [] ∧ s.early < s.added.length
  signals s := s.posting + (S.pending s.screen).count (.event .custom) + s.stage.taking

/-- The prompt on the screen is not the current one. It is waiting for the next frame. -/
def nameWaits (S : Screen σ) : Wakeup (UiSystem σ) where
  asleep s := S.quit s.screen = false
  ready s := s.frame.map Frame.prompt ≠ some s.prompt
  signals s := s.posting + (S.pending s.screen).length + (!S.drawn s.screen).toNat

/-- A screen that has not quit takes every task. -/
theorem posts_of_running {task : ScreenTask} {screen screen' : σ}
    (hposts : S.Posts task screen screen') (hquit : S.quit screen' = false) :
    S.pending screen' = S.pending screen ++ [task] := by
  obtain ⟨hpending | ⟨hstopped, -⟩, hquit', -⟩ := hposts
  · exact hpending
  · rw [← hquit', hquit] at hstopped
    cases hstopped

/-- No step loses a line. -/
theorem lineWaits_step {l : UiOp} (hs : Stepped S s l s') : (lineWaits S).Move s s' := by
  have hpost : ∀ {task screen}, S.Posts task s.screen screen →
      (lineWaits S).Move s { s with screen := screen } := by
    intro task screen hposts
    -- A screen that has quit needs no signal: its loop handles what there is and returns.
    by_cases hquit : S.quit screen = false
    · refine .keeps ?_ id ?_
      · intro _
        show S.quit s.screen = false
        rw [← hposts.2.1]
        exact hquit
      · show s.posting + (S.pending s.screen).count _ + s.stage.taking
          ≤ s.posting + (S.pending screen).count _ + s.stage.taking
        rw [posts_of_running hposts hquit, List.count_append]
        omega
    · exact .awake hquit
  cases hs with
  | addLine _ _ | unsubscribe => exact .keeps id id (Nat.le_refl _)
  | emplace _ | setChannelName _ =>
    refine .signal ?_
    show 0 < s.posting + 1 + _ + _
    omega
  | @postEvent screen hpos hposts =>
    by_cases hquit : S.quit screen = false
    · refine .signal ?_
      show 0 < s.posting - 1 + (S.pending screen).count _ + _
      rw [posts_of_running hposts hquit, List.count_append]
      simp only [List.count_singleton_self]
      omega
    · exact .awake hquit
  | post hposts | exit hposts => exact hpost hposts
  | @takes event screen hstage hpending hquit _ =>
    refine .keeps ?_ id ?_
    · intro hrunning
      exact hquit.symm.trans hrunning
    · show s.posting + (S.pending s.screen).count _ + s.stage.taking
        ≤ s.posting + (S.pending screen).count _ + (UiStage.handling event).taking
      rw [hpending, List.count_cons, hstage]
      -- A taken `Event::Custom` is still a signal until its handler has looked at the queue.
      by_cases hcustom : event = .custom
      · simp [hcustom, UiStage.taking]
        omega
      · simp [hcustom, UiStage.taking]
  | @draws screen _ hpending hquit _ _ =>
    refine .keeps ?_ id ?_
    · intro hrunning
      exact hquit.symm.trans hrunning
    · show s.posting + (S.pending s.screen).count _ + _
        ≤ s.posting + (S.pending screen).count _ + _
      rw [hpending]
  | quits _ _ hquit | leaves _ _ _ hquit _ =>
    exact .awake fun hrunning => Bool.false_ne_true (hrunning.symm.trans hquit)
  | swaps _ _ => exact .unready fun hready => hready.1 rfl
  | @handles event _ _ hstage hqueue =>
    -- `Event::Custom` is handled in one step only when the queue is empty.
    by_cases hcustom : event = .custom
    · exact .unready fun hready => hready.1 (hqueue hcustom)
    · refine .keeps id id ?_
      show s.posting + _ + s.stage.taking ≤ s.posting + _ + 0
      rw [hstage, UiStage.taking, if_neg (by simpa using hcustom)]
  | returns hstage _ =>
    refine .keeps id id ?_
    show s.posting + _ + s.stage.taking ≤ s.posting + _ + 0
    rw [hstage]
    exact Nat.le_refl _
  | writes _ _ => exact .keeps id id (Nat.le_refl _)

/-- No step loses a change of the channel name. -/
theorem nameWaits_step {l : UiOp} (hs : Stepped S s l s') : (nameWaits S).Move s s' := by
  have hpost : ∀ {task screen}, S.Posts task s.screen screen → ∀ {posting : Nat},
      (nameWaits S).Move s { s with posting := posting, screen := screen } := by
    intro task screen hposts posting
    by_cases hquit : S.quit screen = false
    · refine .signal ?_
      show 0 < posting + (S.pending screen).length + _
      rw [posts_of_running hposts hquit, List.length_append, List.length_singleton]
      omega
    · exact .awake hquit
  cases hs with
  | addLine _ _ | unsubscribe | swaps _ _ | handles _ _ | returns _ _ | writes _ _ =>
    exact .keeps id id (Nat.le_refl _)
  | emplace _ | setChannelName _ =>
    refine .signal ?_
    show 0 < s.posting + 1 + _ + _
    omega
  | postEvent _ hposts => exact hpost hposts
  | post hposts | exit hposts => exact hpost hposts
  | @takes event screen _ _ _ hdrawn =>
    -- The event is gone, but a frame is due.
    refine .signal ?_
    show 0 < s.posting + (S.pending screen).length + (!S.drawn screen).toNat
    rw [hdrawn]
    exact Nat.succ_pos _
  | draws _ _ _ _ _ => exact .unready fun hready => hready rfl
  | quits _ _ hquit | leaves _ _ _ hquit _ =>
    exact .awake fun hrunning => Bool.false_ne_true (hrunning.symm.trans hquit)

/-- In every run a line that came during the loop will be taken. -/
theorem lineWaits_notLost (hS : S.Documented) (h : (uiSystems S).Reachable Lts.anyStep s) :
    (lineWaits S).NotLost s := by
  refine Wakeup.notLost_reachable ?_ (fun _ _ _ hs => lineWaits_step (stepped_of_step hS hs)) h
  intro s hstart _ hready
  obtain ⟨screen, lines, adding, posting, channelName, -, -, rfl⟩ := hstart
  exact absurd hready.2 (Nat.lt_irrefl _)

/-- In every run the prompt will be drawn. -/
theorem nameWaits_notLost (hS : S.Documented) (h : (uiSystems S).Reachable Lts.anyStep s) :
    (nameWaits S).NotLost s := by
  refine Wakeup.notLost_reachable ?_ (fun _ _ _ hs => nameWaits_step (stepped_of_step hS hs)) h
  intro s hstart _ _
  obtain ⟨screen, lines, adding, posting, channelName, -, hdrawn, rfl⟩ := hstart
  show 0 < posting + (S.pending screen).length + (!S.drawn screen).toNat
  rw [hdrawn]
  exact Nat.succ_pos _

/-! ### Progress -/

/-- A bound for the internal steps to come. A line costs a post, a post an event, an event a
frame. -/
def work (S : Screen σ) (s : UiSystem σ) : Nat :=
  7 * s.adding.length + 5 * s.posting + 4 * (S.pending s.screen).length + s.stage.rest
    + (s.messageQueue.length + s.buffer.length) + (!S.drawn s.screen).toNat

/-- An internal step decreases it. -/
theorem work_step {l : UiOp} (hl : l.Internal) (hs : Stepped S s l s') : s'.work S < s.work S := by
  cases hs with
  | addLine _ _ | setChannelName _ | post _ | unsubscribe | exit _ => exact hl.elim
  | emplace hget =>
    have hlength := length_eraseIdx_of_get hget
    unfold work
    simp only [List.length_append, List.length_singleton]
    omega
  | @postEvent screen hpos hposts =>
    obtain ⟨hpending, -, hdrawn⟩ := hposts
    -- A screen that has quit may take no event, and then there is even less to do.
    have hlength : (S.pending screen).length ≤ (S.pending s.screen).length + 1 := by
      rcases hpending with hpending | ⟨-, hpending⟩ <;> simp [hpending]
    unfold work
    dsimp only
    rw [hdrawn]
    omega
  | @takes event screen hstage hpending _ _ =>
    have hflag : (!S.drawn screen).toNat ≤ 1 := Bool.toNat_le _
    unfold work
    simp only [hstage, hpending, List.length_cons, UiStage.rest]
    omega
  | draws _ hpending _ hundrawn hdrawn =>
    unfold work
    simp only [hpending, hundrawn, hdrawn, Bool.not_false, Bool.not_true, Bool.toNat_true,
      Bool.toNat_false]
    omega
  | @quits screen _ hpending _ =>
    -- Nothing is said of `drawn` here, so a frame may be due once more.
    have hflag : (!S.drawn screen).toNat ≤ 1 := Bool.toNat_le _
    unfold work
    simp only [hpending, List.length_cons]
    omega
  | leaves hstage hpending _ _ hdrawn =>
    unfold work
    simp only [hstage, hpending, hdrawn, UiStage.rest]
    omega
  | swaps hstage _ =>
    unfold work
    simp only [hstage, UiStage.rest, List.length_nil]
    omega
  | handles hstage _ | returns hstage _ =>
    unfold work
    simp only [hstage, UiStage.rest]
    omega
  | writes hstage hbuffer =>
    unfold work
    simp only [hbuffer, List.length_cons]
    omega

/-- Once `Exit` was called, it stays called. -/
theorem exiting_step {l : UiOp} (hexit : s.Exiting S) (hs : Stepped S s l s') : s'.Exiting S := by
  have hpost : ∀ {task screen}, S.Posts task s.screen screen →
      S.quit screen = true ∨ .exit ∈ S.pending screen := by
    rintro task screen ⟨hpending, hquit, -⟩
    rcases hexit with hstopped | hmem
    · exact .inl (hquit.trans hstopped)
    · rcases hpending with hpending | ⟨-, hpending⟩
      · exact .inr (hpending ▸ List.mem_append_left _ hmem)
      · exact .inr (hpending ▸ hmem)
  cases hs with
  | addLine _ _ | emplace _ | setChannelName _ | unsubscribe | swaps _ _ | handles _ _
  | returns _ _ | writes _ _ => exact hexit
  | postEvent _ hposts => exact hpost hposts
  | post hposts | exit hposts => exact hpost hposts
  | takes _ hpending hquit _ =>
    rcases hexit with hstopped | hmem
    · exact .inl (hquit.trans hstopped)
    · rw [hpending, List.mem_cons] at hmem
      rcases hmem with heq | hmem
      · cases heq
      · exact .inr hmem
  | draws _ hpending hquit _ _ =>
    rcases hexit with hstopped | hmem
    · exact .inl (hquit.trans hstopped)
    · exact .inr (hpending ▸ hmem)
  | quits _ _ hquit | leaves _ _ _ hquit _ => exact .inl hquit

/-- The steps of the threads on their own do not call `Exit`. -/
theorem exiting_of_internal {l : UiOp} (hl : l.Internal) (hs : Stepped S s l s')
    (hexit : s'.Exiting S) : s.Exiting S := by
  cases hs with
  | addLine _ _ | setChannelName _ | post _ | unsubscribe | exit _ => exact hl.elim
  | emplace _ | swaps _ _ | handles _ _ | returns _ _ | writes _ _ => exact hexit
  | @postEvent screen _ hposts =>
    obtain ⟨hpending, hquit, -⟩ := hposts
    rcases hexit with hstopped | hmem
    · exact .inl (hquit.symm.trans hstopped)
    · have hmem' : .exit ∈ S.pending screen := hmem
      rcases hpending with hpending | ⟨-, hpending⟩
      · rw [hpending] at hmem'
        exact .inr (by simpa using hmem')
      · exact .inr (hpending ▸ hmem')
  | takes _ hpending hquit _ =>
    rcases hexit with hstopped | hmem
    · exact .inl (hquit.symm.trans hstopped)
    · exact .inr (hpending ▸ List.mem_cons_of_mem _ hmem)
  | draws _ hpending hquit _ _ =>
    rcases hexit with hstopped | hmem
    · exact .inl (hquit.symm.trans hstopped)
    · exact .inr (hpending ▸ hmem)
  | quits _ hpending _ => exact .inr (hpending ▸ List.mem_cons_self)
  | leaves _ _ hquit _ _ => exact .inl hquit

/-- What the threads on their own do not change: the lines, queued or on their way. -/
def requested (s : UiSystem σ) : Multiset String := s.added + s.adding

/-- Lines are added at the end. -/
theorem prefix_step {l : UiOp} (hs : Stepped S s l s') : s.added <+: s'.added := by
  cases hs with
  | emplace _ => exact List.prefix_append _ _
  | addLine _ _ | setChannelName _ | post _ | unsubscribe | exit _ | postEvent _ _ | takes _ _ _ _
  | draws _ _ _ _ _ | quits _ _ _ | leaves _ _ _ _ _ | swaps _ _ | handles _ _ | returns _ _
  | writes _ _ => exact List.prefix_rfl

/-- The threads on their own ask for nothing new. -/
theorem kept_step {l : UiOp} (hl : l.Internal) (hs : Stepped S s l s') :
    s'.requested = s.requested ∧ s'.channelName = s.channelName ∧ s'.early = s.early := by
  cases hs with
  | addLine _ _ | setChannelName _ | post _ | unsubscribe | exit _ => exact hl.elim
  | emplace hget =>
    refine ⟨?_, rfl, rfl⟩
    unfold requested
    rw [Multiset.coe_add, Multiset.coe_add, Multiset.coe_eq_coe, List.append_assoc]
    exact ((perm_eraseIdx_of_get hget).append_left _).symm
  | postEvent _ _ | takes _ _ _ _ | draws _ _ _ _ _ | quits _ _ _ | leaves _ _ _ _ _ | swaps _ _
  | handles _ _ | returns _ _ | writes _ _ => exact ⟨rfl, rfl, rfl⟩

/-- Where the threads rest: no call is under way, and the thread has nothing to do or has ended. -/
theorem rest_of_quiescent (hS : S.Documented)
    (hquiet : ∀ l, UiOp.Internal l → s.step S l = none) :
    s.adding = [] ∧ s.posting = 0 ∧
      (s.stage = .looping ∧ S.pending s.screen = [] ∧ S.quit s.screen = false ∧
        S.drawn s.screen = true ∨ s.stage = .ended) := by
  have hadding : s.adding = [] := by
    cases hcalls : s.adding with
    | nil => rfl
    | cons line lines =>
      -- The first call could enter its locked section.
      have hnone := hquiet (.emplace 0) trivial
      simp [step, hcalls] at hnone
  have hposting : s.posting = 0 := by
    by_contra hne
    have hnone := hquiet .postEvent trivial
    simp [step, hne] at hnone
  refine ⟨hadding, hposting, ?_⟩
  have hnone : s.advance S = none := hquiet .advance trivial
  unfold advance at hnone
  cases hstage : s.stage with
  | looping =>
    simp only [hstage, Option.map_eq_none_iff] at hnone
    exact .inl ⟨rfl, hS.next_none _ hnone⟩
  | handling event => simp [hstage] at hnone
  | writing =>
    cases hbuffer : s.buffer with
    | nil => simp [hstage, hbuffer] at hnone
    | cons line buffer => simp [hstage, hbuffer] at hnone
  | ended => exact .inr rfl

/-! ### Results -/

/-- The screen shows what there is to show: the prompt, the input and, if a line came during the
loop, the last lines of all. -/
def UpToDate (s : UiSystem σ) : Prop :=
  ∃ frame, s.frame = some frame ∧ frame.prompt = s.prompt ∧ frame.input = s.inputBuffer ∧
    (s.early < s.added.length → frame.log = (banner ++ s.added).rtake 99)

/-- A thread that rests has drawn everything. -/
theorem upToDate_of_quiescent (hS : S.Documented) (h : (uiSystems S).Reachable Lts.anyStep s)
    (hexit : ¬ s.Exiting S) (hquiet : ∀ l, UiOp.Internal l → s.step S l = none) :
    s.UpToDate ∧ s.adding = [] := by
  have hinv := uiInv_reachable hS h
  obtain ⟨hadding, hposting, hrest⟩ := rest_of_quiescent hS hquiet
  rcases hrest with ⟨hstage, hpending, hquit, hdrawn⟩ | hended
  · obtain ⟨frame, hframe, hlog, hinput⟩ := hinv.drawn hquit hstage hdrawn
    refine ⟨⟨frame, hframe, ?_, hinput, ?_⟩, hadding⟩
    · -- A frame with another prompt would have an event on its way.
      have hname := (nameWaits_notLost hS h).unready hquit (by
        simp [nameWaits, hposting, hpending, hdrawn])
      have hprompt : s.frame.map Frame.prompt = some s.prompt := by
        by_contra hne
        exact hname hne
      rw [hframe] at hprompt
      exact Option.some.inj hprompt
    · -- The queue is empty, so every line has been written.
      intro hlate
      have hline := (lineWaits_notLost hS h).unready hquit (by
        simp [lineWaits, UiStage.taking, hposting, hpending, hstage])
      have hqueue : s.messageQueue = [] := by
        by_contra hne
        exact hline ⟨hne, hlate⟩
      have horder := hinv.order
      rw [hqueue, hinv.buffer (by simp [hstage]), List.append_nil, List.append_nil] at horder
      rw [hlog, hinv.log, horder]
  · exact absurd (.inl (hinv.ended hended)) hexit

/-- The screen always shows the last 99 lines of the banner and of a beginning of the lines that
were added, in their order, none of them left out or shown twice. As long as `Exit` is not called it
catches up: the internal steps come to an end, and then every line that was added, the prompt and
the input are on the screen. They lead from every state to such a state. -/
theorem display_catches_up (hS : S.Documented) (h : (uiSystems S).Reachable Lts.anyStep s) :
    (∀ frame ∈ s.frame, ∃ n ≤ s.added.length,
      frame.log = (banner ++ s.added.take n).rtake 99) ∧
    (∀ l s', UiOp.Internal l → s.step S l = some s' → s'.work S < s.work S) ∧
    (¬ s.Exiting S → (∀ l, UiOp.Internal l → s.step S l = none) → s.UpToDate) ∧
    (¬ s.Exiting S → ∃ s', (uiSystems S).Leads UiOp.Internal s s' ∧ s'.UpToDate ∧
      (∀ l, UiOp.Internal l → s'.step S l = none) ∧
      s.added <+: s'.added ∧ s'.added.Perm (s.added ++ s.adding) ∧
      s'.channelName = s.channelName ∧ s'.early = s.early) := by
  refine ⟨(uiInv_reachable hS h).frame,
    fun l s' hl hs => work_step hl (stepped_of_step hS hs),
    fun hexit hquiet => (upToDate_of_quiescent hS h hexit hquiet).1, fun hexit => ?_⟩
  obtain ⟨s', hleads, hreach, hkept, hquiet⟩ := h.exists_quiescent (p := UiOp.Internal) (work S)
    (fun t => (t.requested, t.channelName, t.early, decide (t.Exiting S),
      t.added.take s.added.length)) (fun _ _ _ => trivial)
    fun t l t' _ hkept hl hs => by
      -- The lines of `s` stay at the front, so they are among what is kept.
      simp only [Prod.mk.injEq] at hkept
      obtain ⟨-, -, -, -, htake⟩ := hkept
      have hstepped := stepped_of_step hS hs
      obtain ⟨hrequested, hname, hearly⟩ := kept_step hl hstepped
      have hexiting : t'.Exiting S ↔ t.Exiting S :=
        ⟨exiting_of_internal hl hstepped, fun hexit => exiting_step hexit hstepped⟩
      have hlength : s.added.length ≤ t.added.length := by
        have hlength := congrArg List.length htake
        simp only [List.length_take] at hlength
        omega
      have htake' : t'.added.take s.added.length = t.added.take s.added.length := by
        obtain ⟨late, hlate⟩ := prefix_step hstepped
        rw [← hlate, List.take_append_of_le_length hlength]
      exact ⟨by rw [hrequested, hname, hearly, decide_eq_decide.mpr hexiting, htake'],
        work_step hl hstepped⟩
  simp only [Prod.mk.injEq, decide_eq_decide, List.take_length] at hkept
  obtain ⟨hrequested, hname, hearly, hexiting, htake⟩ := hkept
  obtain ⟨hupToDate, hadding⟩ := upToDate_of_quiescent hS hreach (mt hexiting.mp hexit) hquiet
  refine ⟨s', hleads, hupToDate, hquiet, htake ▸ List.take_prefix _ _, ?_, hname, hearly⟩
  rw [requested, requested, hadding, Multiset.coe_add, Multiset.coe_add] at hrequested
  simpa using Multiset.coe_eq_coe.mp hrequested

/-- The thread has drawn the banner and rests when a line comes. -/
theorem display_catches_up_resting :
    ∃ s, ∃ frame, s.frame = some frame ∧ frame.prompt = "chat::lobby> " ∧
      frame.log = banner ++ ["early", "hi"] ∧
      ∃ s₀, (uiSystems Screen.queue).Reachable Lts.anyStep s₀ ∧
        (uiSystems Screen.queue).Leads UiOp.Internal s₀ s := by
  have hstart : (uiSystems Screen.queue).Reachable Lts.anyStep
      { screen := {}, messageQueue := ["early"], added := ["early"], early := 1,
        channelName := some "lobby" } :=
    .start ⟨{}, ["early"], [], 0, some "lobby", rfl, rfl, rfl⟩
  obtain ⟨s, hreach, hexit, hadded, hadding, hname, hearly⟩ := hstart.exists_of_exec
    [.advance, .addLine "hi", .emplace 0]
    (fun s => ¬ s.Exiting Screen.queue ∧ s.added = ["early", "hi"] ∧ s.adding = [] ∧
      s.channelName = some "lobby" ∧ s.early = 1) (by decide)
  obtain ⟨-, -, -, hcatch⟩ := display_catches_up Screen.documented_queue hreach
  obtain ⟨s', hleads, ⟨frame, hframe, hprompt, -, hlog⟩, -, hbegins, hperm, hname', hearly'⟩ :=
    hcatch hexit
  rw [hadding, List.append_nil] at hperm
  have hadded' : s'.added = ["early", "hi"] :=
    hadded ▸ (hbegins.eq_of_length hperm.length_eq.symm).symm
  refine ⟨s', frame, hframe, ?_, ?_, s, hreach, hleads⟩
  · rw [hprompt, prompt, hname', hname]
    rfl
  · rw [hlog (by rw [hadded', hearly', hearly]; decide), hadded']
    rfl

/-- Once `Deinitialize` has called `Exit`, the join of the thread comes to an end in every order of
the steps: each internal step decreases `work`, and when none is left, the thread has ended. They
lead from every state to such a state. -/
theorem ui_thread_ends (hS : S.Documented) (h : (uiSystems S).Reachable Lts.anyStep s)
    (hexit : s.Exiting S) :
    (∀ l s', UiOp.Internal l → s.step S l = some s' → s'.Exiting S ∧ s'.work S < s.work S) ∧
    ((∀ l, UiOp.Internal l → s.step S l = none) → s.stage = .ended) ∧
    ∃ s', (uiSystems S).Leads UiOp.Internal s s' ∧ s'.stage = .ended ∧
      (∀ l, UiOp.Internal l → s'.step S l = none) ∧ s'.requested = s.requested := by
  have hstep : ∀ {t t' : UiSystem σ} {l : UiOp}, t.Exiting S → l.Internal →
      t.step S l = some t' → t'.Exiting S ∧ t'.work S < t.work S := fun hexit hl hs =>
    ⟨exiting_step hexit (stepped_of_step hS hs), work_step hl (stepped_of_step hS hs)⟩
  have hrest : ∀ {t : UiSystem σ}, t.Exiting S →
      (∀ l, UiOp.Internal l → t.step S l = none) → t.stage = .ended := by
    intro t hexit hquiet
    obtain ⟨-, -, hrest⟩ := rest_of_quiescent hS hquiet
    rcases hrest with ⟨-, hpending, hquit, -⟩ | hended
    · simp [Exiting, hpending, hquit] at hexit
    · exact hended
  refine ⟨fun l s' => hstep hexit, hrest hexit, ?_⟩
  obtain ⟨s', hleads, -, hkept, hquiet⟩ := h.exists_quiescent (p := UiOp.Internal) (work S)
    (fun t => (t.requested, decide (t.Exiting S))) (fun _ _ _ => trivial)
    fun t l t' _ hkept hl hs => by
      simp only [Prod.mk.injEq, decide_eq_decide] at hkept
      have hexiting := hkept.2.mpr hexit
      obtain ⟨hexiting', hwork⟩ := hstep hexiting hl hs
      exact ⟨by rw [(kept_step hl (stepped_of_step hS hs)).1, decide_eq_decide.mpr
        ⟨fun _ => hexiting, fun _ => hexiting'⟩], hwork⟩
  simp only [Prod.mk.injEq, decide_eq_decide] at hkept
  exact ⟨s', hleads, hrest (hkept.2.mpr hexit) hquiet, hquiet, hkept.1⟩

/-- `Exit` is called while a line is in the queue. -/
theorem ui_thread_ends_behind :
    ∃ s, s.stage = .ended ∧ s.requested = {"hi"} ∧
      ∃ s₀, (uiSystems Screen.queue).Reachable Lts.anyStep s₀ ∧
        (uiSystems Screen.queue).Leads UiOp.Internal s₀ s := by
  have hstart : (uiSystems Screen.queue).Reachable Lts.anyStep { screen := {} } :=
    .start ⟨{}, [], [], 0, none, rfl, rfl, rfl⟩
  obtain ⟨s, hreach, hexit, hadded, hadding⟩ := hstart.exists_of_exec
    [.addLine "hi", .emplace 0, .unsubscribe, .exit, .advance]
    (fun s => s.Exiting Screen.queue ∧ s.added = ["hi"] ∧ s.adding = []) (by decide)
  obtain ⟨-, -, s', hleads, hended, -, hrequested⟩ :=
    ui_thread_ends Screen.documented_queue hreach hexit
  refine ⟨s', hended, ?_, s, hreach, hleads⟩
  rw [hrequested, requested, hadded, hadding]
  rfl

end UiSystem

end ChatCore.Client
