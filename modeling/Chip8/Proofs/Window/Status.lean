import Chip8.Proofs.Engine.Upcoming
import Chip8.Proofs.Window

/-!
# What the status line says of the frame shown

A refresh puts a halt, a breakpoint or a wait of the frame shown into the status line, and leaves
the line as it is if there is none of them. Whether a line is honest about a halt is an invariant of
windows (`Steady`), since nothing ends a halt but another machine, which the line tells of
(`Move.steady`). But a wait ends with a key, and a stay at a breakpoint with a step, and neither is
told: the line goes on to say what has been. `honest_refresh_iff` says that this is the only way,
and the main result, `status_after_refresh`, that it is so after every refresh;
`status_outlives` gives two such lines.
-/

namespace Chip8

/-! ## Texts of the status line -/

namespace Status

/-- The letter with which a status begins. -/
def initial : Status → Char
  | .greeting => 'P'
  | .running | .reset => 'R'
  | .stopped => 'S'
  | .loaded _ => 'L'
  | .halted _ => 'H'
  | .atBreakpoint _ => 'B'
  | .awaitingKey => 'W'

theorem head?_text (s : Status) : s.text.head? = some (.char s.initial) := by
  cases s with
  | halted cause =>
    cases cause with
    | none => rfl
    | some f => rfl
  | _ => rfl

/-- A text that a status begins with has its letter. -/
theorem initial_of_prefix {s : Status} {c : Char} {rest : Text} (h : .char c :: rest <+: s.text) :
    s.initial = c := by
  obtain ⟨back, hback⟩ := h
  have hhead := s.head?_text
  rw [← hback] at hhead
  exact (CodePoint.char.inj (Option.some.inj hhead)).symm

theorem eq_awaitingKey_of_initial {s : Status} (h : s.initial = 'W') : s = .awaitingKey := by
  cases s with
  | awaitingKey => rfl
  | _ => simp [initial] at h

theorem eq_atBreakpoint_of_initial {s : Status} (h : s.initial = 'B') :
    ∃ pc, s = .atBreakpoint pc := by
  cases s with
  | atBreakpoint pc => exact ⟨pc, rfl⟩
  | _ => simp [initial] at h

theorem eq_halted_of_initial {s : Status} (h : s.initial = 'H') : ∃ cause, s = .halted cause := by
  cases s with
  | halted cause => exact ⟨cause, rfl⟩
  | _ => simp [initial] at h

theorem prefix_atBreakpoint (pc : Int) :
    Text.ofString "Breakpoint hit" <+: (Status.atBreakpoint pc).text :=
  ⟨Text.ofString " (PC: #" ++ Text.ofString (Numeral.upperHex 3 pc) ++ Text.ofString ")", rfl⟩

theorem prefix_halted (cause : Option Fault) :
    Text.ofString "Halted:" <+: (Status.halted cause).text := by
  cases cause with
  | none => exact ⟨Text.ofString " None", rfl⟩
  | some f => exact ⟨Text.ofString " " ++ Text.ofString f.message, rfl⟩

/-- Whether a status tells of a wait or of a stay at a breakpoint, of whose end nobody tells. -/
def IsPassing (s : Status) : Prop :=
  s = .awaitingKey ∨ ∃ pc, s = .atBreakpoint pc

end Status

/-- Whether a frame shows no halt, no breakpoint and no wait. -/
structure Frame.Plain (f : Frame) : Prop where
  halted : f.halted = false
  paused : f.paused = false
  awaiting : f.awaiting = false

/-- Whether an event is one of the window or leaves the machine in place. -/
def WindowEvent.isOwn : WindowEvent → Bool
  | .perform (.load _) _ => false
  | .perform (.loadFile _ _) _ => false
  | .perform .reset _ => false
  | _ => true

/-! ## Breakpoint edits as commands -/

/-- The command that an edit of the breakpoint pane comes to. -/
def BreakpointEdit.command : BreakpointEdit → Command
  | .added b => .add b
  | .updated old new => .update old new
  | .removed b => .remove b

namespace Window

variable {w w' u : Window} {R : Engine → Command → Prop}

theorem takeBreakpoints_engine (w : Window) (dialogs : List Dialog) (edits : List BreakpointEdit)
    (pane : BreakpointPane) :
    (w.takeBreakpoints dialogs edits pane).engine =
      w.engine.performAll (edits.map (·.command)) := by
  show w.engine.mapDebugger (fun d => edits.foldl Debugger.follow d) = _
  generalize w.engine = e
  induction edits generalizing e with
  | nil => rfl
  | cons edit rest ih =>
    cases edit with
    | added b => exact ih (e.perform (.add b))
    | updated old new => exact ih (e.perform (.update old new))
    | removed b => exact ih (e.perform (.remove b))

/-! ## Refreshing -/

/-- The frame that is shown. -/
def shown (w : Window) : Frame :=
  w.engine.latest

/-- What a refresh leaves of a window whose machine can be looked at. -/
theorem refresh_leaves (h : 0 ≤ w.engine.state.pc) :
    w.refresh.2.engine = w.engine.takeFrame.2 ∧
      w.refresh.2.status = statusOf w.engine.upcoming w.engine.lastError w.status := by
  have hok := refresh_ok h
  unfold refresh at hok ⊢
  dsimp only at hok ⊢
  split at hok
  next => cases hok
  next => exact ⟨rfl, rfl⟩

/-- **The ways in which a refresh can go.** -/
inductive StatusOf (frame : Frame) (cause : Option Fault) (before : Status) : Status → Prop
  | halted (h : frame.halted = true) : StatusOf frame cause before (.halted cause)
  | atBreakpoint (hrun : frame.halted = false) (h : frame.paused = true) :
      StatusOf frame cause before (.atBreakpoint frame.pc)
  | awaitingKey (hrun : frame.halted = false) (hpaused : frame.paused = false)
      (h : frame.awaiting = true) :
      StatusOf frame cause before .awaitingKey
  | plain (h : frame.Plain) : StatusOf frame cause before before

theorem statusOf_cases (frame : Frame) (cause : Option Fault) (before : Status) :
    StatusOf frame cause before (statusOf frame cause before) := by
  unfold statusOf
  cases hhalted : frame.halted with
  | true => exact .halted hhalted
  | false =>
    cases hpaused : frame.paused with
    | true => exact .atBreakpoint hhalted hpaused
    | false =>
      cases hawaiting : frame.awaiting with
      | true => exact .awaitingKey hhalted hpaused hawaiting
      | false => exact .plain ⟨hhalted, hpaused, hawaiting⟩

/-! ## Halts -/

/-- What every window satisfies that comes up: a status that tells of a halt does so rightly. -/
structure Steady (w : Window) : Prop where
  engine : w.engine.WellFormed
  prompt : w.engine.Prompt
  status : ∀ cause, w.status = .halted cause → w.engine.machine.halted = true ∧
    w.engine.lastError = cause

/-- A refresh puts the halt of its frame into the status line; a halt that is left there is that
of before. -/
theorem Steady.refresh (h : w.Steady) : Steady w.refresh.2 := by
  obtain ⟨hengine, hstatus⟩ := refresh_leaves h.engine.machine.state.pc_nonneg
  have hcases := statusOf_cases w.engine.upcoming w.engine.lastError w.status
  rw [← hstatus] at hcases
  generalize w.refresh.2 = left at hengine hcases
  refine ⟨?_, ?_, fun cause hcause => ?_⟩
  · rw [hengine]
    exact h.engine.update h.engine.machine rfl rfl rfl rfl
  · rw [hengine]
    exact h.prompt
  · rw [hengine]
    rw [hcause] at hcases
    generalize hafter : Status.halted cause = after at hcases
    cases hcases with
    | halted hhalted => exact ⟨h.prompt.symm.trans hhalted, (Status.halted.inj hafter).symm⟩
    | atBreakpoint => cases hafter
    | awaitingKey => cases hafter
    | plain => exact h.status cause hafter.symm

/-- Edits of the breakpoints do nothing to the machine. -/
theorem halted_performAll {e : Engine} (edits : List BreakpointEdit) (h : e.machine.halted = true) :
    (e.performAll (edits.map (·.command))).machine.halted = true ∧
      (e.performAll (edits.map (·.command))).lastError = e.lastError := by
  induction edits generalizing e with
  | nil => exact ⟨h, rfl⟩
  | cons edit rest ih =>
    have hc : ¬ e.Replaces edit.command := by
      cases edit with
      | _ => exact id
    obtain ⟨hhalted, herror⟩ := Engine.halted_perform hc h
    obtain ⟨hhalted', herror'⟩ := ih hhalted
    exact ⟨hhalted', herror'.trans herror⟩

theorem prompt_performAll {e : Engine} (hwf : e.WellFormed) (h : e.Prompt)
    (commands : List Command) :
    (e.performAll commands).Prompt := by
  induction commands generalizing e with
  | nil => exact h
  | cons c rest ih => exact ih (hwf.perform c) (h.perform hwf c)

/-- **One move** keeps a status right that tells of a halt. -/
theorem Move.steady (hmove : Move (fun e c => ¬ e.Replaces c) w w') (h : w.Steady) : w'.Steady := by
  cases hmove with
  | serve c _ hc =>
    obtain ⟨log, tone, beeps, heq⟩ := w.takeEngine_leaves (w.engine.perform c)
    rw [heq]
    refine ⟨(h.engine.perform c).update (h.engine.perform c).machine rfl rfl rfl rfl,
      h.prompt.perform h.engine c,
      fun cause hcause => ?_⟩
    obtain ⟨hhalted, herror⟩ := h.status cause hcause
    obtain ⟨hhalted', herror'⟩ := Engine.halted_perform hc hhalted
    exact ⟨hhalted', herror'.trans herror⟩
  | announce c _ status running hstatus =>
    obtain ⟨log, tone, beeps, heq⟩ := w.takeEngine_leaves (w.engine.perform c)
    rw [heq]
    exact ⟨(h.engine.perform c).update (h.engine.perform c).machine rfl rfl rfl rfl,
      h.prompt.perform h.engine c,
      fun cause hcause => absurd hcause (hstatus cause)⟩
  | refresh => exact h.refresh
  | beside => exact ⟨h.engine, h.prompt, h.status⟩

/-- So does a change of the breakpoint pane. -/
theorem Steady.takeBreakpoints (h : w.Steady) (dialogs : List Dialog) (edits : List BreakpointEdit)
    (pane : BreakpointPane) : (w.takeBreakpoints dialogs edits pane).Steady := by
  have hengine := w.takeBreakpoints_engine dialogs edits pane
  refine ⟨?_, ?_, fun cause hcause => ?_⟩
  · rw [hengine]
    exact h.engine.performAll _
  · rw [hengine]
    exact prompt_performAll h.engine h.prompt _
  · obtain ⟨hhalted, herror⟩ := h.status cause hcause
    obtain ⟨hhalted', herror'⟩ := halted_performAll edits hhalted
    rw [hengine]
    exact ⟨hhalted', herror'.trans herror⟩

/-- **One event** does, unless another machine is put in place behind the window. -/
theorem Steady.after {event : WindowEvent} (h : w.Steady) (hown : event.isOwn = true) :
    (w.after event).Steady := by
  have hperform : ∀ c hc, event = .perform c hc → ¬ w.engine.Replaces c := by
    rintro c hc rfl
    cases c with
    | load => cases hown
    | loadFile => cases hown
    | reset => cases hown
    | _ => exact id
  exact after_induction (R := fun e c => ¬ e.Replaces c) (fun _ _ hc => hc) hperform h
    (fun _ _ hmove h => hmove.steady h) h.takeBreakpoints

theorem steady_afterAll (h : w.Steady) {events : List WindowEvent}
    (hown : ∀ event ∈ events, event.isOwn = true) :
    (w.afterAll events).Steady :=
  afterAll_induction (P := Steady) h fun _ event hmem h => h.after (hown event hmem)

theorem steady_prepare {m : Machine} (hm : m.WellFormed) (settings : Settings) (log : Ring Text) :
    (prepare settings m log).Steady :=
  ⟨Engine.wellFormed_create hm settings true, Engine.prompt_create settings m true, nofun⟩

/-! ## Honest lines -/

/-- Whether what the status line says holds of the frame shown. -/
structure Honest (w : Window) : Prop where
  awaiting : w.status.text = "Waiting for key..." → w.shown.awaiting = true
  atBreakpoint : Text.ofString "Breakpoint hit" <+: w.status.text →
    w.shown.paused = true ∧ w.status.text = (Status.atBreakpoint w.shown.pc).text
  halted : Text.ofString "Halted:" <+: w.status.text →
    w.shown.halted = true ∧ w.status.text = (Status.halted w.engine.lastError).text

/-- The texts of the status line can be told apart. -/
theorem honest_iff :
    w.Honest ↔ (w.status = .awaitingKey → w.shown.awaiting = true) ∧
      (∀ pc, w.status = .atBreakpoint pc →
        w.shown.paused = true ∧ w.status.text = (Status.atBreakpoint w.shown.pc).text) ∧
      ∀ cause, w.status = .halted cause →
        w.shown.halted = true ∧ w.status.text = (Status.halted w.engine.lastError).text := by
  constructor
  · rintro ⟨hawaiting, hbreakpoint, hhalted⟩
    refine ⟨fun h => hawaiting ?_, fun pc h => hbreakpoint ?_, fun cause h => hhalted ?_⟩
    · rw [h]
      rfl
    · rw [h]
      exact Status.prefix_atBreakpoint pc
    · rw [h]
      exact Status.prefix_halted cause
  · rintro ⟨hawaiting, hbreakpoint, hhalted⟩
    refine ⟨fun h => hawaiting ?_, fun h => ?_, fun h => ?_⟩
    · have hprefix : Text.ofString "Waiting for key..." <+: w.status.text :=
        ⟨[], (List.append_nil _).trans h.symm⟩
      exact Status.eq_awaitingKey_of_initial (Status.initial_of_prefix hprefix)
    · obtain ⟨pc, hpc⟩ := Status.eq_atBreakpoint_of_initial (Status.initial_of_prefix h)
      exact hbreakpoint pc hpc
    · obtain ⟨cause, hcause⟩ := Status.eq_halted_of_initial (Status.initial_of_prefix h)
      exact hhalted cause hcause

/-- **A refresh leaves an honest line**, unless the frame is plain and the line told of
something passing. -/
theorem honest_refresh_iff (h : w.Steady) :
    w.refresh.2.Honest ↔ ¬ (w.refresh.2.shown.Plain ∧ w.status.IsPassing) := by
  obtain ⟨hengine, hstatus⟩ := refresh_leaves h.engine.machine.state.pc_nonneg
  have hshown : w.refresh.2.shown = w.engine.upcoming := congrArg Engine.latest hengine
  have herror : w.refresh.2.engine.lastError = w.engine.lastError := by
    rw [hengine]
    rfl
  have hcases := statusOf_cases w.engine.upcoming w.engine.lastError w.status
  rw [← hstatus] at hcases
  rw [honest_iff, hshown, herror]
  generalize w.refresh.2.status = after at hcases
  cases hcases with
  | halted hhalted =>
    refine iff_of_true ⟨nofun, nofun, fun _ _ => ⟨hhalted, rfl⟩⟩ ?_
    rintro ⟨hplain, -⟩
    cases hhalted.symm.trans hplain.halted
  | atBreakpoint _ hpaused =>
    refine iff_of_true ⟨nofun, fun _ _ => ⟨hpaused, rfl⟩, nofun⟩ ?_
    rintro ⟨hplain, -⟩
    cases hpaused.symm.trans hplain.paused
  | awaitingKey _ _ hawaiting =>
    refine iff_of_true ⟨fun _ => hawaiting, nofun, nofun⟩ ?_
    rintro ⟨hplain, -⟩
    cases hawaiting.symm.trans hplain.awaiting
  | plain hplain =>
    constructor
    · rintro ⟨hwait, hbreakpoint, -⟩ ⟨-, hpassing | ⟨pc, hpassing⟩⟩
      · cases (hwait hpassing).symm.trans hplain.awaiting
      · cases (hbreakpoint pc hpassing).1.symm.trans hplain.paused
    · intro hnot
      refine ⟨fun hwait => absurd ⟨hplain, .inl hwait⟩ hnot,
        fun pc hpc => absurd ⟨hplain, .inr ⟨pc, hpc⟩⟩ hnot, fun cause hcause => ?_⟩
      -- A halt that the line tells of is still there, so the frame cannot be plain.
      have hhalted := h.prompt.trans (h.status cause hcause).1
      cases hhalted.symm.trans hplain.halted

/-- **A line that tells of a halt** is right after a refresh. -/
theorem Steady.halted_shown (h : w.Steady)
    (htext : Text.ofString "Halted:" <+: w.refresh.2.status.text) :
    w.refresh.2.shown.halted = true ∧ w.refresh.2.status.text =
      (Status.halted w.refresh.2.engine.lastError).text := by
  obtain ⟨hengine, -⟩ := refresh_leaves h.engine.machine.state.pc_nonneg
  have hshown : w.refresh.2.shown.halted = w.refresh.2.engine.machine.halted := by
    rw [shown, hengine]
    exact h.prompt
  obtain ⟨cause, hcause⟩ := Status.eq_halted_of_initial (Status.initial_of_prefix htext)
  obtain ⟨hhalted, herror⟩ := h.refresh.status cause hcause
  rw [hshown, herror, hcause]
  exact ⟨hhalted, rfl⟩

/-! ## Events that refresh -/

/-- Whether an event brings a window up to date, and how the window is right before. -/
inductive Refreshes : Window → WindowEvent → Window → Prop
  | refresh {w : Window} : Refreshes w .refresh w
  | redraw {w : Window} (now : Float) : Refreshes w (.redraw now) (w.measured now)
  | step {w : Window} {frame : Frame} (h : w.engine.step.1 = .ok frame) :
      Refreshes w .step (w.takeEngine w.engine.step.2)
  | reset {w : Window} : Refreshes w .reset { w.takeEngine w.engine.reset with status := .reset }
  | load {w : Window} {files : Files} {path : Text}
      (h : (w.engine.loadFile files path).1 = .ok ()) :
      Refreshes w (.load files path) { w.takeEngine
        (w.engine.loadFile files path).2 with status := .loaded path }
  | openFile {w u : Window} {files : Files} {path : Text} (hpath : path.isEmpty = false)
      (h : Refreshes w (.load files path) u) : Refreshes w (.openFile files path) u
  | drop {w u : Window} {files : Files} {dropped : List Dropped} {d : Dropped}
      (hd : dropped.find? (·.isLocal) = some d) (h : Refreshes w (.load files d.path) u) :
      Refreshes w (.drop files dropped) u

theorem Refreshes.moves_load {files : Files} {path : Text} (h : Refreshes w (.load files path) u) :
    Moves R w u ∧ (w.load files path).2 = u.refresh.2 := by
  cases h with
  | load hload =>
    refine ⟨(Move.announce w (.loadFile files path) rfl (.loaded path) _ nofun).moves, ?_⟩
    unfold Window.load
    dsimp only
    rw [hload]

/-- What is right before a refresh is made of moves, too. What is right after it is what the event
leaves, but that the program of a file that is dropped is started. -/
theorem Refreshes.moves (hR : R w.engine .step) {event : WindowEvent} (h : Refreshes w event u) :
    Moves R w u ∧ (w.after event = u.refresh.2 ∨ w.after event = u.refresh.2.start) := by
  cases h with
  | refresh => exact ⟨.refl _, .inl rfl⟩
  | redraw now => exact ⟨w.moves_measured now, .inl rfl⟩
  | step hstep =>
    refine ⟨(Move.serve w .step rfl hR).moves, .inl ?_⟩
    show w.step.2 = _
    unfold Window.step
    dsimp only
    rw [hstep]
  | reset => exact ⟨(Move.announce w .reset rfl .reset _ nofun).moves, .inl rfl⟩
  | load hload =>
    obtain ⟨hmoves, heq⟩ := Refreshes.moves_load (.load hload)
    exact ⟨hmoves, .inl heq⟩
  | @openFile _ files path hpath hload =>
    obtain ⟨hmoves, heq⟩ := hload.moves_load
    refine ⟨hmoves, .inl ?_⟩
    show (w.openFile files path).2 = _
    unfold Window.openFile
    rw [hpath, if_neg Bool.false_ne_true]
    exact heq
  | @drop _ files dropped d hd hload =>
    obtain ⟨hmoves, heq⟩ := hload.moves_load
    refine ⟨hmoves, ?_⟩
    show (w.drop files dropped).2 = _ ∨ (w.drop files dropped).2 = _
    unfold Window.drop
    rw [hd]
    dsimp only
    generalize w.load files d.path = result at heq
    obtain ⟨outcome, left⟩ := result
    obtain rfl : left = u.refresh.2 := heq
    cases outcome with
    | error err => exact .inl rfl
    | ok loaded =>
      cases loaded with
      | false => exact .inl rfl
      | true => exact .inr rfl

/-- **What the status line says after a refresh.** A window shows an honest line when it is opened.
After whatever has been done in it, as long as no other machine has been put in place behind it, an
event that brings it up to date leaves a line that is right about halts, and that is honest but for
one case: the frame shown is plain, and the line told of a wait or of a breakpoint right before. -/
theorem status_after_refresh {settings : Settings} {m : Machine} {log : Ring Text} {w₀ : Window}
    (hm : m.Reachable) (hcreate : create settings m log = .ok w₀) :
    w₀.Honest ∧
    ∀ events : List WindowEvent, (∀ event ∈ events, event.isOwn = true) →
      ∀ event u, Refreshes (w₀.afterAll events) event u →
        ((w₀.afterAll events).after event = u.refresh.2 ∨
          (w₀.afterAll events).after event = u.refresh.2.start) ∧
        (Text.ofString "Halted:" <+: u.refresh.2.status.text →
          u.refresh.2.shown.halted = true ∧
            u.refresh.2.status.text = (Status.halted u.refresh.2.engine.lastError).text) ∧
        (u.refresh.2.Honest ↔ ¬ (u.refresh.2.shown.Plain ∧ u.status.IsPassing)) := by
  have hprepared := steady_prepare hm.wellFormed settings log
  have hcreated := eq_of_create hcreate
  have hsteady : w₀.Steady := hcreated ▸ hprepared.refresh
  refine ⟨?_, fun events hown event u hrefreshes => ?_⟩
  · rw [hcreated, honest_refresh_iff hprepared]
    rintro ⟨-, hpassing | ⟨pc, hpassing⟩⟩
    · cases hpassing
    · cases hpassing
  · obtain ⟨hmoves, hafter⟩ := hrefreshes.moves (R := fun e c => ¬ e.Replaces c) id
    have hu : u.Steady :=
      hmoves.induction (steady_afterAll hsteady hown) fun _ _ hmove h => hmove.steady h
    exact ⟨hafter, hu.halted_shown, honest_refresh_iff hu⟩

/-- A machine that waits for a key and then goes in a circle. -/
def waiting : Machine :=
  Machine.boot [0xF0, 0x0A, 0x12, 0x02] 0x200 (Dice.cycle [])

/-- A window is opened and started, and its machine comes to a wait. -/
def untilWait : List WindowEvent :=
  [.start, .perform (.advance (.nanoseconds 4000000)) rfl]

/-- The wait is shown, a key is pressed, and the machine goes on. -/
def untilCircle : List WindowEvent :=
  untilWait ++ [.refresh, .key ⟨.press, Text.ofString "1", false⟩,
    .perform (.advance (.nanoseconds 4000000)) rfl]

theorem waiting_untilCircle :
    ((prepare Settings.standard waiting (Ring.empty 500)).refresh.2.afterAll untilWait).status =
      .running ∧
      ((prepare Settings.standard waiting (Ring.empty 500)).refresh.2.afterAll untilCircle).status =
        .awaitingKey ∧
      ((prepare Settings.standard waiting (Ring.empty 500)).refresh.2.afterAll
        untilCircle).refresh.2.status =
        .awaitingKey ∧
      ((prepare Settings.standard waiting (Ring.empty 500)).refresh.2.afterAll
        untilCircle).refresh.2.shown.halted = false ∧
      ((prepare Settings.standard waiting (Ring.empty 500)).refresh.2.afterAll
        untilCircle).refresh.2.shown.paused = false ∧
      ((prepare Settings.standard waiting (Ring.empty 500)).refresh.2.afterAll
        untilCircle).refresh.2.shown.awaiting =
        false := by
  unfold waiting
  rw [Machine.boot_eq]
  decide +kernel

theorem create_waiting :
    create Settings.standard waiting (Ring.empty 500) =
      .ok (prepare Settings.standard waiting (Ring.empty 500)).refresh.2 :=
  create_ok (by decide) (by decide) _

theorem status_after_refresh_waiting :
    ∃ w, waiting.Reachable ∧ create Settings.standard waiting (Ring.empty 500) = .ok w ∧
      (w.afterAll untilWait).refresh.2.Honest ∧ ¬ (w.afterAll untilCircle).refresh.2.Honest := by
  have hload : Machine.load [0xF0, 0x0A, 0x12, 0x02] 0x200 (Dice.cycle []) = .ok waiting := rfl
  have hreachable := Machine.reachable_of_load hload
  obtain ⟨hrunning, hwaiting, -, hhalted, hpaused, hawaiting⟩ := waiting_untilCircle
  obtain ⟨-, hafter⟩ := status_after_refresh hreachable create_waiting
  obtain ⟨-, -, hwait⟩ := hafter untilWait (by decide +kernel) .refresh _ .refresh
  obtain ⟨-, -, hcircle⟩ := hafter untilCircle (by decide +kernel) .refresh _ .refresh
  refine ⟨_, hreachable, create_waiting, hwait.mpr ?_, fun hhonest => hcircle.mp hhonest ?_⟩
  · rintro ⟨-, hpassing | ⟨pc, hpassing⟩⟩
    · cases hrunning.symm.trans hpassing
    · cases hrunning.symm.trans hpassing
  · exact ⟨⟨hhalted, hpaused, hawaiting⟩, .inl hwaiting⟩

/-- The machine of the circle comes to a breakpoint, which is shown, and a step leaves it. -/
def untilStep : List WindowEvent :=
  [.addBreakpoint .atAddress "202", .start, .perform (.advance (.nanoseconds 4000000)) rfl,
    .refresh, .step]

theorem circling_untilStep :
    ((prepare Settings.standard circling (Ring.empty 500)).refresh.2.afterAll untilStep).status =
      .atBreakpoint 0x202 ∧
      ((prepare Settings.standard circling (Ring.empty 500)).refresh.2.afterAll
        untilStep).shown.paused = false := by
  unfold circling
  rw [Machine.boot_eq]
  decide +kernel

/-- **A line can outlive what it tells of**: a wait that a key has ended, and a breakpoint that a
step has left. -/
theorem status_outlives :
    (∃ w, create Settings.standard waiting (Ring.empty 500) = .ok w ∧
      (w.afterAll untilCircle).refresh.2.status.text = "Waiting for key..." ∧
      (w.afterAll untilCircle).refresh.2.shown.awaiting = false) ∧
    ∃ w, create Settings.standard circling (Ring.empty 500) = .ok w ∧
      (w.afterAll untilStep).status.text = "Breakpoint hit (PC: #202)" ∧
      (w.afterAll untilStep).shown.paused = false := by
  obtain ⟨-, -, hwaiting, -, -, hawaiting⟩ := waiting_untilCircle
  obtain ⟨hstepped, hpaused⟩ := circling_untilStep
  refine ⟨⟨_, create_waiting, ?_, hawaiting⟩, ⟨_, create_ok (by decide) (by decide) _, ?_, hpaused⟩⟩
  · rw [hwaiting]
    rfl
  · rw [hstepped]
    decide +kernel

end Window

end Chip8
