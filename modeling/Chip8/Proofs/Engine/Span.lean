import Chip8.Proofs.Engine.Advance
import Mathlib.Logic.Function.Iterate

/-!
# What a span of time brings

A span of time brings an engine a number of instructions, its `budget`, and a number of ticks, its
`beats`; what is left of the span is carried over (`carried`). `pass_of_ok` and `advance_of_ok` say
how an advance spends them: it hands the whole budget to the machine first, and then makes the
ticks, unless the engine has come to a halt or to a breakpoint by then. `Always` says that something
holds of an engine from before a sequence of commands to behind it. As long as only time passes and
keys are used, settings and breakpoints stay what they are (`SameSetup`), and instructions and ticks
do not touch what is carried over (`SameCarries`).
-/

namespace Chip8

/-- Whether a command lets time pass or is about a key. -/
def Command.isInput : Command → Bool
  | .advance _ => true
  | .press _ => true
  | .release _ => true
  | _ => false

namespace Engine

variable {e e' mid : Engine} {span : Nat}

/-- The time of several spans together. -/
def whole (spans : List Nat) : Nat :=
  spans.foldr (· + ·) 0

theorem whole_cons (span : Nat) (rest : List Nat) : whole (span :: rest) = span + whole rest :=
  rfl

/-- The instructions that a span of time allows. -/
def budget (e : Engine) (span : Nat) : Nat :=
  (due e.settings.clockHz e.cycleCarry span).1.toNat

/-- The timer ticks that fall into a span of time. -/
def beats (e : Engine) (span : Nat) : Nat :=
  (due e.settings.timerHz e.tickCarry span).1.toNat

/-- The engine with what is carried over behind a span of time, before anything is executed. -/
def carried (e : Engine) (span : Nat) : Engine :=
  { e with
    cycleCarry := (due e.settings.clockHz e.cycleCarry span).2
    tickCarry := (due e.settings.timerHz e.tickCarry span).2 }

/-- A span of time in these terms. -/
theorem pass_eq (e : Engine) (span : Nat) :
    e.pass span = match (e.carried span).runCycles (e.budget span) with
      | (.error err, mid) => (.error err, mid)
      | (.ok (), mid) => (.ok (), if mid.idle then mid else mid.ticks (e.beats span)) :=
  rfl

/-- A span of time executes its budget and then makes its ticks, which a halt or a
breakpoint prevents. -/
theorem pass_of_ok (h : (e.carried span).runCycles (e.budget span) = (.ok (), mid)) :
    e.pass span = (.ok (), if mid.idle then mid else mid.ticks (e.beats span)) := by
  rw [pass_eq, h]

/-- An advance of an engine that is not idle lets the span pass and publishes a frame. -/
theorem advance_of_ok (hidle : e.idle = false) (h : e.pass span = (.ok (), mid)) :
    e.advance (.nanoseconds span) = (.ok mid.frame, mid.publish) := by
  unfold advance
  rw [hidle, if_neg Bool.false_ne_true]
  simp only [Elapsed.get]
  rw [h]

/-! ## Ticks -/

/-- **A number of ticks** is a tick, iterated that often. -/
theorem ticks_eq_iterate (e : Engine) (n : Nat) : e.ticks n = tick^[n] e := by
  induction n generalizing e with
  | zero => rfl
  | succ n ih => exact ih e.tick

/-- The machine goes through as many ticks as the engine. -/
theorem machine_iterate_tick (e : Engine) (n : Nat) :
    (tick^[n] e).machine = Machine.tick^[n] e.machine := by
  have hone : Function.Semiconj machine tick Machine.tick := machine_tick
  exact hone.iterate_right n e

theorem ticks_add (e : Engine) (j k : Nat) : e.ticks (j + k) = (e.ticks j).ticks k := by
  rw [ticks_eq_iterate, ticks_eq_iterate, ticks_eq_iterate, Nat.add_comm,
    Function.iterate_add_apply]

/-! ## What stays the same while nobody touches the program -/

/-- The settings and the breakpoints are the same. -/
structure SameSetup (e e' : Engine) : Prop where
  settings : e'.settings = e.settings
  breakpoints : e'.debugger.breakpoints = e.debugger.breakpoints

/-- Besides, what is carried over is the same. -/
structure SameCarries (e e' : Engine) : Prop extends SameSetup e e' where
  cycleCarry : e'.cycleCarry = e.cycleCarry
  tickCarry : e'.tickCarry = e.tickCarry

theorem SameSetup.active (h : SameSetup e e') : e'.debugger.active = e.debugger.active :=
  congrArg (·.any (·.enabled)) h.breakpoints

theorem SameCarries.refl (e : Engine) : SameCarries e e :=
  ⟨⟨rfl, rfl⟩, rfl, rfl⟩

theorem SameCarries.trans {e'' : Engine} (h : SameCarries e e') (h' : SameCarries e' e'') :
    SameCarries e e'' :=
  ⟨⟨h'.settings.trans h.settings, h'.breakpoints.trans h.breakpoints⟩,
    h'.cycleCarry.trans h.cycleCarry,
    h'.tickCarry.trans h.tickCarry⟩

theorem sameCarries_report (e : Engine) (tones : List Bool) : SameCarries e (e.report tones) := by
  unfold report
  split
  · exact ⟨⟨rfl, rfl⟩, rfl, rfl⟩
  · exact .refl e

theorem sameCarries_start (e : Engine) : SameCarries e e.start := by
  unfold start
  split
  · exact .refl e
  · exact ⟨⟨rfl, rfl⟩, rfl, rfl⟩

/-- The machine that an engine goes on with: the one that has been loaded, or its own after
a reset. -/
def successor (e : Engine) (loaded : Option Machine) : Machine :=
  loaded.getD e.machine.reset

/-- The engine that goes on with another machine, before that is told and the background run is
started again. -/
def attached (e : Engine) (loaded : Option Machine) : Engine :=
  { e.stop with
    ref := .shared
    debugger := e.stop.debugger.attach (e.stop.successor loaded)
    cycleCarry := 0
    tickCarry := 0
    toneOn := false
    lastError := none
    paused := false }.publish

/-- It goes on with the successor, since stopping does not touch the machine. -/
theorem machine_attached (e : Engine) (loaded : Option Machine) :
    (e.attached loaded).machine = e.successor loaded := by
  obtain ⟨notes, hstop⟩ := e.stop_eq
  unfold attached
  rw [hstop]
  rfl

/-- **The debugger is taken along**: whether the machine has been loaded or reset, both refer
to it. -/
theorem attachDebugger_install (e : Engine) (loaded : Option Machine) :
    (e.install loaded).attachDebugger =
      { e with ref := .shared, debugger := e.debugger.attach (e.successor loaded) } := by
  cases loaded with
  | some m => rfl
  | none =>
    show (e.mapMachine Machine.reset).attachDebugger = _
    unfold attachDebugger
    rw [machine_mapMachine]
    rfl

/-- Replacing the machine in these terms. -/
theorem replace_eq_attached (e : Engine) (loaded : Option Machine) :
    e.replace loaded =
      let told := if e.toneOn then (e.attached loaded).report [false] else e.attached loaded
      if e.running then told.start else told := by
  unfold replace
  dsimp only
  rw [attachDebugger_install]
  rfl

/-- Telling it and starting again carry nothing over. -/
theorem sameCarries_replace (e : Engine) (loaded : Option Machine) :
    SameCarries (e.attached loaded) (e.replace loaded) := by
  have htold : SameCarries (e.attached loaded)
      (if e.toneOn then (e.attached loaded).report [false] else e.attached loaded) := by
    split
    · exact sameCarries_report _ _
    · exact .refl _
  rw [replace_eq_attached]
  dsimp only
  split
  · exact htold.trans (sameCarries_start _)
  · exact htold

/-- Nothing is carried over from one machine to another. -/
theorem replace_carries (e : Engine) (loaded : Option Machine) :
    (e.replace loaded).cycleCarry = 0 ∧ (e.replace loaded).tickCarry = 0 :=
  ⟨(e.sameCarries_replace loaded).cycleCarry, (e.sameCarries_replace loaded).tickCarry⟩

theorem sameCarries_tick (e : Engine) : SameCarries e e.tick := by
  rw [tick_eq]
  exact ⟨⟨rfl, rfl⟩, rfl, rfl⟩

theorem sameCarries_ticks (e : Engine) (n : Nat) : SameCarries e (e.ticks n) := by
  induction n generalizing e with
  | zero => exact .refl e
  | succ n ih => exact (sameCarries_tick e).trans (ih e.tick)

theorem sameCarries_handle (e : Engine) (err : CycleError) : SameCarries e (e.handle err).2 := by
  obtain ⟨lastError, notes, hleft⟩ := e.handle_leaves err
  rw [hleft]
  exact ⟨⟨rfl, rfl⟩, rfl, rfl⟩

theorem sameCarries_runCycles (e : Engine) (n : Nat) : SameCarries e (e.runCycles n).2 := by
  have hrun : (e.debugger.run n).2.breakpoints = e.debugger.breakpoints := by
    obtain ⟨k, -, hd⟩ := (e.debugger.run_eq_iff (e.debugger.run n).2 n (e.debugger.run n).1).mp rfl
    rw [hd]
    rfl
  unfold runCycles
  split
  · generalize e.debugger.run n = result at hrun
    split
    next err d =>
      have hled : SameCarries e { e with debugger := d } := ⟨⟨rfl, hrun⟩, rfl, rfl⟩
      exact hled.trans (sameCarries_handle _ err)
    · exact ⟨⟨rfl, hrun⟩, rfl, rfl⟩
  · split
    next err m _ =>
      have hled : SameCarries e (e.mapMachine fun _ => m) := ⟨⟨rfl, rfl⟩, rfl, rfl⟩
      exact hled.trans (sameCarries_handle _ err)
    · exact ⟨⟨rfl, rfl⟩, rfl, rfl⟩

/-- What is carried over behind a span of time is decided before its instructions and ticks. -/
theorem sameCarries_pass (e : Engine) (span : Nat) :
    SameCarries (e.carried span) (e.pass span).2 := by
  have hmid := sameCarries_runCycles (e.carried span) (e.budget span)
  rw [pass_eq]
  generalize runCycles _ _ = result at hmid
  obtain ⟨outcome, mid⟩ := result
  cases outcome with
  | error err => exact hmid
  | ok done =>
    dsimp only
    split
    · exact hmid
    · exact hmid.trans (sameCarries_ticks mid _)

/-- What is carried over behind an advance is up to the span alone, whatever the instructions
come to. -/
theorem sameCarries_advance (hidle : e.idle = false) (span : Nat) :
    SameCarries (e.carried span) (e.advance (.nanoseconds span)).2 := by
  have hpass := sameCarries_pass e span
  unfold advance
  rw [hidle, if_neg Bool.false_ne_true]
  simp only [Elapsed.get]
  generalize e.pass span = result at hpass
  obtain ⟨outcome, mid⟩ := result
  cases outcome with
  | error err => exact hpass
  | ok done => exact ⟨⟨hpass.settings, hpass.breakpoints⟩, hpass.cycleCarry, hpass.tickCarry⟩

theorem sameSetup_advance (e : Engine) (elapsed : Elapsed) : SameSetup e (e.advance elapsed).2 := by
  cases hidle : e.idle with
  | true =>
    rw [advance_of_idle hidle]
    exact ⟨rfl, rfl⟩
  | false =>
    cases elapsed with
    | nanoseconds span =>
      have hsame := sameCarries_advance hidle span
      exact ⟨hsame.settings, hsame.breakpoints⟩
    | notANumber =>
      rw [advance_of_not_finite hidle rfl]
      exact ⟨rfl, rfl⟩
    | infinite =>
      rw [advance_of_not_finite hidle rfl]
      exact ⟨rfl, rfl⟩

/-- Neither time nor keys touch the settings and the breakpoints. -/
theorem sameSetup_perform {c : Command} (hc : c.isInput = true) : SameSetup e (e.perform c) := by
  cases c with
  | advance elapsed => exact sameSetup_advance e elapsed
  | press code => exact ⟨rfl, rfl⟩
  | release code => exact ⟨rfl, rfl⟩
  | _ => cases hc

/-! ## Along a sequence of commands -/

/-- What the advances of a sequence of commands give, in their order. -/
def answers (e : Engine) : List Command → List (Except AdvanceError Frame)
  | [] => []
  | .advance elapsed :: rest => (e.advance elapsed).1 :: (e.perform (.advance elapsed)).answers rest
  | c :: rest => (e.perform c).answers rest

/-- Something holds of an engine before a sequence of commands, and after each of them. -/
def Always (P : Engine → Prop) (e : Engine) (commands : List Command) : Prop :=
  ∀ k ≤ commands.length, P (e.performAll (commands.take k))

instance (P : Engine → Prop) [DecidablePred P] (e : Engine) (commands : List Command) :
    Decidable (e.Always P commands) :=
  inferInstanceAs (Decidable (∀ k ≤ commands.length, P (e.performAll (commands.take k))))

theorem Always.first {P : Engine → Prop} {commands : List Command} (h : e.Always P commands) :
    P e :=
  h 0 (Nat.zero_le _)

theorem Always.rest {P : Engine → Prop} {c : Command} {commands : List Command}
    (h : e.Always P (c :: commands)) :
    (e.perform c).Always P commands :=
  fun k hk => h (k + 1) (Nat.succ_le_succ hk)

/-- It holds before and after every command in the middle. -/
theorem Always.around {P : Engine → Prop} {before after : List Command} {c : Command}
    (h : e.Always P (before ++ c :: after)) :
    P (e.performAll before) ∧ P ((e.performAll before).perform c) := by
  have hlength : (before ++ c :: after).length = before.length + (after.length + 1) :=
    List.length_append
  have hbefore := h before.length (by omega)
  have hthen := h (before.length + 1) (by omega)
  have htake : (before ++ c :: after).take (before.length + 1) = before ++ [c] :=
    List.take_length_add_append 1
  rw [List.take_left] at hbefore
  rw [htake, performAll_concat] at hthen
  exact ⟨hbefore, hthen⟩

end Engine

end Chip8
