import Chip8.Proofs.Debugger.Run
import Chip8.Proofs.Engine.Command

/-!
# What an advance does

`Advanced` lists the ways in which an advance can go: nothing is due or the span of time is none, no
breakpoint is enabled and the machine runs by itself, or the debugger runs it, and then the run ends
where the first reason to end is. `advanced` shows that these are all. Ticks come behind all that,
and they touch neither the counter nor anything that the debugger keeps (`Ticked`).
-/

namespace Chip8.Engine

variable {e e' : Engine}

/-! ## Ticks -/

/-- Only timers and tones are different, and what an advance publishes or carries over. -/
structure Ticked (e e' : Engine) : Prop where
  resumePc : e'.debugger.resumePc = e.debugger.resumePc
  pc : e'.state.pc = e.state.pc
  cycles : e'.state.cycles = e.state.cycles
  halt : e'.machine.halt = e.machine.halt
  paused : e'.paused = e.paused
  notes : e'.notes = e.notes
  background : e'.background = e.background

theorem Ticked.refl (e : Engine) : Ticked e e :=
  ⟨rfl, rfl, rfl, rfl, rfl, rfl, rfl⟩

theorem Ticked.trans {e'' : Engine} (h : Ticked e e') (h' : Ticked e' e'') : Ticked e e'' :=
  ⟨h'.resumePc.trans h.resumePc, h'.pc.trans h.pc, h'.cycles.trans h.cycles,
    h'.halt.trans h.halt, h'.paused.trans h.paused, h'.notes.trans h.notes,
    h'.background.trans h.background⟩

theorem ticked_report (e : Engine) (tones : List Bool) : Ticked e (e.report tones) := by
  unfold report
  split
  · exact ⟨rfl, rfl, rfl, rfl, rfl, rfl, rfl⟩
  · exact .refl e

theorem ticked_mapMachine_tick (e : Engine) : Ticked e (e.mapMachine Machine.tick) where
  resumePc := rfl
  pc := congrArg (·.state.pc) (e.machine_mapMachine Machine.tick)
  cycles := congrArg (·.state.cycles) (e.machine_mapMachine Machine.tick)
  halt := congrArg (·.halt) (e.machine_mapMachine Machine.tick)
  paused := rfl
  notes := rfl
  background := rfl

theorem ticked_tick (e : Engine) : Ticked e e.tick := by
  have hticked := e.ticked_mapMachine_tick
  unfold tick
  dsimp only
  split
  · exact hticked
  · refine Ticked.trans ?_ (ticked_report _ _)
    exact ⟨hticked.resumePc, hticked.pc, hticked.cycles, hticked.halt, hticked.paused,
      hticked.notes,
      hticked.background⟩

theorem ticked_ticks (e : Engine) (n : Nat) : Ticked e (e.ticks n) := by
  induction n generalizing e with
  | zero => exact .refl e
  | succ n ih => exact (ticked_tick e).trans (ih e.tick)

theorem ticked_publish (e : Engine) : Ticked e e.publish :=
  ⟨rfl, rfl, rfl, rfl, rfl, rfl, rfl⟩

/-! ## Instructions -/

/-- What a run of the debugger with a first reason to end leaves of an engine. -/
structure Ran (e : Engine) (k : Nat) (r : RunEnd) (e' : Engine) : Prop where
  ref : e'.ref = e.ref
  debugger : e'.debugger = e.debugger.endedBefore k r
  paused : e'.paused = (e.paused || r.atBreakpoint)
  background : e'.background = e.background
  notes : ∀ pc, r = .breakpointBefore pc → e'.notes = e.notes ++ [.breakpointBefore pc]

/-- Instructions that go through the debugger end where the first reason to end is. -/
theorem runCycles_watched (hactive : e.debugger.active = true) (n : Nat) :
    ∃ k r, e.debugger.EndsAt (some n) k r ∧ e.Ran k r (e.runCycles n).2 := by
  obtain ⟨k, hends, hd⟩ :=
    (e.debugger.run_eq_iff (e.debugger.run n).2 n (e.debugger.run n).1).mp rfl
  refine ⟨k, _, hends, ?_⟩
  unfold runCycles
  rw [if_pos hactive]
  cases hrun : e.debugger.run n with
  | mk r d =>
    rw [hrun] at hd
    dsimp only at hd ⊢
    cases r with
    | failed err =>
      cases err with
      | fault f => exact ⟨rfl, hd, (Bool.or_false _).symm, rfl, fun pc heq => by cases heq⟩
      | mishap err => exact ⟨rfl, hd, (Bool.or_false _).symm, rfl, fun pc heq => by cases heq⟩
      | halted cause => exact ⟨rfl, hd, (Bool.or_false _).symm, rfl, fun pc heq => by cases heq⟩
    | breakpointBefore pc =>
      refine ⟨rfl, hd, rfl, rfl, fun pc' heq => ?_⟩
      cases heq
      rfl
    | breakpointAfter symbol => exact ⟨rfl, hd, rfl, rfl, fun pc heq => by cases heq⟩
    | awaitingKey => exact ⟨rfl, hd, rfl, rfl, fun pc heq => by cases heq⟩
    | stepLimit => exact ⟨rfl, hd, rfl, rfl, fun pc heq => by cases heq⟩
    | stopped => exact ⟨rfl, hd, rfl, rfl, fun pc heq => by cases heq⟩

/-- Instructions that do not go through the debugger leave alone what it keeps. -/
theorem runCycles_unwatched (hactive : e.debugger.active = false) (n : Nat) :
    (e.runCycles n).2.debugger.resumePc = e.debugger.resumePc ∧
      (e.runCycles n).2.paused = e.paused ∧ (e.runCycles n).2.background = e.background := by
  unfold runCycles
  rw [if_neg (Bool.eq_false_iff.mp hactive)]
  cases e.machine.run n with
  | mk result m =>
    cases result with
    | ok count => exact ⟨rfl, rfl, rfl⟩
    | error err =>
      cases err with
      | fault f => exact ⟨rfl, rfl, rfl⟩
      | mishap err => exact ⟨rfl, rfl, rfl⟩
      | halted cause => exact ⟨rfl, rfl, rfl⟩

/-! ## Advances -/

/-- The ways in which an advance can go. -/
inductive Advanced (e : Engine) : Engine → Prop
  /-- No instruction is executed, since the engine is idle or the span of time cannot be used. -/
  | idle {e' : Engine} (h : Ticked e e') : Advanced e e'
  /-- The machine runs by itself. -/
  | unwatched {e' : Engine} (hidle : e.idle = false) (hactive : e.debugger.active = false)
      (hresume : e'.debugger.resumePc = e.debugger.resumePc) (hpaused : e'.paused = e.paused)
      (hbackground : e'.background = e.background) : Advanced e e'
  /-- The machine runs under the debugger, and then the ticks come. -/
  | watched {e' mid : Engine} {n k : Nat} {r : RunEnd} (hidle : e.idle = false)
      (hends : e.debugger.EndsAt (some n) k r) (hran : e.Ran k r mid)
        (hticks : Ticked mid e') : Advanced e e'

/-- A span of time executes a number of instructions; behind them there are at most ticks. -/
theorem pass_ticked (e : Engine) (elapsed : Nat) :
    ∃ cycleCarry tickCarry n,
      Ticked ({ e with cycleCarry := cycleCarry, tickCarry := tickCarry }.runCycles n).2
        (e.pass elapsed).2 := by
  refine ⟨(due e.settings.clockHz e.cycleCarry elapsed).2,
    (due e.settings.timerHz e.tickCarry elapsed).2,
    (due e.settings.clockHz e.cycleCarry elapsed).1.toNat, ?_⟩
  unfold pass
  dsimp only
  -- Whatever the instructions come to, what is behind them is at most ticks.
  generalize runCycles _ _ = result
  obtain ⟨outcome, mid⟩ := result
  cases outcome with
  | error err => exact .refl mid
  | ok done =>
    dsimp only
    split
    · exact .refl mid
    · exact ticked_ticks mid _

/-- An engine that is not idle advances by a span of time, and then at most publishes a frame. -/
theorem advance_ticked {elapsed : Elapsed} {n : Nat} (hidle : e.idle = false)
    (helapsed : elapsed.get = .ok n) :
    Ticked (e.pass n).2 (e.advance elapsed).2 := by
  unfold advance
  rw [hidle, if_neg Bool.false_ne_true, helapsed]
  dsimp only
  generalize e.pass n = result
  obtain ⟨outcome, mid⟩ := result
  cases outcome with
  | error err => exact .refl mid
  | ok done => exact ticked_publish mid

/-- **The ways in which an advance can go.** -/
theorem advanced (e : Engine) (elapsed : Elapsed) : Advanced e (e.advance elapsed).2 := by
  cases hidle : e.idle with
  | true =>
    have hadvance : e.advance elapsed = (.ok e.frame, e.publish) := if_pos hidle
    rw [hadvance]
    exact .idle (ticked_publish e)
  | false =>
    cases helapsed : elapsed.get with
    | error err =>
      have hadvance : (e.advance elapsed).2 = e := by
        unfold advance
        rw [hidle, if_neg Bool.false_ne_true, helapsed]
      rw [hadvance]
      exact .idle (.refl e)
    | ok span =>
      obtain ⟨cycleCarry, tickCarry, n, hpass⟩ := e.pass_ticked span
      have hticks := hpass.trans (advance_ticked hidle helapsed)
      cases hactive : e.debugger.active with
      | true =>
        obtain ⟨k, r, hends, hran⟩ :=
          runCycles_watched (e := { e with cycleCarry := cycleCarry, tickCarry := tickCarry })
            hactive n
        exact .watched hidle hends ⟨hran.ref, hran.debugger, hran.paused, hran.background,
          hran.notes⟩ hticks
      | false =>
        obtain ⟨hresume, hpaused, hbackground⟩ :=
          runCycles_unwatched (e := { e with cycleCarry := cycleCarry, tickCarry := tickCarry })
            hactive n
        exact .unwatched hidle hactive (hticks.resumePc.trans hresume) (hticks.paused.trans hpaused)
          (hticks.background.trans hbackground)

/-! ## Background runs -/

/-- An advance neither starts nor ends the background run. -/
theorem advance_background (e : Engine) (elapsed : Elapsed) :
    (e.advance elapsed).2.background = e.background := by
  cases e.advanced elapsed with
  | idle h => exact h.background
  | unwatched _ _ _ _ hbackground => exact hbackground
  | watched _ _ hran hticks => exact hticks.background.trans hran.background

/-- A background run that goes on is a sequence of commands, whatever the clock shows. -/
theorem follow_eq_performAll (hrun : e.running = true) (last : Float) (clock : List Float) :
    ∃ commands, (e.follow last clock).2 = e.performAll commands := by
  -- When the clock has no more readings, the run is stopped from outside during its last wait.
  induction clock generalizing e last with
  | nil => exact ⟨[.stop, .advance (Elapsed.ofSeconds (last - last))], rfl⟩
  | cons now rest ih =>
    let elapsed := Elapsed.ofSeconds (now - last)
    have hstill : (e.advance elapsed).2.running = true := by
      unfold running at hrun ⊢
      rwa [advance_background]
    have hended : { (e.advance elapsed).2 with background := .ended } =
        e.performAll [.advance elapsed, .finish] :=
      (if_pos hstill).symm
    obtain ⟨commands, hcommands⟩ := ih hstill now
    have hgoes : ((e.advance elapsed).2.follow now rest).2 =
        e.performAll (.advance elapsed :: commands) := hcommands
    unfold follow
    generalize e.advance elapsed = result at hended hgoes ⊢
    obtain ⟨outcome, left⟩ := result
    cases outcome with
    | error err => exact ⟨_, hended⟩
    | ok frame =>
      dsimp only
      split
      · exact ⟨_, hended⟩
      · exact ⟨_, hgoes⟩

/-- **Whole background runs are sequences of commands**, too. -/
theorem runAlong_eq_performAll (e : Engine) (clock : List Float) :
    ∃ commands, (e.runAlong clock).2 = e.performAll commands := by
  unfold runAlong
  split
  next hrun =>
    cases clock with
    | nil => exact ⟨[.start, .stop], rfl⟩
    | cons first rest =>
      obtain ⟨commands, hcommands⟩ := follow_eq_performAll hrun first rest
      exact ⟨.start :: commands, hcommands⟩
  next => exact ⟨[.start], rfl⟩

end Chip8.Engine
