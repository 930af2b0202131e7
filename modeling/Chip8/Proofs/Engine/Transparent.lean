import Chip8.Proofs.Engine.Advance
import Chip8.Proofs.Engine.Invariant

/-!
# Breakpoints that are not hit make no difference

While some breakpoint is enabled, an engine executes its instructions through the debugger, and
otherwise the machine runs by itself. `Alike` says of two engines that they differ in their
breakpoints, in what their debuggers have recorded and in the pending accesses alone, so that they
show and report the same. As long as no breakpoint is hit, everything that happens while nobody
touches the program keeps two engines alike, even if only one of them has breakpoints: the
instructions of a span of time (`runCycles_alike`), its ticks (`Alike.ticks`), whole advances
(`advance_alike`) and keys. The main result is `breakpoints_transparent`. It also says what a hit
leaves: a machine after a number of plain instructions.
-/

namespace Chip8

namespace Engine

variable {e e' e'' : Engine} {n : Nat}

/-- The engine without its breakpoints. -/
def withoutBreakpoints (e : Engine) : Engine :=
  e.mapDebugger ({ · with breakpoints := [] })

/-- No breakpoint is hit along a sequence of commands: a hit would turn the pause on. -/
def NeverHit (e : Engine) (commands : List Command) : Prop :=
  e.Always (·.paused = e.paused) commands

instance (e : Engine) (commands : List Command) : Decidable (e.NeverHit commands) :=
  inferInstanceAs (Decidable (e.Always _ commands))

/-- Only breakpoints, what the debuggers have recorded, pending accesses and events of the past
are different. -/
structure Alike (e e' : Engine) : Prop where
  settings : e.settings = e'.settings
  machine : e.machine.quiet = e'.machine.quiet
  paused : e.paused = e'.paused
  cycleCarry : e.cycleCarry = e'.cycleCarry
  tickCarry : e.tickCarry = e'.tickCarry
  toneOn : e.toneOn = e'.toneOn
  listener : e.listener = e'.listener
  lastError : e.lastError = e'.lastError
  tones : e.tones = e'.tones

theorem Alike.trans (h : e.Alike e') (h' : e'.Alike e'') : e.Alike e'' :=
  ⟨h.settings.trans h'.settings, h.machine.trans h'.machine, h.paused.trans h'.paused,
    h.cycleCarry.trans h'.cycleCarry, h.tickCarry.trans h'.tickCarry, h.toneOn.trans h'.toneOn,
    h.listener.trans h'.listener, h.lastError.trans h'.lastError, h.tones.trans h'.tones⟩

theorem alike_withoutBreakpoints (e : Engine) : e.Alike e.withoutBreakpoints where
  settings := rfl
  machine := congrArg Machine.quiet (e.machine_mapDebugger rfl).symm
  paused := rfl
  cycleCarry := rfl
  tickCarry := rfl
  toneOn := rfl
  listener := rfl
  lastError := rfl
  tones := rfl

theorem Alike.publish (h : e.Alike e') : e.publish.Alike e'.publish :=
  { h with }

/-- Whatever the machines are changed to, up to pending accesses it is the same. -/
theorem Alike.mapMachine (h : e.Alike e') {f f' : Machine → Machine}
    (hf : (f e.machine).quiet = (f' e'.machine).quiet) :
    (e.mapMachine f).Alike (e'.mapMachine f') := by
  have hmachine : (e.mapMachine f).machine.quiet = (e'.mapMachine f').machine.quiet := by
    rw [machine_mapMachine, machine_mapMachine]
    exact hf
  exact { h with machine := hmachine }

/-- What an instruction fails with is taken care of in the same way. -/
theorem Alike.handle (h : e.Alike e') (err : CycleError) :
    (e.handle err).1 = (e'.handle err).1 ∧ (e.handle err).2.Alike (e'.handle err).2 := by
  cases err with
  | fault f => exact ⟨rfl, { h with lastError := rfl }⟩
  | mishap m => exact ⟨rfl, h⟩
  | halted cause => exact ⟨rfl, h⟩

/-! ## What engines that are alike show -/

theorem Alike.halted (h : e.Alike e') : e.machine.halted = e'.machine.halted := by
  show e.machine.quiet.halted = e'.machine.quiet.halted
  rw [h.machine]

theorem Alike.idle (h : e.Alike e') : e.idle = e'.idle := by
  unfold Engine.idle
  rw [h.halted, h.paused]

theorem Alike.sounding (h : e.Alike e') : e.machine.sounding = e'.machine.sounding := by
  show e.machine.quiet.sounding = e'.machine.quiet.sounding
  rw [h.machine]

theorem Alike.frame (h : e.Alike e') : e.frame = e'.frame := by
  show frameOf e.machine.quiet e.paused = frameOf e'.machine.quiet e'.paused
  rw [h.machine, h.paused]

/-! ## Instructions -/

/-- Two machines that run by themselves come to the same. -/
theorem runCycles_alike_of_inactive (h : e.Alike e') (hactive : e.debugger.active = false)
    (hactive' : e'.debugger.active = false) :
    (e.runCycles n).1 = (e'.runCycles n).1 ∧ (e.runCycles n).2.Alike (e'.runCycles n).2 := by
  obtain ⟨hresult, hmachine⟩ := Machine.run_congr h.machine n
  unfold runCycles
  rw [if_neg (Bool.eq_false_iff.mp hactive), if_neg (Bool.eq_false_iff.mp hactive')]
  generalize e.machine.run n = result at hresult hmachine
  generalize e'.machine.run n = result' at hresult hmachine
  obtain ⟨outcome, m⟩ := result
  obtain ⟨outcome', m'⟩ := result'
  dsimp only at hresult hmachine
  subst hresult
  have hled : (e.mapMachine fun _ => m).Alike (e'.mapMachine fun _ => m') := h.mapMachine hmachine
  cases outcome with
  | ok ran => exact ⟨rfl, hled⟩
  | error err => exact hled.handle err

/-- The debugger pauses the engine exactly at a breakpoint. -/
theorem runCycles_paused (hactive : e.debugger.active = true) :
    (e.runCycles n).2.paused = (e.paused || (e.debugger.run n).1.atBreakpoint) := by
  unfold runCycles
  rw [if_pos hactive]
  generalize e.debugger.run n = result
  obtain ⟨r, d⟩ := result
  cases r with
  | failed err =>
    obtain ⟨lastError, notes, hleft⟩ := handle_leaves { e with debugger := d } err
    show (handle { e with debugger := d } err).2.paused = (e.paused || false)
    rw [hleft, Bool.or_false]
  | _ => rfl

/-- What a run under the debugger leaves of the machine is what is left of the machine of
the engine. -/
theorem runCycles_machine (h : e.Shared) (hactive : e.debugger.active = true) :
    (e.runCycles n).2.machine = (e.debugger.run n).2.target := by
  rw [(h.runCycles n).machine]
  unfold runCycles
  rw [if_pos hactive]
  generalize e.debugger.run n = result
  split
  next err d =>
    obtain ⟨lastError, notes, hleft⟩ := handle_leaves { e with debugger := d } err
    rw [hleft]
  next => rfl

theorem runCycles_machine_of_inactive (hactive : e.debugger.active = false) :
    (e.runCycles n).2.machine = (e.machine.run n).2 := by
  unfold runCycles
  rw [if_neg (Bool.eq_false_iff.mp hactive)]
  generalize e.machine.run n = result
  split
  next err m =>
    obtain ⟨lastError, notes, hleft⟩ := handle_leaves (e.mapMachine fun _ => m) err
    rw [hleft]
    exact e.machine_mapMachine _
  next => exact e.machine_mapMachine _

/-- Either way it is the machine of a plain run, as long as the engine is not paused. -/
theorem runCycles_quiet (hshared : e.Shared) (hquiet : e.debugger.Undisturbed)
    (hpaused : (e.runCycles n).2.paused = false) :
    (e.runCycles n).2.machine.quiet = (e.machine.run n).2.quiet := by
  cases hactive : e.debugger.active with
  | false => rw [runCycles_machine_of_inactive hactive]
  | true =>
    rw [runCycles_paused hactive, Bool.or_eq_false_iff] at hpaused
    rw [runCycles_machine hshared hactive, hshared.machine]
    exact (Debugger.run_plain hquiet hpaused.2).1

/-- **The debugger executes what the machine would execute by itself**, unless a breakpoint
is hit. -/
theorem runCycles_withoutBreakpoints (hshared : e.Shared) (hquiet : e.debugger.Undisturbed)
    (hactive : e.debugger.active = true) (hr : (e.debugger.run n).1.atBreakpoint = false) :
    (e.runCycles n).1 = (e.withoutBreakpoints.runCycles n).1 ∧
      (e.runCycles n).2.Alike (e.withoutBreakpoints.runCycles n).2 := by
  obtain ⟨htarget, hfailure⟩ := Debugger.run_plain hquiet hr
  have hinactive : ¬ e.withoutBreakpoints.debugger.active = true := Bool.false_ne_true
  have hsame : e.withoutBreakpoints.machine = e.debugger.target :=
    (e.machine_mapDebugger rfl).trans hshared.machine
  have halike := e.alike_withoutBreakpoints
  unfold runCycles
  rw [if_pos hactive, if_neg hinactive, hsame]
  generalize e.debugger.run n = result at htarget hfailure hr
  generalize e.debugger.target.run n = plain at htarget hfailure
  obtain ⟨r, d⟩ := result
  obtain ⟨outcome, m⟩ := plain
  dsimp only at htarget hfailure hr
  -- The debugger comes back with the machine of the plain run, whatever it has recorded.
  have hled : { e with debugger := d }.Alike (e.withoutBreakpoints.mapMachine fun _ => m) := by
    have hshared' : { e with debugger := d }.Shared := hshared
    have hmachine : { e with debugger := d }.machine.quiet =
        (e.withoutBreakpoints.mapMachine fun _ => m).machine.quiet := by
      rw [hshared'.machine, machine_mapMachine]
      exact htarget
    exact { halike with machine := hmachine }
  cases outcome with
  | error err =>
    obtain rfl : r = .failed err := Debugger.eq_failed_of_failure? hfailure
    exact hled.handle err
  | ok ran =>
    cases r with
    | failed err => cases hfailure
    | breakpointBefore pc => cases hr
    | breakpointAfter symbol => cases hr
    | awaitingKey => exact ⟨rfl, { hled with paused := Bool.or_false _ }⟩
    | stepLimit => exact ⟨rfl, { hled with paused := Bool.or_false _ }⟩
    | stopped => exact ⟨rfl, { hled with paused := Bool.or_false _ }⟩

/-- Two engines that are alike execute the same, if only one of them has breakpoints and they are
not hit. -/
theorem runCycles_alike (h : e.Alike e') (hshared : e.Shared) (hquiet : e.debugger.Undisturbed)
    (hactive' : e'.debugger.active = false) (hpaused : (e.runCycles n).2.paused = false) :
    (e.runCycles n).1 = (e'.runCycles n).1 ∧ (e.runCycles n).2.Alike (e'.runCycles n).2 := by
  cases hactive : e.debugger.active with
  | false => exact runCycles_alike_of_inactive h hactive hactive'
  | true =>
    rw [runCycles_paused hactive, Bool.or_eq_false_iff] at hpaused
    obtain ⟨hresult, halike⟩ := runCycles_withoutBreakpoints hshared hquiet hactive hpaused.2
    have hmachine : e.withoutBreakpoints.machine = e.machine := e.machine_mapDebugger rfl
    have hwithout : e.withoutBreakpoints.Alike e' := { h with machine := hmachine ▸ h.machine }
    obtain ⟨hresult', halike'⟩ := runCycles_alike_of_inactive (n := n) hwithout rfl hactive'
    exact ⟨hresult.trans hresult', halike.trans halike'⟩

/-! ## Ticks -/

theorem Alike.reported (h : e.Alike e') : e.reported = e'.reported := by
  unfold Engine.reported
  rw [h.listener, h.sounding, h.toneOn]

theorem Alike.tick (h : e.Alike e') : e.tick.Alike e'.tick := by
  have hticked : (e.mapMachine Machine.tick).Alike (e'.mapMachine Machine.tick) :=
    h.mapMachine (congrArg Machine.tick h.machine)
  have htones : e.tones ++ e.reported = e'.tones ++ e'.reported := by rw [h.tones, h.reported]
  rw [tick_eq, tick_eq]
  exact { hticked with toneOn := h.sounding, tones := htones }

theorem Alike.ticks (h : e.Alike e') (n : Nat) : (e.ticks n).Alike (e'.ticks n) := by
  induction n generalizing e e' with
  | zero => exact h
  | succ n ih => exact ih h.tick

/-! ## Advances and keys -/

/-- The same instructions and ticks are due, and the same is carried over. -/
theorem Alike.carried (h : e.Alike e') (span : Nat) :
    (e.carried span).Alike (e'.carried span) ∧ e.budget span = e'.budget span ∧
    e.beats span = e'.beats span := by
  have hcycles : due e.settings.clockHz e.cycleCarry span =
      due e'.settings.clockHz e'.cycleCarry span := by
    rw [h.settings, h.cycleCarry]
  have hticks : due e.settings.timerHz e.tickCarry span =
      due e'.settings.timerHz e'.tickCarry span := by
    rw [h.settings, h.tickCarry]
  exact ⟨{ h with cycleCarry := congrArg Prod.snd hcycles, tickCarry := congrArg Prod.snd hticks },
    congrArg (·.1.toNat) hcycles, congrArg (·.1.toNat) hticks⟩

/-- **Advances of engines that are alike** give the same and leave them alike, unless a breakpoint
is hit. -/
theorem advance_alike (h : e.Alike e') (hwf : e.WellFormed) (hactive' : e'.debugger.active = false)
    {elapsed : Elapsed} (hpaused : (e.advance elapsed).2.paused = e.paused) :
    (e.advance elapsed).1 = (e'.advance elapsed).1 ∧
    (e.advance elapsed).2.Alike (e'.advance elapsed).2 := by
  cases hidle : e.idle with
  | true =>
    rw [advance_of_idle hidle, advance_of_idle (h.idle ▸ hidle)]
    exact ⟨congrArg Except.ok h.frame, h.publish⟩
  | false =>
    have hidle' : e'.idle = false := h.idle ▸ hidle
    have hunpaused : e.paused = false := (Bool.or_eq_false_iff.mp hidle).2
    cases elapsed with
    | notANumber =>
      rw [advance_of_not_finite hidle rfl, advance_of_not_finite hidle' rfl]
      exact ⟨rfl, h⟩
    | infinite =>
      rw [advance_of_not_finite hidle rfl, advance_of_not_finite hidle' rfl]
      exact ⟨rfl, h⟩
    | nanoseconds span =>
      obtain ⟨hcarried, hbudget, hbeats⟩ := h.carried span
      have hrun := hwf.runCycles_carried hidle span
      rw [advance_of_ok hidle (pass_of_ok hrun)] at hpaused ⊢
      generalize ((e.carried span).runCycles (e.budget span)).2 = mid at hrun hpaused ⊢
      -- The ticks do not touch the pause, so the instructions have not turned it on either.
      have hmid : mid.paused = false := by
        dsimp only at hpaused
        split at hpaused
        · exact hpaused.trans hunpaused
        · exact ((ticked_ticks mid _).paused.symm.trans hpaused).trans hunpaused
      obtain ⟨hresult, halike⟩ :=
        runCycles_alike (n := e.budget span) hcarried hwf.shared hwf.undisturbed hactive'
          (by rwa [hrun])
      rw [hrun, hbudget] at hresult halike
      dsimp only at hresult halike
      have hrun' : (e'.carried span).runCycles (e'.budget span) =
          (.ok (), ((e'.carried span).runCycles (e'.budget span)).2) := Prod.ext hresult.symm rfl
      generalize ((e'.carried span).runCycles (e'.budget span)).2 = mid' at hrun' halike
      rw [advance_of_ok hidle' (pass_of_ok hrun'), ← halike.idle, ← hbeats]
      have hend : (if mid.idle then mid else mid.ticks (e.beats span) : Engine).Alike
          (if mid.idle then mid' else mid'.ticks (e.beats span)) := by
        split
        · exact halike
        · exact halike.ticks _
      exact ⟨congrArg Except.ok hend.frame, hend.publish⟩

/-- Keys keep two engines alike. -/
theorem Alike.press (h : e.Alike e') (code : Int) : (e.press code).2.Alike (e'.press code).2 :=
  h.mapMachine (Machine.press_congr h.machine code)

theorem Alike.release (h : e.Alike e') (code : Int) : (e.release code).Alike (e'.release code) :=
  h.mapMachine (Machine.release_congr h.machine code)

/-- **Whole sequences of advances and keys**: the engines give the same, and they stay alike. -/
theorem answers_alike (h : e.Alike e') (hwf : e.WellFormed) (hactive' : e'.debugger.active = false)
    {commands : List Command} (hinput : ∀ c ∈ commands, c.isInput = true)
    (hhit : e.NeverHit commands) :
    e.answers commands = e'.answers commands ∧
    (e.performAll commands).Alike (e'.performAll commands) := by
  induction commands generalizing e e' with
  | nil => exact ⟨rfl, h⟩
  | cons c rest ih =>
    have hc : c.isInput = true := hinput c List.mem_cons_self
    -- The first command has not turned on the pause, so the others are judged by the same pause
    -- as before.
    have hfirst : (e.perform c).paused = e.paused := hhit.rest.first
    have hrest : (e.perform c).NeverHit rest := by
      unfold NeverHit
      rw [hfirst]
      exact hhit.rest
    have hactive : (e'.perform c).debugger.active = false :=
      (sameSetup_perform hc).active.trans hactive'
    have hgoes := fun halike : (e.perform c).Alike (e'.perform c) =>
      ih halike (hwf.perform c) hactive (fun c hc => hinput c (List.mem_cons_of_mem _ hc)) hrest
    cases c with
    | advance elapsed =>
      obtain ⟨hframe, halike⟩ := advance_alike h hwf hactive' hfirst
      obtain ⟨hanswers, hend⟩ := hgoes halike
      refine ⟨?_, hend⟩
      unfold answers
      rw [hframe, hanswers]
    | press code => exact hgoes (h.press code)
    | release code => exact hgoes (h.release code)
    | _ => cases hc

/-- **Breakpoints are transparent.** The instructions that go through the debugger leave what some
number of plain instructions leave, and if no breakpoint ends them, what the same budget leaves
without any breakpoint, with the same error. Therefore an engine with breakpoints that are never hit
gives the same frames, and reports the same tones and the same error, as an engine that is alike and
has none. -/
theorem breakpoints_transparent (h : e.WellFormed) :
    (e.debugger.active = true → ∀ n,
      (e.machine.halt = none → (e.runCycles n).1 = .ok ()) ∧
      (∃ k ≤ n, (e.runCycles n).2.machine.quiet = (e.machine.afterInstructions k).quiet) ∧
      ((e.debugger.run n).1.atBreakpoint = false →
        (e.runCycles n).1 = (e.withoutBreakpoints.runCycles n).1 ∧
        (e.runCycles n).2.machine.quiet = (e.withoutBreakpoints.runCycles n).2.machine.quiet ∧
        (e.runCycles n).2.lastError = (e.withoutBreakpoints.runCycles n).2.lastError)) ∧
    ∀ e' commands, e.Alike e' → e'.debugger.active = false → (∀ c ∈ commands, c.isInput = true) →
      e.NeverHit commands →
      e.answers commands = e'.answers commands ∧
      (e.performAll commands).tones = (e'.performAll commands).tones ∧
      (e.performAll commands).lastError = (e'.performAll commands).lastError := by
  constructor
  · intro hactive n
    refine ⟨fun hrun => h.runCycles_fst hrun n, ?_, fun hr => ?_⟩
    · rw [runCycles_machine h.shared hactive, h.shared.machine]
      exact e.debugger.run_target n
    · obtain ⟨hresult, halike⟩ := runCycles_withoutBreakpoints h.shared h.undisturbed hactive hr
      exact ⟨hresult, halike.machine, halike.lastError⟩
  · intro e' commands halike hactive' hinput hhit
    obtain ⟨hanswers, hend⟩ := answers_alike halike h hactive' hinput hhit
    exact ⟨hanswers, hend.tones, hend.lastError⟩

/-- An engine for a program that turns on the tone, waits for a key and then jumps to itself. -/
def humming : Engine :=
  create Settings.standard
    (Machine.boot [0x61, 0x05, 0xF1, 0x18, 0xF0, 0x0A, 0x12, 0x06] 0x200 (Dice.cycle [])) true

/-- The same with a breakpoint on an address that the program does not write to. -/
def watchful : Engine :=
  humming.mapDebugger (·.add (.onAddress .onWrite 0x300))

/-- The key comes in the middle, when the program has been waiting for a while. -/
def typing : List Command :=
  [.advance (.nanoseconds 10000000), .advance (.nanoseconds 10000000), .press 7,
    .advance (.nanoseconds 10000000),
    .release 7]

theorem watchful_typing :
    (watchful.debugger.run 5).1 = .awaitingKey ∧ watchful.NeverHit typing ∧
      (watchful.performAll typing).tones = [true] ∧
      (watchful.performAll typing).state.cycles = 8 := by
  unfold watchful humming
  rw [Machine.boot_eq]
  decide +kernel

theorem breakpoints_transparent_through_wait :
    watchful.debugger.active = true ∧ (watchful.debugger.run 5).1.atBreakpoint = false ∧
      (watchful.runCycles 5).1 = .ok () ∧
      (watchful.runCycles 5).2.machine.quiet =
        (watchful.withoutBreakpoints.runCycles 5).2.machine.quiet ∧
      watchful.NeverHit typing ∧ watchful.answers typing = humming.answers typing ∧
      (humming.performAll typing).tones = [true] := by
  obtain ⟨hrun, hhit, htones, -⟩ := watchful_typing
  have hwf : watchful.WellFormed :=
    (wellFormed_create (Machine.boot_wellFormed _ _ (by decide) (by decide))
      Settings.standard true).add _
  have hend : (watchful.debugger.run 5).1.atBreakpoint = false := by
    rw [hrun]
    rfl
  obtain ⟨hcycles, hcommands⟩ := breakpoints_transparent hwf
  obtain ⟨hok, -, hsame⟩ := hcycles rfl 5
  obtain ⟨hanswers, htones', -⟩ :=
    hcommands humming typing ⟨rfl, rfl, rfl, rfl, rfl, rfl, rfl, rfl, rfl⟩ rfl (by decide) hhit
  exact ⟨rfl, hend, hok rfl, (hsame hend).2.1, hhit, hanswers, htones'.symm.trans htones⟩

end Engine

end Chip8
