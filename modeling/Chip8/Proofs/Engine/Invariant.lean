import Chip8.Proofs.Debugger.Invariant
import Chip8.Proofs.Debugger.Plain
import Chip8.Proofs.Engine.Shared
import Chip8.Proofs.Machine.Run

/-!
# What holds of every engine that comes up

An engine is well-formed if its machine is, if its debugger has the same machine, if nobody
asks the debugger to stop during an instruction, and if it is `Paced`: of instructions and of
ticks it carries over less than one. An engine that is made for a well-formed machine is
well-formed (`wellFormed_create`), and one command keeps it so (`WellFormed.perform`), so any
number of them do (`WellFormed.performAll`). Such an engine takes care of all that its
instructions can come to: as long as the machine has not been halted before, they are gone
through to their end (`WellFormed.runCycles_fst`), and an advance, which asks no halted
machine, always gives a frame (`WellFormed.advance_fst`).
-/

namespace Chip8

namespace Debugger

variable {d : Debugger}

/-- A run under the debugger leaves a well-formed machine. -/
theorem run_wellFormed (h : d.target.WellFormed) (n : Nat) : (d.run n).2.target.WellFormed := by
  obtain ⟨k, -, hquiet⟩ := d.run_target n
  exact (h.afterInstructions k).of_quiet hquiet

/-- A run changes nothing about who asks for a stop. -/
theorem run_stopDuring (d : Debugger) (n : Nat) : (d.run n).2.stopDuring = d.stopDuring := by
  obtain ⟨k, -, hd⟩ := (d.run_eq_iff (d.run n).2 n (d.run n).1).mp rfl
  rw [hd]
  rfl

/-- Neither does a single step, and it leaves a well-formed machine. -/
theorem step_wellFormed (h : d.target.WellFormed) :
    d.step.2.target.WellFormed ∧ d.step.2.stopDuring = d.stopDuring := by
  have hstep := h.step
  unfold step
  split
  next heq => exact ⟨by rwa [heq] at hstep, rfl⟩
  next heq => exact ⟨by rwa [heq] at hstep, rfl⟩
  next heq => exact ⟨by rwa [heq] at hstep, rfl⟩

end Debugger

namespace Engine

variable {e e' : Engine}

/-- Less than one instruction and less than one tick are carried over. -/
structure Paced (e : Engine) : Prop where
  cycle_nonneg : 0 ≤ e.cycleCarry
  cycle_lt : e.cycleCarry < nanoseconds
  tick_nonneg : 0 ≤ e.tickCarry
  tick_lt : e.tickCarry < nanoseconds

/-- What a span of time leaves to be carried over is less than one instruction and less than
one tick. -/
theorem paced_carried (e : Engine) (span : Nat) : (e.carried span).Paced :=
  ⟨due_carry_nonneg _ _ _, due_carry_lt _ _ _, due_carry_nonneg _ _ _, due_carry_lt _ _ _⟩

theorem Paced.of_carries (h : e.Paced) (hcycle : e'.cycleCarry = e.cycleCarry)
    (htick : e'.tickCarry = e.tickCarry) :
    e'.Paced :=
  ⟨hcycle ▸ h.cycle_nonneg, hcycle ▸ h.cycle_lt, htick ▸ h.tick_nonneg, htick ▸ h.tick_lt⟩

/-- An engine that is not idle has a machine that runs, and it does not pause. -/
theorem running_of_not_idle (hidle : e.idle = false) :
    e.machine.halt = none ∧ e.paused = false := by
  obtain ⟨hhalted, hpaused⟩ := Bool.or_eq_false_iff.mp hidle
  exact ⟨Machine.halt_of_not_halted hhalted, hpaused⟩

/-- What every engine satisfies that comes up. -/
structure WellFormed (e : Engine) : Prop where
  machine : e.machine.WellFormed
  shared : e.Shared
  undisturbed : e.debugger.Undisturbed
  paced : e.Paced

theorem wellFormed_create {m : Machine} (h : m.WellFormed) (settings : Settings) (listener : Bool) :
    (create settings m listener).WellFormed where
  machine := h
  shared := shared_create settings m listener
  undisturbed := fun _ _ => rfl
  paced :=
    have hunit : 0 < nanoseconds := by decide
    ⟨Int.le_refl 0, hunit, Int.le_refl 0, hunit⟩

namespace WellFormed

/-- The debugger has a well-formed machine as well. -/
theorem target (h : e.WellFormed) : e.debugger.target.WellFormed :=
  h.shared.machine ▸ h.machine

/-- Whatever else changes: with a well-formed machine, the same references to it, the same debugger
in this respect and the same carries, an engine stays well-formed. -/
theorem update (h : e.WellFormed) (hm : e'.machine.WellFormed) (href : e'.ref = e.ref)
    (hstop : e'.debugger.stopDuring = e.debugger.stopDuring) (hcycle : e'.cycleCarry = e.cycleCarry)
    (htick : e'.tickCarry = e.tickCarry) : e'.WellFormed where
  machine := hm
  shared := h.shared.of_ref href
  undisturbed :=
    fun before after => (congrFun (congrFun hstop before) after).trans (h.undisturbed before after)
  paced := h.paced.of_carries hcycle htick

theorem publish (h : e.WellFormed) : e.publish.WellFormed :=
  h.update h.machine rfl rfl rfl rfl

theorem report (h : e.WellFormed) (tones : List Bool) : (e.report tones).WellFormed := by
  unfold Engine.report
  split
  · exact h.update h.machine rfl rfl rfl rfl
  · exact h

/-- A change of the machine that leaves it well-formed. -/
theorem mapMachine (h : e.WellFormed) {f : Machine → Machine} (hf : (f e.machine).WellFormed) :
    (e.mapMachine f).WellFormed := by
  have hm : (e.mapMachine f).machine.WellFormed := by
    rw [machine_mapMachine]
    exact hf
  rw [h.shared.mapMachine_eq] at hm ⊢
  exact h.update hm rfl rfl rfl rfl

/-- The debugger may have run, as long as it comes back with a well-formed machine. -/
theorem withDebugger (h : e.WellFormed) {d : Debugger} (hd : d.target.WellFormed)
    (hstop : d.stopDuring = e.debugger.stopDuring) : { e with debugger := d }.WellFormed := by
  refine h.update ?_ rfl hstop rfl rfl
  have hshared : { e with debugger := d }.Shared := h.shared
  rw [hshared.machine]
  exact hd

theorem handle (h : e.WellFormed) (err : CycleError) : (e.handle err).2.WellFormed := by
  obtain ⟨lastError, notes, hleft⟩ := e.handle_leaves err
  rw [hleft]
  exact h.update h.machine rfl rfl rfl rfl

/-! ## Time -/

theorem tick (h : e.WellFormed) : e.tick.WellFormed := by
  have hticked := h.mapMachine (f := Machine.tick) h.machine.tick
  rw [tick_eq]
  exact hticked.update hticked.machine rfl rfl rfl rfl

theorem ticks (h : e.WellFormed) (n : Nat) : (e.ticks n).WellFormed := by
  induction n generalizing e with
  | zero => exact h
  | succ n ih => exact ih h.tick

/-- As long as the machine has not been halted before, an engine comes to the end of whatever
it executes. -/
theorem runCycles_fst (h : e.WellFormed) (hrun : e.machine.halt = none) (n : Nat) :
    (e.runCycles n).1 = .ok () := by
  have hdebugger := Debugger.halts_run h.target (h.shared.machine ▸ hrun) n
  have hmachine := h.machine.halts_run hrun n
  unfold Engine.runCycles
  split
  next =>
    -- What a run of the debugger fails with is a fault, and this is recorded.
    generalize e.debugger.run n = result at hdebugger
    split
    next err d =>
      obtain ⟨f, rfl, -⟩ := hdebugger
      rfl
    next => rfl
  next =>
    generalize e.machine.run n = result at hmachine
    split
    next err m =>
      obtain ⟨f, rfl, -⟩ := hmachine
      rfl
    next => rfl

theorem runCycles_snd (h : e.WellFormed) (n : Nat) : (e.runCycles n).2.WellFormed := by
  have hd := Debugger.run_wellFormed h.target n
  have hstop := e.debugger.run_stopDuring n
  have hm := h.machine.run n
  unfold Engine.runCycles
  split
  next =>
    generalize e.debugger.run n = result at hd hstop
    split
    next err d => exact (h.withDebugger hd hstop).handle err
    next d _ =>
      have hled := h.withDebugger hd hstop
      exact hled.update hled.machine rfl rfl rfl rfl
  next =>
    generalize e.machine.run n = result at hm
    split
    next err m => exact (h.mapMachine (f := fun _ => m) hm).handle err
    next m => exact h.mapMachine (f := fun _ => m) hm

theorem carried (h : e.WellFormed) (span : Nat) : (e.carried span).WellFormed where
  machine := h.machine
  shared := h.shared
  undisturbed := h.undisturbed
  paced := paced_carried e span

/-- The instructions of a span of time are gone through to their end. -/
theorem runCycles_carried (h : e.WellFormed) (hidle : e.idle = false) (span : Nat) :
    (e.carried span).runCycles (e.budget span) =
      (.ok (), ((e.carried span).runCycles (e.budget span)).2) :=
  Prod.ext ((h.carried span).runCycles_fst (running_of_not_idle hidle).1 _) rfl

theorem pass (h : e.WellFormed) (hidle : e.idle = false) (span : Nat) :
    (e.pass span).2.WellFormed := by
  have hmid := (h.carried span).runCycles_snd (e.budget span)
  rw [pass_of_ok (h.runCycles_carried hidle span)]
  dsimp only
  split
  · exact hmid
  · exact hmid.ticks _

theorem advance (h : e.WellFormed) (elapsed : Elapsed) : (e.advance elapsed).2.WellFormed := by
  cases hidle : e.idle with
  | true =>
    rw [advance_of_idle hidle]
    exact h.publish
  | false =>
    cases elapsed with
    | nanoseconds span =>
      have hpass : e.pass span = (.ok (), (e.pass span).2) := by
        rw [pass_of_ok (h.runCycles_carried hidle span)]
      rw [advance_of_ok hidle hpass]
      exact (h.pass hidle span).publish
    | notANumber =>
      rw [advance_of_not_finite hidle rfl]
      exact h
    | infinite =>
      rw [advance_of_not_finite hidle rfl]
      exact h

/-! ## Other commands -/

theorem step (h : e.WellFormed) : e.step.2.WellFormed := by
  have hfree : { e with paused := false }.WellFormed := h.update h.machine rfl rfl rfl rfl
  obtain ⟨hd, hstop⟩ := Debugger.step_wellFormed h.target
  unfold Engine.step
  dsimp only
  split
  · exact hfree.publish
  · -- What the step has come to makes no difference: its debugger goes into the engine.
    generalize e.debugger.step = result at hd hstop
    obtain ⟨outcome, d⟩ := result
    have hstepped := hfree.withDebugger hd hstop
    cases outcome with
    | ok record => exact hstepped.publish
    | error err =>
      have hhandled := hstepped.handle err
      dsimp only
      generalize Engine.handle _ _ = handled at hhandled
      split
      next => exact hhandled
      next => exact hhandled.publish

theorem start (h : e.WellFormed) : e.start.WellFormed := by
  unfold Engine.start
  split
  · exact h
  · exact h.update h.machine rfl rfl rfl rfl

theorem stop (h : e.WellFormed) : e.stop.WellFormed := by
  obtain ⟨notes, hstop⟩ := e.stop_eq
  rw [hstop]
  exact h.update h.machine rfl rfl rfl rfl

/-- Another machine begins with nothing carried over. -/
theorem replace (h : e.WellFormed) {loaded : Option Machine}
    (hm : (e.successor loaded).WellFormed) :
    (e.replace loaded).WellFormed := by
  have hunit : 0 < nanoseconds := by decide
  have hattached : (e.attached loaded).WellFormed :=
    { machine := by
        rw [e.machine_attached]
        exact hm
      shared := rfl
      undisturbed := h.stop.undisturbed
      paced := ⟨Int.le_refl 0, hunit, Int.le_refl 0, hunit⟩ }
  have htold : (if e.toneOn then (e.attached loaded).report [false]
      else e.attached loaded : Engine).WellFormed := by
    split
    · exact hattached.report _
    · exact hattached
  rw [replace_eq_attached]
  dsimp only
  split
  · exact htold.start
  · exact htold

theorem takeLoaded (h : e.WellFormed) {loaded : List Note × Except LoadingError Machine}
    (hloaded : ∀ m, loaded.2 = .ok m → m.WellFormed) : (e.takeLoaded loaded).2.WellFormed := by
  have htold : (e.tell loaded.1).WellFormed := h.update h.machine rfl rfl rfl rfl
  unfold Engine.takeLoaded
  dsimp only
  split
  next => exact htold
  next m heq => exact htold.replace (hloaded m heq)

theorem load (h : e.WellFormed) (program : List UInt8) : (e.load program).2.WellFormed :=
  h.takeLoaded fun _ hm => Machine.wellFormed_of_load (Loading.fromBytes_eq_ok hm)

theorem loadFile (h : e.WellFormed) (files : Files) (path : Text) :
    (e.loadFile files path).2.WellFormed := by
  refine h.takeLoaded fun m hm => ?_
  obtain ⟨program, hload⟩ := Loading.fromFile_eq_ok hm
  exact Machine.wellFormed_of_load hload

theorem add (h : e.WellFormed) (b : Breakpoint) : (e.mapDebugger (·.add b)).WellFormed := by
  have hkeep : (e.debugger.add b).target = e.debugger.target ∧
      (e.debugger.add b).stopDuring = e.debugger.stopDuring := by
    unfold Debugger.add
    split
    · exact ⟨rfl, rfl⟩
    · exact ⟨rfl, rfl⟩
  have htarget : (e.debugger.add b).target.WellFormed := by
    rw [hkeep.1]
    exact h.target
  exact h.withDebugger htarget hkeep.2

/-- **One command** leaves a well-formed engine. -/
theorem perform (h : e.WellFormed) (c : Command) : (e.perform c).WellFormed := by
  cases c with
  | advance elapsed => exact h.advance elapsed
  | step => exact h.step
  | start => exact h.start
  | stop => exact h.stop
  | load program => exact h.load program
  | loadFile files path => exact h.loadFile files path
  | reset =>
    have hreset : (e.successor none).WellFormed := h.machine.reset
    have hreplaced := h.replace hreset
    exact hreplaced.update hreplaced.machine rfl rfl rfl rfl
  | press code => exact h.mapMachine (h.machine.press code)
  | release code => exact h.mapMachine (h.machine.release code)
  | add b => exact h.add b
  | update old new => exact h.withDebugger h.target rfl
  | remove b => exact h.withDebugger h.target rfl
  | finish =>
    show (if e.running then { e with background := .ended } else e : Engine).WellFormed
    split
    · exact h.update h.machine rfl rfl rfl rfl
    · exact h

/-- Any number of commands do. -/
theorem performAll (h : e.WellFormed) (commands : List Command) :
    (e.performAll commands).WellFormed := by
  induction commands generalizing e with
  | nil => exact h
  | cons c rest ih => exact ih (h.perform c)

/-- With a span of time that can be used, an advance always gives a frame. -/
theorem advance_fst (h : e.WellFormed) (span : Nat) :
    (e.advance (.nanoseconds span)).1 = .ok (e.advance (.nanoseconds span)).2.frame := by
  cases hidle : e.idle with
  | true =>
    rw [advance_of_idle hidle]
    rfl
  | false =>
    rw [advance_of_ok hidle (pass_of_ok (h.runCycles_carried hidle span))]
    rfl

end WellFormed

end Engine

end Chip8
