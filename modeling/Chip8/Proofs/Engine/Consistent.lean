import Chip8.Proofs.Engine.Session

/-!
# What fits together in every engine

Errors come up in three ways, in plain runs, under the debugger and in single steps, and they are
forgotten in others. In all of them the fault that an engine keeps is the one that has halted its
machine, and a halted machine is not at a breakpoint (`Coherent`): one elementary change preserves
this (`Coherent.change`), and another machine begins without a fault (`Coherent.replace`).
`Consistent` says in addition what that means to whoever asks: a halted machine is never asked for
an instruction, no advance and no step fails for what the machine does, and nothing happens to an
engine that is idle. `stays_consistent` is this for all sessions with an engine for a machine that
has just been loaded.
-/

namespace Chip8.Engine

variable {e e' : Engine}

/-- The fault that is kept is the one that has halted the machine, and a halted machine is not at
a breakpoint. -/
structure Coherent (e : Engine) : Prop where
  lastError : e.lastError = e.machine.halt
  paused : e.machine.halted = true → e.paused = false

/-- A machine that has not been halted is coherent with no fault, whether the engine pauses
or not. -/
theorem coherent_of_running (hrun : e.machine.halt = none) (herror : e.lastError = none) :
    e.Coherent where
  lastError := herror.trans hrun.symm
  paused := fun hhalt => by
    unfold Machine.halted at hhalt
    rw [hrun] at hhalt
    cases hhalt

namespace Coherent

/-- A fault that halts the machine is kept by whoever takes care of it. -/
theorem handle {err : CycleError} (hhalt : ∃ f, err = .fault f ∧ e.machine.halt = some f)
    (hpaused : e.paused = false) : (e.handle err).2.Coherent := by
  obtain ⟨f, rfl, hhalt⟩ := hhalt
  exact ⟨hhalt.symm, fun _ => hpaused⟩

theorem runCycles (h : e.Coherent) (hwf : e.WellFormed) (hidle : e.idle = false) (n : Nat) :
    (e.runCycles n).2.Coherent := by
  obtain ⟨hrun, hpaused⟩ := running_of_not_idle hidle
  have herror : e.lastError = none := h.lastError.trans hrun
  unfold Engine.runCycles
  split
  next =>
    have hhalts := Debugger.halts_run hwf.target (hwf.shared.machine ▸ hrun) n
    generalize e.debugger.run n = result at hhalts
    obtain ⟨r, d⟩ := result
    have hled : { e with debugger := d }.Shared := hwf.shared
    have hsame : { e with debugger := d }.machine = d.target := hled.machine
    cases r with
    | failed err =>
      obtain ⟨f, hf, hhalt⟩ := hhalts
      exact .handle (e := { e with debugger := d })
        ⟨f, hf, (congrArg Machine.halt hsame).trans hhalt⟩ hpaused
    | _ => exact coherent_of_running ((congrArg Machine.halt hsame).trans hhalts) herror
  next =>
    have hhalts := hwf.machine.halts_run hrun n
    generalize e.machine.run n = result at hhalts
    obtain ⟨answer, left⟩ := result
    have hsame : (e.mapMachine fun _ => left).machine = left := e.machine_mapMachine _
    cases answer with
    | error err =>
      obtain ⟨f, hf, hhalt⟩ := hhalts
      exact .handle ⟨f, hf, (congrArg Machine.halt hsame).trans hhalt⟩ hpaused
    | ok ran => exact coherent_of_running ((congrArg Machine.halt hsame).trans hhalts) herror

theorem step (h : e.Coherent) (hwf : e.WellFormed) : e.step.2.Coherent := by
  cases hwf.stepped with
  | halted _ heq =>
    rw [heq]
    exact ⟨h.lastError, fun _ => rfl⟩
  | fault _ f d _ hhalt heq =>
    have hstepped : e.step.2.machine = d.target := by
      rw [hwf.shared.step.machine, heq]
      rfl
    rw [heq] at hstepped ⊢
    exact ⟨((congrArg Machine.halt hstepped).trans hhalt).symm, fun _ => rfl⟩
  | answer hrun record d _ hhalt heq =>
    have hstepped : e.step.2.machine = d.target := by
      rw [hwf.shared.step.machine, heq]
      rfl
    rw [heq] at hstepped ⊢
    exact coherent_of_running ((congrArg Machine.halt hstepped).trans hhalt)
      (h.lastError.trans hrun)

/-- What touches neither the halt nor the fault that is kept, and begins no pause, keeps an
engine coherent. -/
theorem of_same (h : e.Coherent) (hhalt : e'.machine.halt = e.machine.halt)
    (herror : e'.lastError = e.lastError) (hpaused : e'.paused = true → e.paused = true) :
    e'.Coherent where
  lastError := by
    rw [herror, hhalt]
    exact h.lastError
  paused := fun hhalted => by
    unfold Machine.halted at hhalted
    rw [hhalt] at hhalted
    exact Bool.eq_false_iff.mpr fun htrue =>
      Bool.false_ne_true ((h.paused hhalted).symm.trans (hpaused htrue))

/-- **Elementary changes** keep an engine coherent. -/
theorem change (h : e.Coherent) (hwf : e.WellFormed) (hchange : Change e e') : e'.Coherent := by
  cases hchange with
  -- Only instructions can halt the machine or bring it to a breakpoint.
  | run hidle n => exact h.runCycles hwf hidle n
  | step => exact h.step hwf
  | tick =>
    have hhalt : e.tick.machine.halt = e.machine.halt := congrArg (·.halt) e.machine_tick
    have herror : e.tick.lastError = e.lastError := by rw [tick_eq]; rfl
    have hpaused : e.tick.paused = e.paused := by rw [tick_eq]; rfl
    exact h.of_same hhalt herror hpaused.symm.trans
  | press code => exact h.of_same ((congrArg Machine.halt (e.machine_press code)).trans rfl) rfl id
  | release code =>
    exact h.of_same ((congrArg Machine.halt (e.machine_release code)).trans rfl) rfl id
  | start =>
    refine h.of_same (congrArg Machine.halt e.machine_start) e.lastError_start ?_
    unfold Engine.start
    split
    · exact id
    · exact nofun
  | carry span => exact h.of_same rfl rfl id
  | breakpoints bs => exact h.of_same (congrArg Machine.halt (e.machine_mapDebugger rfl)) rfl id
  | outside => exact h.of_same rfl rfl id

/-- Another machine begins without a fault, and the fault of the one before is forgotten. -/
theorem replace (e : Engine) {loaded : Option Machine} (hloaded : Installs loaded) :
    (e.replace loaded).Coherent := by
  have hreplaced := e.replaced loaded
  refine coherent_of_running ?_ hreplaced.lastError
  rw [hreplaced.machine]
  exact hloaded.halt e

end Coherent

/-- What fits together in an engine. -/
structure Consistent (e : Engine) : Prop where
  lastError : e.lastError = e.machine.halt
  paused : ¬ (e.machine.halted = true ∧ e.paused = true)
  paced : e.Paced
  /-- The debugger refers to the machine of the engine, so that both see the same state. Each
  command leaves it the machine that it puts in place. -/
  shared : e.Shared
  same : e.machine = e.debugger.target
  target : ∀ c, Machine.Evolves (e.installed c) (e.perform c).debugger.target
  /-- An advance fails for no other reason than a span of time that cannot be used. -/
  advance : ∀ elapsed, (e.advance elapsed).1 = .ok (e.advance elapsed).2.frame ∨
    e.idle = false ∧ ∃ err, elapsed.get = .error err ∧ (e.advance elapsed).1 = .error (.elapsed err)
  step : e.step.1 = .ok e.step.2.frame
  /-- Whoever lets instructions be executed is not told that the machine has been halted before. -/
  asked : e.idle = false → ∀ n cause,
    (e.debugger.run n).1 ≠ .failed (.halted cause) ∧ (e.machine.run n).1 ≠ .error (.halted cause)
  stepped : e.machine.halted = false → ∀ cause, e.debugger.step.1 ≠ .error (.halted cause)
  /-- Nothing happens to an idle engine, but that a frame is published. -/
  idle : e.idle = true → ∀ elapsed, (e.advance elapsed).2 = { e with pending := some e.frame }

theorem Coherent.consistent (h : e.Coherent) (hwf : e.WellFormed) : e.Consistent where
  lastError := h.lastError
  paused := by
    rintro ⟨hhalted, hpaused⟩
    rw [h.paused hhalted] at hpaused
    cases hpaused
  paced := hwf.paced
  shared := hwf.shared
  same := hwf.shared.machine
  target := perform_evolves hwf.shared
  advance := by
    intro elapsed
    cases hidle : e.idle with
    | true =>
      rw [advance_of_idle hidle]
      exact .inl rfl
    | false =>
      cases elapsed with
      | nanoseconds span => exact .inl (hwf.advance_fst span)
      | notANumber =>
        rw [advance_of_not_finite hidle rfl]
        exact .inr ⟨rfl, _, rfl, rfl⟩
      | infinite =>
        rw [advance_of_not_finite hidle rfl]
        exact .inr ⟨rfl, _, rfl, rfl⟩
  step := hwf.step_fst
  asked := by
    intro hidle n cause
    obtain ⟨hrun, -⟩ := running_of_not_idle hidle
    have hdebugger := Debugger.halts_run hwf.target (hwf.shared.machine ▸ hrun) n
    have hmachine := hwf.machine.halts_run hrun n
    constructor
    · intro hfailed
      rw [hfailed] at hdebugger
      obtain ⟨f, hf, -⟩ := hdebugger
      cases hf
    · intro hfailed
      rw [hfailed] at hmachine
      obtain ⟨f, hf, -⟩ := hmachine
      cases hf
  stepped := by
    intro hhalted cause hfailed
    have hrun : e.machine.halt = none := Machine.halt_of_not_halted hhalted
    have hhalts := e.debugger.halts_step hwf.target (hwf.shared.machine ▸ hrun)
    rw [hfailed] at hhalts
    obtain ⟨f, hf, -⟩ := hhalts
    cases hf
  idle := by
    intro hidle elapsed
    rw [advance_of_idle hidle]
    rfl

/-- **Everything fits together at all times**, whatever is asked of an engine for a machine that has
just been loaded. -/
theorem stays_consistent {program : List UInt8} {place : Int} {dice : Dice} {m : Machine}
    (hload : Machine.load program place dice = .ok m) (settings : Settings) (base : Int)
    (listener : Bool) (requests : List Request) :
    ((build settings base m listener).serveAll requests).Consistent := by
  have hinstalls : Installs (some m) := .load hload
  have hrun : m.halt = none := hinstalls.halt (build settings base m listener)
  have hwf : (build settings base m listener).WellFormed :=
    MadeFor.wellFormed (Machine.wellFormed_of_load hload) ⟨settings, base, listener, [], rfl⟩
  have hboth : ((build settings base m listener).serveAll requests).WellFormed ∧
      ((build settings base m listener).serveAll requests).Coherent := by
    refine serveAll_induction (P := fun e => e.WellFormed ∧ e.Coherent)
      ⟨hwf, coherent_of_running hrun rfl⟩ ?_ ?_ requests
    · rintro e e' hchange ⟨he, hcoherent⟩
      exact ⟨he.change hchange, hcoherent.change he hchange⟩
    · rintro e loaded hloaded ⟨he, -⟩
      exact ⟨he.replace (hloaded.wellFormed he.machine), .replace e hloaded⟩
  exact hboth.2.consistent hboth.1

/-- A machine that comes to a halt on its first instruction, a return. -/
def underflowing : Machine :=
  Machine.boot [0x00, 0xEE] 0x200 (Dice.cycle [])

/-- A step, with which it halts, and then an advance and a press. -/
def underflowed : Engine :=
  (build Settings.standard 0x200 underflowing true).serveAll
    [.command .step, .command (.advance (.nanoseconds 100000000)), .command (.press 5)]

theorem underflowed_halted :
    underflowed.lastError = some (.stackUnderflow 0x200) ∧ underflowed.idle = true := by
  unfold underflowed underflowing
  rw [Machine.boot_eq]
  decide +kernel

theorem stays_consistent_underflowed :
    Machine.load [0x00, 0xEE] 0x200 (Dice.cycle []) = .ok underflowing ∧ underflowed.Consistent ∧
      underflowed.machine.halt = some (.stackUnderflow 0x200) ∧ underflowed.paused = false ∧
      (underflowed.advance (.nanoseconds 5)).2 =
        { underflowed with pending := some underflowed.frame } := by
  have hload : Machine.load [0x00, 0xEE] 0x200 (Dice.cycle []) = .ok underflowing := rfl
  have hconsistent : underflowed.Consistent := stays_consistent hload _ _ _ _
  obtain ⟨herror, hidle⟩ := underflowed_halted
  have hhalt : underflowed.machine.halt = some (.stackUnderflow 0x200) :=
    hconsistent.lastError.symm.trans herror
  have hhalted : underflowed.machine.halted = true := by
    unfold Machine.halted
    rw [hhalt]
    rfl
  refine ⟨hload, hconsistent, hhalt, ?_, hconsistent.idle hidle _⟩
  exact Bool.eq_false_iff.mpr fun hpaused => hconsistent.paused ⟨hhalted, hpaused⟩

end Chip8.Engine
