import Chip8.Proofs.Engine.Past

/-!
# What a reset forgets

A reset loads the program of the machine anew and gives up what belongs to the run so far. An
engine that comes up has a debugger as it was made, up to its machine, its breakpoints and its
records (`Debugger.Standing`), and the tone is on for a listener exactly if that is what has
been reported last; both are kept along all sessions (`Settled`). So what a reset does not set
anew makes no difference: an engine without a background run is, up to its past, a new engine
for the program with the same breakpoints (`Settled.resembles_reset`), and no session tells the
two apart (`reset_forgets`).
-/

namespace Chip8

namespace Debugger

variable {d : Debugger}

/-- A debugger that nobody asks to stop, with the room for records that engines give it. -/
structure Standing (d : Debugger) : Prop where
  capacity : d.history.capacity = Engine.historyLimit
  stopRequested : d.stopRequested = false
  stopDuring : d.stopDuring = fun _ _ => false

theorem Standing.withTarget (h : d.Standing) (m : Machine) : { d with target := m }.Standing :=
  ⟨h.capacity, h.stopRequested, h.stopDuring⟩

theorem Standing.step (h : d.Standing) : d.step.2.Standing := by
  unfold Debugger.step
  split
  next => exact ⟨h.capacity, h.stopRequested, h.stopDuring⟩
  next => exact ⟨h.capacity, h.stopRequested, h.stopDuring⟩
  next =>
    refine ⟨h.capacity, ?_, h.stopDuring⟩
    dsimp only
    rw [h.stopRequested, h.stopDuring]
    rfl

theorem Standing.run (h : d.Standing) (n : Nat) : (d.run n).2.Standing :=
  loop_induction (P := Standing) (d := { d with stopRequested := false }) (fun _ hd => hd.step)
    (fun _ _ hd => ⟨hd.capacity, hd.stopRequested, hd.stopDuring⟩) ⟨h.capacity, rfl, h.stopDuring⟩ n

/-- Turned to another machine, it is a new debugger with the same breakpoints. -/
theorem Standing.attach_eq (h : d.Standing) (m : Machine) :
    d.attach m = { create m Engine.historyLimit with breakpoints := d.breakpoints } := by
  have hclear : d.history.clear = Ring.empty Engine.historyLimit :=
    congrArg (fun n => Ring.mk n []) h.capacity
  unfold attach
  rw [hclear, h.stopRequested, h.stopDuring]
  rfl

end Debugger

namespace Engine

variable {e e' : Engine}

/-- The debugger is as it was made, and the tone that is on is the one that has been
reported last. -/
structure Settled (e : Engine) : Prop where
  debugger : e.debugger.Standing
  heard : (e.toneOn && e.listener) = (e.tones.getLast? == some true)

namespace Settled

/-- What happens to the machine has to do neither with the debugger nor with the tone. -/
theorem mapMachine (h : e.Settled) (f : Machine → Machine) : (e.mapMachine f).Settled :=
  ⟨h.debugger.withTarget _, h.heard⟩

theorem tick (h : e.Settled) : e.tick.Settled := by
  rw [tick_eq]
  refine ⟨h.debugger.withTarget _, ?_⟩
  have hheard := h.heard
  show (e.machine.sounding && e.listener) = ((e.tones ++ e.reported).getLast? == some true)
  unfold reported
  cases hlistener : e.listener with
  | false =>
    rw [hlistener, Bool.and_false] at hheard
    simpa using hheard
  | true =>
    rw [hlistener, Bool.and_true] at hheard
    by_cases hsame : e.machine.sounding = e.toneOn
    · -- Nothing is reported, and the tone stays what it was.
      simpa [hsame] using hheard
    · simp [hsame]

/-- **Elementary changes** leave an engine settled. -/
theorem change (h : e.Settled) (hshared : e.Shared) (hchange : Change e e') : e'.Settled := by
  cases hchange with
  | run hidle n =>
    obtain ⟨d, paused, lastError, notes, heq, hd⟩ := runCycles_leaves hshared n
    rw [heq]
    rcases hd with rfl | rfl
    · exact ⟨h.debugger.run n, h.heard⟩
    · exact ⟨h.debugger.withTarget _, h.heard⟩
  | step =>
    obtain ⟨d, lastError, pending, notes, heq, hd⟩ := e.step_leaves
    rw [heq]
    rcases hd with rfl | rfl
    · exact ⟨h.debugger, h.heard⟩
    · exact ⟨h.debugger.step, h.heard⟩
  | tick => exact h.tick
  | press code => exact h.mapMachine _
  | release code => exact h.mapMachine _
  | start =>
    unfold Engine.start
    split
    · exact h
    · exact ⟨⟨h.debugger.capacity, h.debugger.stopRequested, h.debugger.stopDuring⟩, h.heard⟩
  | carry span => exact ⟨h.debugger, h.heard⟩
  | breakpoints bs =>
    exact ⟨⟨h.debugger.capacity, h.debugger.stopRequested, h.debugger.stopDuring⟩, h.heard⟩
  | outside => exact ⟨h.debugger, h.heard⟩

/-- What is heard of another machine: a tone that was on has ended. -/
theorem tones_replace (h : e.Settled) (loaded : Option Machine) :
    (e.replace loaded).tones = e.tones ++ if e.tones.getLast? = some true then [false] else [] := by
  rw [(e.replaced loaded).tones, h.heard]
  simp only [beq_iff_eq]

theorem replace (h : e.Settled) (loaded : Option Machine) : (e.replace loaded).Settled := by
  have hreplaced := e.replaced loaded
  refine ⟨⟨?_, ?_, ?_⟩, ?_⟩
  · rw [hreplaced.history]
    exact h.debugger.capacity
  · rw [hreplaced.stopRequested, h.debugger.stopRequested]
  · rw [hreplaced.stopDuring, h.debugger.stopDuring]
  · rw [hreplaced.toneOn, Bool.false_and, h.tones_replace]
    split
    · simp
    next hlast => simpa using hlast

end Settled

theorem MadeFor.settled {m : Machine} (h : MadeFor m e) : e.Settled :=
  h.induction (fun _ _ _ => ⟨⟨rfl, rfl, rfl⟩, rfl⟩)
    (fun _ _ hshared hchange he => he.change hshared hchange)
    fun _ loaded _ _ he => he.replace loaded

/-! ## Resets -/

/-- A new engine for a machine with the settings, the listener and the breakpoints of
another one. -/
def renewed (e : Engine) (m : Machine) : Engine :=
  (build e.settings e.base m e.listener).mapDebugger fun d =>
  { d with breakpoints := e.debugger.breakpoints }

/-- **What another machine leaves** of an engine without a background run. -/
theorem Settled.replace_tell_eq (h : e.Settled) (hrun : e.running = false) (loaded : Option Machine)
    (more : List Note) :
    ∃ notes tones, (e.replace loaded).tell more =
      { e.renewed (e.successor loaded) with
        pending := some (e.renewed (e.successor loaded)).frame
        latest := e.latest
        notes := notes
        tones := tones } := by
  obtain ⟨notes, hstop⟩ := e.stop_eq
  have htones : e.stop.tones = e.tones := by rw [hstop]
  have hlistener : e.stop.listener = e.listener := by rw [hstop]
  refine ⟨notes ++ more, e.tones ++ if e.toneOn && e.listener then [false] else [], ?_⟩
  rw [replace_eq_attached]
  dsimp only
  rw [hrun, if_neg Bool.false_ne_true, told_eq, htones, hlistener]
  unfold attached
  rw [hstop]
  -- All that is left to compare is the debugger.
  exact congrArg
    (fun d : Debugger =>
      { e with
        ref := .shared
        debugger := d
        paused := false
        cycleCarry := 0
        tickCarry := 0
        toneOn := false
        lastError := none
        pending := some (frameOf d.target false)
        background := .none
        notes := notes ++ more
        tones := e.tones ++ if e.toneOn && e.listener then [false] else [] })
    (h.debugger.attach_eq (e.successor loaded))

/-- An engine that is a new one up to what it has told and reported, and up to where the frame to be
shown is kept. -/
theorem resembles_of_eq {pending : Option Frame} {latest : Frame} {notes : List Note}
    {tones : List Bool}
    (h : e = { e' with pending := pending, latest := latest, notes := notes, tones := tones })
    (hshown : pending.getD latest = e'.pending.getD e'.latest) (hnotes : e'.notes = [])
    (htones : e'.tones = []) :
    Resembles e.notes e.tones e e' := by
  rw [h]
  unfold Resembles behind
  dsimp only
  rw [hshown, hnotes, htones, List.append_nil, List.append_nil]
  rfl

/-- Up to its past, it is a new engine for that machine. -/
theorem Settled.resembles_replace (h : e.Settled) (hrun : e.running = false)
    (loaded : Option Machine) (more : List Note) :
    Resembles ((e.replace loaded).tell more).notes ((e.replace loaded).tell more).tones
      ((e.replace loaded).tell more) (e.renewed (e.successor loaded)) := by
  obtain ⟨notes, tones, heq⟩ := h.replace_tell_eq hrun loaded more
  exact resembles_of_eq heq rfl rfl rfl

theorem Settled.resembles_reset (h : e.Settled) (hrun : e.running = false) :
    Resembles e.reset.notes e.reset.tones e.reset (e.renewed e.machine.reset) :=
  h.resembles_replace hrun none [.resetCompleted]

/-- **Nothing leaks through a reset.** Whatever an engine has gone through, after a reset without a
background run it replies to every session as a new engine does whose machine has been loaded with
the same program, place and dice, and it tells and reports the same from then on. All that is heard
of the reset itself is that a tone ends that has been reported. -/
theorem reset_forgets (h : e.Reachable) :
    (e.running = false →
      ∃ m, Machine.load e.machine.program e.machine.base e.machine.dice = .ok m ∧
        ∀ requests,
          e.reset.replies requests = (e.renewed m).replies requests ∧
            (e.reset.serveAll requests).notes = e.reset.notes ++
              ((e.renewed m).serveAll requests).notes ∧
            (e.reset.serveAll requests).tones = e.reset.tones ++
              ((e.renewed m).serveAll requests).tones) ∧
      e.reset.tones = e.tones ++ if e.tones.getLast? = some true then [false] else [] := by
  obtain ⟨m, -, hmade⟩ := id h
  have hsettled := hmade.settled
  refine ⟨fun hrun => ⟨e.machine.reset, h.machine.load_eq, fun requests => ?_⟩,
    hsettled.tones_replace _⟩
  exact (hsettled.resembles_reset hrun).serveAll requests

/-- A machine that lets its tone sound and then goes on in a circle. -/
def buzzing : Machine :=
  Machine.boot [0x60, 0x0F, 0xF0, 0x18, 0x12, 0x04] 0x200 (Dice.cycle [])

/-- An engine with the tone on that has been paused at a breakpoint, with a key held down. -/
def buzzed : Engine :=
  (build Settings.standard 0x200 buzzing true).serveAll
    [.command (.advance (.nanoseconds 50000000)), .command (.add (.onAddress .atAddress 0x204)),
      .command (.press 3),
      .command (.advance (.nanoseconds 50000000))]

theorem buzzed_paused : buzzed.running = false ∧ buzzed.paused = true ∧ buzzed.tones = [true] := by
  unfold buzzed buzzing
  rw [Machine.boot_eq]
  decide +kernel

theorem reset_forgets_buzzed :
    buzzed.Reachable ∧ buzzed.running = false ∧ buzzed.paused = true ∧ buzzed.tones = [true] ∧
      buzzed.reset.tones = [true, false] ∧
      ∃ m, Machine.load buzzed.machine.program buzzed.machine.base buzzed.machine.dice = .ok m ∧
        buzzed.reset.replies [.takeFrame, .command .start, .history, .inspect 2, .lastError] =
          (buzzed.renewed m).replies [.takeFrame, .command .start, .history, .inspect 2,
            .lastError] := by
  have hload : Machine.load [0x60, 0x0F, 0xF0, 0x18, 0x12, 0x04] 0x200 (Dice.cycle []) =
      .ok buzzing := rfl
  have hreachable : buzzed.Reachable := ⟨buzzing, Machine.reachable_of_load hload, _, _, _, _, rfl⟩
  obtain ⟨hrun, hpaused, htones⟩ := buzzed_paused
  obtain ⟨hforgets, hheard⟩ := reset_forgets hreachable
  obtain ⟨m, hm, hsame⟩ := hforgets hrun
  rw [htones] at hheard
  exact ⟨hreachable, hrun, hpaused, htones, hheard, m, hm, (hsame _).1⟩

end Engine

end Chip8
