import Chip8.Breakpoint
import Chip8.Note
import Chip8.Ring

/-!
# The debugger

A `Debugger` steps a machine and stops it at breakpoints. It keeps the latest snapshots. A run that
stopped at a breakpoint before an instruction can simply be started again: the address is marked in
`resumePc`, and the mark holds until an instruction has been executed. A stop can also be asked for
from outside, even while an instruction is executed; it is obeyed before the next one. Who asks for
it then is `stopDuring`, which looks at the machine before and after the instruction.
-/

namespace Chip8

/-- A machine under observation. Breakpoints are kept in the order in which they were registered,
each with what it is about, so that one that is switched off differs from the same one
switched on. -/
structure Debugger where
  target : Machine
  breakpoints : List Breakpoint
  history : Ring Snapshot
  /-- The address at which breakpoints are ignored for the next instruction. -/
  resumePc : Option Int
  /-- Whether a stop has been asked for since the run began. -/
  stopRequested : Bool
  /-- Whether a stop is asked for during the instruction that takes one machine to another. -/
  stopDuring : Machine → Machine → Bool

/-- How a run ended. -/
inductive RunEnd where
  /-- A breakpoint before the instruction at an address. -/
  | breakpointBefore (pc : Int)
  /-- A breakpoint after an instruction. -/
  | breakpointAfter (symbol : String)
  | awaitingKey
  | stepLimit
  | stopped
  /-- The machine could not execute an instruction. -/
  | failed (e : CycleError)
  deriving DecidableEq

namespace RunEnd

def atBreakpoint : RunEnd → Bool
  | .breakpointBefore _ => true
  | .breakpointAfter _ => true
  | _ => false

def label : RunEnd → String
  | .breakpointBefore _ => "BREAKPOINT"
  | .breakpointAfter _ => "BREAKPOINT"
  | .awaitingKey => "AWAITING_KEY"
  | .stepLimit => "STEP_LIMIT"
  | .stopped => "STOPPED"
  | .failed _ => "FAILED"

def notes : RunEnd → List Note
  | .breakpointBefore pc => [.breakpointBefore pc]
  | .breakpointAfter symbol => [.breakpointAfter symbol]
  | .failed (.fault f) => [.machineHalted f]
  | _ => []

end RunEnd

namespace Debugger

/-- A debugger for a machine that keeps up to `limit` snapshots. -/
def create (target : Machine) (limit : Nat) : Debugger where
  target := target
  breakpoints := []
  history := Ring.empty limit
  resumePc := none
  stopRequested := false
  stopDuring := fun _ _ => false

/-- Turns to another machine: the breakpoints stay, the history does not. -/
def attach (d : Debugger) (target : Machine) : Debugger :=
  { d with target := target, history := d.history.clear, resumePc := none }

def mapTarget (d : Debugger) (f : Machine → Machine) : Debugger :=
  { d with target := f d.target }

def active (d : Debugger) : Bool :=
  d.breakpoints.any (·.enabled)

/-- Registers a breakpoint, unless the same one is registered. -/
def add (d : Debugger) (b : Breakpoint) : Debugger :=
  if d.breakpoints.contains b then d else { d with breakpoints := d.breakpoints ++ [b] }

/-- Registering a breakpoint changes neither the mark nor the machine. -/
theorem add_keeps (d : Debugger) (b : Breakpoint) :
    (d.add b).resumePc = d.resumePc ∧ (d.add b).target = d.target := by
  unfold Debugger.add
  split
  · exact ⟨rfl, rfl⟩
  · exact ⟨rfl, rfl⟩

/-- Puts a breakpoint in the place of another one, without looking whether it is registered already
somewhere else. -/
def update (d : Debugger) (old new : Breakpoint) : Debugger :=
  { d with breakpoints := d.breakpoints.replace old new }

def remove (d : Debugger) (b : Breakpoint) : Debugger :=
  { d with breakpoints := d.breakpoints.erase b }

/-- Lets the next instruction run even if there is a breakpoint before it. -/
def resume (d : Debugger) : Debugger :=
  { d with resumePc := some d.target.state.pc }

def requestStop (d : Debugger) : Debugger :=
  { d with stopRequested := true }

/-- Arranges for a stop to be asked for during the `n`-th draw of the dice from now. -/
def stopAtNthDraw (d : Debugger) (n : Nat) : Debugger :=
  let draw := d.target.dice.drawn + (n - 1)
  { d with stopDuring := fun before after =>
    n != 0 && before.dice.drawn ≤ draw && draw < after.dice.drawn }

/-- Executes one instruction and puts its snapshot into the history. -/
def step (d : Debugger) : Except CycleError (Option Snapshot) × Debugger :=
  match d.target.step with
  | (.error e, m) => (.error e, { d with target := m })
  | (.ok none, m) => (.ok none, { d with target := m })
  | (.ok (some snap), m) =>
    (.ok (some snap),
      { d with
        target := m
        history := d.history.push snap
        resumePc := none
        stopRequested := d.stopRequested || d.stopDuring d.target m })

/-- Whatever the answer, the machine has been stepped once. -/
theorem step_target (d : Debugger) : d.step.2.target = d.target.step.2 := by
  unfold step
  split
  next heq => exact (congrArg Prod.snd heq).symm
  next heq => exact (congrArg Prod.snd heq).symm
  next heq => exact (congrArg Prod.snd heq).symm

theorem step_breakpoints (d : Debugger) : d.step.2.breakpoints = d.breakpoints := by
  unfold step
  split
  · rfl
  · rfl
  · rfl

theorem step_of_error {d : Debugger} {e : CycleError} (h : d.target.step.1 = .error e) :
    d.step = (.error e, { d with target := d.target.step.2 }) := by
  unfold step
  split
  next heq =>
    rw [heq] at h ⊢
    cases h
    rfl
  next heq =>
    rw [heq] at h
    cases h
  next heq =>
    rw [heq] at h
    cases h

theorem step_of_awaitingKey {d : Debugger} (h : d.target.step.1 = .ok none) :
    d.step = (.ok none, d) := by
  unfold step
  rw [Machine.step_of_ok_none h]

/-- The debugger after a step that has made a record: the history has grown, and the mark
is gone. -/
def stepped (d : Debugger) (snap : Snapshot) : Debugger :=
  { d with
    target := d.target.step.2
    history := d.history.push snap
    resumePc := none
    stopRequested := d.stopRequested || d.stopDuring d.target d.target.step.2 }

theorem step_of_snapshot {d : Debugger} {snap : Snapshot} (h : d.target.step.1 = .ok (some snap)) :
    d.step = (.ok (some snap), d.stepped snap) := by
  unfold step
  split
  next heq =>
    rw [heq] at h
    cases h
  next heq =>
    rw [heq] at h
    cases h
  next heq =>
    unfold stepped
    rw [heq] at h ⊢
    cases h
    rfl

/-- Whether a breakpoint stops the run before the next instruction. At the marked address none does:
the run has stopped there before, and would never get on otherwise. -/
def blocked (d : Debugger) : Bool :=
  d.resumePc != some d.target.state.pc && d.breakpoints.any (·.hitsBefore d.target.state.pc)

/-- Runs on until a reason to stop arises or the steps are used up. Before an instruction a stop
that has been asked for comes first; what an instruction has met is looked at right after it, so
that it counts even if a stop was asked for meanwhile or no step is left. -/
def loop (d : Debugger) : Nat → RunEnd × Debugger
  | 0 => if d.stopRequested then (.stopped, d) else (.stepLimit, d)
  | n + 1 =>
    if d.stopRequested then (.stopped, d)
    else if d.blocked then
      (.breakpointBefore d.target.state.pc, { d with resumePc := some d.target.state.pc })
    else
      match d.step with
      | (.error e, d') => (.failed e, d')
      | (.ok none, d') => (.awaitingKey, d')
      | (.ok (some snap), d') =>
        -- A register has changed if it is not what it was before the step, which only `d`
        -- still knows.
        if d'.breakpoints.any
            (·.hitsAfter snap.activity d.target.state.registers snap.state.registers) then
          (.breakpointAfter snap.symbol, d')
        else loop d' n

/-- Runs for at most `n` steps. A stop asked for earlier is forgotten. -/
def run (d : Debugger) (n : Nat) : RunEnd × Debugger :=
  loop { d with stopRequested := false } n

/-- Runs without a limit; nothing if the run has not ended after `fuel` steps. -/
def runOn? (d : Debugger) (fuel : Nat) : Option (RunEnd × Debugger) :=
  match d.run fuel with
  | (.stepLimit, _) => none
  | result => some result

end Debugger

end Chip8
