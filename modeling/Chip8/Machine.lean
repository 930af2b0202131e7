import Chip8.Execution
import Chip8.Program

/-!
# Machines

A `Machine` is the image of a program at its base address, the dice it draws from, its state, and
the fault that halted it, if any. `cycle` fetches, decodes and executes one instruction. There are
two ways to ask for it: `step` hands back a snapshot of the state with the accesses that the
instruction made, `runInstruction` only tells whether the machine ran. Neither does anything while
the machine waits for a key.
-/

namespace Chip8

/-- A machine with a program. The image is what its memory is set to whenever it is reset; where the
program ends in it is known by its size alone. -/
structure Machine where
  image : Program.Image
  base : Nat
  programSize : Nat
  dice : Dice
  state : State
  halt : Option Fault

/-- Why a machine did not execute an instruction. -/
inductive CycleError where
  | fault (f : Fault)
  /-- The machine had been halted before. -/
  | halted (cause : Fault)
  /-- The state had been set up from outside, and the instruction came to grief. -/
  | mishap (m : Mishap)
  deriving DecidableEq

def CycleError.message : CycleError → String
  | .fault f => f.message
  | .halted cause => "VM is halted: " ++ cause.message
  | .mishap m => m.message

/-- What a cycle came to. -/
inductive Cycle where
  | executed (op : Operation)
  | awaitingKey
  | failed (e : CycleError)
  deriving DecidableEq

/-- The record of one executed instruction: the state after it, with an empty access log, and the
accesses that it made. -/
structure Snapshot where
  state : State
  operation : Operation
  activity : List Access

namespace Snapshot

/-- The number of instructions executed up to a snapshot. -/
def cycle (snap : Snapshot) : Int :=
  snap.state.cycles

/-- The instruction of a snapshot with its address. -/
def symbol (snap : Snapshot) : String :=
  snap.operation.symbol

end Snapshot

namespace State

/-- Fetches the word at the counter and moves the counter behind it, if both its bytes lie
in memory. -/
def fetch? (s : State) : Option (Int × State) :=
  if s.memory.contains s.pc && s.memory.contains (s.pc + 1) then
    let (high, memory) := s.memory.fetchCell s.pc
    let (low, memory) := memory.fetchCell (s.pc + 1)
    some (high.toNat * 256 + low.toNat, { s with memory := memory, pc := s.pc + 2 })
  else none

/-- Holds a key down. A machine that waits for a key gets the code and goes on. A code outside 0 to
15 names no key. -/
def press (s : State) (code : Int) : Except SlotError Unit × State :=
  if 0 ≤ code ∧ code < 16 then
    let s := { s with keys := s.keys.setIfInBounds code.toNat true }
    match s.awaiting with
    | none => (.ok (), s)
    | some number =>
      match slot .writing 16 number with
      | .ok x => (.ok (), { s.setReg x code with awaiting := none })
      | .error e => (.error e, s)
  else (.ok (), s)

theorem press_eq (s : State) (code : Int) :
    (s.press code).2 =
      { s with
        keys := (s.press code).2.keys
        v := (s.press code).2.v
        awaiting := (s.press code).2.awaiting } := by
  unfold press
  split
  next =>
    dsimp only
    split
    next => rfl
    next number hwait =>
      cases slot .writing 16 number with
      | ok x => rfl
      | error e => rfl
  next => rfl

def release (s : State) (code : Int) : State :=
  if 0 ≤ code ∧ code < 16 then { s with keys := s.keys.setIfInBounds code.toNat false } else s

theorem release_eq (s : State) (code : Int) :
    s.release code = { s with keys := (s.release code).keys } := by
  unfold release
  split
  · rfl
  · rfl

/-- Counts both timers down by one, as far as they are above zero. -/
def tick (s : State) : State :=
  { s with delay := if 0 < s.delay then s.delay - 1 else s.delay
           sound := if 0 < s.sound then s.sound - 1 else s.sound }

end State

namespace Machine

def create (image : Program.Image) (base programSize : Nat) (dice : Dice) : Machine where
  image := image
  base := base
  programSize := programSize
  dice := dice
  state := State.start image.memory base
  halt := none

/-- The program of a machine: what the image holds from the base on. -/
def program (m : Machine) : List UInt8 :=
  m.image.bytes.extract m.base (m.base + m.programSize)

/-- The machine of a program that fits into memory, right after loading. -/
def boot (program : List UInt8) (base : Nat) (dice : Dice)
    (h : base + program.length ≤ Memory.standardSize := by decide) : Machine :=
  create (.ofProgram program base h) base program.length dice

/-- Loads a program, if the base address and the room behind it allow. -/
def load (program : List UInt8) (base : Int) (dice : Dice) : Except Program.LoadError Machine :=
  match Program.check program base with
  | .ok ⟨base, h⟩ => .ok (boot program base dice h)
  | .error e => .error e

/-- Puts a machine back into the state right after loading. The dice go on from where they are. -/
def reset (m : Machine) : Machine :=
  { m with state := State.start m.image.memory m.base, halt := none }

def halted (m : Machine) : Bool :=
  m.halt.isSome

theorem halt_of_not_halted {m : Machine} (h : m.halted = false) : m.halt = none :=
  Option.not_isSome_iff_eq_none.mp (Bool.eq_false_iff.mp h)

/-- Fetches, decodes and executes one instruction. The access log starts afresh with it. The counter
is moved behind the word before that is decoded: where the word is rejected it stays there, and
where it cannot be fetched the counter has not moved. -/
def cycle (m : Machine) : Cycle × Machine :=
  match m.halt with
  | some cause => (.failed (.halted cause), m)
  | none =>
    match m.state.awaiting with
    | some _ => (.awaitingKey, m)
    | none =>
      let pc := m.state.pc
      let start := m.state.quiet
      match start.fetch? with
      | none =>
        let f := Fault.outOfMemory pc
        (.failed (.fault f), { m with state := start, halt := some f })
      | some (opcode, fetched) =>
        match Operation.dispatch opcode pc fetched m.dice with
        | .error (.fault f) => (.failed (.fault f), { m with state := fetched, halt := some f })
        | .error (.mishap mishap left) => (.failed (.mishap mishap), { m with state := left })
        | .ok (op, state, dice) =>
          (.executed op,
            { m with
              state := { state with cycles := state.cycles + 1 }
              dice := dice })

/-- Executes one instruction and records it; nothing is recorded while the machine waits for a key.
The accesses of the instruction move from the log into the record. -/
def step (m : Machine) : Except CycleError (Option Snapshot) × Machine :=
  match m.cycle with
  | (.failed e, m) => (.error e, m)
  | (.awaitingKey, m) => (.ok none, m)
  | (.executed op, m) =>
    let state := m.state.quiet
    (.ok (some ⟨state, op, m.state.memory.log⟩), { m with state := state })

/-- Executes one instruction and tells whether the machine ran; it does not while it waits for
a key. -/
def runInstruction (m : Machine) : Except CycleError Bool × Machine :=
  match m.cycle with
  | (.failed e, m) => (.error e, m)
  | (.awaitingKey, m) => (.ok false, m)
  | (.executed _, m) => (.ok true, m)

section

variable {m left : Machine}

theorem cycle_of_halted {cause : Fault} (h : m.halt = some cause) :
    m.cycle = (.failed (.halted cause), m) := by
  unfold cycle
  rw [h]

theorem cycle_of_awaiting {number : Int} (hrun : m.halt = none)
    (hwait : m.state.awaiting = some number) :
    m.cycle = (.awaitingKey, m) := by
  unfold cycle
  rw [hrun]
  simp only [hwait]

theorem step_of_failed {e : CycleError} (h : m.cycle = (.failed e, left)) :
    m.step = (.error e, left) := by
  unfold step
  rw [h]

theorem step_of_awaitingKey (h : m.cycle = (.awaitingKey, left)) : m.step = (.ok none, left) := by
  unfold step
  rw [h]

theorem step_of_executed {op : Operation} (h : m.cycle = (.executed op, left)) :
    m.step = (.ok (some ⟨left.state.quiet, op, left.state.memory.log⟩),
      { left with state := left.state.quiet }) := by
  unfold step
  rw [h]

/-- Only a cycle that has executed an instruction makes a record. -/
theorem cycle_of_snapshot {snap : Snapshot} (h : m.step.1 = .ok (some snap)) :
    ∃ op left, m.cycle = (.executed op, left) := by
  cases hc : m.cycle with
  | mk outcome left =>
    cases outcome with
    | failed e =>
      rw [step_of_failed hc] at h
      cases h
    | awaitingKey =>
      rw [step_of_awaitingKey hc] at h
      cases h
    | executed op => exact ⟨op, left, rfl⟩

/-- A step fails with what its cycle fails with. -/
theorem cycle_of_error {e : CycleError} (h : m.step.1 = .error e) :
    m.cycle = (.failed e, m.step.2) := by
  cases hc : m.cycle with
  | mk outcome left =>
    cases outcome with
    | failed e' =>
      rw [step_of_failed hc] at h ⊢
      cases h
      rfl
    | awaitingKey =>
      rw [step_of_awaitingKey hc] at h
      cases h
    | executed op =>
      rw [step_of_executed hc] at h
      cases h

theorem runInstruction_of_failed {e : CycleError} (h : m.cycle = (.failed e, left)) :
    m.runInstruction = (.error e, left) := by
  unfold runInstruction
  rw [h]

theorem runInstruction_of_executed {op : Operation} (h : m.cycle = (.executed op, left)) :
    m.runInstruction = (.ok true, left) := by
  unfold runInstruction
  rw [h]

/-- A cycle that waits for a key changes nothing. -/
theorem cycle_of_awaitingKey (h : m.cycle = (.awaitingKey, left)) : left = m := by
  unfold cycle at h
  split at h
  next => cases h
  next =>
    split at h
    next => exact (congrArg Prod.snd h).symm
    next =>
      dsimp only at h
      split at h
      next => cases h
      next =>
        split at h
        next => cases h
        next => cases h
        next => cases h

theorem step_of_ok_none (h : m.step.1 = .ok none) : m.step = (.ok none, m) := by
  cases hc : m.cycle with
  | mk outcome left =>
    cases outcome with
    | failed e =>
      rw [step_of_failed hc] at h
      cases h
    | executed op =>
      rw [step_of_executed hc] at h
      cases h
    | awaitingKey =>
      rw [step_of_awaitingKey hc, cycle_of_awaitingKey hc]

end

/-- Executes up to `n` more instructions after `ran` of them, as long as the machine runs, and gives
how many there have been. -/
def runFrom (m : Machine) (ran : Nat) : Nat → Except CycleError Nat × Machine
  | 0 => (.ok ran, m)
  | n + 1 =>
    match m.runInstruction with
    | (.error e, m) => (.error e, m)
    | (.ok false, m) => (.ok ran, m)
    | (.ok true, m) => runFrom m (ran + 1) n

/-- Executes up to `n` instructions, as long as the machine runs, and gives how many there were. -/
def run (m : Machine) (n : Nat) : Except CycleError Nat × Machine :=
  m.runFrom 0 n

def mapState (m : Machine) (f : State → State) : Machine :=
  { m with state := f m.state }

def press (m : Machine) (code : Int) : Except SlotError Unit × Machine :=
  let (result, state) := m.state.press code
  (result, { m with state := state })

def release (m : Machine) (code : Int) : Machine :=
  m.mapState (·.release code)

def tick (m : Machine) : Machine :=
  m.mapState State.tick

def sounding (m : Machine) : Bool :=
  decide (0 < m.state.sound)

end Machine

end Chip8
