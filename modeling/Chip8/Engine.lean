import Chip8.Debugger
import Chip8.Listing
import Chip8.Loading
import Chip8.Pace
import Chip8.Settings

/-!
# The engine

An `Engine` runs a machine under a debugger at the pace of a clock. `advance` executes the
instructions and the timer ticks that are due, `step` a single instruction; after each of them a
`Frame` is published, of which only the latest is kept. At a breakpoint the engine pauses:
neither instructions nor ticks are due until it is started or stepped again. What it has to tell
is kept in the order in which it arose: `notes` for the log, and `tones`, the changes of the
tone, if anybody listens.
-/

namespace Chip8

/-- What a display shows of a machine at one time. -/
structure Frame where
  screen : Screen
  delay : Int
  sound : Int
  cycles : Int
  pc : Int
  halted : Bool
  awaiting : Bool
  paused : Bool
  deriving DecidableEq

def Frame.sounding (f : Frame) : Bool :=
  decide (0 < f.sound)

/-- What an inspector shows of a machine. -/
structure Inspection where
  registers : RegisterFile
  calls : List Int
  lines : List Line
  keys : List (Fin 16)

/-- What an engine does not take care of when it lets instructions be executed. A fault is not among
it: that is recorded, and the machine is halted. -/
inductive RunError where
  /-- The state had been set up from outside, and an instruction came to grief. -/
  | mishap (m : Mishap)
  /-- The machine had been halted before. Engines ask no halted machine for an instruction. -/
  | halted (cause : Fault)
  deriving DecidableEq

def RunError.message : RunError → String
  | .mishap m => m.message
  | .halted cause => (CycleError.halted cause).message

/-- Why an engine did not advance. -/
inductive AdvanceError where
  | elapsed (e : ElapsedError)
  | run (e : RunError)
  deriving DecidableEq

def AdvanceError.message : AdvanceError → String
  | .elapsed e => e.message
  | .run e => e.message

/-- The background run of an engine: there is none, it goes on, or it has ended by itself. -/
inductive Background where
  | none
  | running
  | ended
  deriving DecidableEq

/-- The machine that an engine refers to. Its debugger refers to a machine as well, and a machine
that both refer to is changed for both at once. -/
inductive MachineRef where
  | shared
  /-- Another machine, of which the debugger does not know. -/
  | apart (m : Machine)

namespace MachineRef

/-- The machine that is referred to beside a debugger. -/
def get (r : MachineRef) (d : Debugger) : Machine :=
  match r with
  | .shared => d.target
  | .apart m => m

/-- A change of the machine, as far as it is not the one of the debugger. -/
def map (r : MachineRef) (f : Machine → Machine) : MachineRef :=
  match r with
  | .shared => .shared
  | .apart m => .apart (f m)

/-- What a change of the machine comes to for the one that the debugger refers to. -/
def mapTarget (r : MachineRef) (f : Machine → Machine) (target : Machine) : Machine :=
  match r with
  | .shared => f target
  | .apart _ => target

end MachineRef

/-- A machine under a debugger, driven by a clock. The engine and its debugger each refer to a
machine, and they are meant to be the same one: commands ask the debugger for instructions while
breakpoints are watched and the machine itself otherwise, so two machines would drift apart. What
is carried over of instructions and ticks is counted in billionths of one. -/
structure Engine where
  settings : Settings
  base : Int
  ref : MachineRef
  debugger : Debugger
  paused : Bool
  cycleCarry : Int
  tickCarry : Int
  toneOn : Bool
  listener : Bool
  lastError : Option Fault
  /-- The frame published last, as long as nobody has taken it. -/
  pending : Option Frame
  /-- The frame taken last. -/
  latest : Frame
  background : Background
  notes : List Note
  tones : List Bool

namespace Engine

/-- The number of snapshots that the debugger of an engine keeps. -/
def historyLimit : Nat := 1000

def machine (e : Engine) : Machine :=
  e.ref.get e.debugger

def state (e : Engine) : State :=
  e.machine.state

def frameOf (m : Machine) (paused : Bool) : Frame where
  screen := m.state.screen
  delay := m.state.delay
  sound := m.state.sound
  cycles := m.state.cycles
  pc := m.state.pc
  halted := m.halted
  awaiting := m.state.awaiting.isSome
  paused := paused

def frame (e : Engine) : Frame :=
  frameOf e.machine e.paused

def create (settings : Settings) (m : Machine) (listener : Bool) : Engine where
  settings := settings
  base := settings.base
  ref := .shared
  debugger := Debugger.create m historyLimit
  paused := false
  cycleCarry := 0
  tickCarry := 0
  toneOn := false
  listener := listener
  lastError := none
  pending := none
  latest := frameOf m false
  background := .none
  notes := []
  tones := []

def running (e : Engine) : Bool :=
  e.background == .running

/-- Whether nothing is due: the machine is halted, or the engine pauses. -/
def idle (e : Engine) : Bool :=
  e.machine.halted || e.paused

def tell (e : Engine) (notes : List Note) : Engine :=
  { e with notes := e.notes ++ notes }

def report (e : Engine) (tones : List Bool) : Engine :=
  if e.listener then { e with tones := e.tones ++ tones } else e

def clearEvents (e : Engine) : Engine :=
  { e with notes := [], tones := [] }

def mapMachine (e : Engine) (f : Machine → Machine) : Engine :=
  { e with ref := e.ref.map f, debugger := e.debugger.mapTarget (e.ref.mapTarget f) }

theorem machine_mapMachine (e : Engine) (f : Machine → Machine) :
    (e.mapMachine f).machine = f e.machine := by
  unfold machine mapMachine
  cases e.ref with
  | shared => rfl
  | apart m => rfl

/-- Only what becomes of the machine counts. -/
theorem mapMachine_congr {e : Engine} {f g : Machine → Machine} (h : f e.machine = g e.machine) :
    e.mapMachine f = e.mapMachine g := by
  unfold machine at h
  unfold mapMachine
  cases href : e.ref with
  | shared =>
    rw [href] at h
    exact congrArg
      (fun m => { e with ref := .shared, debugger := { e.debugger with target := m } }) h
  | apart m =>
    rw [href] at h
    exact congrArg (fun m => { e with ref := .apart m }) h

theorem mapMachine_mapMachine (e : Engine) (f g : Machine → Machine) :
    (e.mapMachine f).mapMachine g = e.mapMachine fun m => g (f m) := by
  unfold mapMachine
  cases e.ref with
  | shared => rfl
  | apart m => rfl

theorem mapMachine_id (e : Engine) : e.mapMachine (fun m => m) = e := by
  have href : e.ref.map (fun m => m) = e.ref := by
    cases e.ref with
    | shared => rfl
    | apart m => rfl
  have htarget : e.debugger.mapTarget (e.ref.mapTarget fun m => m) = e.debugger := by
    cases e.ref with
    | shared => rfl
    | apart m => rfl
  unfold mapMachine
  rw [href, htarget]

def mapDebugger (e : Engine) (f : Debugger → Debugger) : Engine :=
  { e with debugger := f e.debugger }

theorem machine_mapDebugger (e : Engine) {f : Debugger → Debugger}
    (hf : (f e.debugger).target = e.debugger.target) : (e.mapDebugger f).machine = e.machine := by
  unfold machine mapDebugger
  cases e.ref with
  | shared => exact hf
  | apart m => rfl

def publish (e : Engine) : Engine :=
  { e with pending := some e.frame }

def recordFault (e : Engine) (f : Fault) : Engine :=
  ({ e with lastError := some f }).tell [.machineHalted f, .emulationStopped f]

/-! ## Running -/

/-- Takes care of an instruction that failed: a fault is recorded, everything else is passed on. -/
def handle (e : Engine) : CycleError → Except RunError Unit × Engine
  | .fault f => (.ok (), e.recordFault f)
  | .mishap m => (.error (.mishap m), e)
  | .halted cause => (.error (.halted cause), e)

theorem handle_leaves (e : Engine) (err : CycleError) :
    ∃ lastError notes, (e.handle err).2 = { e with lastError := lastError, notes := notes } := by
  cases err with
  | fault f => exact ⟨_, _, rfl⟩
  | mishap m => exact ⟨_, _, rfl⟩
  | halted cause => exact ⟨_, _, rfl⟩

/-- Executes up to `n` instructions. Only if some breakpoint is enabled they go through
the debugger. -/
def runCycles (e : Engine) (n : Nat) : Except RunError Unit × Engine :=
  if e.debugger.active then
    match e.debugger.run n with
    | (.failed err, d) => { e with debugger := d }.handle err
    | (result, d) =>
      (.ok (), { e with debugger := d, paused := e.paused || result.atBreakpoint }.tell
        result.notes)
  else
    match e.machine.run n with
    | (.error err, m) => (e.mapMachine fun _ => m).handle err
    | (.ok _, m) => (.ok (), e.mapMachine fun _ => m)

/-- One timer tick. The tone is on during a tick if the sound timer was above zero before it. -/
def tick (e : Engine) : Engine :=
  let on := e.machine.sounding
  let ticked := e.mapMachine Machine.tick
  if on == e.toneOn then ticked else { ticked with toneOn := on }.report [on]

theorem machine_report (e : Engine) (tones : List Bool) : (e.report tones).machine = e.machine := by
  unfold report
  split
  · rfl
  · rfl

theorem machine_tick (e : Engine) : e.tick.machine = e.machine.tick := by
  unfold tick
  dsimp only
  split
  · exact e.machine_mapMachine Machine.tick
  · rw [machine_report]
    exact e.machine_mapMachine Machine.tick

/-- The change of the tone that a tick reports, if there is one. -/
def reported (e : Engine) : List Bool :=
  if e.listener && e.machine.sounding != e.toneOn then [e.machine.sounding] else []

/-- A tick counts the timers down, and behind it the tone is what the sound timer said before it. -/
theorem tick_eq (e : Engine) :
    e.tick =
      { e.mapMachine Machine.tick with
        toneOn := e.machine.sounding
        tones := e.tones ++ e.reported } := by
  unfold tick report reported
  dsimp only
  split
  next hsame =>
    -- The tone does not change, so that there is nothing to turn and nothing to report.
    rw [bne, hsame, Bool.not_true, Bool.and_false, if_neg Bool.false_ne_true, List.append_nil,
      eq_of_beq hsame]
    rfl
  next hturns =>
    have hlistener : (e.mapMachine Machine.tick).listener = e.listener := rfl
    rw [bne, Bool.eq_false_iff.mpr hturns, Bool.not_false, Bool.and_true, hlistener]
    split
    · rfl
    · rw [List.append_nil]
      rfl

def ticks (e : Engine) : Nat → Engine
  | 0 => e
  | n + 1 => ticks e.tick n

/-- Executes the instructions due after a span of time, and then the ticks. -/
def pass (e : Engine) (elapsed : Nat) : Except RunError Unit × Engine :=
  let (cycles, cycleCarry) := due e.settings.clockHz e.cycleCarry elapsed
  let (beats, tickCarry) := due e.settings.timerHz e.tickCarry elapsed
  match { e with cycleCarry := cycleCarry, tickCarry := tickCarry }.runCycles cycles.toNat with
  | (.error err, e) => (.error err, e)
  -- Ticks that were due behind a halt or a breakpoint are not made up for later.
  | (.ok (), e) => (.ok (), if e.idle then e else e.ticks beats.toNat)

/-- Lets a span of time pass and publishes a frame. -/
def advance (e : Engine) (elapsed : Elapsed) : Except AdvanceError Frame × Engine :=
  if e.idle then (.ok e.frame, e.publish)
  else
    match elapsed.get with
    | .error err => (.error (.elapsed err), e)
    | .ok n =>
      match e.pass n with
      | (.error err, e) => (.error (.run err), e)
      | (.ok (), e) => (.ok e.frame, e.publish)

/-- An idle engine only publishes a frame. -/
theorem advance_of_idle {e : Engine} (hidle : e.idle = true) (elapsed : Elapsed) :
    e.advance elapsed = (.ok e.frame, e.publish) :=
  if_pos hidle

/-- A span of time that cannot be used changes nothing. -/
theorem advance_of_not_finite {e : Engine} {elapsed : Elapsed} {err : ElapsedError}
    (hidle : e.idle = false) (helapsed : elapsed.get = .error err) :
    e.advance elapsed = (.error (.elapsed err), e) := by
  unfold advance
  rw [hidle, if_neg Bool.false_ne_true, helapsed]

/-- Executes a single instruction, also at a breakpoint, and publishes a frame. -/
def step (e : Engine) : Except RunError Frame × Engine :=
  let e := { e with paused := false }
  if e.machine.halted then (.ok e.frame, e.publish)
  else
    let (result, e) := match e.debugger.step with
      | (.error err, d) => { e with debugger := d }.handle err
      | (.ok _, d) => (.ok (), { e with debugger := d })
    match result with
    | .error err => (.error err, e)
    | .ok () => (.ok e.frame, e.publish)

/-- A halted machine is not stepped. -/
theorem step_of_halted {e : Engine} (h : e.machine.halted = true) :
    e.step = (.ok { e with paused := false }.frame, { e with paused := false }.publish) :=
  if_pos h

/-- Starts the background run. A pause ends, and a breakpoint at the counter is passed over once. At
a clock rate without a period the run ends as soon as it has begun. -/
def start (e : Engine) : Engine :=
  if e.running then e
  else
    { e with
      paused := false
      debugger := e.debugger.resume
      background := if hasPeriod e.settings.clockHz then .running else .ended }.tell [.started]

/-- Starting changes neither the machine nor the fault that is kept. -/
theorem machine_start (e : Engine) : e.start.machine = e.machine := by
  unfold start
  split
  · rfl
  · exact e.machine_mapDebugger (f := Debugger.resume) rfl

theorem lastError_start (e : Engine) : e.start.lastError = e.lastError := by
  unfold start
  split
  · rfl
  · rfl

/-- Stops the background run, if there is one that has not been stopped. -/
def stop (e : Engine) : Engine :=
  if e.background == .none then e else { e with background := .none }.tell [.stopped]

/-- Stopping reaches the background run and the log. -/
theorem stop_eq (e : Engine) :
    ∃ notes, e.stop = { e with background := .none, notes := notes } := by
  unfold stop
  split
  next h =>
    have hnone : e.background = .none := beq_iff_eq.mp h
    refine ⟨e.notes, ?_⟩
    rw [← hnone]
  next => exact ⟨_, rfl⟩

/-- The background run from a clock reading on: each further reading lets the time between pass,
until the machine halts or the engine pauses. When there are no more readings it is stopped, with
one last look at the clock. Gives the number of readings left. -/
def follow (e : Engine) (last : Float) : List Float → Nat × Engine
  | [] => (0, (e.stop.advance (Elapsed.ofSeconds (last - last))).2)
  | now :: rest =>
    match e.advance (Elapsed.ofSeconds (now - last)) with
    | (.error _, e) => (rest.length, { e with background := .ended })
    | (.ok frame, e) =>
      if frame.halted || frame.paused then (rest.length, { e with background := .ended })
      else follow e now rest

/-- Starts the background run and lets it go on along a list of clock readings. -/
def runAlong (e : Engine) (clock : List Float) : Nat × Engine :=
  if e.start.running then
    match clock with
    | [] => (0, e.start.stop)
    | first :: rest => follow e.start first rest
  else (clock.length, e.start)

/-! ## Loading and resetting -/

/-- Refers to a machine that has been loaded; without one, the present machine is reset. -/
def install (e : Engine) : Option Machine → Engine
  | some m => { e with ref := .apart m }
  | none => e.mapMachine Machine.reset

/-- Has the debugger turn to the machine of the engine, since it would go on with the machine of
before otherwise. From here on both refer to the same one. -/
def attachDebugger (e : Engine) : Engine :=
  { e with ref := .shared, debugger := e.debugger.attach e.machine }

/-- Puts a machine that has been loaded in the place of the present one, or resets that: the
background run is stopped meanwhile, and all that belongs to the present run is given up. -/
def replace (e : Engine) (loaded : Option Machine) : Engine :=
  let wasRunning := e.running
  let hadTone := e.toneOn
  let e := (e.stop.install loaded).attachDebugger
  let e :=
    { e with
      cycleCarry := 0
      tickCarry := 0
      toneOn := false
      lastError := none
      paused := false }
  let e := e.publish
  let e := if hadTone then e.report [false] else e
  if wasRunning then e.start else e

/-- Takes over a machine that has been loaded; if loading failed, nothing changes. -/
def takeLoaded (e : Engine) (loaded : List Note × Except LoadingError Machine) :
    Except LoadingError Unit × Engine :=
  let e := e.tell loaded.1
  match loaded.2 with
  | .error err => (.error err, e)
  | .ok m => (.ok (), e.replace (some m))

def load (e : Engine) (program : List UInt8) : Except LoadingError Unit × Engine :=
  e.takeLoaded (Loading.fromBytes program e.base e.machine.dice)

def loadFile (e : Engine) (files : Files) (path : Text) : Except LoadingError Unit × Engine :=
  e.takeLoaded (Loading.fromFile files path e.base e.machine.dice)

def reset (e : Engine) : Engine :=
  (e.replace none).tell [.resetCompleted]

/-! ## Input and display -/

def press (e : Engine) (code : Int) : Except SlotError Unit × Engine :=
  let (result, m) := e.machine.press code
  (result, e.mapMachine fun _ => m)

def release (e : Engine) (code : Int) : Engine :=
  e.mapMachine (·.release code)

theorem machine_press (e : Engine) (code : Int) :
    (e.press code).2.machine = (e.machine.press code).2 :=
  e.machine_mapMachine _

theorem machine_release (e : Engine) (code : Int) :
    (e.release code).machine = e.machine.release code :=
  e.machine_mapMachine _

/-- The frame to be shown: the one published last, or again the one taken last. -/
def takeFrame (e : Engine) : Frame × Engine :=
  let latest := e.pending.getD e.latest
  (latest, { e with latest := latest, pending := none })

/-- What an inspector shows, with a number of lines of code from the counter on. -/
def inspect (e : Engine) (lines : Int) : Except MemoryError Inspection :=
  (Listing.ofRange e.state.memory e.state.pc (lines * 2)).map fun code =>
    { registers := e.state.registers
      calls := e.state.calls
      lines := code
      keys := e.state.heldKeys }

end Engine

end Chip8
