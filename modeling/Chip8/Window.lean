import Chip8.Engine
import Chip8.Pane.Breakpoints
import Chip8.Pane.Code
import Chip8.Pane.Display
import Chip8.Pane.Keypad
import Chip8.Pane.Registers
import Chip8.Pane.Stack
import Chip8.Text.Upper

/-!
# The window

The `Window` shows an engine in panes and passes on what the user does. The panes show what they
were told at the latest `refresh`. The status line shows what happened last; a refresh puts a halt,
a breakpoint or a key wait of the frame shown into it. Changes of the breakpoint pane are followed
by the debugger of the engine.
-/

namespace Chip8

/-- What the status line says. -/
inductive Status where
  | greeting
  | running
  | stopped
  | reset
  | loaded (path : Text)
  | halted (cause : Option Fault)
  | atBreakpoint (pc : Int)
  | awaitingKey
  deriving DecidableEq

def Status.text : Status → Text
  | .greeting => "Please drag and drop CHIP-8's ROM (Binary data ONLY)"
  | .running => "Running."
  | .stopped => "Stopped."
  | .reset => "Reset."
  | .loaded path => "Loaded " ++ path
  | .halted (some f) => "Halted: " ++ f.message
  | .halted none => "Halted: None"
  | .atBreakpoint pc => "Breakpoint hit (PC: #" ++ Numeral.upperHex 3 pc ++ ")"
  | .awaitingKey => "Waiting for key..."

/-- A control of the tool bar. -/
inductive Control where
  | start
  | stop
  | step
  | reset
  deriving DecidableEq

namespace Control

/-- All controls in their order. -/
def all : List Control :=
  [.start, .stop, .step, .reset]

def label : Control → String
  | .start => "Start"
  | .stop => "Stop"
  | .step => "Step"
  | .reset => "Reset"

/-- Whether a control can be used, depending on whether the engine is taken to be running. -/
def enabled (running : Bool) : Control → Bool
  | .start => !running
  | .stop => running
  | .step => !running
  | .reset => true

end Control

/-- Whether a host key goes down or up. -/
inductive KeyMotion where
  | press
  | release
  deriving DecidableEq

/-- What happens to a host key. -/
structure KeyEvent where
  motion : KeyMotion
  text : Text
  /-- Whether the key is only held on. -/
  repeated : Bool
  deriving DecidableEq

/-- Something that is dropped on the window. -/
structure Dropped where
  isLocal : Bool
  path : Text
  deriving DecidableEq

/-- Why a window cannot go on with what it has been asked for. -/
inductive WindowError where
  /-- The machine has been set up from outside so that it came to grief or cannot be shown. -/
  | mishap (m : Mishap)
  | run (e : RunError)
  | loading (e : LoadingError)
  | noRedrawRate
  deriving DecidableEq

def WindowError.message : WindowError → String
  | .mishap m => m.message
  | .run e => e.message
  | .loading e => e.message
  | .noRedrawRate => "integer division or modulo by zero"

/-- An engine with everything that is shown of it. -/
structure Window where
  settings : Settings
  engine : Engine
  display : DisplayPane
  registers : RegisterPane
  calls : List Int
  code : List Line
  keypad : KeypadPane
  breakpoints : BreakpointPane
  log : Ring Text
  shownLog : List Text
  status : Status
  controlsRunning : Bool
  tone : Bool
  lastRedraw : Option Float
  beeps : Nat
  dialogs : List Dialog
  unhandled : List KeyEvent

namespace Window

def codeLines : Int := 16

def soundText (w : Window) : String :=
  if w.tone then "♪" else ""

def logText (w : Window) : Text :=
  List.intercalate (Text.ofString "\n") w.shownLog

def enabledControls (w : Window) : List Control :=
  Control.all.filter (Control.enabled w.controlsRunning)

def redrawInterval (w : Window) : Int :=
  max 1 (Int.fdiv 1000 w.settings.videoHz)

def note (w : Window) (n : Note) : Window :=
  { w with log := w.log.push n.render }

/-- Takes an engine over after it has worked: what it told goes into the log, and the changes of the
tone that it reported reach the sound label, with a beep whenever the tone goes on. -/
def takeEngine (w : Window) (e : Engine) : Window :=
  { e.notes.foldl note w with
    engine := e.clearEvents
    tone := e.tones.getLast?.getD w.tone
    beeps := w.beeps + (e.tones.filter id).length }

/-- Forgets what has been put in front of the user. -/
def clearEvents (w : Window) : Window :=
  { w with beeps := 0, dialogs := [], unhandled := [] }

/-! ## Showing -/

def statusOf (frame : Frame) (cause : Option Fault) (before : Status) : Status :=
  if frame.halted then .halted cause
  else if frame.paused then .atBreakpoint frame.pc
  else if frame.awaiting then .awaitingKey
  else before

def inspected (w : Window) (i : Inspection) : Window :=
  { w with
    registers := (w.registers.update i.registers).2
    calls := i.calls
    code := i.lines
    keypad := w.keypad.setKeys w.engine.state.keys
    shownLog := w.log.items }

def refresh (w : Window) : Except WindowError Unit × Window :=
  let fresh := w.engine.pending.isSome
  let (frame, e) := w.engine.takeFrame
  let w := { w with engine := e, display := w.display.offer fresh frame.screen }
  match e.inspect codeLines with
  | .error err => (.error (.mishap (.memory err)), w)
  | .ok i =>
    (.ok (), { w.inspected i with
      status := statusOf frame e.lastError w.status
      controlsRunning := e.running })

/-- The window of a machine, before it is shown for the first time. -/
def prepare (settings : Settings) (m : Machine) (log : Ring Text) : Window :=
  let e := Engine.create settings m true
  { settings := settings
    engine := e
    display :=
      (DisplayPane.create settings.scale settings.foreground settings.background).offer true
      e.frame.screen
    registers := RegisterPane.ofLayout registerLayout
    calls := []
    code := []
    keypad := KeypadPane.create settings.keymap
    breakpoints := BreakpointPane.empty
    log := log
    shownLog := []
    status := .greeting
    controlsRunning := false
    tone := false
    lastRedraw := none
    beeps := 0
    dialogs := []
    unhandled := [] }

/-- Opens the window of a machine. The log may have lines already. -/
def create (settings : Settings) (m : Machine) (log : Ring Text) : Except WindowError Window :=
  if settings.videoHz == 0 then .error .noRedrawRate
  else
    let (result, w) := (prepare settings m log).refresh
    result.map fun _ => w

/-- A redraw at a reading of the clock, in seconds. -/
def redraw (w : Window) (now : Float) : Except WindowError Unit × Window :=
  let keypad := match w.lastRedraw with
    | none => w.keypad
    | some last => w.keypad.record ((now - last) * 1000.0)
  { w with keypad := keypad, lastRedraw := some now }.refresh

/-! ## Controls -/

def start (w : Window) : Window :=
  { w.takeEngine w.engine.start with status := .running, controlsRunning := true }

def stop (w : Window) : Window :=
  { w.takeEngine w.engine.stop with status := .stopped, controlsRunning := false }

def step (w : Window) : Except WindowError Unit × Window :=
  let (result, e) := w.engine.step
  match result with
  | .error err => (.error (.run err), w.takeEngine e)
  | .ok _ => (w.takeEngine e).refresh

def reset (w : Window) : Except WindowError Unit × Window :=
  { w.takeEngine w.engine.reset with status := .reset }.refresh

def close (w : Window) : Window :=
  w.takeEngine w.engine.stop

def advance (w : Window) (elapsed : Elapsed) : Except AdvanceError Frame × Window :=
  let (result, e) := w.engine.advance elapsed
  (result, w.takeEngine e)

/-! ## Loading -/

/-- The dialog about a program that was not loaded. -/
def loadingFailed (err : LoadingError) : Dialog :=
  ⟨.critical, "Error", "Failed to load ROM: " ++ err.message⟩

/-- Loads a program from a file and tells whether that worked. If not, the present one goes on. -/
def load (w : Window) (files : Files) (path : Text) : Except WindowError Bool × Window :=
  let (result, e) := w.engine.loadFile files path
  let w := w.takeEngine e
  match result with
  | .error err =>
    if err.isAboutChoice then
      let w := w.note (.romFailed path err.message)
      (.ok false, { w with dialogs := w.dialogs ++ [loadingFailed err] })
    else (.error (.loading err), w)
  | .ok () =>
    let (shown, w) := { w with status := .loaded path }.refresh
    (shown.map fun _ => true, w)

/-- Loads a program from the file that was chosen; nothing was chosen if the path is empty. -/
def openFile (w : Window) (files : Files) (path : Text) : Except WindowError Bool × Window :=
  if path.isEmpty then (.ok false, w) else w.load files path

/-- Whether something dragged over the window may be dropped. -/
def accepts (dragged : List Dropped) : Bool :=
  !dragged.isEmpty

/-- Takes what is dropped: the first program that lies on this computer is loaded and started. Tells
whether there was one. -/
def drop (w : Window) (files : Files) (dropped : List Dropped) : Except WindowError Bool × Window :=
  match dropped.find? (·.isLocal) with
  | none => (.ok false, w)
  | some d =>
    match w.load files d.path with
    | (.ok true, w) => (.ok true, w.start)
    | (.ok false, w) => (.ok true, w)
    | (.error err, w) => (.error err, w)

/-! ## Keys -/

/-- The code of the key that a host key event is about. -/
def keyCode? (w : Window) (event : KeyEvent) : Option Int :=
  if event.repeated then none else w.settings.keymap.code? (Text.upper event.text)

/-- Passes the event of a bound host key to the machine; repetitions and other keys are of
no use. -/
def key (w : Window) (event : KeyEvent) : Except WindowError Unit × Window :=
  match w.keyCode? event with
  | none => (.ok (), { w with unhandled := w.unhandled ++ [event] })
  | some code =>
    match event.motion with
    | .press =>
      let (result, e) := w.engine.press code
      (result.mapError (.mishap ∘ .slot), w.takeEngine e)
    | .release => (.ok (), w.takeEngine (w.engine.release code))

/-! ## Breakpoints -/

/-- Takes a change of the breakpoint pane over, which the debugger follows. -/
def takeBreakpoints (w : Window) (dialogs : List Dialog) (edits : List BreakpointEdit)
    (pane : BreakpointPane) : Window :=
  { w with
    breakpoints := pane
    dialogs := w.dialogs ++ dialogs
    engine := w.engine.mapDebugger fun d => edits.foldl Debugger.follow d }

/-- Adds a breakpoint that is typed in. Gives the breakpoint added. -/
def addBreakpoint (w : Window) (kind : BreakpointKind) (typed : Text) :
    Except EntryError (Option Breakpoint) × Window :=
  let (result, edits, pane) := w.breakpoints.add kind typed
  (result, w.takeBreakpoints [] edits pane)

/-- Adds what stands in the entry field after typing. -/
def submitBreakpoint (w : Window) (kind : BreakpointKind) (typed : Text) : Window :=
  let (dialogs, edits, pane) := w.breakpoints.submit kind typed
  w.takeBreakpoints dialogs edits pane

/-- Takes a change of a row over, if there is the row. -/
def takeRow (w : Window) (edited : Except RowError (List BreakpointEdit × BreakpointPane)) :
    Except RowError Unit × Window :=
  match edited with
  | .ok (edits, pane) => (.ok (), w.takeBreakpoints [] edits pane)
  | .error e => (.error e, w)

def toggleBreakpoint (w : Window) (row : Int) : Except RowError Unit × Window :=
  w.takeRow (w.breakpoints.atRow row w.breakpoints.toggle)

def removeBreakpoint (w : Window) (row : Int) : Except RowError Unit × Window :=
  w.takeRow (w.breakpoints.atRow row w.breakpoints.remove)

def selectBreakpoints (w : Window) (rows : List Nat) : Window :=
  w.takeBreakpoints [] [] (w.breakpoints.select rows)

def removeSelectedBreakpoints (w : Window) : Window :=
  let (edits, pane) := w.breakpoints.removeSelected
  w.takeBreakpoints [] edits pane

end Window

end Chip8
