import Chip8.Machine
import Chip8.Value

/-!
# Notes

A `Note` is something that happened and that the log tells about. Each has a level and a text;
`render` puts the level in brackets in front of the text.
-/

namespace Chip8

/-- How serious a note is. -/
inductive NoteLevel where
  | info
  | error
  deriving DecidableEq

/-- The number of a level: the higher the more serious. -/
def NoteLevel.number : NoteLevel → Int
  | .info => 20
  | .error => 40

/-- The name of a level that is given by its number. -/
def levelName (number : Int) : String :=
  if number == 0 then "NOTSET"
  else if number == 10 then "DEBUG"
  else if number == 20 then "INFO"
  else if number == 30 then "WARNING"
  else if number == 40 then "ERROR"
  else if number == 50 then "CRITICAL"
  else "Level " ++ Numeral.decimal number

/-- Something that the log tells about. -/
inductive Note where
  | settingsLoaded (path : Text)
  | programLoaded (size base : Nat)
  | romLoading (path : Text)
  | romLoaded (size : Nat)
  | romFailed (path : Text) (reason : String)
  | machineHalted (f : Fault)
  | emulationStopped (f : Fault)
  | breakpointBefore (pc : Int)
  | breakpointAfter (symbol : String)
  | started
  | stopped
  | resetCompleted
  deriving DecidableEq

namespace Note

def level : Note → NoteLevel
  | .romFailed _ _ => .error
  | .machineHalted _ => .error
  | .emulationStopped _ => .error
  | _ => .info

def text : Note → Text
  | .settingsLoaded path => "Loaded config (PATH: " ++ path ++ ")"
  | .programLoaded size base =>
    "Loaded program (" ++ Numeral.decimal size ++ " bytes) at " ++ Numeral.markedHex 5 base
  | .romLoading path => "Loading ROM ... (PATH: " ++ path ++ ")"
  | .romLoaded size => "Loading ROM completed (" ++ Numeral.decimal size ++ " bytes)."
  | .romFailed path reason => "Failed to load ROM " ++ path ++ ": " ++ reason
  | .machineHalted f => "VM halted: " ++ f.message
  | .emulationStopped f => "Emulation stopped: " ++ f.message
  | .breakpointBefore pc => "Breakpoint hit at PC: " ++ Numeral.markedHex 5 pc
  | .breakpointAfter symbol => "Breakpoint hit after " ++ symbol
  | .started => "VM started."
  | .stopped => "VM stopped."
  | .resetCompleted => "Reset VM completed."

/-- What is told of a machine that has been halted since it was another one. -/
def ofHalt (before after : Machine) : List Note :=
  match before.halt, after.halt with
  | none, some f => [.machineHalted f]
  | _, _ => []

def render (n : Note) : Text :=
  "[" ++ levelName n.level.number ++ "] " ++ n.text

end Note

end Chip8
