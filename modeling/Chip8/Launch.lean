import Chip8.CommandLine
import Chip8.Settings.File
import Chip8.Window

/-!
# Launching

Launching follows the command line: settings are read, the window opens with the built-in program, a
program is loaded if one is given, and the engine starts. `Launch.run` says what comes of it.
-/

namespace Chip8

/-- What comes of a launch. -/
inductive Launch where
  | help
  | misuse
  | badSettings (path : Text) (e : SettingsFileError)
  /-- The settings file leads to an error that is not explained. -/
  | aborted (e : SettingsFileError)
  | failed (e : WindowError)
  | opened (w : Window)

namespace Launch

def logLimit : Nat := 500

/-- The settings that the command line chooses, with what the log tells about them. An empty path
chooses none. -/
def settings [NestingLimits] (files : Files) (path : Option Text) :
    Except (Text × SettingsFileError) (List Note × Settings) :=
  match path.filter (!·.isEmpty) with
  | none => .ok ([], Settings.standard)
  | some path =>
    match Settings.ofFile files path with
    | .ok s => .ok ([.settingsLoaded path], s)
    | .error e => .error (path, e)

/-- Opens the window. The program of the command line is loaded over the built-in one, which stays
if that fails. -/
def openWindow (files : Files) (dice : Dice) (program : Option Text) (told : List Note)
    (settings : Settings) : Launch :=
  match Loading.fromBytes Program.demo settings.base dice with
  | (_, .error e) => .failed (.loading e)
  | (more, .ok m) =>
    let log := (told ++ more).foldl (fun log n => log.push n.render) (Ring.empty logLimit)
    let opened := do
      let w ← Window.create settings m log
      let (result, w) := w.openFile files (program.getD [])
      result.map fun _ => w
    match opened with
    | .error e => .failed e
    | .ok w => .opened (w.takeEngine w.engine.start)

def run [NestingLimits] (files : Files) (dice : Dice) (arguments : List Text) : Launch :=
  match CommandLine.read arguments with
  | .help => .help
  | .misuse => .misuse
  | .run options =>
    match settings files options.settings with
    | .error (path, e) => if e.isExplained then .badSettings path e else .aborted e
    | .ok (told, settings) => openWindow files dice options.program told settings

/-- What is said when a launch ends without a window. -/
def complaint [NestingLimits] : Launch → Option Text
  | .badSettings path e => some ("Failed to load config " ++ path ++ ": " ++ e.message)
  | .aborted e => some e.message
  | .failed e => some e.message
  | _ => none

def exitCode : Launch → Nat
  | .help => 0
  | .misuse => 2
  | .badSettings _ _ => 1
  | .aborted _ => 1
  | .failed _ => 1
  | .opened _ => 0

end Launch

end Chip8
