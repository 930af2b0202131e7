import Chip8.Launch

/-!
# The program

Reads the files that the command line names, launches, and shows the log and the status line of the
window. Nothing is decided here.
-/

namespace Chip8

/-- Reads a file, or finds out why it cannot be read. -/
def readPath (path : String) : IO (Except FileError (List UInt8)) := do
  if path.toList.contains '\x00' then return .error .nullCharacter
  try
    return .ok (← IO.FS.readBinFile path).toList
  catch
    | .noFileOrDirectory _ _ _ => return .error (.missing path)
    | .inappropriateType _ _ _ => return .error (.directory path)
    | _ => return .error (.notDirectory path)

def readPaths (paths : List Text) : IO Files := do
  let contents ← (paths.filterMap Text.toString?).mapM fun path => do
    return (Text.ofString path, ← readPath path)
  return fun path => (contents.lookup path).getD (.error (.missing path))

def namedPaths (arguments : List Text) : List Text :=
  match CommandLine.read arguments with
  | .run options => options.settings.toList ++ options.program.toList
  | _ => []

/-- A text as it is shown, with a sign of its own for everything that is no character. -/
def shown (t : Text) : String :=
  String.ofList (t.map fun p => p.char?.getD (Char.ofNat 0xfffd))

/-- The bytes that the dice of a run show over and over. -/
def rollDice : IO Dice := do
  let bytes ← (List.range 4096).mapM fun _ => do return UInt8.ofNat (← IO.rand 0 255)
  return Dice.cycle bytes

def showLaunch [NestingLimits] (launch : Launch) : IO Unit := do
  match launch with
  | .opened w =>
    let w := w.close
    w.log.items.forM fun line => IO.println (shown line)
    w.dialogs.forM fun d => IO.eprintln (shown d.text)
    IO.println (shown w.status.text)
  | .help => IO.println CommandLine.usage
  | .misuse => IO.eprintln CommandLine.usage
  | launch => launch.complaint.toList.forM fun t => IO.eprintln (shown t)

end Chip8

/-- Launches with the arguments of the command line. -/
def main (arguments : List String) : IO UInt32 := do
  let _ : Chip8.NestingLimits := .usual
  let arguments := arguments.map Chip8.Text.ofString
  let files ← Chip8.readPaths (Chip8.namedPaths arguments)
  let launch := Chip8.Launch.run files (← Chip8.rollDice) arguments
  Chip8.showLaunch launch
  return launch.exitCode.toUInt32
