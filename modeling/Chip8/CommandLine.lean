import Chip8.Text
import Chip8.Text.Digit

/-!
# The command line

The program takes a file with a program to load, and with `--config` a settings file; `-h` or
`--help` asks for help. A long option may be shortened as long as it is clear, and takes its value
behind an equals sign or as the next argument. Behind `--` nothing is an option.
`CommandLine.read` says what is asked for; arguments beyond that are a misuse, unless help is
asked for before they matter.
-/

namespace Chip8

/-- What the command line can choose. -/
structure Options where
  program : Option Text
  settings : Option Text
  deriving DecidableEq

/-- What the command line asks for. -/
inductive Request where
  | run (options : Options)
  | help
  | misuse
  deriving DecidableEq

namespace CommandLine

def usage : String :=
  "usage: chip8 [-h] [--config FILE] [rom]"

/-- An argument by itself. -/
inductive Argument where
  | word (text : Text)
  /-- The two dashes behind which nothing is an option. -/
  | dashes
  /-- The option that asks for help; it does not if something is attached that it cannot take. -/
  | help (asked : Bool)
  /-- The option for a settings file, with the value that is attached. -/
  | settings (attached : Option Text)
  /-- An option that there is not. -/
  | unknown
  | unclear
  deriving DecidableEq

def helpWord : Text := "--help"

def settingsWord : Text := "--config"

/-- Whether a text is a negative number, which is no option. A line feed at its end does
not count. -/
def isNegative (t : Text) : Bool :=
  match if t.getLast? == some (.char '\n') then t.dropLast else t with
  | .char '-' :: rest =>
    let isDigit := fun (p : CodePoint) => (p.char?.bind Text.decimalValue).isSome
    let places := (rest.dropWhile isDigit).drop 1
    (!rest.isEmpty && rest.all isDigit) ||
      ((rest.dropWhile isDigit).head? == some (.char '.') && !places.isEmpty && places.all isDigit)
  | _ => false

/-- What stands in front of the first equals sign, and what stands behind it if there is one. -/
def splitValue (t : Text) : Text × Option Text :=
  let (name, rest) := t.span (· != .char '=')
  (name, rest.tail?)

/-- An argument that begins with a dash but is no option. -/
def stray (t : Text) : Argument :=
  if isNegative t || t.contains (.char ' ') then .word t else .unknown

def ofLong (t : Text) : Argument :=
  let (name, attached) := splitValue t
  match name.isPrefixOf helpWord, name.isPrefixOf settingsWord with
  | true, true => .unclear
  | true, false => .help attached.isNone
  | false, true => .settings attached
  | false, false => stray t

/-- Whether `-h` with letters attached asks for help: each letter is an option of its own, so they
must all be the same. An equals sign may stand before them. -/
def asksHelp : Text → Bool
  | .char '=' :: letters => !letters.isEmpty && letters.all (· == .char 'h')
  | letters => letters.all (· == .char 'h')

/-- The value that is attached to an option. Two dashes count as nothing, as they do elsewhere. -/
def attachedValue (t : Text) : Text :=
  if t == "--" then [] else t

def Argument.ofText : Text → Argument
  | [.char '-', .char '-'] => .dashes
  | .char '-' :: .char '-' :: rest => ofLong (.char '-' :: .char '-' :: rest)
  | .char '-' :: .char 'h' :: rest => .help (asksHelp rest)
  | .char '-' :: p :: rest => stray (.char '-' :: p :: rest)
  | t => .word t

def arguments : List Text → List Argument
  | [] => []
  | text :: rest =>
    match Argument.ofText text with
    | .dashes => .dashes :: rest.map .word
    | a => a :: arguments rest

/-- Drops the two dashes, if they come next. -/
def dropDashes : List Argument → List Argument
  | .dashes :: rest => rest
  | args => args

/-- What has been found so far: the program file, once arguments for it have come, the settings
file, and whether there was an argument too many. -/
structure Found where
  program : Option (Option Text)
  settings : Option Text
  excess : Bool

def follow (found : Found) : List Argument → Nat → Request
  | _, 0 => .misuse
  | [], _ => if found.excess then .misuse else .run ⟨found.program.join, found.settings⟩
  | .help asked :: _, _ => if asked then .help else .misuse
  | .settings (some value) :: rest, n + 1 =>
    follow { found with settings := some (attachedValue value) } rest n
  | .settings none :: rest, n + 1 =>
    match rest with
    | .word value :: rest => follow { found with settings := some value } rest n
    | _ => .misuse
  | .unknown :: rest, n + 1 => follow { found with excess := true } rest n
  | .unclear :: _, _ => .misuse
  | .word text :: rest, n + 1 =>
    if found.program.isSome then follow { found with excess := true } rest n
    else follow { found with program := some (some text) } (dropDashes rest) n
  | .dashes :: rest, n + 1 =>
    if found.program.isSome then follow { found with excess := true } rest n
    else
      match rest with
      | .word text :: rest => follow { found with program := some (some text) } rest n
      | rest => follow { found with program := some none } rest n

def read (texts : List Text) : Request :=
  let args := arguments texts
  if args.contains .unclear then .misuse else follow ⟨none, none, false⟩ args (args.length + 1)

end CommandLine

end Chip8
