import Chip8.Data
import Chip8.Numeral.Reader
import Chip8.Program
import Chip8.Settings
import Chip8.Text.Upper

/-!
# Reading settings

`Settings.ofData` reads settings from data. What is not given keeps its standard value; what is
given is checked in a fixed order (rates, base, scale, colours, keys), and the first thing wrong is
reported. An integer may be given as a number or as a numeral, in hexadecimal behind `0x`; a truth
value is none.
-/

namespace Chip8

/-- What is wrong with settings data. -/
inductive SettingsError where
  | notMapping (found : Data)
  | sectionNotMapping (name : String) (found : Data)
  /-- A value that must be an integer is none. -/
  | badInteger (found : Data)
  /-- A text that must be a numeral is none. -/
  | badNumeral (e : Numeral.ReadError)
  /-- A rate or size is not positive. -/
  | notPositive (name : String) (n : Int)
  /-- The base address is not in memory. -/
  | badBase (e : Program.LoadError)
  /-- A colour is neither `#` with six digits nor three parts. -/
  | badColor (found : Data)
  | badCode (host : Data) (code : Int)
  | unwritable (e : WritingError)

/-- The wording of a settings error; there is none if it would show a value that cannot
be written. -/
def SettingsError.wording [NestingLimits] : SettingsError → Except WritingError Text
  | .notMapping d => .ok ("Config root must be a mapping, got " ++ d.kindName)
  | .sectionNotMapping name d => .ok ("'" ++ name ++ "' must be a mapping, got " ++ d.kindName)
  | .badInteger d => d.plain.map ("Invalid integer format: " ++ ·)
  | .badNumeral e => .ok e.message
  | .notPositive name n =>
    (Data.atom (.int n)).map fun shown => "'" ++ name ++ "' must be positive: " ++ shown
  | .badBase e => .ok e.message
  | .badColor d => d.plain.map ("Invalid color format: " ++ ·)
  | .badCode host code => do
    let name ← host.plain
    let shown ← Data.atom (.int code)
    .ok ("Key code out of range for '" ++ name ++ ("': " ++ shown : Text))
  | .unwritable e => .error e

def SettingsError.message [NestingLimits] (e : SettingsError) : Text :=
  match e.wording with
  | .ok t => t
  | .error e => e.message

/-- Whether an error is explained to the user of a launch. One that would show too many collections
inside each other ends a launch as it is. -/
def SettingsError.isExplained [NestingLimits] (e : SettingsError) : Bool :=
  match e.wording with
  | .error .tooDeep => false
  | _ => true

namespace Settings

abbrev Entries := List (Data × Data)

/-- Whether a text begins like a hexadecimal numeral. -/
def marksHex : Text → Bool
  | .char '0' :: .char 'x' :: _ => true
  | .char '0' :: .char 'X' :: _ => true
  | _ => false

def readNumeral (base : Nat) (t : Text) : Except SettingsError Int :=
  (Numeral.read base t).mapError .badNumeral

def readInt (d : Data) : Except SettingsError Int :=
  match d.value with
  | .int n => .ok n
  | .text t => readNumeral (if marksHex t then 16 else 10) t
  | _ => .error (.badInteger d)

/-- Reads the integer under a name, or takes the standard one. -/
def readIntAt (entries : Entries) (name : String) (standard : Int) : Except SettingsError Int :=
  match Data.lookup entries name with
  | some d => readInt d
  | none => .ok standard

def readPositive (entries : Entries) (name : String) (standard : Int) :
    Except SettingsError Int := do
  let n ← readIntAt entries name standard
  if 0 < n then .ok n else .error (.notPositive name n)

def readBase (entries : Entries) (standard : Int) : Except SettingsError Int := do
  let n ← readIntAt entries "base" standard
  match Program.checkBase n with
  | .ok base => .ok base
  | .error e => .error (.badBase e)

/-- The entries of a section; a section without anything in it has none. -/
def readSection (entries : Entries) (name : String) : Except SettingsError Entries :=
  match Data.lookup entries name with
  | none => .ok []
  | some d =>
    if d.isNothing then .ok []
    else
      match d.entries? with
      | some members => .ok members
      | none => .error (.sectionNotMapping name d)

/-- Reads three parts of a colour, which must be bytes. -/
def readParts (d r g b : Data) : Except SettingsError Color := do
  let red ← readInt r
  let green ← readInt g
  let blue ← readInt b
  if [red, green, blue].all (fun n => 0 ≤ n && n ≤ 255) then .ok ⟨red, green, blue⟩
  else .error (.badColor d)

/-- Reads a colour: `#` with three pairs of hexadecimal digits, or a list of three integers. -/
def readColor (d : Data) : Except SettingsError Color :=
  match d.value, d.items? with
  | .text [.char '#', a, b, c, e, f, g], _ => do
    let red ← readNumeral 16 [a, b]
    let green ← readNumeral 16 [c, e]
    let blue ← readNumeral 16 [f, g]
    .ok ⟨red, green, blue⟩
  | _, some [r, g, b] => readParts d r g b
  | _, _ => .error (.badColor d)

def readColorAt (entries : Entries) (name : String) (standard : Color) :
    Except SettingsError Color :=
  match Data.lookup entries name with
  | some d => readColor d
  | none => .ok standard

/-- Binds host keys, one after the other. The name of a host key is taken in upper case. -/
def bindKeys [NestingLimits] (keymap : Keymap) : Entries → Except SettingsError Keymap
  | [] => .ok keymap
  | (host, d) :: rest => do
    let code ← readInt d
    if 0 ≤ code ∧ code ≤ 0xF then
      match host.plain with
      | .ok name => bindKeys (keymap.bind (Text.upper name) code) rest
      | .error e => .error (.unwritable e)
    else .error (.badCode host code)

def ofEntries [NestingLimits] (entries : Entries) : Except SettingsError Settings := do
  let clockHz ← readPositive entries "clock_hz" standard.clockHz
  let timerHz ← readPositive entries "timer_hz" standard.timerHz
  let videoHz ← readPositive entries "video_hz" standard.videoHz
  let base ← readBase entries standard.base
  let scale ← readPositive entries "scale" standard.scale
  let display ← readSection entries "display"
  let foreground ← readColorAt display "foreground" standard.foreground
  let background ← readColorAt display "background" standard.background
  let keys ← readSection entries "keymap"
  let keymap ← bindKeys Keymap.standard keys
  .ok ⟨clockHz, timerHz, videoHz, base, scale, foreground, background, keymap⟩

def ofData [NestingLimits] (d : Data) : Except SettingsError Settings :=
  match d.entries? with
  | some entries => ofEntries entries
  | none => .error (.notMapping d)

end Settings

end Chip8
