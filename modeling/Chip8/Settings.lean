import Chip8.State
import Chip8.Text

/-!
# Settings

The rates at which a machine runs, where programs are placed, and how the display and the keys look
from outside. `Settings.standard` holds where nothing else is set.
-/

namespace Chip8

/-- A colour by its red, green and blue parts. -/
structure Color where
  red : Int
  green : Int
  blue : Int
  deriving DecidableEq

/-- A colour as text: `#` and two hexadecimal digits for each part. -/
def Color.hexText (c : Color) : String :=
  "#" ++ Numeral.upperHex 2 c.red ++ Numeral.upperHex 2 c.green ++ Numeral.upperHex 2 c.blue

/-- Which key of the keypad each host key stands for. The order decides which host key is shown for
a key. -/
abbrev Keymap := List (Text × Int)

namespace Keymap

/-- Binds a host key: a new one goes to the end, a known one keeps its place. -/
def bind (keymap : Keymap) (host : Text) (code : Int) : Keymap :=
  match keymap with
  | [] => [(host, code)]
  | (h, c) :: rest => if h == host then (h, code) :: rest else (h, c) :: bind rest host code

/-- The keypad laid over the left of a keyboard: four columns under 1 to 4. -/
def standard : Keymap :=
  [("1", 0x1), ("2", 0x2), ("3", 0x3), ("4", 0xC),
   ("Q", 0x4), ("W", 0x5), ("E", 0x6), ("R", 0xD),
   ("A", 0x7), ("S", 0x8), ("D", 0x9), ("F", 0xE),
   ("Z", 0xA), ("X", 0x0), ("C", 0xB), ("V", 0xF)]

def code? (keymap : Keymap) (host : Text) : Option Int :=
  List.lookup host keymap

/-- Notes a host key for the code that it stands for, unless one has been noted before. So the first
host key that is bound to a code is the one that is shown for it. -/
def note (found : List (Int × Text)) (entry : Text × Int) : List (Int × Text) :=
  if (found.lookup entry.2).isSome then found else found ++ [(entry.2, entry.1)]

/-- The host keys by the codes that they stand for. -/
def firstHosts (keymap : Keymap) : List (Int × Text) :=
  keymap.foldl note []

def hostFor? (keymap : Keymap) (code : Int) : Option Text :=
  keymap.firstHosts.lookup code

theorem lookup_note (found : List (Int × Text)) (entry : Text × Int) (code : Int) :
    (note found entry).lookup code =
      (found.lookup code).or (if code == entry.2 then some entry.1 else none) := by
  unfold note
  split
  next hknown =>
    split
    next hcode => rw [eq_of_beq hcode, Option.or_of_isSome hknown]
    next => rw [Option.or_none]
  next =>
    rw [List.lookup_append, List.lookup_cons]
    cases code == entry.2 with
    | true => rfl
    | false => rfl

theorem lookup_foldl_note (keymap : Keymap) (found : List (Int × Text)) (code : Int) :
    (keymap.foldl note found).lookup code =
      (found.lookup code).or ((keymap.find? fun entry => code == entry.2).map (·.1)) := by
  induction keymap generalizing found with
  | nil => simp
  | cons entry rest ih =>
    rw [List.foldl_cons, ih, lookup_note, Option.or_assoc, List.find?_cons]
    cases code == entry.2 with
    | true => rfl
    | false => rfl

/-- The host key shown for a code stands in the first entry that has the code. -/
theorem hostFor?_eq_find? (keymap : Keymap) (code : Int) :
    keymap.hostFor? code = (keymap.find? fun entry => code == entry.2).map (·.1) :=
  lookup_foldl_note keymap [] code

end Keymap

/-- What can be set. -/
structure Settings where
  clockHz : Int
  timerHz : Int
  videoHz : Int
  base : Int
  /-- The width and height of a pixel of the machine on the display. -/
  scale : Int
  foreground : Color
  background : Color
  keymap : Keymap

/-- The settings that hold where nothing else is set. -/
def Settings.standard : Settings where
  clockHz := 500
  timerHz := 60
  videoHz := 60
  base := programBase
  scale := 10
  foreground := ⟨156, 220, 254⟩
  background := ⟨50, 50, 54⟩
  keymap := Keymap.standard

end Chip8
