import Chip8.Decimal.Fixed
import Chip8.Settings

/-!
# The keypad pane

The keypad pane shows the sixteen keys, each with the host key that stands for it, and which of them
are held down. Below it stands how long a redraw of the window takes, smoothed: every measured time
moves the average by a tenth of the difference.
-/

namespace Chip8

/-- The keypad pane. -/
structure KeypadPane where
  keymap : Keymap
  pressed : Vector Bool 16
  /-- The smoothed time of a redraw in milliseconds, if one has been measured. -/
  frameTime : Option Float

namespace KeypadPane

def create (keymap : Keymap) : KeypadPane :=
  ⟨keymap, Vector.replicate 16 false, none⟩

/-- The label of a key: its code, and the first host key that stands for it. -/
def label (p : KeypadPane) (code : Fin 16) : Text :=
  Text.ofString (Numeral.upperHex 1 code.val ++ "\n(") ++ (p.keymap.hostFor? code.val).getD "-" ++
    Text.ofString ")"

def setKeys (p : KeypadPane) (keys : Vector Bool 16) : KeypadPane :=
  { p with pressed := keys }

def pressedCodes (p : KeypadPane) : List (Fin 16) :=
  (List.finRange 16).filter fun code => p.pressed.get code

/-- Takes a measured time in milliseconds into the average. A time that is not above zero does
not count. -/
def record (p : KeypadPane) (ms : Float) : KeypadPane :=
  if ms ≤ 0.0 then p
  else
    { p with frameTime := some (match p.frameTime with
      | none => ms
      | some mean => mean + (ms - mean) * 0.1) }

/-- A time that is measured does not touch the keymap. -/
theorem keymap_record (p : KeypadPane) (ms : Float) :
    (p.record ms).keymap = p.keymap := by
  unfold record
  split
  · rfl
  · rfl

/-- The time of a redraw and the redraws per second as text. -/
def paceText (p : KeypadPane) : String :=
  match p.frameTime with
  | none => ""
  | some mean => Decimal.fixed 3 mean ++ " ms/frame\n" ++ Decimal.fixed 1 (1000.0 / mean) ++ " fps"

end KeypadPane

end Chip8
