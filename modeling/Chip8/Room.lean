import Chip8.Slot

/-!
# Room

Things in a row take up room, and how many a computer has room for is no matter of the program. How
many there are to be may be any integer; `room` gives it as a natural number if there is room for as
many. A number below zero asks for nothing.
-/

namespace Chip8

/-- Why there is no room for a number of things. -/
inductive RoomError where
  /-- The number does not fit into a word. -/
  | uncountable
  | exhausted
  deriving DecidableEq

def RoomError.message : RoomError → String
  | .uncountable => "cannot fit 'int' into an index-sized integer"
  | .exhausted => ""

/-- As many things as are asked for, on a computer that has room for `most` of them. -/
def room (most count : Int) : Except RoomError Nat :=
  if !fitsWord count then .error .uncountable
  else if most < count then .error .exhausted
  else .ok count.toNat

end Chip8
