/-!
# Dice

Randomness is a sequence of bytes that is fixed beforehand and a position in it: each draw takes the
next byte. So a run is a function of its dice.
-/

namespace Chip8

/-- A source of random bytes and the number of bytes drawn from it so far. -/
structure Dice where
  byte : Nat → UInt8
  drawn : Nat

namespace Dice

/-- The dice that give the bytes of a list over and over, and zeros for the empty list. -/
def cycle (bytes : List UInt8) : Dice :=
  let faces := bytes.toArray
  ⟨fun n => faces.getD (n % faces.size) 0, 0⟩

def draw (d : Dice) : UInt8 × Dice :=
  (d.byte d.drawn, { d with drawn := d.drawn + 1 })

end Dice

end Chip8
