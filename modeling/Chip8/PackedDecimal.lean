import Chip8.Bits

/-!
# Packed decimals

A packed decimal holds one decimal digit in each group of four bits. `rounds value k` packs the
number that the top `k` bits of the low byte of `value` make up, without a division: each round adds
three to every digit from five on, so that doubling carries into the next digit, and then appends
one more bit.
-/

namespace Chip8.PackedDecimal

/-- A digit of a packed decimal, counted from the lowest. -/
def digit (packed place : Nat) : Nat :=
  packed / Nat.pow 16 place % 16

/-- Adds three to the digit at a place if it is five or more. -/
def adjustAt (packed place : Nat) : Nat :=
  if 5 ≤ digit packed place then packed + 3 * Nat.pow 16 place else packed

/-- Adds three to each of the three digits that is five or more, from the lowest. -/
def adjust (packed : Nat) : Nat :=
  adjustAt (adjustAt (adjustAt packed 0) 1) 2

/-- The packed decimal after a number of rounds. -/
def rounds (value : Int) : Nat → Nat
  | 0 => 0
  | k + 1 => 2 * adjust (rounds value k) + Bits.bit value (7 - k)

/-- The hundreds, tens and ones of the low byte of an integer. -/
def ofByte (value : Int) : List Nat :=
  let packed := rounds value 8
  [digit packed 2, digit packed 1, digit packed 0]

end Chip8.PackedDecimal
