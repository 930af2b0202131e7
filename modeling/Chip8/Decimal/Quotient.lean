import Chip8.Decimal.Binary

/-!
# The float nearest to a quotient

`quotient? num den` is the float nearest to `num / den`, halfway between two floats the one with the
even mantissa. A float has 53 binary digits, fewer if the last of them would be worth less than two
to the power -1074. A quotient that rounds to more than the greatest float has none.
-/

namespace Chip8.Decimal

/-- The exponent of the greatest power of two that is not above a positive fraction. -/
def leadingPower (num den : Nat) : Int :=
  let guess : Int := (num.log2 : Int) - den.log2
  let (high, low) := shiftFraction num den (-guess)
  if high < low then guess - 1 else guess

/-- The bits of the float nearest to a fraction, as a number. Floats that are not negative lie in
the order of their bits, so that a mantissa that is rounded up to the next power of two leads to the
right bits. -/
def nearestBits (num den : Nat) : Nat :=
  if num == 0 then 0
  else
    let unit := max (leadingPower num den - 52) (-1074)
    let (high, low) := shiftFraction num den (-unit)
    (unit + 1074).toNat * 0x10000000000000 + roundHalfEven high low

def infinityBits : Nat := 0x7FF * 0x10000000000000

/-- The float nearest to a fraction, if it is finite. -/
def quotient? (num den : Nat) : Option Float :=
  let bits := nearestBits num den
  if bits < infinityBits then some (Float.ofBits bits.toUInt64) else none

/-- The float nearest to an integer, if it is finite. -/
def ofInt? (n : Int) : Option Float :=
  (quotient? n.natAbs 1).map fun x => if n < 0 then -x else x

end Chip8.Decimal
