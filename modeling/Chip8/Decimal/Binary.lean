import Chip8.Decimal.Round

/-!
# Floats as exact numbers

A finite float is a sign, a natural number and a power of two. `Binary.ofFloat` reads them off the
bits of the float, so that rounding and printing are exact integer arithmetic.
-/

namespace Chip8.Decimal

/-- What a float stands for. A finite one is `mantissa` times two to the power `exponent`, negated
if `negative`; `halved` tells whether the next float towards zero is only half as far away as the
next float outwards. -/
inductive Binary where
  | notANumber
  | infinite (negative : Bool)
  | finite (negative : Bool) (mantissa : Nat) (exponent : Int) (halved : Bool)
  deriving DecidableEq

def Binary.ofFloat (x : Float) : Binary :=
  let bits : Nat := x.toBits.toNat
  let negative := bits / 0x8000000000000000 == 1
  let field : Nat := bits / 0x10000000000000 % 0x800
  let fraction : Nat := bits % 0x10000000000000
  if field == 2047 then
    if fraction == 0 then .infinite negative else .notANumber
  else if field == 0 then .finite negative fraction (-1074) false
  else .finite negative (0x10000000000000 + fraction) ((field : Int) - 1075)
    (fraction == 0 && 1 < field)

/-- Multiplies a fraction by a power of two, up or down. -/
def shiftFraction (num den : Nat) (exponent : Int) : Nat × Nat :=
  if 0 ≤ exponent then (num * Nat.pow 2 exponent.toNat, den)
  else (num, den * Nat.pow 2 (-exponent).toNat)

/-- The integer nearest to a finite float, ties to the even one; nothing for the other floats. -/
def Binary.round? : Binary → Option Int
  | .finite negative mantissa exponent _ =>
    let (num, den) := shiftFraction mantissa 1 exponent
    let n := roundHalfEven num den
    some (if negative then -(n : Int) else n)
  | _ => none

/-- The greatest integer that is not above a finite float; nothing for the other floats. -/
def Binary.floor? : Binary → Option Int
  | .finite negative mantissa exponent _ =>
    let (num, den) := shiftFraction mantissa 1 exponent
    some (if negative then Int.fdiv (-(num : Int)) den else (num / den : Nat))
  | _ => none

/-- The integer that a finite float becomes when its fraction is cut off. -/
def Binary.truncate? : Binary → Option Int
  | .finite negative mantissa exponent _ =>
    let (num, den) := shiftFraction mantissa 1 exponent
    some (if negative then -((num / den : Nat) : Int) else (num / den : Nat))
  | _ => none

/-- The integer that a float is equal to, if there is one. -/
def Binary.integer? (b : Binary) : Option Int :=
  match b with
  | .finite _ mantissa exponent _ =>
    let (num, den) := shiftFraction mantissa 1 exponent
    if num % den == 0 then b.truncate? else none
  | _ => none

end Chip8.Decimal
