import Chip8.Decimal.Fixed
import Chip8.Decimal.Shortest

/-!
# Floats with a number of significant digits

`scientific places x` writes one digit before the point, `places` of them behind it, and a power of
ten. `general count x` takes `count` significant digits and leaves the power of ten out unless there
are many places before the point or many zeros behind it. Both round the exact value of the float, a
half to the even neighbour.
-/

namespace Chip8.Decimal

/-- The first `count` significant digits of a positive fraction, and the power of ten that the first
one counts. -/
def leadingDigits (num den count : Nat) : List Nat × Int :=
  let top := magnitude num den
  let shift : Int := count - top
  let (high, low) :=
    if 0 ≤ shift then (num * Nat.pow 10 shift.toNat, den)
    else (num, den * Nat.pow 10 (-shift).toNat)
  let ds := Numeral.digits 10 (roundHalfEven high low)
  if count < ds.length then (ds.take count, top) else (ds, top - 1)

def enoughDigits : Nat := 1100

/-- The first `count` significant digits of a float that is not negative, and the power of ten that
the first one counts. -/
def significant (mantissa : Nat) (exponent : Int) (count : Nat) : List Nat × Int :=
  if mantissa == 0 then (List.replicate count 0, 0)
  else
    let (num, den) := shiftFraction mantissa 1 exponent
    let (ds, first) := leadingDigits num den (min count enoughDigits)
    (ds ++ List.replicate (count - enoughDigits) 0, first)

/-- Digits with a point behind the first `whole` of them; `marked` keeps the point if nothing stands
behind it. -/
def pointAfter (whole : Nat) (marked : Bool) (ds : List Nat) : List Char :=
  let cs := ds.map Numeral.upperDigit
  cs.take whole ++ (if marked || whole < cs.length then ['.'] else []) ++ cs.drop whole

def powerOfTen (exponent : Int) : List Char :=
  ['e', if exponent < 0 then '-' else '+'] ++
    Numeral.padZeros 2 ((Numeral.digits 10 exponent.natAbs).map Numeral.upperDigit)

/-- A float whose finite digits are written by a function of its mantissa and exponent. -/
def withSign (write : Nat → Int → List Char) (x : Float) : String :=
  match Binary.ofFloat x with
  | .notANumber => "nan"
  | .infinite negative => if negative then "-inf" else "inf"
  | .finite negative mantissa exponent _ =>
    String.ofList ((if negative then ['-'] else []) ++ write mantissa exponent)

/-- A float with one digit before the point and `places` behind it; `marked` keeps a point with
nothing behind it. -/
def scientific (places : Nat) (marked : Bool) : Float → String :=
  withSign fun mantissa exponent =>
    let (ds, first) := significant mantissa exponent (places + 1)
    pointAfter 1 marked ds ++ powerOfTen first

/-- A float with `count` significant digits; `marked` keeps zeros at the end, which are
dropped otherwise. -/
def general (count : Nat) (marked : Bool) : Float → String :=
  withSign fun mantissa exponent =>
    let count := max count 1
    let (ds, first) :=
      significant mantissa exponent (if marked then count else min count enoughDigits)
    let kept := fun whole => if marked then ds else ds.take whole ++ dropFinalZeros (ds.drop whole)
    if first < -4 ∨ (count : Int) ≤ first then pointAfter 1 marked (kept 1) ++ powerOfTen first
    else if first < 0 then
      pointAfter 1 marked (List.replicate (-first).toNat 0 ++ kept 0)
    else pointAfter (first + 1).toNat marked (kept (first + 1).toNat)

end Chip8.Decimal
