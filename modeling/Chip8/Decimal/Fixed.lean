import Chip8.Decimal.Binary
import Chip8.Numeral

/-!
# Floats with a fixed number of places

`fixed places x` is the exact value of a float rounded to that many places after the point, a half
to the even neighbour.
-/

namespace Chip8.Decimal

/-- Puts a point in front of the last `places` digits. -/
def withPoint (places : Nat) (cs : List Char) : List Char :=
  let padded := Numeral.padZeros (places + 1) cs
  let whole := padded.length - places
  if places == 0 then padded else padded.take whole ++ ['.'] ++ padded.drop whole

/-- The text of a float with `places` digits after the point. -/
def fixed (places : Nat) (x : Float) : String :=
  match Binary.ofFloat x with
  | .notANumber => "nan"
  | .infinite negative => if negative then "-inf" else "inf"
  | .finite negative mantissa exponent _ =>
    let (num, den) := shiftFraction (mantissa * Nat.pow 10 places) 1 exponent
    let ds := (Numeral.digits 10 (roundHalfEven num den)).map Numeral.upperDigit
    String.ofList ((if negative then ['-'] else []) ++ withPoint places ds)

end Chip8.Decimal
