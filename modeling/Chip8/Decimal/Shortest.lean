import Chip8.Decimal.Binary
import Chip8.Numeral

/-!
# The shortest decimal text of a float

`shortest` looks for the fewest digits that read back as the same float. For one digit, two digits
and so on it takes the two points of that decimal grid around the exact value; the first grid with a
point in the interval of numbers that round to the float wins, of two such points the nearer, and of
two equally near the even one. `FloatStyle` says how the digits are then laid out.
-/

namespace Chip8.Decimal

/-- A decimal number: `digits` times ten to the power `exponent`. -/
structure Scaled where
  digits : Nat
  exponent : Int
  deriving DecidableEq

/-- The numerators of a float, of the ends of the interval that rounds to it, and their
common denominator. -/
structure Interval where
  low : Nat
  value : Nat
  high : Nat
  unit : Nat
  closed : Bool

/-- The interval of numbers that round to a finite float. -/
def Interval.around (mantissa : Nat) (exponent : Int) (halved : Bool) : Interval :=
  let (num, den) := shiftFraction 1 1 (exponent - 2)
  { low := (4 * mantissa - if halved then 1 else 2) * num
    value := 4 * mantissa * num
    high := (4 * mantissa + 2) * num
    unit := den
    closed := mantissa % 2 == 0 }

/-- The number of places by which a positive fraction below one begins with zeros, counted up to
a limit. -/
def leadingZeros (num den : Nat) : Nat → Nat
  | 0 => 0
  | limit + 1 => if den ≤ 10 * num then 0 else leadingZeros (10 * num) den limit + 1

/-- The power of ten that just exceeds a positive fraction. -/
def magnitude (num den : Nat) : Int :=
  if den ≤ num then ((Numeral.digits 10 (num / den)).length : Int)
  else -(leadingZeros num den 400 : Int)

/-- Multiplies the fractions of an interval by a power of ten, up or down. -/
def Interval.scale (i : Interval) (exponent : Int) : Interval :=
  if 0 ≤ exponent then
    let factor := Nat.pow 10 exponent.toNat
    { i with low := i.low * factor, value := i.value * factor, high := i.high * factor }
  else
    { i with unit := i.unit * Nat.pow 10 (-exponent).toNat }

def Interval.contains (i : Interval) (n : Nat) : Bool :=
  if i.closed then i.low ≤ n * i.unit && n * i.unit ≤ i.high
  else i.low < n * i.unit && n * i.unit < i.high

/-- The better of the two integers around the value of an interval that lie in it. -/
def Interval.nearest? (i : Interval) : Option Nat :=
  let below := i.value / i.unit
  let above := below + 1
  match i.contains below, i.contains above with
  | true, false => some below
  | false, true => some above
  | true, true => some (roundHalfEven i.value i.unit)
  | false, false => none

/-- Tries `count` digits, and then one more as long as `left` allows. -/
def Interval.search (i : Interval) (top : Int) (count : Nat) : Nat → Scaled
  | 0 => ⟨roundHalfEven (i.scale (count - top)).value (i.scale (count - top)).unit, top - count⟩
  | left + 1 =>
    match (i.scale (count - top)).nearest? with
    | some n => ⟨n, top - count⟩
    | none => i.search top (count + 1) left

/-- The fewest digits that read back as a positive finite float. -/
def shortest (mantissa : Nat) (exponent : Int) (halved : Bool) : Scaled :=
  let i := Interval.around mantissa exponent halved
  i.search (magnitude i.value i.unit) 1 16

/-- How the digits of a float are laid out. -/
structure FloatStyle where
  /-- The lowest exponent of the first digit that is written without an exponent. -/
  lowestPlain : Int
  /-- The highest such exponent. -/
  highestPlain : Int
  exponentDigits : Nat
  infinity : String
  notANumber : String

/-- Drops the zeros at the end of a list of digits. -/
def dropFinalZeros (ds : List Nat) : List Nat :=
  (ds.reverse.dropWhile (· == 0)).reverse

/-- Lays out the digits `ds` of a number whose first digit counts `first` powers of ten. -/
def FloatStyle.layOut (style : FloatStyle) (ds : List Nat) (first : Int) : List Char :=
  let cs := ds.map Numeral.upperDigit
  if style.lowestPlain ≤ first && first ≤ style.highestPlain then
    if first < 0 then
      ['0', '.'] ++ List.replicate (-first - 1).toNat '0' ++ cs
    else
      let whole := cs.take (first + 1).toNat
      let part := cs.drop (first + 1).toNat
      whole ++ List.replicate ((first + 1).toNat - whole.length) '0' ++ ['.'] ++
        (if part.isEmpty then ['0'] else part)
  else
    let part := cs.drop 1
    cs.take 1 ++ (if part.isEmpty then [] else '.' :: part) ++
      ['e', if first < 0 then '-' else '+'] ++
      Numeral.padZeros style.exponentDigits
        ((Numeral.digits 10 first.natAbs).map Numeral.upperDigit)

def FloatStyle.render (style : FloatStyle) (x : Float) : String :=
  match Binary.ofFloat x with
  | .notANumber => style.notANumber
  | .infinite negative => (if negative then "-" else "") ++ style.infinity
  | .finite negative mantissa exponent halved =>
    let (ds, first) :=
      if mantissa == 0 then ([0], 0)
      else
        let s := shortest mantissa exponent halved
        let ds := Numeral.digits 10 s.digits
        (dropFinalZeros ds, s.exponent + ds.length - 1)
    String.ofList ((if negative then ['-'] else []) ++ style.layOut ds first)

end Chip8.Decimal
