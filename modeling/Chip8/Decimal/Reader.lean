import Chip8.Numeral.Reader

/-!
# Reading floats

The text of a float is a sign, digits with an optional point among or around them, and an optional
exponent, with blanks around; single underscores may stand between digits. The words `inf`,
`infinity` and `nan` are floats in any case. The float is the one nearest to the written number.
-/

namespace Chip8.Decimal

/-- The float nearest to `mantissa` times ten to the power `exponent`; what is too large is
infinite, and what is too small is zero. -/
def nearest (mantissa : Nat) (exponent : Int) : Float :=
  let digits : Int := (Numeral.digits 10 mantissa).length
  if mantissa == 0 || digits + exponent < -400 then 0.0
  else if 400 < digits + exponent then 1.0 / 0.0
  else Float.ofScientific mantissa (exponent < 0) exponent.natAbs

/-- Reads digits in front of a text, with single underscores between them: what they amount to after
`value`, how many they are with `count`, and the rest. An underscore that is not followed by a digit
is left. -/
def readDigits (value count : Nat) : List Char → Nat × Nat × List Char
  | [] => (value, count, [])
  | '_' :: c :: rest =>
    match Numeral.digitValue 10 c with
    | some d =>
      if count == 0 then (value, count, '_' :: c :: rest)
      else readDigits (value * 10 + d) (count + 1) rest
    | none => (value, count, '_' :: c :: rest)
  | c :: rest =>
    match Numeral.digitValue 10 c with
    | some d => readDigits (value * 10 + d) (count + 1) rest
    | none => (value, count, c :: rest)

/-- Reads an exponent to the end of a text; without one it is zero. -/
def readExponent? : List Char → Option Int
  | [] => some 0
  | c :: rest =>
    if c == 'e' || c == 'E' then
      let (negative, body) := Numeral.splitSign rest
      match readDigits 0 0 body with
      | (n, count, []) => if count == 0 then none else some (if negative then -(n : Int) else n)
      | _ => none
    else none

/-- Reads a float without a sign. -/
def readUnsigned? (cs : List Char) : Option Float :=
  let (whole, wholeCount, rest) := readDigits 0 0 cs
  let (mantissa, places, rest) := match rest with
    | '.' :: after =>
      let (digits, places, rest) := readDigits 0 0 after
      (whole * Nat.pow 10 places + digits, places, rest)
    | rest => (whole, 0, rest)
  if wholeCount + places == 0 then none
  else (readExponent? rest).map fun exponent => nearest mantissa (exponent - places)

/-- The float that a text without blanks stands for. -/
def readSigned? (cs : List Char) : Option Float :=
  let (negative, body) := Numeral.splitSign cs
  let word := String.ofList (body.map Char.toLower)
  let magnitude :=
    if word == "inf" || word == "infinity" then some (1.0 / 0.0)
    else if word == "nan" then some (0.0 / 0.0)
    else readUnsigned? body
  magnitude.map fun x => if negative then -x else x

/-- The float that a text stands for, if it is one. -/
def read? (t : Text) : Option Float :=
  readSigned? (Text.trimList Text.isAsciiBlank (Numeral.normalize t))

end Chip8.Decimal
