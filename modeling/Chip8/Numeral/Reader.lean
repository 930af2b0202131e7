import Chip8.Text.Blank
import Chip8.Text.Digit
import Chip8.Text.Quoted

/-!
# Reading written integers

A numeral is a run of digits in which single underscores may stand between digits, with an optional
sign in front and blanks around. In base two `0b`, in base eight `0o` and in base sixteen `0x` may
come before the digits, and an underscore after it. Decimal digits of every script count, and in a
text with any character beyond ASCII all white space beyond ASCII counts as blank. `read` gives the
integer or the reason why there is none.
-/

namespace Chip8.Numeral

/-- Why a text is not a numeral. -/
inductive ReadError where
  /-- The text does not have the form of a numeral in this base. -/
  | malformed (base : Nat) (text : Text)
  | tooLong (digits : Nat)
  deriving DecidableEq

/-- The wording of a reading error; of a quoted text at most 200 characters are shown. -/
def ReadError.message : ReadError → String
  | .malformed base text =>
    "invalid literal for int() with base " ++ decimal base ++ ": " ++
      String.ofList ((Text.quote text).toList.take 200)
  | .tooLong digits =>
    "Exceeds the limit (" ++ decimal maxDecimalDigits ++
      " digits) for integer string conversion: value has " ++ decimal digits ++
      " digits; use sys.set_int_max_str_digits() to increase the limit"

/-- The value of an ASCII digit or letter as a digit of some base. -/
def charValue (c : Char) : Option Nat :=
  let code := c.toNat
  if 48 ≤ code && code ≤ 57 then some (code - 48)
  else if 65 ≤ code && code ≤ 90 then some (code - 55)
  else if 97 ≤ code && code ≤ 122 then some (code - 87)
  else none

/-- The value of a character as a digit of base `base`. -/
def digitValue (base : Nat) (c : Char) : Option Nat :=
  (charValue c).filter (· < base)

/-- Replaces digits and white space beyond ASCII by an ASCII digit or a blank, and whatever else
lies beyond ASCII by a character that no numeral contains. -/
def toAscii (c : Char) : Char :=
  if c.toNat < 127 then c
  else if Text.isBlank c then ' '
  else
    match Text.decimalValue c with
    | some d => upperDigit d
    | none => '?'

/-- The characters among which the digits of a text are looked for. -/
def normalize (t : Text) : List Char :=
  let plain := t.all (·.toNat < 128)
  t.map fun p =>
    match p with
    | .char c => if plain then c else toAscii c
    | .half _ => '?'

/-- Reads digits to the end, with single underscores between them: `value` is what the digits so far
amount to, and `afterDigit` tells whether the last character was one. -/
def readDigits (base value : Nat) (afterDigit : Bool) : List Char → Option Nat
  | [] => if afterDigit then some value else none
  | c :: rest =>
    if c == '_' then
      if afterDigit then readDigits base value false rest else none
    else
      match digitValue base c with
      | some d => readDigits base (value * base + d) true rest
      | none => none

def splitSign : List Char → Bool × List Char
  | '-' :: rest => (true, rest)
  | '+' :: rest => (false, rest)
  | cs => (false, cs)

/-- The letter behind the zero that marks a base, in lower case. -/
def markLetter? (base : Nat) : Option Char :=
  if base == 2 then some 'b' else if base == 8 then some 'o'
  else if base == 16 then some 'x' else none

/-- Drops the mark of a base in front of a numeral, and one underscore after it. -/
def dropMark (base : Nat) (cs : List Char) : List Char :=
  match cs with
  | '0' :: letter :: rest =>
    if markLetter? base == some letter.toLower then
      if rest.head? == some '_' then rest.drop 1 else rest
    else cs
  | cs => cs

/-- The integer a text stands for, if it is a numeral. -/
def read? (base : Nat) (t : Text) : Option Int :=
  let (negative, body) := splitSign (Text.trimList Text.isAsciiBlank (normalize t))
  (readDigits base 0 false (dropMark base body)).map fun n => if negative then -(n : Int) else n

/-- The number of digits in the well-formed run of decimal digits that a text begins with. -/
def leadingDigits (t : Text) : Nat :=
  let (_, body) := splitSign ((normalize t).dropWhile Text.isAsciiBlank)
  let run := body.takeWhile fun c => c == '_' || (digitValue 10 c).isSome
  if (readDigits 10 0 false run).isSome then run.countP (· != '_') else 0

/-- Reads a numeral in base ten or in a base that is a power of two. Only decimal numerals are
limited in length. -/
def read (base : Nat) (t : Text) : Except ReadError Int :=
  if base == 10 && leadingDigits t > maxDecimalDigits then .error (.tooLong (leadingDigits t))
  else
    match read? base t with
    | some n => .ok n
    | none => .error (.malformed base t)

end Chip8.Numeral
