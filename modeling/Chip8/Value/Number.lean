import Chip8.Digest
import Chip8.Value

/-!
# The numbers of values

Values that are the same key have the same number, which a table needs to keep them. Numbers and
truth values count by what they amount to, by remainders for the Mersenne prime of 61 bits; texts,
bytes, dates and moments by a digest. There are no more than 64 bits to a number.
-/

namespace Chip8.Value

def modulus : Nat := 0x1fffffffffffffff

/-- A number in 64 bits. The one below zero is not used. -/
def inWord (n : Int) : Nat :=
  ((if n == -1 then -2 else n) % 0x10000000000000000).toNat

def integerNumber (n : Int) : Nat :=
  inWord (n.sign * (n.natAbs % modulus : Nat))

/-- A float as a number. Halving a remainder is multiplying it by two to the power 60. -/
def floatNumber? (x : Float) : Option Nat :=
  match Decimal.Binary.ofFloat x with
  | .notANumber => none
  | .infinite negative => some (inWord (if negative then -314159 else 314159))
  | .finite negative mantissa exponent _ =>
    let n : Nat := mantissa * Nat.pow 2 (exponent % 61).toNat % modulus
    some (inWord (if negative then -(n : Int) else n))

def bytesNumber (bytes : List UInt8) : Nat :=
  if bytes.isEmpty then 0
  else
    let n := (Digest.ofBytes bytes).toNat
    if n == 0xffffffffffffffff then 0xfffffffffffffffe else n

/-- A natural number in `count` bytes, the lowest first. -/
def lowBytes : Nat → Nat → List UInt8
  | 0, _ => []
  | count + 1, n => UInt8.ofNat n :: lowBytes count (n / 256)

/-- A text as bytes: each code point in as many as the widest needs, which are one, two or four. -/
def textBytes (t : Text) : List UInt8 :=
  let widest := (t.map CodePoint.toNat).foldl max 0
  let width := if widest < 0x100 then 1 else if widest < 0x10000 then 2 else 4
  t.flatMap fun p => lowBytes width p.toNat

def dateBytes (d : Date) : List UInt8 :=
  (lowBytes 2 d.year).reverse ++ [UInt8.ofNat d.month, UInt8.ofNat d.day]

/-- A moment without the distance from universal time, as bytes. -/
def momentBytes (m : Moment) : List UInt8 :=
  dateBytes m.date ++ [UInt8.ofNat m.hour, UInt8.ofNat m.minute, UInt8.ofNat m.second] ++
    (lowBytes 3 m.microsecond).reverse

def combine (numbers : List Nat) : Nat :=
  let mix := fun (sum : UInt64) (n : Nat) =>
    Digest.rotate (sum + UInt64.ofNat n * 14029467366897019727) 31 * 11400714785074694791
  let sum := numbers.foldl mix 2870177450012600261 +
    (UInt64.ofNat numbers.length ^^^ (2870177450012600261 ^^^ 3527539))
  if sum == 0xffffffffffffffff then 1546275796 else sum.toNat

/-- A moment as a number: by universal time, if the distance from it is known. -/
def momentNumber (m : Moment) : Nat :=
  match m.offset with
  | none => bytesNumber (momentBytes m)
  | some offset =>
    let span := m.reading + 86400000000 - offset * 1000000
    let seconds := Int.fdiv span 1000000
    combine ([Int.fdiv seconds 86400, Int.fmod seconds 86400, Int.fmod span 1000000].map
      integerNumber)

/-- The number of a value; nothing for a value whose number does not follow from it. -/
def number? : Value → Option Nat
  | .bool b => some (if b then 1 else 0)
  | .int n => some (integerNumber n)
  | .float x => floatNumber? x
  | .text t => some (bytesNumber (textBytes t))
  | .bytes bs => some (bytesNumber bs)
  | .date d => some (bytesNumber (dateBytes d))
  | .moment m => some (momentNumber m)
  | .null | .notANumber _ | .stored _ => none

end Chip8.Value
