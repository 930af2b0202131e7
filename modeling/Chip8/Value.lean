import Chip8.Decimal.Shortest
import Chip8.Text.Quoted
import Chip8.Value.Moment

/-!
# Data values

A `Value` is a piece of structured data as it comes out of a settings file: an atom, or a reference
to a collection that is kept in a store of its own (`Chip8.Data`), because collections can be shared
and can even lie inside themselves. `sameKey` says which values are one and the same key of a
mapping. Atoms are written in two ways: plainly, and in full, where a text is quoted.
-/

namespace Chip8

/-- A piece of structured data. -/
inductive Value where
  | null
  | bool (b : Bool)
  | int (n : Int)
  | float (x : Float)
  /-- The float that is no number. It is not equal to any number and, as a key, only to the one of
  the same origin. -/
  | notANumber (origin : Nat)
  | text (t : Text)
  | date (d : Date)
  | moment (m : Moment)
  | bytes (bs : List UInt8)
  | stored (place : Nat)
  deriving Inhabited

namespace Value

/-! ## Keys -/

/-- The integer that a number or truth value is equal to, if there is one. -/
def integer? : Value → Option Int
  | .bool b => some (if b then 1 else 0)
  | .int n => some n
  | .float x => (Decimal.Binary.ofFloat x).integer?
  | _ => none

/-- Whether two values are the same key. Numbers and truth values are compared by what they amount
to, so `1`, `1.0` and `true` are one key, and moments by the instant. -/
def sameKey : Value → Value → Bool
  | .null, .null => true
  | .text a, .text b => a == b
  | .date a, .date b => a == b
  | .moment a, .moment b => a.same b
  | .bytes a, .bytes b => a == b
  | .stored p, .stored q => p == q
  | .notANumber a, .notANumber b => a == b
  | .float a, .float b => a == b
  | a, b =>
    match a.integer?, b.integer? with
    | some m, some n => m == n
    | _, _ => false

/-- Sets a key in a list of entries: a new key goes to the end, a known one keeps its place. -/
def insert (entries : List (Value × Value)) (key value : Value) : List (Value × Value) :=
  match entries with
  | [] => [(key, value)]
  | (k, v) :: rest => if sameKey k key then (k, value) :: rest else (k, v) :: insert rest key value

/-- Entries without a second one for any key: a key has the value given last, in the place where it
was given first. -/
def unite (entries : List (Value × Value)) : List (Value × Value) :=
  entries.foldl (fun known (k, v) => insert known k v) []

/-! ## Writing atoms -/

/-- How floats are written: without an exponent from a ten-thousandth up to sixteen digits before
the point. -/
def floatStyle : Decimal.FloatStyle where
  lowestPlain := -4
  highestPlain := 15
  exponentDigits := 2
  infinity := "inf"
  notANumber := "nan"

def quoteByte (mark : Char) (b : UInt8) : List Char :=
  let c := Char.ofNat b.toNat
  if c == mark || c == '\x5c' then ['\x5c', c]
  else if c == '\n' then ['\x5c', 'n']
  else if c == '\r' then ['\x5c', 'r']
  else if c == '\t' then ['\x5c', 't']
  else if 0x20 ≤ b.toNat && b.toNat < 0x7f then [c]
  else Numeral.codePointEscape 'x' 2 b.toNat

def quoteBytes (bs : List UInt8) : String :=
  let mark := Text.quoteMark (bs.map fun b => .char (Char.ofNat b.toNat))
  String.ofList ('b' :: mark :: bs.flatMap (quoteByte mark) ++ [mark])

/-- An atom in full; nothing for an integer that takes too many digits. Of a collection no more is
said than that there is one. -/
def full? : Value → Option String
  | .null => some "None"
  | .bool b => some (if b then "True" else "False")
  | .int n => Numeral.decimal? n
  | .float x => some (floatStyle.render x)
  | .notANumber _ => some floatStyle.notANumber
  | .text t => some (Text.quote t)
  | .date d => some d.full
  | .moment m => some m.full
  | .bytes bs => some (quoteBytes bs)
  | .stored _ => some "..."

end Value

end Chip8
