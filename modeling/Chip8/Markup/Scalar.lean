import Chip8.Decimal.Quotient
import Chip8.Decimal.Reader
import Chip8.Markup.Timestamp
import Chip8.Text.Lower
import Chip8.Value

/-!
# The values of scalars

What a scalar is worth, given its tag. Underscores in numbers do not count. An integer may be
written in base two, eight or sixteen, or in base sixty with colons between its digits; a float may
be in base sixty too.
-/

namespace Chip8.Markup

def colonParts (t : Text) : List Text :=
  t.splitOn (.char ':')

/-- A number without the underscores in it. -/
def withoutLines (t : Text) : Text :=
  t.filter (· != .char '_')

/-- Splits the sign off a number, of which something must be there. -/
def splitNumber : Text → Result (Bool × Text)
  | [] => .error .emptyNumber
  | .char '-' :: body => .ok (true, body)
  | .char '+' :: body => .ok (false, body)
  | body => .ok (false, body)

def readInteger (base : Nat) (t : Text) : Result Int :=
  (Numeral.read base t).mapError .numeral

/-- The number with the given digits in base sixty, the highest first. -/
def sixties (digits : List Int) : Int :=
  digits.foldl (fun n d => n * 60 + d) 0

/-- The magnitude of an integer without a sign. -/
def magnitude (t : Text) : Result Int :=
  match t with
  | [] => .error .emptyNumber
  | [.char '0'] => .ok 0
  | .char '0' :: .char 'b' :: ds => readInteger 2 ds
  | .char '0' :: .char 'x' :: ds => readInteger 16 ds
  | .char '0' :: _ => readInteger 8 t
  | _ =>
    if t.contains (.char ':') then ((colonParts t).mapM (readInteger 10)).map sixties
    else readInteger 10 t

def integerValue (t : Text) : Result Int := do
  let (negative, body) ← splitNumber (withoutLines t)
  let n ← magnitude body
  .ok (if negative then -n else n)

def readFloat (t : Text) : Result Float :=
  match Decimal.read? t with
  | some x => .ok x
  | none => .error (.float t)

/-- The number with the given digits in base sixty, the lowest first, of which the first is
worth `unit`. -/
def floatSixties (unit : Int) (sum : Float) : List Float → Result Float
  | [] => .ok sum
  | d :: rest =>
    match Decimal.ofInt? unit with
    | some x => floatSixties (unit * 60) (sum + d * x) rest
    | none => .error .floatTooLarge

/-- A float as a value, of an origin that tells it apart if it is no number. -/
def ofFloat (origin : Nat) (x : Float) : Value :=
  if x == x then .float x else .notANumber origin

/-- The float that a text is worth. The word for what is no number has the origin zero wherever
it stands. -/
def floatValue (origin : Nat) (t : Text) : Result Value := do
  let (negative, word) ← splitNumber (Text.lower (withoutLines t))
  if word == ".nan" then .ok (.notANumber 0)
  else
    let x ←
      if word == ".inf" then .ok (1.0 / 0.0)
      else if word.contains (.char ':') then do
        let digits ← (colonParts word).mapM readFloat
        floatSixties 1 0.0 digits.reverse
      else readFloat word
    .ok (ofFloat origin (if negative then -x else x))

def truthValue (t : Text) : Result Bool :=
  let word := t.lower
  if (["yes", "true", "on"].map Text.ofString).contains word then .ok true
  else if (["no", "false", "off"].map Text.ofString).contains word then .ok false
  else .error (.notTruth word)

def timeValue (t : Text) : Result Value :=
  match t.toChars?.bind Timestamp.read? with
  | none => .error .notMoment
  | some stamp =>
    match stamp.value with
    | .ok (.inl d) => .ok (.date d)
    | .ok (.inr m) => .ok (.moment m)
    | .error e => .error (.calendar e)

/-- The value of a character as a digit in base sixty-four. -/
def digit64? (c : Char) : Option Nat :=
  if 'A' ≤ c && c ≤ 'Z' then some (c.toNat - 65)
  else if 'a' ≤ c && c ≤ 'z' then some (c.toNat - 71)
  else if c.isDigit then some (c.toNat + 4)
  else if c == '+' then some 62
  else if c == '/' then some 63
  else none

/-- Reads digits in base sixty-four, four of which are three bytes. `held` are the digits of the
present group, the latest first, and `pads` the equals signs since then; a group is complete with
the signs that stand for its missing digits, and what follows is not read. Other characters do
not count. -/
def bytes64? (held : List Nat) (pads : Nat) : List Char → Option (List UInt8)
  | [] => if held.isEmpty then some [] else none
  | c :: rest =>
    if c == '=' then
      if 2 ≤ held.length && 4 ≤ held.length + pads + 1 then some (groupBytes held)
      else bytes64? held (pads + 1) rest
    else
      match digit64? c with
      | none => bytes64? held pads rest
      | some d =>
        if held.length == 3 then (bytes64? [] 0 rest).map (groupBytes (d :: held) ++ ·)
        else bytes64? (d :: held) 0 rest
where
  /-- The whole bytes of a group of digits, the latest first. -/
  groupBytes : List Nat → List UInt8
    | [b, a] => [UInt8.ofNat (a * 4 + b / 16)]
    | [c, b, a] => [UInt8.ofNat (a * 4 + b / 16), UInt8.ofNat (b * 16 + c / 4)]
    | [d, c, b, a] =>
      [UInt8.ofNat (a * 4 + b / 16), UInt8.ofNat (b * 16 + c / 4), UInt8.ofNat (c * 64 + d)]
    | _ => []

/-- The bytes that a text in base sixty-four is worth. -/
def bytesValue (t : Text) : Result (List UInt8) :=
  match t.toChars?.filter (·.all (·.toNat < 128)) with
  | none => malformed
  | some cs =>
    match bytes64? [] 0 cs with
    | some bs => .ok bs
    | none => malformed

/-- The value of a scalar with a tag and an origin above zero. -/
def scalarValue (tag : Tag) (origin : Nat) (t : Text) : Result Value :=
  match tag with
  | .null => .ok .null
  | .bool => (truthValue t).map .bool
  | .int => (integerValue t).map .int
  | .float => floatValue origin t
  | .timestamp => timeValue t
  | .binary => (bytesValue t).map .bytes
  | .string => .ok (.text t)
  | _ => malformed

end Chip8.Markup
