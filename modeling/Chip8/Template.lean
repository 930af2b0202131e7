import Chip8.Data
import Chip8.Decimal.Quotient
import Chip8.Decimal.Scientific
import Chip8.Template.Place

/-!
# Templates

`Template.fill?` puts arguments into the places of a template. The arguments are used in their
order, and all of them must be used; a single mapping is looked into instead, by the names of the
places. There is nothing to show if arguments are missing or left over, or if one cannot be shown in
the form of its place.
-/

namespace Chip8.Template

/-- What the places of a template are filled from: the arguments that are left, and the entries of
a mapping. -/
structure Supply where
  ordered : List Data
  named : Option (List (Data × Data))

namespace Supply

/-- The supply of some arguments. A mapping that is the only one, and has entries, is looked into;
it can also be used once as a whole. -/
def ofList (args : List Data) : Supply :=
  match args with
  | [d] => ⟨args, d.entries?.filter (!·.isEmpty)⟩
  | _ => ⟨args, none⟩

/-- The supply for a place: that of an entry, if the place names one. -/
def forName? (s : Supply) : Option Text → Option Supply
  | none => some s
  | some name => do
    let entry ← (← s.named).find? fun entry => entry.1.value.sameKey (.text name)
    return { s with ordered := [entry.2] }

def next? (s : Supply) : Option (Data × Supply) :=
  match s.ordered with
  | [] => none
  | d :: rest => some (d, { s with ordered := rest })

end Supply

/-! ## Arguments as numbers -/

def integer? : Value → Option Int
  | .bool b => some (if b then 1 else 0)
  | .int n => some n
  | _ => none

/-- A number without its fraction. -/
def wholeNumber? : Value → Option Int
  | .float x => (Decimal.Binary.ofFloat x).truncate?
  | v => integer? v

def float? : Value → Option Float
  | .float x => some x
  | .notANumber _ => some (0.0 / 0.0)
  | v => do Decimal.ofInt? (← integer? v)

/-- The single code point that an argument is, or the number of which it is. -/
def codePoint? (v : Value) : Option CodePoint :=
  match v with
  | .text [p] => some p
  | .text _ => none
  | v => do
    let n ← integer? v
    if 0 ≤ n ∧ n < 0x110000 then some (.ofNat n.toNat) else none

/-! ## Layout -/

/-- What is to be laid out in a place: a body behind a sign and a mark of its base. Only in front of
a number there can be zeros. -/
structure Figure where
  sign : Text
  mark : Text
  body : Text
  isNumber : Bool

def Figure.ofText (t : Text) : Figure :=
  ⟨[], [], t, false⟩

/-- A number as a figure, given its digits without the sign. A sign that is not a minus is written
if the place has a flag for it. -/
def Figure.ofNumber (p : Place) (negative : Bool) (mark body : Text) : Figure :=
  let sign := if negative then "-" else if p.has '+' then "+" else if p.has ' ' then " " else ""
  ⟨sign, mark, body, true⟩

/-- A figure in as many characters as a width asks for. -/
def Figure.layOut (f : Figure) (p : Place) (width : Nat) : Text :=
  let text := f.sign ++ f.mark ++ f.body
  let missing := width - text.length
  if p.has '-' then text ++ List.replicate missing (.char ' ')
  else if f.isNumber && p.has '0' then f.sign ++ f.mark ++
    List.replicate missing (.char '0') ++ f.body
  else List.replicate missing (.char ' ') ++ text

/-! ## Forms -/

/-- Upper-case letters in place of lower-case ones, where that is wanted. -/
def shout (upper : Bool) (cs : List Char) : List Char :=
  if upper then cs.map Char.toUpper else cs

/-- An integer to a base, with at least `least` digits. One of too many decimal digits is
not shown. -/
def integerFigure? (p : Place) (base : Nat) (upper : Bool) (least : Nat) (n : Int) :
    Option Figure := do
  if base == 10 then let _ ← Numeral.decimal? n
  let ds := (Numeral.digits base n.natAbs).map Numeral.lowerDigit
  let mark :=
    if p.has '#' then (if base == 8 then "0o" else if base == 16 then "0x" else "") else ""
  return Figure.ofNumber p (n < 0) (.ofChars (shout upper mark.toList))
    (.ofChars (shout upper (Numeral.padZeros least ds)))

def floatFigure (p : Place) (upper : Bool) (written : String) : Figure :=
  match written.toList with
  | '-' :: cs => Figure.ofNumber p true [] (.ofChars (shout upper cs))
  | cs => Figure.ofNumber p false [] (.ofChars (shout upper cs))

/-- A float without a power of ten; `marked` keeps a point with nothing behind it. -/
def fixedText (places : Nat) (marked : Bool) (x : Float) : String :=
  Decimal.fixed places x ++ if marked && places == 0 && x.isFinite then "." else ""

/-- A code point as it is written with ASCII characters. -/
def asciiPoint : CodePoint → List Char
  | .char c =>
    if c.toNat < 0x80 then [c]
    else if c.toNat < 0x100 then Numeral.codePointEscape 'x' 2 c.toNat
    else if c.toNat < 0x10000 then Numeral.codePointEscape 'u' 4 c.toNat
    else Numeral.codePointEscape 'U' 8 c.toNat
  | .half n => Numeral.codePointEscape 'u' 4 (CodePoint.half n).toNat

/-- What a text that has room for `most` code points shows. -/
def textFigure (most : Option Nat) (t : Text) : Figure :=
  .ofText (match most with
    | some n => t.take n
    | none => t)

def figure? [NestingLimits] (p : Place) (precision : Option Nat) (d : Data) : Option Figure :=
  let places := precision.getD 6
  match p.form with
  | .plain => d.plain?.map (textFigure precision)
  | .full => d.full?.map fun s => textFigure precision s
  | .ascii => d.full?.map fun s =>
    textFigure precision (.ofChars ((Text.ofString s).flatMap asciiPoint))
  | .character => (codePoint? d.value).map fun c => .ofText [c]
  | .integer base upper => do
    let n ← if base == 10 then wholeNumber? d.value else integer? d.value
    integerFigure? p base upper (precision.getD 0) n
  | .scientific upper =>
    (float? d.value).map fun x => floatFigure p upper (Decimal.scientific places (p.has '#') x)
  | .fixed upper =>
    (float? d.value).map fun x => floatFigure p upper (fixedText places (p.has '#') x)
  | .general upper =>
    (float? d.value).map fun x => floatFigure p upper (Decimal.general places (p.has '#') x)

/-! ## Filling -/

/-- The number of a measure, and the supply behind it. -/
def measure? (s : Supply) : Option Measure → Option (Option Int × Supply)
  | none => some (none, s)
  | some (.number n) => some (some (n : Int), s)
  | some .argument => do
    let (d, s) ← s.next?
    let n ← integer? d.value
    if n.natAbs ≤ greatestMeasure then some (some n, s) else none

/-- The text of a place, and the supply behind it. A width below zero asks for the left side, and a
precision below zero is zero. -/
def fillPlace? [NestingLimits] (s : Supply) (p : Place) : Option (Text × Supply) := do
  let s ← s.forName? p.name
  let (width, s) ← measure? s p.width
  let (precision, s) ← measure? s p.precision
  let (d, s) ← s.next?
  let wide := width.getD 0
  let p := if wide < 0 then { p with flags := '-' :: p.flags } else p
  let f ← figure? p (precision.map Int.toNat) d
  return (f.layOut p wide.natAbs, s)

/-- The text of the pieces of a template. What a place has been given out of a mapping must be used
by it; other arguments must have been used at the end. -/
def fillPieces? [NestingLimits] (s : Supply) : List Piece → Option Text
  | [] => if s.ordered.isEmpty || s.named.isSome then some [] else none
  | .point p :: rest => (fillPieces? s rest).map (p :: ·)
  | .place p :: rest => do
    let (t, s) ← fillPlace? s p
    if s.named.isSome && !s.ordered.isEmpty then none
    return t ++ (← fillPieces? s rest)

def fill? [NestingLimits] (template : Text) (args : List Data) : Option Text := do
  fillPieces? (Supply.ofList args) (← Piece.ofText? template)

end Chip8.Template
