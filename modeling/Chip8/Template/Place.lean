import Chip8.Text

/-!
# Places in templates

A template is a text with places in it. A place begins with a percent sign and ends with the letter
of its form; between them can stand the name of an entry in parentheses, flags, a width, a precision
behind a point, and one letter without a meaning. Two percent signs are one percent sign of the
text. `Piece.ofText?` takes a template apart.
-/

namespace Chip8.Template

/-- How a place shows its argument. -/
inductive Form where
  | plain
  | full
  | ascii
  | character
  /-- As an integer to a base, the letters among its digits upper-case or not. -/
  | integer (base : Nat) (upper : Bool)
  /-- As a float with a power of ten, without one, or with one where that is shorter. -/
  | scientific (upper : Bool)
  | fixed (upper : Bool)
  | general (upper : Bool)
  deriving DecidableEq

def Form.ofLetter? : Char → Option Form
  | 's' => some .plain
  | 'r' => some .full
  | 'a' => some .ascii
  | 'c' => some .character
  | 'd' => some (.integer 10 false)
  | 'i' => some (.integer 10 false)
  | 'u' => some (.integer 10 false)
  | 'o' => some (.integer 8 false)
  | 'x' => some (.integer 16 false)
  | 'X' => some (.integer 16 true)
  | 'e' => some (.scientific false)
  | 'E' => some (.scientific true)
  | 'f' => some (.fixed false)
  | 'F' => some (.fixed true)
  | 'g' => some (.general false)
  | 'G' => some (.general true)
  | _ => none

/-- A number that is written in a template, or that the next argument gives. -/
inductive Measure where
  | number (n : Nat)
  | argument
  deriving DecidableEq

/-- A place for an argument. -/
structure Place where
  name : Option Text
  /-- The characters that stand for the wishes of the place, such as `-` for the left side. -/
  flags : List Char
  width : Option Measure
  precision : Option Measure
  form : Form

def Place.has (p : Place) (flag : Char) : Bool :=
  p.flags.contains flag

/-- A part of a template. -/
inductive Piece where
  | point (p : CodePoint)
  | place (p : Place)

/-- The characters at the front of a text that satisfy a condition, and the rest. -/
def spanChars (wanted : Char → Bool) : Text → List Char × Text
  | .char c :: rest =>
    if wanted c then
      let (cs, rest) := spanChars wanted rest
      (c :: cs, rest)
    else ([], .char c :: rest)
  | t => ([], t)

/-- The name at the front of a text up to the parenthesis that closes it, and the rest; `depth`
parentheses have been opened inside it. -/
def splitName? (depth : Nat) : Text → Option (Text × Text)
  | [] => none
  | p :: rest =>
    if p == .char ')' && depth == 0 then some ([], rest)
    else
      let depth := if p == .char '(' then depth + 1 else if p == .char ')' then depth - 1 else depth
      (splitName? depth rest).map fun (name, rest) => (p :: name, rest)

/-- The name in parentheses at the front of a text, if there is one, and the rest. -/
def splitParenthesis? : Text → Option (Option Text × Text)
  | .char '(' :: rest => (splitName? 0 rest).map fun (name, rest) => (some name, rest)
  | t => some (none, t)

def greatestMeasure : Nat := 0x7fffffff

/-- The number that digits stand for, unless it is too great. -/
def numberOf? (ds : List Char) : Option Nat :=
  let n := ds.foldl (fun n c => n * 10 + (c.toNat - '0'.toNat)) 0
  if n ≤ greatestMeasure then some n else none

/-- The measure at the front of a text, if there is one, and the rest. -/
def splitMeasure? : Text → Option (Option Measure × Text)
  | .char '*' :: rest => some (some .argument, rest)
  | t =>
    let (ds, rest) := spanChars Char.isDigit t
    if ds.isEmpty then some (none, t) else (numberOf? ds).map fun n => (some (.number n), rest)

/-- The precision at the front of a text, if there is one, and the rest. A point without digits
means zero. -/
def splitPrecision? : Text → Option (Option Measure × Text)
  | .char '.' :: rest =>
    (splitMeasure? rest).map fun (measure, rest) => (some (measure.getD (.number 0)), rest)
  | t => some (none, t)

/-- A text without a letter at its front that has no meaning. -/
def dropSizeLetter : Text → Text
  | .char c :: rest => if ['h', 'l', 'L'].contains c then rest else .char c :: rest
  | t => t

/-- The place at the front of a text, behind its percent sign, and the rest. -/
def splitPlace? (t : Text) : Option (Place × Text) := do
  let (name, t) ← splitParenthesis? t
  let (flags, t) := spanChars ['-', '+', ' ', '#', '0'].contains t
  let (width, t) ← splitMeasure? t
  let (precision, t) ← splitPrecision? t
  match dropSizeLetter t with
  | .char c :: rest => return (⟨name, flags, width, precision, ← Form.ofLetter? c⟩, rest)
  | _ => none

/-- The first `n` pieces of a template, if it consists of pieces. -/
def pieces? : Nat → Text → Option (List Piece)
  | 0, _ => some []
  | _, [] => some []
  | n + 1, .char '%' :: rest =>
    match rest with
    | .char '%' :: rest => (pieces? n rest).map (.point (.char '%') :: ·)
    | _ => do
      let (place, rest) ← splitPlace? rest
      return .place place :: (← pieces? n rest)
  | n + 1, p :: rest => (pieces? n rest).map (.point p :: ·)

/-- The pieces of a template; nothing if some place is not complete. -/
def Piece.ofText? (t : Text) : Option (List Piece) :=
  pieces? t.length t

end Chip8.Template
