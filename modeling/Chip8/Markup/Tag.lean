import Chip8.Markup.Token.Word
import Chip8.Text.Blank

/-!
# Tags

The tag of a node says what kind of data it is. Most nodes have none of their own: the tag of a
sequence or mapping is then clear, and that of a plain scalar follows from its form, as given by
`Tag.ofPlain`. The forms are tried in a fixed order, and a scalar that has none of them is a string.
-/

namespace Chip8.Markup

/-- A kind of data. -/
inductive Tag where
  | null
  | bool
  | int
  | float
  | timestamp
  | binary
  | string
  | sequence
  | mapping
  | set
  /-- A sequence of mappings with one entry each, all of them different. -/
  | orderedMap
  | pairs
  | merge
  | value
  /-- A kind that is not known. -/
  | other
  deriving DecidableEq

namespace Tag

def space : String := "tag:yaml.org,2002:"

def names : List (String × Tag) :=
  [("null", .null), ("bool", .bool), ("int", .int), ("float", .float), ("timestamp", .timestamp),
   ("binary", .binary), ("str", .string), ("seq", .sequence), ("map", .mapping), ("set", .set),
   ("omap", .orderedMap), ("pairs", .pairs), ("merge", .merge), ("value", .value)]

def ofName (name : String) : Tag :=
  ((names.find? fun entry => space ++ entry.1 == name).map (·.2)).getD .other

def isScalar : Tag → Bool
  | .null | .bool | .int | .float | .timestamp | .binary | .string => true
  | _ => false

/-! ## The forms of plain scalars -/

/-- A text without the line feed at its end, if there is one: it does not count for the form of
a scalar. -/
def withoutFinalBreak (cs : List Char) : List Char :=
  if cs.getLast? == some '\n' then cs.dropLast else cs

def trueWords : List String :=
  ["yes", "Yes", "YES", "true", "True", "TRUE", "on", "On", "ON"]

def falseWords : List String :=
  ["no", "No", "NO", "false", "False", "FALSE", "off", "Off", "OFF"]

/-- Words for nothing. -/
def nullWords : List String :=
  ["~", "null", "Null", "NULL", ""]

/-- Whether a character is a digit or an underscore. -/
def isDigitOrLine (c : Char) : Bool :=
  c.isDigit || c == '_'

/-- Whether a text is a digit followed by digits and underscores. -/
def isRun : List Char → Bool
  | [] => false
  | c :: rest => c.isDigit && rest.all isDigitOrLine

/-- The text behind a sign, if there is one. -/
def unsigned : List Char → List Char
  | '+' :: rest => rest
  | '-' :: rest => rest
  | cs => cs

/-- Whether a text is an exponent: a sign must be there. -/
def isExponent : List Char → Bool
  | 'e' :: rest => isSigned rest
  | 'E' :: rest => isSigned rest
  | _ => false
where
  isSigned : List Char → Bool
    | '+' :: ds => !ds.isEmpty && ds.all Char.isDigit
    | '-' :: ds => !ds.isEmpty && ds.all Char.isDigit
    | _ => false

/-- Whether a text is nothing or an exponent. -/
def isExponentOrNothing (cs : List Char) : Bool :=
  cs.isEmpty || isExponent cs

/-- Whether a text is a number from 0 to 59 in one or two digits. -/
def isSixtieth : List Char → Bool
  | [c] => c.isDigit
  | [c, d] => '0' ≤ c && c ≤ '5' && d.isDigit
  | _ => false

/-- Whether a text is one or more numbers below sixty, with a colon before each. -/
def areSixtieths (cs : List Char) : Bool :=
  match cs with
  | ':' :: rest => (rest.splitOn ':').all isSixtieth
  | _ => false

/-- Whether a text has the form of a float without a sign that begins with a digit. -/
def isFloatBody (cs : List Char) : Bool :=
  match cs with
  | [] => false
  | c :: _ =>
    c.isDigit &&
      match (cs.dropWhile isDigitOrLine) with
      | '.' :: rest => isExponentOrNothing (rest.dropWhile isDigitOrLine)
      | rest =>
        match rest.dropWhile (· != '.') with
        | '.' :: places => areSixtieths (rest.takeWhile (· != '.')) && places.all isDigitOrLine
        | _ => false

def isFloat (cs : List Char) : Bool :=
  isFloatBody (unsigned cs) ||
    (match cs with
      | '.' :: c :: rest => c.isDigit && isExponentOrNothing (rest.dropWhile isDigitOrLine)
      | _ => false) ||
    [".inf", ".Inf", ".INF"].contains (String.ofList (unsigned cs)) ||
    [".nan", ".NaN", ".NAN"].contains (String.ofList cs)

/-- Whether a text is not empty and consists of the characters of a class and underscores. -/
def isRunOf (p : Char → Bool) (cs : List Char) : Bool :=
  !cs.isEmpty && cs.all fun c => p c || c == '_'

/-- Whether a text has the form of an integer without a sign. -/
def isIntBody (cs : List Char) : Bool :=
  match cs with
  | ['0'] => true
  | '0' :: 'b' :: ds => isRunOf (fun c => c == '0' || c == '1') ds
  | '0' :: 'x' :: ds => isRunOf isHexDigit ds
  | '0' :: ds => isRunOf (fun c => '0' ≤ c && c ≤ '7') ds
  | _ =>
    isRun (cs.takeWhile (· != ':')) &&
      (!cs.contains ':' || areSixtieths (cs.dropWhile (· != ':')))

def isInt (cs : List Char) : Bool :=
  isIntBody (unsigned cs)

end Tag

end Chip8.Markup
