import Chip8.Markup.Tag
import Chip8.Value.Moment

/-!
# Written dates and moments

A date is written `2001-12-14`, a moment as a date and a time of day, `2001-12-14 21:59:43.1 -5`.
The time may stand behind a `T` or behind blanks, may have a fraction of a second, and may end with
its distance from universal time, for which `Z` is none.
-/

namespace Chip8.Markup

/-- The numbers of a written date or moment. -/
structure Timestamp where
  year : Nat
  month : Nat
  day : Nat
  padded : Bool
  time : Option (Nat × Nat × Nat × Nat)
  offset : Option Int

namespace Timestamp

/-- Reads up to `most` digits, at least one: their number, how many they are, and the rest. -/
def number? (most : Nat) (cs : List Char) : Option (Nat × Nat × List Char) :=
  let ds := (cs.take most).takeWhile Char.isDigit
  if ds.isEmpty then none else some (numberOf 10 ds, ds.length, cs.drop ds.length)

/-- Reads exactly `count` digits. -/
def exactly? (count : Nat) (cs : List Char) : Option (Nat × List Char) :=
  match number? count cs with
  | some (n, k, rest) => if k == count then some (n, rest) else none
  | none => none

def sign? (c : Char) : List Char → Option (List Char)
  | [] => none
  | x :: rest => if x == c then some rest else none

/-- Reads the distance from universal time behind its sign, to the end of the text. -/
def distance? (cs : List Char) : Option Int := do
  let (hours, _, rest) ← number? 2 cs
  match rest with
  | [] => some (hours * 3600)
  | ':' :: rest =>
    let (minutes, rest) ← exactly? 2 rest
    if rest.isEmpty then some (hours * 3600 + minutes * 60) else none
  | _ => none

/-- Reads what may stand behind a time of day, to the end of the text. -/
def zone? (cs : List Char) : Option (Option Int) :=
  match cs with
  | [] => some none
  | _ =>
    match cs.dropWhile isBlank with
    | ['Z'] => some (some 0)
    | '+' :: rest => (distance? rest).map some
    | '-' :: rest => (distance? rest).map fun n => some (-n)
    | _ => none

/-- The microseconds of a fraction: its first six digits. -/
def microseconds (ds : List Char) : Nat :=
  numberOf 10 ((ds ++ List.replicate 6 '0').take 6)

def time? (cs : List Char) : Option ((Nat × Nat × Nat × Nat) × Option Int) := do
  let (hour, _, rest) ← number? 2 cs
  let (minute, rest) ← exactly? 2 (← sign? ':' rest)
  let (second, rest) ← exactly? 2 (← sign? ':' rest)
  let (fraction, rest) := match rest with
    | '.' :: after => (after.takeWhile Char.isDigit, after.dropWhile Char.isDigit)
    | rest => ([], rest)
  let zone ← zone? rest
  some ((hour, minute, second, microseconds fraction), zone)

/-- The text of a time of day behind a date: it stands behind a `T` or behind blanks. -/
def timeBody? (cs : List Char) : Option (List Char) :=
  match cs with
  | 'T' :: rest => some rest
  | 't' :: rest => some rest
  | c :: rest => if isBlank c then some (rest.dropWhile isBlank) else none
  | [] => none

def read? (cs : List Char) : Option Timestamp := do
  let (year, rest) ← exactly? 4 (Tag.withoutFinalBreak cs)
  let (month, monthDigits, rest) ← number? 2 (← sign? '-' rest)
  let (day, dayDigits, rest) ← number? 2 (← sign? '-' rest)
  let padded := monthDigits == 2 && dayDigits == 2
  if rest.isEmpty then some ⟨year, month, day, padded, none, none⟩
  else
    let (time, offset) ← time? (← timeBody? rest)
    some ⟨year, month, day, padded, some time, offset⟩

def date (t : Timestamp) : Except CalendarError Date :=
  Date.make t.year t.month t.day

/-- The value of a timestamp: a date, or a moment if it has a time of day. -/
def value (t : Timestamp) : Except CalendarError (Date ⊕ Moment) :=
  match t.time with
  | none => t.date.map .inl
  | some (hour, minute, second, microsecond) =>
    (Moment.make t.date hour minute second microsecond t.offset).map .inr

end Timestamp

/-- Whether a plain scalar has the form of a date or moment. A date alone needs two digits each for
month and day. -/
def Tag.isTimestamp (cs : List Char) : Bool :=
  (Timestamp.read? cs).any fun t => t.padded || t.time.isSome

/-- The tag of characters that are not marked as a string. -/
def Tag.ofChars (cs : List Char) : Tag :=
  let text := String.ofList cs
  if trueWords.contains text || falseWords.contains text then .bool
  else if isFloat cs then .float
  else if isInt cs then .int
  else if text == "<<" then .merge
  else if nullWords.contains text then .null
  else if isTimestamp cs then .timestamp
  else if text == "=" then .value
  else if ["!", "&", "*"].contains text then .other
  else .string

/-- The tag of a plain scalar. A line feed alone is a string, and so is everything that does not
consist of characters only. -/
def Tag.ofPlain (text : Text) : Tag :=
  match text.toChars? with
  | none => .string
  | some ['\n'] => .string
  | some cs => .ofChars (withoutFinalBreak cs)

end Chip8.Markup
