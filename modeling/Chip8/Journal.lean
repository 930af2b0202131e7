import Chip8.Note
import Chip8.Ring
import Chip8.Template

/-!
# The journal

A `Journal` keeps the latest lines of a log. A line is the time of day, the level and a text; a text
that comes with arguments is a template for them. A text whose places and arguments do not fit
together is not logged at all, and neither is one whose time is out of reach of the calendar.
-/

namespace Chip8

/-- The latest lines of a log; texts below the level `threshold` are left out. -/
structure Journal where
  threshold : Int
  lines : Ring Text

namespace Journal

/-- The first and the last year that times can lie in. -/
def firstYear : Int := -2147481748
def lastYear : Int := 2147483647

/-- The second at which a year begins, counted from the beginning of 1970. -/
def yearStart (year : Int) : Int :=
  (daysBefore year - daysBefore 1970) * 86400

/-- The time of day of a second since the beginning of 1970, in hours, minutes and seconds. -/
def timeOfDay? (second : Int) : Option String :=
  if yearStart firstYear ≤ second ∧ second < yearStart (lastYear + 1) then
    let n := (second % 86400).toNat
    some (Numeral.paddedDecimal 2 (n / 3600) ++ ":" ++
      Numeral.paddedDecimal 2 (n / 60 % 60) ++ ":" ++
      Numeral.paddedDecimal 2 (n % 60))
  else none

/-- The line of a text. Without arguments the text is taken as it is. -/
def line? [NestingLimits] (level : Int) (text : Text) (args : List Data) (second : Int) :
    Option Text := do
  let filled ← if args.isEmpty then some text else Template.fill? text args
  let time ← timeOfDay? second
  return Text.ofString (time ++ " [" ++ levelName level ++ "] ") ++ filled

def record [NestingLimits] (j : Journal) (level : Int) (text : Text) (args : List Data)
    (second : Int) : Journal :=
  if level < j.threshold then j
  else
    match line? level text args second with
    | some line => { j with lines := j.lines.push line }
    | none => j

def clear (j : Journal) : Journal :=
  { j with lines := j.lines.clear }

end Journal

end Chip8
