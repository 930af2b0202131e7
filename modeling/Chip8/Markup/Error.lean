import Chip8.Numeral.Reader
import Chip8.Text.Utf8
import Chip8.Value.Moment

/-!
# What is wrong with a markup text

A text that breaks the rules of the markup is `malformed`, whatever the rule. Bytes need not even be
a text. The other errors are about scalars that have the right form but no value.
-/

namespace Chip8

/-- Why a markup text has no value. -/
inductive MarkupError where
  | malformed
  | encoding (e : Text.DecodeError)
  /-- An escape names a code point that there is not. -/
  | noSuchCharacter (code : Nat)
  /-- An integer or one of its parts is not a numeral. -/
  | numeral (e : Numeral.ReadError)
  /-- A float or one of its parts is not a number. -/
  | float (text : Text)
  /-- A part of a float in base sixty is worth more than the greatest float. -/
  | floatTooLarge
  /-- A date or moment is not in the calendar. -/
  | calendar (e : CalendarError)
  /-- A number is expected and nothing is there. -/
  | emptyNumber
  | notTruth (text : Text)
  | notMoment
  | mappingForMoment
  | tooDeep
  deriving DecidableEq

def MarkupError.message (file : Text) : MarkupError → Text
  | .malformed => "Invalid YAML in " ++ file
  | .encoding e => e.message
  | .noSuchCharacter _ => "chr() arg not in range(0x110000)"
  | .numeral e => e.message
  | .float text => "could not convert string to float: " ++ Text.quote text
  | .floatTooLarge => "int too large to convert to float"
  | .calendar e => e.message
  | .emptyNumber => "string index out of range"
  | .notTruth text => Text.quote text
  | .notMoment => "'NoneType' object has no attribute 'groupdict'"
  | .mappingForMoment => "expected string or bytes-like object, got 'list'"
  | .tooDeep => "maximum recursion depth exceeded"

/-- Whether an error is explained to the user of a launch. The others are about scalars that do not
come near to what their tags say; they end a launch as they are. -/
def MarkupError.isExplained : MarkupError → Bool
  | .malformed | .encoding _ | .numeral _ | .float _ | .calendar _ => true
  | .noSuchCharacter code => decide (code < 0x80000000)
  | .floatTooLarge | .emptyNumber | .notTruth _ | .notMoment | .mappingForMoment | .tooDeep => false

namespace Markup

abbrev Result := Except MarkupError

def malformed {α : Type} {m : Type → Type} [MonadExcept MarkupError m] : m α :=
  throw .malformed

end Markup

end Chip8
