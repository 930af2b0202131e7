import Chip8.Text

/-!
# Dialogs

A dialog tells the user about something that went wrong.
-/

namespace Chip8

/-- How a dialog looks. -/
inductive DialogKind where
  | warning
  | critical
  deriving DecidableEq

def DialogKind.label : DialogKind → String
  | .warning => "warning"
  | .critical => "critical"

/-- A message to the user. -/
structure Dialog where
  kind : DialogKind
  title : String
  text : Text
  deriving DecidableEq

end Chip8
