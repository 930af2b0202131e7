import Chip8.Listing

/-!
# The code pane

The code pane shows the lines of a listing that begins at the counter; the first of them, which is
executed next, is marked.
-/

namespace Chip8

/-- A row of the code pane. -/
structure CodeRow where
  address : String
  bytes : Text
  text : Text
  next : Bool
  deriving DecidableEq

namespace CodePane

def row (next : Bool) (l : Line) : CodeRow :=
  ⟨Numeral.upperHex 3 l.address, l.bytes, l.text, next⟩

def rows : List Line → List CodeRow
  | [] => []
  | l :: rest => row true l :: rest.map (row false)

end CodePane

end Chip8
