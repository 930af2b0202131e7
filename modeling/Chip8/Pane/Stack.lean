import Chip8.Settings

/-!
# The stack pane

The stack pane lists all sixteen slots of the call stack, the highest first. A slot in use shows its
return address, the uppermost of them with a pointer; the others show dashes.
-/

namespace Chip8

/-- A row of the stack pane: a slot, and the address it holds if it is in use. -/
structure StackRow where
  slot : Fin 16
  address : Option Int
  top : Bool
  deriving DecidableEq

namespace StackRow

def usedColor : Color := ⟨0xFF, 0xD7, 0x00⟩

def freeColor : Color := ⟨0x66, 0x66, 0x66⟩

def used (row : StackRow) : Bool :=
  row.address.isSome

def text (row : StackRow) : String :=
  "[" ++ Numeral.upperHex 1 row.slot.val ++ "] " ++
    match row.address with
    | some a => Numeral.upperHex 3 a ++ (if row.top then "  <- top" else "")
    | none => "---"

def color (row : StackRow) : Color :=
  if row.used then usedColor else freeColor

end StackRow

namespace StackPane

/-- The row of a slot for a list of return addresses, the oldest first. -/
def row (calls : List Int) (slot : Fin 16) : StackRow :=
  ⟨slot, calls[slot.val]?, slot.val + 1 == calls.length⟩

/-- The rows for a list of return addresses, the oldest first. -/
def rows (calls : List Int) : List StackRow :=
  (List.finRange 16).reverse.map (row calls)

end StackPane

end Chip8
