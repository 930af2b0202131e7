import Chip8.Opcode

/-!
# Listings

A listing shows the words of a stretch of memory as instructions, one line for every second address.
A word that is no instruction is shown as data, `DW` and the word. Making a listing leaves no trace
in the access log.
-/

namespace Chip8

/-- One line of a listing: the address of a word, its two bytes and its text. -/
structure Line where
  address : Int
  bytes : Text
  text : Text
  deriving DecidableEq

namespace Listing

def wordText (opcode address : Int) : String :=
  match Operation.decode opcode address with
  | .ok op => op.instruction.text
  | .error _ => "DW #" ++ Numeral.upperHex 4 opcode

def line (a : Int) (high low : UInt8) : Line :=
  ⟨a, Numeral.upperHex 2 high.toNat ++ " " ++ Numeral.upperHex 2 low.toNat,
   wordText (high.toNat * 256 + low.toNat) a⟩

/-- At most `count` lines from an address on, as far as words end inside the memory. -/
def lines (m : Memory) (a : Int) : Nat → Except MemoryError (List Line)
  | 0 => .ok []
  | count + 1 =>
    if m.contains (a + 1) then
      match m.peek a, m.peek (a + 1) with
      | .ok high, .ok low => (lines m (a + 2) count).map (line a high low :: ·)
      | .error e, _ => .error e
      | _, .error e => .error e
    else .ok []

/-- The lines of the words that begin in `length` bytes from an address on. -/
def ofRange (m : Memory) (start length : Int) : Except MemoryError (List Line) :=
  lines m start ((length + 1) / 2).toNat

end Listing

end Chip8
