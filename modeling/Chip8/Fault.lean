import Chip8.Numeral

/-!
# Faults

A fault is what stops a machine for good: it can only be reset after one. There are four of them,
and each names the address of the instruction at which it arose.
-/

namespace Chip8

/-- Why a machine cannot go on. -/
inductive Fault where
  /-- The word is none of the instructions. -/
  | invalidOpcode (opcode address : Int)
  | stackOverflow (address : Int)
  | stackUnderflow (address : Int)
  /-- The program counter does not point at two bytes of memory. -/
  | outOfMemory (address : Int)
  deriving DecidableEq

namespace Fault

/-- The address of the instruction that a fault arose at. -/
def address : Fault → Int
  | .invalidOpcode _ a => a
  | .stackOverflow a => a
  | .stackUnderflow a => a
  | .outOfMemory a => a

def message : Fault → String
  | .invalidOpcode opcode a =>
    "Invalid opcode: " ++ Numeral.upperHex 4 opcode ++ " at " ++ Numeral.markedHex 5 a
  | .stackOverflow a => "Stack overflow at " ++ Numeral.markedHex 5 a
  | .stackUnderflow a => "Stack underflow at " ++ Numeral.markedHex 5 a
  | .outOfMemory a => "Program counter out of memory bounds: " ++ Numeral.markedHex 6 a

end Fault

end Chip8
