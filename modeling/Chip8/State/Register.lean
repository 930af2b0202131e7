import Chip8.Numeral
import Chip8.State
import Chip8.Text

/-!
# Registers by name

Everything that shows or tests registers refers to them by name: `V0` to `VF`, `PC`, `SP`, `I`, `DT`
and `ST`. A `RegisterFile` is a list of names with values; that of a state is `State.registers`. A
`RegisterGroup` says which registers are shown together, and how many bits each of them has.
-/

namespace Chip8

abbrev RegisterFile := List (Text × Int)

def RegisterFile.get? (file : RegisterFile) (name : Text) : Option Int :=
  List.lookup name file

def Reg.name (x : Reg) : String :=
  "V" ++ Numeral.upperHex 1 x.val

/-- The registers of a state by name, in the order in which they are listed. -/
def State.registers (s : State) : RegisterFile :=
  ((List.finRange 16).map fun x => (Text.ofString (Reg.name x), s.v.get x)) ++
    ([("PC", s.pc), ("SP", s.sp), ("I", s.index), ("DT", s.delay), ("ST", s.sound)] : RegisterFile)

def registerNames : List Text :=
  ((List.finRange 16).map fun x => Text.ofString (Reg.name x)) ++
    (["PC", "SP", "I", "DT", "ST"] : List Text)

/-- Registers that are shown together, each with its width in bits. -/
structure RegisterGroup where
  title : Text
  registers : List (Text × Int)

def registerLayout : List RegisterGroup :=
  [⟨"General", (List.finRange 16).map fun x => (Reg.name x, 8)⟩,
   ⟨"Pointers", [("PC", 12), ("I", 16), ("SP", 8)]⟩,
   ⟨"Timers", [("DT", 8), ("ST", 8)]⟩]

end Chip8
