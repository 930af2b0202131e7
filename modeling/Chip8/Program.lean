import Chip8.Memory
import Chip8.State

/-!
# Programs and where they are placed

A program is a list of bytes. What the memory holds before it runs is an `Image`: the bytes of the
interpreter, as far as they lie below the base address, and from there on the program. The bytes of
the interpreter begin with the glyphs of the sixteen hexadecimal digits. `check` says which base
addresses and lengths are possible.
-/

namespace Chip8.Program

/-- The glyphs of the digits 0 to F, five rows each. -/
def font : List UInt8 :=
  [0xF0, 0x90, 0x90, 0x90, 0xF0, 0x20, 0x60, 0x20, 0x20, 0x70,
   0xF0, 0x10, 0xF0, 0x80, 0xF0, 0xF0, 0x10, 0xF0, 0x10, 0xF0,
   0x90, 0x90, 0xF0, 0x10, 0x10, 0xF0, 0x80, 0xF0, 0x10, 0xF0,
   0xF0, 0x80, 0xF0, 0x90, 0xF0, 0xF0, 0x10, 0x20, 0x40, 0x40,
   0xF0, 0x90, 0xF0, 0x90, 0xF0, 0xF0, 0x90, 0xF0, 0x10, 0xF0,
   0xF0, 0x90, 0xF0, 0x90, 0x90, 0xE0, 0x90, 0xE0, 0x90, 0xE0,
   0xF0, 0x80, 0x80, 0x80, 0xF0, 0xE0, 0x90, 0x90, 0x90, 0xE0,
   0xF0, 0x80, 0xF0, 0x80, 0xF0, 0xF0, 0x80, 0xF0, 0x80, 0x80]

/-- The program that shows the sixteen digits in two rows and then loops. -/
def demo : List UInt8 :=
  [0x00, 0xE0, 0x60, 0x00, 0x61, 0x08, 0x62, 0x0C, 0xF0, 0x29, 0xD1, 0x25, 0x71, 0x06,
   0x70, 0x01, 0x30, 0x08, 0x12, 0x08, 0x61, 0x08, 0x62, 0x14, 0xF0, 0x29, 0xD1, 0x25,
   0x71, 0x06, 0x70, 0x01, 0x30, 0x10, 0x12, 0x18, 0x12, 0x24]

/-- Why a program cannot be loaded. -/
inductive LoadError where
  /-- The base address is not in memory. -/
  | badBase (base : Int)
  /-- The program does not fit behind the base address. -/
  | tooLarge (size capacity : Nat)
  deriving DecidableEq

def LoadError.message : LoadError → String
  | .badBase base => "Invalid base address: " ++ Numeral.markedHex 6 base
  | .tooLarge size capacity =>
    "Program too large to fit into memory: " ++ Numeral.decimal size ++ " bytes (max " ++
      Numeral.decimal capacity ++ " bytes)."

/-- The base address as a natural number, if it lies in memory. -/
def checkBase (base : Int) : Except LoadError Nat :=
  if 0 ≤ base ∧ base < Memory.standardSize then .ok base.toNat else .error (.badBase base)

/-- The base address, if a program fits into memory behind it. -/
def check (program : List UInt8) (base : Int) :
    Except LoadError { n : Nat // n + program.length ≤ Memory.standardSize } :=
  match checkBase base with
  | .error e => .error e
  | .ok n =>
    if h : n + program.length ≤ Memory.standardSize then .ok ⟨n, h⟩
    else .error (.tooLarge program.length (Memory.standardSize - n))

/-! ## Images -/

/-- What stands below programs that are placed where they usually are: the glyphs, and zeros. -/
def interpreter : List UInt8 :=
  font ++ List.replicate (programBase - font.length) 0

theorem length_interpreter : interpreter.length = programBase := by
  rw [interpreter, List.length_append, List.length_replicate]
  exact Nat.add_sub_of_le (by decide)

def zeros : List UInt8 :=
  List.replicate Memory.standardSize 0

theorem length_zeros : zeros.length = Memory.standardSize :=
  List.length_replicate

/-- The bytes of a whole memory with a program in it. -/
def placed (program : List UInt8) (base : Nat) : List UInt8 :=
  let bootstrap := interpreter.take base
  let image := Memory.overwrite zeros 0 bootstrap.length bootstrap
  Memory.overwrite image base (base + program.length) program

theorem length_bootstrap_le (base : Nat) : (interpreter.take base).length ≤ zeros.length := by
  rw [length_zeros]
  exact Nat.le_trans (List.length_take_le' base interpreter) (length_interpreter ▸ by decide)

/-- No slice of an image is shorter or longer than what is put in its place. -/
theorem length_placed {program : List UInt8} {base : Nat}
    (h : base + program.length ≤ Memory.standardSize) :
    (placed program base).length = Memory.standardSize := by
  have hlower := Memory.length_overwrite (Nat.zero_add _) (length_bootstrap_le base)
  rw [length_zeros] at hlower
  unfold placed
  rw [Memory.length_overwrite rfl (Nat.le_trans h (Nat.le_of_eq hlower.symm)), hlower]

/-- What a memory holds before anything is executed. It fits into the memory. A machine keeps its
image, and is reset from it, whatever has been written to the memory meanwhile. -/
structure Image where
  bytes : List UInt8
  fits : bytes.length ≤ Memory.standardSize
  deriving DecidableEq

namespace Image

theorem loadBytes_bytes (image : Image) :
    (Memory.blank (.number Memory.standardSize)).loadBytes 0 image.bytes =
      .ok { Memory.blank (.number Memory.standardSize) with
        cells := (Memory.overwrite zeros 0 image.bytes.length image.bytes).toArray } := by
  have hfits : 0 + image.bytes.length ≤
      (Memory.blank (.number Memory.standardSize)).cells.size := by
    show _ ≤ (Array.replicate Memory.standardSize (0 : UInt8)).size
    rw [Array.size_replicate, Nat.zero_add]
    exact image.fits
  have hload := Memory.loadBytes_of_le hfits
  rwa [Nat.zero_add] at hload

def memory (image : Image) : Memory :=
  match h : (Memory.blank (.number Memory.standardSize)).loadBytes 0 image.bytes with
  | .ok m => m
  | .error _ => nomatch image.loadBytes_bytes.symm.trans h

/-- Loading an image overwrites the cells from the first one on, and touches nothing else. -/
theorem memory_eq (image : Image) :
    image.memory = { Memory.blank (.number Memory.standardSize) with
      cells := (Memory.overwrite zeros 0 image.bytes.length image.bytes).toArray } := by
  unfold memory
  split
  next m hm => exact (Except.ok.inj (image.loadBytes_bytes.symm.trans hm)).symm
  next e he => exact absurd (image.loadBytes_bytes.symm.trans he) nofun

theorem size_memory (image : Image) : image.memory.cells.size = Memory.standardSize := by
  have hfits : image.bytes.length ≤ zeros.length := length_zeros ▸ image.fits
  rw [memory_eq, List.size_toArray, Memory.length_overwrite (Nat.zero_add _) hfits, length_zeros]

def ofProgram (program : List UInt8) (base : Nat)
    (h : base + program.length ≤ Memory.standardSize) : Image :=
  ⟨placed program base, Nat.le_of_eq (length_placed h)⟩

end Image

end Chip8.Program
