import Chip8.Fault
import Chip8.Instruction

/-!
# Opcodes

An opcode is an integer of which the low sixteen bits, its word, are looked at. The table `patterns`
says which words are instructions: a word belongs to a pattern if it equals `value` on the bits of
`mask`. An `Operation` is an opcode together with the address that it was found at and the
instruction that it stands for.
-/

namespace Chip8

/-- The sixteen bits that decide about an instruction. -/
abbrev Word := BitVec 16

namespace Word

def ofOpcode (opcode : Int) : Word :=
  BitVec.ofInt 16 opcode

def address (w : Word) : BitVec 12 :=
  w.extractLsb' 0 12

def byte (w : Word) : UInt8 :=
  ⟨w.extractLsb' 0 8⟩

/-- The lowest four bits. -/
def nibble (w : Word) : Fin 16 :=
  (w.extractLsb' 0 4).toFin

/-- The first register field. -/
def x (w : Word) : Reg :=
  (w.extractLsb' 8 4).toFin

def y (w : Word) : Reg :=
  (w.extractLsb' 4 4).toFin

end Word

/-- The words of one instruction form, and the instruction that each of them stands for. -/
structure Pattern where
  mask : Word
  value : Word
  form : Word → Instruction

def Pattern.matches (p : Pattern) (w : Word) : Bool :=
  w &&& p.mask == p.value

namespace Opcode

def patterns : List Pattern :=
  [⟨0xFFFF, 0x00E0, fun _ => .clear⟩,
   ⟨0xFFFF, 0x00EE, fun _ => .ret⟩,
   ⟨0xF000, 0x1000, fun w => .jump w.address⟩,
   ⟨0xF000, 0x2000, fun w => .call w.address⟩,
   ⟨0xF000, 0x3000, fun w => .skipIfByte w.x w.byte⟩,
   ⟨0xF000, 0x4000, fun w => .skipUnlessByte w.x w.byte⟩,
   ⟨0xF00F, 0x5000, fun w => .skipIfEqual w.x w.y⟩,
   ⟨0xF000, 0x6000, fun w => .loadByte w.x w.byte⟩,
   ⟨0xF000, 0x7000, fun w => .addByte w.x w.byte⟩,
   ⟨0xF00F, 0x8000, fun w => .copy w.x w.y⟩,
   ⟨0xF00F, 0x8001, fun w => .or w.x w.y⟩,
   ⟨0xF00F, 0x8002, fun w => .and w.x w.y⟩,
   ⟨0xF00F, 0x8003, fun w => .xor w.x w.y⟩,
   ⟨0xF00F, 0x8004, fun w => .add w.x w.y⟩,
   ⟨0xF00F, 0x8005, fun w => .sub w.x w.y⟩,
   ⟨0xF00F, 0x8006, fun w => .shiftRight w.x⟩,
   ⟨0xF00F, 0x8007, fun w => .subFrom w.x w.y⟩,
   ⟨0xF00F, 0x800E, fun w => .shiftLeft w.x⟩,
   ⟨0xF00F, 0x9000, fun w => .skipUnlessEqual w.x w.y⟩,
   ⟨0xF000, 0xA000, fun w => .loadIndex w.address⟩,
   ⟨0xF000, 0xB000, fun w => .jumpOffset w.address⟩,
   ⟨0xF000, 0xC000, fun w => .random w.x w.byte⟩,
   ⟨0xF000, 0xD000, fun w => .draw w.x w.y w.nibble⟩,
   ⟨0xF0FF, 0xE09E, fun w => .skipIfKey w.x⟩,
   ⟨0xF0FF, 0xE0A1, fun w => .skipUnlessKey w.x⟩,
   ⟨0xF0FF, 0xF007, fun w => .readDelay w.x⟩,
   ⟨0xF0FF, 0xF00A, fun w => .awaitKey w.x⟩,
   ⟨0xF0FF, 0xF015, fun w => .setDelay w.x⟩,
   ⟨0xF0FF, 0xF018, fun w => .setSound w.x⟩,
   ⟨0xF0FF, 0xF01E, fun w => .addIndex w.x⟩,
   ⟨0xF0FF, 0xF029, fun w => .glyph w.x⟩,
   ⟨0xF0FF, 0xF033, fun w => .digits w.x⟩,
   ⟨0xF0FF, 0xF055, fun w => .save w.x⟩,
   ⟨0xF0FF, 0xF065, fun w => .restore w.x⟩]

/-- The first pattern of a table that an opcode belongs to. -/
def findIn (table : List Pattern) (opcode : Int) : Option Pattern :=
  table.find? (·.matches (Word.ofOpcode opcode))

def find? (opcode : Int) : Option Pattern :=
  findIn patterns opcode

/-- The instruction that an opcode stands for, if any. -/
def instruction? (opcode : Int) : Option Instruction :=
  (find? opcode).map (·.form (Word.ofOpcode opcode))

end Opcode

/-- An opcode found at an address, and the instruction that it stands for. -/
structure Operation where
  opcode : Int
  address : Int
  instruction : Instruction
  deriving DecidableEq

namespace Operation

/-- The operation of an opcode that a pattern was found for. -/
def ofPattern (p : Pattern) (opcode address : Int) : Operation :=
  ⟨opcode, address, p.form (Word.ofOpcode opcode)⟩

/-- Decodes an opcode; one that belongs to no pattern is a fault. -/
def decode (opcode address : Int) : Except Fault Operation :=
  match Opcode.find? opcode with
  | some p => .ok (ofPattern p opcode address)
  | none => .error (.invalidOpcode opcode address)

def word (op : Operation) : Word :=
  Word.ofOpcode op.opcode

/-- The opcode in at least four hexadecimal digits. -/
def hexText (op : Operation) : String :=
  Numeral.upperHex 4 op.opcode

/-- An operation with its address, as it stands in a history. -/
def symbol (op : Operation) : String :=
  Numeral.upperHex 3 op.address ++ ": " ++ op.instruction.text

end Operation

end Chip8
