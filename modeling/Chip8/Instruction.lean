import Chip8.State.Register

/-!
# Instructions

The 34 instructions and how they are written: a mnemonic and operands. An operand that is an address
has three hexadecimal digits behind a `#`, a byte has two. The text of an instruction determines it.
-/

namespace Chip8

/-- An instruction. `x` and `y` are byte registers. -/
inductive Instruction where
  | clear
  | ret
  | jump (target : BitVec 12)
  | call (target : BitVec 12)
  | skipIfByte (x : Reg) (byte : UInt8)
  | skipUnlessByte (x : Reg) (byte : UInt8)
  | skipIfEqual (x y : Reg)
  | loadByte (x : Reg) (byte : UInt8)
  | addByte (x : Reg) (byte : UInt8)
  | copy (x y : Reg)
  | or (x y : Reg)
  | and (x y : Reg)
  | xor (x y : Reg)
  | add (x y : Reg)
  | sub (x y : Reg)
  | shiftRight (x : Reg)
  | subFrom (x y : Reg)
  | shiftLeft (x : Reg)
  | skipUnlessEqual (x y : Reg)
  | loadIndex (value : BitVec 12)
  | jumpOffset (target : BitVec 12)
  | random (x : Reg) (mask : UInt8)
  | draw (x y : Reg) (height : Fin 16)
  | skipIfKey (x : Reg)
  | skipUnlessKey (x : Reg)
  | readDelay (x : Reg)
  | awaitKey (x : Reg)
  | setDelay (x : Reg)
  | setSound (x : Reg)
  | addIndex (x : Reg)
  | glyph (x : Reg)
  | digits (x : Reg)
  | save (x : Reg)
  | restore (x : Reg)
  deriving DecidableEq

namespace Instruction

def addressText (a : BitVec 12) : String :=
  "#" ++ Numeral.upperHex 3 a.toNat

def byteText (b : UInt8) : String :=
  "#" ++ Numeral.upperHex 2 b.toNat

/-- The mnemonic and the operands of an instruction. -/
def parts : Instruction → String × List String
  | clear => ("CLS", [])
  | ret => ("RET", [])
  | jump a => ("JP", [addressText a])
  | call a => ("CALL", [addressText a])
  | skipIfByte x b => ("SE", [Reg.name x, byteText b])
  | skipUnlessByte x b => ("SNE", [Reg.name x, byteText b])
  | skipIfEqual x y => ("SE", [Reg.name x, Reg.name y])
  | loadByte x b => ("LD", [Reg.name x, byteText b])
  | addByte x b => ("ADD", [Reg.name x, byteText b])
  | copy x y => ("LD", [Reg.name x, Reg.name y])
  | or x y => ("OR", [Reg.name x, Reg.name y])
  | and x y => ("AND", [Reg.name x, Reg.name y])
  | xor x y => ("XOR", [Reg.name x, Reg.name y])
  | add x y => ("ADD", [Reg.name x, Reg.name y])
  | sub x y => ("SUB", [Reg.name x, Reg.name y])
  | shiftRight x => ("SHR", [Reg.name x])
  | subFrom x y => ("SUBN", [Reg.name x, Reg.name y])
  | shiftLeft x => ("SHL", [Reg.name x])
  | skipUnlessEqual x y => ("SNE", [Reg.name x, Reg.name y])
  | loadIndex a => ("LD", ["I", addressText a])
  | jumpOffset a => ("JP", ["V0", addressText a])
  | random x b => ("RND", [Reg.name x, byteText b])
  | draw x y n => ("DRW", [Reg.name x, Reg.name y, Numeral.decimal n.val])
  | skipIfKey x => ("SKP", [Reg.name x])
  | skipUnlessKey x => ("SKNP", [Reg.name x])
  | readDelay x => ("LD", [Reg.name x, "DT"])
  | awaitKey x => ("LD", [Reg.name x, "K"])
  | setDelay x => ("LD", ["DT", Reg.name x])
  | setSound x => ("LD", ["ST", Reg.name x])
  | addIndex x => ("ADD", ["I", Reg.name x])
  | glyph x => ("LD", ["F", Reg.name x])
  | digits x => ("LD", ["B", Reg.name x])
  | save x => ("LD", ["[I]", Reg.name x])
  | restore x => ("LD", [Reg.name x, "[I]"])

def mnemonic (i : Instruction) : String :=
  i.parts.1

def operands (i : Instruction) : List String :=
  i.parts.2

def text (i : Instruction) : String :=
  if i.operands.isEmpty then i.mnemonic
  else i.mnemonic ++ " " ++ String.intercalate ", " i.operands

end Instruction

end Chip8
