import Chip8.Bits
import Chip8.Dice
import Chip8.Opcode
import Chip8.PackedDecimal

/-!
# Executing instructions

`Instruction.execute` is the meaning of each instruction. When it runs, the program counter already
points behind the instruction. Sums, differences and doubled values wrap around at 256. An addition
writes its result first and the carry after it; the other arithmetic instructions write the flag
first and compute with the registers as they are then, which matters where an operand is the flag
register. Blocks of memory that reach beyond the end read as zero there and are not written there. A
return takes the stack pointer back before it looks into the slot.

Registers that hold bytes go on holding bytes, and a stack pointer from zero to sixteen stays
there. A state that was set up otherwise can lead to a `Mishap`, which leaves what the instruction
had done before. What is left with or without success is `State.left`, and beside it stand equations
that say which fields a skip, a call or a return can change, so that any other field is carried over
by taking it on both sides.
-/

namespace Chip8

/-- What can go wrong with a state that was set up from outside, and only with such a one. -/
inductive Mishap where
  | slot (e : SlotError)
  /-- A value does not fit into a cell, or there is no cell. -/
  | memory (e : MemoryError)
  deriving DecidableEq

def Mishap.message : Mishap → String
  | .slot e => e.message
  | .memory e => e.message

/-- Why an instruction was not executed. -/
inductive InstructionError where
  | fault (f : Fault)
  | mishap (m : Mishap) (left : State)

/-- The state that an instruction leaves which was not executed. -/
def InstructionError.leave : InstructionError → State → State
  | .fault _, s => s
  | .mishap _ left, _ => left

namespace State

/-- Passes over the next instruction if a condition holds. -/
def skipIf (s : State) (condition : Bool) : State :=
  if condition then { s with pc := s.pc + 2 } else s

/-- Passes over the next instruction if the key that a register names is held down, or if it
is not. -/
def skipOnKey (s : State) (x : Reg) (down : Bool) : Except InstructionError State :=
  match s.keyDown (s.v.get x) with
  | .ok held => .ok (s.skipIf (held == down))
  | .error e => .error (.mishap (.slot e) s)

/-- Adds two registers into the first, then sets the flag to the carry. -/
def addRegs (s : State) (x y : Reg) : State :=
  (s.setReg x ((s.v.get x + s.v.get y) % 0x100)).setFlag (decide (0xFF < s.v.get x + s.v.get y))

/-- Sets the flag unless a borrow is needed, then subtracts the second register from the first. -/
def subRegs (s : State) (x y : Reg) : State :=
  let s := s.setFlag (decide (s.v.get y ≤ s.v.get x))
  s.setReg x ((s.v.get x - s.v.get y) % 0x100)

/-- Sets the flag unless a borrow is needed, then subtracts the first register from the second, into
the first. -/
def subRegsFrom (s : State) (x y : Reg) : State :=
  let s := s.setFlag (decide (s.v.get x ≤ s.v.get y))
  s.setReg x ((s.v.get y - s.v.get x) % 0x100)

/-- Sets the flag to the lowest bit of a register, then halves the register. -/
def shiftRight (s : State) (x : Reg) : State :=
  let s := s.setFlag (Bits.bit (s.v.get x) 0 == 1)
  s.setReg x (s.v.get x / 2)

/-- Sets the flag to the highest bit of the byte in a register, then doubles the register. -/
def shiftLeft (s : State) (x : Reg) : State :=
  let s := s.setFlag (Bits.bit (s.v.get x) 7 == 1)
  s.setReg x (s.v.get x * 2 % 0x100)

/-- Draws a sprite from memory at a place given by two registers, and sets the flag on a
collision. -/
def drawSprite (s : State) (x y : Reg) (height : Nat) : State :=
  let (bytes, memory) := s.memory.fetchBlock s.index height
  let (screen, hit) :=
    s.screen.draw (s.v.get x % screenWidth).toNat (s.v.get y % screenHeight).toNat bytes
  { s with memory := memory, screen := screen }.setFlag hit

/-- Adds a register to the index register and sets the flag if the sum lies beyond the memory. -/
def addToIndex (s : State) (x : Reg) : State :=
  let index := s.index + s.v.get x
  { s with index := index }.setFlag (decide (s.memory.cells.size ≤ index))

/-- Writes the three decimal digits of the byte in a register to memory. -/
def storeDigits (s : State) (x : Reg) : State :=
  let digits := (PackedDecimal.ofByte (s.v.get x)).map UInt8.ofNat
  { s with memory := s.memory.storeBlock s.index digits }

def saveRegs (s : State) (x : Reg) : Except InstructionError State :=
  match s.memory.storeValues s.index (s.v.toList.take (x.val + 1)) with
  | (.ok (), memory) => .ok { s with memory := memory }
  | (.error e, memory) => .error (.mishap (.memory e) { s with memory := memory })

def restoreRegs (s : State) (x : Reg) : State :=
  let (bytes, memory) := s.memory.fetchBlock s.index (x.val + 1)
  { s with memory := memory, v := Vector.ofFn fun i =>
    (bytes.map (·.toNat : UInt8 → Int)).getD i.val (s.v.get i) }

/-- Opens a call: the counter goes on the stack, which must have a free slot. -/
def enter (s : State) (target address : Int) : Except InstructionError State :=
  if stackDepth ≤ s.sp then .error (.fault (.stackOverflow address))
  else
    match slot .writing 16 s.sp with
    | .ok top =>
      .ok { s with stack := s.stack.setIfInBounds top s.pc, sp := s.sp + 1, pc := target }
    | .error e => .error (.mishap (.slot e) s)

/-- Closes the innermost call, which must exist: the counter comes from the stack. -/
def leave (s : State) (address : Int) : Except InstructionError State :=
  if s.sp == 0 then .error (.fault (.stackUnderflow address))
  else
    let s := { s with sp := s.sp - 1 }
    match slot .reading 16 s.sp with
    | .ok top => .ok { s with pc := s.stack.get top }
    | .error e => .error (.mishap (.slot e) s)

/-! ## What updates leave alone -/

section

variable {s s' : State}

theorem skipIf_eq (s : State) (condition : Bool) :
    s.skipIf condition = { s with pc := (s.skipIf condition).pc } := by
  unfold skipIf
  split
  · rfl
  · rfl

/-- The state that is left, with or without success. -/
def left (s : State) : Except InstructionError State → State
  | .ok s' => s'
  | .error e => e.leave s

theorem skipOnKey_left (s : State) (x : Reg) (down : Bool) :
    s.left (s.skipOnKey x down) = { s with pc := (s.left (s.skipOnKey x down)).pc } := by
  unfold skipOnKey
  cases s.keyDown (s.v.get x) with
  | ok held => exact skipIf_eq ..
  | error e => rfl

theorem enter_left (s : State) (target address : Int) :
    s.left (s.enter target address) =
      { s with
        stack := (s.left (s.enter target address)).stack
        sp := (s.left (s.enter target address)).sp
        pc := (s.left (s.enter target address)).pc } := by
  unfold enter
  split
  · rfl
  · cases slot .writing 16 s.sp with
    | ok top => rfl
    | error e => rfl

theorem leave_left (s : State) (address : Int) :
    s.left (s.leave address) =
      { s with sp := (s.left (s.leave address)).sp, pc := (s.left (s.leave address)).pc } := by
  unfold leave
  split
  · rfl
  · dsimp only
    cases slot .reading 16 (s.sp - 1) with
    | ok top => rfl
    | error e => rfl

theorem saveRegs_left (s : State) (x : Reg) :
    s.left (s.saveRegs x) = { s with memory := (s.left (s.saveRegs x)).memory } := by
  unfold saveRegs
  cases s.memory.storeValues s.index (s.v.toList.take (x.val + 1)) with
  | mk result memory =>
    cases result with
    | ok done => rfl
    | error e => rfl

/-! What is left with success is what is left. -/

theorem skipOnKey_eq {x : Reg} {down : Bool} (h : s.skipOnKey x down = .ok s') :
    s' = { s with pc := s'.pc } := by
  have hleft := s.skipOnKey_left x down
  rwa [h] at hleft

theorem enter_eq {target address : Int} (h : s.enter target address = .ok s') :
    s' = { s with stack := s'.stack, sp := s'.sp, pc := s'.pc } := by
  have hleft := s.enter_left target address
  rwa [h] at hleft

theorem leave_eq {address : Int} (h : s.leave address = .ok s') :
    s' = { s with sp := s'.sp, pc := s'.pc } := by
  have hleft := s.leave_left address
  rwa [h] at hleft

end

end State

/-- What an instruction does to a state and to the dice. Only a call on a full stack and a return on
an empty one fail, with the address of the instruction, unless the state was set up from outside. -/
def Instruction.execute (i : Instruction) (address : Int) (s : State) (d : Dice) :
    Except InstructionError (State × Dice) :=
  match i with
  | clear => .ok ({ s with screen := Screen.blank }, d)
  | ret => (s.leave address).map (·, d)
  | jump a => .ok ({ s with pc := a.toNat }, d)
  | call a => (s.enter a.toNat address).map (·, d)
  | skipIfByte x b => .ok (s.skipIf (s.v.get x == b.toNat), d)
  | skipUnlessByte x b => .ok (s.skipIf (s.v.get x != b.toNat), d)
  | skipIfEqual x y => .ok (s.skipIf (s.v.get x == s.v.get y), d)
  | loadByte x b => .ok (s.setReg x b.toNat, d)
  | addByte x b => .ok (s.setReg x ((s.v.get x + b.toNat) % 0x100), d)
  | copy x y => .ok (s.setReg x (s.v.get y), d)
  | or x y => .ok (s.setReg x (Bits.or (s.v.get x) (s.v.get y)), d)
  | and x y => .ok (s.setReg x (Bits.and (s.v.get x) (s.v.get y)), d)
  | xor x y => .ok (s.setReg x (Bits.xor (s.v.get x) (s.v.get y)), d)
  | add x y => .ok (s.addRegs x y, d)
  | sub x y => .ok (s.subRegs x y, d)
  | shiftRight x => .ok (s.shiftRight x, d)
  | subFrom x y => .ok (s.subRegsFrom x y, d)
  | shiftLeft x => .ok (s.shiftLeft x, d)
  | skipUnlessEqual x y => .ok (s.skipIf (s.v.get x != s.v.get y), d)
  | loadIndex a => .ok ({ s with index := a.toNat }, d)
  | jumpOffset a => .ok ({ s with pc := a.toNat + s.v.get offsetReg }, d)
  | random x mask =>
    let (b, d) := d.draw
    .ok (s.setReg x (b &&& mask).toNat, d)
  | draw x y height => .ok (s.drawSprite x y height.val, d)
  | skipIfKey x => (s.skipOnKey x true).map (·, d)
  | skipUnlessKey x => (s.skipOnKey x false).map (·, d)
  | readDelay x => .ok (s.setReg x s.delay, d)
  | awaitKey x => .ok ({ s with awaiting := some x.val }, d)
  | setDelay x => .ok ({ s with delay := s.v.get x }, d)
  | setSound x => .ok ({ s with sound := s.v.get x }, d)
  | addIndex x => .ok (s.addToIndex x, d)
  | glyph x => .ok ({ s with index := s.v.get x * 5 }, d)
  | digits x => .ok (s.storeDigits x, d)
  | save x => (s.saveRegs x).map (·, d)
  | restore x => .ok (s.restoreRegs x, d)

namespace Operation

/-- Executes an operation from its opcode, looking the pattern up again. -/
def execute (op : Operation) (s : State) (d : Dice) : Except InstructionError (State × Dice) :=
  match Opcode.find? op.opcode with
  | some p => (p.form op.word).execute op.address s d
  | none => .error (.fault (.invalidOpcode op.opcode op.address))

/-- Decodes and executes an opcode with a single look at the table. -/
def dispatch (opcode address : Int) (s : State) (d : Dice) :
    Except InstructionError (Operation × State × Dice) :=
  match Opcode.find? opcode with
  | some p =>
    let op := ofPattern p opcode address
    (op.instruction.execute address s d).map (op, ·)
  | none => .error (.fault (.invalidOpcode opcode address))

end Operation

end Chip8
