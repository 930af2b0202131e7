import Chip8.Memory
import Chip8.Screen
import Chip8.Slot

/-!
# The state of a machine

A `State` is all that an instruction can read or change: memory, program counter, the sixteen
registers, the index register, the call stack, the two timers, the screen, the keys and whether the
machine is waiting for a key. Numbers are not bounded, so that a jump or an addition that leaves the
memory is seen for what it is at the next access, and so that a state can be set up at will.
`WellFormed` says what every state that a loaded machine comes to satisfies; in particular its
registers hold bytes.
-/

namespace Chip8

abbrev Reg := Fin 16

/-- The register that takes carries, borrows and collisions. -/
def flagReg : Reg := 15

/-- The register that is added to the target of a jump with an offset. -/
def offsetReg : Reg := 0

/-- The address at which programs are usually placed. -/
def programBase : Nat := 0x200

/-- The number of calls that can be open at a time. -/
def stackDepth : Nat := 16

/-- What instructions work on. -/
structure State where
  memory : Memory
  pc : Int
  /-- The registers, each of which holds a byte, unless a timer or a register was set
  from outside. -/
  v : Vector Int 16
  /-- The index register, called `I` in programs. -/
  index : Int
  /-- The slots of the call stack; the first `sp` of them hold return addresses. -/
  stack : Vector Int 16
  sp : Int
  delay : Int
  sound : Int
  screen : Screen
  keys : Vector Bool 16
  /-- The number of the register that the next key press goes to, while the machine waits
  for one. -/
  awaiting : Option Int
  cycles : Int

namespace State

/-- The state of a machine that has not executed anything: all is zero but the memory and
the counter. -/
def start (memory : Memory) (pc : Int) : State where
  memory := memory
  pc := pc
  v := Vector.replicate 16 0
  index := 0
  stack := Vector.replicate 16 0
  sp := 0
  delay := 0
  sound := 0
  screen := Screen.blank
  keys := Vector.replicate 16 false
  awaiting := none
  cycles := 0

/-- The same state with an empty access log, as it is kept in records. -/
def quiet (s : State) : State :=
  { s with memory := s.memory.clearLog }

def setReg (s : State) (x : Reg) (value : Int) : State :=
  { s with v := s.v.set x value }

/-- Setting a register leaves the others alone. -/
theorem get_setReg (s : State) (x r : Reg) (value : Int) :
    (s.setReg x value).v.get r = if r = x then value else s.v.get r := by
  show (s.v.set x value)[r.val] = _
  rw [Vector.getElem_set]
  by_cases h : r = x
  · rw [if_pos h, if_pos (congrArg Fin.val h.symm)]
  · rw [if_neg h, if_neg fun heq => h (Fin.ext heq.symm)]
    rfl

def setFlag (s : State) (on : Bool) : State :=
  s.setReg flagReg (if on then 1 else 0)

/-- The return addresses of the open calls, the outermost first. A negative stack pointer is counted
from the end. -/
def calls (s : State) : List Int :=
  s.stack.toList.take (if s.sp < 0 then s.sp + stackDepth else s.sp).toNat

def heldKeys (s : State) : List (Fin 16) :=
  (List.finRange 16).filter fun code => s.keys.get code

/-- Whether a key is held down; a code above fifteen names no key. -/
def keyDown (s : State) (code : Int) : Except SlotError Bool :=
  if 16 ≤ code then .ok false else (slot .reading 16 code).map fun k => s.keys.get k

/-- What every state of a loaded machine satisfies. -/
structure WellFormed (s : State) : Prop where
  cells : s.memory.cells.size = Memory.standardSize
  v_nonneg : ∀ x : Reg, 0 ≤ s.v.get x
  v_le : ∀ x : Reg, s.v.get x ≤ 0xFF
  sp_nonneg : 0 ≤ s.sp
  sp_le : s.sp ≤ stackDepth
  calls : ∀ a ∈ s.calls, 2 ≤ a ∧ a ≤ 0x1000
  pc_nonneg : 0 ≤ s.pc
  pc_le : s.pc ≤ 0x10FE
  index_nonneg : 0 ≤ s.index
  index_le : s.index ≤ 0xFFF + 255 * s.cycles
  delay_nonneg : 0 ≤ s.delay
  delay_le : s.delay ≤ 0xFF
  sound_nonneg : 0 ≤ s.sound
  sound_le : s.sound ≤ 0xFF
  cycles_nonneg : 0 ≤ s.cycles
  awaiting_lt : ∀ x ∈ s.awaiting, 0 ≤ x ∧ x < 16

end State

end Chip8
