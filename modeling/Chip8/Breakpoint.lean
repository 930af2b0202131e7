import Chip8.Machine
import Chip8.State.Register

/-!
# Breakpoints

A breakpoint is a condition under which a run stops. One kind is tested before an instruction,
against the program counter; the others are tested after it, against the accesses it made and the
registers before and after it. A field that a kind does not use is left out, and so is a field that
nobody gave: a condition on a register that does not exist compares a missing value.
-/

namespace Chip8

/-- What a breakpoint is about. -/
inductive BreakpointKind where
  | atAddress
  | onRead
  | onWrite
  | registerValue
  | registerChange
  deriving DecidableEq

namespace BreakpointKind

/-- All kinds, in the order in which they are offered. -/
def all : List BreakpointKind :=
  [.atAddress, .onRead, .onWrite, .registerValue, .registerChange]

def label : BreakpointKind → String
  | .atAddress => "PC_MATCH"
  | .onRead => "MEMORY_READ"
  | .onWrite => "MEMORY_WRITE"
  | .registerValue => "REGISTER_VALUE"
  | .registerChange => "REGISTER_CHANGE"

def ofLabel? (s : String) : Option BreakpointKind :=
  all.find? (·.label == s)

end BreakpointKind

/-- A condition under which a run stops. -/
structure Breakpoint where
  kind : BreakpointKind
  address : Option Int
  register : Option Text
  value : Option Int
  enabled : Bool
  deriving DecidableEq

namespace Breakpoint

def onAddress (kind : BreakpointKind) (a : Int) : Breakpoint :=
  ⟨kind, some a, none, none, true⟩

def onValue (register : Text) (value : Int) : Breakpoint :=
  ⟨.registerValue, none, some register, some value, true⟩

def onChange (register : Text) : Breakpoint :=
  ⟨.registerChange, none, some register, none, true⟩

/-- The value that a breakpoint's register has in a register file, if it has one. -/
def registerIn (b : Breakpoint) (file : RegisterFile) : Option Int :=
  b.register.bind file.get?

/-- Whether a breakpoint stops a run before the instruction at the counter. -/
def hitsBefore (b : Breakpoint) (pc : Int) : Bool :=
  b.enabled && b.kind == .atAddress && b.address == some pc

/-- A breakpoint stops a run before an instruction if it is enabled and about the address of
the instruction. -/
theorem hitsBefore_iff (b : Breakpoint) (pc : Int) :
    b.hitsBefore pc = true ↔ b.enabled = true ∧ b.kind = .atAddress ∧ b.address = some pc := by
  unfold hitsBefore
  rw [Bool.and_eq_true, Bool.and_eq_true, beq_iff_eq, beq_iff_eq, and_assoc]

/-- Whether an access is a read of the cell that a breakpoint is about. -/
def readBy (b : Breakpoint) : Access → Bool
  | .read a _ => b.address == some a
  | .write _ _ _ => false

theorem readBy_iff (b : Breakpoint) (access : Access) :
    b.readBy access = true ↔ ∃ a value, access = .read a value ∧ b.address = some a := by
  cases access with
  | read a value => simp [readBy]
  | write a old new => simp [readBy]

/-- Whether an access is a write to the cell that a breakpoint is about. -/
def writtenBy (b : Breakpoint) : Access → Bool
  | .read _ _ => false
  | .write a _ _ => b.address == some a

theorem writtenBy_iff (b : Breakpoint) (access : Access) :
    b.writtenBy access = true ↔ ∃ a old new, access = .write a old new ∧ b.address = some a := by
  cases access with
  | read a value => simp [writtenBy]
  | write a old new => simp [writtenBy]

/-- Whether the condition of a breakpoint holds of an instruction, given the accesses it made and
the registers before and after it. -/
def holdsAfter (b : Breakpoint) (activity : List Access) (before after : RegisterFile) : Bool :=
  match b.kind with
  | .atAddress => false
  | .onRead => activity.any b.readBy
  | .onWrite => activity.any b.writtenBy
  | .registerValue => b.registerIn after == b.value
  | .registerChange => (b.registerIn after).isSome && b.registerIn before != b.registerIn after

/-- Whether a breakpoint stops a run after an instruction. -/
def hitsAfter (b : Breakpoint) (activity : List Access) (before after : RegisterFile) : Bool :=
  b.enabled && b.holdsAfter activity before after

end Breakpoint

end Chip8
