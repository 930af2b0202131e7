/-!
# Slots by number

The slots of a row are numbered from its front by 0, 1, … and from its end by -1, -2, …. Only
numbers of 64 bits are numbers of slots at all. A program never reaches beyond the rows of a
machine, but a machine can be set up from outside so that it does; a `SlotError` says so.
-/

namespace Chip8

/-- What a slot is looked up for. -/
inductive SlotUse where
  | reading
  | writing
  deriving DecidableEq

/-- Why a slot cannot be used. -/
inductive SlotError where
  /-- There is none of its number. -/
  | missing (use : SlotUse)
  /-- Its number is none of a slot. -/
  | tooFar
  deriving DecidableEq

def SlotError.message : SlotError → String
  | .missing .reading => "list index out of range"
  | .missing .writing => "list assignment index out of range"
  | .tooFar => "cannot fit 'int' into an index-sized integer"

/-- Whether a number has 64 bits, one of them for the sign. -/
def fitsWord (number : Int) : Bool :=
  -0x8000000000000000 ≤ number && number < 0x8000000000000000

def slot (use : SlotUse) (size : Nat) (number : Int) : Except SlotError (Fin size) :=
  let place := if number < 0 then number + size else number
  if h : 0 ≤ place ∧ place.toNat < size then .ok ⟨place.toNat, h.2⟩
  else .error (if fitsWord number then .missing use else .tooFar)

theorem slot_of_lt {size n : Nat} (use : SlotUse) (h : n < size) :
    slot use size (n : Int) = .ok ⟨n, h⟩ := by
  have hn : ¬ (n : Int) < 0 := by omega
  simp [slot, hn, h]

end Chip8
