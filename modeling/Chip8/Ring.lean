import Chip8.Slot

/-!
# Rings

A `Ring` keeps the latest items of a sequence, at most `capacity` of them: `push` appends an item
and drops the oldest ones that no longer fit.
-/

namespace Chip8

/-- The latest items of a sequence, the oldest first. -/
structure Ring (α : Type) where
  capacity : Nat
  items : List α
  deriving Inhabited

/-- Why a number is no capacity. -/
inductive CapacityError where
  | negative
  /-- The number does not fit into a word. -/
  | tooLarge
  deriving DecidableEq

namespace Ring

/-- A ring without items. -/
def empty {α : Type} (capacity : Nat) : Ring α :=
  ⟨capacity, []⟩

/-- A ring without items for a capacity that may turn out to be none. -/
def ofCapacity {α : Type} (n : Int) : Except CapacityError (Ring α) :=
  if !fitsWord n then .error .tooLarge
  else if n < 0 then .error .negative
  else .ok (empty n.toNat)

/-- Appends an item; the oldest items make room for it. -/
def push {α : Type} (r : Ring α) (x : α) : Ring α :=
  let items := r.items ++ [x]
  { r with items := items.drop (items.length - r.capacity) }

def clear {α : Type} (r : Ring α) : Ring α :=
  { r with items := [] }

def last? {α : Type} (r : Ring α) : Option α :=
  r.items.getLast?

theorem items_push {α : Type} (r : Ring α) (x : α) :
    (r.push x).items = (r.items ++ [x]).drop (r.items.length + 1 - r.capacity) := by
  simp [push]

end Ring

end Chip8
