/-!
# Things inside each other

How many things can lie inside each other is no matter of the program. Whoever runs it has a stack
that can be used up, and how much of it has been used before differs from call to call. So
everything that goes down into things is given its limits, and nothing is assumed of them.
-/

namespace Chip8

/-- How many things can lie inside each other before the stack is used up: collections that are
written, collections that are read, and brackets that are open at a time. -/
class NestingLimits where
  written : Nat
  read : Nat
  brackets : Nat

/-- The limits of a stack of a thousand calls, of which few are in use. -/
@[reducible] def NestingLimits.usual : NestingLimits :=
  ⟨990, 490, 2000⟩

end Chip8
