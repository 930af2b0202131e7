/-!
# Rounding a quotient

`roundHalfEven num den` is the integer nearest to `num / den`; halfway between two integers it is
the even one.
-/

namespace Chip8.Decimal

/-- The integer nearest to a quotient of natural numbers, the even one of two equally near. -/
def roundHalfEven (num den : Nat) : Nat :=
  let quotient := num / den
  let rest := num % den
  if 2 * rest < den then quotient
  else if den < 2 * rest then quotient + 1
  else quotient + quotient % 2

end Chip8.Decimal
