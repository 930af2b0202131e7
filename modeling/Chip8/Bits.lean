/-!
# Integers bit by bit

An integer stands for a row of bits without an end to the left: that of a natural number `n` goes on
with zeros, and that of `-1 - n` has every bit of `n` exchanged. The operations here work on the
rows, so for natural numbers they are the usual ones.
-/

namespace Chip8.Bits

/-- The bits of one number that another one does not have. -/
def without (m n : Nat) : Nat :=
  m ^^^ (m &&& n)

def and : Int → Int → Int
  | .ofNat m, .ofNat n => .ofNat (m &&& n)
  | .ofNat m, .negSucc n => .ofNat (without m n)
  | .negSucc m, .ofNat n => .ofNat (without n m)
  | .negSucc m, .negSucc n => .negSucc (m ||| n)

def or : Int → Int → Int
  | .ofNat m, .ofNat n => .ofNat (m ||| n)
  | .ofNat m, .negSucc n => .negSucc (without n m)
  | .negSucc m, .ofNat n => .negSucc (without m n)
  | .negSucc m, .negSucc n => .negSucc (m &&& n)

/-- The bits that exactly one of two integers has. -/
def xor : Int → Int → Int
  | .ofNat m, .ofNat n => .ofNat (m ^^^ n)
  | .ofNat m, .negSucc n => .negSucc (m ^^^ n)
  | .negSucc m, .ofNat n => .negSucc (m ^^^ n)
  | .negSucc m, .negSucc n => .ofNat (m ^^^ n)

/-- A bit of an integer, counted from the lowest. -/
def bit (value : Int) (place : Nat) : Nat :=
  (value / Nat.pow 2 place % 2).toNat

end Chip8.Bits
