import Chip8.Text

/-!
# White space

Two sets of white space are in use. `isBlank` is that of Unicode with the four separator controls
U+001C to U+001F, and is what `trim` removes around typed text. `isAsciiBlank` is the narrower set
of six characters that may surround the digits of a numeral.
-/

namespace Chip8.Text

/-- The blank, the tabs and the line ends of ASCII. -/
def isAsciiBlank (c : Char) : Bool :=
  c.toNat == 0x20 || (0x09 ≤ c.toNat && c.toNat ≤ 0x0d)

/-- White space of any script, the separator controls included. -/
def isBlank (c : Char) : Bool :=
  isAsciiBlank c || (0x1c ≤ c.toNat && c.toNat ≤ 0x1f) || c.toNat == 0x85 || c.toNat == 0xa0 ||
    c.toNat == 0x1680 || (0x2000 ≤ c.toNat && c.toNat ≤ 0x200a) || c.toNat == 0x2028 ||
    c.toNat == 0x2029 || c.toNat == 0x202f || c.toNat == 0x205f || c.toNat == 0x3000

/-- Drops the members of a class from both ends of a list. -/
def trimList {α : Type} (drop : α → Bool) (xs : List α) : List α :=
  ((xs.dropWhile drop).reverse.dropWhile drop).reverse

def trim (t : Text) : Text :=
  trimList (fun p => p.char?.any isBlank) t

end Chip8.Text
