import Chip8.Text.CasedTable
import Chip8.Text.LowerTable
import Chip8.Text.Upper

/-!
# Lower case

`lower` replaces every letter by its lower-case form. The form of the capital sigma depends on its
neighbours: at the end of a word it is the final sigma. The capital I with a dot becomes two
characters, and every other letter one.
-/

namespace Chip8.Text

/-- Whether one of some ranges contains a code point. -/
def inRanges (ranges : List (Nat × Nat)) (p : CodePoint) : Bool :=
  ranges.any fun (first, last) => first ≤ p.toNat && p.toNat ≤ last

/-- Whether a word goes on with a text, behind ignorable characters. -/
def wordGoesOn (t : Text) : Bool :=
  ((t.dropWhile (inRanges ignorableRanges)).head?).any (inRanges casedRanges)

/-- The lower-case form of one character that is no capital sigma. -/
def lowerForm (c : Char) : Text :=
  if c.toNat == 0x130 then ofChars ['i', Char.ofNat 0x307]
  else
    match lowerRuns.find? (·.contains c.toNat) with
    | some run => [.char (Char.ofNat (c.toNat + run.offset).toNat)]
    | none => [.char c]

/-- The lower-case form of a capital sigma between two texts, of which the first is given
backwards. -/
def lowerSigma (before after : Text) : CodePoint :=
  .char (Char.ofNat (if wordGoesOn before && !wordGoesOn after then 0x3c2 else 0x3c3))

/-- The lower-case form of a text behind another one that is given backwards. -/
def lowerAfter (before : Text) : Text → Text
  | [] => []
  | p :: after =>
    let form := match p with
      | .char c => if c.toNat == 0x3a3 then [lowerSigma before after] else lowerForm c
      | half => [half]
    form ++ lowerAfter (p :: before) after

def lower (t : Text) : Text :=
  lowerAfter [] t

end Chip8.Text
