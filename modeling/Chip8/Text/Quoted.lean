import Chip8.Numeral
import Chip8.Text
import Chip8.Text.PrintTable

/-!
# Quoted text

`quote` writes a text so that its ends and every unusual character are visible. The quotation mark
is the apostrophe, unless the text contains apostrophes and no double quotes. The mark and the
backslash get a backslash in front; line ends and tabs are written `\n`, `\r` and `\t`, and other
code points without a printed form by their number in two, four or eight hexadecimal digits. So a
quoted text consists of characters even if the text does not.
-/

namespace Chip8.Text

/-- Whether a character has a printed form; of the separators only the blank has. -/
def isPrintable (c : Char) : Bool :=
  if c.toNat < 0x80 then 0x20 ≤ c.toNat && c.toNat < 0x7f
  else !unprintableRanges.any fun (first, last) => first ≤ c.toNat && c.toNat ≤ last

def quoteMark (t : Text) : Char :=
  if t.contains (.char '\x27') && !t.contains (.char '\x22') then '\x22' else '\x27'

/-- One character as it is written between quotation marks. -/
def quoteChar (mark c : Char) : List Char :=
  if c == mark || c == '\x5c' then ['\x5c', c]
  else if c == '\n' then ['\x5c', 'n']
  else if c == '\r' then ['\x5c', 'r']
  else if c == '\t' then ['\x5c', 't']
  else if isPrintable c then [c]
  else if c.toNat < 0x100 then Numeral.codePointEscape 'x' 2 c.toNat
  else if c.toNat < 0x10000 then Numeral.codePointEscape 'u' 4 c.toNat
  else Numeral.codePointEscape 'U' 8 c.toNat

/-- One code point as it is written between quotation marks. -/
def quotePoint (mark : Char) : CodePoint → List Char
  | .char c => quoteChar mark c
  | .half n => Numeral.codePointEscape 'u' 4 (CodePoint.half n).toNat

def quote (t : Text) : String :=
  let mark := quoteMark t
  String.ofList (mark :: t.flatMap (quotePoint mark) ++ [mark])

end Chip8.Text
