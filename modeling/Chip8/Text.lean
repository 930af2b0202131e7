/-!
# Texts

A text is a sequence of code points. Nearly all of them are characters; half of a surrogate pair is
none, but an escape in a settings file can put one into a text, where it is kept and shown as its
number. `Text.ofString` takes a string as a text, and `Text.toString?` is its inverse.
-/

namespace Chip8

/-- A code point: a character, or half of a surrogate pair, counted from U+D800. -/
inductive CodePoint where
  | char (c : Char)
  | half (n : Fin 0x800)
  deriving DecidableEq

abbrev Text := List CodePoint

namespace CodePoint

def toNat : CodePoint → Nat
  | .char c => c.toNat
  | .half n => 0xd800 + n.val

/-- The code point with a number; beyond the last one it is U+0000. -/
def ofNat (n : Nat) : CodePoint :=
  if h : 0xd800 ≤ n ∧ n < 0xe000 then .half ⟨n - 0xd800, by omega⟩ else .char (Char.ofNat n)

def char? : CodePoint → Option Char
  | .char c => some c
  | .half _ => none

end CodePoint

namespace Text

def ofChars (cs : List Char) : Text :=
  cs.map .char

def ofString (s : String) : Text :=
  ofChars s.toList

instance : Coe String Text := ⟨ofString⟩

/-- The characters of a text that has nothing else. -/
def toChars? (t : Text) : Option (List Char) :=
  t.mapM CodePoint.char?

def toString? (t : Text) : Option String :=
  t.toChars?.map String.ofList

theorem toChars?_ofChars (cs : List Char) : toChars? (ofChars cs) = some cs := by
  induction cs with
  | nil => rfl
  | cons c rest ih => simp_all [toChars?, ofChars, CodePoint.char?]

theorem toString?_ofString (s : String) : toString? (ofString s) = some s := by
  simp [toString?, ofString, toChars?_ofChars]

end Text

end Chip8
