import Chip8.Markup.Error
import Chip8.Text.Stream

/-!
# The source of a markup text

A markup text is read from a file in parts of 4096 characters, except that the first part has
twice as many. A part with a character in it that may not occur cannot be read at all, and neither
can what comes after it; the same is true of a part in which the bytes are no text. The parts
before it can.
-/

namespace Chip8.Markup

def isAllowed (c : Char) : Bool :=
  c == '\t' || c == '\n' || (0x20 ≤ c.toNat && c.toNat ≤ 0x7e) || c.toNat == 0x85 ||
    (0xa0 ≤ c.toNat && c.toNat ≤ 0xfffd) || 0x10000 ≤ c.toNat

/-- A text as far as it can be read. -/
structure Source where
  readable : List Char
  obstacle : Option MarkupError

namespace Source

/-- The number of characters that are read at a time. -/
def partSize : Nat := 4096

def withFront (part : List Char) (behind : Source) : Source :=
  if part.all isAllowed then { behind with readable := part ++ behind.readable }
  else ⟨[], some .malformed⟩

/-- Reads the parts of a text, at most `n` of them, behind a given one. -/
def behind (part : List Char) : Nat → Text.Stream → Source
  | 0, _ => withFront part ⟨[], none⟩
  | n + 1, s =>
    if part.isEmpty then ⟨[], none⟩
    else
      withFront part <|
        match s.read partSize with
        | .error e => ⟨[], some (.encoding e)⟩
        | .ok (next, s) => behind next n s

/-- Reads the text that the bytes of a file stand for. -/
def ofBytes (bytes : List UInt8) : Source :=
  let first : Except Text.DecodeError (List Char × Text.Stream) := do
    let (one, s) ← (Text.Stream.ofBytes bytes).read partSize
    let (two, s) ← s.read partSize
    return (one ++ two, s)
  match first with
  | .error e => ⟨[], some (.encoding e)⟩
  | .ok (part, s) => behind part bytes.length s

end Source

end Chip8.Markup
