import Chip8.Numeral
import Chip8.Text

/-!
# Bytes from text

`encode` writes characters as UTF-8. A half of a surrogate pair cannot be written, except that in
the name of a file the halves from U+DC80 to U+DCFF stand for the bytes from 128 on, which need not
make up characters there.
-/

namespace Chip8.Text

/-- Code points that cannot be written: `count` of them from a position on, the first being a
given half. -/
structure EncodeError where
  position : Nat
  count : Nat
  half : Fin 0x800
  deriving DecidableEq

def EncodeError.message (e : EncodeError) : String :=
  "'utf-8' codec can't encode " ++
    (if e.count == 1 then
      "character '" ++ String.ofList (Numeral.codePointEscape 'u' 4
        (CodePoint.half e.half).toNat) ++
        "' in position " ++ Numeral.decimal e.position
    else
      "characters in position " ++ Numeral.decimal e.position ++ "-" ++
        Numeral.decimal (e.position + e.count - 1)) ++
    ": surrogates not allowed"

/-- The byte that a half stands for in the name of a file. -/
def rawByte? (n : Fin 0x800) : Option UInt8 :=
  if 0x480 ≤ n.val && n.val ≤ 0x4ff then some (UInt8.ofNat n.val) else none

def leadingHalves (t : Text) : Nat :=
  (t.takeWhile fun p => p.char?.isNone).length

/-- Writes a text from a position on, given what halves are written as. -/
def encodeFrom (half? : Fin 0x800 → Option UInt8) : Nat → Text → Except EncodeError (List UInt8)
  | _, [] => .ok []
  | position, .char c :: rest =>
    (encodeFrom half? (position + 1) rest).map (String.utf8EncodeChar c ++ ·)
  | position, .half n :: rest =>
    match half? n with
    | some b => (encodeFrom half? (position + 1) rest).map (b :: ·)
    | none => .error ⟨position, leadingHalves rest + 1, n⟩

def encode (t : Text) : Except EncodeError (List UInt8) :=
  encodeFrom (fun _ => none) 0 t

/-- The bytes of a text that is the name of a file. -/
def nameBytes (t : Text) : Except EncodeError (List UInt8) :=
  encodeFrom rawByte? 0 t

end Chip8.Text
