import Chip8.Numeral

/-!
# Text from bytes

`decodeBlock` reads bytes as UTF-8, in which a character takes one to four bytes: the first tells
how many, and the others begin with the bits `10`. Only the shortest form of a character counts, and
halves of surrogate pairs are none.

Bytes come in blocks, and the place of a bad one is told within its block. A character can lie
across the end of a block: its first bytes are left over, and belong to the next block. The first
two bytes of half of a surrogate pair, when they end a block, are taken for such a character until
the next block comes.
-/

namespace Chip8.Text

/-- Why bytes are no text. -/
inductive DecodeError where
  | badStart (position : Nat) (byte : UInt8)
  /-- `count` bytes that begin a character are followed by one that does not go on with it. -/
  | badContinuation (position count : Nat) (byte : UInt8)
  /-- Behind the last whole character `count` bytes are left that begin one. -/
  | cutOff (position count : Nat) (byte : UInt8)
  deriving DecidableEq

/-- The place of `count` bytes in an error message. -/
def bytesAt (position count : Nat) (byte : UInt8) : String :=
  if count == 1 then
    "byte 0x" ++ String.ofList (Numeral.lowerHex 2 byte.toNat) ++ " in position " ++
      Numeral.decimal position
  else
    "bytes in position " ++ Numeral.decimal position ++ "-" ++
      Numeral.decimal ((position + count - 1 : Nat) : Int)

def DecodeError.message : DecodeError → String
  | .badStart position byte =>
    "'utf-8' codec can't decode " ++ bytesAt position 1 byte ++ ": invalid start byte"
  | .badContinuation position count byte =>
    "'utf-8' codec can't decode " ++ bytesAt position count byte ++ ": invalid continuation byte"
  | .cutOff position count byte =>
    "'utf-8' codec can't decode " ++ bytesAt position count byte ++ ": unexpected end of data"

/-- How many bytes go on with the character that a byte begins, and the bits that it contributes. -/
def leadByte? (b : UInt8) : Option (Nat × Nat) :=
  let n := b.toNat
  if n < 0x80 then some (0, n)
  else if 0xc2 ≤ n && n ≤ 0xdf then some (1, n % 0x20)
  else if 0xe0 ≤ n && n ≤ 0xef then some (2, n % 0x10)
  else if 0xf0 ≤ n && n ≤ 0xf4 then some (3, n % 0x08)
  else none

/-- Whether a byte can be the second of a character with the given first one. -/
def goesOn (first second : UInt8) : Bool :=
  let n := second.toNat
  let lowest := if first == 0xe0 then 0xa0 else if first == 0xf0 then 0x90 else 0x80
  let highest := if first == 0xed then 0x9f else if first == 0xf4 then 0x8f else 0xbf
  lowest ≤ n && n ≤ highest

/-- The first of the bytes that can go on with a character, up to `count`. -/
def continuation (first : UInt8) (count : Nat) (bs : List UInt8) : List UInt8 :=
  match bs.take count with
  | [] => []
  | second :: others =>
    if goesOn first second then
      second :: others.takeWhile fun b => 0x80 ≤ b.toNat && b.toNat ≤ 0xbf
    else []

/-- Whether bytes are the first two of half of a surrogate pair. -/
def beginsHalf : List UInt8 → Bool
  | [first, second] => first == 0xed && 0xa0 ≤ second.toNat && second.toNat ≤ 0xbf
  | _ => false

/-- Reads the first `n` characters of a block from a position on, and gives the bytes that
are left. -/
def decodeFrom (isLast : Bool) :
    Nat → Nat → List UInt8 → Except DecodeError (List Char × List UInt8)
  | 0, _, bs => .ok ([], bs)
  | _, _, [] => .ok ([], [])
  | n + 1, position, b :: rest =>
    match leadByte? b with
    | none => .error (.badStart position b)
    | some (count, bits) =>
      let more := continuation b count rest
      let width := more.length + 1
      if more.length == count then
        let code := more.foldl (fun code x => code * 64 + x.toNat % 64) bits
        (decodeFrom isLast n (position + width) (rest.drop count)).map fun (cs, left) =>
          (Char.ofNat code :: cs, left)
      else
        let cut := rest.length == more.length
        if !isLast && (cut || beginsHalf (b :: rest)) then .ok ([], b :: rest)
        else if cut then .error (.cutOff position width b)
        else .error (.badContinuation position width b)

/-- Reads the characters of a block of bytes. Bytes at the end that begin a character are left,
unless the block is the last one. -/
def decodeBlock (isLast : Bool) (bs : List UInt8) : Except DecodeError (List Char × List UInt8) :=
  decodeFrom isLast bs.length 0 bs

end Chip8.Text
