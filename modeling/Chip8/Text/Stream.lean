import Chip8.Text.Utf8

/-!
# Reading the characters of a file

A `Stream` gives the characters that the bytes of a file stand for, some at a time. It takes the
bytes in blocks: when characters are wanted that it does not have, a block of 8192 bytes is decoded,
or a greater one if, going by the block before, the characters wanted take more bytes. All line ends
become line feeds.
-/

namespace Chip8.Text

/-- The characters of a file, as far as they have not been read. -/
structure Stream where
  /-- The bytes that have not been taken. -/
  bytes : List UInt8
  /-- The bytes that the last block left over. -/
  begun : List UInt8
  /-- Whether a carriage return at the end of the last block waits for a line feed. -/
  returned : Bool
  /-- The bytes that a character took in the last block. -/
  density : Float
  ready : List Char

namespace Stream

def ofBytes (bytes : List UInt8) : Stream :=
  ⟨bytes, [], false, 0, []⟩

def leastBlock : Nat := 8192

/-- Makes line feeds of all carriage returns, and of carriage returns with a line feed
behind them. -/
def uniformLines : List Char → List Char
  | [] => []
  | '\r' :: '\n' :: rest => '\n' :: uniformLines rest
  | '\r' :: rest => '\n' :: uniformLines rest
  | c :: rest => c :: uniformLines rest

/-- The size of the block that is taken when `wanted` more characters are. -/
def blockSize (s : Stream) (wanted : Nat) : Nat :=
  max leastBlock ((if s.density < 1.0 then 1.0 else s.density) * Float.ofNat wanted).toUInt64.toNat

/-- Decodes one more block. Gives nothing at the end of the file. -/
def takeBlock (s : Stream) (wanted : Nat) : Except DecodeError (Option Stream) := do
  let block := s.bytes.take (s.blockSize wanted)
  let isLast := block.isEmpty
  let (cs, begun) ← decodeBlock isLast (s.begun ++ block)
  let cs := if s.returned && (isLast || !cs.isEmpty) then '\r' :: cs else cs
  let returned := (s.returned && !isLast && cs.isEmpty) || (!isLast && cs.getLast? == some '\r')
  let cs := if !isLast && cs.getLast? == some '\r' then cs.dropLast else cs
  let cs := uniformLines cs
  if isLast && cs.isEmpty then return none
  return some
    { bytes := s.bytes.drop (s.blockSize wanted)
      begun := begun
      returned := returned
      density := if cs.isEmpty then 0.0 else Float.ofNat block.length / Float.ofNat cs.length
      ready := s.ready ++ cs }

/-- Reads up to `count` characters, fewer only at the end of the file, taking at most `n` blocks. -/
def readWithin : Nat → Nat → Stream → Except DecodeError (List Char × Stream)
  | 0, count, s => .ok (s.ready.take count, { s with ready := s.ready.drop count })
  | n + 1, count, s =>
    if count ≤ s.ready.length then .ok (s.ready.take count, { s with ready := s.ready.drop count })
    else
      match s.takeBlock (count - s.ready.length) with
      | .error e => .error e
      | .ok none => .ok (s.ready, { s with ready := [] })
      | .ok (some s) => readWithin n count s

/-- Reads up to `count` characters, fewer only at the end of the file. Each block takes a byte, or
is the last. -/
def read (s : Stream) (count : Nat) : Except DecodeError (List Char × Stream) :=
  readWithin (s.bytes.length + 2) count s

end Stream

end Chip8.Text
