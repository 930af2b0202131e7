/-!
# Digests

The digest of a sequence of bytes is a word that depends on all of them. It is the short-input hash
of one round for each word and three rounds at the end, with a key of zeros. Words are made of eight
bytes, the lowest first; the last one holds the bytes that are left and, in its highest byte, how
many there were at first.
-/

namespace Chip8.Digest

/-- The words that are mixed. -/
structure Mixer where
  a : UInt64
  b : UInt64
  c : UInt64
  d : UInt64

/-- A word of which the bits are moved up around the end. -/
def rotate (w n : UInt64) : UInt64 :=
  (w <<< n) ||| (w >>> (64 - n))

namespace Mixer

/-- The words at first. -/
def start : Mixer where
  a := 0x736f6d6570736575
  b := 0x646f72616e646f6d
  c := 0x6c7967656e657261
  d := 0x7465646279746573

/-- Adds neighbours, and moves the bits of all words. -/
def halfRound (first second : UInt64) (m : Mixer) : Mixer :=
  let a := m.a + m.b
  let c := m.c + m.d
  ⟨rotate a 32, rotate m.b first ^^^ a, c, rotate m.d second ^^^ c⟩

/-- The same words with the first and the third one exchanged. -/
def swap (m : Mixer) : Mixer :=
  ⟨m.c, m.b, m.a, m.d⟩

/-- A round, in which each word meets both its neighbours. -/
def round (m : Mixer) : Mixer :=
  ((m.halfRound 13 16).swap.halfRound 17 21).swap

def takeIn (m : Mixer) (w : UInt64) : Mixer :=
  let m := { m with d := m.d ^^^ w }.round
  { m with a := m.a ^^^ w }

/-- What has come of the words that were taken in. -/
def finish (m : Mixer) : UInt64 :=
  let m := { m with c := m.c ^^^ 0xff }.round.round.round
  m.a ^^^ m.b ^^^ m.c ^^^ m.d

end Mixer

/-- The word of at most eight bytes, the lowest first. -/
def word (bytes : List UInt8) : UInt64 :=
  bytes.foldr (fun b w => w * 256 + b.toUInt64) 0

/-- The words of the bytes that are left of `length` bytes. -/
def words (length : Nat) : List UInt8 → List UInt64
  | a :: b :: c :: d :: e :: f :: g :: h :: rest =>
    word [a, b, c, d, e, f, g, h] :: words length rest
  | rest => [word rest ||| (UInt64.ofNat length <<< 56)]

def ofBytes (bytes : List UInt8) : UInt64 :=
  ((words bytes.length bytes).foldl Mixer.takeIn .start).finish

end Chip8.Digest
