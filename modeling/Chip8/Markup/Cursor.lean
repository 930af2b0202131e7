import Chip8.Markup.Error

/-!
# Reading a text

A `Cursor` stands before the rest of a text and knows its place: how many characters lie before
it, and the line and column. Lines end with a line feed, a next-line control (U+0085), or a line
or paragraph separator.

A text need not be readable to its end. A `Reading` moves the cursor, and fails with what keeps the
text from being read as soon as it looks at a character that cannot be had; `skip` looks at the
character that it moves to. What is wrong with the text before is found first.
-/

namespace Chip8.Markup

def isBreak (c : Char) : Bool :=
  c == '\n' || c.toNat == 0x85 || c.toNat == 0x2028 || c.toNat == 0x2029

def isBlank (c : Char) : Bool :=
  c == ' ' || c == '\t'

def isGap (c : Char) : Bool :=
  isBlank c || isBreak c

def keptBreak (c : Char) : Char :=
  if c.toNat == 0x85 then '\n' else c

/-- The byte order mark, which takes no column. -/
def byteOrderMark : Char := Char.ofNat 0xfeff

/-- The rest of a text with its place. -/
structure Cursor where
  rest : List Char
  /-- What keeps the text behind them from being read; without it the text ends there. -/
  obstacle : Option MarkupError
  /-- The number of characters that could be read at first. -/
  total : Nat
  index : Nat
  line : Nat
  column : Nat
  deriving DecidableEq

namespace Cursor

def start (readable : List Char) (obstacle : Option MarkupError) : Cursor :=
  ⟨readable, obstacle, readable.length, 0, 0, 0⟩

/-- Moves behind the next character; at the end of what can be read it stays. -/
def next (c : Cursor) : Cursor :=
  match c.rest with
  | [] => c
  | x :: rest =>
    { c with
      rest := rest
      index := c.index + 1
      line := if isBreak x then c.line + 1 else c.line
      column := if isBreak x then 0 else if x == byteOrderMark then c.column else c.column + 1 }

/-- Moves behind `n` characters. -/
def forward (c : Cursor) : Nat → Cursor
  | 0 => c
  | n + 1 => c.next.forward n

end Cursor

abbrev Reading := StateT Cursor Result

namespace Reading

/-- Gives a value, if the text can be read beyond some characters of which the others are left. -/
def beyond {α : Type} (left : List Char) (value : α) : Reading α := fun c =>
  match left, c.obstacle with
  | [], some e => .error e
  | _, _ => .ok (value, c)

/-- The character `n` places ahead, or nothing behind the end. -/
def peek (n : Nat) : Reading (Option Char) := do
  let left := (← get).rest.drop n
  beyond left left.head?

/-- The next `n` characters, or fewer at the end. -/
def front (n : Nat) : Reading (List Char) := do
  let c ← get
  beyond (c.rest.drop (n - 1)) (c.rest.take n)

/-- The characters of a class that come from `n` places ahead on. -/
def ahead (n : Nat) (p : Char → Bool) : Reading (List Char) := do
  let (run, left) := ((← get).rest.drop n).span p
  beyond left run

/-- Moves behind `n` characters. -/
def skip (n : Nat) : Reading Unit := do
  modify (·.forward n)
  beyond (← get).rest ()

/-- Reads the characters of a class that come next. -/
def run (p : Char → Bool) : Reading (List Char) := do
  let cs ← ahead 0 p
  skip cs.length
  return cs

/-- Moves behind the characters of a class that come next. -/
def pass (p : Char → Bool) : Reading Unit := do
  let _ ← run p

/-- Enough steps for anything that moves on with each of them. -/
def fuel : Reading Nat := do
  let c ← get
  return c.total - c.index + 1

def isAt (x : Char) : Reading Bool := do
  return (← peek 0) == some x

def isIn (p : Char → Bool) : Reading Bool := do
  return (← peek 0).any p

/-- Whether the text ends or a gap begins `n` places ahead. -/
def gapAt (n : Nat) : Reading Bool := do
  return (← peek n).all isGap

/-- Checks that the text ends, or that the next character is in a class. -/
def expect (p : Char → Bool) : Reading Unit := do
  if !(← peek 0).all p then malformed

/-- Checks that a word ends: at the end of the text, a line end or a blank. A tab does not
end it. -/
def expectWordEnd : Reading Unit :=
  expect fun x => x == ' ' || isBreak x

/-- Whether a given mark of three characters stands next as a word of its own. -/
def marked (mark : List Char) : Reading Bool := do
  if (← front 3) == mark then gapAt 3 else return false

/-- Whether a document ends or begins, provided that the cursor is at the beginning of a line. -/
def atDocumentMark : Reading Bool := do
  let cs ← front 3
  if cs == ['-', '-', '-'] || cs == ['.', '.', '.'] then gapAt 3 else return false

/-- Moves behind blanks and a comment, to the end of the line if nothing else is on it. -/
def skipComment : Reading Unit := do
  pass (· == ' ')
  if ← isAt '#' then pass (!isBreak ·)

/-- Moves to the end of a line on which nothing but a comment may follow, and behind it. -/
def endLine : Reading Unit := do
  skipComment
  expect isBreak
  if (← peek 0).isSome then skip 1

end Reading

end Chip8.Markup
