import Chip8.Markup.Token.Block
import Chip8.Markup.Token.Plain
import Chip8.Nesting

/-!
# The tokens of a text

`Token.ofText` divides a text into tokens. Outside brackets the layout counts: a deeper column opens
a block, a lesser one closes blocks. Whether something is a key is known only at the colon behind
it, so every place at which a key may begin is remembered, and at the colon a key token is put
there. Such a key must lie on one line and within 1024 characters; where a line can only begin a
key, the colon must come.

If something is wrong with the text, the tokens before it are still given, as far as they are
settled: what the tokens show to be wrong comes first.
-/

namespace Chip8.Markup

/-- A place at which a key may have begun. -/
structure KeyPlace where
  /-- The number of the kept tokens before it. -/
  position : Nat
  /-- Whether nothing but a key can have begun. -/
  required : Bool
  index : Nat
  line : Nat
  column : Nat

/-- The tokens of a text, and what is wrong behind them. -/
structure Tokens where
  list : List Token
  failure : Option MarkupError

/-- What is known of a text that is divided as far as the cursor. -/
structure Scan where
  /-- The tokens that are kept because a key token may still come in front of one of them. -/
  tokens : Array Token
  /-- The column of the present block, and those of the blocks around it. -/
  indent : Int
  outer : List Int
  keyAllowed : Bool
  /-- The place of a possible key in the present brackets, and those in the brackets around them. -/
  key : Option KeyPlace
  outerKeys : List (Option KeyPlace)

namespace Scan

def start : Scan where
  tokens := #[]
  indent := -1
  outer := []
  keyAllowed := true
  key := none
  outerKeys := []

def inFlow (s : Scan) : Bool :=
  !s.outerKeys.isEmpty

def emit (s : Scan) (t : Token) : Scan :=
  { s with tokens := s.tokens.push t }

/-- Moves the cursor over `n` characters that are a token. -/
def take (s : Scan) (n : Nat) (t : Token) : Reading Scan := do
  Reading.skip n
  return s.emit t

/-! ## Blocks -/

/-- Opens a block at a column, if that is deeper than the present block. -/
def openBlock (s : Scan) (column : Int) (position : Nat) (t : Token) : Scan :=
  if s.indent < column then
    { s with
      indent := column
      outer := s.indent :: s.outer
      tokens := s.tokens.insertIdxIfInBounds position t }
  else s

/-- Closes the blocks that are deeper than a column. -/
def closeBlocks (column : Int) : Int → List Int → Array Token → Int × List Int × Array Token
  | indent, [], tokens => (indent, [], tokens)
  | indent, next :: rest, tokens =>
    if column < indent then closeBlocks column next rest (tokens.push .blockEnd)
    else (indent, next :: rest, tokens)

/-- Closes the blocks that are deeper than a column; inside brackets columns do not count. -/
def unwind (s : Scan) (column : Int) : Scan :=
  if s.inFlow then s
  else
    let (indent, outer, tokens) := closeBlocks column s.indent s.outer s.tokens
    { s with indent := indent, outer := outer, tokens := tokens }

/-! ## Keys -/

def forgetKey (s : Scan) : Result Scan :=
  if s.key.any (·.required) then malformed else .ok { s with key := none }

def markKey (s : Scan) (c : Cursor) : Result Scan := do
  if s.keyAllowed then
    let s ← s.forgetKey
    return { s with
      key := some
        { position := s.tokens.size
          required := !s.inFlow && s.indent == c.column
          index := c.index
          line := c.line
          column := c.column } }
  else return s

/-- Whether a key that began at a place cannot end at the cursor any more. -/
def stale (c : Cursor) (place : KeyPlace) : Bool :=
  place.line != c.line || 1024 < c.index - place.index

/-- Forgets the place of a key that cannot end at the cursor any more. -/
def freshKey (c : Cursor) (key : Option KeyPlace) : Result (Option KeyPlace) :=
  match key with
  | none => .ok none
  | some place =>
    if stale c place then (if place.required then malformed else .ok none) else .ok (some place)

/-- Forgets all places of keys that cannot end at the cursor any more. -/
def freshKeys (s : Scan) (c : Cursor) : Result Scan := do
  let key ← freshKey c s.key
  let outerKeys ← s.outerKeys.mapM (freshKey c)
  return { s with key := key, outerKeys := outerKeys }

/-! ## Tokens -/

/-- Moves over blanks, comments and line ends. Outside brackets a key may begin on a new line. -/
def skipGap : Nat → Scan → Reading Scan
  | 0, s => return s
  | n + 1, s => do
    Reading.skipComment
    if ← Reading.isIn isBreak then
      Reading.skip 1
      skipGap n { s with keyAllowed := s.keyAllowed || !s.inFlow }
    else return s

/-- A mark at the beginning of a line that ends all blocks: a directive, or the beginning or end of
a document. -/
def atMargin (s : Scan) : Result Scan := do
  let s ← (s.unwind (-1)).forgetKey
  return { s with keyAllowed := false }

def word (s : Scan) (read : Reading Token) : Reading Scan := do
  let s ← s.markKey (← get)
  let t ← read
  return { s with keyAllowed := false }.emit t

def openFlow [NestingLimits] (s : Scan) (t : Token) : Reading Scan := do
  if NestingLimits.brackets ≤ s.outerKeys.length then throw .tooDeep
  let s ← s.markKey (← get)
  take { s with key := none, outerKeys := s.key :: s.outerKeys, keyAllowed := true } 1 t

def closeFlow (s : Scan) (t : Token) : Reading Scan := do
  let s ← s.forgetKey
  match s.outerKeys with
  | [] => do
    Reading.skip 1
    malformed
  | key :: outerKeys => take { s with key := key, outerKeys := outerKeys, keyAllowed := false } 1 t

def flowEntry (s : Scan) : Reading Scan := do
  let s ← s.forgetKey
  take { s with keyAllowed := true } 1 .flowEntry

/-- A sign that stands first in what may be a new block. -/
def blockSign (s : Scan) (opening t : Token) (keyAfter : Bool) : Reading Scan := do
  if !s.inFlow && !s.keyAllowed then malformed
  let c ← get
  let s := if s.inFlow then s else s.openBlock c.column s.tokens.size opening
  let s ← s.forgetKey
  take { s with keyAllowed := keyAfter } 1 t

/-- A colon. If a key may have begun before it, it has. -/
def colon (s : Scan) : Reading Scan :=
  match s.key with
  | some place =>
    let s := { s with key := none, tokens := s.tokens.insertIdxIfInBounds place.position .key }
    let s := if s.inFlow then s else s.openBlock place.column place.position .blockMappingStart
    take { s with keyAllowed := false } 1 .value
  | none => s.blockSign .blockMappingStart .value (!s.inFlow)

def blockScalar (s : Scan) (folded : Bool) : Reading Scan := do
  let s ← s.forgetKey
  let t ← Reading.block folded s.indent
  return { s with keyAllowed := true }.emit t

def plainScalar (s : Scan) : Reading Scan := do
  let s ← s.markKey (← get)
  let (t, broken) ← Reading.plain s.inFlow (s.indent + 1)
  return { s with keyAllowed := broken }.emit t

/-- Whether a character by itself cannot begin a plain scalar. -/
def isSign (x : Char) : Bool :=
  "-?:,[]\x7b\x7d#&*!|>%@".toList.contains x || x == '\x27' || x == '\x22' || x == '\x60'

/-- Whether a plain scalar begins with a character. A dash, and outside brackets a question mark or
a colon, may begin one if something follows it. -/
def plainBegins (s : Scan) (x : Char) : Reading Bool := do
  if !(isGap x || isSign x) then return true
  let followed := !(← Reading.gapAt 1)
  return followed && (x == '-' || (!s.inFlow && (x == '?' || x == ':')))

/-- Whether a sign stands here by itself, which a character in a word is not outside brackets. -/
def signed (s : Scan) : Reading Bool :=
  if s.inFlow then return true else Reading.gapAt 1

/-- Reads the token that begins with a character in brackets or outside them, if it is known by that
character and by what follows it. -/
def plainToken (s : Scan) (x : Char) : Reading Scan := do
  if ← s.plainBegins x then s.plainScalar else malformed

def token [NestingLimits] (s : Scan) (x : Char) : Reading Scan := do
  let margin := (← get).column == 0
  if x == '%' && margin then
    let s ← s.atMargin
    return s.emit (← Reading.directive)
  if margin && x == '-' then
    if ← Reading.marked ['-', '-', '-'] then return ← (← s.atMargin).take 3 .documentStart
  if margin && x == '.' then
    if ← Reading.marked ['.', '.', '.'] then return ← (← s.atMargin).take 3 .documentEnd
  match x with
  | '[' => s.openFlow .flowSequenceStart
  | '\x7b' => s.openFlow .flowMappingStart
  | ']' => s.closeFlow .flowSequenceEnd
  | '\x7d' => s.closeFlow .flowMappingEnd
  | ',' => s.flowEntry
  | '-' => do
    if ← Reading.gapAt 1 then s.blockSign .blockSequenceStart .blockEntry true else s.plainToken x
  | '?' => do
    if ← s.signed then s.blockSign .blockMappingStart .key (!s.inFlow) else s.plainToken x
  | ':' => do if ← s.signed then s.colon else s.plainToken x
  | '*' => s.word (Token.alias <$> Reading.anchorName)
  | '&' => s.word (Token.anchor <$> Reading.anchorName)
  | '!' => s.word Reading.tag
  | '|' => if s.inFlow then s.plainToken x else s.blockScalar false
  | '>' => if s.inFlow then s.plainToken x else s.blockScalar true
  | '\x27' => s.word (Reading.quoted false)
  | '\x22' => s.word (Reading.quoted true)
  | _ => s.plainToken x

/-- Reads what comes next: a token, or the end of the text. Tells whether it was the end. -/
def advance [NestingLimits] (s : Scan) : Reading (Bool × Scan) := do
  if (← get).index == 0 then
    if ← Reading.isAt byteOrderMark then Reading.skip 1
  let s ← skipGap (← Reading.fuel) s
  let c ← get
  let s := (← s.freshKeys c).unwind c.column
  match ← Reading.peek 0 with
  | none => do
    let s ← (s.unwind (-1)).forgetKey
    return (true, s)
  | some x => return (false, ← s.token x)

/-- The number of kept tokens in front of which no key token can come any more. -/
def settled (s : Scan) : Nat :=
  (s.key :: s.outerKeys).foldl (fun n place => place.elim n fun p => min n p.position) s.tokens.size

def release (s : Scan) : List Token × Scan :=
  let n := s.settled
  let moved := Option.map fun (place : KeyPlace) => { place with position := place.position - n }
  ((s.tokens.take n).toList,
    { s with tokens := s.tokens.drop n, key := moved s.key, outerKeys := s.outerKeys.map moved })

/-- Reads tokens to the end of a text or to the first thing that is wrong, behind those given out,
the latest first. -/
def run [NestingLimits] : Nat → List Token → Scan → Cursor → Tokens
  | 0, given, _, _ => ⟨given.reverse, some .malformed⟩
  | n + 1, given, s, c =>
    match s.freshKeys c with
    | .error e => ⟨given.reverse, some e⟩
    | .ok s =>
      let (settled, s) := s.release
      let given := settled.reverse ++ given
      match s.advance c with
      | .error e => ⟨given.reverse, some e⟩
      | .ok ((true, s), _) => ⟨given.reverse ++ s.tokens.toList, none⟩
      | .ok ((false, s), c) => run n given s c

end Scan

/-- Divides a text into its tokens, as far as it can be read. -/
def Token.ofText [NestingLimits] (readable : List Char) (obstacle : Option MarkupError) : Tokens :=
  Scan.run (readable.length + 1) [] Scan.start (Cursor.start readable obstacle)

end Chip8.Markup
