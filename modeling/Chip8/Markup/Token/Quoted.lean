import Chip8.Markup.Token.Word

/-!
# Quoted scalars

A scalar between single or double quotes may go over several lines: a line end with the blanks
around it counts as one blank, and of several line ends all but the first are kept. Between single
quotes a quote is doubled; between double quotes a backslash begins an escape.
-/

namespace Chip8.Markup

def escaped? : Char → Option Char
  | '0' => some '\x00'
  | 'a' => some '\x07'
  | 'b' => some '\x08'
  | 't' => some '\t'
  | '\t' => some '\t'
  | 'n' => some '\n'
  | 'v' => some '\x0b'
  | 'f' => some '\x0c'
  | 'r' => some '\r'
  | 'e' => some '\x1b'
  | ' ' => some ' '
  | '\x22' => some '\x22'
  | '/' => some '/'
  | '\x5c' => some '\x5c'
  | 'N' => some (Char.ofNat 0x85)
  | '_' => some (Char.ofNat 0xa0)
  | 'L' => some (Char.ofNat 0x2028)
  | 'P' => some (Char.ofNat 0x2029)
  | _ => none

/-- The number of hexadecimal digits behind a letter that begins the escape of a code point. -/
def escapeDigits? : Char → Option Nat
  | 'x' => some 2
  | 'u' => some 4
  | 'U' => some 8
  | _ => none

def codePointOf (code : Nat) : Result CodePoint :=
  if 0x10ffff < code then .error (.noSuchCharacter code) else .ok (.ofNat code)

/-- What one line end and the ones kept after it count as. -/
def foldBreak (first : Char) (kept : List Char) : List Char :=
  if keptBreak first != '\n' then keptBreak first :: kept
  else if kept.isEmpty then [' ']
  else kept

namespace Reading

/-- Moves over line ends with the blanks around them, and gives those that are kept. No document may
begin or end there. -/
def keptBreaks : Nat → Reading (List Char)
  | 0 => return []
  | n + 1 => do
    if ← atDocumentMark then malformed
    pass isBlank
    match ← peek 0 with
    | some x =>
      if isBreak x then
        skip 1
        return keptBreak x :: (← keptBreaks n)
      else return []
    | none => return []

/-- Reads blanks inside quotes, which are kept unless a line ends with them. -/
def quotedGap : Reading (List Char) := do
  let blanks ← run isBlank
  match ← peek 0 with
  | none => malformed
  | some x =>
    if isBreak x then
      skip 1
      return foldBreak x (← keptBreaks (← fuel))
    else return blanks

/-- Reads an escape behind its backslash. A line end that is escaped counts as nothing. -/
def escape : Reading Text := do
  match ← peek 0 with
  | none => malformed
  | some x =>
    match escaped? x, escapeDigits? x with
    | some y, _ =>
      skip 1
      return [.char y]
    | none, some n =>
      skip 1
      let ds ← hexDigits 0 n
      let y ← codePointOf (numberOf 16 ds)
      skip n
      return [y]
    | none, none =>
      if isBreak x then
        skip 1
        return Text.ofChars (← keptBreaks (← fuel))
      else malformed

/-- Reads the next part of a quoted scalar; nothing at its closing quote. -/
def quotedPart (isDouble : Bool) : Reading (Option Text) := do
  let cs ← run fun x => !(isGap x || x == '\x27' || x == '\x22' || x == '\x5c')
  if !cs.isEmpty then return some (Text.ofChars cs)
  match ← peek 0 with
  | none => malformed
  | some x =>
    if isGap x then return some (Text.ofChars (← quotedGap))
    else if isDouble && x == '\x22' then return none
    else if isDouble && x == '\x5c' then
      skip 1
      return some (← escape)
    else if !isDouble && x == '\x27' then
      if (← peek 1) == some '\x27' then
        skip 2
        return some [.char x]
      else return none
    else
      skip 1
      return some [.char x]

/-- Reads the parts of a quoted scalar up to its closing quote and moves behind it. -/
def quotedParts (isDouble : Bool) : Nat → Reading Text
  | 0 => malformed
  | n + 1 => do
    match ← quotedPart isDouble with
    | none =>
      skip 1
      return []
    | some part => return part ++ (← quotedParts isDouble n)

def quoted (isDouble : Bool) : Reading Token := do
  skip 1
  return .scalar (← quotedParts isDouble (← fuel)) false

end Reading

end Chip8.Markup
