import Chip8.Markup.Cursor
import Chip8.Markup.Token

/-!
# Anchors, tags and directives

Everything in a markup text that consists of words: anchors and aliases, tags, and directive lines.
-/

namespace Chip8.Markup

def isNameChar (c : Char) : Bool :=
  c.isAlphanum || c == '-' || c == '_'

/-- Whether a character may be part of the address in a tag. -/
def isAddressChar (c : Char) : Bool :=
  c.isAlphanum || "-;/?:@&=+$,_.!~*'()[]%".toList.contains c

def isHexDigit (c : Char) : Bool :=
  (Numeral.digitValue 16 c).isSome

def numberOf (base : Nat) (ds : List Char) : Nat :=
  ds.foldl (fun n d => n * base + (Numeral.digitValue base d).getD 0) 0

namespace Reading

/-- Reads a name of at least one character. -/
def name : Reading String := do
  let cs ← run isNameChar
  if cs.isEmpty then malformed
  return String.ofList cs

/-- Reads the name behind the mark of an anchor or alias. -/
def anchorName : Reading String := do
  skip 1
  let name ← name
  expect fun x => isGap x || "?:,]\x7d%@".toList.contains x || x == '\x60'
  return name

/-- The next `count` characters from `n` places ahead on, which must be hexadecimal digits. -/
def hexDigits (n : Nat) : Nat → Reading (List Char)
  | 0 => return []
  | count + 1 => do
    match ← peek n with
    | some x => if isHexDigit x then return x :: (← hexDigits (n + 1) count) else malformed
    | none => malformed

/-- Reads bytes that are written in hexadecimal behind percent signs. -/
def escapedBytes : Nat → Reading (List UInt8)
  | 0 => return []
  | n + 1 => do
    if !(← isAt '%') then return []
    skip 1
    let ds ← hexDigits 0 2
    skip 2
    return UInt8.ofNat (numberOf 16 ds) :: (← escapedBytes n)

/-- Reads the parts of an address: characters that stand for themselves, and escaped bytes, which
must make up characters. -/
def addressParts : Nat → Reading (List String)
  | 0 => return []
  | n + 1 => do
    let plain ← run fun x => isAddressChar x && x != '%'
    let parts := if plain.isEmpty then [] else [String.ofList plain]
    if ← isAt '%' then
      match String.fromUTF8? ⟨(← escapedBytes (← fuel)).toArray⟩ with
      | some s => return parts ++ s :: (← addressParts n)
      | none => malformed
    else return parts

def address : Reading String := do
  match ← addressParts (← fuel) with
  | [] => malformed
  | parts => return String.join parts

/-- Reads a tag handle: an exclamation mark, or a name between two of them. -/
def handle : Reading String := do
  if !(← isAt '!') then malformed
  skip 1
  if ← isAt ' ' then return "!"
  let name ← run isNameChar
  if !(← isAt '!') then malformed
  skip 1
  return String.ofList ('!' :: name ++ ['!'])

/-- Whether a word has another exclamation mark behind its first character. -/
def hasHandle : Reading Bool := do
  let cs ← ahead 1 fun x => x != '!' && x != ' ' && !isBreak x
  return (← peek (cs.length + 1)) == some '!'

/-- Reads a tag: an address between angle brackets, a mark alone, or a handle and an address. -/
def tag : Reading Token := do
  let token ←
    match ← peek 1 with
    | some '<' => do
      skip 2
      let suffix ← address
      if !(← isAt '>') then malformed
      skip 1
      pure (Token.tag none suffix)
    | x => do
      if x.all isGap then
        skip 1
        pure (Token.tag none "!")
      else
        let handle ← if ← hasHandle then handle else do
          skip 1
          pure "!"
        pure (Token.tag (some handle) (← address))
  expectWordEnd
  return token

def number : Reading Int := do
  let ds ← ahead 0 Char.isDigit
  if ds.isEmpty then malformed
  let n ← ((Numeral.read 10 (Text.ofChars ds)).mapError .numeral : Result Int)
  skip ds.length
  return n

def version : Reading Directive := do
  pass (· == ' ')
  let major ← number
  if !(← isAt '.') then malformed
  skip 1
  let _ ← number
  expectWordEnd
  return .version major

/-- Reads what a directive about a tag handle says. -/
def handleDirective : Reading Directive := do
  pass (· == ' ')
  let handle ← handle
  if !(← isAt ' ') then malformed
  pass (· == ' ')
  let expansion ← address
  expectWordEnd
  return .handle handle expansion

def directive : Reading Token := do
  skip 1
  let name ← name
  expectWordEnd
  let d ←
    if name == "YAML" then version
    else if name == "TAG" then handleDirective
    else do
      pass (!isBreak ·)
      pure Directive.other
  endLine
  return .directive d

end Reading

end Chip8.Markup
