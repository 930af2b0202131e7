import Chip8.Markup.Token.Quoted

/-!
# Block scalars

A block scalar is the indented text under a bar or an angle bracket. Under a bar its lines are
kept; under an angle bracket a line end between two lines that begin with something else than a
blank counts as a blank. Signs behind the bar say what becomes of the line ends at the end (a
minus drops all of them, a plus keeps all, otherwise the first is kept), and a digit how far the
text is indented.
-/

namespace Chip8.Markup

/-- What becomes of the line ends behind a block scalar. -/
inductive Chomping where
  | strip
  | clip
  | keep
  deriving DecidableEq

/-- What the signs say. -/
structure BlockHeader where
  chomping : Chomping
  /-- The indentation beyond that of the surrounding block. -/
  indentation : Option Nat

namespace Reading

/-- Reads a chomping sign, if there is one. -/
def chomping : Reading (Option Chomping) := do
  match ← peek 0 with
  | some '+' =>
    skip 1
    return some .keep
  | some '-' =>
    skip 1
    return some .strip
  | _ => return none

/-- Reads an indentation digit, if there is one; zero is not allowed. -/
def indentationDigit : Reading (Option Nat) := do
  match ← peek 0 with
  | some x =>
    if x == '0' then malformed
    else if x.isDigit then
      skip 1
      return some (numberOf 10 [x])
    else return none
  | none => return none

/-- Reads the signs behind the bar, in either order, and moves behind the line. -/
def blockHeader : Reading BlockHeader := do
  let first ← chomping
  let digit ← indentationDigit
  let second ← if first.isSome || digit.isNone then pure none else chomping
  expectWordEnd
  endLine
  return ⟨(first <|> second).getD .clip, digit⟩

/-- Moves over the blank lines before a block scalar; gives their ends and the most
columns reached. -/
def leadingLines : Nat → Nat → Reading (List Char × Nat)
  | 0, widest => return ([], widest)
  | n + 1, widest => do
    match ← peek 0 with
    | some x =>
      if isBreak x then
        skip 1
        let (more, widest) ← leadingLines n widest
        return (keptBreak x :: more, widest)
      else if x == ' ' then
        skip 1
        leadingLines n (max widest (← get).column)
      else return ([], widest)
    | none => return ([], widest)

/-- Moves over blanks until a column is reached. -/
def indentTo (indent : Nat) : Reading Unit := do
  let c ← get
  skip ((c.rest.take (indent - c.column)).takeWhile (· == ' ')).length

/-- Moves over blank lines up to the next line of a block scalar; gives their ends. -/
def blankLines (indent : Nat) : Nat → Reading (List Char)
  | 0 => return []
  | n + 1 => do
    indentTo indent
    match ← peek 0 with
    | some x =>
      if isBreak x then
        skip 1
        return keptBreak x :: (← blankLines indent n)
      else return []
    | none => return []

/-- Whether another line of a block scalar stands here. -/
def atBlockLine (indent : Nat) : Reading Bool := do
  if (← get).column == indent then return (← peek 0).isSome else return false

/-- Reads the lines of a block scalar after the given blank lines: the text, the end of its last
line, and the ends of the blank lines behind it. -/
def blockLines (folded : Bool) (indent : Nat) :
    Nat → List Char → List Char → Reading (List Char × List Char × List Char)
  | 0, before, ending => return ([], ending, before)
  | n + 1, before, ending => do
    if ← atBlockLine indent then
      let indented ← isIn isBlank
      let line ← run (!isBreak ·)
      let ending := ((← peek 0).map keptBreak).toList
      if !ending.isEmpty then skip 1
      let blank ← blankLines indent (← fuel)
      if ← atBlockLine indent then
        let joint :=
          if folded && ending == ['\n'] && !indented && !(← isIn isBlank) then
            if blank.isEmpty then [' '] else []
          else ending
        let (more, ending, blank) ← blockLines folded indent n blank ending
        return (before ++ line ++ joint ++ more, ending, blank)
      else return (before ++ line, ending, blank)
    else return ([], ending, before)

/-- Reads a block scalar in a block that is indented by `parent` columns. -/
def block (folded : Bool) (parent : Int) : Reading Token := do
  skip 1
  let header ← blockHeader
  let least := (max 1 (parent + 1)).toNat
  let (before, indent) ←
    match header.indentation with
    | some n => do
      let indent := least + n - 1
      pure (← blankLines indent (← fuel), indent)
    | none => do
      let (before, widest) ← leadingLines (← fuel) 0
      pure (before, max least widest)
  let (text, ending, behind) ← blockLines folded indent (← fuel) before []
  let chomped := match header.chomping with
    | .strip => []
    | .clip => ending
    | .keep => ending ++ behind
  return .scalar (Text.ofChars (text ++ chomped)) false

end Reading

end Chip8.Markup
