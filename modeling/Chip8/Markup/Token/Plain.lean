import Chip8.Markup.Token.Quoted

/-!
# Plain scalars

A scalar without quotes ends before a colon that is followed by a gap, before a comment, and
inside brackets before their punctuation. It may go on in lines that are indented more than what
it belongs to.
-/

namespace Chip8.Markup.Reading

/-- Whether a plain scalar ends before the rest of a text. -/
def plainEnds (inFlow : Bool) (rest : List Char) : Bool :=
  match rest with
  | [] => true
  | ':' :: after =>
    after.head?.all fun x => isGap x || (inFlow && ",[]\x7b\x7d".toList.contains x)
  | x :: _ => isGap x || (inFlow && ",?[]\x7b\x7d".toList.contains x)

/-- The characters of a plain scalar up to the next gap or its end. -/
def plainFront (inFlow : Bool) : List Char → List Char
  | [] => []
  | x :: rest => if plainEnds inFlow (x :: rest) then [] else x :: plainFront inFlow rest

/-- Reads a plain scalar up to the next gap or its end. A colon behind it is one because of what
follows the colon. -/
def plainRun (inFlow : Bool) : Reading (List Char) := do
  let rest := (← get).rest
  let run := plainFront inFlow rest
  match rest.drop run.length with
  | ':' :: after => beyond after ()
  | left => beyond left ()
  skip run.length
  return run

/-- Moves over blanks and line ends, and gives the line ends; nothing if a document begins or
ends there. -/
def plainBreaks : Nat → Reading (Option (List Char))
  | 0 => return some []
  | n + 1 => do
    pass (· == ' ')
    match ← peek 0 with
    | some x =>
      if isBreak x then
        skip 1
        if ← atDocumentMark then return none
        return (← plainBreaks n).map (keptBreak x :: ·)
      else return some []
    | none => return some []

/-- Reads a gap in a plain scalar: what it counts as (nothing if the scalar ends here), and whether
a line ended in it. -/
def plainGap : Reading (List Char × Bool) := do
  let blanks ← run (· == ' ')
  match ← peek 0 with
  | some x =>
    if isBreak x then
      skip 1
      if ← atDocumentMark then return ([], true)
      match ← plainBreaks (← fuel) with
      | some kept => return (foldBreak x kept, true)
      | none => return ([], true)
    else return (blanks, false)
  | none => return (blanks, false)

/-- Reads the runs of a plain scalar that belongs to something indented by less than `indent`
columns. `gap` is what lies before the next run, and `broken` whether a line ended in it. -/
def plainRuns (inFlow : Bool) (indent : Int) : Nat → List Char → Bool → Reading (List Char × Bool)
  | 0, _, broken => return ([], broken)
  | n + 1, gap, broken => do
    if ← isAt '#' then return ([], broken)
    let run ← plainRun inFlow
    if run.isEmpty then return ([], broken)
    let (next, broken) ← plainGap
    if next.isEmpty then return (gap ++ run, broken)
    if ← isAt '#' then return (gap ++ run, broken)
    if !inFlow && (← get).column < indent then return (gap ++ run, broken)
    let (more, broken) ← plainRuns inFlow indent n next broken
    return (gap ++ run ++ more, broken)

/-- Reads a plain scalar. Also tells whether a line ended behind it. -/
def plain (inFlow : Bool) (indent : Int) : Reading (Token × Bool) := do
  let (cs, broken) ← plainRuns inFlow indent (← fuel) [] false
  return (.scalar (Text.ofChars cs) true, broken)

end Chip8.Markup.Reading
