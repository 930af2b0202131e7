import Chip8.Text
import Chip8.Text.CaseTable

/-!
# Upper case

`upper` replaces every letter by its upper-case form, which may be longer than one letter: the text
`straße` becomes `STRASSE`. The forms do not depend on the neighbours of a letter.
-/

namespace Chip8.Text

/-- Whether a run of the case table contains a code point. -/
def CaseRun.contains (run : CaseRun) (code : Nat) : Bool :=
  run.first ≤ code && code ≤ run.last && (code - run.first) % run.stride == 0

def upperForm (c : Char) : List Char :=
  match longForms.find? (·.1 == c.toNat) with
  | some (_, form) => form.map Char.ofNat
  | none =>
    match caseRuns.find? (·.contains c.toNat) with
    | some run => [Char.ofNat (c.toNat + run.offset).toNat]
    | none => [c]

def upperPoint : CodePoint → Text
  | .char c => ofChars (upperForm c)
  | half => [half]

def upper (t : Text) : Text :=
  t.flatMap upperPoint

end Chip8.Text
