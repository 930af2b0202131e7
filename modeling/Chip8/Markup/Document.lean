import Chip8.Markup.Node.Data
import Chip8.Markup.Node.Grammar
import Chip8.Markup.Source

/-!
# Documents

`Markup.read` gives the data that a text in the markup language YAML 1.1 stands for. A text has one
document at most; without one its data is null.
-/

namespace Chip8.Markup

def read [NestingLimits] (bytes : List UInt8) : Result Data := do
  let source := Source.ofBytes bytes
  let (root, graph) ← Graph.ofTokens (Token.ofText source.readable source.obstacle)
  match root with
  | none => .ok ⟨#[], .null⟩
  | some id => graph.data id

end Chip8.Markup
