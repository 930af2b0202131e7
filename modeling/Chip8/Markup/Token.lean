import Chip8.Markup.Error

/-!
# Tokens

A markup text is a list of tokens. Some of them stand for characters; others are implied by the
layout of the text: that a block sequence or a block mapping begins or ends, and that what follows
is a key.
-/

namespace Chip8.Markup

/-- What a line that begins with a percent sign says. -/
inductive Directive where
  | version (major : Int)
  | handle (name expansion : String)
  | other
  deriving DecidableEq

/-- A piece of a markup text. -/
inductive Token where
  | directive (d : Directive)
  | documentStart
  | documentEnd
  | blockSequenceStart
  | blockMappingStart
  | blockEnd
  | flowSequenceStart
  | flowSequenceEnd
  | flowMappingStart
  | flowMappingEnd
  | flowEntry
  | blockEntry
  | key
  | value
  | alias (name : String)
  | anchor (name : String)
  | tag (handle : Option String) (suffix : String)
  | scalar (text : Text) (isPlain : Bool)
  deriving DecidableEq

end Chip8.Markup
