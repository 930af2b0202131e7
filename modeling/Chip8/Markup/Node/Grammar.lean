import Chip8.Markup.Node
import Chip8.Markup.Token.Stream

/-!
# From tokens to nodes

`Graph.ofTokens` reads the one document of a text. Nodes may be left out where a key, a value or an
item is expected; they are then empty. Anchors name nodes from where they stand on, and no name is
given twice. A text without a document has no node. What is wrong behind the tokens shows only when
they have been used up.
-/

namespace Chip8.Markup

/-- The tokens that are still to be read with what is wrong behind them, the nodes so far and the
names of some, what tag handles stand for, and the number of collections around. -/
structure Pending where
  tokens : List Token
  failure : Option MarkupError
  graph : Graph
  anchors : List (String × Nat)
  handles : List (String × String)
  depth : Nat

abbrev Reader := StateT Pending Result

namespace Reader

def fail {α : Type} : Reader α :=
  throw .malformed

/-- The next token; nothing at the end of the text. -/
def peek : Reader (Option Token) := do
  let p ← get
  match p.tokens, p.failure with
  | t :: _, _ => return some t
  | [], none => return none
  | [], some e => throw e

def advance : Reader Unit :=
  modify fun p => { p with tokens := p.tokens.drop 1 }

/-- Moves behind the next token if it is a given one, and tells whether it was. -/
def accept (t : Token) : Reader Bool := do
  if (← peek) == some t then
    advance
    return true
  else return false

/-- Whether the next token is one of the given ones. -/
def isNext (ts : List Token) : Reader Bool := do
  return (← peek).any ts.contains

/-- Gives a node a number. A name, if there is one, stands for it from here on. -/
def add (anchor : Option String) (n : Node) : Reader Nat :=
  modifyGet fun p =>
    let id := p.graph.size
    let anchors := match anchor with
      | some a => (a, id) :: p.anchors
      | none => p.anchors
    (id, { p with graph := p.graph.push n, anchors := anchors })

def addEmpty : Reader Nat :=
  add none Node.empty

def inside [NestingLimits] {α : Type} (members : Reader α) : Reader α := do
  if NestingLimits.read ≤ (← get).depth then throw .tooDeep
  modify fun p => { p with depth := p.depth + 1 }
  let x ← members
  modify fun p => { p with depth := p.depth - 1 }
  return x

/-- A sequence, which has its number before its items are read. -/
def addSequence [NestingLimits] (anchor : Option String) (tag : Tag) (items : Reader (List Nat)) :
    Reader Nat := do
  let id ← add anchor (.sequence tag [])
  let members ← inside items
  modify fun p => { p with graph := p.graph.setIfInBounds id (.sequence tag members) }
  return id

/-- A mapping, which has its number before its entries are read. -/
def addMapping [NestingLimits] (anchor : Option String) (tag : Tag) (entries : Reader NodeEntries) :
    Reader Nat := do
  let id ← add anchor (.mapping tag [])
  let members ← inside entries
  modify fun p => { p with graph := p.graph.setIfInBounds id (.mapping tag members) }
  return id

def named (anchor : String) : Reader Nat := do
  match (← get).anchors.lookup anchor with
  | some id => return id
  | none => fail

/-- What stands in front of a node: its anchor, and the name of its tag. -/
structure Properties where
  anchor : Option String
  tag : Option String

namespace Properties

/-- The tag of a collection, which is `usual` unless it is named. -/
def collectionTag (p : Properties) (usual : Tag) : Tag :=
  match p.tag with
  | none => usual
  | some "!" => usual
  | some name => Tag.ofName name

/-- The tag of a scalar. Unless it is named, it follows from the form of a plain scalar; a mark
alone makes any scalar count as plain. -/
def scalarTag (p : Properties) (text : Text) (isPlain : Bool) : Tag :=
  match p.tag with
  | none => if isPlain then Tag.ofPlain text else .string
  | some "!" => Tag.ofPlain text
  | some name => Tag.ofName name

end Properties

/-- The name of a tag with its handle written out. -/
def tagName (handle : Option String) (suffix : String) : Reader String := do
  match handle with
  | none => return suffix
  | some h =>
    match (← get).handles.lookup h with
    | some expansion => return expansion ++ suffix
    | none => fail

/-- Reads an anchor, if there is one. -/
def anchor? : Reader (Option String) := do
  match ← peek with
  | some (.anchor a) =>
    advance
    return some a
  | _ => return none

/-- Reads a tag, if there is one: its handle and the rest of its name. -/
def tag? : Reader (Option (Option String × String)) := do
  match ← peek with
  | some (.tag handle suffix) =>
    advance
    return some (handle, suffix)
  | _ => return none

/-- Reads what stands in front of a node, in either order. -/
def properties : Reader Properties := do
  let first ← anchor?
  let tag ← tag?
  let anchor ← if first.isNone && tag.isSome then anchor? else pure first
  let name ← tag.mapM fun (handle, suffix) => tagName handle suffix
  return ⟨anchor, name⟩

/-- Refuses a name that stands for a node already. -/
def checkAnchor (p : Properties) : Reader Unit := do
  match p.anchor with
  | none => return ()
  | some a => if ((← get).anchors.lookup a).isSome then fail

/-- A node of which only the properties are there. -/
def absent (p : Properties) : Reader Nat :=
  if p.anchor.isSome || p.tag.isSome then do
    checkAnchor p
    add p.anchor (.scalar (p.scalarTag [] true) [])
  else fail

mutual

/-- Reads a node. Blocks are allowed if `inBlock`; items of a sequence that is not indented,
if `bare`. -/
def node [NestingLimits] (inBlock bare : Bool) : Nat → Reader Nat
  | 0 => fail
  | n + 1 => do
    match ← peek with
    | some (.alias a) =>
      advance
      named a
    | _ => content inBlock bare (← properties) n

/-- Reads what stands behind the properties of a node. -/
def content [NestingLimits] (inBlock bare : Bool) (p : Properties) : Nat → Reader Nat
  | 0 => fail
  | n + 1 => do
    let next ← peek
    let sequence := fun (items : Reader (List Nat)) => do
      checkAnchor p
      addSequence p.anchor (p.collectionTag .sequence) items
    let mapping := fun (entries : Reader NodeEntries) => do
      checkAnchor p
      addMapping p.anchor (p.collectionTag .mapping) entries
    match next with
    | some (.scalar text isPlain) =>
      checkAnchor p
      advance
      add p.anchor (.scalar (p.scalarTag text isPlain) text)
    | some .flowSequenceStart =>
      advance
      sequence (flowItems true n)
    | some .flowMappingStart =>
      advance
      mapping (flowEntries true n)
    | some .blockEntry => if bare then sequence (bareItems n) else absent p
    | some .blockSequenceStart =>
      if inBlock then
        advance
        sequence (blockItems n)
      else absent p
    | some .blockMappingStart =>
      if inBlock then
        advance
        mapping (blockEntries n)
      else absent p
    | _ => absent p

/-- Reads a node unless one of the given tokens comes next, in which case it is empty. -/
def nodeUnless [NestingLimits] (ends : List Token) (inBlock bare : Bool) : Nat → Reader Nat
  | 0 => fail
  | n + 1 => do if ← isNext ends then addEmpty else node inBlock bare n

/-- Reads the value behind a key; without a colon it is empty. -/
def valueUnless [NestingLimits] (ends : List Token) (inBlock bare : Bool) : Nat → Reader Nat
  | 0 => fail
  | n + 1 => do
    if ← accept .value then nodeUnless ends inBlock bare n else addEmpty

def blockItems [NestingLimits] : Nat → Reader (List Nat)
  | 0 => fail
  | n + 1 => do
    if ← accept .blockEntry then
      let x ← nodeUnless [.blockEntry, .blockEnd] true false n
      return x :: (← blockItems n)
    else if ← accept .blockEnd then return []
    else fail

/-- Reads the items of a sequence that is not indented. -/
def bareItems [NestingLimits] : Nat → Reader (List Nat)
  | 0 => fail
  | n + 1 => do
    if ← accept .blockEntry then
      let x ← nodeUnless [.blockEntry, .key, .value, .blockEnd] true false n
      return x :: (← bareItems n)
    else return []

def blockEntries [NestingLimits] : Nat → Reader NodeEntries
  | 0 => fail
  | n + 1 => do
    if ← accept .key then
      let k ← nodeUnless [.key, .value, .blockEnd] true true n
      let v ← valueUnless [.key, .value, .blockEnd] true true n
      return (k, v) :: (← blockEntries n)
    else if ← accept .blockEnd then return []
    else fail

/-- Reads the items of a sequence in brackets. An item with a key is a mapping of one entry. -/
def flowItems [NestingLimits] (isFirst : Bool) : Nat → Reader (List Nat)
  | 0 => fail
  | n + 1 => do
    if ← accept .flowSequenceEnd then return []
    else
      let separated ← if isFirst then pure true else accept .flowEntry
      if !separated then fail
      else if ← accept .flowSequenceEnd then return []
      else if ← accept .key then
        let x ← addMapping none .mapping do
          let k ← nodeUnless [.value, .flowEntry, .flowSequenceEnd] false false n
          let v ← valueUnless [.flowEntry, .flowSequenceEnd] false false n
          return [(k, v)]
        return x :: (← flowItems false n)
      else
        let x ← node false false n
        return x :: (← flowItems false n)

/-- Reads the entries of a mapping in brackets. A node that is not marked as a key has an
empty value. -/
def flowEntries [NestingLimits] (isFirst : Bool) : Nat → Reader NodeEntries
  | 0 => fail
  | n + 1 => do
    if ← accept .flowMappingEnd then return []
    else
      let separated ← if isFirst then pure true else accept .flowEntry
      if !separated then fail
      else if ← accept .flowMappingEnd then return []
      else if ← accept .key then
        let k ← nodeUnless [.value, .flowEntry, .flowMappingEnd] false false n
        let v ← valueUnless [.flowEntry, .flowMappingEnd] false false n
        return (k, v) :: (← flowEntries false n)
      else
        let k ← node false false n
        let v ← addEmpty
        return (k, v) :: (← flowEntries false n)

end

/-- Takes a directive into account: the version is given once at most and is 1, and no handle is
explained twice. -/
def directive (versionGiven : Bool) (d : Directive) : Reader Bool := do
  match d with
  | .version major => if versionGiven || major != 1 then fail else return true
  | .handle h expansion =>
    if ((← get).handles.lookup h).isSome then fail
    else
      modify fun p => { p with handles := (h, expansion) :: p.handles }
      return versionGiven
  | .other => return versionGiven

def directives (versionGiven : Bool) : Nat → Reader Unit
  | 0 => fail
  | n + 1 => do
    match ← peek with
    | some (.directive d) =>
      advance
      directives (← directive versionGiven d) n
    | _ => return ()

/-- What tag handles stand for unless directives say otherwise. -/
def usualHandles : List (String × String) :=
  [("!", "!"), ("!!", Tag.space)]

/-- Whether a document that begins with its mark has nothing in it. -/
def documentEnds : Reader Bool := do
  match ← peek with
  | none => return true
  | some (.directive _) => return true
  | some .documentStart => return true
  | some .documentEnd => return true
  | _ => return false

/-- Reads the directives and the mark with which a document begins. -/
def opening (fuel : Nat) : Reader Unit := do
  modify fun p => { p with handles := [] }
  directives false fuel
  modify fun p => { p with handles := p.handles ++ usualHandles }
  if ← accept .documentStart then return () else fail

/-- Reads a document, with or without a mark at its beginning. -/
def document [NestingLimits] (fuel : Nat) : Reader Nat := do
  match ← peek with
  | some (.directive _) => marked
  | some .documentStart => marked
  | _ =>
    modify fun p => { p with handles := usualHandles }
    node true false fuel
where
  marked : Reader Nat := do
    opening fuel
    if ← documentEnds then addEmpty else node true false fuel

/-- Moves over the marks at the end of a document. -/
def closing : Nat → Reader Unit
  | 0 => fail
  | n + 1 => do if ← accept .documentEnd then closing n else return ()

/-- Reads a text with one document at most. -/
def text [NestingLimits] (fuel : Nat) : Reader (Option Nat) := do
  if (← peek).isNone then return none
  else
    let root ← document fuel
    closing fuel
    if (← peek).isSome then
      opening fuel
      fail
    else return some root

end Reader

/-- The nodes of the tokens of a text, and the number of the outermost one, if there is a
document. -/
def Graph.ofTokens [NestingLimits] (ts : Tokens) : Result (Option Nat × Graph) :=
  let start : Pending := ⟨ts.list, ts.failure, #[], [], [], 0⟩
  ((Reader.text (4 * ts.list.length + 4)).run start).map fun (root, left) => (root, left.graph)

end Chip8.Markup
