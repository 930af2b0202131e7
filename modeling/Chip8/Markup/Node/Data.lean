import Chip8.Data
import Chip8.Markup.Node
import Chip8.Markup.Scalar

/-!
# The data of a document

`Graph.data` is the data that the outermost node of a document stands for. A node stands for one
value wherever it is referred to. A collection gets its place in the store at once and is filled in
later, when those before it have been filled in; so a collection can be a member of itself, and of
several things wrong the first one that is met in this order is reported. Only when a mapping is
filled in, others are merged into it.
-/

namespace Chip8.Markup

/-- A collection that is to be filled in: its node and its place. -/
structure Unfilled where
  node : Nat
  place : Nat

/-- A document whose data is being worked out: its nodes, the values known of them, the collections,
and the order in which these are filled in, with the number of those that have been. -/
structure Draft where
  graph : Graph
  known : Array (Option Value)
  store : Store
  order : Array Unfilled
  filled : Nat

abbrev Drafting := StateT Draft Result

namespace Drafting

def fail {α : Type} : Drafting α :=
  throw .malformed

def place (c : Collection) : Drafting Nat :=
  modifyGet fun d => (d.store.size, { d with store := d.store.push c })

/-- The text of a node: its own, or for a mapping that of what is under its value key. No more than
`fuel` nodes are looked at. -/
def textWithin (g : Graph) : Nat → Nat → Result Text
  | 0, _ => throw .tooDeep
  | fuel + 1, id =>
    match g[id]? with
    | some (.scalar _ text) => return text
    | some (.mapping _ entries) =>
      match entries.find? fun entry => g.tag? entry.1 == some .value with
      | some entry => textWithin g fuel entry.2
      | none => malformed
    | _ => malformed

/-- The text of a node. If all nodes have been looked at, one of them lies under its own
value key. -/
def text (g : Graph) (id : Nat) : Result Text :=
  textWithin g (g.size + 1) id

def scalar (g : Graph) (id : Nat) (tag : Tag) : Result Value := do
  if !tag.isScalar then malformed
  let text ← text g id
  if tag == .timestamp && g[id]?.any Node.isMapping then throw .mappingForMoment
  else scalarValue tag (id + 1) text

/-- The collection that a tag asks for, before it is filled in. -/
def vacant? : Tag → Option Collection
  | .sequence | .orderedMap | .pairs => some (.list [])
  | .mapping => some (.map [])
  | .set => some (.set [])
  | _ => none

/-- The value of a node that is not known yet. -/
def newValue (id : Nat) (tag : Tag) : Drafting Value := do
  match vacant? tag with
  | none => scalar (← get).graph id tag
  | some c =>
    let p ← place c
    modify fun d => { d with order := d.order.push ⟨id, p⟩ }
    return .stored p

def value (id : Nat) : Drafting Value := do
  match (← get).known[id]?.join, (← get).graph.tag? id with
  | some v, _ => return v
  | none, none => fail
  | none, some tag =>
    let v ← newValue id tag
    modify fun d => { d with known := d.known.setIfInBounds id (some v) }
    return v

/-- The value of a node that is a key. Collections cannot be keys. -/
def key (id : Nat) : Drafting Value := do
  match ← value id with
  | .stored _ => fail
  | v => return v

def items (id : Nat) : Drafting (List Value) := do
  match (← get).graph[id]? with
  | some (.sequence _ items) => items.mapM value
  | _ => fail

/-- The entries of a mapping into which others have been merged. -/
def entries (id : Nat) : Drafting (List (Value × Value)) := do
  if (← get).graph[id]?.any Node.isMapping then
    let g ← (← get).graph.merge id
    modify fun d => { d with graph := g }
    let pairs ← (g.entries id).mapM fun (k, v) => return (← key k, ← value v)
    return Value.unite pairs
  else fail

/-- A pair, which is written as a mapping with one entry. -/
def pair (id : Nat) : Drafting Value := do
  match (← get).graph[id]? with
  | some (.mapping _ [(k, v)]) =>
    let first ← value k
    let second ← value v
    return .stored (← place (.pair first second))
  | _ => fail

def pairs (id : Nat) : Drafting (List Value) := do
  match (← get).graph[id]? with
  | some (.sequence _ items) => items.mapM pair
  | _ => fail

/-- The collection that the node with a tag stands for. -/
def filled (id : Nat) : Tag → Drafting Collection
  | .sequence => do return .list (← items id)
  | .mapping => do return .map (← entries id)
  | .set => do return .set ((← entries id).map (·.1))
  | .orderedMap | .pairs => do return .list (← pairs id)
  | _ => fail

/-- Fills in the collections that are to be filled in, and those that come up meanwhile. There is at
most one for each node. -/
def fillIn : Nat → Drafting Unit
  | 0 => return ()
  | fuel + 1 => do
    let d ← get
    match d.order[d.filled]? with
    | none => return ()
    | some u =>
      set { d with filled := d.filled + 1 }
      match (← get).graph.tag? u.node with
      | none => fail
      | some tag =>
        let c ← filled u.node tag
        modify fun d => { d with store := d.store.setIfInBounds u.place c }
        fillIn fuel

/-- The value of the outermost node, with everything filled in. -/
def root (id : Nat) : Drafting Value := do
  let v ← value id
  fillIn ((← get).graph.size + 1)
  return v

end Drafting

/-- The data that the node with a number stands for. -/
def Graph.data (g : Graph) (id : Nat) : Result Data :=
  ((Drafting.root id).run ⟨g, Array.replicate g.size none, #[], #[], 0⟩).map fun (v, d) =>
  ⟨d.store, v⟩

end Chip8.Markup
