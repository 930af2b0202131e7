import Chip8.Markup.Timestamp

/-!
# Nodes

A document is a graph of nodes: scalars, sequences and mappings, each with a tag. A node is referred
to by its number in the graph, so an alias is one more reference to the node it names, which may
even be one around it. `Graph.takeMerge` and `Graph.prepend` change the entries of a mapping while
others are merged into it.
-/

namespace Chip8.Markup

/-- The entries of a mapping: the numbers of their keys and values. -/
abbrev NodeEntries := List (Nat × Nat)

/-- A part of a document. -/
inductive Node where
  | scalar (tag : Tag) (text : Text)
  | sequence (tag : Tag) (items : List Nat)
  | mapping (tag : Tag) (entries : NodeEntries)

abbrev Graph := Array Node

namespace Node

/-- The node of nothing. -/
def empty : Node :=
  .scalar .null []

def tag : Node → Tag
  | .scalar tag _ => tag
  | .sequence tag _ => tag
  | .mapping tag _ => tag

def withTag (tag : Tag) : Node → Node
  | .scalar _ text => .scalar tag text
  | .sequence _ items => .sequence tag items
  | .mapping _ entries => .mapping tag entries

def isMapping : Node → Bool
  | .mapping _ _ => true
  | _ => false

end Node

namespace Graph

def tag? (g : Graph) (id : Nat) : Option Tag :=
  g[id]?.map Node.tag

/-- The entries of a node; only mappings have any. -/
def entries (g : Graph) (id : Nat) : NodeEntries :=
  match g[id]? with
  | some (.mapping _ entries) => entries
  | _ => []

def setEntries (g : Graph) (id : Nat) (entries : NodeEntries) : Graph :=
  g.modify id fun n =>
    match n with
    | .mapping tag _ => .mapping tag entries
    | n => n

def entryCount (g : Graph) : Nat :=
  (List.range g.size).foldl (fun count id => count + (g.entries id).length) 0

/-- Takes the first entry with a merge key out of a mapping, and gives what is to be merged. -/
def takeMerge (g : Graph) (id : Nat) : Option (Nat × Graph) :=
  let entries := g.entries id
  match entries.findIdx? fun entry => g.tag? entry.1 == some .merge with
  | none => none
  | some i => entries[i]?.map fun entry => (entry.2, g.setEntries id (entries.eraseIdx i))

def settleValueKeys (g : Graph) (id : Nat) : Graph :=
  (g.entries id).foldl (fun g entry =>
    if g.tag? entry.1 == some .value then g.modify entry.1 (Node.withTag .string) else g) g

def prepend (g : Graph) (id : Nat) (merged : NodeEntries) : Graph :=
  g.setEntries id (merged ++ g.entries id)

/-- The mappings that a node under a merge key stands for: itself, or those in it. -/
def sources (g : Graph) (id : Nat) : Result (List Nat) :=
  match g[id]? with
  | some (.mapping _ _) => .ok [id]
  | some (.sequence _ items) =>
    if items.all fun item => g[item]?.any Node.isMapping then .ok items else malformed
  | _ => malformed

/-- Merges into a mapping what its merge keys ask for; `merged` are the entries found so far.
Own entries come last, so that they override others, and so do the entries of the first
mappings of a sequence. The merge keys are gone afterwards. At most `fuel` of them are there in
the whole graph. -/
def mergeInto : Nat → Nat → NodeEntries → Graph → Result Graph
  | 0, id, merged, g => .ok ((g.prepend id merged).settleValueKeys id)
  | fuel + 1, id, merged, g =>
    match g.takeMerge id with
    | none => .ok ((g.prepend id merged).settleValueKeys id)
    | some (source, g) => do
      let sources ← g.sources source
      let (parts, g) ← sources.foldlM (fun (parts, g) id => do
        let g ← mergeInto fuel id [] g
        .ok (g.entries id :: parts, g)) (([] : List NodeEntries), g)
      mergeInto fuel id (merged ++ parts.flatten) g

def hasMerge (g : Graph) (id : Nat) : Bool :=
  (g.entries id).any fun entry => g.tag? entry.1 == some .merge

/-- A graph in which everything is merged into a mapping that its merge keys ask for. -/
def merge (g : Graph) (id : Nat) : Result Graph :=
  if g.hasMerge id then mergeInto g.entryCount id [] g else .ok (g.settleValueKeys id)

end Graph

end Chip8.Markup
