/-!
# Tables

A `Table` keeps items in slots. Every item comes with a number, from which it follows where the item
is looked for: in a slot, in the nine behind it if there are as many, then in some other slot, and
so on; it is kept in the first of them that was free. A table has room for more than twice its
items, so there always is a free one.
-/

namespace Chip8

/-- Slots, some of which hold an item. The number of slots is a power of two. -/
abbrev Table (α : Type) := Array (Option α)

namespace Table

def sizeFor (count : Nat) : Nat :=
  if count < 5 then 8 else Nat.pow 2 (Nat.log2 (2 * count) + 1)

/-- The number of slots behind the first that are tried at once. -/
def neighbours : Nat := 9

/-- The free slot among a slot and its neighbours. -/
def freeNear? {α : Type} (t : Table α) (i : Nat) : Option Nat :=
  let count := if i + neighbours < t.size then neighbours + 1 else 1
  (List.range' i count).find? fun k => (t.getD k none).isNone

/-- The free slot for a number of which `rest` has not been used up, from the slot `i` on; no more
than `fuel` slots and their neighbours are tried. -/
def free? {α : Type} (t : Table α) (i rest : Nat) : Nat → Option Nat
  | 0 => none
  | fuel + 1 => freeNear? t i <|> free? t ((5 * i + 1 + rest / 32) % t.size) (rest / 32) fuel

def insert {α : Type} (t : Table α) (number : Nat) (x : α) : Table α :=
  match free? t (number % t.size) number (t.size + 16) with
  | some i => t.setIfInBounds i (some x)
  | none => t

/-- The items of a table in the order of their slots. -/
def items {α : Type} (t : Table α) : List α :=
  t.toList.filterMap id

/-- The table of items with their numbers, put in one after the other. -/
def ofList {α : Type} (xs : List (Nat × α)) : Table α :=
  xs.foldl (fun t (number, x) => t.insert number x) (Array.replicate (sizeFor xs.length) none)

end Table

end Chip8
