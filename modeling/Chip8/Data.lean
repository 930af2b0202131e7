import Chip8.Nesting
import Chip8.Table
import Chip8.Value.Number

/-!
# Data

`Data` is a value together with the store that its collections are kept in. A collection refers to
its members by value, so it can lie in several others, or inside itself. `plain` and `full` are the
two ways of writing data: in full a text is quoted, and the members of a collection always are; a
collection inside itself is not written again. Neither works for an integer that takes too many
digits, or for too many collections inside each other.
-/

namespace Chip8

/-- A collection of values. The entries of a mapping keep their order, and no two of them have the
same key. -/
inductive Collection where
  | pair (first second : Value)
  | list (items : List Value)
  | set (members : List Value)
  | map (entries : List (Value × Value))
  deriving Inhabited

abbrev Store := Array Collection

/-- A value in its store. -/
structure Data where
  store : Store
  value : Value
  deriving Inhabited

/-- Why a value cannot be written. -/
inductive WritingError where
  | tooLong
  | tooDeep
  deriving DecidableEq

def WritingError.message : WritingError → String
  | .tooLong => Numeral.tooLongToWrite
  | .tooDeep => "maximum recursion depth exceeded while getting the repr of an object"

namespace Collection

def kindName : Collection → String
  | .pair _ _ => "tuple"
  | .list _ => "list"
  | .set _ => "set"
  | .map _ => "dict"

def isEmpty : Collection → Bool
  | .pair _ _ => false
  | .list items => items.isEmpty
  | .set members => members.isEmpty
  | .map entries => entries.isEmpty

/-- What is written in place of a collection inside itself. -/
def elided : Collection → String
  | .pair _ _ => "(...)"
  | .list _ => "[...]"
  | .set _ => "set(...)"
  | .map _ => "\x7b...\x7d"

def bracket (opening closing : String) (members : List String) : String :=
  opening ++ String.intercalate ", " members ++ closing

/-- The members of a set in the order in which they are written, which is that of the table that
keeps them. A set with a member that has no number stays as it was given. -/
def inOrder (members : List Value) : List Value :=
  match members.mapM fun v => v.number?.map (·, v) with
  | some numbered => (Table.ofList numbered).items
  | none => members

/-- A collection in full, given how its members are written. -/
def full (write : Value → Except WritingError String) : Collection → Except WritingError String
  | .pair a b => ([a, b].mapM write).map (bracket "(" ")")
  | .list items => (items.mapM write).map (bracket "[" "]")
  | .set members =>
    if members.isEmpty then .ok "set()"
    else ((inOrder members).mapM write).map (bracket "\x7b" "\x7d")
  | .map entries =>
    (entries.mapM fun (k, v) => do return (← write k) ++ ": " ++ (← write v)).map
      (bracket "\x7b" "\x7d")

end Collection

namespace Data

def collection? (d : Data) : Option Collection :=
  match d.value with
  | .stored place => d.store[place]?
  | _ => none

def withValue (d : Data) (v : Value) : Data :=
  ⟨d.store, v⟩

def kindName (d : Data) : String :=
  match d.value with
  | .null => "NoneType"
  | .bool _ => "bool"
  | .int _ => "int"
  | .float _ => "float"
  | .notANumber _ => "float"
  | .text _ => "str"
  | .date _ => "date"
  | .moment _ => "datetime"
  | .bytes _ => "bytes"
  | .stored _ => (d.collection?.map Collection.kindName).getD "NoneType"

/-- Whether a value counts as nothing: null, false, zero, or without members. -/
def isNothing (d : Data) : Bool :=
  match d.value with
  | .null => true
  | .bool b => !b
  | .int n => n == 0
  | .float x => x == 0
  | .text t => t.isEmpty
  | .bytes bs => bs.isEmpty
  | .stored _ => d.collection?.any Collection.isEmpty
  | _ => false

def items? (d : Data) : Option (List Data) :=
  match d.collection? with
  | some (.list items) => some (items.map d.withValue)
  | _ => none

def entries? (d : Data) : Option (List (Data × Data)) :=
  match d.collection? with
  | some (.map entries) => some (entries.map fun (k, v) => (d.withValue k, d.withValue v))
  | _ => none

/-- The value of a text key among the entries of a mapping. -/
def lookup (entries : List (Data × Data)) (key : String) : Option Data :=
  (entries.find? fun entry => entry.1.value.sameKey (.text key)).map (·.2)

/-- What is found under a key is the value of an entry. -/
theorem mem_of_lookup {entries : List (Data × Data)} {key : String} {d : Data}
    (h : lookup entries key = some d) :
    ∃ host, (host, d) ∈ entries := by
  unfold lookup at h
  obtain ⟨entry, hfind, rfl⟩ := Option.map_eq_some_iff.mp h
  exact ⟨entry.1, List.mem_of_find?_eq_some hfind⟩

def atom (v : Value) : Except WritingError String :=
  match v.full? with
  | some written => .ok written
  | none => .error .tooLong

theorem atom_ne_tooDeep (v : Value) : atom v ≠ .error .tooDeep := by
  unfold atom
  split
  · exact fun h => by cases h
  · exact fun h => by cases h

/-- A value in full inside the collections at some places, with room for `room` collections inside
each other. -/
def fullInside (store : Store) (around : List Nat) (room : Nat) (v : Value) :
    Except WritingError String :=
  match v with
  | .stored place =>
    match store[place]?, room with
    | none, _ => atom v
    | some _, 0 => .error .tooDeep
    | some c, room + 1 =>
      if around.contains place then .ok c.elided
      else c.full (fullInside store (place :: around) room)
  | v => atom v

def full [NestingLimits] (d : Data) : Except WritingError String :=
  fullInside d.store [] NestingLimits.written d.value

/-- A value as plain text: like in full, but a text, a date or a moment stands for itself. -/
def plain [NestingLimits] (d : Data) : Except WritingError Text :=
  match d.value with
  | .text t => .ok t
  | .date day => .ok day.plain
  | .moment m => .ok m.plain
  | _ => d.full.map Text.ofString

/-- A value in full, if it can be written. -/
def full? [NestingLimits] (d : Data) : Option String :=
  d.full.toOption

/-- A value as plain text, if it can be written. -/
def plain? [NestingLimits] (d : Data) : Option Text :=
  d.plain.toOption

end Data

end Chip8
