import Chip8.Breakpoint.Entry
import Chip8.Debugger
import Chip8.Pane.Dialog

/-!
# The breakpoint pane

The breakpoint pane lists breakpoints and edits them: new ones are typed in, and a row can be
switched on and off or removed. The pane does not own the breakpoints of a debugger. Every change of
its rows comes with a `BreakpointEdit`, and whoever follows the edits (`Debugger.follow`) has the
breakpoints of the rows.

The rows stand in a table widget. Of it is taken for granted that a row is appended below the others
and keeps what is put into its cells, that removing a row moves up those below it and takes its
cells along, that cells are selected row by row, and that there is nothing to be had from a row that
does not exist. A row keeps its breakpoint beside the texts of its cells, so whoever changes the one
has to change the others.
-/

namespace Chip8

/-- A change of the rows of a breakpoint pane. -/
inductive BreakpointEdit where
  | added (b : Breakpoint)
  | removed (b : Breakpoint)
  | updated (old new : Breakpoint)
  deriving DecidableEq

/-- Does to the breakpoints of a debugger what was done to the rows. -/
def Debugger.follow (d : Debugger) : BreakpointEdit → Debugger
  | .added b => d.add b
  | .removed b => d.remove b
  | .updated old new => d.update old new

/-- A row of the breakpoint pane: the texts of its three cells, and the breakpoint kept with the
first of them. -/
structure BreakpointRow where
  breakpoint : Breakpoint
  kind : String
  condition : Text
  status : String
  selected : Bool
  deriving DecidableEq

namespace BreakpointRow

/-- Keeps a breakpoint with a row and says in it whether the breakpoint is enabled. The other
texts stay. -/
def hold (row : BreakpointRow) (b : Breakpoint) : BreakpointRow :=
  { row with breakpoint := b, status := if b.enabled then "Active" else "Disabled" }

def ofBreakpoint (b : Breakpoint) : BreakpointRow :=
  hold
    { breakpoint := b
      kind := b.kind.label
      condition := b.describe
      status := ""
      selected := false } b

end BreakpointRow

/-- A column of the breakpoint pane. -/
inductive BreakpointColumn where
  | kind
  | condition
  | status
  deriving DecidableEq

def BreakpointColumn.all : List BreakpointColumn :=
  [.kind, .condition, .status]

def BreakpointRow.text (row : BreakpointRow) : BreakpointColumn → Text
  | .kind => row.kind
  | .condition => row.condition
  | .status => row.status

/-- A cell of the breakpoint pane by the number of its row. -/
structure BreakpointCell where
  row : Nat
  column : BreakpointColumn
  deriving DecidableEq

/-- Why a row cannot be edited. -/
inductive RowError where
  | missing
  deriving DecidableEq

def RowError.message : RowError → String
  | .missing => "'NoneType' object has no attribute 'data'"

/-- The breakpoint pane. -/
structure BreakpointPane where
  rows : List BreakpointRow
  entry : Text

namespace BreakpointPane

/-- The pane without rows. -/
def empty : BreakpointPane :=
  ⟨[], []⟩

def breakpoints (p : BreakpointPane) : List Breakpoint :=
  p.rows.map (·.breakpoint)

/-- Whether the selected rows can be removed: some row must be selected. -/
def canRemove (p : BreakpointPane) : Bool :=
  p.rows.any (·.selected)

/-- Adds a breakpoint that is typed in, unless a row has the same one. Gives the
breakpoint added. -/
def add (p : BreakpointPane) (kind : BreakpointKind) (typed : Text) :
    Except EntryError (Option Breakpoint) × List BreakpointEdit × BreakpointPane :=
  match Breakpoint.parse kind typed with
  | .error e => (.error e, [], p)
  | .ok b =>
    if p.breakpoints.contains b then (.ok none, [], p)
    else (.ok (some b), [.added b], { p with rows := p.rows ++ [.ofBreakpoint b] })

/-- The warning about a text that is no breakpoint. -/
def warning (e : EntryError) : Dialog :=
  ⟨.warning, "Breakpoint", e.message⟩

/-- Adds what stands in the entry field after typing. The field is cleared if a breakpoint
was added. -/
def submit (p : BreakpointPane) (kind : BreakpointKind) (typed : Text) :
    List Dialog × List BreakpointEdit × BreakpointPane :=
  match { p with entry := typed }.add kind typed with
  | (.error e, edits, p) => ([warning e], edits, p)
  | (.ok none, edits, p) => ([], edits, p)
  | (.ok (some _), edits, p) => ([], edits, { p with entry := [] })

def toggle (p : BreakpointPane) (row : Fin p.rows.length) : List BreakpointEdit × BreakpointPane :=
  let r := p.rows[row]
  let new := { r.breakpoint with enabled := !r.breakpoint.enabled }
  ([.updated r.breakpoint new], { p with rows := p.rows.set row (r.hold new) })

def remove (p : BreakpointPane) (row : Fin p.rows.length) : List BreakpointEdit × BreakpointPane :=
  ([.removed p.rows[row].breakpoint], { p with rows := p.rows.eraseIdx row })

/-- Edits the row of a number, if there is one. -/
def atRow (p : BreakpointPane) (number : Int)
    (edit : Fin p.rows.length → List BreakpointEdit × BreakpointPane) :
    Except RowError (List BreakpointEdit × BreakpointPane) :=
  if h : 0 ≤ number ∧ number.toNat < p.rows.length then .ok (edit ⟨number.toNat, h.2⟩)
  else .error .missing

def select (p : BreakpointPane) (rows : List Nat) : BreakpointPane :=
  { p with rows := p.rows.zipIdx.map fun (r, n) => { r with selected := rows.contains n } }

/-- Removes rows one after the other. -/
def removeAll (p : BreakpointPane) : List Nat → List BreakpointEdit × BreakpointPane
  | [] => ([], p)
  | row :: rest =>
    if h : row < p.rows.length then
      let (edits, p) := p.remove ⟨row, h⟩
      let (more, p) := removeAll p rest
      (edits ++ more, p)
    else removeAll p rest

/-- The rows in which some cells stand, each of them once, the highest first. -/
def rowsDown (cells : List BreakpointCell) : List Nat :=
  (cells.map (·.row)).eraseDups.mergeSort fun a b => b ≤ a

/-- Removes the rows in which some cells stand, the highest first, so that the others to come keep
their numbers. -/
def removeCells (p : BreakpointPane) (cells : List BreakpointCell) :
    List BreakpointEdit × BreakpointPane :=
  p.removeAll (rowsDown cells)

def selectedCells (p : BreakpointPane) : List BreakpointCell :=
  (p.rows.zipIdx.filter (·.1.selected)).flatMap fun (_, n) => BreakpointColumn.all.map (⟨n, ·⟩)

def removeSelected (p : BreakpointPane) : List BreakpointEdit × BreakpointPane :=
  p.removeCells p.selectedCells

end BreakpointPane

end Chip8
