import Chip8.Room
import Chip8.State.Register

/-!
# The register pane

The register pane has a cell for each register of a layout. A cell shows dashes until its register
has been seen, and then the latest value that was seen, in upper-case hexadecimal with a digit for
every four bits. It is marked if the update before had another value. A layout can ask for a
negative number of digits, which no value can be written with.
-/

namespace Chip8

/-- A cell of the register pane. -/
structure RegisterCell where
  name : Text
  /-- The number of digits at least. -/
  digits : Int
  text : String
  changed : Bool
  deriving DecidableEq

/-- The cells of the register pane, and the registers of the latest update. -/
structure RegisterPane where
  cells : List RegisterCell
  last : RegisterFile

/-- Why a value cannot be shown: the digits that it is to be written with are fewer than none. -/
structure DigitsError where
  digits : Int
  deriving DecidableEq

def DigitsError.message (e : DigitsError) : String :=
  "Invalid format specifier '0" ++ Numeral.decimal e.digits ++ "X' for object of type 'int'"

namespace RegisterCell

/-- The number of hexadecimal digits that a number of bits takes. -/
def digitsFor (width : Int) : Int :=
  Int.fdiv (width + 3) 4

/-- A cell whose register has not been seen. -/
def blank (name : Text) (width : Int) : RegisterCell :=
  ⟨name, digitsFor width, String.ofList (List.replicate (digitsFor width).toNat '-'), false⟩

/-- A cell that is told the value of its register, and the value before if there was one. -/
def update (cell : RegisterCell) (before : Option Int) (value : Int) : RegisterCell :=
  { cell with
    text := Numeral.upperHex cell.digits.toNat value
    changed := before.any (· != value) }

end RegisterCell

namespace RegisterPane

/-- The pane without a layout. -/
def empty : RegisterPane :=
  ⟨[], []⟩

/-- Puts a cell behind the others; one for the same register gives its place to it. -/
def place (cells : List RegisterCell) (cell : RegisterCell) : List RegisterCell :=
  match cells with
  | [] => [cell]
  | c :: rest => if c.name == cell.name then cell :: rest else c :: place rest cell

/-- The pane for registers, on which nothing has been seen. -/
def ofRegisters (registers : List (Text × Int)) : RegisterPane :=
  ⟨registers.foldl (fun cells r => place cells (.blank r.1 r.2)) [], []⟩

def ofLayout (layout : List RegisterGroup) : RegisterPane :=
  ofRegisters (layout.flatMap (·.registers))

/-- The pane of a layout on a computer that has room for `most` dashes in a row: it ends at a cell
that asks for more of them. -/
def ofLayoutWithin (most : Int) (layout : List RegisterGroup) :
    Except RoomError Unit × RegisterPane :=
  let (placed, left) :=
    (layout.flatMap (·.registers)).span fun r => (room most (RegisterCell.digitsFor r.2)).isOk
  let result := match left with
    | [] => .ok ()
    | r :: _ => (room most (RegisterCell.digitsFor r.2)).map fun _ => ()
  (result, ofRegisters placed)

/-- Whether a cell cannot show its register of a register file. -/
def defective (file : RegisterFile) (cell : RegisterCell) : Bool :=
  decide (cell.digits < 0) && (file.get? cell.name).isSome

/-- A cell after an update, given the register file of the update before. A cell whose register the
file does not have stays as it is. -/
def updateCell (last file : RegisterFile) (cell : RegisterCell) : RegisterCell :=
  match file.get? cell.name with
  | some value => cell.update (last.get? cell.name) value
  | none => cell

/-- Shows the values of a register file. A cell that cannot show its value stops the update: the
cells before it have been updated, and the update does not count as one. -/
def update (p : RegisterPane) (file : RegisterFile) : Except DigitsError Unit × RegisterPane :=
  let (done, left) := p.cells.span (!defective file ·)
  let updated := done.map (updateCell p.last file)
  match left with
  | [] => (.ok (), ⟨updated, file⟩)
  | cell :: rest => (.error ⟨cell.digits⟩, { p with cells := updated ++ cell :: rest })

def cell? (p : RegisterPane) (name : Text) : Option RegisterCell :=
  p.cells.find? (·.name == name)

def text? (p : RegisterPane) (name : Text) : Option String :=
  (p.cell? name).map (·.text)

def changed (p : RegisterPane) : List Text :=
  (p.cells.filter (·.changed)).map (·.name)

end RegisterPane

end Chip8
