import Chip8.Room
import Chip8.Value

/-!
# Memory

A memory is a fixed number of byte cells and a log of the accesses since the log was last taken.
Reading and writing cells is logged, peeking and loading is not. An address is any integer;
`contains` tells which ones have a cell. Each single access comes in two forms: with an error
for addresses without a cell (`read`, `peek`, `write`), and in the form that instructions use,
where such cells read as zero and cannot be changed (`fetchCell`, `storeCell` and the block
forms of both).
-/

namespace Chip8

/-- One logged access to a cell. -/
inductive Access where
  | read (address : Int) (data : UInt8)
  | write (address : Int) (data previous : UInt8)
  deriving DecidableEq

def Access.address : Access → Int
  | .read a _ => a
  | .write a _ _ => a

/-- How the size of a memory was given: as a number, or as the truth value true, which counts
as one. -/
inductive Size where
  | number (n : Nat)
  | truth
  deriving DecidableEq

def Size.toNat : Size → Nat
  | .number n => n
  | .truth => 1

def Size.text : Size → String
  | .number n => Numeral.decimal n
  | .truth => "True"

/-- Byte cells with a log of accesses, the earliest first. -/
structure Memory where
  cells : Array UInt8
  log : List Access
  size : Size

/-- What can go wrong with a memory. -/
inductive MemoryError where
  /-- The size is not a positive integer. -/
  | badSize
  | room (e : RoomError)
  | noCell (address : Int) (size : Size)
  /-- The value does not fit into a cell. -/
  | notByte (value : Int)
  /-- A block of cells does not lie in the memory. -/
  | noBlock (first last : Int) (size : Size)
  /-- A block holds a value that does not fit into a cell. -/
  | notBytes
  deriving DecidableEq

def MemoryError.message : MemoryError → String
  | .badSize => "Memory size must be a positive integer."
  | .room e => e.message
  | .noCell a size =>
    "Address " ++ Numeral.markedHex 6 a ++ " out of bounds for memory of size " ++
      size.text ++ "."
  | .notByte v => "Value " ++ Numeral.decimal v ++ " does not fit in a byte."
  | .noBlock first last size =>
    "Block " ++ Numeral.markedHex 6 first ++ "-" ++ Numeral.markedHex 6 last ++
      " does not fit in memory of size " ++ size.text ++ "."
  | .notBytes => "bytes must be in range(0, 256)"

namespace Memory

def standardSize : Nat := 0x1000

def blank (size : Size) : Memory :=
  ⟨Array.replicate size.toNat 0, [], size⟩

/-- A memory with a number of cells, on a computer that has room for `most` of them. -/
def ofCount (most n : Int) : Except MemoryError Memory :=
  if n ≤ 0 then .error .badSize
  else ((room most n).mapError .room).map fun count => blank (.number count)

def ofSize (most : Int) : Value → Except MemoryError Memory
  | .bool true => .ok (blank .truth)
  | .int n => ofCount most n
  | _ => .error .badSize

def ofCells (cells : Array UInt8) : Memory :=
  ⟨cells, [], .number cells.size⟩

def contains (m : Memory) (a : Int) : Bool :=
  decide (0 ≤ a ∧ a < m.cells.size)

/-- The byte at an address, if there is a cell. -/
def get? (m : Memory) (a : Int) : Option UInt8 :=
  if 0 ≤ a then m.cells[a.toNat]? else none

/-- There is a byte exactly where there is a cell. -/
theorem get?_eq_none_iff (m : Memory) (a : Int) : m.get? a = none ↔ m.contains a = false := by
  unfold get? contains
  rw [decide_eq_false_iff_not]
  split
  next h =>
    rw [Array.getElem?_eq_none_iff]
    omega
  next h =>
    refine iff_of_true rfl ?_
    rintro ⟨h0, -⟩
    exact h h0

theorem get?_eq_some_iff (m : Memory) (a : Int) (b : UInt8) :
    m.get? a = some b ↔ 0 ≤ a ∧ m.cells[a.toNat]? = some b := by
  unfold get?
  split
  next h => simp [h]
  next h => simp [h]

theorem contains_of_get? {m : Memory} {a : Int} {b : UInt8} (h : m.get? a = some b) :
    m.contains a = true := by
  rw [← Bool.not_eq_false]
  intro hno
  rw [(m.get?_eq_none_iff a).mpr hno] at h
  cases h

/-- The byte at an address, zero where there is no cell. -/
def getD (m : Memory) (a : Int) : UInt8 :=
  (m.get? a).getD 0

/-- Changes a cell without logging it; an address without a cell is passed over. -/
def set (m : Memory) (a : Int) (b : UInt8) : Memory :=
  if 0 ≤ a then { m with cells := m.cells.setIfInBounds a.toNat b } else m

@[simp] theorem size_set (m : Memory) (a : Int) (b : UInt8) :
    (m.set a b).cells.size = m.cells.size := by
  unfold set
  split
  · exact Array.size_setIfInBounds ..
  · rfl

theorem get?_set_ne (m : Memory) {a c : Int} (b : UInt8) (h : c ≠ a) :
    (m.set a b).get? c = m.get? c := by
  unfold set
  split
  next ha =>
    unfold get?
    split
    next hc =>
      have hne : a.toNat ≠ c.toNat := by omega
      exact Array.getElem?_setIfInBounds_ne hne
    next => rfl
  next => rfl

theorem get?_set_self {m : Memory} {a : Int} (b : UInt8) (h : m.contains a = true) :
    (m.set a b).get? a = some b := by
  unfold contains at h
  obtain ⟨h0, h1⟩ := of_decide_eq_true h
  have hlt : a.toNat < m.cells.size := by omega
  unfold set get?
  rw [if_pos h0, if_pos h0, Array.getElem?_setIfInBounds_self_of_lt hlt]

/-- Putting back what was there undoes a change. -/
theorem set_set_of_get? {m : Memory} {a : Int} {b previous : UInt8} (h : m.get? a = some previous) :
    (m.set a b).set a previous = m := by
  obtain ⟨ha, hcell⟩ := (m.get?_eq_some_iff a previous).mp h
  obtain ⟨hlt, hval⟩ := Array.getElem?_eq_some_iff.mp hcell
  have hcells : (m.cells.setIfInBounds a.toNat b).setIfInBounds a.toNat previous = m.cells := by
    rw [Array.setIfInBounds_setIfInBounds, ← hval, Array.setIfInBounds_def, dif_pos hlt,
      Array.set_getElem_self]
  unfold set
  rw [if_pos ha, if_pos ha]
  exact congrArg (fun cells => { m with cells := cells }) hcells

theorem log_set (m : Memory) (a : Int) (b : UInt8) : (m.set a b).log = m.log := by
  unfold set
  split
  · rfl
  · rfl

theorem cells_set_congr {m m' : Memory} (a : Int) (b : UInt8) (h : m.cells = m'.cells) :
    (m.set a b).cells = (m'.set a b).cells := by
  unfold set
  split
  · exact congrArg (·.setIfInBounds a.toNat b) h
  · exact h

def record (m : Memory) (access : Access) : Memory :=
  { m with log := m.log ++ [access] }

@[simp] theorem cells_record (m : Memory) (access : Access) :
    (m.record access).cells = m.cells := rfl

/-- The blocks of `size` cells that are not all zero, each behind its address. The last one may
be shorter. -/
def usedBlocks (m : Memory) (size : Nat) : List (Nat × List UInt8) :=
  let starts := (List.range ((m.cells.size + size - 1) / size)).map (size * ·)
  (starts.map fun a => (a, (m.cells.extract a (a + size)).toList)).filter (·.2.any (· != 0))

def clearLog (m : Memory) : Memory :=
  { m with log := [] }

theorem clearLog_set (m : Memory) (a : Int) (b : UInt8) :
    (m.set a b).clearLog = m.clearLog.set a b := by
  unfold set
  split
  · rfl
  · rfl

/-! ## Access with errors -/

/-- The byte at an address, not logged. -/
def peek (m : Memory) (a : Int) : Except MemoryError UInt8 :=
  match m.get? a with
  | some b => .ok b
  | none => .error (.noCell a m.size)

def read (m : Memory) (a : Int) : Except MemoryError (UInt8 × Memory) :=
  match m.get? a with
  | some b => .ok (b, m.record (.read a b))
  | none => .error (.noCell a m.size)

/-- Writes a value into a cell, logged with the byte that was there. -/
def write (m : Memory) (a : Int) (value : Int) : Except MemoryError Memory :=
  match m.get? a with
  | none => .error (.noCell a m.size)
  | some previous =>
    if 0 ≤ value ∧ value ≤ 0xFF then
      let b := UInt8.ofNat value.toNat
      .ok ((m.set a b).record (.write a b previous))
    else .error (.notByte value)

/-- Where there is a cell, a byte can be written. -/
theorem write_ok {m : Memory} {a value : Int} (h : m.contains a = true) (h0 : 0 ≤ value)
    (h1 : value ≤ 0xFF) :
    ∃ m', m.write a value = .ok m' ∧ m'.cells.size = m.cells.size := by
  unfold write
  cases hb : m.get? a with
  | none =>
    rw [get?_eq_none_iff, h] at hb
    cases hb
  | some previous =>
    refine ⟨_, if_pos ⟨h0, h1⟩, ?_⟩
    rw [cells_record, size_set]

/-- Puts bytes in the place of those from `start` up to `stop`. If there are more or fewer of them,
what stands behind moves along, and the whole grows or shrinks: nothing in an assignment to a slice
sees to it that the lengths agree, so whoever makes one has to. -/
def overwrite (bytes : List UInt8) (start stop : Nat) (new : List UInt8) : List UInt8 :=
  bytes.take start ++ new ++ bytes.drop stop

/-- Nothing moves if as many bytes are put in as taken out. -/
theorem length_overwrite {bytes new : List UInt8} {start stop : Nat}
    (hnew : start + new.length = stop) (hstop : stop ≤ bytes.length) :
    (overwrite bytes start stop new).length = bytes.length := by
  simp only [overwrite, List.length_append, List.length_take, List.length_drop]
  omega

/-- What has been put in stands in the slice, and everything else where it stood. -/
theorem getElem?_overwrite {bytes new : List UInt8} {start stop : Nat}
    (hnew : start + new.length = stop) (hstop : stop ≤ bytes.length) (a : Nat) :
    (overwrite bytes start stop new)[a]? =
      if start ≤ a ∧ a < stop then new[a - start]? else bytes[a]? := by
  have hstart : (bytes.take start).length = start := List.length_take_of_le (by omega)
  have hfront : (bytes.take start ++ new).length = stop := by
    rw [List.length_append, hstart, hnew]
  unfold overwrite
  split
  next h =>
    rw [List.getElem?_append_left (by omega), List.getElem?_append_right (by omega), hstart]
  next h =>
    rcases Nat.lt_or_ge a start with hbelow | habove
    · rw [List.getElem?_append_left (by omega), List.getElem?_append_left (by omega),
        List.getElem?_take_of_lt hbelow]
    · have hbehind : stop + (a - stop) = a := by omega
      rw [List.getElem?_append_right (by omega), List.getElem?_drop, hfront, hbehind]

/-- What has been put in can be taken out again. -/
theorem extract_overwrite {bytes new : List UInt8} {start stop : Nat}
    (hnew : start + new.length = stop) (hstop : stop ≤ bytes.length) :
    (overwrite bytes start stop new).extract start stop = new := by
  have hstart : (bytes.take start).length = start := List.length_take_of_le (by omega)
  have hlength : stop - start = new.length := by omega
  unfold overwrite
  rw [List.extract_eq_take_drop, List.append_assoc, List.drop_left' hstart, hlength, List.take_left]

/-- The bytes of a list of integers, if they all are bytes. -/
def toBytes? : List Int → Option (List UInt8)
  | [] => some []
  | n :: rest =>
    if 0 ≤ n ∧ n ≤ 0xFF then (toBytes? rest).map (UInt8.ofNat n.toNat :: ·) else none

/-- Puts a block of bytes into consecutive cells, not logged. An empty block fits anywhere, even
behind the last cell, since there is nothing to be put. -/
def loadBytes (m : Memory) (a : Int) (bytes : List UInt8) : Except MemoryError Memory :=
  if bytes.isEmpty then .ok m
  else
    let stop := a + bytes.length
    if a < 0 ∨ m.cells.size < stop then .error (.noBlock a (stop - 1) m.size)
    else .ok { m with cells := (overwrite m.cells.toList a.toNat stop.toNat bytes).toArray }

/-- Within the memory a block of bytes is put in the place of as many others. -/
theorem loadBytes_of_le {m : Memory} {a : Nat} {bytes : List UInt8}
    (h : a + bytes.length ≤ m.cells.size) :
    m.loadBytes a bytes = .ok { m with
      cells := (overwrite m.cells.toList a (a + bytes.length) bytes).toArray } := by
  unfold loadBytes
  cases bytes with
  | nil => simp [overwrite]
  | cons b rest => rw [if_neg (by simp), if_neg (by omega), Int.toNat_natCast]; rfl

/-- Puts a block of values into consecutive cells, not logged. -/
def load (m : Memory) (a : Int) (values : List Int) : Except MemoryError Memory :=
  match toBytes? values with
  | none => .error .notBytes
  | some bytes => m.loadBytes a bytes

/-! ## Access by instructions -/

/-- Reads a cell and logs it; where there is no cell the byte is zero and nothing is logged. -/
def fetchCell (m : Memory) (a : Int) : UInt8 × Memory :=
  match m.get? a with
  | some b => (b, m.record (.read a b))
  | none => (0, m)

/-- Reading inside the memory gives the byte there and logs it. -/
theorem fetchCell_of_contains {m : Memory} {a : Int} (h : m.contains a = true) :
    m.fetchCell a = (m.getD a, m.record (.read a (m.getD a))) := by
  unfold fetchCell getD
  cases hb : m.get? a with
  | none =>
    rw [get?_eq_none_iff, h] at hb
    cases hb
  | some b => rfl

theorem fetchCell_eq (m : Memory) (a : Int) :
    m.fetchCell a = (m.getD a, { m with log := m.log ++ ((m.get? a).map (.read a)).toList }) := by
  unfold fetchCell getD
  cases hb : m.get? a with
  | none =>
    show (0, m) = (0, { m with log := m.log ++ [] })
    rw [List.append_nil]
  | some b => rfl

/-- Reading changes no cell. -/
@[simp] theorem cells_fetchCell (m : Memory) (a : Int) : (m.fetchCell a).2.cells = m.cells := by
  unfold fetchCell
  split <;> rfl

/-- Writes a cell and logs it; where there is no cell nothing happens. -/
def storeCell (m : Memory) (a : Int) (b : UInt8) : Memory :=
  match m.get? a with
  | some previous => (m.set a b).record (.write a b previous)
  | none => m

@[simp] theorem size_storeCell (m : Memory) (a : Int) (b : UInt8) :
    (m.storeCell a b).cells.size = m.cells.size := by
  unfold storeCell
  split
  · rw [cells_record, size_set]
  · rfl

theorem get?_storeCell_ne (m : Memory) {a c : Int} (b : UInt8) (h : c ≠ a) :
    (m.storeCell a b).get? c = m.get? c := by
  unfold storeCell
  split
  · exact m.get?_set_ne b h
  · rfl

/-- Reads `count` consecutive cells. -/
def fetchBlock (m : Memory) (a : Int) : Nat → List UInt8 × Memory
  | 0 => ([], m)
  | count + 1 =>
    let (b, m) := m.fetchCell a
    let (rest, m) := m.fetchBlock (a + 1) count
    (b :: rest, m)

/-- Reading a block changes no cell. -/
@[simp] theorem cells_fetchBlock (m : Memory) (a : Int) (count : Nat) :
    (m.fetchBlock a count).2.cells = m.cells := by
  induction count generalizing m a with
  | zero => rfl
  | succ count ih =>
    -- The rest of the block is read from the memory that the first read has logged.
    show ((m.fetchCell a).2.fetchBlock (a + 1) count).2.cells = m.cells
    rw [ih, cells_fetchCell]

def storeBlock (m : Memory) (a : Int) : List UInt8 → Memory
  | [] => m
  | b :: rest => (m.storeCell a b).storeBlock (a + 1) rest

@[simp] theorem size_storeBlock (m : Memory) (a : Int) (bytes : List UInt8) :
    (m.storeBlock a bytes).cells.size = m.cells.size := by
  induction bytes generalizing m a with
  | nil => rfl
  | cons b rest ih =>
    show ((m.storeCell a b).storeBlock (a + 1) rest).cells.size = m.cells.size
    rw [ih, size_storeCell]

theorem size_label_storeBlock (m : Memory) (a : Int) (bytes : List UInt8) :
    (m.storeBlock a bytes).size = m.size := by
  induction bytes generalizing m a with
  | nil => rfl
  | cons b rest ih =>
    have hfirst : (m.storeCell a b).size = m.size := by
      unfold storeCell set
      split
      · split
        · rfl
        · rfl
      · rfl
    exact (ih _ _).trans hfirst

/-- Writes values into consecutive cells, up to the first that has a cell and does not fit
into it. -/
def storeValues (m : Memory) (a : Int) : List Int → Except MemoryError Unit × Memory
  | [] => (.ok (), m)
  | value :: rest =>
    if m.contains a then
      match m.write a value with
      | .ok m => m.storeValues (a + 1) rest
      | .error e => (.error e, m)
    else m.storeValues (a + 1) rest

/-- Bytes can be stored anywhere: the ones without a cell are passed over. -/
theorem storeValues_ok (m : Memory) (a : Int) {values : List Int}
    (h : ∀ n ∈ values, 0 ≤ n ∧ n ≤ 0xFF) :
    ∃ m', m.storeValues a values = (.ok (), m') ∧ m'.cells.size = m.cells.size := by
  induction values generalizing m a with
  | nil => exact ⟨m, rfl, rfl⟩
  | cons value rest ih =>
    have hrest : ∀ n ∈ rest, 0 ≤ n ∧ n ≤ 0xFF := fun n hn => h n (List.mem_cons_of_mem _ hn)
    unfold storeValues
    cases hc : m.contains a with
    | false => exact ih m (a + 1) hrest
    | true =>
      obtain ⟨h0, h1⟩ := h value (List.mem_cons_self ..)
      obtain ⟨m₁, hw, hsize₁⟩ := write_ok hc h0 h1
      obtain ⟨m₂, hs, hsize₂⟩ := ih m₁ (a + 1) hrest
      refine ⟨m₂, ?_, hsize₂.trans hsize₁⟩
      rw [if_pos rfl, hw]
      exact hs

end Memory

end Chip8
