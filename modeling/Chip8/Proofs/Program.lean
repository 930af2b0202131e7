import Chip8.Program

/-!
# What stands where in an image

An image is put together out of slices: the bytes of the interpreter are written over zeros, and the
program over both. `Memory.getElem?_overwrite` says of a slice that is as long as what is put in its
place which byte comes to stand where, and `getElem?_placed` follows from it by the borders between
the slices: below the base stand the glyphs as far as they go, from the base on the program, and
zeros everywhere else. The memory that such an image is loaded into holds it as it is
(`memory_ofProgram`), and the program can be read back from it (`extract_placed`).
-/

namespace Chip8

namespace Program

variable {program : List UInt8} {base a : Nat}

/-- The byte that stands at an address when a program has been placed at its base. -/
def imageByte (program : Array UInt8) (base address : Nat) : UInt8 :=
  if address < base then font.getD address 0 else program.getD (address - base) 0

/-! ## The four ranges -/

/-- Below the program there are the glyphs, as far as they go. -/
theorem imageByte_font (program : List UInt8) (hbase : a < base) (hfont : a < 80) :
    some (imageByte program.toArray base a) = font[a]? := by
  have hlt : a < font.length := hfont
  unfold imageByte
  rw [if_pos hbase, List.getD_eq_getElem?_getD, List.getElem?_eq_getElem hlt]
  rfl

/-- Behind them there is nothing. -/
theorem imageByte_gap (program : List UInt8) (hbase : a < base) (hfont : 80 ≤ a) :
    imageByte program.toArray base a = 0 := by
  have hle : font.length ≤ a := hfont
  unfold imageByte
  rw [if_pos hbase, List.getD_eq_getElem?_getD, List.getElem?_eq_none hle]
  rfl

/-- From the base on there is the program. -/
theorem imageByte_program (hbase : base ≤ a) (hend : a < base + program.length) :
    some (imageByte program.toArray base a) = program[a - base]? := by
  have hlt : a - base < program.length := by omega
  unfold imageByte
  rw [if_neg (Nat.not_lt.mpr hbase), Array.getD_eq_getD_getElem?, List.getElem?_toArray,
    List.getElem?_eq_getElem hlt]
  rfl

/-- Behind its end there is nothing. -/
theorem imageByte_behind (hend : base + program.length ≤ a) :
    imageByte program.toArray base a = 0 := by
  have hle : program.length ≤ a - base := by omega
  unfold imageByte
  rw [if_neg (by omega), Array.getD_eq_getD_getElem?, List.getElem?_toArray,
    List.getElem?_eq_none hle]
  rfl

/-! ## Images -/

theorem getElem?_interpreter_of_font (hfont : a < 80) : interpreter[a]? = font[a]? :=
  List.getElem?_append_left hfont

theorem getElem?_interpreter_of_gap (hfont : 80 ≤ a) (ha : a < 0x200) :
    interpreter[a]? = some 0 := by
  have hlen : font.length = 80 := rfl
  have hgap : a - font.length < programBase - font.length := by
    show a - 80 < 0x200 - 80
    omega
  unfold interpreter
  rw [List.getElem?_append_right (by omega), List.getElem?_replicate_of_lt hgap]

/-- The interpreter is cut off at the base, so no byte of it stands behind; and where it ends before
the base, zeros go on. -/
theorem getElem?_bootstrap (program : List UInt8) (ha : a < min base 0x200) :
    (interpreter.take base)[a]? = some (imageByte program.toArray base a) := by
  have hbase : a < base := by omega
  rw [List.getElem?_take_of_lt hbase]
  rcases Nat.lt_or_ge a 80 with hfont | hgap
  · rw [getElem?_interpreter_of_font hfont, imageByte_font program hbase hfont]
  · rw [getElem?_interpreter_of_gap hgap (by omega), imageByte_gap program hbase hgap]

/-- **What stands where** once both slices have been written. -/
theorem getElem?_placed (h : base + program.length ≤ Memory.standardSize)
    (ha : a < Memory.standardSize) :
    (placed program base)[a]? = some (imageByte program.toArray base a) := by
  have hlength : (interpreter.take base).length = min base 0x200 := by
    rw [List.length_take, length_interpreter]
    rfl
  have hlower := Memory.length_overwrite (Nat.zero_add _) (length_bootstrap_le base)
  rw [length_zeros] at hlower
  unfold placed
  dsimp only
  rw [Memory.getElem?_overwrite rfl (Nat.le_trans h (Nat.le_of_eq hlower.symm)),
    Memory.getElem?_overwrite (Nat.zero_add _) (length_bootstrap_le base), hlength]
  split
  next hin => exact (imageByte_program hin.1 hin.2).symm
  next hout =>
    split
    next hlow => exact getElem?_bootstrap program hlow.2
    next hhigh =>
      have hzero : imageByte program.toArray base a = 0 := by
        rcases Nat.lt_or_ge a base with hbase | hbase
        · exact imageByte_gap program hbase (by omega)
        · exact imageByte_behind (by omega)
      rw [hzero]
      exact List.getElem?_replicate_of_lt ha

/-- The program can be read back from its image. -/
theorem extract_placed (h : base + program.length ≤ Memory.standardSize) :
    (placed program base).extract base (base + program.length) = program := by
  have hlower := Memory.length_overwrite (Nat.zero_add _) (length_bootstrap_le base)
  rw [length_zeros] at hlower
  exact Memory.extract_overwrite rfl (Nat.le_trans h (Nat.le_of_eq hlower.symm))

/-- An image address by address, from which a byte can be looked up without building the others. -/
theorem placed_eq (h : base + program.length ≤ Memory.standardSize) :
    placed program base = (List.range Memory.standardSize).map
      (imageByte program.toArray base) := by
  apply List.ext_getElem?
  intro a
  rcases Nat.lt_or_ge a Memory.standardSize with ha | ha
  · rw [getElem?_placed h ha, List.getElem?_map, List.getElem?_range ha, Option.map_some]
  · rw [List.getElem?_eq_none (length_placed h ▸ ha), List.getElem?_eq_none]
    rw [List.length_map, List.length_range]
    exact ha

/-! ## Memories -/

namespace Image

/-- **The memory of a program** holds the bytes of its image, which take up all of it. -/
theorem memory_ofProgram (h : base + program.length ≤ Memory.standardSize) :
    (ofProgram program base h).memory = Memory.ofCells (placed program base).toArray := by
  have hlength : (ofProgram program base h).bytes.length = zeros.length :=
    (length_placed h).trans length_zeros.symm
  have hcells : Memory.overwrite zeros 0 (ofProgram program base h).bytes.length
      (ofProgram program base h).bytes = placed program base := by
    unfold Memory.overwrite
    rw [hlength, List.drop_length]
    simp [ofProgram]
  rw [memory_eq, hcells]
  unfold Memory.ofCells
  rw [List.size_toArray, length_placed h]
  rfl

end Image

end Program

end Chip8
