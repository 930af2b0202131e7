import Chip8.Proofs.Instruction.Effect
import Chip8.Proofs.Instruction.Word
import Chip8.Proofs.Machine.Invariant

/-!
# Saving and restoring registers

The words `Fx55` and `Fx65` move the registers `V0` to `Vx` to a block of memory and back. A block
that has been stored holds its bytes where there are cells (`get?_storeBlock_of_inside`), and what
is restored is what the cells hold, zero where there are none (`restoreRegs_eq`). So saving and then
restoring loses the registers without a cell and no others (`get_restoreRegs_saved`), and restoring
and then saving writes into each cell what it holds (`cells_saved_restored`). `saves_and_restores`
says so of the two words, for an index register of any size.
-/

namespace Chip8

namespace Memory

variable {m m' : Memory} {a : Int}

/-! ## Cells of a stored block -/

theorem get?_storeCell_self (b : UInt8) (h : m.contains a = true) :
    (m.storeCell a b).get? a = some b := by
  unfold storeCell
  rw [finds_read h]
  exact get?_set_self b h

/-- A block holds its bytes in the cells that it has. -/
theorem get?_storeBlock_of_inside {bytes : List UInt8} {i : Nat} {b : UInt8}
    (hb : bytes[i]? = some b) (h : m.contains (a + (i : Nat)) = true) :
    (m.storeBlock a bytes).get? (a + (i : Nat)) = some b := by
  induction bytes generalizing m a i with
  | nil => cases hb
  | cons first rest ih =>
    show ((m.storeCell a first).storeBlock (a + 1) rest).get? _ = _
    cases i with
    | zero =>
      obtain rfl : first = b := Option.some.inj hb
      rw [Int.natCast_zero, Int.add_zero] at h ⊢
      rw [get?_storeBlock_of_outside rest (.inl (Int.lt_succ a))]
      exact get?_storeCell_self first h
    | succ i =>
      have hplace : a + ((i + 1 : Nat) : Int) = a + 1 + (i : Nat) := by omega
      have hin : (m.storeCell a first).contains (a + 1 + (i : Nat)) = true := by
        rw [hplace] at h
        unfold contains at h ⊢
        rwa [size_storeCell]
      rw [hplace]
      exact ih hb hin

/-- Memories of one size that hold the same at every address have the same cells. -/
theorem cells_eq_of_get? (hsize : m.cells.size = m'.cells.size) (h : ∀ a, m.get? a = m'.get? a) :
    m.cells = m'.cells := by
  refine Array.ext hsize fun i hi hi' => ?_
  have hcell := h (i : Nat)
  unfold get? at hcell
  rw [if_pos (Int.natCast_nonneg i), if_pos (Int.natCast_nonneg i), Int.toNat_natCast,
    Array.getElem?_eq_getElem hi,
    Array.getElem?_eq_getElem hi'] at hcell
  exact Option.some.inj hcell

end Memory

namespace State

variable {s : State} {x i : Reg}

/-! ## What is saved and what is restored -/

/-- The bytes of the registers up to one. -/
def bytesUpTo (s : State) (x : Reg) : List UInt8 :=
  (s.v.toList.take (x.val + 1)).map fun n => UInt8.ofNat n.toNat

theorem length_bytesUpTo (s : State) (x : Reg) : (s.bytesUpTo x).length = x.val + 1 := by
  unfold bytesUpTo
  rw [List.length_map, List.length_take, Vector.length_toList]
  omega

theorem getElem?_bytesUpTo (hi : i ≤ x) :
    (s.bytesUpTo x)[i.val]? = some (UInt8.ofNat (s.v.get i).toNat) := by
  have hreg : s.v.toList[i.val]? = some (s.v.get i) := by
    rw [List.getElem?_eq_getElem (by rw [Vector.length_toList]; exact i.isLt)]
    rfl
  unfold bytesUpTo
  rw [List.getElem?_map, List.getElem?_take_of_lt (Nat.lt_succ_of_le hi), hreg]
  rfl

/-- The state after the registers up to one have been saved. -/
def saved (s : State) (x : Reg) : State :=
  { s with memory := s.memory.storeBlock s.index (s.bytesUpTo x) }

/-- Registers that hold bytes can be saved wherever the index register points. -/
theorem saveRegs_of_bytes (hv : ∀ r : Reg, IsByte (s.v.get r)) (x : Reg) :
    s.saveRegs x = .ok (s.saved x) := by
  unfold saveRegs
  rw [s.memory.storeValues_eq_storeBlock s.index (isByte_of_mem_take hv (x.val + 1))]
  rfl

/-- Where there is a cell for a register that is saved, it holds the byte of the register. -/
theorem get?_saved (hi : i ≤ x) (h : s.memory.contains (s.index + (i.val : Nat)) = true) :
    (s.saved x).memory.get? (s.index + (i.val : Nat)) = some (UInt8.ofNat (s.v.get i).toNat) :=
  Memory.get?_storeBlock_of_inside (getElem?_bytesUpTo hi) h

/-- Saving changes no cells but those of the block, and these only if they exist. -/
theorem of_get?_saved_ne {a : Int} (h : (s.saved x).memory.get? a ≠ s.memory.get? a) :
    s.memory.contains a = true ∧ s.index ≤ a ∧ a ≤ s.index + x.val := by
  obtain ⟨hin, hlo, hhi⟩ := Memory.of_get?_storeBlock_ne h
  rw [length_bytesUpTo] at hhi
  exact ⟨hin, hlo, by omega⟩

theorem contains_saved (s : State) (x : Reg) (a : Int) :
    (s.saved x).memory.contains a = s.memory.contains a := by
  unfold saved Memory.contains
  rw [Memory.size_storeBlock]

/-- Restoring reads the cells of the block into registers, zero where there is no cell, and logs
the reads. -/
theorem restoreRegs_eq (s : State) (x : Reg) :
    s.restoreRegs x = { s with
      v :=
        Vector.ofFn fun i => if i ≤ x then ((s.memory.getD (s.index + (i.val : Nat))).toNat : Int)
          else s.v.get i
      memory := { s.memory with log := s.memory.log ++ s.memory.reads s.index (x.val + 1) } } := by
  unfold restoreRegs
  rw [Memory.fetchBlock_eq]
  dsimp only
  congr 2
  funext i
  rw [List.map_map, List.getD_eq_getElem?_getD, List.getElem?_map]
  by_cases hi : i ≤ x
  · rw [if_pos hi, List.getElem?_range (Nat.lt_succ_of_le hi)]
    rfl
  · have hlen : (List.range (x.val + 1)).length ≤ i.val := by
      rw [List.length_range]
      exact Nat.lt_of_not_le hi
    rw [if_neg hi, List.getElem?_eq_none hlen]
    rfl

theorem get_restoreRegs (s : State) (x i : Reg) :
    (s.restoreRegs x).v.get i =
      if i ≤ x then ((s.memory.getD (s.index + (i.val : Nat))).toNat : Int) else s.v.get i := by
  rw [restoreRegs_eq]
  exact Vector.getElem_ofFn i.isLt

theorem isByte_restoreRegs (s : State) (hv : ∀ r : Reg, IsByte (s.v.get r)) (x r : Reg) :
    IsByte ((s.restoreRegs x).v.get r) := by
  rw [get_restoreRegs]
  split
  · exact isByte_toNat _
  · exact hv r

/-! ## One behind the other -/

/-- A byte in a register is the number of the byte that is stored of it. -/
theorem toNat_ofNat_toNat {n : Int} (h : IsByte n) : ((UInt8.ofNat n.toNat).toNat : Int) = n := by
  obtain ⟨h0, h1⟩ := h
  have hlt : n.toNat < UInt8.size := (Int.toNat_lt h0).mpr (Int.lt_add_one_of_le h1)
  rw [UInt8.toNat_ofNat_of_lt' hlt, Int.toNat_of_nonneg h0]

/-- **Restoring what has been saved** gives every register back that has a cell. -/
theorem get_restoreRegs_saved (hv : ∀ r : Reg, IsByte (s.v.get r)) (x i : Reg) :
    ((s.saved x).restoreRegs x).v.get i =
      if i ≤ x ∧ s.memory.contains (s.index + (i.val : Nat)) = false then 0 else s.v.get i := by
  rw [get_restoreRegs]
  by_cases hi : i ≤ x
  · rw [if_pos hi]
    show (((s.saved x).memory.getD (s.index + (i.val : Nat))).toNat : Int) = _
    unfold Memory.getD
    cases hin : s.memory.contains (s.index + (i.val : Nat)) with
    | true =>
      rw [get?_saved hi hin, if_neg fun h => Bool.noConfusion h.2]
      exact toNat_ofNat_toNat (hv i)
    | false =>
      have hnone : (s.saved x).memory.get? (s.index + (i.val : Nat)) = none := by
        rw [Memory.get?_eq_none_iff, contains_saved, hin]
      rw [hnone, if_pos ⟨hi, rfl⟩]
      rfl
  · rw [if_neg hi, if_neg fun h => hi h.1]
    rfl

/-- **Saving what has been restored** leaves every cell as it was. -/
theorem cells_saved_restored (s : State) (x : Reg) :
    ((s.restoreRegs x).saved x).memory.cells = s.memory.cells := by
  have hcells : (s.restoreRegs x).memory.cells = s.memory.cells := by
    rw [restoreRegs_eq]
  have hindex : (s.restoreRegs x).index = s.index := rfl
  have hget : ∀ a, (s.restoreRegs x).memory.get? a = s.memory.get? a := fun a => by
    unfold Memory.get?
    rw [hcells]
  refine Memory.cells_eq_of_get? ?_ fun a => ?_
  · rw [← hcells]
    exact Memory.size_storeBlock ..
  · rw [← hget]
    by_contra hchanged
    obtain ⟨hin, hlo, hhi⟩ := of_get?_saved_ne hchanged
    -- The cell belongs to a register, and the register holds what has been read from the cell.
    rw [hindex] at hlo hhi
    obtain ⟨n, hn⟩ := Int.eq_ofNat_of_zero_le (show 0 ≤ a - s.index by omega)
    obtain rfl : a = s.index + (n : Nat) := by omega
    have hlt : n < 16 := by omega
    have hi : (⟨n, hlt⟩ : Reg) ≤ x := show n ≤ x.val by omega
    have hstored := get?_saved hi hin
    rw [get_restoreRegs, if_pos hi, Int.toNat_natCast, UInt8.ofNat_toNat] at hstored
    apply hchanged
    rw [hget]
    exact hstored.trans (Memory.finds_read (by rwa [Memory.contains, hcells] at hin)).symm

end State

namespace Word

variable {s : State}

/-- The words `Fx55` save registers that hold bytes. -/
theorem turns_saving (hv : ∀ r : Reg, IsByte (s.v.get r)) (x : Reg) :
    (withReg 0xF x 5 5).Turns s (s.saved x) := by
  have hp : (⟨0xF0FF, 0xF055, fun w => .save w.x⟩ : Pattern) ∈
      Opcode.patterns := by simp [Opcode.patterns]
  refine turns_of_execute (Opcode.instruction?_withReg hp rfl rfl x) fun address d => ?_
  show (s.saveRegs x).map (·, d) = _
  rw [State.saveRegs_of_bytes hv]
  rfl

/-- The words `Fx65` restore registers. -/
theorem turns_restoring (s : State) (x : Reg) : (withReg 0xF x 6 5).Turns s (s.restoreRegs x) := by
  have hp : (⟨0xF0FF, 0xF065, fun w => .restore w.x⟩ : Pattern) ∈
      Opcode.patterns := by simp [Opcode.patterns]
  exact turns_of_execute (Opcode.instruction?_withReg hp rfl rfl x) fun address d => rfl

/-- **Saving and restoring are inverse** up to the end of memory, from a well-formed state and with
any index that is not negative. The word `Fx55` and then `Fx65` give the registers `V0` to `Vx` back
that have a cell, and leave zero in those that have none; the cells from the index on hold their
bytes then, no other cell has changed, and nothing but registers, cells and the log has changed. The
word `Fx65` and then `Fx55` change no cell at all. -/
theorem saves_and_restores (h : s.WellFormed) {index : Int} (hindex : 0 ≤ index) (x : Reg) :
    (∃ stored restored,
      (withReg 0xF x 5 5).Turns { s with index } stored ∧
      (withReg 0xF x 6 5).Turns stored restored ∧
        (∀ i : Reg, restored.v.get i = if i ≤ x ∧ 0x1000 ≤ index + i.val then 0 else s.v.get i) ∧
        (∀ i : Reg, i ≤ x → index + i.val < 0x1000 →
          ∃ b, restored.memory.get? (index + i.val) = some b ∧ s.v.get i = b.toNat) ∧
        (∀ a, restored.memory.get? a ≠ s.memory.get? a → index ≤ a ∧
          a ≤ index + x.val ∧ a < 0x1000) ∧
        restored = { s with index, v := restored.v, memory := restored.memory } ∧
        restored.memory.size = s.memory.size) ∧
    ∃ restored stored,
      (withReg 0xF x 6 5).Turns { s with index } restored ∧
        (withReg 0xF x 5 5).Turns restored stored ∧
        stored.memory.cells = s.memory.cells := by
  let start : State := { s with index }
  have hv : ∀ r : Reg, IsByte (start.v.get r) := h.byte
  have hin : ∀ {a : Int}, 0 ≤ a → (start.memory.contains a = true ↔ a < 0x1000) := by
    intro a ha
    have hcells : start.memory.cells.size = 0x1000 := h.cells
    unfold Memory.contains
    rw [hcells, decide_eq_true_iff]
    exact and_iff_right ha
  have hsame : ∀ a, ((start.saved x).restoreRegs x).memory.get? a =
      (start.saved x).memory.get? a := by
    intro a
    rw [State.restoreRegs_eq]
    rfl
  refine ⟨⟨start.saved x, (start.saved x).restoreRegs x, turns_saving hv x,
    turns_restoring _ x, fun i => ?_,
    fun i hi hlt => ?_, fun a ha => ?_, ?_, ?_⟩, start.restoreRegs x, (start.restoreRegs x).saved x,
    turns_restoring start x, turns_saving ?_ x, start.cells_saved_restored x⟩
  · have hout : start.memory.contains (index + i.val) = false ↔ 0x1000 ≤ index + i.val := by
      rw [← Bool.not_eq_true, hin (by omega), Int.not_lt]
    rw [State.get_restoreRegs_saved hv x i]
    exact if_congr (and_congr_right fun _ => hout) rfl rfl
  · refine ⟨_, (hsame _).trans (State.get?_saved hi
      ((hin (Int.add_nonneg hindex (Int.natCast_nonneg _))).mpr hlt)), ?_⟩
    exact (State.toNat_ofNat_toNat (hv i)).symm
  · rw [hsame] at ha
    obtain ⟨hcell, hlo, hhi⟩ := State.of_get?_saved_ne ha
    exact ⟨hlo, hhi, (hin (Int.le_trans hindex hlo)).mp hcell⟩
  · rw [State.restoreRegs_eq]
    rfl
  · rw [State.restoreRegs_eq]
    exact s.memory.size_label_storeBlock _ _
  · exact start.isByte_restoreRegs hv x

/-- At the end of memory there is a cell for two of sixteen registers. -/
theorem saves_and_restores_end_of_memory :
    ∃ s : State, s.WellFormed ∧ (∀ i : Reg, s.v.get i = 0xFF) ∧ ∃ stored restored,
      (withReg 0xF 15 5 5).Turns { s with index := 0xFFE } stored ∧
      (withReg 0xF 15 6 5).Turns stored restored ∧
        restored.v.get 1 = 0xFF ∧ restored.v.get 2 = 0 ∧
        restored.memory.get? 0xFFF = some 0xFF := by
  obtain ⟨s, hwf, hall⟩ := State.WellFormed.exists_filled (n := 0xFF) ⟨by decide, by decide⟩
  obtain ⟨⟨stored, restored, hstored, hrestored, hregs, hcells, -⟩, -⟩ :=
    saves_and_restores hwf (show (0 : Int) ≤ 0xFFE by decide) 15
  refine ⟨s, hwf, hall, stored, restored, hstored, hrestored, ?_, ?_, ?_⟩
  · exact (hregs 1).trans ((if_neg (by decide)).trans (hall 1))
  · exact (hregs 2).trans (if_pos (by decide))
  · obtain ⟨b, hb, hvalue⟩ := hcells 1 (by decide) (by decide)
    have hnumber : ((0xFF : Nat) : Int) = b.toNat := (hall 1).symm.trans hvalue
    have hbyte : b = 0xFF := UInt8.toNat_inj.mp (Int.natCast_inj.mp hnumber).symm
    exact hbyte ▸ hb

end Word

end Chip8
