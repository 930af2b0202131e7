import Chip8.Proofs.Machine.Cycle
import Chip8.Proofs.Memory.Replay

/-!
# The accesses of an instruction

Four instructions reach the memory, and each of them does so by one block: `Instruction.accesses`
says which, and that every other instruction makes no access at all. A successful instruction makes
exactly these accesses (`execute_accessed`), behind the two reads that have fetched it
(`fetched_accessed`). `Touches` says so of a cycle, and that a cycle which executes nothing leaves
the memory alone; `touches_cycle` shows it for all cycles on well-formed states. Since a cycle
begins with an empty log, the record of a step holds the accesses of its own instruction and no
others, and they turn the memory of before into the one of the record (`step_accessed`).
-/

namespace Chip8

namespace State

variable {s s' : State}

/-- The reads that fetch the word at the counter. -/
def fetches (s : State) : List Access :=
  [.read s.pc (s.memory.getD s.pc), .read (s.pc + 1) (s.memory.getD (s.pc + 1))]

theorem fetched_accessed (h : s.WellFormed) (hpc : s.pc ≤ 0xFFE) :
    Memory.Accessed s.memory s.fetches s.fetched.memory := by
  have h0 := h.pc_nonneg
  have hhigh : s.memory.contains s.pc = true := (h.contains_iff _).mpr (by omega)
  have hlow : s.memory.contains (s.pc + 1) = true := (h.contains_iff _).mpr (by omega)
  have hrecorded : (s.memory.record (.read s.pc (s.memory.getD s.pc))).Finds
      (.read (s.pc + 1) (s.memory.getD (s.pc + 1))) :=
        Memory.finds_read (m := s.memory.record _) hlow
  exact (Memory.Accessed.single _ (Memory.finds_read hhigh)).trans (.single _ hrecorded)

end State

namespace Instruction

variable {i : Instruction} {address : Int} {s s' : State} {d d' : Dice}

/-- The accesses that an instruction makes besides those of its fetch. -/
def accesses (i : Instruction) (s : State) : List Access :=
  match i with
  | draw _ _ height => s.memory.reads s.index height.val
  | digits x => s.memory.writes s.index ((PackedDecimal.ofByte (s.v.get x)).map UInt8.ofNat)
  | save x =>
    s.memory.writes s.index ((s.v.toList.take (x.val + 1)).map fun n => UInt8.ofNat n.toNat)
  | restore x => s.memory.reads s.index (x.val + 1)
  | _ => []

/-- Which accesses an instruction makes is up to the cells, the index register and the registers. -/
theorem accesses_congr (i : Instruction) (hcells : s.memory.cells = s'.memory.cells)
    (hindex : s.index = s'.index) (hv : s.v = s'.v) : i.accesses s = i.accesses s' := by
  have hget : ∀ a, s.memory.get? a = s'.memory.get? a := by
    intro a
    unfold Memory.get?
    rw [hcells]
  unfold accesses
  rw [hindex, hv]
  split
  · exact Memory.reads_congr _ _ hcells
  · exact Memory.writes_congr _ fun a _ => hget a
  · exact Memory.writes_congr _ fun a _ => hget a
  · exact Memory.reads_congr _ _ hcells
  · rfl

theorem accessed_of_memory (h : s'.memory = s.memory) : Memory.Accessed s.memory [] s'.memory := by
  rw [h]
  exact .refl _

theorem save_accessed (hv : ∀ x : Reg, IsByte (s.v.get x)) (x : Reg)
    (h : (save x).execute address s d = .ok (s', d')) :
    Memory.Accessed s.memory ((save x).accesses s) s'.memory := by
  have hbytes := State.isByte_of_mem_take hv (x.val + 1)
  have hsave : (s.saveRegs x).map (·, d) = .ok (s', d') := h
  unfold State.saveRegs at hsave
  rw [Memory.storeValues_eq_storeBlock _ _ hbytes] at hsave
  cases hsave
  exact Memory.accessed_storeBlock ..

/-- **A successful instruction** makes its accesses and no others. -/
theorem execute_accessed (hv : ∀ x : Reg, IsByte (s.v.get x))
    (h : i.execute address s d = .ok (s', d')) :
    Memory.Accessed s.memory (i.accesses s) s'.memory := by
  cases i with
  | draw x y height =>
    cases h
    exact Memory.accessed_fetchBlock ..
  | restore x =>
    cases h
    exact Memory.accessed_fetchBlock ..
  | digits x =>
    cases h
    exact Memory.accessed_storeBlock ..
  | save x => exact save_accessed hv x h
  | ret =>
    have hleft := State.leave_eq (ok_of_map h)
    exact accessed_of_memory (by rw [hleft])
  | call target =>
    have hleft := State.enter_eq (ok_of_map h)
    exact accessed_of_memory (by rw [hleft])
  | skipIfKey x =>
    have hleft := State.skipOnKey_eq (ok_of_map h)
    exact accessed_of_memory (by rw [hleft])
  | skipUnlessKey x =>
    have hleft := State.skipOnKey_eq (ok_of_map h)
    exact accessed_of_memory (by rw [hleft])
  | skipIfByte x byte =>
    cases h
    exact accessed_of_memory (by rw [s.skipIf_eq])
  | skipUnlessByte x byte =>
    cases h
    exact accessed_of_memory (by rw [s.skipIf_eq])
  | skipIfEqual x y =>
    cases h
    exact accessed_of_memory (by rw [s.skipIf_eq])
  | skipUnlessEqual x y =>
    cases h
    exact accessed_of_memory (by rw [s.skipIf_eq])
  -- The others update fields of their own.
  | _ =>
    cases h
    exact accessed_of_memory rfl

end Instruction

namespace Machine

variable {m : Machine}

/-- What a cycle does to the memory: an instruction makes its own accesses behind those of its
fetch, and nothing else does anything. -/
def Touches (m : Machine) : Cycle × Machine → Prop
  | (.executed op, left) =>
    op.opcode = m.state.word ∧ op.address = m.state.pc ∧
      Opcode.instruction? op.opcode = some op.instruction ∧
      Memory.Accessed m.state.memory.clearLog (m.state.fetches ++ op.instruction.accesses m.state)
        left.state.memory
  | (_, left) => left.state.memory.clearLog = m.state.memory.clearLog

/-- **What a cycle does to the memory** of a well-formed state. -/
theorem touches_cycle (h : m.state.WellFormed) : m.Touches m.cycle := by
  cases hc : m.cycle with
  | mk outcome left =>
    cases outcome with
    | awaitingKey =>
      rw [cycle_of_awaitingKey hc]
      exact rfl
    | failed e =>
      rcases failed_of_cycle h hc with ⟨-, -, -, rfl⟩ | ⟨f, -, -, -, -, rfl⟩
      · exact rfl
      · show (if 0xFFE < m.state.pc then m.state.quiet else m.state.quiet.fetched).memory.clearLog =
          _
        split
        · rfl
        · rfl
    | executed op =>
      obtain ⟨haddress, hopcode, hinstruction, hpc, s, d, hexecute, rfl⟩ := executed_of_cycle h hc
      have hfetched := State.fetched_accessed h.quiet hpc
      have hmade := Instruction.execute_accessed (h.quiet.fetched hpc).byte hexecute
      have hsame : op.instruction.accesses m.state.quiet.fetched =
          op.instruction.accesses m.state :=
        op.instruction.accesses_congr rfl rfl rfl
      rw [hsame] at hmade
      exact ⟨hopcode, haddress, hinstruction, hfetched.trans hmade⟩

/-- **The record of a step** holds the accesses of its own instruction, and they explain what has
become of the memory. -/
theorem step_accessed {snap : Snapshot} (h : m.state.WellFormed)
    (hstep : m.step.1 = .ok (some snap)) :
    snap.operation.opcode = m.state.word ∧ snap.operation.address = m.state.pc ∧
      Opcode.instruction? snap.operation.opcode = some snap.operation.instruction ∧
      snap.activity = m.state.fetches ++ snap.operation.instruction.accesses m.state ∧
      m.state.memory.Fits snap.activity ∧
      snap.state.memory = m.state.memory.clearLog.replay snap.activity := by
  have htouches := touches_cycle h
  obtain ⟨op, left, hc⟩ := cycle_of_snapshot hstep
  rw [hc] at htouches
  rw [step_of_executed hc] at hstep
  cases hstep
  obtain ⟨hopcode, haddress, hinstruction, hmade⟩ := htouches
  have hlog : left.state.memory.log = m.state.fetches ++ op.instruction.accesses m.state :=
    hmade.logged.trans (List.nil_append _)
  refine ⟨hopcode, haddress, hinstruction, hlog, ?_, ?_⟩
  · rw [hlog]
    exact hmade.fits.congr rfl
  · rw [hlog]
    exact hmade.replays

end Machine

end Chip8
