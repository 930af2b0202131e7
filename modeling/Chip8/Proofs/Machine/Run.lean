import Chip8.Proofs.Machine.Count
import Chip8.Proofs.Machine.Invariant
import Chip8.Proofs.Machine.Plain

/-!
# Plain runs of well-formed machines

A well-formed machine answers to a plain instruction in one of three ways, and `Tells` says what
each of them means: an instruction has been executed and counted, the machine waits for a key, or it
has come to a halt. From this a plain run leaves a well-formed machine (`WellFormed.run`), and it
executes all the instructions that it is allowed to, unless the machine has come to a halt or to
wait for a key (`WellFormed.run_cycles`).
-/

namespace Chip8

namespace Machine

variable {m m' : Machine}

/-- A plain instruction is counted if it is executed. -/
theorem counts_runInstruction (m : Machine) :
    (m.runInstruction.1 = .ok true → m.runInstruction.2.state.cycles = m.state.cycles + 1) ∧
      (m.runInstruction.1 ≠ .ok true → m.runInstruction.2.state.cycles = m.state.cycles) := by
  have hcounts := m.counts_cycle
  cases hc : m.cycle with
  | mk outcome left =>
    rw [hc] at hcounts
    cases outcome with
    | failed e =>
      rw [runInstruction_of_failed hc]
      exact ⟨nofun, fun _ => hcounts⟩
    | awaitingKey =>
      rw [runInstruction_of_awaitingKey hc, hcounts]
      exact ⟨nofun, fun _ => rfl⟩
    | executed op =>
      rw [runInstruction_of_executed hc]
      exact ⟨fun _ => hcounts.1, fun h => absurd rfl h⟩

/-- Instructions that are all executed are all counted. -/
theorem cycles_of_executesFirst {k : Nat} (h : m.ExecutesFirst k) :
    (m.afterInstructions k).state.cycles = m.state.cycles + k := by
  induction k with
  | zero => exact (Int.add_zero _).symm
  | succ k ih =>
    rw [afterInstructions_succ', (counts_runInstruction _).1 (h k (Nat.lt_succ_self k)),
      ih fun j hj => h j (Nat.lt_succ_of_lt hj)]
    push_cast
    omega

/-- Any number of plain instructions leave a well-formed machine. -/
theorem WellFormed.afterInstructions (h : m.WellFormed) (k : Nat) :
    (m.afterInstructions k).WellFormed := by
  induction k generalizing m with
  | zero => exact h
  | succ k ih => exact ih h.runInstruction

/-- Pending accesses have nothing to do with it. -/
theorem WellFormed.of_quiet (h : m'.WellFormed) (hq : m.quiet = m'.quiet) : m.WellFormed := by
  have hquiet : m.quiet.WellFormed := by
    rw [hq]
    exact ⟨h.state.quiet, h.base_lt, h.halt_awaiting⟩
  have hsize : m.state.memory.cells.size = m.quiet.state.memory.cells.size := rfl
  exact ⟨hquiet.state.withMemory hsize, hquiet.base_lt, hquiet.halt_awaiting⟩

/-- What the answer to an instruction tells about a well-formed machine. -/
def Tells (m : Machine) : Except CycleError Bool × Machine → Prop
  | (.ok true, left) => left.state.cycles = m.state.cycles + 1
  | (.ok false, _) => m.state.awaiting.isSome = true
  | (.error _, left) => left.halted = true

theorem WellFormed.tells (h : m.WellFormed) : m.Tells m.runInstruction := by
  have hc := cycle_outcome h.state
  have hcounts := m.counts_cycle
  cases hcycle : m.cycle with
  | mk outcome left =>
    rw [hcycle] at hc hcounts
    cases hc with
    | halted cause hhalt =>
      rw [runInstruction_of_failed hcycle]
      exact Option.isSome_iff_exists.mpr ⟨cause, hhalt⟩
    | fault f =>
      rw [runInstruction_of_failed hcycle]
      exact rfl
    | awaitingKey _ hwait =>
      rw [runInstruction_of_awaitingKey hcycle]
      exact hwait
    | executed op =>
      rw [runInstruction_of_executed hcycle]
      exact hcounts.1

/-- The same of one instruction among many, from its answer alone. -/
theorem WellFormed.tells_afterInstructions (h : m.WellFormed) {k : Nat}
    {answer : Except CycleError Bool}
    (hanswer : (m.afterInstructions k).runInstruction.1 = answer) :
    (m.afterInstructions k).Tells (answer, m.afterInstructions (k + 1)) := by
  have htells := (h.afterInstructions k).tells
  rw [afterInstructions_succ', ← hanswer]
  exact htells

/-- **A plain run of a well-formed machine** leaves one. -/
theorem WellFormed.run (h : m.WellFormed) (n : Nat) : (m.run n).2.WellFormed := by
  have hplain := m.plainRun n
  generalize m.run n = result at hplain ⊢
  cases hplain with
  | finished => exact h.afterInstructions _
  | awaitingKey => exact h.afterInstructions _
  | failed => exact h.afterInstructions _

/-- A plain run that halts no machine executes what it is allowed to, unless the machine has come to
wait for a key. -/
theorem WellFormed.run_cycles (h : m.WellFormed) {n : Nat} (hrun : (m.run n).2.halted = false) :
    ∃ k ≤ n, (m.run n).2.state.cycles = m.state.cycles + (k : Nat) ∧
      (k < n → (m.run n).2.state.awaiting.isSome = true) := by
  have hplain := m.plainRun n
  generalize m.run n = result at hplain hrun ⊢
  cases hplain with
  | finished hk =>
    exact ⟨n, Nat.le_refl n, cycles_of_executesFirst hk, fun hlt => absurd hlt (Nat.lt_irrefl n)⟩
  | @awaitingKey k hlt hk hwait =>
    exact ⟨k, Nat.le_of_lt hlt, cycles_of_executesFirst hk, fun _ =>
      h.tells_afterInstructions hwait⟩
  | failed _ _ hfail =>
    exact absurd ((h.tells_afterInstructions hfail).symm.trans hrun) Bool.noConfusion

end Machine

end Chip8
