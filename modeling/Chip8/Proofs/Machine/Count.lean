import Chip8.Proofs.Machine.Steps

/-!
# How instructions are counted

A machine counts its instructions in `cycles`. No instruction touches the count (`execute_cycles`),
whatever state it is given; only a cycle that has executed one moves it on, by one, and that machine
is not halted (`counts_cycle`). So the count tells how many instructions have been executed
between two looks at a machine: `afterSteps_executed` says so for sequences of steps.
-/

namespace Chip8

/-! ## Instructions and keys leave the count alone -/

namespace State

/-- The state that is left, with or without success, has the same count. -/
def KeepsCount (s : State) : Except InstructionError State → Prop
  | .ok s' => s'.cycles = s.cycles
  | .error e => (e.leave s).cycles = s.cycles

theorem skipIf_cycles (s : State) (condition : Bool) : (s.skipIf condition).cycles = s.cycles := by
  rw [s.skipIf_eq condition]

theorem keepsCount_of_left {s : State} {result : Except InstructionError State}
    (h : (s.left result).cycles = s.cycles) : s.KeepsCount result := by
  cases result with
  | ok s' => exact h
  | error e => exact h

theorem skipOnKey_cycles (s : State) (x : Reg) (down : Bool) :
    s.KeepsCount (s.skipOnKey x down) := by
  apply keepsCount_of_left
  rw [s.skipOnKey_left x down]

theorem enter_cycles (s : State) (target address : Int) :
    s.KeepsCount (s.enter target address) := by
  apply keepsCount_of_left
  rw [s.enter_left target address]

theorem leave_cycles (s : State) (address : Int) :
    s.KeepsCount (s.leave address) := by
  apply keepsCount_of_left
  rw [s.leave_left address]

theorem saveRegs_cycles (s : State) (x : Reg) :
    s.KeepsCount (s.saveRegs x) := by
  apply keepsCount_of_left
  rw [s.saveRegs_left x]

theorem press_cycles (s : State) (code : Int) : (s.press code).2.cycles = s.cycles := by
  rw [s.press_eq code]

theorem release_cycles (s : State) (code : Int) : (s.release code).cycles = s.cycles := by
  rw [s.release_eq code]

end State

namespace Instruction

/-- The same for what comes with dice. -/
def KeepsCount (s : State) : Except InstructionError (State × Dice) → Prop
  | .ok (s', _) => s'.cycles = s.cycles
  | .error e => (e.leave s).cycles = s.cycles

theorem keepsCount_map {s : State} {result : Except InstructionError State} (d : Dice)
    (h : s.KeepsCount result) : KeepsCount s (result.map (·, d)) := by
  cases result with
  | ok s' => exact h
  | error e => exact h

/-- **No instruction touches the count.** -/
theorem execute_cycles (i : Instruction) (address : Int) (s : State) (d : Dice) :
    KeepsCount s (i.execute address s d) := by
  cases i with
  | ret => exact keepsCount_map d (s.leave_cycles address)
  | call target => exact keepsCount_map d (s.enter_cycles target.toNat address)
  | skipIfByte x byte => exact s.skipIf_cycles _
  | skipUnlessByte x byte => exact s.skipIf_cycles _
  | skipIfEqual x y => exact s.skipIf_cycles _
  | skipUnlessEqual x y => exact s.skipIf_cycles _
  | skipIfKey x => exact keepsCount_map d (s.skipOnKey_cycles x true)
  | skipUnlessKey x => exact keepsCount_map d (s.skipOnKey_cycles x false)
  | save x => exact keepsCount_map d (s.saveRegs_cycles x)
  -- The others always succeed, and update fields of their own.
  | _ => exact rfl

end Instruction

/-! ## Cycles and steps -/

namespace Machine

variable {m left : Machine}

/-- What a cycle does to the count, and to the fault that halts the machine. -/
def Counts (m : Machine) : Cycle × Machine → Prop
  | (.executed _, left) => left.state.cycles = m.state.cycles + 1 ∧ left.halt = none ∧ m.halt = none
  | (.awaitingKey, left) => left = m
  | (.failed _, left) => left.state.cycles = m.state.cycles

theorem fetch?_cycles {s fetched : State} {opcode : Int} (h : s.fetch? = some (opcode, fetched)) :
    fetched.cycles = s.cycles := by
  unfold State.fetch? at h
  split at h
  · cases h
    rfl
  · cases h

/-- **Every cycle counts the instruction that it executes**, and nothing else. -/
theorem counts_cycle (m : Machine) : m.Counts m.cycle := by
  unfold cycle
  cases hrun : m.halt with
  | some cause => exact rfl
  | none =>
    cases m.state.awaiting with
    | some number => exact rfl
    | none =>
      dsimp only
      cases hfetch : m.state.quiet.fetch? with
      | none => exact rfl
      | some fetch =>
        obtain ⟨opcode, fetched⟩ := fetch
        have hcycles : fetched.cycles = m.state.quiet.cycles := fetch?_cycles hfetch
        dsimp only
        unfold Operation.dispatch
        cases Opcode.find? opcode with
        | none => exact hcycles
        | some p =>
          dsimp only
          have hkeeps :=
            Instruction.execute_cycles (Operation.ofPattern p opcode m.state.pc).instruction
              m.state.pc
            fetched m.dice
          generalize Instruction.execute _ _ _ _ = result at hkeeps ⊢
          cases result with
          | ok result => exact ⟨congrArg (· + 1) (hkeeps.trans hcycles), rfl, hrun⟩
          | error e =>
            cases e with
            | fault f => exact hcycles
            | mishap mishap left => exact hkeeps.trans hcycles

/-- What a step does to them. -/
theorem step_executed {snap : Snapshot} (h : m.step.1 = .ok (some snap)) :
    m.step.2.state.cycles = m.state.cycles + 1 ∧ m.step.2.halt = none ∧ m.halt = none := by
  obtain ⟨op, left, hc⟩ := cycle_of_snapshot h
  have hcounts := m.counts_cycle
  rw [hc] at hcounts
  rw [step_of_executed hc]
  exact hcounts

/-- A step that fails counts nothing. -/
theorem step_failed {e : CycleError} (h : m.step.1 = .error e) :
    m.step.2.state.cycles = m.state.cycles := by
  have hcounts := m.counts_cycle
  rw [cycle_of_error h] at hcounts
  exact hcounts

/-- A sequence of steps that all execute an instruction counts them all, and halts no machine. -/
theorem afterSteps_executed {k : Nat}
    (h : ∀ j < k, ∃ snap, (m.afterSteps j).snapshot? = some snap) :
    (m.afterSteps k).state.cycles = m.state.cycles + k ∧
    (m.halt = none → (m.afterSteps k).halt = none) := by
  -- The last step is taken off, since the count of the steps before it is the induction hypothesis.
  induction k with
  | zero => exact ⟨(Int.add_zero _).symm, id⟩
  | succ k ih =>
    obtain ⟨hcycles, -⟩ := ih fun j hj => h j (Nat.lt_succ_of_lt hj)
    obtain ⟨snap, hsnap⟩ := h k (Nat.lt_succ_self k)
    obtain ⟨hcount, hrun, -⟩ := step_executed ((snapshot?_eq_some_iff _ _).mp hsnap)
    rw [afterSteps_succ', hcount, hcycles]
    refine ⟨?_, fun _ => hrun⟩
    push_cast
    omega

end Machine

end Chip8
