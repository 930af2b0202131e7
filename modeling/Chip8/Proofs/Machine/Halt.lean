import Chip8.Proofs.Machine.Invariant
import Chip8.Proofs.Machine.Plain

/-!
# What an answer says about the halt

A machine that has not been halted gives an error only when it comes to a halt, and then the error
is the fault that it keeps (`Halts`). A cycle says this of itself, and from there it goes on to both
ways of asking for an instruction and to whole runs (`WellFormed.halts_runFrom`). In particular,
nobody who asks a machine that has not been halted is told that it has been.
-/

namespace Chip8.Machine

variable {m : Machine}

/-- A machine has been halted if the answer is an error, by the fault that the error tells, and
otherwise it has not. -/
def Halts {α : Type} (result : Except CycleError α) (left : Machine) : Prop :=
  match result with
  | .ok _ => left.halt = none
  | .error e => ∃ f, e = .fault f ∧ left.halt = some f

theorem WellFormed.halts_step (h : m.WellFormed) (hrun : m.halt = none) :
    Halts m.step.1 m.step.2 := by
  have hc := cycle_outcome h.state
  cases hcycle : m.cycle with
  | mk outcome left =>
    rw [hcycle] at hc
    cases hc with
    | halted cause hhalt =>
      rw [hrun] at hhalt
      cases hhalt
    | fault f =>
      rw [step_of_failed hcycle]
      exact ⟨f, rfl, rfl⟩
    | awaitingKey =>
      rw [step_of_awaitingKey hcycle]
      exact hrun
    | executed op =>
      rw [step_of_executed hcycle]
      exact hrun

theorem WellFormed.halts_runInstruction (h : m.WellFormed) (hrun : m.halt = none) :
    Halts m.runInstruction.1 m.runInstruction.2 := by
  have hstep := h.halts_step hrun
  obtain ⟨hanswer, hquiet⟩ := m.runInstruction_eq_step
  have hhalt : m.runInstruction.2.halt = m.step.2.halt := by
    show m.runInstruction.2.quiet.halt = m.step.2.quiet.halt
    rw [hquiet]
  rw [hanswer]
  unfold Halts at hstep ⊢
  rw [hhalt]
  cases hfst : m.step.1 with
  | ok record =>
    rw [hfst] at hstep
    exact hstep
  | error e =>
    rw [hfst] at hstep
    exact hstep

theorem WellFormed.halts_runFrom (h : m.WellFormed) (hrun : m.halt = none) (ran n : Nat) :
    Halts (m.runFrom ran n).1 (m.runFrom ran n).2 := by
  induction n generalizing m ran with
  | zero => exact hrun
  | succ n ih =>
    have hfirst := h.halts_runInstruction hrun
    have hleft := h.runInstruction
    unfold runFrom
    generalize m.runInstruction = result at hfirst hleft
    split
    next => exact hfirst
    next => exact hfirst
    next => exact ih hleft hfirst _

theorem WellFormed.halts_run (h : m.WellFormed) (hrun : m.halt = none) (n : Nat) :
    Halts (m.run n).1 (m.run n).2 :=
  h.halts_runFrom hrun 0 n

end Chip8.Machine
