import Chip8.Proofs.Debugger.Run
import Chip8.Proofs.Machine.Evolution
import Chip8.Proofs.Machine.Halt

/-!
# What runs under the debugger keep

A run is made of single steps, and of a mark that is set when it ends at a breakpoint; what both of
them keep, every run keeps (`loop_induction`). The machine under a debugger goes through the same
events as one that is stepped (`evolves_run`), and the end of a run says whether the machine has
been halted, and why (`halts_run`).
-/

namespace Chip8

/-- The machine has been halted if the run has failed, by the fault that it has failed with, and
otherwise it has not. -/
def RunEnd.Halts (r : RunEnd) (left : Machine) : Prop :=
  match r with
  | .failed e => ∃ f, e = .fault f ∧ left.halt = some f
  | _ => left.halt = none

namespace Debugger

variable {d : Debugger}

/-- A step answers what the machine answers. -/
theorem halts_step (d : Debugger) (h : d.target.WellFormed) (hrun : d.target.halt = none) :
    Machine.Halts d.step.1 d.step.2.target := by
  have hhalts := h.halts_step hrun
  cases hfst : d.target.step.1 with
  | error e =>
    rw [hfst] at hhalts
    rw [step_of_error hfst]
    exact hhalts
  | ok record =>
    rw [hfst] at hhalts
    cases record with
    | none =>
      rw [step_of_awaitingKey hfst]
      exact hrun
    | some snap =>
      rw [step_of_snapshot hfst]
      exact hhalts

/-- **What steps and marks keep, whole runs keep.** -/
theorem loop_induction {P : Debugger → Prop} (hstep : ∀ d, P d → P d.step.2)
    (hmark : ∀ d pc, P d → P { d with resumePc := pc }) (h : P d) (n : Nat) : P (d.loop n).2 := by
  induction n generalizing d with
  | zero =>
    unfold loop
    split
    · exact h
    · exact h
  | succ n ih =>
    have hnext := hstep d h
    unfold loop
    split
    · exact h
    · split
      · exact hmark d _ h
      · generalize d.step = result at hnext
        split
        next => exact hnext
        next => exact hnext
        next =>
          split
          · exact hnext
          · exact ih hnext

theorem evolves_run (d : Debugger) (n : Nat) : Machine.Evolves d.target (d.run n).2.target := by
  refine loop_induction (P := fun d' => Machine.Evolves d.target d'.target)
    (d := { d with stopRequested := false })
    ?_ ?_ (.refl d.target) n
  · intro d' hd
    rw [step_target]
    exact hd.trans (d'.target.evolves_after .step)
  · intro d' pc hd
    exact hd

/-- The end of a run tells whether one of its steps has halted the machine. -/
theorem halts_loop (h : d.target.WellFormed) (hrun : d.target.halt = none) (n : Nat) :
    (d.loop n).1.Halts (d.loop n).2.target := by
  induction n generalizing d with
  | zero =>
    unfold loop
    split
    · exact hrun
    · exact hrun
  | succ n ih =>
    have hhalts := d.halts_step h hrun
    have hleft : d.step.2.target.WellFormed := by
      rw [step_target]
      exact h.step
    unfold loop
    split
    · exact hrun
    · split
      · exact hrun
      · generalize d.step = result at hhalts hleft
        split
        next => exact hhalts
        next => exact hhalts
        next =>
          split
          · exact hhalts
          · exact ih hleft hhalts

theorem halts_run (h : d.target.WellFormed) (hrun : d.target.halt = none) (n : Nat) :
    (d.run n).1.Halts (d.run n).2.target :=
  halts_loop (d := { d with stopRequested := false }) h hrun n

end Debugger

end Chip8
