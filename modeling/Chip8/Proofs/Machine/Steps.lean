import Chip8.Machine

/-!
# Sequences of steps

`afterSteps` is the machine that a number of steps leave, and `snapshots` are the records that they
make. What a single step gives has been said beside the machine (`step_of_failed` and its
companions); here it is carried along the sequence.
-/

namespace Chip8

namespace Machine

variable {m : Machine}

/-- The machine that `k` steps leave. -/
def afterSteps (m : Machine) : Nat → Machine
  | 0 => m
  | k + 1 => m.step.2.afterSteps k

/-- The record that the next step makes, if it executes an instruction. -/
def snapshot? (m : Machine) : Option Snapshot :=
  match m.step.1 with
  | .ok snap => snap
  | .error _ => none

/-- The records that the first `k` steps make. -/
def snapshots (m : Machine) (k : Nat) : List Snapshot :=
  (List.range k).filterMap fun j => (m.afterSteps j).snapshot?

theorem afterSteps_zero (m : Machine) : m.afterSteps 0 = m :=
  rfl

/-- The last step can be taken off as well as the first one. -/
theorem afterSteps_succ' (m : Machine) (k : Nat) :
    m.afterSteps (k + 1) = (m.afterSteps k).step.2 := by
  induction k generalizing m with
  | zero => rfl
  | succ k ih => exact ih m.step.2

theorem snapshot?_eq_some_iff (m : Machine) (snap : Snapshot) :
    m.snapshot? = some snap ↔ m.step.1 = .ok (some snap) := by
  unfold snapshot?
  cases m.step.1 with
  | ok snap? => simp
  | error e => simp

theorem snapshots_succ (m : Machine) (k : Nat) :
    m.snapshots (k + 1) = m.snapshot?.toList ++ m.step.2.snapshots k := by
  unfold snapshots
  rw [List.range_succ_eq_map, List.filterMap_cons, List.filterMap_map, afterSteps_zero]
  cases m.snapshot? with
  | none => rfl
  | some snap => rfl

/-- As long as every step executes an instruction, there is a record for each. -/
theorem length_snapshots {k : Nat} (h : ∀ j < k, ∃ snap, (m.afterSteps j).snapshot? = some snap) :
    (m.snapshots k).length = k := by
  induction k with
  | zero => rfl
  | succ k ih =>
    obtain ⟨snap, hsnap⟩ := h k (Nat.lt_succ_self k)
    have hfirst := ih fun j hj => h j (Nat.lt_succ_of_lt hj)
    unfold snapshots at hfirst ⊢
    rw [List.range_succ, List.filterMap_append, List.length_append, hfirst]
    simp [hsnap]

end Machine

end Chip8
