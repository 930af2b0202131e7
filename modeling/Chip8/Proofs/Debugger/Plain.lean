import Chip8.Proofs.Debugger.Run
import Chip8.Proofs.Machine.Plain

/-!
# Runs under the debugger and plain runs

A run of the debugger makes snapshots, keeps a history and looks at breakpoints, and a plain run of
the machine does nothing of that. Still they execute the same instructions: whatever a limited run
ends with, it leaves the machine that some number of plain instructions leave, not more than the
limit allows (`run_target`), up to the pending accesses. If it ends neither at a breakpoint nor on
request, it ends exactly as the plain run does (`run_plain`): both go on for the same number of
instructions, and both fail with the same error or do not fail.
-/

namespace Chip8

namespace Debugger

variable {d : Debugger} {limit : Option Int} {n k : Nat} {r : RunEnd}

/-! ## What the first reason to end tells about the limit -/

/-- A limit is used up before a step at which there is no reason to end, or one that is weaker than
the limit. -/
theorem limit_of_endBefore (h : d.endBefore limit k = none ∨
      d.endBefore limit k = some .awaitingKey ∨
    ∃ e, d.endBefore limit k = some (.failed e)) : ¬ ∃ n ∈ limit, n ≤ k := by
  intro hlimit
  unfold endBefore at h
  split at h
  next => simp at h
  next =>
    -- The request to stop and the limit are all that is left, and neither of them is among
    -- the three.
    rw [if_pos hlimit] at h
    split at h
    next => simp at h
    next => simp at h

/-- A run does not make more steps than it is allowed to. -/
theorem EndsAt.le (h : d.EndsAt (some n) k r) : k ≤ n := by
  cases k with
  | zero => exact Nat.zero_le n
  | succ k =>
    have hlimit := limit_of_endBefore (.inl (h.2 k (Nat.lt_succ_self k)))
    rcases Nat.lt_or_ge k n with hlt | hge
    · exact hlt
    · exact absurd ⟨n, rfl, Int.ofNat_le.mpr hge⟩ hlimit

/-- A run that fails or waits for a key does so with a step left. -/
theorem EndsAt.lt (h : d.EndsAt (some n) k r) (hr : r = .awaitingKey ∨ ∃ e, r = .failed e) :
    k < n := by
  have hlimit : ¬ ∃ l ∈ some (n : Int), l ≤ k := by
    rcases hr with rfl | ⟨e, rfl⟩
    · exact limit_of_endBefore (.inr (.inl h.1))
    · exact limit_of_endBefore (.inr (.inr ⟨e, h.1⟩))
  rcases Nat.lt_or_ge k n with hlt | hge
  · exact hlt
  · exact absurd ⟨n, rfl, Int.ofNat_le.mpr hge⟩ hlimit

/-- A machine waits for a key if the run ends with that. -/
theorem step_of_endBefore_awaitingKey (h : d.endBefore limit k = some .awaitingKey) :
    (d.target.afterSteps k).step.1 = .ok none := by
  unfold endBefore at h
  split at h
  next => cases h
  next =>
    split at h
    next => cases h
    next =>
      split at h
      next => cases h
      next =>
        split at h
        next => cases h
        next =>
          split at h
          next => cases h
          next heq => exact heq
          next => cases h

/-- A run ends on request only if a stop has been asked for during one of its steps. -/
theorem stoppedDuring_of_endBefore (h : d.endBefore limit k = some .stopped) :
    d.stoppedDuring k = true := by
  unfold endBefore at h
  split at h
  next => cases h
  next =>
    split at h
    next hstop => exact hstop
    next =>
      split at h
      next => cases h
      next =>
        split at h
        next => cases h
        next =>
          split at h
          next => cases h
          next => cases h
          next => cases h

/-- Nobody asks the debugger to stop during an instruction. -/
def Undisturbed (d : Debugger) : Prop :=
  ∀ before after, d.stopDuring before after = false

theorem Undisturbed.not_stopped (hquiet : d.Undisturbed) (h : d.EndsAt limit k r) :
    r ≠ .stopped := by
  rintro rfl
  have hstop := stoppedDuring_of_endBefore h.1
  cases k with
  | zero => cases hstop
  | succ k => exact absurd ((hquiet _ _).symm.trans hstop) Bool.false_ne_true

/-! ## The same instructions -/

/-- The steps of a run are instructions that a plain run executes. -/
theorem EndsAt.executesFirst (h : d.EndsAt limit k r) : d.target.ExecutesFirst k := by
  intro j hj
  obtain ⟨-, snap, hsnap⟩ := h.before hj
  rw [Machine.runInstruction_afterInstructions, (Machine.snapshot?_eq_some_iff _ snap).mp hsnap]
  rfl

/-- A run that fails does so on an instruction that fails. -/
theorem EndsAt.runInstruction_of_failed {e : CycleError} (h : d.EndsAt limit k (.failed e)) :
    (d.target.afterInstructions k).runInstruction.1 = .error e := by
  have htells := d.tells_endBefore limit k
  rw [h.1] at htells
  rw [Machine.runInstruction_afterInstructions, htells.2]
  rfl

/-- Whatever a run ends with, it leaves what some number of plain instructions leave. -/
theorem run_target (d : Debugger) (n : Nat) :
    ∃ k ≤ n, (d.run n).2.target.quiet = (d.target.afterInstructions k).quiet := by
  obtain ⟨k, hends, hd⟩ := (d.run_eq_iff (d.run n).2 n (d.run n).1).mp rfl
  generalize (d.run n).1 = r at hends hd
  rw [hd]
  have hstay : ∃ j ≤ n, (d.target.afterSteps k).quiet = (d.target.afterInstructions j).quiet :=
    ⟨k, hends.le, d.target.quiet_afterSteps k⟩
  cases r with
  | failed e =>
    -- The failing step counts as an instruction that has been asked for.
    exact ⟨k + 1, hends.lt (.inr ⟨e, rfl⟩), d.target.quiet_afterSteps (k + 1)⟩
  | breakpointBefore pc => exact hstay
  | breakpointAfter symbol => exact hstay
  | awaitingKey => exact hstay
  | stepLimit => exact hstay
  | stopped => exact hstay

/-- The error with which a run has failed. -/
def failure? : RunEnd → Option CycleError
  | .failed e => some e
  | _ => none

/-- The error with which a plain run has failed. -/
def plainFailure? : Except CycleError Nat → Option CycleError
  | .error e => some e
  | .ok _ => none

theorem eq_failed_of_failure? {e : CycleError} (h : failure? r = some e) : r = .failed e := by
  unfold failure? at h
  split at h
  next => exact congrArg RunEnd.failed (Option.some.inj h)
  next => cases h

/-- **A run that ends neither at a breakpoint nor on request ends as the plain run does.** -/
theorem run_plain (hquiet : d.Undisturbed) (hr : (d.run n).1.atBreakpoint = false) :
    (d.run n).2.target.quiet = (d.target.run n).2.quiet ∧
      failure? (d.run n).1 = plainFailure? (d.target.run n).1 := by
  obtain ⟨k, hends, hd⟩ := (d.run_eq_iff (d.run n).2 n (d.run n).1).mp rfl
  generalize (d.run n).1 = r at hends hd hr ⊢
  rw [hd]
  have hexecutes := hends.executesFirst
  cases r with
  | breakpointBefore pc => cases hr
  | breakpointAfter symbol => cases hr
  | stopped => exact absurd rfl (hquiet.not_stopped hends)
  | stepLimit =>
    have htells := d.tells_endBefore (some n) k
    rw [hends.1] at htells
    obtain ⟨l, hl, hle⟩ := htells
    cases hl
    obtain rfl : k = n := by
      have := hends.le
      omega
    rw [(Machine.PlainRun.finished hexecutes).run_eq]
    exact ⟨d.target.quiet_afterSteps k, rfl⟩
  | awaitingKey =>
    have hwait : (d.target.afterInstructions k).runInstruction.1 = .ok false := by
      rw [Machine.runInstruction_afterInstructions, step_of_endBefore_awaitingKey hends.1]
      rfl
    rw [(Machine.PlainRun.awaitingKey (hends.lt (.inl rfl)) hexecutes hwait).run_eq]
    exact ⟨d.target.quiet_afterSteps k, rfl⟩
  | failed e =>
    have hlt := hends.lt (.inr ⟨e, rfl⟩)
    rw [(Machine.PlainRun.failed hlt hexecutes hends.runInstruction_of_failed).run_eq]
    exact ⟨d.target.quiet_afterSteps (k + 1), rfl⟩

end Debugger

end Chip8
