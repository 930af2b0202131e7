import Chip8.Debugger
import Chip8.Proofs.Breakpoint
import Chip8.Proofs.Machine.Count

/-!
# Where a run ends

A run of the debugger is compared with the plain sequence of steps of its machine. `endBefore` says,
for every number `k`, whether there is a reason to end the run before the step with that number,
counted from zero, and which one comes first; it looks at the machine as it is after `k` steps and
knows nothing of loops, marks that are set on the way, or requests that are kept. `endedBefore` is
the debugger that has made just these `k` steps. The main result is `returns_iff`: a run, limited or
not, returns with the reason and the debugger that belong to the least such `k`, and only with
these. The step lemma is `endBefore_step`, and `loop_ends` is the induction over the steps allowed.
-/

namespace Chip8

namespace Debugger

variable {d : Debugger}

/-! ## Reasons to end -/

/-- The record of the step before the `k`-th one, if it has met an enabled breakpoint. -/
def hitAfter? (d : Debugger) : Nat → Option Snapshot
  | 0 => none
  | j + 1 =>
    (d.target.afterSteps j).snapshot?.filter fun snap =>
      ∃ b ∈ d.breakpoints, b.enabled = true ∧ b.MetBy (d.target.afterSteps j).state snap

/-- Whether a stop has been asked for during the step before the `k`-th one. -/
def stoppedDuring (d : Debugger) : Nat → Bool
  | 0 => false
  | j + 1 => d.stopDuring (d.target.afterSteps j) (d.target.afterSteps (j + 1))

/-- Whether an enabled breakpoint is about the address of the `k`-th step. Before the first step,
the marked address does not count. -/
def BlockedBefore (d : Debugger) (k : Nat) : Prop :=
  let pc := (d.target.afterSteps k).state.pc
  (∃ b ∈ d.breakpoints, b.enabled = true ∧ b.kind = .atAddress ∧ b.address = some pc) ∧
    ¬ (k = 0 ∧ d.resumePc = some pc)

instance (d : Debugger) (k : Nat) : Decidable (d.BlockedBefore k) :=
  inferInstanceAs (Decidable (_ ∧ _))

/-- The reason to end a run before its `k`-th step, the strongest one if there are several. -/
def endBefore (d : Debugger) (limit : Option Int) (k : Nat) : Option RunEnd :=
  match d.hitAfter? k with
  | some snap => some (.breakpointAfter snap.symbol)
  | none =>
    if d.stoppedDuring k then some .stopped
    else if ∃ n ∈ limit, n ≤ k then some .stepLimit
    else if d.BlockedBefore k then some (.breakpointBefore (d.target.afterSteps k).state.pc)
    else
      match (d.target.afterSteps k).step.1 with
      | .error e => some (.failed e)
      | .ok none => some .awaitingKey
      | .ok (some _) => none

/-- The debugger after exactly `k` steps and an end before the next one. A failing step does not
count, but leaves what it leaves of the machine. -/
def endedBefore (d : Debugger) (k : Nat) (r : RunEnd) : Debugger :=
  { d with
    target :=
      match r with
      | .failed _ => d.target.afterSteps (k + 1)
      | _ => d.target.afterSteps k
    history := (d.target.snapshots k).foldl Ring.push d.history
    resumePc :=
      match r with
      | .breakpointBefore pc => some pc
      | _ => if k = 0 then d.resumePc else none
    stopRequested := d.stoppedDuring k }

/-- The first reason to end a run comes up before the `k`-th step. -/
def EndsAt (d : Debugger) (limit : Option Int) (k : Nat) (r : RunEnd) : Prop :=
  d.endBefore limit k = some r ∧ ∀ j < k, d.endBefore limit j = none

/-- A run with a limit, or with none, returns a result. A limit below zero is as good as zero, and a
run without a limit returns if it does so within some number of steps. -/
def Returns (d : Debugger) (limit : Option Int) (result : RunEnd × Debugger) : Prop :=
  match limit with
  | some n => d.run n.toNat = result
  | none => ∃ fuel, d.runOn? fuel = some result

/-! ## Single steps -/

theorem blocked_iff (d : Debugger) : d.blocked = true ↔ d.BlockedBefore 0 := by
  unfold blocked BlockedBefore
  rw [Bool.and_eq_true, bne_iff_ne, List.any_eq_true, and_comm]
  simp only [Breakpoint.hitsBefore_iff, true_and, Machine.afterSteps_zero, ne_eq]

/-! ## The induction over the steps allowed -/

/-- What ends a run before its first step. -/
theorem endBefore_zero (d : Debugger) (limit : Option Int) :
    d.endBefore limit 0 =
      if ∃ n ∈ limit, n ≤ 0 then some .stepLimit
      else if d.BlockedBefore 0 then some (.breakpointBefore d.target.state.pc)
      else
        match d.target.step.1 with
        | .error e => some (.failed e)
        | .ok none => some .awaitingKey
        | .ok (some _) => none :=
  rfl

/-- What an instruction has met is what the loop tests after it. -/
theorem hitAfter?_one {snap : Snapshot} (h : d.target.step.1 = .ok (some snap)) :
    d.hitAfter? 1 =
      if d.breakpoints.any (·.hitsAfter snap.activity d.target.state.registers
        snap.state.registers) then some snap
      else none := by
  have hiff : (∃ b ∈ d.breakpoints, b.enabled = true ∧ b.MetBy d.target.state snap) ↔
      d.breakpoints.any (·.hitsAfter snap.activity d.target.state.registers snap.state.registers) =
        true := by
    rw [List.any_eq_true]
    simp only [Breakpoint.hitsAfter_iff]
  show d.target.snapshot?.filter _ = _
  rw [(d.target.snapshot?_eq_some_iff snap).mpr h, Option.filter_some]
  simp only [Machine.afterSteps_zero, hiff, decide_eq_true_eq]

/-- Once a stop has not been asked for during the first step, the later steps decide. -/
theorem stoppedDuring_step {snap : Snapshot} (hstop : d.stoppedDuring 1 = false) (k : Nat) :
    d.stoppedDuring (k + 1) = (d.stepped snap).stoppedDuring k := by
  cases k with
  | zero => exact hstop
  | succ k => rfl

theorem hitAfter?_step {snap : Snapshot} (hhit : d.hitAfter? 1 = none) (k : Nat) :
    d.hitAfter? (k + 1) = (d.stepped snap).hitAfter? k := by
  cases k with
  | zero => exact hhit
  | succ k => rfl

/-- **The step lemma**: once a step has given no reason to end, the reasons before the later steps
are those of the debugger after it, with one step less allowed. -/
theorem endBefore_step {snap : Snapshot} (hhit : d.hitAfter? 1 = none)
    (hstop : d.stoppedDuring 1 = false) (n k : Nat) :
    d.endBefore (some (n + 1 : Nat)) (k + 1) = (d.stepped snap).endBefore (some n) k := by
  have hlimit : (∃ l ∈ some ((n + 1 : Nat) : Int), l ≤ (k + 1 : Nat)) ↔
      ∃ l ∈ some (n : Int), l ≤ k := by
    simp
  have hblocked : d.BlockedBefore (k + 1) ↔ (d.stepped snap).BlockedBefore k := by
    unfold BlockedBefore
    show _ ∧ ¬ (k + 1 = 0 ∧ _) ↔ _ ∧ ¬ (k = 0 ∧ none = some _)
    simp only [Nat.add_one_ne_zero, false_and, reduceCtorEq, and_false]
    rfl
  unfold endBefore
  rw [hitAfter?_step hhit, stoppedDuring_step hstop]
  simp only [hlimit, hblocked]
  rfl

/-- Up to the request to stop, an end before a later step leaves what it leaves of the debugger
after the first one. -/
theorem endedBefore_succ {snap : Snapshot} (h : d.target.step.1 = .ok (some snap)) (k : Nat)
    (r : RunEnd) :
    d.endedBefore (k + 1) r =
      { (d.stepped snap).endedBefore k r with stopRequested := d.stoppedDuring (k + 1) } := by
  have hresume : (if k + 1 = 0 then d.resumePc else none) = if k = 0 then none else none := by simp
  unfold endedBefore
  rw [Machine.snapshots_succ, (d.target.snapshot?_eq_some_iff snap).mpr h, hresume]
  rfl

theorem endedBefore_zero (h : d.stopRequested = false) (r : RunEnd) :
    d.endedBefore 0 r =
      { d with
        target := match r with | .failed _ => d.target.step.2 | _ => d.target
        resumePc := match r with | .breakpointBefore pc => some pc | _ => d.resumePc } := by
  have hstop : d.stoppedDuring 0 = d.stopRequested := h.symm
  unfold endedBefore
  rw [hstop]
  rfl

/-- A reason before the first step is the first one. -/
theorem endsAt_zero {limit : Option Int} {r : RunEnd} (h : d.endBefore limit 0 = some r) :
    d.EndsAt limit 0 r :=
  ⟨h, fun j hj => absurd hj (Nat.not_lt_zero j)⟩

/-- The first reason after a step that gives none comes one step later. -/
theorem endsAt_succ {limit limit' : Option Int} {k : Nat} {r : RunEnd}
    (h0 : d.endBefore limit 0 = none) {d' : Debugger}
    (hstep : ∀ j, d.endBefore limit (j + 1) = d'.endBefore limit' j) (h : d'.EndsAt limit' k r) :
    d.EndsAt limit (k + 1) r := by
  refine ⟨(hstep k).trans h.1, fun j hj => ?_⟩
  cases j with
  | zero => exact h0
  | succ j => exact (hstep j).trans (h.2 j (Nat.lt_of_succ_lt_succ hj))

/-- A reason right after the first step is the first one, if there is none before it. -/
theorem endsAt_one {limit : Option Int} {r : RunEnd} (h0 : d.endBefore limit 0 = none)
    (h1 : d.endBefore limit 1 = some r) : d.EndsAt limit 1 r := by
  refine ⟨h1, fun j hj => ?_⟩
  rw [Nat.lt_one_iff.mp hj]
  exact h0

/-- What the loop does behind a step that gives no reason to end before it, given what it does
from there. -/
theorem loop_ends_after {snap : Snapshot} {n : Nat} (h : d.stopRequested = false)
    (hresult : d.target.step.1 = .ok (some snap))
    (hzero : d.endBefore (some (n + 1 : Nat)) 0 = none)
    (ih : (d.stepped snap).stopRequested = false →
      ∃ k r, (d.stepped snap).EndsAt (some n) k r ∧
        (d.stepped snap).loop n = (r, (d.stepped snap).endedBefore k r)) :
    ∃ k r, d.EndsAt (some (n + 1 : Nat)) k r ∧
      (if d.breakpoints.any (·.hitsAfter snap.activity d.target.state.registers
        snap.state.registers) then
        (.breakpointAfter snap.symbol, d.stepped snap)
      else (d.stepped snap).loop n) = (r, d.endedBefore k r) := by
  have hstopped : (d.stepped snap).stopRequested = d.stoppedDuring 1 := by
    show (d.stopRequested || _) = _
    rw [h, Bool.false_or]
    rfl
  have hstay : ∀ r, d.endedBefore 1 r =
      { (d.stepped snap).endedBefore 0 r with stopRequested := (d.stepped snap).stopRequested
        } := by
    intro r
    rw [endedBefore_succ hresult, hstopped]
  have hone := hitAfter?_one hresult
  by_cases hhit : d.breakpoints.any
      (·.hitsAfter snap.activity d.target.state.registers snap.state.registers) = true
  · -- The step itself has met a breakpoint, which is the strongest reason before step 1.
    rw [if_pos hhit] at hone
    rw [if_pos hhit]
    refine ⟨1, _, endsAt_one hzero ?_, congrArg (Prod.mk _)
      (hstay (.breakpointAfter snap.symbol)).symm⟩
    unfold endBefore
    rw [hone]
  · rw [if_neg hhit] at hone
    rw [if_neg hhit]
    cases hstop : d.stoppedDuring 1 with
    | true =>
      -- The request is found before anything else, with or without steps left.
      have hloop : (d.stepped snap).loop n = (.stopped, d.stepped snap) := by
        cases n with
        | zero => exact if_pos (hstopped.trans hstop)
        | succ n => exact if_pos (hstopped.trans hstop)
      rw [hloop]
      refine ⟨1, _, endsAt_one hzero ?_, congrArg (Prod.mk _) (hstay .stopped).symm⟩
      unfold endBefore
      rw [hone, hstop]
      rfl
    | false =>
      -- No reason before step 1: the end is the one that the rest of the loop comes to, one
      -- step later.
      obtain ⟨k, r, hends, hloop⟩ := ih (hstopped.trans hstop)
      refine ⟨k + 1, r, endsAt_succ hzero (endBefore_step hone hstop n) hends, ?_⟩
      rw [hloop, endedBefore_succ hresult, stoppedDuring_step hstop]
      rfl

/-- **The induction over the steps allowed**: the loop ends where the first reason to end is. -/
theorem loop_ends (d : Debugger) (h : d.stopRequested = false) (n : Nat) :
    ∃ k r, d.EndsAt (some n) k r ∧ d.loop n = (r, d.endedBefore k r) := by
  -- Every step allowed is made by another debugger, with no request pending, so both are
  -- generalized.
  induction n generalizing d with
  | zero =>
    have hzero : d.endBefore (some (0 : Nat)) 0 = some .stepLimit := by
      rw [endBefore_zero]
      exact if_pos ⟨0, rfl, Int.le_refl 0⟩
    refine ⟨0, _, endsAt_zero hzero, ?_⟩
    unfold loop
    rw [h, if_neg Bool.false_ne_true]
    exact congrArg (Prod.mk _) (endedBefore_zero h .stepLimit).symm
  | succ n ih =>
    have hlimit : ¬ ∃ l ∈ some ((n + 1 : Nat) : Int), l ≤ 0 := by
      rintro ⟨l, hl, hle⟩
      cases hl
      omega
    have hzero := d.endBefore_zero (some (n + 1 : Nat))
    rw [if_neg hlimit] at hzero
    unfold loop
    rw [h, if_neg Bool.false_ne_true]
    by_cases hblocked : d.BlockedBefore 0
    · rw [if_pos hblocked] at hzero
      rw [if_pos (d.blocked_iff.mpr hblocked)]
      exact ⟨0, _, endsAt_zero hzero, rfl⟩
    · rw [if_neg hblocked] at hzero
      rw [if_neg (mt d.blocked_iff.mp hblocked)]
      cases hresult : d.target.step.1 with
      | error e =>
        rw [hresult] at hzero
        rw [step_of_error hresult]
        exact ⟨0, _, endsAt_zero hzero, congrArg (Prod.mk _) (endedBefore_zero h (.failed e)).symm⟩
      | ok snap? =>
        rw [hresult] at hzero
        cases snap? with
        | none =>
          rw [step_of_awaitingKey hresult]
          exact ⟨0, _, endsAt_zero hzero, congrArg (Prod.mk _)
            (endedBefore_zero h .awaitingKey).symm⟩
        | some snap =>
          rw [step_of_snapshot hresult]
          exact loop_ends_after h hresult hzero (ih (d.stepped snap))

/-! ## Whole runs -/

/-- Limits that are used up at the same time do not make a difference. -/
theorem endBefore_congr {limit limit' : Option Int} {k : Nat}
    (h : (∃ n ∈ limit, n ≤ k) ↔ ∃ n ∈ limit', n ≤ k) :
    d.endBefore limit k = d.endBefore limit' k := by
  unfold endBefore
  simp only [h]

/-- Without a limit, nothing but the limit is missing. -/
theorem endBefore_none_of_ne {limit : Option Int} {k : Nat} {reason : Option RunEnd}
    (h : d.endBefore limit k = reason) (hne : reason ≠ some .stepLimit) :
    d.endBefore none k = reason := by
  by_cases hlimit : ∃ n ∈ limit, n ≤ k
  · -- The limit is used up, so the reason is one of the two that are stronger than it.
    unfold endBefore at h ⊢
    split at h
    next => exact h
    next =>
      by_cases hstop : d.stoppedDuring k = true
      · rw [if_pos hstop] at h
        rw [← h]
        exact if_pos hstop
      · rw [if_neg hstop, if_pos hlimit] at h
        exact absurd h.symm hne
  · rw [← h]
    refine endBefore_congr (iff_of_false ?_ hlimit)
    rintro ⟨n, hn, -⟩
    cases hn

/-- What a reason to end before the `k`-th step, or the lack of one, tells. -/
def Tells (d : Debugger) (limit : Option Int) (k : Nat) : Option RunEnd → Prop
  | none => ¬ d.BlockedBefore k ∧ ∃ snap, (d.target.afterSteps k).snapshot? = some snap
  | some (.failed e) => ¬ d.BlockedBefore k ∧ (d.target.afterSteps k).step.1 = .error e
  | some (.breakpointBefore pc) => (d.target.afterSteps k).state.pc = pc
  | some (.breakpointAfter _) => k ≠ 0
  | some .stepLimit => ∃ n ∈ limit, n ≤ k
  | some _ => True

theorem tells_endBefore (d : Debugger) (limit : Option Int) (k : Nat) :
    d.Tells limit k (d.endBefore limit k) := by
  unfold endBefore
  cases hhit : d.hitAfter? k with
  | some snap =>
    intro hk
    rw [hk] at hhit
    cases hhit
  | none =>
    dsimp only
    split
    next => trivial
    next =>
      split
      next hlimit => exact hlimit
      next =>
        split
        next => exact rfl
        next hblocked =>
          split
          next heq => exact ⟨hblocked, heq⟩
          next => trivial
          next heq => exact ⟨hblocked, _, (Machine.snapshot?_eq_some_iff _ _).mpr heq⟩

/-- There is only one first reason. -/
theorem EndsAt.unique {limit : Option Int} {k k' : Nat} {r r' : RunEnd} (h : d.EndsAt limit k r)
    (h' : d.EndsAt limit k' r') : k = k' ∧ r = r' := by
  have hk : k = k' := by
    rcases Nat.lt_trichotomy k k' with hlt | heq | hlt
    · exact absurd ((h'.2 k hlt).symm.trans h.1) (Option.some_ne_none r).symm
    · exact heq
    · exact absurd ((h.2 k' hlt).symm.trans h'.1) (Option.some_ne_none r').symm
  subst hk
  exact ⟨rfl, Option.some.inj (h.1.symm.trans h'.1)⟩

/-- Up to the first reason to end, no step is blocked, and every one makes a record. -/
theorem EndsAt.before {limit : Option Int} {k j : Nat} {r : RunEnd} (h : d.EndsAt limit k r)
    (hj : j < k) :
    ¬ d.BlockedBefore j ∧ ∃ snap, (d.target.afterSteps j).snapshot? = some snap := by
  have htells := d.tells_endBefore limit j
  rw [h.2 j hj] at htells
  exact htells

theorem EndsAt.length_snapshots {limit : Option Int} {k : Nat} {r : RunEnd}
    (h : d.EndsAt limit k r) :
    (d.target.snapshots k).length = k :=
  Machine.length_snapshots fun _ hj => (h.before hj).2

/-- A run counts the steps that it has executed, and only a failing step halts the machine. -/
theorem EndsAt.counts {limit : Option Int} {k : Nat} {r : RunEnd} (h : d.EndsAt limit k r) :
    (d.endedBefore k r).target.state.cycles = d.target.state.cycles + k ∧
      (d.target.halt = none → (d.endedBefore k r).target.halt.isSome → ∃ e, r = .failed e) := by
  obtain ⟨hcycles, hrun⟩ := Machine.afterSteps_executed fun _ hj => (h.before hj).2
  have hstay : (d.target.afterSteps k).state.cycles = d.target.state.cycles + k ∧
      (d.target.halt = none → (d.target.afterSteps k).halt.isSome → ∃ e, r = .failed e) := by
    refine ⟨hcycles, fun hnone hsome => ?_⟩
    rw [hrun hnone] at hsome
    cases hsome
  cases r with
  | failed e =>
    have htells := d.tells_endBefore limit k
    rw [h.1] at htells
    refine ⟨?_, fun _ _ => ⟨e, rfl⟩⟩
    show (d.target.afterSteps (k + 1)).state.cycles = _
    rw [Machine.afterSteps_succ', Machine.step_failed htells.2, hcycles]
  | breakpointBefore pc => exact hstay
  | breakpointAfter symbol => exact hstay
  | awaitingKey => exact hstay
  | stepLimit => exact hstay
  | stopped => exact hstay

/-- No step is blocked that a run executes, whether it succeeds or fails. -/
theorem EndsAt.not_blocked {limit : Option Int} {k j : Nat} {r : RunEnd} (h : d.EndsAt limit k r)
    (hj : j < k ∨ j = k ∧ ∃ e, r = .failed e) : ¬ d.BlockedBefore j := by
  rcases hj with hlt | ⟨rfl, e, rfl⟩
  · exact (h.before hlt).1
  · have htells := d.tells_endBefore limit j
    rw [h.1] at htells
    exact htells.1

/-- A mark that a run leaves comes from the breakpoint at which it has ended, or it is the one that
was there, and no instruction has been executed. -/
theorem EndsAt.resumePc_cases {limit : Option Int} {k : Nat} {r : RunEnd} {p : Int}
    (h : d.EndsAt limit k r) (hp : (d.endedBefore k r).resumePc = some p) :
    r = .breakpointBefore p ∧ (d.target.afterSteps k).state.pc = p ∨
      k = 0 ∧ d.resumePc = some p ∧ r.atBreakpoint = false := by
  have htells := d.tells_endBefore limit k
  rw [h.1] at htells
  have hkept : (if k = 0 then d.resumePc else none) = some p → k = 0 ∧ d.resumePc = some p := by
    intro hif
    split at hif
    next hk => exact ⟨hk, hif⟩
    next => cases hif
  cases r with
  | breakpointBefore pc =>
    cases hp
    exact .inl ⟨rfl, htells⟩
  | breakpointAfter symbol => exact absurd (hkept hp).1 htells
  | failed e => exact .inr ⟨(hkept hp).1, (hkept hp).2, rfl⟩
  | awaitingKey => exact .inr ⟨(hkept hp).1, (hkept hp).2, rfl⟩
  | stepLimit => exact .inr ⟨(hkept hp).1, (hkept hp).2, rfl⟩
  | stopped => exact .inr ⟨(hkept hp).1, (hkept hp).2, rfl⟩

/-- A limited run ends where the first reason to end is, and only there. -/
theorem run_eq_iff (d d' : Debugger) (n : Nat) (r : RunEnd) :
    d.run n = (r, d') ↔ ∃ k, d.EndsAt (some n) k r ∧ d' = d.endedBefore k r := by
  -- A run begins by forgetting an earlier request, which no reason to end looks at.
  obtain ⟨k, r', hends, hloop⟩ := loop_ends { d with stopRequested := false } rfl n
  have hends' : d.EndsAt (some n) k r' := hends
  have hrun : d.run n = (r', d.endedBefore k r') := hloop
  rw [hrun]
  constructor
  · intro h
    cases h
    exact ⟨k, hends', rfl⟩
  · rintro ⟨k₀, h₀, rfl⟩
    obtain ⟨rfl, rfl⟩ := hends'.unique h₀
    rfl

/-- A run without a limit comes to an end within some number of steps if there is a first reason
to end. -/
theorem runOn?_eq_some_iff (d d' : Debugger) (r : RunEnd) :
    (∃ fuel, d.runOn? fuel = some (r, d')) ↔ ∃ k, d.EndsAt none k r ∧ d' = d.endedBefore k r := by
  constructor
  · rintro ⟨fuel, h⟩
    have hrun : d.run fuel = (r, d') ∧ r ≠ .stepLimit := by
      unfold runOn? at h
      split at h
      next => cases h
      next hne =>
        rw [Option.some.inj h]
        exact ⟨rfl, fun heq => hne d' (by rw [← heq]; exact Option.some.inj h)⟩
    obtain ⟨k, hends, hd'⟩ := (d.run_eq_iff d' fuel r).mp hrun.1
    refine ⟨k, ⟨endBefore_none_of_ne hends.1 fun heq => hrun.2 (Option.some.inj heq),
      fun j hj => ?_⟩, hd'⟩
    exact endBefore_none_of_ne (hends.2 j hj) (Option.some_ne_none _).symm
  · rintro ⟨k, hends, hd'⟩
    -- One more step than the run makes is enough fuel: the limit is not used up before the
    -- run ends.
    have hsame : ∀ j ≤ k, d.endBefore (some (k + 1 : Nat)) j = d.endBefore none j := by
      intro j hj
      refine endBefore_congr (iff_of_false ?_ ?_)
      · rintro ⟨n, hn, hle⟩
        cases hn
        omega
      · rintro ⟨n, hn, -⟩
        cases hn
    have hends' : d.EndsAt (some (k + 1 : Nat)) k r :=
      ⟨(hsame k (Nat.le_refl k)).trans hends.1, fun j hj =>
        (hsame j (Nat.le_of_lt hj)).trans (hends.2 j hj)⟩
    have hrun := (d.run_eq_iff d' (k + 1) r).mpr ⟨k, hends', hd'⟩
    have hne : r ≠ .stepLimit := by
      rintro rfl
      have htells := d.tells_endBefore none k
      rw [hends.1] at htells
      obtain ⟨n, hn, -⟩ := htells
      cases hn
    refine ⟨k + 1, ?_⟩
    unfold runOn?
    rw [hrun]
    split
    next heq => exact absurd (congrArg Prod.fst heq) hne
    next => rfl

/-- Both kinds of runs return what belongs to the first reason to end. -/
theorem returns_iff_endsAt (d d' : Debugger) (limit : Option Int) (r : RunEnd) :
    d.Returns limit (r, d') ↔ ∃ k, d.EndsAt limit k r ∧ d' = d.endedBefore k r := by
  cases limit with
  | none => exact d.runOn?_eq_some_iff d' r
  | some n =>
    have hsame : ∀ k, d.endBefore (some (n.toNat : Int)) k = d.endBefore (some n) k := by
      intro k
      refine endBefore_congr ?_
      simp only [Option.mem_def, Option.some.injEq, exists_eq_left']
      omega
    refine (d.run_eq_iff d' n.toNat r).trans ?_
    unfold EndsAt
    simp only [hsame]

/-- The debugger without the breakpoints that are not enabled. -/
def onlyEnabled (d : Debugger) : Debugger :=
  { d with breakpoints := d.breakpoints.filter (·.enabled) }

theorem endBefore_onlyEnabled (d : Debugger) (limit : Option Int) (k : Nat) :
    d.onlyEnabled.endBefore limit k = d.endBefore limit k := by
  have hexists : ∀ p : Breakpoint → Prop,
      (∃ b ∈ d.onlyEnabled.breakpoints, b.enabled = true ∧ p b) ↔
        ∃ b ∈ d.breakpoints, b.enabled = true ∧ p b := by
    intro p
    simp [onlyEnabled, and_assoc]
  have hhit : d.onlyEnabled.hitAfter? k = d.hitAfter? k := by
    cases k with
    | zero => rfl
    | succ k =>
      unfold hitAfter?
      simp only [hexists]
      rfl
  have hblocked : d.onlyEnabled.BlockedBefore k ↔ d.BlockedBefore k := by
    unfold BlockedBefore
    simp only [hexists]
    rfl
  unfold endBefore
  rw [hhit]
  simp only [hblocked]
  rfl

/-- **A run stops exactly at the first reason to stop**: with a limit or without one, it returns a
reason exactly if that is the first one to come up in the plain sequence of steps, after `k` of
them, say; then it has executed these `k` steps, each with its record, and no others. Without the
breakpoints that are not enabled it returns the same. -/
theorem returns_iff (d : Debugger) (limit : Option Int) (r : RunEnd) (d' : Debugger) :
    (d.Returns limit (r, d') ↔
      ∃ k, d.EndsAt limit k r ∧ (d.target.snapshots k).length = k ∧ d' = d.endedBefore k r) ∧
    (d.onlyEnabled.Returns limit (r, d') ↔
      ∃ d₀, d.Returns limit (r, d₀) ∧ d' = d₀.onlyEnabled) := by
  constructor
  · rw [returns_iff_endsAt]
    constructor
    · rintro ⟨k, hends, hd'⟩
      exact ⟨k, hends, hends.length_snapshots, hd'⟩
    · rintro ⟨k, hends, -, hd'⟩
      exact ⟨k, hends, hd'⟩
  · -- Both debuggers make the same steps, so it is enough that they end them for the same reasons.
    have hends : ∀ k, d.onlyEnabled.EndsAt limit k r ↔ d.EndsAt limit k r := by
      intro k
      unfold EndsAt
      simp only [endBefore_onlyEnabled]
    rw [returns_iff_endsAt]
    constructor
    · rintro ⟨k, hk, hd'⟩
      exact ⟨d.endedBefore k r, (d.returns_iff_endsAt _ limit r).mpr ⟨k, (hends k).mp hk, rfl⟩, hd'⟩
    · rintro ⟨d₀, hd₀, hd'⟩
      obtain ⟨k, hk, rfl⟩ := (d.returns_iff_endsAt d₀ limit r).mp hd₀
      exact ⟨k, (hends k).mpr hk, hd'⟩

end Debugger

end Chip8
