import Chip8.Proofs.Machine.Steps

/-!
# Sequences of plain instructions

`runInstruction` is the way of asking for an instruction that makes no record. `afterInstructions`
is the machine that a number of plain instructions leave; `PlainRun` lists the ways in which a plain
run can end, and `plainRun` shows that these are all. A step and a plain instruction come to the
same (`runInstruction_eq_step`) and leave the same machine up to the accesses that the step has
moved into its record. `Machine.quiet` is a machine without pending accesses; since a cycle begins
by emptying the log, it does not matter to any later instruction which accesses were pending
(`runInstruction_congr`), and so whole sequences of steps and of plain instructions agree
(`quiet_afterSteps`). It does not matter to keys, either.
-/

namespace Chip8

namespace State

/-- A key does the same whichever accesses are pending. -/
theorem press_quiet (s : State) (code : Int) : (s.quiet.press code).2 = (s.press code).2.quiet := by
  have hwait : s.quiet.awaiting = s.awaiting := rfl
  unfold State.press
  split
  · dsimp only
    rw [hwait]
    split
    · rfl
    · split
      · rfl
      · rfl
  · rfl

theorem release_quiet (s : State) (code : Int) : s.quiet.release code = (s.release code).quiet := by
  unfold State.release
  split
  · rfl
  · rfl

end State

namespace Machine

variable {m m' left : Machine}

/-! ## Plain instructions one after the other -/

/-- The machine that `k` plain instructions leave. -/
def afterInstructions (m : Machine) : Nat → Machine
  | 0 => m
  | k + 1 => m.runInstruction.2.afterInstructions k

theorem afterInstructions_add (m : Machine) (j k : Nat) :
    m.afterInstructions (j + k) = (m.afterInstructions j).afterInstructions k := by
  induction j generalizing m with
  | zero => rw [Nat.zero_add]; rfl
  | succ j ih =>
    rw [Nat.succ_add]
    exact ih m.runInstruction.2

/-- The last instruction can be taken off as well as the first one. -/
theorem afterInstructions_succ' (m : Machine) (k : Nat) :
    m.afterInstructions (k + 1) = (m.afterInstructions k).runInstruction.2 :=
  m.afterInstructions_add k 1

theorem runInstruction_of_awaitingKey (h : m.cycle = (.awaitingKey, left)) :
    m.runInstruction = (.ok false, left) := by
  unfold runInstruction
  rw [h]

/-- An instruction that waits for a key changes nothing. -/
theorem runInstruction_of_ok_false (h : m.runInstruction.1 = .ok false) :
    m.runInstruction = (.ok false, m) := by
  cases hc : m.cycle with
  | mk outcome left =>
    cases outcome with
    | failed e =>
      rw [runInstruction_of_failed hc] at h
      cases h
    | executed op =>
      rw [runInstruction_of_executed hc] at h
      cases h
    | awaitingKey =>
      rw [runInstruction_of_awaitingKey hc, cycle_of_awaitingKey hc]

/-- Neither do any number of them. -/
theorem afterInstructions_of_ok_false (h : m.runInstruction.1 = .ok false) (k : Nat) :
    m.afterInstructions k = m := by
  induction k with
  | zero => rfl
  | succ k ih =>
    rw [afterInstructions_succ', ih, runInstruction_of_ok_false h]

/-! ## Plain runs -/

/-- The first `k` plain instructions are all executed. -/
def ExecutesFirst (m : Machine) (k : Nat) : Prop :=
  ∀ j < k, (m.afterInstructions j).runInstruction.1 = .ok true

/-- How a plain run of up to `n` instructions ends. -/
inductive PlainRun (m : Machine) (n : Nat) : Except CycleError Nat × Machine → Prop
  | finished (h : m.ExecutesFirst n) : PlainRun m n (.ok n, m.afterInstructions n)
  | awaitingKey {k : Nat} (hk : k < n) (h : m.ExecutesFirst k)
      (hwait : (m.afterInstructions k).runInstruction.1 = .ok false) :
        PlainRun m n (.ok k, m.afterInstructions k)
  | failed {k : Nat} {e : CycleError} (hk : k < n) (h : m.ExecutesFirst k)
      (hfail : (m.afterInstructions k).runInstruction.1 = .error e) :
      PlainRun m n (.error e, m.afterInstructions (k + 1))

/-- A run goes through the instructions that are executed. -/
theorem runFrom_of_executesFirst {k : Nat} (h : m.ExecutesFirst k) (ran n : Nat) :
    m.runFrom ran (k + n) = (m.afterInstructions k).runFrom (ran + k) n := by
  induction k generalizing m ran with
  | zero =>
    rw [Nat.zero_add]
    rfl
  | succ k ih =>
    have hfirst : m.runInstruction = (.ok true, m.runInstruction.2) :=
      Prod.ext (h 0 (Nat.succ_pos k)) rfl
    have hrest : m.runInstruction.2.ExecutesFirst k := fun j hj => h (j + 1) (Nat.succ_lt_succ hj)
    have hone : m.runFrom ran (k + n + 1) = m.runInstruction.2.runFrom (ran + 1) (k + n) := by
      rw [runFrom, hfirst]
    rw [Nat.succ_add, hone, ih hrest, Nat.add_assoc, Nat.add_comm 1 k]
    rfl

/-- A plain run is what the ways in which it can end say. -/
theorem PlainRun.run_eq {n : Nat} {result : Except CycleError Nat × Machine}
    (h : m.PlainRun n result) :
    m.run n = result := by
  have hstart : ∀ {k}, m.ExecutesFirst k → k ≤ n →
      m.run n = (m.afterInstructions k).runFrom k (n - k) := by
    intro k hk hle
    have hrun := runFrom_of_executesFirst hk 0 (n - k)
    rwa [Nat.add_sub_cancel' hle, Nat.zero_add] at hrun
  cases h with
  | finished h =>
    rw [hstart h (Nat.le_refl n), Nat.sub_self]
    rfl
  | @awaitingKey k hk h hwait =>
    have hmore : n - k = n - k - 1 + 1 := by omega
    rw [hstart h (Nat.le_of_lt hk), hmore]
    unfold runFrom
    rw [runInstruction_of_ok_false hwait]
  | @failed k e hk h hfail =>
    have hmore : n - k = n - k - 1 + 1 := by omega
    have hlast : (m.afterInstructions k).runInstruction =
        (.error e, (m.afterInstructions k).runInstruction.2) :=
      Prod.ext hfail rfl
    rw [hstart h (Nat.le_of_lt hk), hmore, afterInstructions_succ']
    unfold runFrom
    rw [hlast]

/-- **The ways in which a plain run can end.** -/
theorem plainRun (m : Machine) (n : Nat) : m.PlainRun n (m.run n) := by
  -- Either all `n` instructions are executed, or there is a first one that is not.
  have hfirst : m.ExecutesFirst n ∨
      ∃ k < n, m.ExecutesFirst k ∧ (m.afterInstructions k).runInstruction.1 ≠ .ok true := by
    induction n with
    | zero => exact .inl fun j hj => absurd hj (Nat.not_lt_zero j)
    | succ n ih =>
      rcases ih with hall | ⟨k, hk, h⟩
      · by_cases hlast : (m.afterInstructions n).runInstruction.1 = .ok true
        · refine .inl fun j hj => ?_
          rcases Nat.lt_succ_iff_lt_or_eq.mp hj with hlt | rfl
          · exact hall j hlt
          · exact hlast
        · exact .inr ⟨n, Nat.lt_succ_self n, hall, hlast⟩
      · exact .inr ⟨k, Nat.lt_succ_of_lt hk, h⟩
  have hrun : ∃ result, m.PlainRun n result := by
    rcases hfirst with hall | ⟨k, hk, h, hlast⟩
    · exact ⟨_, .finished hall⟩
    · cases hresult : (m.afterInstructions k).runInstruction.1 with
      | error e => exact ⟨_, .failed hk h hresult⟩
      | ok ran =>
        cases ran with
        | false => exact ⟨_, .awaitingKey hk h hresult⟩
        | true => exact absurd hresult hlast
  obtain ⟨result, hresult⟩ := hrun
  rw [hresult.run_eq]
  exact hresult

/-! ## Machines without pending accesses -/

/-- The machine without the accesses that are pending in its log. -/
def quiet (m : Machine) : Machine :=
  m.mapState State.quiet

/-- A cycle that does anything at all begins by emptying the log, so that pending accesses do not
matter from there on. -/
theorem cycle_quiet_of_running (hrun : m.halt = none) (hwait : m.state.awaiting = none) :
    m.quiet.cycle = m.cycle := by
  have hhalt : m.quiet.halt = m.halt := rfl
  have hkey : m.quiet.state.awaiting = m.state.awaiting := rfl
  unfold cycle
  rw [hhalt, hrun, hkey]
  dsimp only
  rw [hwait]
  rfl

/-- A cycle comes to the same whichever accesses are pending. -/
theorem cycle_quiet (m : Machine) :
    m.quiet.cycle.1 = m.cycle.1 ∧ m.quiet.cycle.2.quiet = m.cycle.2.quiet := by
  cases hrun : m.halt with
  | some cause =>
    have hrun' : m.quiet.halt = some cause := hrun
    rw [cycle_of_halted hrun, cycle_of_halted hrun']
    exact ⟨rfl, rfl⟩
  | none =>
    have hrun' : m.quiet.halt = none := hrun
    cases hwait : m.state.awaiting with
    | some number =>
      have hwait' : m.quiet.state.awaiting = some number := hwait
      rw [cycle_of_awaiting hrun hwait, cycle_of_awaiting hrun' hwait']
      exact ⟨rfl, rfl⟩
    | none =>
      rw [cycle_quiet_of_running hrun hwait]
      exact ⟨rfl, rfl⟩

/-- A plain instruction tells what a step tells, and leaves what a step leaves, up to the
pending accesses. -/
theorem runInstruction_eq_step (m : Machine) :
    m.runInstruction.1 = m.step.1.map (·.isSome) ∧ m.runInstruction.2.quiet = m.step.2.quiet := by
  cases hc : m.cycle with
  | mk outcome left =>
    cases outcome with
    | failed e =>
      rw [runInstruction_of_failed hc, step_of_failed hc]
      exact ⟨rfl, rfl⟩
    | awaitingKey =>
      rw [runInstruction_of_awaitingKey hc, step_of_awaitingKey hc]
      exact ⟨rfl, rfl⟩
    | executed op =>
      rw [runInstruction_of_executed hc, step_of_executed hc]
      exact ⟨rfl, rfl⟩

theorem runInstruction_quiet (m : Machine) :
    m.quiet.runInstruction.1 = m.runInstruction.1 ∧
    m.quiet.runInstruction.2.quiet = m.runInstruction.2.quiet := by
  obtain ⟨hfst, hsnd⟩ := m.cycle_quiet
  cases hc : m.cycle with
  | mk outcome left =>
    cases hq : m.quiet.cycle with
    | mk outcome' left' =>
      rw [hc, hq] at hfst hsnd
      dsimp only at hfst hsnd
      subst hfst
      cases outcome' with
      | failed e =>
        rw [runInstruction_of_failed hc, runInstruction_of_failed hq]
        exact ⟨rfl, hsnd⟩
      | awaitingKey =>
        rw [runInstruction_of_awaitingKey hc, runInstruction_of_awaitingKey hq]
        exact ⟨rfl, hsnd⟩
      | executed op =>
        rw [runInstruction_of_executed hc, runInstruction_of_executed hq]
        exact ⟨rfl, hsnd⟩

/-- Machines that differ in their pending accesses alone go on in the same way. -/
theorem runInstruction_congr (h : m.quiet = m'.quiet) :
    m.runInstruction.1 = m'.runInstruction.1 ∧
    m.runInstruction.2.quiet = m'.runInstruction.2.quiet := by
  obtain ⟨hfst, hsnd⟩ := m.runInstruction_quiet
  obtain ⟨hfst', hsnd'⟩ := m'.runInstruction_quiet
  rw [← hfst, ← hsnd, h]
  exact ⟨hfst', hsnd'⟩

theorem afterInstructions_congr (h : m.quiet = m'.quiet) (k : Nat) :
    (m.afterInstructions k).quiet = (m'.afterInstructions k).quiet := by
  induction k generalizing m m' with
  | zero => exact h
  | succ k ih => exact ih (runInstruction_congr h).2

/-- **Steps and plain instructions leave the same machine**, up to the pending accesses. -/
theorem quiet_afterSteps (m : Machine) (k : Nat) :
    (m.afterSteps k).quiet = (m.afterInstructions k).quiet := by
  induction k generalizing m with
  | zero => rfl
  | succ k ih =>
    have hstep : m.step.2.quiet = m.runInstruction.2.quiet := m.runInstruction_eq_step.2.symm
    exact (ih m.step.2).trans (afterInstructions_congr hstep k)

/-- What a plain instruction tells behind plain instructions is what a step tells behind steps. -/
theorem runInstruction_afterInstructions (m : Machine) (k : Nat) :
    (m.afterInstructions k).runInstruction.1 = (m.afterSteps k).step.1.map (·.isSome) := by
  rw [← (m.afterSteps k).runInstruction_eq_step.1]
  exact (runInstruction_congr (m.quiet_afterSteps k)).1.symm

/-- Plain runs of machines that differ in their pending accesses alone come to the same. -/
theorem run_congr (h : m.quiet = m'.quiet) (n : Nat) :
    (m.run n).1 = (m'.run n).1 ∧ (m.run n).2.quiet = (m'.run n).2.quiet := by
  have hresult : ∀ j, (m.afterInstructions j).runInstruction.1 =
      (m'.afterInstructions j).runInstruction.1 :=
    fun j => (runInstruction_congr (afterInstructions_congr h j)).1
  have hexecutes : ∀ {k}, m.ExecutesFirst k → m'.ExecutesFirst k :=
    fun hk j hj => (hresult j).symm.trans (hk j hj)
  have hplain := m.plainRun n
  generalize m.run n = result at hplain ⊢
  cases hplain with
  | finished hk =>
    rw [(PlainRun.finished (hexecutes hk)).run_eq]
    exact ⟨rfl, afterInstructions_congr h _⟩
  | awaitingKey hlt hk hwait =>
    rw [(PlainRun.awaitingKey hlt (hexecutes hk) ((hresult _).symm.trans hwait)).run_eq]
    exact ⟨rfl, afterInstructions_congr h _⟩
  | failed hlt hk hfail =>
    rw [(PlainRun.failed hlt (hexecutes hk) ((hresult _).symm.trans hfail)).run_eq]
    exact ⟨rfl, afterInstructions_congr h _⟩

/-- So do keys. -/
theorem press_congr (h : m.quiet = m'.quiet) (code : Int) :
    (m.press code).2.quiet = (m'.press code).2.quiet := by
  have hpress : ∀ m : Machine, (m.press code).2.quiet =
      { m.quiet with state := (m.quiet.state.press code).2 } :=
    fun m => congrArg (fun state => { m with state := state }) (m.state.press_quiet code).symm
  rw [hpress m, hpress m', h]

theorem release_congr (h : m.quiet = m'.quiet) (code : Int) :
    (m.release code).quiet = (m'.release code).quiet := by
  have hrelease : ∀ m : Machine, (m.release code).quiet = m.quiet.release code :=
    fun m => congrArg (fun state => { m with state := state }) (m.state.release_quiet code).symm
  rw [hrelease m, hrelease m', h]

end Machine

end Chip8
