import Chip8.Proofs.Machine.Access
import Chip8.Proofs.Machine.Run

/-!
# What a record says about the memory

The record of a step explains the memory (`Snapshot.Explains`): its accesses begin with the fetch of
the word that has been executed, they fit the memory of before, replaying them gives the memory of
the record, and rewinding them gives back the memory of before.

Between two records there may be instructions without one, keys and ticks. Whatever it is, more
instructions have been counted behind it, or the memory is the same (`Later`); so a record that is
the next one by its count can be replayed on the memory of the record before
(`Snapshot.Precedes.continues`).
-/

namespace Chip8

/-- What the record of a step says about the memory of the machine before it. -/
structure Snapshot.Explains (snap : Snapshot) (m : Machine) : Prop where
  fetch : ∃ high low rest,
    snap.activity = .read m.state.pc high :: .read (m.state.pc + 1) low :: rest ∧
      snap.operation.opcode = high.toNat * 256 + low.toNat
  inRange : ∀ access ∈ snap.activity, 0 ≤ access.address ∧ access.address ≤ 0xFFF
  fits : m.state.memory.Fits snap.activity
  replays : m.state.memory.clearLog.replay snap.activity = snap.state.memory
  rewinds : snap.state.memory.rewind snap.activity = m.state.memory.clearLog

namespace Machine

variable {m m' m'' : Machine} {snap : Snapshot}

/-- **Every step explains** what it has made of the memory. -/
theorem step_explains (h : m.state.WellFormed) (hstep : m.step.1 = .ok (some snap)) :
    snap.Explains m := by
  obtain ⟨hopcode, -, -, hactivity, hfits, hmemory⟩ := step_accessed h hstep
  have hclear : m.state.memory.clearLog.Fits snap.activity := hfits.congr rfl
  refine ⟨⟨_, _, _, hactivity, hopcode⟩, ?_, hfits, hmemory.symm, ?_⟩
  · intro access haccess
    exact (h.contains_iff _).mp (hfits.contains access haccess)
  · rw [hmemory]
    exact hclear.rewind_replay

/-- The record holds the state that the step leaves, and its memory has no accesses pending. -/
theorem step_record (hstep : m.step.1 = .ok (some snap)) :
    m.step.2.state = snap.state ∧ snap.state.memory.clearLog = snap.state.memory ∧
      snap.cycle = m.state.cycles + 1 := by
  have hcycles := (step_executed hstep).1
  obtain ⟨op, left, hc⟩ := cycle_of_snapshot hstep
  rw [step_of_executed hc] at hstep hcycles ⊢
  cases hstep
  exact ⟨rfl, rfl, hcycles⟩

/-- A machine whose second instruction writes over the first one, and which then waits for a key. -/
def overwriting : Machine :=
  boot [0xA2, 0x00, 0xF1, 0x55, 0xF0, 0x0A] 0x200 (Dice.cycle [])

theorem overwriting_record :
    ∃ snap, (overwriting.afterAll [.runInstruction]).step.1 = .ok (some snap) ∧
      snap.activity = [.read 0x202 0xF1, .read 0x203 0x55, .write 0x200 0 0xA2,
        .write 0x201 0 0x00] := by
  have hactivity : (overwriting.afterAll [.runInstruction]).snapshot?.map (·.activity) =
      some [.read 0x202 0xF1, .read 0x203 0x55, .write 0x200 0 0xA2, .write 0x201 0 0x00] := by
    unfold overwriting
    rw [boot_eq]
    decide +kernel
  obtain ⟨snap, hsnap, hmade⟩ := Option.map_eq_some_iff.mp hactivity
  exact ⟨snap, (snapshot?_eq_some_iff _ snap).mp hsnap, hmade⟩

/-! ## Between records -/

/-- A count that has grown, or a memory that is the same, stays so when another one follows. -/
theorem later_trans {c c' c'' : Int} {memory memory' memory'' : Memory}
    (h : c < c' ∨ c' = c ∧ memory' = memory) (h' : c' < c'' ∨ c'' = c' ∧ memory'' = memory') :
    c < c'' ∨ c'' = c ∧ memory'' = memory := by
  rcases h with hlt | ⟨heq, hmemory⟩
  · rcases h' with hlt' | ⟨heq', -⟩
    · exact .inl (by omega)
    · exact .inl (by omega)
  · rcases h' with hlt' | ⟨heq', hmemory'⟩
    · exact .inl (by omega)
    · exact .inr ⟨heq'.trans heq, hmemory'.trans hmemory⟩

/-- More instructions have been counted, or the memory is the same. -/
def Later (m m' : Machine) : Prop :=
  m.state.cycles < m'.state.cycles ∨
    m'.state.cycles = m.state.cycles ∧ m'.state.memory.clearLog = m.state.memory.clearLog

theorem Later.refl (m : Machine) : Later m m :=
  .inr ⟨rfl, rfl⟩

theorem Later.trans (h : Later m m') (h' : Later m' m'') : Later m m'' :=
  later_trans h h'

theorem later_cycle (h : m.state.WellFormed) : Later m m.cycle.2 := by
  have htouches := touches_cycle h
  have hcounts := m.counts_cycle
  cases hc : m.cycle with
  | mk outcome left =>
    rw [hc] at htouches hcounts
    cases outcome with
    | failed e => exact .inr ⟨hcounts, htouches⟩
    | awaitingKey => exact .inr ⟨congrArg (·.state.cycles) hcounts, htouches⟩
    | executed op =>
      obtain ⟨hcycles, -⟩ := hcounts
      refine .inl ?_
      show m.state.cycles < left.state.cycles
      omega

theorem later_runInstruction (h : m.state.WellFormed) : Later m m.runInstruction.2 := by
  have hcycle := later_cycle h
  unfold runInstruction
  generalize m.cycle = result at hcycle
  split
  · exact hcycle
  · exact hcycle
  · exact hcycle

/-- A step empties the log besides, which makes no difference here. -/
theorem later_step (h : m.state.WellFormed) : Later m m.step.2 := by
  have hcycle := later_cycle h
  unfold step
  generalize m.cycle = result at hcycle
  split
  · exact hcycle
  · exact hcycle
  · exact hcycle

theorem later_press (m : Machine) (code : Int) : Later m (m.press code).2 := by
  -- A press reaches the keys, and a register if it ends a wait.
  have hmemory : (m.state.press code).2.memory = m.state.memory := by
    unfold State.press
    split
    · dsimp only
      split
      · rfl
      · split
        · rfl
        · rfl
    · rfl
  refine .inr ⟨m.state.press_cycles code, ?_⟩
  show (m.state.press code).2.memory.clearLog = m.state.memory.clearLog
  rw [hmemory]

theorem later_release (m : Machine) (code : Int) : Later m (m.release code) := by
  refine .inr ⟨m.state.release_cycles code, ?_⟩
  show (m.state.release code).memory.clearLog = m.state.memory.clearLog
  unfold State.release
  split
  · rfl
  · rfl

theorem later_tick (m : Machine) : Later m m.tick :=
  .inr ⟨rfl, rfl⟩

theorem later_run (h : m.WellFormed) (n : Nat) : Later m (m.run n).2 := by
  have hmany : ∀ k, Later m (m.afterInstructions k) := by
    intro k
    induction k with
    | zero => exact .refl m
    | succ k ih =>
      rw [afterInstructions_succ']
      exact ih.trans (later_runInstruction (h.afterInstructions k).state)
  have hplain := m.plainRun n
  generalize m.run n = result at hplain ⊢
  cases hplain with
  | finished => exact hmany _
  | awaitingKey => exact hmany _
  | failed => exact hmany _

end Machine

namespace Snapshot

variable {snap next : Snapshot} {m m' : Machine}

/-- A record comes before a machine: more instructions have been counted since, or the memory is
that of the record. -/
def Precedes (snap : Snapshot) (m : Machine) : Prop :=
  snap.cycle < m.state.cycles ∨ m.state.cycles = snap.cycle ∧
    m.state.memory.clearLog = snap.state.memory

theorem Precedes.later (h : snap.Precedes m) (hlater : Machine.Later m m') : snap.Precedes m' :=
  Machine.later_trans h hlater

/-- The record of a step comes before the machine that the step leaves. -/
theorem precedes_of_step (hstep : m.step.1 = .ok (some snap)) : snap.Precedes m.step.2 := by
  obtain ⟨hstate, hclear, -⟩ := Machine.step_record hstep
  refine .inr ⟨congrArg State.cycles hstate, ?_⟩
  rw [hstate]
  exact hclear

/-- A record comes behind another one, and if it is the next one, its writes lead from the one
memory to the other. -/
def Continues (next snap : Snapshot) : Prop :=
  snap.cycle < next.cycle ∧
    (next.cycle = snap.cycle + 1 → next.state.memory = snap.state.memory.replay next.activity)

/-- **The record of the next step** can be replayed on the record before. -/
theorem Precedes.continues (h : snap.Precedes m) (hwf : m.state.WellFormed)
    (hstep : m.step.1 = .ok (some next)) :
    next.Continues snap := by
  obtain ⟨-, -, hcycle⟩ := Machine.step_record hstep
  have hexplains := Machine.step_explains hwf hstep
  rcases h with hlt | ⟨heq, hmemory⟩
  · refine ⟨by omega, fun hnext => ?_⟩
    omega
  · refine ⟨by omega, fun _ => ?_⟩
    rw [← hmemory]
    exact hexplains.replays.symm

end Snapshot

end Chip8
