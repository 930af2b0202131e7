import Chip8.Proofs.Machine.Frame
import Chip8.Proofs.Machine.Run

/-!
# The sound timer

Only an executed `Fx18` sets the sound timer, to what its register holds (`sound_of_executed?`); any
other cycle leaves it alone, also one that fails. So after a number of instructions the timer holds
what the last `Fx18` among them has set (`sound_of_last`), and if there is none, what it held before
(`sound_afterInstructions`). `Reaches` says of a machine that it is the one that some executed
instructions leave, as far as the count and the sound timer are concerned, whether or not the next
instruction has failed.
-/

namespace Chip8

namespace Operation

/-- What sets the sound timer, `Fx18`. -/
def SetsSound (op : Operation) : Prop :=
  (Form.register 0xF 1 8).Fits op.word

instance (op : Operation) : Decidable op.SetsSound :=
  inferInstanceAs (Decidable (Form.Fits _ _))

variable {op : Operation}

theorem SetsSound.instruction_eq (h : op.SetsSound)
    (hi : Opcode.instruction? op.opcode = some op.instruction) :
    op.instruction = .setSound op.word.x := by
  have hp : (⟨0xF0FF, 0xF018, fun w => .setSound w.x⟩ : Pattern) ∈
      Opcode.patterns := by simp [Opcode.patterns]
  rw [Opcode.instruction?_of_fits op.opcode hp rfl rfl h] at hi
  exact (Option.some.inj hi).symm

theorem setsSound_of_eq {x : Reg} (hi : Opcode.instruction? op.opcode = some op.instruction)
    (h : op.instruction = .setSound x) : op.SetsSound := by
  have hfits := Opcode.fits_encoding hi
  rw [h] at hfits
  exact Form.fits_register_of_withReg hfits

end Operation

namespace Machine

variable {m m' : Machine} {op : Operation} {k : Nat}

/-- **Only `Fx18`** sets the sound timer, to what its register holds. -/
theorem sound_of_executed? (h : m.executed? = some op) :
    m.cycle.2.state.sound = if op.SetsSound then m.state.v.get op.word.x else m.state.sound := by
  obtain ⟨-, -, hi, fetched, s, d, heq, hexecute, hleft⟩ := hasExecuted_of_executed? h
  have hstate : m.cycle.2.state.sound = s.sound := by rw [hleft]
  rw [hstate]
  by_cases hsets : op.SetsSound
  · rw [if_pos hsets]
    rw [hsets.instruction_eq hi] at hexecute
    cases hexecute
    show fetched.v.get op.word.x = _
    rw [heq]
  · have hsame := (Instruction.framed_of_ok hexecute).sound fun x hx =>
      hsets (Operation.setsSound_of_eq hi hx)
    rw [if_neg hsets, hsame, heq]

theorem runInstruction_sound (m : Machine) :
    m.runInstruction.2.state.sound = m.cycle.2.state.sound :=
  congrArg (·.state.sound) m.quiet_runInstruction

/-- An instruction that is no `Fx18`, or is not executed. -/
theorem sound_runInstruction (h : ∀ op ∈ m.executed?, ¬ op.SetsSound) :
    m.runInstruction.2.state.sound = m.state.sound := by
  rw [m.runInstruction_sound]
  cases hop : m.executed? with
  | none => exact (eq_of_executed?_eq_none hop).2
  | some op => rw [sound_of_executed? hop, if_neg (h op hop)]

/-- **Any number of them.** -/
theorem sound_afterInstructions (h : ∀ j < k, ∀ op ∈ (m.afterInstructions j).executed?,
      ¬ op.SetsSound) :
    (m.afterInstructions k).state.sound = m.state.sound := by
  induction k with
  | zero => rfl
  | succ k ih =>
    rw [afterInstructions_succ', sound_runInstruction (h k (Nat.lt_succ_self k))]
    exact ih fun j hj => h j (Nat.lt_succ_of_lt hj)

/-- The timer holds what the last `Fx18` has set. -/
theorem sound_of_last {j : Nat} (hj : j < k) (hop : (m.afterInstructions j).executed? = some op)
    (hsets : op.SetsSound)
    (hlast : ∀ i, j < i → i < k → ∀ op ∈ (m.afterInstructions i).executed?, ¬ op.SetsSound) :
    (m.afterInstructions k).state.sound = (m.afterInstructions j).state.v.get op.word.x := by
  have hsplit : m.afterInstructions k =
      (m.afterInstructions (j + 1)).afterInstructions (k - (j + 1)) := by
    rw [← afterInstructions_add, Nat.add_sub_cancel' hj]
  have hset : (m.afterInstructions (j + 1)).state.sound =
      (m.afterInstructions j).state.v.get op.word.x := by
    rw [afterInstructions_succ', runInstruction_sound, sound_of_executed? hop, if_pos hsets]
  rw [hsplit, sound_afterInstructions, hset]
  intro i hi
  rw [← afterInstructions_add]
  exact hlast (j + 1 + i) (by omega) (by omega)

/-! ## Runs -/

/-- The second machine is what `k` executed instructions leave, up to what has nothing to do with
the sound timer. -/
structure Reaches (m m' : Machine) (k : Nat) : Prop where
  cycles : m'.state.cycles = m.state.cycles + k
  sound : m'.state.sound = (m.afterInstructions k).state.sound

theorem Reaches.refl (m : Machine) : m.Reaches m 0 :=
  ⟨(Int.add_zero _).symm, rfl⟩

theorem reaches_of_executesFirst (h : m.ExecutesFirst k)
    (hquiet : m'.quiet = (m.afterInstructions k).quiet) :
    m.Reaches m' k := by
  have hcycles : m'.state.cycles = (m.afterInstructions k).state.cycles :=
    congrArg (·.state.cycles) hquiet
  exact ⟨hcycles.trans (cycles_of_executesFirst h), congrArg (·.state.sound) hquiet⟩

/-- An instruction that fails behind them is not counted and leaves the timer alone. -/
theorem reaches_of_failed {e : CycleError} (h : m.ExecutesFirst k)
    (hfail : (m.afterInstructions k).runInstruction.1 = .error e)
    (hquiet : m'.quiet = (m.afterInstructions (k + 1)).quiet) : m.Reaches m' k := by
  have hcycles : m'.state.cycles = (m.afterInstructions (k + 1)).state.cycles :=
    congrArg (·.state.cycles) hquiet
  have hsound : m'.state.sound = (m.afterInstructions (k + 1)).state.sound :=
    congrArg (·.state.sound) hquiet
  have hnone : (m.afterInstructions k).executed? = none := by
    cases hop : (m.afterInstructions k).executed? with
    | none => rfl
    | some op =>
      rw [runInstruction_of_executed (executed?_eq_some hop)] at hfail
      cases hfail
  constructor
  · rw [hcycles, afterInstructions_succ', (counts_runInstruction _).2 fun hran => ?_,
      cycles_of_executesFirst h]
    rw [hran] at hfail
    cases hfail
  · rw [hsound, afterInstructions_succ']
    refine sound_runInstruction fun op hop => ?_
    rw [hnone] at hop
    cases hop

/-- A plain run reaches what its executed instructions leave. -/
theorem run_reaches (m : Machine) (n : Nat) : ∃ k, m.Reaches (m.run n).2 k := by
  have hplain := m.plainRun n
  generalize m.run n = result at hplain ⊢
  cases hplain with
  | finished h => exact ⟨n, reaches_of_executesFirst h rfl⟩
  | awaitingKey _ h => exact ⟨_, reaches_of_executesFirst h rfl⟩
  | failed _ h hfail => exact ⟨_, reaches_of_failed h hfail rfl⟩

/-- So does a step, if it executes an instruction at all. -/
theorem step_reaches (m : Machine) : ∃ k, m.Reaches m.step.2 k := by
  have hquiet : m.step.2.quiet = m.runInstruction.2.quiet := m.runInstruction_eq_step.2.symm
  cases hanswer : m.runInstruction.1 with
  | error e =>
    exact ⟨0, reaches_of_failed (fun j hj => absurd hj (Nat.not_lt_zero j)) hanswer hquiet⟩
  | ok ran =>
    cases ran with
    | false =>
      rw [runInstruction_of_ok_false hanswer] at hquiet
      exact ⟨0, reaches_of_executesFirst (fun j hj => absurd hj (Nat.not_lt_zero j)) hquiet⟩
    | true =>
      refine ⟨1, reaches_of_executesFirst (fun j hj => ?_) hquiet⟩
      obtain rfl : j = 0 := Nat.lt_one_iff.mp hj
      exact hanswer

end Machine

end Chip8
