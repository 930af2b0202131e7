import Chip8.Proofs.Machine.Fault
import Chip8.Proofs.Machine.Plain

/-!
# What a fault leaves, for good

A fault comes up before the instruction has done anything: the machine that is left differs from the
one before in its halt, in the pending accesses, and in the counter if the word has been fetched
(`cycle_of_fault`). From there on nothing but keys and timers can move. `Rests` says this of two
machines, one event that is no reset keeps to it (`rests_after`), and so does any number of them
(`rests_afterAll`); the machine stays halted on the way, and whoever asks it for an instruction is
told why. The main result is `fault_freezes`.
-/

namespace Chip8

theorem State.FailsWith.address_eq {s : State} {f : Fault} (h : s.FailsWith f) :
    f.address = s.pc := by
  cases h with
  | outOfMemory => rfl
  | invalidOpcode => rfl
  | stackUnderflow => rfl
  | stackOverflow => rfl

namespace Machine

variable {m m' m'' left : Machine} {event : MachineEvent} {f : Fault}

/-- An event asks for an instruction, and the answer is an error. -/
def Raises (m : Machine) : MachineEvent → CycleError → Prop
  | .step, e => m.step.1 = .error e
  | .runInstruction, e => m.runInstruction.1 = .error e
  | _, _ => False

theorem cycle_of_raises {e : CycleError} (h : m.Raises event e) :
    m.cycle = (.failed e, m.after event) := by
  cases event with
  | step => exact cycle_of_error h
  | runInstruction =>
    have hask : m.runInstruction.1 = .error e := h
    show m.cycle = (.failed e, m.runInstruction.2)
    cases hc : m.cycle with
    | mk outcome left =>
      cases outcome with
      | failed e' =>
        rw [runInstruction_of_failed hc] at hask ⊢
        cases hask
        rfl
      | awaitingKey =>
        rw [runInstruction_of_awaitingKey hc] at hask
        cases hask
      | executed op =>
        rw [runInstruction_of_executed hc] at hask
        cases hask
  | press code => exact absurd h id
  | release code => exact absurd h id
  | tick => exact absurd h id
  | reset => exact absurd h id

/-! ## The fault itself -/

/-- **What a fault leaves** of a machine with a well-formed state. -/
theorem cycle_of_fault (h : m.state.WellFormed) (hc : m.cycle = (.failed (.fault f), left)) :
    m.state.FailsWith f ∧ m.state.awaiting = none ∧
      ∃ log, left = { m with
        halt := some f
        state := { m.state with
          pc := if f = .outOfMemory m.state.pc then m.state.pc else m.state.pc + 2
          memory := { m.state.memory with log := log } } } := by
  rcases failed_of_cycle h hc with ⟨cause, hcause, -⟩ | ⟨g, hg, -, hwait, hnext, rfl⟩
  · cases hcause
  · cases hg
    have hfails := (m.state.nextFault_eq_some_iff f).mp hnext
    refine ⟨hfails, hwait, ?_⟩
    by_cases hpc : 0xFFE < m.state.pc
    · have hf : f = .outOfMemory m.state.pc :=
        Option.some.inj
          (hnext.symm.trans ((m.state.nextFault_eq_some_iff _).mpr (.outOfMemory hpc)))
      rw [if_pos hpc, if_pos hf]
      exact ⟨_, rfl⟩
    · -- The word has been fetched, and so the fault is none of the counter.
      have hf : f ≠ .outOfMemory m.state.pc := by
        rintro rfl
        cases hfails with
        | outOfMemory hlt => exact hpc hlt
      rw [if_neg hpc, if_neg hf]
      exact ⟨_, rfl⟩

/-! ## What comes after it -/

/-- Nothing has moved but keys and timers. -/
def Rests (m m' : Machine) : Prop :=
  ∃ keys delay sound,
  m' = { m with state := { m.state with keys := keys, delay := delay, sound := sound } }

theorem Rests.refl (m : Machine) : Rests m m :=
  ⟨m.state.keys, m.state.delay, m.state.sound, rfl⟩

theorem Rests.trans (h : Rests m m') (h' : Rests m' m'') : Rests m m'' := by
  obtain ⟨keys, delay, sound, rfl⟩ := h
  obtain ⟨keys', delay', sound', rfl⟩ := h'
  exact ⟨keys', delay', sound', rfl⟩

/-- What rests stays halted, and waits for no key. -/
theorem Rests.halted (h : Rests m m') (hhalt : m.halt = some f) (hwait : m.state.awaiting = none) :
    m'.halt = some f ∧ m'.state.awaiting = none := by
  obtain ⟨keys, delay, sound, rfl⟩ := h
  exact ⟨hhalt, hwait⟩

/-- **One event** at a halted machine that is not reset. -/
theorem rests_after (hhalt : m.halt = some f) (hwait : m.state.awaiting = none)
    (hreset : event ≠ .reset) :
    Rests m (m.after event) := by
  cases event with
  | step =>
    show Rests m m.step.2
    rw [step_of_failed (cycle_of_halted hhalt)]
    exact .refl m
  | runInstruction =>
    show Rests m m.runInstruction.2
    rw [runInstruction_of_failed (cycle_of_halted hhalt)]
    exact .refl m
  | press code =>
    -- A press goes to a register only while the machine waits for a key.
    have hpress : ∃ keys, (m.state.press code).2 = { m.state with keys := keys } := by
      unfold State.press
      split
      · simp only [hwait]
        exact ⟨_, rfl⟩
      · exact ⟨_, rfl⟩
    obtain ⟨keys, hpress⟩ := hpress
    show Rests m { m with state := (m.state.press code).2 }
    rw [hpress]
    exact ⟨_, _, _, rfl⟩
  | release code =>
    show Rests m { m with state := m.state.release code }
    unfold State.release
    split
    · exact ⟨_, _, _, rfl⟩
    · exact .refl m
  | tick => exact ⟨_, _, _, rfl⟩
  | reset => exact absurd rfl hreset

/-- **Any number of them.** -/
theorem rests_afterAll {events : List MachineEvent} (hhalt : m.halt = some f)
    (hwait : m.state.awaiting = none) (hreset : MachineEvent.reset ∉ events) :
    Rests m (m.afterAll events) := by
  induction events generalizing m with
  | nil => exact .refl m
  | cons event rest ih =>
    rw [List.mem_cons, not_or] at hreset
    have hfirst : Rests m (m.after event) := rests_after hhalt hwait fun h => hreset.1 h.symm
    obtain ⟨hhalt', hwait'⟩ := hfirst.halted hhalt hwait
    exact hfirst.trans (ih hhalt' hwait' hreset.2)

/-- **A fault freezes the machine.** It names the address of its instruction, and leaves everything
as it was but the pending accesses, the halt, and the counter, which stands behind the word if there
has been one to fetch. Whatever comes after that, except a reset, moves nothing but keys and timers,
and every instruction that is asked for is refused with the same fault. -/
theorem fault_freezes (h : m.state.WellFormed) (hraises : m.Raises event (.fault f)) :
    f.address = m.state.pc ∧
      (∃ log, m.after event = { m with
        halt := some f
        state := { m.state with
          pc := if f = .outOfMemory m.state.pc then m.state.pc else m.state.pc + 2
          memory := { m.state.memory with log := log } } }) ∧
      ∀ events, MachineEvent.reset ∉ events →
        Rests (m.after event) ((m.after event).afterAll events) ∧
          ((m.after event).afterAll events).halt = some f ∧
          ((m.after event).afterAll events).step.1 = .error (.halted f) ∧
          ((m.after event).afterAll events).runInstruction.1 = .error (.halted f) := by
  obtain ⟨hfails, hwait, log, hleft⟩ := cycle_of_fault h (cycle_of_raises hraises)
  have hhalt : (m.after event).halt = some f := by rw [hleft]
  have hidle : (m.after event).state.awaiting = none := by
    rw [hleft]
    exact hwait
  refine ⟨hfails.address_eq, ⟨log, hleft⟩, fun events hreset => ?_⟩
  have hrests := rests_afterAll hhalt hidle hreset
  obtain ⟨hstill, -⟩ := hrests.halted hhalt hidle
  refine ⟨hrests, hstill, ?_, ?_⟩
  · rw [step_of_failed (cycle_of_halted hstill)]
  · rw [runInstruction_of_failed (cycle_of_halted hstill)]

/-- A machine that has called itself sixteen times, with a key held down. -/
def recursing : Machine :=
  (boot [0x22, 0x00] 0x200 (Dice.cycle [])).afterAll (.press 4 :: List.replicate 16 .runInstruction)

theorem recursing_wellFormed : recursing.WellFormed :=
  (boot_wellFormed _ _ (by decide) (by decide)).afterAll _

theorem recursing_cycle : recursing.cycle.1 = .failed (.fault (.stackOverflow 0x200)) := by
  unfold recursing
  rw [boot_eq]
  decide +kernel

theorem fault_freezes_recursing :
    recursing.state.WellFormed ∧ recursing.Raises .step (.fault (.stackOverflow 0x200)) ∧
    recursing.state.pc = 0x200 ∧
      (∃ log, recursing.after .step = { recursing with
        halt := some (.stackOverflow 0x200)
        state := { recursing.state with
          pc := recursing.state.pc + 2
          memory := { recursing.state.memory with log := log } } }) ∧
      ((recursing.after .step).afterAll [.press 7, .tick, .step, .release 4,
        .press 20]).runInstruction.1 =
        .error (.halted (.stackOverflow 0x200)) := by
  have hraises : recursing.Raises .step (.fault (.stackOverflow 0x200)) :=
    recursing.step_fst.1 _ recursing_cycle
  obtain ⟨haddress, hleft, hlater⟩ := fault_freezes recursing_wellFormed.state hraises
  obtain ⟨-, -, -, hask⟩ := hlater [.press 7, .tick, .step, .release 4, .press 20] (by simp)
  rw [if_neg (by simp)] at hleft
  exact ⟨recursing_wellFormed.state, hraises, haddress.symm, hleft, hask⟩

end Machine

end Chip8
