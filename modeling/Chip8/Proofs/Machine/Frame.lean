import Chip8.Proofs.Machine.Calls
import Chip8.Proofs.Machine.Plain

/-!
# What cycles leave alone

`cycle_outcome` is about well-formed states. Here the state may be any: a cycle that executes an
instruction executes the one that its opcode stands for, behind a fetch that has moved the counter
and read memory (`HasExecuted`), and a cycle that executes none leaves the sound timer and the wait
for a key as they were (`frames_cycle`). Both ways of asking for an instruction leave what the cycle
leaves, up to the pending accesses (`quiet_step`, `quiet_runInstruction`).
-/

namespace Chip8.Machine

variable {m left : Machine} {op : Operation}

/-- A cycle has executed an operation, and left a machine. -/
def HasExecuted (m : Machine) (op : Operation) (left : Machine) : Prop :=
  m.halt = none ∧ m.state.awaiting = none ∧ Opcode.instruction? op.opcode = some op.instruction ∧
    ∃ fetched s d, fetched = { m.state with memory := fetched.memory, pc := fetched.pc } ∧
      op.instruction.execute m.state.pc fetched m.dice = .ok (s, d) ∧
      left = { m with state := { s with cycles := s.cycles + 1 }, dice := d }

/-- What a cycle leaves alone, according to what it comes to. -/
def Frames (m : Machine) : Cycle × Machine → Prop
  | (.executed op, left) => m.HasExecuted op left
  | (_, left) => left.state.awaiting = m.state.awaiting ∧ left.state.sound = m.state.sound

theorem quiet_fetch?_eq {s fetched : State} {opcode : Int}
    (h : s.quiet.fetch? = some (opcode, fetched)) :
    fetched = { s with memory := fetched.memory, pc := fetched.pc } := by
  unfold State.fetch? at h
  split at h
  · cases h
    rfl
  · cases h

/-- **Every cycle**, on whatever state. -/
theorem frames_cycle (m : Machine) : m.Frames m.cycle := by
  unfold cycle
  cases hrun : m.halt with
  | some cause => exact ⟨rfl, rfl⟩
  | none =>
    cases hwait : m.state.awaiting with
    | some number => exact ⟨rfl, rfl⟩
    | none =>
      dsimp only
      cases hfetch : m.state.quiet.fetch? with
      | none => exact ⟨rfl, rfl⟩
      | some fetch =>
        obtain ⟨opcode, fetched⟩ := fetch
        have heq : fetched = { m.state with memory := fetched.memory, pc := fetched.pc } :=
          quiet_fetch?_eq hfetch
        have hsame : fetched.awaiting = m.state.awaiting ∧ fetched.sound = m.state.sound := by
          rw [heq]
          exact ⟨rfl, rfl⟩
        dsimp only
        unfold Operation.dispatch
        cases hfind : Opcode.find? opcode with
        | none => exact hsame
        | some p =>
          dsimp only
          cases hexecute : (Operation.ofPattern p opcode m.state.pc).instruction.execute m.state.pc
            fetched m.dice with
          | ok result =>
            refine ⟨hrun, hwait, ?_, fetched, result.1, result.2, heq, hexecute, ?_⟩
            · show (Opcode.find? opcode).map _ = _
              rw [hfind]
              rfl
            · rw [← hrun]
          | error e =>
            have hframed := Instruction.framed_of_error hexecute
            cases e with
            | fault f => exact hsame
            | mishap mishap left => exact ⟨hframed.1.trans hsame.1, hframed.2.trans hsame.2⟩

theorem hasExecuted_of_executed? (h : m.executed? = some op) : m.HasExecuted op m.cycle.2 := by
  have hframes := m.frames_cycle
  rw [executed?_eq_some h] at hframes
  exact hframes

theorem eq_of_executed?_eq_none (h : m.executed? = none) :
    m.cycle.2.state.awaiting = m.state.awaiting ∧ m.cycle.2.state.sound = m.state.sound := by
  have hframes := m.frames_cycle
  unfold executed? at h
  cases hc : m.cycle with
  | mk outcome left =>
    rw [hc] at h hframes
    cases outcome with
    | executed op => cases h
    | awaitingKey => exact hframes
    | failed e => exact hframes

theorem quiet_runInstruction (m : Machine) : m.runInstruction.2.quiet = m.cycle.2.quiet := by
  rw [m.runInstruction_snd]

theorem quiet_step (m : Machine) : m.step.2.quiet = m.cycle.2.quiet := by
  rw [← m.runInstruction_eq_step.2, m.quiet_runInstruction]

/-- An event that executes an operation leaves what the cycle leaves, up to the pending accesses. -/
theorem quiet_of_executedBy {event : MachineEvent} (h : m.executedBy event = some op) :
    m.executed? = some op ∧ (m.after event).quiet = m.cycle.2.quiet := by
  cases event with
  | step => exact ⟨h, m.quiet_step⟩
  | runInstruction => exact ⟨h, m.quiet_runInstruction⟩
  | press code => cases h
  | release code => cases h
  | tick => cases h
  | reset => cases h

end Chip8.Machine
