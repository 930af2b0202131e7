import Chip8.Proofs.Instruction
import Chip8.Proofs.Machine.Steps
import Chip8.Proofs.Opcode

/-!
# What a cycle comes to

`CycleOutcome` lists the four ways in which a cycle can go: the machine has been halted before, it
waits for a key, it runs into a fault, or it executes an instruction. `Machine.cycle_outcome` shows
that on a well-formed state these are all, that each of them leaves a well-formed state, and that
`State.nextFault` tells beforehand which of the last two it will be. Everything later about single
steps takes a cycle apart with it and unfolds nothing. Where the state that is left has to be known
exactly, `executed_of_cycle` and `failed_of_cycle` look back at a cycle and say what it has
executed, on which state, or which fault it has run into.
-/

namespace Chip8

namespace State

variable {s : State}

/-- The word at the counter, its first byte the higher one. -/
def word (s : State) : Int :=
  (s.memory.getD s.pc).toNat * 256 + (s.memory.getD (s.pc + 1)).toNat

/-- The fault that the next instruction of a running machine runs into. -/
def nextFault (s : State) : Option Fault :=
  if 0xFFE < s.pc then some (.outOfMemory s.pc)
  else
    match Opcode.find? s.word with
    | none => some (.invalidOpcode s.word s.pc)
    | some p => (p.form (Word.ofOpcode s.word)).faultIn s.pc s

/-- The state behind a fetched word: the counter has moved on, and both bytes have been read. -/
def fetched (s : State) : State :=
  { s with
    memory :=
      (s.memory.record (.read s.pc (s.memory.getD s.pc))).record
        (.read (s.pc + 1) (s.memory.getD (s.pc + 1)))
    pc := s.pc + 2 }

theorem WellFormed.contains_iff (h : s.WellFormed) (a : Int) :
    s.memory.contains a = true ↔ 0 ≤ a ∧ a ≤ 0xFFF := by
  unfold Memory.contains
  rw [decide_eq_true_iff, h.cells]
  show 0 ≤ a ∧ a < 0x1000 ↔ _
  omega

theorem WellFormed.contains_iff_lt (h : s.WellFormed) {a : Int} (ha : 0 ≤ a) :
    s.memory.contains a = true ↔ a < 0x1000 := by
  rw [h.contains_iff]
  omega

/-- Fetching works as long as two bytes are left. -/
theorem fetch?_of_le (h : s.WellFormed) (hpc : s.pc ≤ 0xFFE) :
    s.fetch? = some (s.word, s.fetched) := by
  have h0 := h.pc_nonneg
  have hhigh : s.memory.contains s.pc = true := (h.contains_iff _).mpr (by omega)
  have hlow : s.memory.contains (s.pc + 1) = true := (h.contains_iff _).mpr (by omega)
  unfold fetch?
  rw [hhigh, hlow]
  simp only [Bool.and_self, if_true]
  rw [Memory.fetchCell_of_contains hhigh]
  dsimp only
  rw [Memory.fetchCell_of_contains (m := s.memory.record _) hlow]
  rfl

theorem fetch?_of_lt (h : s.WellFormed) (hpc : 0xFFE < s.pc) : s.fetch? = none := by
  have hlow : s.memory.contains (s.pc + 1) = false := by
    rw [← Bool.not_eq_true, h.contains_iff]
    omega
  unfold fetch?
  rw [hlow, Bool.and_false, if_neg Bool.false_ne_true]

/-- Emptying the log changes nothing that the bounds are about. -/
theorem WellFormed.quiet (h : s.WellFormed) : s.quiet.WellFormed :=
  h.withMemory rfl

theorem WellFormed.fetched (h : s.WellFormed) (hpc : s.pc ≤ 0xFFE) : s.fetched.WellFormed := by
  have h0 := h.pc_nonneg
  have hmemory : s.fetched.memory.cells.size = s.memory.cells.size := rfl
  exact (h.withMemory hmemory).withPc (by omega) (by omega)

end State

/-- The ways in which a cycle can go, and what each of them leaves. -/
inductive CycleOutcome (m : Machine) : Cycle × Machine → Prop
  | halted (cause : Fault) (hhalt : m.halt = some cause) :
      CycleOutcome m (.failed (.halted cause), m)
  | awaitingKey (hrun : m.halt = none) (hwait : m.state.awaiting.isSome) :
      CycleOutcome m (.awaitingKey, m)
  | fault (f : Fault) (s : State) (hrun : m.halt = none) (hwait : m.state.awaiting = none)
      (hfault : m.state.nextFault = some f) (hs : s.WellFormed) (hs' : s.awaiting = none) :
      CycleOutcome m (.failed (.fault f), { m with state := s, halt := some f })
  | executed (op : Operation) (s : State) (d : Dice) (hrun : m.halt = none)
      (hwait : m.state.awaiting = none)
      (hfault : m.state.nextFault = none) (hs : s.WellFormed) :
      CycleOutcome m (.executed op, { m with state := s, dice := d })

namespace Machine

variable {m left : Machine}

/-- A running machine on its last byte, or behind it, faults without fetching. -/
theorem cycle_of_lt (hrun : m.halt = none) (hwait : m.state.awaiting = none)
    (h : m.state.WellFormed) (hpc : 0xFFE < m.state.pc) :
    m.cycle = (.failed (.fault (.outOfMemory m.state.pc)),
      { m with state := m.state.quiet, halt := some (.outOfMemory m.state.pc) }) := by
  unfold cycle
  rw [hrun]
  simp only [hwait, State.fetch?_of_lt h.quiet hpc]

/-- What becomes of a cycle once the fetched word has been dispatched. -/
def concluded (m : Machine) (fetched : State) :
    Except InstructionError (Operation × State × Dice) → Cycle × Machine
  | .error (.fault f) => (.failed (.fault f), { m with state := fetched, halt := some f })
  | .error (.mishap mishap left) => (.failed (.mishap mishap), { m with state := left })
  | .ok (op, state, dice) =>
    (.executed op, { m with state := { state with cycles := state.cycles + 1 }, dice := dice })

/-- A running machine with two bytes left fetches them and does what they say. -/
theorem cycle_of_le (hrun : m.halt = none) (hwait : m.state.awaiting = none)
    (h : m.state.WellFormed) (hpc : m.state.pc ≤ 0xFFE) :
    m.cycle =
      m.concluded m.state.quiet.fetched
        (Operation.dispatch m.state.word m.state.pc m.state.quiet.fetched m.dice) := by
  have hfetch : m.state.quiet.fetch? = some (m.state.word, m.state.quiet.fetched) :=
    State.fetch?_of_le h.quiet hpc
  have hsame : m.concluded = { m with halt := none }.concluded := by rw [← hrun]
  rw [hsame]
  unfold cycle
  rw [hrun]
  dsimp only
  rw [hwait]
  dsimp only
  rw [hfetch]
  rfl

/-- With two bytes left, what comes to pass is up to the word at the counter. -/
theorem cycle_outcome_of_le (hrun : m.halt = none) (hwait : m.state.awaiting = none)
    (h : m.state.WellFormed) (hpc : m.state.pc ≤ 0xFFE) : CycleOutcome m m.cycle := by
  have hfetched := h.quiet.fetched hpc
  have hlo : 2 ≤ m.state.quiet.fetched.pc := by
    have := h.pc_nonneg
    show 2 ≤ m.state.pc + 2
    omega
  have hhi : m.state.quiet.fetched.pc ≤ 0x1000 := by
    show m.state.pc + 2 ≤ 0x1000
    omega
  have hnext : m.state.nextFault = match Opcode.find? m.state.word with
      | none => some (.invalidOpcode m.state.word m.state.pc)
      | some p => (p.form (Word.ofOpcode m.state.word)).faultIn m.state.pc m.state := by
    unfold State.nextFault
    rw [if_neg (by omega)]
  rw [cycle_of_le hrun hwait h hpc]
  unfold Operation.dispatch
  cases hfind : Opcode.find? m.state.word with
  | none =>
    rw [hfind] at hnext
    exact .fault _ _ hrun hwait hnext hfetched hwait
  | some p =>
    rw [hfind] at hnext
    dsimp only [Operation.ofPattern] at hnext ⊢
    -- From here on it does not matter which instruction it is: `execute_spec` is about all of them.
    generalize p.form (Word.ofOpcode m.state.word) = i at hnext ⊢
    have hspec := Instruction.execute_spec hfetched hlo hhi i m.state.pc m.dice
    have hsame : i.faultIn m.state.pc m.state.quiet.fetched = i.faultIn m.state.pc m.state := rfl
    rw [hsame] at hspec
    cases hfault : i.faultIn m.state.pc m.state with
    | some f =>
      rw [hfault] at hspec hnext
      rw [hspec]
      exact .fault f _ hrun hwait hnext hfetched hwait
    | none =>
      rw [hfault] at hspec hnext
      obtain ⟨s', d', hexecute, hwf⟩ := hspec
      rw [hexecute]
      exact .executed _ _ _ hrun hwait hnext hwf

/-- **What a cycle comes to** on a well-formed state. -/
theorem cycle_outcome (h : m.state.WellFormed) : CycleOutcome m m.cycle := by
  cases hrun : m.halt with
  | some cause =>
    rw [cycle_of_halted hrun]
    exact .halted cause hrun
  | none =>
    cases hwait : m.state.awaiting with
    | some x =>
      rw [cycle_of_awaiting hrun hwait]
      exact .awaitingKey hrun (by rw [hwait]; rfl)
    | none =>
      rcases Int.lt_or_le 0xFFE m.state.pc with hpc | hpc
      · rw [cycle_of_lt hrun hwait h hpc]
        refine .fault _ _ hrun hwait ?_ h.quiet hwait
        unfold State.nextFault
        rw [if_pos hpc]
      · exact cycle_outcome_of_le hrun hwait h hpc

/-! ## Looking back at a cycle -/

/-- **What has been executed** is what the word at the counter stands for, on the state behind
the fetch. -/
theorem executed_of_cycle {op : Operation} (h : m.state.WellFormed)
    (hc : m.cycle = (.executed op, left)) :
    op.address = m.state.pc ∧ op.opcode = m.state.word ∧
    Opcode.instruction? op.opcode = some op.instruction ∧
      m.state.pc ≤ 0xFFE ∧ ∃ s d, op.instruction.execute m.state.pc m.state.quiet.fetched
        m.dice = .ok (s, d) ∧
        left = { m with state := { s with cycles := s.cycles + 1 }, dice := d } := by
  cases hrun : m.halt with
  | some cause =>
    rw [cycle_of_halted hrun] at hc
    cases hc
  | none =>
    cases hwait : m.state.awaiting with
    | some number =>
      rw [cycle_of_awaiting hrun hwait] at hc
      cases hc
    | none =>
      by_cases hpc : m.state.pc ≤ 0xFFE
      · rw [cycle_of_le hrun hwait h hpc] at hc
        unfold Operation.dispatch at hc
        cases hfind : Opcode.find? m.state.word with
        | none =>
          rw [hfind] at hc
          cases hc
        | some p =>
          rw [hfind] at hc
          dsimp only [Operation.ofPattern] at hc
          cases hexecute : (p.form (Word.ofOpcode m.state.word)).execute m.state.pc
            m.state.quiet.fetched m.dice with
          | ok result =>
            rw [hexecute] at hc
            cases hc
            refine ⟨rfl, rfl, ?_, hpc, result.1, result.2, hexecute, ?_⟩
            · unfold Opcode.instruction?
              rw [hfind]
              rfl
            · rw [← hrun]
          | error e =>
            rw [hexecute] at hc
            cases e with
            | fault f => cases hc
            | mishap mishap s => cases hc
      · rw [cycle_of_lt hrun hwait h (by omega)] at hc
        cases hc

/-- A fault that comes up behind the fetch leaves what the fetch has left. -/
theorem eq_of_concluded {f : Fault} {fetched : State}
    {result : Except InstructionError (Operation × State × Dice)}
    (h : m.concluded fetched result = (.failed (.fault f), left)) :
    left = { m with state := fetched, halt := some f } := by
  cases result with
  | ok result => cases h
  | error e =>
    cases e with
    | fault g =>
      cases h
      rfl
    | mishap mishap s => cases h

/-- **What has failed** is the fault that was ahead, and leaves the machine behind the fetch, if
there was one; a machine that had been halted before stays as it is. -/
theorem failed_of_cycle {e : CycleError} (h : m.state.WellFormed)
    (hc : m.cycle = (.failed e, left)) :
    (∃ cause, e = .halted cause ∧ m.halt = some cause ∧ left = m) ∨
      ∃ f, e = .fault f ∧ m.halt = none ∧ m.state.awaiting = none ∧ m.state.nextFault = some f ∧
        left = { m with
          state := if 0xFFE < m.state.pc then m.state.quiet else m.state.quiet.fetched
          halt := some f } := by
  have houtcome := cycle_outcome h
  rw [hc] at houtcome
  cases houtcome with
  | halted cause hhalt => exact .inl ⟨cause, rfl, hhalt, rfl⟩
  | fault f s hrun hwait hfault _ _ =>
    refine .inr ⟨f, rfl, hrun, hwait, hfault, ?_⟩
    by_cases hpc : 0xFFE < m.state.pc
    · rw [cycle_of_lt hrun hwait h hpc] at hc
      rw [if_pos hpc]
      cases hc
      rfl
    · rw [cycle_of_le hrun hwait h (Int.not_lt.mp hpc)] at hc
      rw [if_neg hpc]
      exact eq_of_concluded hc

end Machine

end Chip8
