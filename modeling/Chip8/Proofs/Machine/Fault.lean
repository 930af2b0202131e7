import Chip8.Proofs.Machine.Invariant
import Chip8.Proofs.Machine.Steps

/-!
# Exactly when an instruction fails

`State.FailsWith` says in the words of the machine's description when the next instruction of a
running machine fails, and with which fault: the counter has less than two bytes in front of it, the
word there is no instruction, a return finds no open call, or a call finds sixteen.
`nextFault_eq_some_iff` ties it to what a cycle looks at. The main result is `reachable_fails_iff`:
on a machine that has been loaded, whatever has been done to it since, an instruction fails exactly
so, in both ways of asking for it, and otherwise it is executed. So no other error comes up,
whatever the index register, the registers or the place of a sprite are.
-/

namespace Chip8

/-- When the next instruction fails, and with which fault. -/
inductive State.FailsWith (s : State) : Fault → Prop
  | outOfMemory (hpc : 0xFFE < s.pc) : FailsWith s (.outOfMemory s.pc)
  | invalidOpcode (hpc : s.pc ≤ 0xFFE) (hword : ¬ (Word.ofOpcode s.word).IsInstruction) :
      FailsWith s (.invalidOpcode s.word s.pc)
  | stackUnderflow (hpc : s.pc ≤ 0xFFE)
      (hword : (Form.word 0 0 0xE 0xE).Fits (Word.ofOpcode s.word))
      (hsp : s.sp = 0) : FailsWith s (.stackUnderflow s.pc)
  | stackOverflow (hpc : s.pc ≤ 0xFFE) (hword : (Form.first 2).Fits (Word.ofOpcode s.word))
      (hsp : s.sp = 16) : FailsWith s (.stackOverflow s.pc)

namespace Instruction

/-- Instructions fault as returns without an open call or as calls with sixteen of them. -/
theorem faultIn_eq_some_iff (i : Instruction) (address : Int) (s : State) (f : Fault) :
    i.faultIn address s = some f ↔
      i = ret ∧ s.sp = 0 ∧ f = .stackUnderflow address ∨
        (∃ a, i = call a) ∧ s.sp = 16 ∧ f = .stackOverflow address := by
  unfold faultIn
  split
  next =>
    by_cases hsp : s.sp = 0
    · simp [hsp, eq_comm]
    · simp [hsp]
  next a =>
    show (if s.sp = 16 then _ else _) = some f ↔ _
    by_cases hsp : s.sp = 16
    · simp [hsp, eq_comm]
    · simp [hsp]
  next hret hcall =>
    constructor
    · intro h
      cases h
    · rintro (⟨rfl, -⟩ | ⟨⟨a, rfl⟩, -⟩)
      · exact absurd rfl hret
      · exact absurd rfl (hcall a)

end Instruction

namespace State

/-- What a cycle looks at is what the description of failures speaks about. -/
theorem nextFault_eq_some_iff (s : State) (f : Fault) : s.nextFault = some f ↔ s.FailsWith f := by
  unfold nextFault
  by_cases hpc : 0xFFE < s.pc
  · rw [if_pos hpc]
    constructor
    · intro h
      cases h
      exact .outOfMemory hpc
    · intro h
      cases h with
      | outOfMemory => rfl
      | invalidOpcode hle => omega
      | stackUnderflow hle => omega
      | stackOverflow hle => omega
  · rw [if_neg hpc]
    have hle : s.pc ≤ 0xFFE := Int.not_lt.mp hpc
    cases hfind : Opcode.find? s.word with
    | none =>
      -- Returns and calls are instructions, so the last two faults are out of the question.
      have hno := (Opcode.find?_eq_none_iff s.word).mp hfind
      constructor
      · intro h
        cases h
        exact .invalidOpcode hle hno
      · intro h
        cases h with
        | outOfMemory hlt => omega
        | invalidOpcode => rfl
        | stackUnderflow _ hword => exact absurd ⟨_, by simp [Form.all], hword⟩ hno
        | stackOverflow _ hword => exact absurd ⟨_, by simp [Form.all], hword⟩ hno
    | some p =>
      have hyes : (Word.ofOpcode s.word).IsInstruction := by
        rw [← Decidable.not_not (p := (Word.ofOpcode s.word).IsInstruction), ←
          Opcode.find?_eq_none_iff, hfind]
        exact Option.some_ne_none p
      dsimp only
      rw [Instruction.faultIn_eq_some_iff, Opcode.form_eq_ret_iff hfind,
        Opcode.form_eq_call_iff hfind]
      constructor
      · rintro (⟨hword, hsp, rfl⟩ | ⟨hword, hsp, rfl⟩)
        · exact .stackUnderflow hle hword hsp
        · exact .stackOverflow hle hword hsp
      · intro h
        cases h with
        | outOfMemory hlt => omega
        | invalidOpcode _ hword => exact absurd hyes hword
        | stackUnderflow _ hword hsp => exact .inl ⟨hword, hsp, rfl⟩
        | stackOverflow _ hword hsp => exact .inr ⟨hword, hsp, rfl⟩

end State

namespace Machine

variable {m : Machine}

/-- On a running machine, a cycle comes to the fault ahead or executes an instruction. -/
theorem cycle_of_running (h : m.state.WellFormed) (hrun : m.halt = none)
    (hwait : m.state.awaiting = none) :
    (∃ f, m.state.FailsWith f ∧ m.cycle.1 = .failed (.fault f)) ∨
      (∀ f, ¬ m.state.FailsWith f) ∧ ∃ op, m.cycle.1 = .executed op := by
  have hc := cycle_outcome h
  generalize m.cycle = result at hc ⊢
  cases hc with
  | halted cause hhalt =>
    rw [hrun] at hhalt
    cases hhalt
  | awaitingKey _ hsome =>
    rw [hwait] at hsome
    cases hsome
  | fault f s _ _ hfault => exact .inl ⟨f, (m.state.nextFault_eq_some_iff f).mp hfault, rfl⟩
  | executed op s d _ _ hfault =>
    refine .inr ⟨fun f hf => ?_, op, rfl⟩
    rw [(m.state.nextFault_eq_some_iff f).mpr hf] at hfault
    cases hfault

/-- A step fails with what its cycle fails with, and makes a record of what its cycle executes. -/
theorem step_fst (m : Machine) :
    (∀ e, m.cycle.1 = .failed e → m.step.1 = .error e) ∧
      ∀ op, m.cycle.1 = .executed op → ∃ snap, m.step.1 = .ok (some snap) := by
  constructor
  · intro e he
    rw [step_of_failed (Prod.ext he rfl)]
  · intro op hop
    rw [step_of_executed (Prod.ext hop rfl)]
    exact ⟨_, rfl⟩

/-- Asking only whether the machine ran gives the same error, or says that it did. -/
theorem runInstruction_fst (m : Machine) :
    (∀ e, m.cycle.1 = .failed e → m.runInstruction.1 = .error e) ∧
      ∀ op, m.cycle.1 = .executed op → m.runInstruction.1 = .ok true := by
  constructor
  · intro e he
    rw [runInstruction_of_failed (Prod.ext he rfl)]
  · intro op hop
    rw [runInstruction_of_executed (Prod.ext hop rfl)]

/-- **An instruction fails exactly when it should and in no other way**: on every machine that
comes up and is neither halted nor waiting for a key, both ways of asking for an instruction fail
with the faults that `FailsWith` allows and with nothing else, and where it allows none they
execute the instruction. -/
theorem reachable_fails_iff (h : m.Reachable) (hrun : m.halted = false)
    (hwait : m.state.awaiting = none) :
    (∀ e, m.step.1 = .error e ↔ ∃ f, e = .fault f ∧ m.state.FailsWith f) ∧
      (∀ e, m.runInstruction.1 = .error e ↔ ∃ f, e = .fault f ∧ m.state.FailsWith f) ∧
      ((∀ f, ¬ m.state.FailsWith f) →
        (∃ snap, m.step.1 = .ok (some snap)) ∧ m.runInstruction.1 = .ok true) := by
  have hnone : m.halt = none := Option.not_isSome_iff_eq_none.mp (Bool.eq_false_iff.mp hrun)
  obtain ⟨hstep, hstep'⟩ := m.step_fst
  obtain ⟨hask, hask'⟩ := m.runInstruction_fst
  rcases cycle_of_running h.wellFormed.state hnone hwait with ⟨f, hf, hc⟩ | ⟨hno, op, hc⟩
  · -- Both directions come from the fault ahead being the only one that is allowed.
    have honly : ∀ e, (∃ g, e = .fault g ∧ m.state.FailsWith g) ↔ CycleError.fault f = e := by
      intro e
      constructor
      · rintro ⟨g, rfl, hg⟩
        have hfg :=
          ((m.state.nextFault_eq_some_iff f).mpr hf).symm.trans
            ((m.state.nextFault_eq_some_iff g).mpr hg)
        rw [Option.some.inj hfg]
      · rintro rfl
        exact ⟨f, rfl, hf⟩
    refine ⟨fun e => ?_, fun e => ?_, fun hno => absurd hf (hno f)⟩
    · rw [hstep _ hc, honly, Except.error.injEq]
    · rw [hask _ hc, honly, Except.error.injEq]
  · obtain ⟨snap, hsnap⟩ := hstep' op hc
    have hnever : ∀ e, ¬ ∃ f, e = CycleError.fault f ∧ m.state.FailsWith f := by
      rintro e ⟨f, -, hf⟩
      exact hno f hf
    refine ⟨fun e => ?_, fun e => ?_, fun _ => ⟨⟨snap, hsnap⟩, hask' op hc⟩⟩
    · rw [hsnap]
      exact iff_of_false (fun heq => by cases heq) (hnever e)
    · rw [hask' op hc]
      exact iff_of_false (fun heq => by cases heq) (hnever e)

/-- A machine that is about to return from a call that was never made, after a key and a
timer tick. -/
theorem reachable_fails_iff_return :
    let m := (boot [0x00, 0xEE] 0x200 (Dice.cycle [])).afterAll [.press 7, .tick]
    m.Reachable ∧ m.halted = false ∧ m.state.awaiting = none ∧
      (∀ e, m.step.1 = .error e ↔ ∃ f, e = .fault f ∧ m.state.FailsWith f) ∧
      (∀ e, m.runInstruction.1 = .error e ↔ ∃ f, e = .fault f ∧ m.state.FailsWith f) ∧
      ((∀ f, ¬ m.state.FailsWith f) →
        (∃ snap, m.step.1 = .ok (some snap)) ∧ m.runInstruction.1 = .ok true) := by
  intro m
  have hreach : m.Reachable := ⟨[0x00, 0xEE], 0x200, Dice.cycle [], _, [.press 7, .tick], rfl, rfl⟩
  exact ⟨hreach, rfl, rfl, reachable_fails_iff hreach rfl rfl⟩

end Machine

end Chip8
