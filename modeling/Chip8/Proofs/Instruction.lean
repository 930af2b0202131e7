import Chip8.Proofs.State.WellFormed

/-!
# What an instruction comes to

On a well-formed state an instruction either runs into one of two faults or succeeds; which of the
two is decided by the instruction and the stack pointer alone, and `Instruction.faultIn` decides it.
`Instruction.execute_spec` says so for all instructions at once, together with what makes it work
the next time: the state that it leaves, once the instruction has been counted, is well-formed
again. In particular no number of a slot and no value of a cell is ever out of range.
-/

namespace Chip8.Instruction

/-- The fault that an instruction at an address runs into: a return without an open call, or a call
with sixteen of them. -/
def faultIn (i : Instruction) (address : Int) (s : State) : Option Fault :=
  match i with
  | ret => if s.sp = 0 then some (.stackUnderflow address) else none
  | call _ => if s.sp = stackDepth then some (.stackOverflow address) else none
  | _ => none

/-- What succeeds with dice succeeds without them. -/
theorem ok_of_map {result : Except InstructionError State} {s' : State} {d d' : Dice}
    (h : result.map (·, d) = .ok (s', d')) : result = .ok s' := by
  cases result with
  | error e => cases h
  | ok left =>
    cases h
    rfl

/-- What `execute` gives when there is no fault in the way: a state that is well-formed once the
instruction has been counted. -/
def Succeeds (i : Instruction) (address : Int) (s : State) (d : Dice) : Prop :=
  ∃ s' d', i.execute address s d = .ok (s', d') ∧ { s' with cycles := s'.cycles + 1 }.WellFormed

section

variable {s : State}

theorem ret_spec (h : s.WellFormed) (address : Int) (d : Dice) :
    match ret.faultIn address s with
    | some f => ret.execute address s d = .error (.fault f)
    | none => ret.Succeeds address s d := by
  unfold faultIn
  by_cases hsp : s.sp = 0
  · rw [if_pos hsp]
    show (s.leave address).map (·, d) = _
    unfold State.leave
    rw [if_pos (beq_iff_eq.mpr hsp)]
    rfl
  · rw [if_neg hsp]
    obtain ⟨s', hs', hwf⟩ := h.leave hsp address
    refine ⟨s', d, ?_, hwf.counted⟩
    show (s.leave address).map (·, d) = _
    rw [hs']
    rfl

theorem call_spec (h : s.WellFormed) (hlo : 2 ≤ s.pc) (hhi : s.pc ≤ 0x1000) (target : BitVec 12)
    (address : Int) (d : Dice) :
    match (call target).faultIn address s with
    | some f => (call target).execute address s d = .error (.fault f)
    | none => (call target).Succeeds address s d := by
  have hle : s.sp ≤ stackDepth := h.sp_le
  unfold faultIn
  by_cases hsp : s.sp = stackDepth
  · rw [if_pos hsp]
    show (s.enter target.toNat address).map (·, d) = _
    unfold State.enter
    rw [if_pos (Int.le_of_eq hsp.symm)]
    rfl
  · rw [if_neg hsp]
    obtain ⟨s', hs', hwf⟩ := h.enter (by omega) hlo hhi target address
    refine ⟨s', d, ?_, hwf.counted⟩
    show (s.enter target.toNat address).map (·, d) = _
    rw [hs']
    rfl

/-- **What an instruction comes to**: the fault that the stack pointer asks for, or else a state
that is well-formed again. -/
theorem execute_spec (h : s.WellFormed) (hlo : 2 ≤ s.pc) (hhi : s.pc ≤ 0x1000) (i : Instruction)
    (address : Int) (d : Dice) :
    match i.faultIn address s with
    | some f => i.execute address s d = .error (.fault f)
    | none => i.Succeeds address s d := by
  cases i with
  | ret => exact ret_spec h address d
  | call target => exact call_spec h hlo hhi target address d
  | clear => exact ⟨_, d, rfl, (h.withScreen _).counted⟩
  | jump target =>
    have := target.isLt
    exact ⟨_, d, rfl, (h.withPc (by omega) (by omega)).counted⟩
  | jumpOffset target =>
    -- The farthest that a program can jump: this is where the bound on the counter comes from.
    have := target.isLt
    have hv : IsByte (s.v.get offsetReg) := h.byte offsetReg
    obtain ⟨h0, h1⟩ := hv
    exact ⟨_, d, rfl, (h.withPc (by omega) (by omega)).counted⟩
  | skipIfByte x byte => exact ⟨_, d, rfl, (h.skipIf hhi _).counted⟩
  | skipUnlessByte x byte => exact ⟨_, d, rfl, (h.skipIf hhi _).counted⟩
  | skipIfEqual x y => exact ⟨_, d, rfl, (h.skipIf hhi _).counted⟩
  | skipUnlessEqual x y => exact ⟨_, d, rfl, (h.skipIf hhi _).counted⟩
  | skipIfKey x =>
    obtain ⟨s', hs', hwf⟩ := h.skipOnKey hhi x true
    exact ⟨s', d, by rw [execute, hs']; rfl, hwf.counted⟩
  | skipUnlessKey x =>
    obtain ⟨s', hs', hwf⟩ := h.skipOnKey hhi x false
    exact ⟨s', d, by rw [execute, hs']; rfl, hwf.counted⟩
  | loadByte x byte => exact ⟨_, d, rfl, (h.setReg x (isByte_toNat byte)).counted⟩
  | addByte x byte => exact ⟨_, d, rfl, (h.setReg x (isByte_mod _)).counted⟩
  | copy x y => exact ⟨_, d, rfl, (h.setReg x (h.byte y)).counted⟩
  | or x y => exact ⟨_, d, rfl, (h.setReg x ((h.byte x).bitwise (h.byte y)).1).counted⟩
  | and x y => exact ⟨_, d, rfl, (h.setReg x ((h.byte x).bitwise (h.byte y)).2.1).counted⟩
  | xor x y => exact ⟨_, d, rfl, (h.setReg x ((h.byte x).bitwise (h.byte y)).2.2).counted⟩
  | add x y => exact ⟨_, d, rfl, (h.addRegs x y).counted⟩
  | sub x y => exact ⟨_, d, rfl, (h.subRegs x y).counted⟩
  | subFrom x y => exact ⟨_, d, rfl, (h.subRegsFrom x y).counted⟩
  | shiftRight x => exact ⟨_, d, rfl, (h.shiftRight x).counted⟩
  | shiftLeft x => exact ⟨_, d, rfl, (h.shiftLeft x).counted⟩
  | random x mask => exact ⟨_, _, rfl, (h.setReg x (isByte_toNat _)).counted⟩
  | draw x y height => exact ⟨_, d, rfl, (h.drawSprite x y height.val).counted⟩
  | loadIndex value =>
    have := value.isLt
    exact ⟨_, d, rfl, (h.withIndex (by omega) (by omega)).counted⟩
  | addIndex x => exact ⟨_, d, rfl, h.addToIndex_counted x⟩
  | glyph x =>
    obtain ⟨h0, h1⟩ := h.byte x
    exact ⟨_, d, rfl, (h.withIndex (by omega) (by omega)).counted⟩
  | readDelay x => exact ⟨_, d, rfl, (h.setReg x ⟨h.delay_nonneg, h.delay_le⟩).counted⟩
  | setDelay x => exact ⟨_, d, rfl, (h.withTimers (h.byte x) ⟨h.sound_nonneg, h.sound_le⟩).counted⟩
  | setSound x => exact ⟨_, d, rfl, (h.withTimers ⟨h.delay_nonneg, h.delay_le⟩ (h.byte x)).counted⟩
  | awaitKey x => exact ⟨_, d, rfl, (h.awaitingFor x).counted⟩
  | digits x => exact ⟨_, d, rfl, (h.storeDigits x).counted⟩
  | save x =>
    obtain ⟨s', hs', hwf⟩ := h.saveRegs x
    exact ⟨s', d, by rw [execute, hs']; rfl, hwf.counted⟩
  | restore x => exact ⟨_, d, rfl, (h.restoreRegs x).counted⟩

end

end Chip8.Instruction
