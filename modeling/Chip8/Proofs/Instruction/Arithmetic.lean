import Chip8.Proofs.Instruction.Word
import Chip8.Proofs.Machine.Invariant

/-!
# Arithmetic with a flag

The words `8xy4` to `8xy7` and `8xyE` compute a result and a flag out of two registers.
`Arithmetic.flag` and `Arithmetic.result` say which, and `Arithmetic.Balances` how much of the
operands can be told from the two: the sum or difference is known with its carry or borrow, and so
is a register that has been shifted. The flag register takes the flag, and it may be one of the
operands or the place for the result at the same time. Then the order of the writes counts: an
addition writes the result and then the flag, the other operations write the flag and then compute
(`Arithmetic.run`). `Arithmetic.Computes` says what becomes of the registers in each of these cases,
and `arithmetic_exact` that the words do so; an addition and a subtraction of the same registers
undo each other.
-/

namespace Chip8

/-- The operations that compute a result and a flag. -/
inductive Arithmetic where
  | add
  | sub
  | shiftRight
  | subFrom
  | shiftLeft
  deriving DecidableEq

namespace Arithmetic

/-! ## What is computed -/

/-- The word of an operation on two registers. Those of the shifts have a second register as well,
without a meaning. -/
def word (op : Arithmetic) (x y : Reg) : Word :=
  Word.withPair 8 x y
    (match op with | add => 4 | sub => 5 | shiftRight => 6 | subFrom => 7 | shiftLeft => 0xE)

/-- The flag: a carry, no borrow, or the bit that is shifted out of a byte. -/
def flag : Arithmetic → Int → Int → Int
  | add, a, b => if 0xFF < a + b then 1 else 0
  | sub, a, b => if b ≤ a then 1 else 0
  | shiftRight, a, _ => a % 2
  | subFrom, a, b => if a ≤ b then 1 else 0
  | shiftLeft, a, _ => a / 0x80 % 2

/-- The result, for the first register. -/
def result : Arithmetic → Int → Int → Int
  | add, a, b => (a + b) % 0x100
  | sub, a, b => (a - b) % 0x100
  | shiftRight, a, _ => a / 2
  | subFrom, a, b => (b - a) % 0x100
  | shiftLeft, a, _ => a * 2 % 0x100

/-- Whether a result and a flag make up for the operands. -/
def Balances : Arithmetic → (a b result flag : Int) → Prop
  | add, a, b, r, f => a + b = r + 0x100 * f
  | sub, a, b, r, f => a + 0x100 * (1 - f) = r + b ∧ (f = 1 ↔ b ≤ a)
  | shiftRight, a, _, r, f => a = 2 * r + f
  | subFrom, a, b, r, f => b + 0x100 * (1 - f) = r + a ∧ (f = 1 ↔ a ≤ b)
  | shiftLeft, a, _, r, f => 2 * a = r + 0x100 * f

/-- Whether neither the result nor, with a subtraction, the second operand meets the flag. -/
def Apart (op : Arithmetic) (x y : Reg) : Prop :=
  x ≠ flagReg ∧ (op = sub ∨ op = subFrom → y ≠ flagReg)

/-- A state with the flag written. -/
def flagged (op : Arithmetic) (x y : Reg) (s : State) : State :=
  s.setReg flagReg (op.flag (s.v.get x) (s.v.get y))

/-- What an operation on two registers makes of a state. -/
structure Computes (op : Arithmetic) (x y : Reg) (s s' : State) : Prop where
  /-- Nothing changes but registers. -/
  frame : s' = { s with v := s'.v }
  others : ∀ r, r ≠ x → r ≠ flagReg → s'.v.get r = s.v.get r
  /-- The flag stays in its register, except where a result is written over it. -/
  flag : x ≠ flagReg ∨ op = add → s'.v.get flagReg = op.flag (s.v.get x) (s.v.get y)
  /-- A sum is that of the registers of before. -/
  sum : op = add → x ≠ flagReg → s'.v.get x = op.result (s.v.get x) (s.v.get y)
  /-- Any other result is computed from the registers with the flag already written. -/
  behind : op ≠ add → s'.v.get x = op.result ((op.flagged x y s).v.get x)
    ((op.flagged x y s).v.get y)
  balanced : op.Apart x y → op.Balances (s.v.get x) (s.v.get y) (s'.v.get x) (s'.v.get flagReg)

/-- The result and the flag of two bytes make up for them. -/
theorem balances_of_bytes (op : Arithmetic) {a b : Int} (ha : IsByte a) (hb : IsByte b) :
    op.Balances a b (op.result a b) (op.flag a b) := by
  obtain ⟨ha0, ha1⟩ := ha
  obtain ⟨hb0, hb1⟩ := hb
  cases op with
  | add =>
    show a + b = (a + b) % 0x100 + 0x100 * (if 0xFF < a + b then 1 else 0)
    split <;> omega
  | sub =>
    show a + 0x100 * (1 - if b ≤ a then 1 else 0) = (a - b) % 0x100 + b ∧
      ((if b ≤ a then 1 else 0) = 1 ↔ b ≤ a)
    split <;> omega
  | shiftRight =>
    show a = 2 * (a / 2) + a % 2
    omega
  | subFrom =>
    show b + 0x100 * (1 - if a ≤ b then 1 else 0) = (b - a) % 0x100 + a ∧
      ((if a ≤ b then 1 else 0) = 1 ↔ a ≤ b)
    split <;> omega
  | shiftLeft =>
    show 2 * a = a * 2 % 0x100 + 0x100 * (a / 0x80 % 2)
    omega

/-! ## In the order of the writes -/

/-- The state that an operation on two registers leaves. -/
def run (op : Arithmetic) (x y : Reg) (s : State) : State :=
  if op = add then (s.setReg x (op.result (s.v.get x) (s.v.get y))).setReg flagReg
    (op.flag (s.v.get x) (s.v.get y))
  else (op.flagged x y s).setReg x (op.result ((op.flagged x y s).v.get x)
    ((op.flagged x y s).v.get y))

variable {op : Arithmetic} {x y : Reg} {s : State}

/-- The instruction of an operation. -/
def instruction : Arithmetic → Reg → Reg → Instruction
  | add, x, y => .add x y
  | sub, x, y => .sub x y
  | shiftRight, x, _ => .shiftRight x
  | subFrom, x, y => .subFrom x y
  | shiftLeft, x, _ => .shiftLeft x

theorem instruction?_word (op : Arithmetic) (x y : Reg) :
    Opcode.instruction? (op.word x y).toNat = some (op.instruction x y) := by
  have hadd : (⟨0xF00F, 0x8004, fun w => .add w.x w.y⟩ : Pattern) ∈
      Opcode.patterns := by simp [Opcode.patterns]
  have hsub : (⟨0xF00F, 0x8005, fun w => .sub w.x w.y⟩ : Pattern) ∈
      Opcode.patterns := by simp [Opcode.patterns]
  have hright : (⟨0xF00F, 0x8006, fun w => .shiftRight w.x⟩ : Pattern) ∈
      Opcode.patterns := by simp [Opcode.patterns]
  have hfrom : (⟨0xF00F, 0x8007, fun w => .subFrom w.x w.y⟩ : Pattern) ∈
      Opcode.patterns := by simp [Opcode.patterns]
  have hleft : (⟨0xF00F, 0x800E, fun w => .shiftLeft w.x⟩ : Pattern) ∈
      Opcode.patterns := by simp [Opcode.patterns]
  cases op with
  | add => exact Opcode.instruction?_withPair hadd rfl rfl x y
  | sub => exact Opcode.instruction?_withPair hsub rfl rfl x y
  | shiftRight =>
    exact Opcode.instruction?_withPair (f := fun x _ => .shiftRight x) hright rfl rfl x y
  | subFrom => exact Opcode.instruction?_withPair hfrom rfl rfl x y
  | shiftLeft => exact Opcode.instruction?_withPair (f := fun x _ => .shiftLeft x) hleft rfl rfl x y

/-- A flag that is set to a bit. -/
theorem setFlag_bit (s : State) (n : Int) (place : Nat) :
    s.setFlag (Bits.bit n place == 1) = s.setReg flagReg (n / Nat.pow 2 place % 2) := by
  unfold State.setFlag Bits.bit
  congr 1
  obtain h | h : n / Nat.pow 2 place % 2 = 0 ∨ n / Nat.pow 2 place % 2 = 1 := by omega
  · rw [h]; rfl
  · rw [h]; rfl

theorem setFlag_decide (s : State) (p : Prop) [Decidable p] :
    s.setFlag (decide p) = s.setReg flagReg (if p then 1 else 0) := by
  unfold State.setFlag
  simp only [decide_eq_true_eq]

/-- The instruction of an operation leaves the state that the order of its writes demands. -/
theorem execute_instruction (op : Arithmetic) (x y : Reg) (address : Int) (s : State) (d : Dice) :
    (op.instruction x y).execute address s d = .ok (op.run x y s, d) := by
  cases op with
  | add =>
    show Except.ok (s.addRegs x y, d) = _
    unfold State.addRegs
    rw [setFlag_decide]
    rfl
  | sub =>
    show Except.ok (s.subRegs x y, d) = _
    unfold State.subRegs
    rw [setFlag_decide]
    rfl
  | shiftRight =>
    have hbit : s.v.get x / Nat.pow 2 0 % 2 = s.v.get x % 2 := congrArg (· % 2) (Int.ediv_one _)
    show Except.ok (s.shiftRight x, d) = _
    unfold State.shiftRight
    rw [setFlag_bit, hbit]
    rfl
  | subFrom =>
    show Except.ok (s.subRegsFrom x y, d) = _
    unfold State.subRegsFrom
    rw [setFlag_decide]
    rfl
  | shiftLeft =>
    show Except.ok (s.shiftLeft x, d) = _
    unfold State.shiftLeft
    rw [setFlag_bit]
    rfl

theorem turns_run (op : Arithmetic) (x y : Reg) (s : State) :
    (op.word x y).Turns s (op.run x y s) :=
  Word.turns_of_execute (instruction?_word op x y) fun address d =>
  execute_instruction op x y address s d

/-! ## The registers afterwards -/

/-- A shift does not look at its second operand. -/
theorem result_congr {a b b' : Int} (hop : op ≠ add) (h : op = sub ∨ op = subFrom → b = b') :
    op.result a b = op.result a b' := by
  cases op with
  | add => exact absurd rfl hop
  | sub => rw [h (.inl rfl)]
  | subFrom => rw [h (.inr rfl)]
  | shiftRight | shiftLeft => rfl

theorem get_run_add (x y r : Reg) (s : State) :
    (add.run x y s).v.get r =
      if r = flagReg then add.flag (s.v.get x) (s.v.get y)
      else if r = x then add.result (s.v.get x) (s.v.get y) else s.v.get r := by
  show ((s.setReg x _).setReg flagReg _).v.get r = _
  rw [State.get_setReg, State.get_setReg]

theorem get_flagged (op : Arithmetic) (x y r : Reg) (s : State) :
    (op.flagged x y s).v.get r = if r = flagReg then op.flag (s.v.get x) (s.v.get y)
      else s.v.get r :=
  State.get_setReg ..

theorem get_run (hop : op ≠ add) (x y r : Reg) (s : State) :
    (op.run x y s).v.get r =
      if r = x then op.result ((op.flagged x y s).v.get x) ((op.flagged x y s).v.get y)
      else (op.flagged x y s).v.get r := by
  unfold run
  rw [if_neg hop]
  exact State.get_setReg ..

/-- Apart from the flag, an operation computes with the registers of before. -/
theorem get_run_of_apart (h : op.Apart x y) (s : State) :
    (op.run x y s).v.get x = op.result (s.v.get x) (s.v.get y) ∧
      (op.run x y s).v.get flagReg = op.flag (s.v.get x) (s.v.get y) := by
  by_cases hop : op = add
  · subst hop
    rw [get_run_add, get_run_add, if_neg h.1, if_pos rfl, if_pos rfl]
    exact ⟨rfl, rfl⟩
  · have ha : (op.flagged x y s).v.get x = s.v.get x := by rw [get_flagged, if_neg h.1]
    have hb : op = sub ∨ op = subFrom → (op.flagged x y s).v.get y = s.v.get y := fun hsub => by
      rw [get_flagged, if_neg (h.2 hsub)]
    rw [get_run hop, if_pos rfl, ha, result_congr hop hb, get_run hop, if_neg (Ne.symm h.1),
      get_flagged, if_pos rfl]
    exact ⟨rfl, rfl⟩

theorem computes_run (op : Arithmetic) (x y : Reg) (hv : ∀ r : Reg, IsByte (s.v.get r)) :
    op.Computes x y s (op.run x y s) := by
  have hbalanced : op.Apart x y →
      op.Balances (s.v.get x) (s.v.get y) ((op.run x y s).v.get x)
        ((op.run x y s).v.get flagReg) := by
    intro hapart
    obtain ⟨hresult, hflag⟩ := get_run_of_apart hapart s
    rw [hresult, hflag]
    exact op.balances_of_bytes (hv x) (hv y)
  by_cases hop : op = add
  · subst hop
    exact {
      frame := rfl
      others := fun r hx hflag => by rw [get_run_add, if_neg hflag, if_neg hx]
      flag := fun _ => by rw [get_run_add, if_pos rfl]
      sum := fun _ hx => by rw [get_run_add, if_neg hx, if_pos rfl]
      behind := fun h => absurd rfl h
      balanced := hbalanced }
  · exact {
      frame := by
        unfold run
        rw [if_neg hop]
        rfl
      others := fun r hx hflag => by rw [get_run hop, if_neg hx, get_flagged, if_neg hflag]
      flag := fun h => by
        have hx : flagReg ≠ x := fun heq => h.elim (fun hne => hne heq.symm) hop
        rw [get_run hop, if_neg hx, get_flagged, if_pos rfl]
      sum := fun h => absurd h hop
      behind := fun _ => by rw [get_run hop, if_pos rfl]
      balanced := hbalanced }

/-- Subtracting what has been added gives the byte of before, and the other way round. -/
theorem get_run_run (hv : ∀ r : Reg, IsByte (s.v.get r)) (hx : x ≠ flagReg) (hy : y ≠ flagReg)
    (hxy : x ≠ y) :
    (sub.run x y (add.run x y s)).v.get x = s.v.get x ∧
    (add.run x y (sub.run x y s)).v.get x = s.v.get x := by
  have hapart : ∀ op : Arithmetic, op.Apart x y := fun _ => ⟨hx, fun _ => hy⟩
  have hkept : ∀ op : Arithmetic, (op.run x y s).v.get y = s.v.get y := fun op =>
    (op.computes_run x y hv).others y hxy.symm hy
  have hresult : ∀ (op : Arithmetic) (s : State),
      (op.run x y s).v.get x = op.result (s.v.get x) (s.v.get y) :=
    fun op s => (get_run_of_apart (hapart op) s).1
  rw [hresult, hresult add s, hkept, hresult, hresult sub s, hkept]
  obtain ⟨h0, h1⟩ := hv x
  constructor
  · show ((s.v.get x + s.v.get y) % 0x100 - s.v.get y) % 0x100 = s.v.get x
    omega
  · show ((s.v.get x - s.v.get y) % 0x100 + s.v.get y) % 0x100 = s.v.get x
    omega

/-- **The arithmetic words are exact** on every well-formed state and for all registers, the flag
register included: each of them computes its result and its flag in the order of its writes, and
they make up for the operands. So a difference from the flag register is taken from the flag, a
shift of the flag register doubles the flag, and an addition and a subtraction of the same two
registers undo each other. -/
theorem arithmetic_exact (h : s.WellFormed) (x y : Reg) :
    (∀ op : Arithmetic, ∃ s', (op.word x y).Turns s s' ∧ op.Computes x y s s') ∧
      (x ≠ flagReg → ∃ s', (sub.word x flagReg).Turns s s' ∧
        s'.v.get x = (s.v.get x - sub.flag (s.v.get x) (s.v.get flagReg)) % 0x100) ∧
      (∃ s', (shiftLeft.word flagReg y).Turns s s' ∧
        s'.v.get flagReg = 2 * shiftLeft.flag (s.v.get flagReg) (s.v.get y)) ∧
      (x ≠ flagReg → y ≠ flagReg → x ≠ y →
        (∃ s₁ s₂, (add.word x y).Turns s s₁ ∧ (sub.word x y).Turns s₁ s₂ ∧ s₂.v.get x = s.v.get x) ∧
          ∃ s₁ s₂, (sub.word x y).Turns s s₁ ∧ (add.word x y).Turns s₁ s₂ ∧
          s₂.v.get x = s.v.get x) := by
  have hv : ∀ r : Reg, IsByte (s.v.get r) := h.byte
  refine ⟨fun op => ⟨_, op.turns_run x y s, op.computes_run x y hv⟩, fun hx =>
    ⟨_, sub.turns_run x flagReg s, ?_⟩,
    ⟨_, shiftLeft.turns_run flagReg y s, ?_⟩, fun hx hy hxy => ?_⟩
  · rw [(sub.computes_run x flagReg hv).behind (by decide), get_flagged, get_flagged,
      if_neg hx, if_pos rfl]
    rfl
  · rw [(shiftLeft.computes_run flagReg y hv).behind (by decide), get_flagged, if_pos rfl]
    show s.v.get flagReg / 0x80 % 2 * 2 % 0x100 = 2 * (s.v.get flagReg / 0x80 % 2)
    omega
  · obtain ⟨hadd, hsub⟩ := get_run_run hv hx hy hxy
    exact ⟨⟨_, _, add.turns_run x y s, sub.turns_run x y _, hadd⟩, _, _, sub.turns_run x y s,
      add.turns_run x y _, hsub⟩

/-- With 128 in all registers: the flag that is subtracted is the one that the subtraction has set,
and so is the one that is doubled. -/
theorem arithmetic_exact_aliased :
    ∃ s : State, s.WellFormed ∧ (∀ r : Reg, s.v.get r = 0x80) ∧
      (∃ s', (sub.word 1 flagReg).Turns s s' ∧ s'.v.get 1 = 0x7F) ∧
      ∃ s', (shiftLeft.word flagReg 0).Turns s s' ∧ s'.v.get flagReg = 2 := by
  obtain ⟨s, hwf, hall⟩ := State.WellFormed.exists_filled (n := 0x80) ⟨by decide, by decide⟩
  obtain ⟨-, hsub, -⟩ := arithmetic_exact hwf 1 flagReg
  obtain ⟨-, -, ⟨shifted, hshifted, hdouble⟩, -⟩ := arithmetic_exact hwf flagReg 0
  obtain ⟨left, hleft, hdifference⟩ := hsub (by decide)
  rw [hall, hall] at hdifference hdouble
  exact ⟨s, hwf, hall, ⟨left, hleft, hdifference⟩, shifted, hshifted, hdouble⟩

end Arithmetic

end Chip8
