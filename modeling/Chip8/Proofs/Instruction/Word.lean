import Chip8.Proofs.Listing

/-!
# Words and what they turn states into

`Word.withPair` and `Word.withReg` put registers into the digits of a word, as in `8xy4` and `Fx55`.
The pattern for such words takes them out again (`instruction?_withPair`, `instruction?_withReg`).
`Word.Turns` says of a word that executing it succeeds on a state and leaves another one, from
whatever address and without a draw from the dice.
-/

namespace Chip8

namespace Word

/-- The word of two digits with two registers between them. -/
def withPair (d3 : BitVec 4) (x y : Reg) (d0 : BitVec 4) : Word :=
  .ofDigits d3 (.ofFin x) (.ofFin y) d0

/-- The word of three digits with a register behind the first one. -/
def withReg (d3 : BitVec 4) (x : Reg) (d1 d0 : BitVec 4) : Word :=
  .ofDigits d3 (.ofFin x) d1 d0

variable {d3 d1 d0 : BitVec 4} {x y : Reg}

theorem digits_ofDigits (d3 d2 d1 d0 : BitVec 4) :
    (ofDigits d3 d2 d1 d0).digit 3 = d3 ∧ (ofDigits d3 d2 d1 d0).digit 2 = d2 ∧
      (ofDigits d3 d2 d1 d0).digit 1 = d1 ∧ (ofDigits d3 d2 d1 d0).digit 0 = d0 :=
  ofDigits_inj.mp (ofDigits_digit _)

theorem x_withPair : (withPair d3 x y d0).x = x :=
  congrArg BitVec.toFin (digits_ofDigits d3 (.ofFin x) (.ofFin y) d0).2.1

theorem y_withPair : (withPair d3 x y d0).y = y :=
  congrArg BitVec.toFin (digits_ofDigits d3 (.ofFin x) (.ofFin y) d0).2.2.1

theorem x_withReg : (withReg d3 x d1 d0).x = x :=
  congrArg BitVec.toFin (digits_ofDigits d3 (.ofFin x) d1 d0).2.1

theorem fits_withPair : (Form.firstLast d3 d0).Fits (withPair d3 x y d0) := by
  obtain ⟨h3, -, -, h0⟩ := digits_ofDigits d3 (.ofFin x) (.ofFin y) d0
  exact Form.fits_firstLast_iff.mpr ⟨h3, h0⟩

theorem fits_withReg : (Form.register d3 d1 d0).Fits (withReg d3 x d1 d0) := by
  obtain ⟨h3, -, h1, h0⟩ := digits_ofDigits d3 (.ofFin x) d1 d0
  exact Form.fits_register_iff.mpr ⟨h3, h1, h0⟩

end Word

namespace Opcode

variable {d3 d1 d0 : BitVec 4}

/-- A word that fits the form of a pattern stands for the instruction that the pattern cuts out
of it. -/
theorem instruction?_word_of_fits {w : Word} {p : Pattern} (hp : p ∈ patterns) {f : Form}
    (hm : p.mask = f.mask) (hv : p.value = f.value) (hfits : f.Fits w) :
    instruction? w.toNat = some (p.form w) := by
  have hfound := instruction?_of_fits w.toNat hp hm hv (by rwa [Word.ofOpcode_toNat])
  rwa [Word.ofOpcode_toNat] at hfound

/-- A word with two registers stands for the instruction that its pattern makes of them. -/
theorem instruction?_withPair {mask value : Word} {f : Reg → Reg → Instruction}
    (hp : ⟨mask, value, fun w => f w.x w.y⟩ ∈ patterns) (hm : mask = (Form.firstLast d3 d0).mask)
    (hv : value = (Form.firstLast d3 d0).value) (x y : Reg) :
    instruction? (Word.withPair d3 x y d0).toNat = some (f x y) := by
  have hfound := instruction?_word_of_fits hp hm hv (Word.fits_withPair (x := x) (y := y))
  dsimp only at hfound
  rwa [Word.x_withPair, Word.y_withPair] at hfound

/-- A word with one register stands for the instruction that its pattern makes of it. -/
theorem instruction?_withReg {mask value : Word} {f : Reg → Instruction}
    (hp : ⟨mask, value, fun w => f w.x⟩ ∈ patterns) (hm : mask = (Form.register d3 d1 d0).mask)
    (hv : value = (Form.register d3 d1 d0).value) (x : Reg) :
    instruction? (Word.withReg d3 x d1 d0).toNat = some (f x) := by
  have hfound := instruction?_word_of_fits hp hm hv (Word.fits_withReg (x := x))
  dsimp only at hfound
  rwa [Word.x_withReg] at hfound

end Opcode

namespace Word

/-- A word turns one state into another: executed there, from any address and with any dice, it
succeeds, leaves the other state and does not draw. -/
def Turns (w : Word) (s s' : State) : Prop :=
  ∀ address d, ∃ op, Operation.dispatch w.toNat address s d = .ok (op, s', d)

/-- A word turns a state into what its instruction makes of it. -/
theorem turns_of_execute {w : Word} {i : Instruction} {s s' : State}
    (hi : Opcode.instruction? w.toNat = some i)
    (h : ∀ address d, i.execute address s d = .ok (s', d)) : w.Turns s s' := by
  intro address d
  have hdispatch := Listing.dispatch_of_some hi address s d
  rw [h address d] at hdispatch
  cases hresult : Operation.dispatch w.toNat address s d with
  | error e =>
    rw [hresult] at hdispatch
    cases hdispatch
  | ok result =>
    rw [hresult] at hdispatch
    obtain ⟨op, left⟩ := result
    cases hdispatch
    exact ⟨op, rfl⟩

end Word

end Chip8
