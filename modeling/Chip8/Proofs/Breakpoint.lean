import Chip8.Breakpoint

/-!
# What the conditions of breakpoints say

`Breakpoint.MetBy` says kind by kind which instructions meet the condition of a breakpoint that is
tested after them, in terms of the record of the instruction and the state before it.
`holdsAfter_iff` shows that the test decides it, so that the condition can be evaluated.
-/

namespace Chip8

namespace Breakpoint

/-- The condition of a breakpoint that is tested after an instruction, given the state before the
instruction and the record that it made. -/
def MetBy (b : Breakpoint) (before : State) (snap : Snapshot) : Prop :=
  match b.kind with
  | .atAddress => False
  | .onRead => ∃ a value, .read a value ∈ snap.activity ∧ b.address = some a
  | .onWrite => ∃ a old new, .write a old new ∈ snap.activity ∧ b.address = some a
  | .registerValue => b.registerIn snap.state.registers = b.value
  | .registerChange =>
    ∃ value, b.registerIn snap.state.registers = some value ∧
      b.registerIn before.registers ≠ some value

/-- The test after an instruction decides the condition. -/
theorem holdsAfter_iff (b : Breakpoint) (before : State) (snap : Snapshot) :
    b.holdsAfter snap.activity before.registers snap.state.registers = true ↔
      b.MetBy before snap := by
  unfold holdsAfter MetBy
  cases b.kind with
  | atAddress => exact iff_of_false Bool.false_ne_true not_false
  | onRead =>
    simp only [List.any_eq_true, readBy_iff]
    constructor
    · rintro ⟨access, hmem, a, value, rfl, haddress⟩
      exact ⟨a, value, hmem, haddress⟩
    · rintro ⟨a, value, hmem, haddress⟩
      exact ⟨_, hmem, a, value, rfl, haddress⟩
  | onWrite =>
    simp only [List.any_eq_true, writtenBy_iff]
    constructor
    · rintro ⟨access, hmem, a, old, new, rfl, haddress⟩
      exact ⟨a, old, new, hmem, haddress⟩
    · rintro ⟨a, old, new, hmem, haddress⟩
      exact ⟨_, hmem, a, old, new, rfl, haddress⟩
  | registerValue => exact beq_iff_eq
  | registerChange =>
    dsimp only
    cases b.registerIn snap.state.registers with
    | none => simp
    | some value => simp [bne_iff_ne]

instance (b : Breakpoint) (before : State) (snap : Snapshot) : Decidable (b.MetBy before snap) :=
  decidable_of_iff _ (b.holdsAfter_iff before snap)

/-- A breakpoint stops a run after an instruction if it is enabled and its condition is met. -/
theorem hitsAfter_iff (b : Breakpoint) (before : State) (snap : Snapshot) :
    b.hitsAfter snap.activity before.registers snap.state.registers = true ↔
      b.enabled = true ∧ b.MetBy before snap := by
  unfold hitsAfter
  rw [Bool.and_eq_true, holdsAfter_iff]

end Breakpoint

end Chip8
