import Chip8.Proofs.Machine.Cycle
import Chip8.Proofs.Program

/-!
# Well-formedness along every run

A `MachineEvent` is anything that can be done to a loaded machine: an instruction in either of
the two ways of asking for one, a key, a timer tick or a reset. Events may fail; what they leave
counts all the same. `Machine.WellFormed` bounds the state and says in addition that a halted
machine never waits for a key. One event preserves it (`WellFormed.after`), so any number of
them do (`WellFormed.afterAll`), and loading starts the chain (`wellFormed_of_load`). The main
result is `load_afterAll_wellFormed`.
-/

namespace Chip8

/-- What can be done to a machine. -/
inductive MachineEvent where
  | step
  | runInstruction
  | press (code : Int)
  | release (code : Int)
  | tick
  | reset

namespace Machine

/-- What an event leaves of a machine, also one that fails. -/
def after (m : Machine) : MachineEvent → Machine
  | .step => m.step.2
  | .runInstruction => m.runInstruction.2
  | .press code => (m.press code).2
  | .release code => m.release code
  | .tick => m.tick
  | .reset => m.reset

/-- What a sequence of events leaves of a machine. -/
def afterAll (m : Machine) (events : List MachineEvent) : Machine :=
  events.foldl after m

/-- What every machine satisfies that has been loaded. -/
structure WellFormed (m : Machine) : Prop where
  state : m.state.WellFormed
  base_lt : m.base < Memory.standardSize
  halt_awaiting : m.halt.isSome → m.state.awaiting = none

end Machine

/-! ## Keys and timers -/

namespace State.WellFormed

variable {s : State}

theorem press (h : s.WellFormed) (code : Int) : (s.press code).2.WellFormed := by
  unfold State.press
  split
  next hcode =>
    have hkeys := h.withKeys (s.keys.setIfInBounds code.toNat true)
    dsimp only
    split
    next => exact hkeys
    next number hwait =>
      -- The bound on the awaited register makes it the number of a slot, so the press cannot fail.
      obtain ⟨h0, h1⟩ := h.awaiting_lt number hwait
      obtain ⟨x, rfl⟩ := Int.eq_ofNat_of_zero_le h0
      rw [slot_of_lt .writing (by omega)]
      exact (hkeys.setReg _ ⟨by omega, by omega⟩).running
  next => exact h

/-- The register that waits for a key is one of the sixteen, so that a press succeeds. -/
theorem press_fst (h : s.WellFormed) (code : Int) : (s.press code).1 = .ok () := by
  unfold State.press
  split
  next =>
    dsimp only
    split
    next => rfl
    next number hwait =>
      obtain ⟨h0, h1⟩ := h.awaiting_lt number hwait
      obtain ⟨x, rfl⟩ := Int.eq_ofNat_of_zero_le h0
      rw [slot_of_lt .writing (by omega)]
  next => rfl

theorem release (h : s.WellFormed) (code : Int) : (s.release code).WellFormed := by
  unfold State.release
  split
  · exact h.withKeys _
  · exact h

theorem tick (h : s.WellFormed) : s.tick.WellFormed := by
  have hd : IsByte (if 0 < s.delay then s.delay - 1 else s.delay) := by
    have h0 := h.delay_nonneg
    have h1 := h.delay_le
    constructor <;> split <;> omega
  have hs : IsByte (if 0 < s.sound then s.sound - 1 else s.sound) := by
    have h0 := h.sound_nonneg
    have h1 := h.sound_le
    constructor <;> split <;> omega
  exact h.withTimers hd hs

/-- The state that a machine starts in. -/
theorem start {memory : Memory} (hcells : memory.cells.size = Memory.standardSize) {pc : Int}
    (h0 : 0 ≤ pc) (h1 : pc ≤ 0x10FE) : (State.start memory pc).WellFormed where
  cells := hcells
  v_nonneg := fun x => by
    have hzero : (Vector.replicate 16 (0 : Int)).get x = 0 := Vector.getElem_replicate _
    exact Int.le_of_eq hzero.symm
  v_le := fun x => by
    have hzero : (Vector.replicate 16 (0 : Int)).get x = 0 := Vector.getElem_replicate _
    exact Int.le_trans (Int.le_of_eq hzero) (by decide)
  sp_nonneg := Int.le_refl 0
  sp_le := show (0 : Int) ≤ 16 by decide
  calls := fun a ha => by cases ha
  pc_nonneg := h0
  pc_le := h1
  index_nonneg := Int.le_refl 0
  index_le := show (0 : Int) ≤ 0xFFF + 255 * 0 by decide
  delay_nonneg := Int.le_refl 0
  delay_le := show (0 : Int) ≤ 0xFF by decide
  sound_nonneg := Int.le_refl 0
  sound_le := show (0 : Int) ≤ 0xFF by decide
  cycles_nonneg := Int.le_refl 0
  awaiting_lt := fun _ hx => by cases hx

/-- There is a state with the same byte in all registers. -/
theorem exists_filled {n : Int} (hn : IsByte n) :
    ∃ s : State, s.WellFormed ∧ ∀ x : Reg, s.v.get x = n := by
  have hall : ∀ x : Reg, (Vector.replicate 16 n).get x = n := fun x => Vector.getElem_replicate _
  have hstart : (State.start (.ofCells (Array.replicate 0x1000 0)) 0x202).WellFormed :=
    start Array.size_replicate (by decide) (by decide)
  exact ⟨_, hstart.withRegs fun x => (hall x).symm ▸ hn, hall⟩

end State.WellFormed

/-! ## Single events -/

namespace Machine

variable {m : Machine}

/-- A machine right after loading, with its memory as a list, in which a cell can be looked up
without building the others. -/
theorem boot_eq (program : List UInt8) (base : Nat) (dice : Dice)
    (h : base + program.length ≤ Memory.standardSize) :
    boot program base dice h =
      { image := .ofProgram program base h
        base := base
        programSize := program.length
        dice := dice
        state :=
          State.start
            (Memory.ofCells
              ((List.range Memory.standardSize).map
                (Program.imageByte program.toArray base)).toArray) base
        halt := none } := by
  unfold boot create
  rw [Program.Image.memory_ofProgram, Program.placed_eq h]

/-- Whatever its image, a machine starts well-formed at an address in memory. -/
theorem create_wellFormed (image : Program.Image) (programSize : Nat) (dice : Dice) {base : Nat}
    (h : base < Memory.standardSize) : (create image base programSize dice).WellFormed where
  state := by
    have hbase : base < 0x1000 := h
    exact .start image.size_memory (by omega) (by omega)
  base_lt := h
  halt_awaiting := fun _ => rfl

theorem boot_wellFormed (program : List UInt8) {base : Nat} (dice : Dice)
    (h : base + program.length ≤ Memory.standardSize) (hbase : base < Memory.standardSize) :
    (boot program base dice h).WellFormed :=
  create_wellFormed _ _ dice hbase

namespace WellFormed

/-- A press sets the key and ends a wait; it never starts one. -/
theorem press (h : m.WellFormed) (code : Int) : (m.press code).2.WellFormed where
  state := h.state.press code
  base_lt := h.base_lt
  halt_awaiting := fun hhalt => by
    have hwait := h.halt_awaiting hhalt
    show (m.state.press code).2.awaiting = none
    unfold State.press
    split
    · simp only [hwait]
    · exact hwait

theorem release (h : m.WellFormed) (code : Int) : (m.release code).WellFormed where
  state := h.state.release code
  base_lt := h.base_lt
  halt_awaiting := fun hhalt => by
    have hwait := h.halt_awaiting hhalt
    show (m.state.release code).awaiting = none
    unfold State.release
    split
    · exact hwait
    · exact hwait

theorem tick (h : m.WellFormed) : m.tick.WellFormed where
  state := h.state.tick
  base_lt := h.base_lt
  halt_awaiting := h.halt_awaiting

theorem reset (h : m.WellFormed) : m.reset.WellFormed :=
  create_wellFormed m.image m.programSize m.dice h.base_lt

/-- Whatever a cycle comes to, it leaves a well-formed machine. -/
theorem of_outcome (h : m.WellFormed) {result : Cycle × Machine} (hc : CycleOutcome m result) :
    result.2.WellFormed := by
  cases hc with
  | halted cause hhalt => exact h
  | awaitingKey hrun hwait => exact h
  | fault f s hrun hwait hfault hs hs' => exact ⟨hs, h.base_lt, fun _ => hs'⟩
  | executed op s d hrun hwait hfault hs =>
    refine ⟨hs, h.base_lt, fun hhalt => ?_⟩
    have hsome : m.halt.isSome := hhalt
    rw [hrun] at hsome
    cases hsome

theorem runInstruction (h : m.WellFormed) : m.runInstruction.2.WellFormed := by
  have hc := h.of_outcome (cycle_outcome h.state)
  unfold Machine.runInstruction
  split
  next heq => rwa [heq] at hc
  next heq => rwa [heq] at hc
  next heq => rwa [heq] at hc

/-- A step is a cycle whose accesses are taken out of the log. -/
theorem step (h : m.WellFormed) : m.step.2.WellFormed := by
  have hc := h.of_outcome (cycle_outcome h.state)
  unfold Machine.step
  split
  next heq => rwa [heq] at hc
  next heq => rwa [heq] at hc
  next heq =>
    rw [heq] at hc
    exact ⟨hc.state.quiet, hc.base_lt, hc.halt_awaiting⟩

/-- **One event preserves well-formedness.** -/
theorem after (h : m.WellFormed) (event : MachineEvent) : (m.after event).WellFormed := by
  cases event with
  | step => exact h.step
  | runInstruction => exact h.runInstruction
  | press code => exact h.press code
  | release code => exact h.release code
  | tick => exact h.tick
  | reset => exact h.reset

/-- Any number of events do. -/
theorem afterAll (h : m.WellFormed) (events : List MachineEvent) :
    (m.afterAll events).WellFormed := by
  unfold Machine.afterAll
  induction events generalizing m with
  | nil => exact h
  | cons event rest ih => exact ih (h.after event)

end WellFormed

/-! ## Whole runs -/

/-- Loading gives the machine of the program at its base, and the base lies in memory. -/
theorem load_eq_ok {program : List UInt8} {base : Int} {dice : Dice}
    (h : load program base dice = .ok m) :
    ∃ (n : Nat) (hfits : n + program.length ≤ Memory.standardSize),
      base = n ∧ n < Memory.standardSize ∧ m = boot program n dice hfits := by
  unfold load Program.check Program.checkBase at h
  by_cases hbase : 0 ≤ base ∧ base < Memory.standardSize
  · rw [if_pos hbase] at h
    obtain ⟨n, rfl⟩ := Int.eq_ofNat_of_zero_le hbase.1
    dsimp only at h
    split at h
    next heq =>
      split at heq
      next hfits =>
        cases heq
        cases h
        exact ⟨n, hfits, rfl, Int.ofNat_lt.mp hbase.2, rfl⟩
      next => cases heq
    next => cases h
  · rw [if_neg hbase] at h
    cases h

theorem wellFormed_of_load {program : List UInt8} {base : Int} {dice : Dice}
    (h : load program base dice = .ok m) : m.WellFormed := by
  obtain ⟨n, hfits, -, hn, rfl⟩ := load_eq_ok h
  exact boot_wellFormed program dice hfits hn

/-- The machines that come up: some program has been loaded, and then some events have come. -/
def Reachable (m : Machine) : Prop :=
  ∃ program base dice loaded events, load program base dice = .ok loaded ∧
    m = loaded.afterAll events

theorem Reachable.wellFormed (h : m.Reachable) : m.WellFormed := by
  obtain ⟨program, base, dice, loaded, events, hload, rfl⟩ := h
  exact (wellFormed_of_load hload).afterAll events

/-- **Well-formedness is an invariant of every run**: whatever program has been loaded, and whatever
is done to the machine after that, its state is well-formed, and it is not both halted and waiting
for a key. -/
theorem load_afterAll_wellFormed {program : List UInt8} {base : Int} {dice : Dice}
    (h : load program base dice = .ok m) (events : List MachineEvent) :
    (m.afterAll events).state.WellFormed ∧
      ¬ ((m.afterAll events).halted = true ∧ (m.afterAll events).state.awaiting.isSome = true) := by
  have hwf := (wellFormed_of_load h).afterAll events
  refine ⟨hwf.state, ?_⟩
  rintro ⟨hhalt, hwait⟩
  rw [hwf.halt_awaiting hhalt] at hwait
  cases hwait

/-- A run through a key wait, with presses of no key in it, and on behind the end of the program. -/
theorem load_afterAll_wellFormed_through_wait :
    load [0xF5, 0x0A] 0x200 (Dice.cycle []) = .ok (boot [0xF5, 0x0A] 0x200 (Dice.cycle [])) ∧
      ((boot [0xF5, 0x0A] 0x200 (Dice.cycle [])).afterAll
        [.step, .runInstruction, .press (-3), .press 16, .press 7, .step, .tick]).state.WellFormed ∧
      ¬ (((boot [0xF5, 0x0A] 0x200 (Dice.cycle [])).afterAll
          [.step, .runInstruction, .press (-3), .press 16, .press 7, .step, .tick]).halted = true ∧
        ((boot [0xF5, 0x0A] 0x200 (Dice.cycle [])).afterAll
          [.step, .runInstruction, .press (-3), .press 16, .press 7, .step,
            .tick]).state.awaiting.isSome =
            true) := by
  have hload : load [0xF5, 0x0A] 0x200 (Dice.cycle []) =
      .ok (boot [0xF5, 0x0A] 0x200 (Dice.cycle [])) := rfl
  exact ⟨hload, load_afterAll_wellFormed hload _⟩

end Machine

end Chip8
