import Chip8.Proofs.Machine.Frame
import Chip8.Proofs.Machine.Freeze

/-!
# Waiting for a key

An executed `Fx0A` leaves a machine that waits for a key (`waits_of_executed`), whatever keys are
held down. From there on an event that presses no key and is no reset moves nothing but keys and
timers (`Waits.rests_after`), and so do any number of them, while whoever asks for an instruction is
told that there is none. The first key that is pressed goes to the register, and ends the wait
(`Waits.press`). Only an executed `Fx0A` begins a wait (`awaiting_of_executed?`), so that no key
reaches a register until there is another one. The main result is `wait_takes_one_key`. None of this
needs a well-formed state.
-/

namespace Chip8

namespace Operation

/-- A wait for a key, `Fx0A`. -/
def IsKeyWait (op : Operation) : Prop :=
  (Form.register 0xF 0 0xA).Fits op.word

instance (op : Operation) : Decidable op.IsKeyWait :=
  inferInstanceAs (Decidable (Form.Fits _ _))

variable {op : Operation}

theorem IsKeyWait.instruction_eq (h : op.IsKeyWait)
    (hi : Opcode.instruction? op.opcode = some op.instruction) :
    op.instruction = .awaitKey op.word.x := by
  have hp : (⟨0xF0FF, 0xF00A, fun w => .awaitKey w.x⟩ : Pattern) ∈
      Opcode.patterns := by simp [Opcode.patterns]
  rw [Opcode.instruction?_of_fits op.opcode hp rfl rfl h] at hi
  exact (Option.some.inj hi).symm

theorem isKeyWait_of_eq {x : Reg} (hi : Opcode.instruction? op.opcode = some op.instruction)
    (h : op.instruction = .awaitKey x) : op.IsKeyWait := by
  have hfits := Opcode.fits_encoding hi
  rw [h] at hfits
  exact Form.fits_register_of_withReg hfits

end Operation

/-- An event that presses no key and is no reset. -/
def MachineEvent.IsNoKey : MachineEvent → Prop
  | .press code => ¬ (0 ≤ code ∧ code < 16)
  | .reset => False
  | _ => True

namespace Machine

variable {m : Machine} {op : Operation} {event : MachineEvent}

/-- The operations that a sequence of events executes. -/
def operations (m : Machine) : List MachineEvent → List Operation
  | [] => []
  | event :: rest => (m.executedBy event).toList ++ (m.after event).operations rest

/-! ## Into the wait -/

/-- **Only `Fx0A`** makes a machine wait for a key, and names the register that the key goes to. -/
theorem awaiting_of_executed? (h : m.executed? = some op) :
    m.cycle.2.state.awaiting = if op.IsKeyWait then some (op.word.x.val : Int) else none := by
  obtain ⟨-, hwait, hi, fetched, s, d, heq, hexecute, hleft⟩ := hasExecuted_of_executed? h
  have hstate : m.cycle.2.state.awaiting = s.awaiting := by rw [hleft]
  rw [hstate]
  by_cases hkey : op.IsKeyWait
  · rw [if_pos hkey]
    rw [hkey.instruction_eq hi] at hexecute
    cases hexecute
    rfl
  · have hsame := (Instruction.framed_of_ok hexecute).awaiting fun x hx =>
      hkey (Operation.isKeyWait_of_eq hi hx)
    rw [if_neg hkey, hsame, heq]
    exact hwait

/-- A machine waits for the key that goes to a register. -/
def Waits (m : Machine) (x : Reg) : Prop :=
  m.halt = none ∧ m.state.awaiting = some (x.val : Int)

theorem waits_of_executed (h : m.executedBy event = some op) (hkey : op.IsKeyWait) :
    (m.after event).Waits op.word.x := by
  obtain ⟨hop, hquiet⟩ := quiet_of_executedBy h
  obtain ⟨hrun, -, -, fetched, s, d, -, -, hleft⟩ := hasExecuted_of_executed? hop
  constructor
  · show (m.after event).quiet.halt = none
    rw [hquiet, hleft]
    exact hrun
  · show (m.after event).quiet.state.awaiting = _
    rw [hquiet]
    exact (awaiting_of_executed? hop).trans (if_pos hkey)

/-! ## Through the wait -/

variable {x : Reg}

theorem Waits.step (h : m.Waits x) : m.step = (.ok none, m) :=
  step_of_awaitingKey (cycle_of_awaiting h.1 h.2)

theorem Waits.runInstruction (h : m.Waits x) : m.runInstruction = (.ok false, m) :=
  runInstruction_of_awaitingKey (cycle_of_awaiting h.1 h.2)

theorem Waits.of_rests {m' : Machine} (h : m.Waits x) (hrests : m.Rests m') : m'.Waits x := by
  obtain ⟨keys, delay, sound, rfl⟩ := hrests
  exact h

/-- **One event** that presses no key. -/
theorem Waits.rests_after (h : m.Waits x) (hevent : event.IsNoKey) : m.Rests (m.after event) := by
  cases event with
  | step =>
    show m.Rests m.step.2
    rw [h.step]
    exact .refl m
  | runInstruction =>
    show m.Rests m.runInstruction.2
    rw [h.runInstruction]
    exact .refl m
  | press code =>
    have hpress : m.state.press code = (.ok (), m.state) := if_neg hevent
    show m.Rests { m with state := (m.state.press code).2 }
    rw [hpress]
    exact .refl m
  | release code =>
    show m.Rests { m with state := m.state.release code }
    rw [m.state.release_eq code]
    exact ⟨_, _, _, rfl⟩
  | tick => exact ⟨_, _, _, rfl⟩
  | reset => exact absurd hevent id

/-- **Any number of them.** -/
theorem Waits.rests_afterAll (h : m.Waits x) {events : List MachineEvent}
    (hevents : ∀ event ∈ events, event.IsNoKey) :
    m.Rests (m.afterAll events) := by
  induction events generalizing m with
  | nil => exact .refl m
  | cons event rest ih =>
    have hfirst := h.rests_after (hevents event List.mem_cons_self)
    exact hfirst.trans (ih (h.of_rests hfirst) fun e he =>
      hevents e (List.mem_cons_of_mem event he))

/-! ## Out of the wait -/

/-- The machine that goes on with a key in a register. -/
def resumed (m : Machine) (x code : Fin 16) : Machine :=
  { m with state := { m.state with
      keys := m.state.keys.set code true
      v := m.state.v.set x code.val
      awaiting := none } }

/-- **A key that is pressed** ends the wait. -/
theorem Waits.press (h : m.Waits x) (code : Fin 16) :
    m.press code.val = (.ok (), m.resumed x code) := by
  have hcode : (0 : Int) ≤ code.val ∧ (code.val : Int) < 16 := by omega
  have hkeys : m.state.keys.setIfInBounds code.val true = m.state.keys.set code true := by
    ext i hi
    rw [Vector.getElem_setIfInBounds, Vector.getElem_set]
  have hpress : m.state.press code.val = (.ok (), (m.resumed x code).state) := by
    unfold State.press
    rw [if_pos hcode, Int.toNat_natCast, hkeys]
    simp only [h.2, slot_of_lt .writing x.isLt]
    rfl
  show ((m.state.press code.val).1, { m with state := (m.state.press code.val).2 }) = _
  rw [hpress]
  rfl

/-- A machine that waits for no key goes on to wait for none, unless an `Fx0A` is executed. -/
theorem awaiting_after (h : m.state.awaiting = none)
    (hops : ∀ op ∈ m.executedBy event, ¬ op.IsKeyWait) :
    (m.after event).state.awaiting = none := by
  have hcycle : (∀ op ∈ m.executed?, ¬ op.IsKeyWait) → m.cycle.2.state.awaiting = none := by
    intro hops
    cases hop : m.executed? with
    | none => rw [(eq_of_executed?_eq_none hop).1, h]
    | some op => rw [awaiting_of_executed? hop, if_neg (hops op hop)]
  cases event with
  | step =>
    have hawaiting : m.step.2.state.awaiting = m.cycle.2.state.awaiting :=
      congrArg (·.state.awaiting) m.quiet_step
    exact hawaiting.trans (hcycle hops)
  | runInstruction =>
    have hawaiting : m.runInstruction.2.state.awaiting = m.cycle.2.state.awaiting :=
      congrArg (·.state.awaiting) m.quiet_runInstruction
    exact hawaiting.trans (hcycle hops)
  | press code =>
    show (m.state.press code).2.awaiting = none
    unfold State.press
    split
    · simp only [h]
    · exact h
  | release code =>
    show (m.state.release code).awaiting = none
    rw [m.state.release_eq code]
    exact h
  | tick => exact h
  | reset => rfl

theorem awaiting_afterAll {events : List MachineEvent} (h : m.state.awaiting = none)
    (hops : ∀ op ∈ m.operations events, ¬ op.IsKeyWait) :
    (m.afterAll events).state.awaiting = none := by
  induction events generalizing m with
  | nil => exact h
  | cons event rest ih =>
    have hfirst : ∀ op ∈ m.executedBy event, ¬ op.IsKeyWait := fun op hop =>
      hops op (List.mem_append_left _ (Option.mem_toList.mpr hop))
    exact ih (awaiting_after h hfirst) fun op hop => hops op (List.mem_append_right _ hop)

/-- A key goes to no register while the machine waits for none. -/
theorem press_v (h : m.state.awaiting = none) (code : Int) :
    (m.press code).2.state.v = m.state.v := by
  show (m.state.press code).2.v = m.state.v
  unfold State.press
  split
  · simp only [h]
  · rfl

/-- The first key that is pressed goes to a register, and no other one to any register, until there
has been another `Fx0A`. -/
def TakesOneKey (m : Machine) (x : Reg) : Prop :=
  ∀ code : Fin 16, m.press code.val = (.ok (), m.resumed x code) ∧
    ∀ later, (∀ op ∈ (m.resumed x code).operations later, ¬ op.IsKeyWait) → ∀ code',
      (((m.resumed x code).afterAll later).press code').2.state.v =
        ((m.resumed x code).afterAll later).state.v

theorem Waits.takesOneKey (h : m.Waits x) : m.TakesOneKey x :=
  fun code => ⟨h.press code, fun _ hlater code' => press_v (awaiting_afterAll rfl hlater) code'⟩

/-- **A wait takes one key.** When an `Fx0A` has been executed, the machine waits, through whatever
events that press no key and are no reset: no instruction is executed, neither with a record nor
without one, and nothing moves but keys and timers. The first key that is pressed then is held down
and goes to the register of the `Fx0A`, and nothing else changes; from there on no key reaches a
register until another `Fx0A` has been executed. -/
theorem wait_takes_one_key (h : m.executedBy event = some op) (hkey : op.IsKeyWait)
    {events : List MachineEvent} (hevents : ∀ event ∈ events, event.IsNoKey) :
    ((m.after event).afterAll events).state.awaiting = some (op.word.x.val : Int) ∧
      (m.after event).Rests ((m.after event).afterAll events) ∧
      ((m.after event).afterAll events).step = (.ok none, (m.after event).afterAll events) ∧
      ((m.after event).afterAll events).runInstruction =
        (.ok false, (m.after event).afterAll events) ∧
      ((m.after event).afterAll events).TakesOneKey op.word.x := by
  have hbegin := waits_of_executed h hkey
  have hrests := hbegin.rests_afterAll hevents
  have hwaits := hbegin.of_rests hrests
  exact ⟨hwaits.2, hrests, hwaits.step, hwaits.runInstruction, hwaits.takesOneKey⟩

/-- A machine that waits for a key twice, with a key held down from before. -/
def asking : Machine :=
  (boot [0xF3, 0x0A, 0xF4, 0x0A] 0x200 (Dice.cycle [])).afterAll [.press 9]

theorem asking_executedBy : asking.executedBy .step = some ⟨0xF30A, 0x200, .awaitKey 3⟩ := by
  unfold asking
  rw [boot_eq]
  decide +kernel

/-- What presses no key, and asks for instructions. -/
def idling : List MachineEvent :=
  [.tick, .runInstruction, .press 16, .release 9, .step, .press (-1), .release 70]

theorem idling_isNoKey : ∀ event ∈ idling, event.IsNoKey := by
  simp [idling, MachineEvent.IsNoKey]

theorem wait_takes_one_key_asking :
    asking.executedBy .step = some ⟨0xF30A, 0x200, .awaitKey 3⟩ ∧
      Operation.IsKeyWait ⟨0xF30A, 0x200, .awaitKey 3⟩ ∧ (∀ event ∈ idling, event.IsNoKey) ∧
      ((asking.after .step).afterAll idling).state.awaiting = some 3 ∧
      ((asking.after .step).afterAll idling).step.1 = .ok none ∧
      (((asking.after .step).afterAll idling).press 9).2.state.v.get 3 = 9 := by
  have hkey : Operation.IsKeyWait ⟨0xF30A, 0x200, .awaitKey 3⟩ := by decide
  obtain ⟨hawaiting, -, hstep, -, hpress⟩ :=
    wait_takes_one_key asking_executedBy hkey idling_isNoKey
  refine ⟨asking_executedBy, hkey, idling_isNoKey, hawaiting, by rw [hstep], ?_⟩
  have hnine : ((asking.after .step).afterAll idling).press 9 =
      (.ok (), ((asking.after .step).afterAll idling).resumed 3 9) := (hpress 9).1
  rw [hnine]
  exact Vector.getElem_set_self _

end Machine

end Chip8
