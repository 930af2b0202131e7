import Chip8.Proofs.Machine.Count
import Chip8.Proofs.Machine.Plain

/-!
# Instructions that do not use the timers

Only three instructions read or set a timer. Every other one does the same before a tick and behind
it, and leaves the sound timer alone (`execute_tick`); a fetch does so, too, and therefore a whole
cycle, whether it executes such an instruction or waits for a key (`cycle_tick`). `TimerFree` says
of a machine that its next instructions are of this kind and do not fail. A tick before all of them
comes to the same as a tick behind them (`TimerFree.tick_afterInstructions`).
-/

namespace Chip8

/-- Whether an instruction reads or sets a timer. -/
def Instruction.usesTimers : Instruction → Bool
  | .readDelay _ => true
  | .setDelay _ => true
  | .setSound _ => true
  | _ => false

/-- Whether a cycle executed an instruction that does not use the timers, or waits for a key. -/
def Cycle.timerFree : Cycle → Bool
  | .executed op => !op.instruction.usesTimers
  | .awaitingKey => true
  | .failed _ => false

/-! ## Instructions and ticks -/

namespace State

/-- If the one result is a success, so is the other, which has been worked out behind a tick: it
leaves the same with the tick in it. The sound timer is left alone. -/
def TickCommutes (s : State) (result ticked : Except InstructionError State) : Prop :=
  ∀ s', result = .ok s' → ticked = .ok s'.tick ∧ s'.sound = s.sound

theorem skipIf_tick (s : State) (condition : Bool) :
    s.TickCommutes (.ok (s.skipIf condition)) (.ok (s.tick.skipIf condition)) := by
  rintro s' h
  cases h
  cases condition with
  | true => exact ⟨rfl, rfl⟩
  | false => exact ⟨rfl, rfl⟩

theorem skipOnKey_tick (s : State) (x : Reg) (down : Bool) :
    s.TickCommutes (s.skipOnKey x down) (s.tick.skipOnKey x down) := by
  intro s' h
  have hkey : s.tick.keyDown (s.tick.v.get x) = s.keyDown (s.v.get x) := rfl
  unfold skipOnKey at h ⊢
  rw [hkey]
  cases hheld : s.keyDown (s.v.get x) with
  | error e =>
    rw [hheld] at h
    cases h
  | ok held =>
    rw [hheld] at h
    exact s.skipIf_tick _ s' h

theorem enter_tick (s : State) (target address : Int) :
    s.TickCommutes (s.enter target address) (s.tick.enter target address) := by
  intro s' h
  have hsp : s.tick.sp = s.sp := rfl
  unfold enter at h ⊢
  rw [hsp]
  split at h
  next => cases h
  next hroom =>
    rw [if_neg hroom]
    cases hslot : slot .writing 16 s.sp with
    | error e =>
      rw [hslot] at h
      cases h
    | ok top =>
      rw [hslot] at h
      cases h
      exact ⟨rfl, rfl⟩

theorem leave_tick (s : State) (address : Int) :
    s.TickCommutes (s.leave address) (s.tick.leave address) := by
  intro s' h
  have hsp : s.tick.sp = s.sp := rfl
  unfold leave at h ⊢
  rw [hsp]
  split at h
  next => cases h
  next hopen =>
    rw [if_neg hopen]
    dsimp only at h ⊢
    cases hslot : slot .reading 16 (s.sp - 1) with
    | error e =>
      rw [hslot] at h
      cases h
    | ok top =>
      rw [hslot] at h
      cases h
      exact ⟨rfl, rfl⟩

theorem saveRegs_tick (s : State) (x : Reg) :
    s.TickCommutes (s.saveRegs x) (s.tick.saveRegs x) := by
  intro s' h
  have hmemory : s.tick.memory = s.memory := rfl
  have hindex : s.tick.index = s.index := rfl
  have hv : s.tick.v = s.v := rfl
  unfold saveRegs at h ⊢
  rw [hmemory, hindex, hv]
  cases hstore : s.memory.storeValues s.index (s.v.toList.take (x.val + 1)) with
  | mk result memory =>
    rw [hstore] at h
    cases result with
    | error e => cases h
    | ok done =>
      cases h
      exact ⟨rfl, rfl⟩

/-- A fetch does not look at the timers. -/
theorem fetch?_tick {s fetched : State} {opcode : Int} (h : s.fetch? = some (opcode, fetched)) :
    s.tick.fetch? = some (opcode, fetched.tick) ∧ fetched.sound = s.sound := by
  have hmemory : s.tick.memory = s.memory := rfl
  have hpc : s.tick.pc = s.pc := rfl
  unfold fetch? at h ⊢
  rw [hmemory, hpc]
  split at h
  next hinside =>
    rw [if_pos hinside]
    cases h
    exact ⟨rfl, rfl⟩
  next => cases h

end State

namespace Instruction

variable {i : Instruction} {address : Int} {s s' : State} {d d' : Dice}

/-- The same for what comes with dice. -/
theorem tick_of_map {result ticked : Except InstructionError State}
    (hcommutes : s.TickCommutes result ticked) (h : result.map (·, d) = .ok (s', d')) :
    ticked.map (·, d) = .ok (s'.tick, d') ∧ s'.sound = s.sound := by
  cases result with
  | error e => cases h
  | ok left =>
    cases h
    obtain ⟨htick, hsound⟩ := hcommutes s' rfl
    rw [htick]
    exact ⟨rfl, hsound⟩

/-- **An instruction that does not use the timers** does the same behind a tick. -/
theorem execute_tick (hi : i.usesTimers = false) (h : i.execute address s d = .ok (s', d')) :
    i.execute address s.tick d = .ok (s'.tick, d') ∧ s'.sound = s.sound := by
  cases i with
  | readDelay x => cases hi
  | setDelay x => cases hi
  | setSound x => cases hi
  | ret => exact tick_of_map (s.leave_tick address) h
  | call target => exact tick_of_map (s.enter_tick target.toNat address) h
  | skipIfKey x => exact tick_of_map (s.skipOnKey_tick x true) h
  | skipUnlessKey x => exact tick_of_map (s.skipOnKey_tick x false) h
  | save x => exact tick_of_map (s.saveRegs_tick x) h
  | skipIfByte x byte => exact tick_of_map (s.skipIf_tick _) h
  | skipUnlessByte x byte => exact tick_of_map (s.skipIf_tick _) h
  | skipIfEqual x y => exact tick_of_map (s.skipIf_tick _) h
  | skipUnlessEqual x y => exact tick_of_map (s.skipIf_tick _) h
  -- The others always succeed, and update fields of their own.
  | _ =>
    cases h
    exact ⟨rfl, rfl⟩

end Instruction

/-! ## Cycles and sequences of instructions -/

namespace Machine

variable {m : Machine} {n : Nat}

/-- A cycle that neither uses the timers nor fails does the same behind a tick. -/
theorem cycle_tick (h : m.cycle.1.timerFree = true) :
    m.tick.cycle = (m.cycle.1, m.cycle.2.tick) ∧ m.cycle.2.state.sound = m.state.sound := by
  have hhalt : m.tick.halt = m.halt := rfl
  have hwait : m.tick.state.awaiting = m.state.awaiting := rfl
  have hstart : m.tick.state.quiet = m.state.quiet.tick := rfl
  have hpc : m.tick.state.pc = m.state.pc := rfl
  have hdice : m.tick.dice = m.dice := rfl
  -- What a cycle looks at in turn, the halt, the wait, the word at the counter and the instruction
  -- in it, is the same behind a tick, so that both cycles take the same way.
  unfold cycle at h ⊢
  rw [hhalt]
  cases hrun : m.halt with
  | some cause =>
    rw [hrun] at h
    cases h
  | none =>
    rw [hrun] at h
    dsimp only at h ⊢
    rw [hwait, hstart, hpc, hdice]
    cases hkey : m.state.awaiting with
    | some number => exact ⟨rfl, rfl⟩
    | none =>
      rw [hkey] at h
      dsimp only at h ⊢
      cases hfetch : m.state.quiet.fetch? with
      | none =>
        rw [hfetch] at h
        cases h
      | some fetch =>
        obtain ⟨opcode, fetched⟩ := fetch
        obtain ⟨hfetched, hsound⟩ := State.fetch?_tick hfetch
        rw [hfetch] at h
        rw [hfetched]
        dsimp only at h ⊢
        unfold Operation.dispatch at h ⊢
        cases hfind : Opcode.find? opcode with
        | none =>
          rw [hfind] at h
          cases h
        | some p =>
          rw [hfind] at h
          dsimp only at h ⊢
          cases hexecute : (Operation.ofPattern p opcode m.state.pc).instruction.execute m.state.pc
            fetched m.dice with
          | error e =>
            rw [hexecute] at h
            cases e with
            | fault f => cases h
            | mishap mishap left => cases h
          | ok result =>
            obtain ⟨left, dice⟩ := result
            rw [hexecute] at h
            have hfree := Bool.not_eq_true' _ ▸ h
            obtain ⟨htick, hkeeps⟩ := Instruction.execute_tick hfree hexecute
            rw [htick]
            exact ⟨rfl, hkeeps.trans hsound⟩

/-- Such a cycle is an instruction that does not fail and halts no machine. -/
theorem runInstruction_timerFree (h : m.cycle.1.timerFree = true) :
    (∃ ran, m.runInstruction.1 = .ok ran) ∧ m.runInstruction.2 = m.cycle.2 ∧
    m.cycle.2.halt = m.halt := by
  have hcounts := m.counts_cycle
  cases hc : m.cycle with
  | mk outcome left =>
    rw [hc] at h hcounts
    cases outcome with
    | failed e => cases h
    | awaitingKey =>
      rw [runInstruction_of_awaitingKey hc]
      exact ⟨⟨false, rfl⟩, rfl, congrArg Machine.halt hcounts⟩
    | executed op =>
      rw [runInstruction_of_executed hc]
      exact ⟨⟨true, rfl⟩, rfl, hcounts.2.1.trans hcounts.2.2.symm⟩

/-- The next `n` instructions neither use the timers nor fail. -/
def TimerFree (m : Machine) (n : Nat) : Prop :=
  ∀ j < n, (m.afterInstructions j).cycle.1.timerFree = true

instance (m : Machine) (n : Nat) : Decidable (m.TimerFree n) :=
  inferInstanceAs (Decidable (∀ j < n, (m.afterInstructions j).cycle.1.timerFree = true))

namespace TimerFree

theorem mono {k : Nat} (h : m.TimerFree n) (hk : k ≤ n) : m.TimerFree k :=
  fun j hj => h j (Nat.lt_of_lt_of_le hj hk)

/-- Behind some of the instructions there are the others. -/
theorem drop {j k : Nat} (h : m.TimerFree (j + k)) : (m.afterInstructions j).TimerFree k := by
  intro i hi
  rw [← afterInstructions_add]
  exact h (j + i) (Nat.add_lt_add_left hi j)

/-- They halt no machine and leave the sound timer alone. -/
theorem afterInstructions_keeps (h : m.TimerFree n) :
    (m.afterInstructions n).halt = m.halt ∧
    (m.afterInstructions n).state.sound = m.state.sound := by
  induction n with
  | zero => exact ⟨rfl, rfl⟩
  | succ n ih =>
    have hlast := h n (Nat.lt_succ_self n)
    obtain ⟨hhalt, hsound⟩ := ih (h.mono (Nat.le_succ n))
    obtain ⟨-, hleft, hkeeps⟩ := runInstruction_timerFree hlast
    rw [afterInstructions_succ', hleft]
    exact ⟨hkeeps.trans hhalt, (cycle_tick hlast).2.trans hsound⟩

/-- **A tick before such instructions** comes to the same as a tick behind them. -/
theorem tick_afterInstructions (h : m.TimerFree n) :
    m.tick.afterInstructions n = (m.afterInstructions n).tick := by
  induction n with
  | zero => rfl
  | succ n ih =>
    have hlast := h n (Nat.lt_succ_self n)
    have hticked := (cycle_tick hlast).1
    have htickedLast : (m.afterInstructions n).tick.cycle.1.timerFree = true := by
      rw [hticked]
      exact hlast
    have hleft := (runInstruction_timerFree hlast).2.1
    have hleft' := (runInstruction_timerFree htickedLast).2.1
    rw [afterInstructions_succ', afterInstructions_succ', ih (h.mono (Nat.le_succ n)), hleft,
      hleft', hticked]

/-- Behind a tick they are of the same kind. -/
theorem tick (h : m.TimerFree n) : m.tick.TimerFree n := by
  intro j hj
  rw [(h.mono (Nat.le_of_lt hj)).tick_afterInstructions, (cycle_tick (h j hj)).1]
  exact h j hj

/-- A plain run goes through all of them, or comes to wait for a key and would not be moved by
the others. -/
theorem run_eq (h : m.TimerFree n) : ∃ ran, m.run n = (.ok ran, m.afterInstructions n) := by
  have hplain := m.plainRun n
  generalize m.run n = result at hplain ⊢
  cases hplain with
  | finished => exact ⟨n, rfl⟩
  | @awaitingKey k hk _ hwait =>
    have hstill : m.afterInstructions n = m.afterInstructions k := by
      rw [← Nat.add_sub_cancel' (Nat.le_of_lt hk), afterInstructions_add]
      exact afterInstructions_of_ok_false hwait (n - k)
    rw [hstill]
    exact ⟨k, rfl⟩
  | @failed k e hk _ hfail =>
    obtain ⟨ran, hran⟩ := (runInstruction_timerFree (h k hk)).1
    rw [hran] at hfail
    cases hfail

end TimerFree

end Machine

end Chip8
