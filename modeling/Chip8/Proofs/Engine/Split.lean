import Chip8.Proofs.Engine.Invariant
import Chip8.Proofs.Machine.Timers

/-!
# How time is split

An advance executes all the instructions of its span of time before all its ticks, so two advances
mix instructions and ticks in another way than a single one over both spans. To a program that does
not use the timers this makes no difference. `spent` is an engine behind a number of instructions
and a number of ticks; since such instructions and ticks can be exchanged
(`ticks_afterInstructions`), what has been spent twice has been spent at once (`spent_spent`). The
numbers themselves add up, because what one span leaves over is carried to the next
(`due_toNat_add`). So two advances leave what a single one leaves (`Steady.advance_advance`), and by
induction any number of them do (`advances_eq_advance`).
-/

namespace Chip8

namespace Engine

variable {e : Engine} {n : Nat} {spans : List Nat}

/-! ## Ticks and what they do not look at -/

/-- The engine with other carries and another frame that is published. -/
def handOver (e : Engine) (cycleCarry tickCarry : Int) (pending : Option Frame) : Engine :=
  { e with cycleCarry := cycleCarry, tickCarry := tickCarry, pending := pending }

theorem tick_handOver (e : Engine) (cycleCarry tickCarry : Int) (pending : Option Frame) :
    (e.handOver cycleCarry tickCarry pending).tick =
      e.tick.handOver cycleCarry tickCarry pending := by
  rw [tick_eq, tick_eq]
  rfl

theorem ticks_handOver (e : Engine) (cycleCarry tickCarry : Int) (pending : Option Frame)
    (k : Nat) :
    (e.handOver cycleCarry tickCarry pending).ticks k =
      (e.ticks k).handOver cycleCarry tickCarry pending := by
  induction k generalizing e with
  | zero => rfl
  | succ k ih =>
    show ((e.handOver cycleCarry tickCarry pending).tick).ticks k = _
    rw [tick_handOver, ih]
    rfl

/-! ## Instructions and ticks -/

/-- The engine behind `n` instructions and `k` ticks. -/
def spent (e : Engine) (n k : Nat) : Engine :=
  (e.mapMachine (·.afterInstructions n)).ticks k

theorem spent_handOver (e : Engine) (cycleCarry tickCarry : Int) (pending : Option Frame)
    (n k : Nat) :
    (e.handOver cycleCarry tickCarry pending).spent n k =
      (e.spent n k).handOver cycleCarry tickCarry pending :=
  (e.mapMachine (·.afterInstructions n)).ticks_handOver cycleCarry tickCarry pending k

/-- A tick may as well come before the instructions. -/
theorem tick_afterInstructions (h : e.machine.TimerFree n) :
    (e.mapMachine (·.afterInstructions n)).tick = e.tick.mapMachine (·.afterInstructions n) := by
  have hmachine : (e.machine.afterInstructions n).tick = e.machine.tick.afterInstructions n :=
    h.tick_afterInstructions.symm
  have hthen : (e.mapMachine (·.afterInstructions n)).machine = e.machine.afterInstructions n :=
    e.machine_mapMachine _
  have hsounding : (e.mapMachine (·.afterInstructions n)).machine.sounding =
      e.machine.sounding := by
    rw [hthen]
    unfold Machine.sounding
    rw [h.afterInstructions_keeps.2]
  have hreported : (e.mapMachine (·.afterInstructions n)).reported = e.reported :=
    congrArg (fun on => if e.listener && on != e.toneOn then [on] else []) hsounding
  have hexchanged : (e.mapMachine (·.afterInstructions n)).mapMachine Machine.tick =
      (e.mapMachine Machine.tick).mapMachine (·.afterInstructions n) := by
    rw [mapMachine_mapMachine, mapMachine_mapMachine]
    exact mapMachine_congr hmachine
  rw [tick_eq, tick_eq, hreported, hsounding, hexchanged]
  rfl

/-- So may any number of ticks. -/
theorem ticks_afterInstructions (h : e.machine.TimerFree n) (k : Nat) :
    (e.mapMachine (·.afterInstructions n)).ticks k =
      (e.ticks k).mapMachine (·.afterInstructions n) ∧
      (e.ticks k).machine.TimerFree n := by
  induction k generalizing e with
  | zero => exact ⟨rfl, h⟩
  | succ k ih =>
    have hticked : e.tick.machine.TimerFree n := by
      rw [machine_tick]
      exact h.tick
    have hfirst : (e.mapMachine (·.afterInstructions n)).ticks (k + 1) =
        (e.mapMachine (·.afterInstructions n)).tick.ticks k := rfl
    rw [hfirst, tick_afterInstructions h]
    exact ih hticked

/-- **What is spent twice is spent at once.** -/
theorem spent_spent {n' : Nat} (h : e.machine.TimerFree (n + n')) (k k' : Nat) :
    (e.spent n k).spent n' k' = e.spent (n + n') (k + k') ∧ (e.spent n k).machine.TimerFree n' := by
  obtain ⟨hfirst, hticked⟩ := ticks_afterInstructions (h.mono (Nat.le_add_right n n')) k
  obtain ⟨hwhole, hall⟩ := ticks_afterInstructions h k
  have hspent : e.spent n k = (e.ticks k).mapMachine (·.afterInstructions n) := hfirst
  -- All ticks are brought before all instructions, where each of the two simply add up.
  constructor
  · calc (e.spent n k).spent n' k'
      _ = (((e.ticks k).mapMachine (·.afterInstructions n)).mapMachine
        (·.afterInstructions n')).ticks k' := by
        rw [hspent]
        rfl
      _ = ((e.ticks k).mapMachine (·.afterInstructions (n + n'))).ticks k' := by
        have htogether : (fun m : Machine => (m.afterInstructions n).afterInstructions n') =
            (·.afterInstructions (n + n')) := funext fun m => (m.afterInstructions_add n n').symm
        rw [mapMachine_mapMachine, htogether]
      _ = ((e.mapMachine (·.afterInstructions (n + n'))).ticks k).ticks k' := by rw [hwhole]
      _ = e.spent (n + n') (k + k') := (ticks_add _ k k').symm
  · rw [hspent, machine_mapMachine]
    exact hall.drop

/-! ## Advances -/

/-- Without breakpoints, instructions that do not use the timers are executed as plain ones. -/
theorem runCycles_timerFree (hactive : e.debugger.active = false) (h : e.machine.TimerFree n) :
    e.runCycles n = (.ok (), e.mapMachine (·.afterInstructions n)) := by
  obtain ⟨ran, hrun⟩ := h.run_eq
  unfold runCycles
  rw [if_neg (Bool.eq_false_iff.mp hactive), hrun]
  exact congrArg (Prod.mk _) (mapMachine_congr rfl)

/-- Neither instructions that do not use the timers nor ticks bring the engine to a halt or to
a breakpoint. -/
theorem spent_idle (h : e.machine.TimerFree n) (k : Nat) : (e.spent n k).idle = e.idle := by
  have hticked := ticked_ticks (e.mapMachine (·.afterInstructions n)) k
  have hhalt : (e.spent n k).machine.halt = e.machine.halt := by
    refine hticked.halt.trans ?_
    rw [machine_mapMachine]
    exact h.afterInstructions_keeps.1
  have hpaused : (e.spent n k).paused = e.paused := hticked.paused
  unfold idle Machine.halted
  rw [hhalt, hpaused]

/-- For a span of time an engine goes on without using the timers, and without coming to a halt or
to a breakpoint. -/
structure Steady (e : Engine) (span : Nat) : Prop where
  paced : e.Paced
  running : e.idle = false
  unwatched : e.debugger.active = false
  timerFree : e.machine.TimerFree (e.budget span)

/-- What is due behind an advance goes on from what it has carried over. -/
theorem due_advance (hidle : e.idle = false) (s t : Nat) :
    (e.advance (.nanoseconds s)).2.budget t =
      (due e.settings.clockHz (e.carried s).cycleCarry t).1.toNat ∧
      (e.advance (.nanoseconds s)).2.beats t =
        (due e.settings.timerHz (e.carried s).tickCarry t).1.toNat := by
  have hcarries := sameCarries_advance hidle s
  unfold budget beats
  rw [hcarries.settings, hcarries.cycleCarry, hcarries.tickCarry]
  exact ⟨rfl, rfl⟩

/-- Behind two spans the same is carried over as behind both at once. -/
theorem carried_advance (hidle : e.idle = false) (s t : Nat) :
    ((e.advance (.nanoseconds s)).2.carried t).cycleCarry = (e.carried (s + t)).cycleCarry ∧
      ((e.advance (.nanoseconds s)).2.carried t).tickCarry = (e.carried (s + t)).tickCarry := by
  have hcarries := sameCarries_advance hidle s
  unfold carried at hcarries ⊢
  dsimp only
  rw [hcarries.settings, hcarries.cycleCarry, hcarries.tickCarry]
  exact ⟨(due_add s t).2.symm, (due_add s t).2.symm⟩

namespace Steady

variable {s t span : Nat}

/-- **An advance over such a span** spends its instructions and ticks, and hands over what is
carried and a frame. -/
theorem advance_eq (h : e.Steady span) :
    e.advance (.nanoseconds span) =
      (.ok (e.spent (e.budget span) (e.beats span)).frame,
        (e.spent (e.budget span) (e.beats span)).handOver (e.carried span).cycleCarry
          (e.carried span).tickCarry
          (some (e.spent (e.budget span) (e.beats span)).frame)) := by
  have hrun : (e.carried span).runCycles (e.budget span) =
      (.ok (), (e.carried span).mapMachine (·.afterInstructions (e.budget span))) :=
    runCycles_timerFree h.unwatched h.timerFree
  have hmid : ((e.carried span).mapMachine (·.afterInstructions (e.budget span))).idle = false :=
    (spent_idle h.timerFree 0).trans h.running
  have hspent : ((e.carried span).mapMachine (·.afterInstructions (e.budget span))).ticks
      (e.beats span) =
      (e.spent (e.budget span) (e.beats span)).handOver (e.carried span).cycleCarry
        (e.carried span).tickCarry
        e.pending := e.spent_handOver _ _ _ _ _
  rw [advance_of_ok h.running (pass_of_ok hrun), if_neg (Bool.eq_false_iff.mp hmid), hspent]
  rfl

/-- The instructions and the ticks of both parts of a span make up those of the whole. -/
theorem due_split (h : e.Steady (s + t)) :
    e.budget (s + t) = e.budget s + (e.advance (.nanoseconds s)).2.budget t ∧
      e.beats (s + t) = e.beats s + (e.advance (.nanoseconds s)).2.beats t := by
  obtain ⟨hbudget, hbeats⟩ := due_advance h.running s t
  rw [hbudget, hbeats]
  exact ⟨due_toNat_add h.paced.cycle_nonneg h.paced.cycle_lt s t,
    due_toNat_add h.paced.tick_nonneg h.paced.tick_lt s t⟩

/-- The first part of a span is as steady as the whole. -/
theorem first (h : e.Steady (s + t)) : e.Steady s where
  paced := h.paced
  running := h.running
  unwatched := h.unwatched
  timerFree := h.timerFree.mono (h.due_split.1 ▸ Nat.le_add_right _ _)

/-- So is the second part, behind an advance over the first one. -/
theorem rest (h : e.Steady (s + t)) : (e.advance (.nanoseconds s)).2.Steady t := by
  have hcarries := sameCarries_advance h.running s
  have hfree := h.timerFree
  rw [h.due_split.1] at hfree
  refine ⟨(paced_carried e s).of_carries hcarries.cycleCarry hcarries.tickCarry, ?_,
    hcarries.active.trans h.unwatched, ?_⟩
  · rw [h.first.advance_eq]
    exact (spent_idle h.first.timerFree _).trans h.running
  · generalize (e.advance (.nanoseconds s)).2.budget t = n' at hfree
    rw [h.first.advance_eq]
    exact (spent_spent hfree (e.beats s) 0).2

/-- **Two advances** leave what a single one over both spans leaves. -/
theorem advance_advance (h : e.Steady (s + t)) :
    ((e.advance (.nanoseconds s)).2.advance (.nanoseconds t)).2 =
      (e.advance (.nanoseconds (s + t))).2 := by
  have hfree := h.timerFree
  obtain ⟨hbudget, hbeats⟩ := h.due_split
  rw [hbudget] at hfree
  obtain ⟨hcycle, htick⟩ := carried_advance h.running s t
  -- What the first advance has handed over does not matter to what the second one spends.
  have hspent : (e.advance (.nanoseconds s)).2.spent ((e.advance (.nanoseconds s)).2.budget t)
      ((e.advance (.nanoseconds s)).2.beats t) =
      (e.spent (e.budget (s + t)) (e.beats (s + t))).handOver
        (e.advance (.nanoseconds s)).2.cycleCarry
        (e.advance (.nanoseconds s)).2.tickCarry (e.advance (.nanoseconds s)).2.pending := by
    rw [hbudget, hbeats, ← (spent_spent hfree _ _).1, ← spent_handOver]
    generalize (e.advance (.nanoseconds s)).2.budget t = n'
    generalize (e.advance (.nanoseconds s)).2.beats t = k'
    rw [h.first.advance_eq]
    rfl
  rw [h.rest.advance_eq, h.advance_eq, hspent, hcycle, htick]
  rfl

/-- In no time nothing happens but that a frame is published. -/
theorem advance_zero (h : e.Steady 0) : (e.advance (.nanoseconds 0)).2 = e.publish := by
  have hcycles : due e.settings.clockHz e.cycleCarry 0 = (0, e.cycleCarry) :=
    due_zero h.paced.cycle_nonneg h.paced.cycle_lt
  have hticks : due e.settings.timerHz e.tickCarry 0 = (0, e.tickCarry) :=
    due_zero h.paced.tick_nonneg h.paced.tick_lt
  have hbudget : e.budget 0 = 0 := congrArg (·.1.toNat) hcycles
  have hbeats : e.beats 0 = 0 := congrArg (·.1.toNat) hticks
  have hcycle : (e.carried 0).cycleCarry = e.cycleCarry := congrArg Prod.snd hcycles
  have htick : (e.carried 0).tickCarry = e.tickCarry := congrArg Prod.snd hticks
  have hspent : e.spent 0 0 = e := e.mapMachine_id
  rw [h.advance_eq, hbudget, hbeats, hcycle, htick, hspent]
  rfl

end Steady

/-- The advances over a list of spans. -/
def advances (spans : List Nat) : List Command :=
  spans.map fun span => .advance (.nanoseconds span)

/-- **How time is split makes no difference** to a program that does not use the timers. An engine
without enabled breakpoints that is neither halted nor paused, and whose instructions within the
whole time neither use the timers nor fail, is left the same by advances over any parts of that time
as by a single advance over all of it: the machine with its access log and its dice, what is carried
over, and the tones reported. None of these advances fails. -/
theorem advances_eq_advance (hpaced : e.Paced) (hidle : e.idle = false)
    (hactive : e.debugger.active = false) (hfree : e.machine.TimerFree (e.budget (whole spans))) :
    (e.performAll (advances spans)).publish = (e.advance (.nanoseconds (whole spans))).2 ∧
      (∀ answer ∈ e.answers (advances spans), ∃ frame, answer = .ok frame) ∧
      ∃ frame, (e.advance (.nanoseconds (whole spans))).1 = .ok frame := by
  have hsteady : e.Steady (whole spans) := ⟨hpaced, hidle, hactive, hfree⟩
  clear hpaced hidle hactive hfree
  refine ⟨?_, ?_, _, congrArg Prod.fst hsteady.advance_eq⟩
  · induction spans generalizing e with
    | nil => exact hsteady.advance_zero.symm
    | cons s rest ih =>
      rw [whole_cons] at hsteady ⊢
      exact (ih hsteady.rest).trans hsteady.advance_advance
  · induction spans generalizing e with
    | nil => exact fun answer hmem => absurd hmem List.not_mem_nil
    | cons s rest ih =>
      rw [whole_cons] at hsteady
      intro answer hmem
      rcases List.mem_cons.mp hmem with rfl | hlater
      · exact ⟨_, congrArg Prod.fst hsteady.first.advance_eq⟩
      · exact ih hsteady.rest answer hlater

/-- An engine at fifty instructions a second, for a program that turns on the tone, counts once and
waits for a key. -/
def chime : Engine :=
  create { Settings.standard with clockHz := 50 }
    (Machine.boot [0x61, 0x05, 0xF1, 0x18, 0x72, 0x01, 0xF0, 0x0A] 0x200 (Dice.cycle [])) true

/-- The same engine when the tone has been turned on. -/
def fading : Engine :=
  chime.performAll [.advance (.nanoseconds 40000000)]

/-- The program comes to wait in the first of these spans, and the tone ends in the second one. -/
def parts : List Nat :=
  [30000000, 30000000, 40000000]

theorem fading_parts :
    fading.idle = false ∧ fading.debugger.active = false ∧
    fading.machine.TimerFree (fading.budget (whole parts)) ∧
      (fading.advance (.nanoseconds (whole parts))).2.tones = [true, false] ∧
      (fading.advance (.nanoseconds (whole parts))).2.state.cycles = 4 := by
  unfold fading chime
  rw [Machine.boot_eq]
  decide +kernel

theorem advances_eq_advance_fading :
    fading.idle = false ∧ fading.debugger.active = false ∧
    fading.machine.TimerFree (fading.budget (whole parts)) ∧
      (fading.performAll (advances parts)).publish =
        (fading.advance (.nanoseconds (whole parts))).2 ∧
      (fading.advance (.nanoseconds (whole parts))).2.tones = [true, false] ∧
      (fading.advance (.nanoseconds (whole parts))).2.state.cycles = 4 := by
  obtain ⟨hidle, hactive, hfree, htones, hcycles⟩ := fading_parts
  have hchime : chime.WellFormed :=
    wellFormed_create (Machine.boot_wellFormed _ _ (by decide) (by decide)) _ true
  have hpaced : fading.Paced := (hchime.performAll _).paced
  obtain ⟨hsame, -, -⟩ := advances_eq_advance hpaced hidle hactive hfree
  exact ⟨hidle, hactive, hfree, hsame, htones, hcycles⟩

end Engine

end Chip8
