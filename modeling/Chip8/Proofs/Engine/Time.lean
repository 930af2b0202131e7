import Chip8.Proofs.Engine.Transparent

/-!
# No time is gained or lost

An advance turns a span of time into instructions and ticks, and carries over what is left of it.
`Spends` says what one advance does with its span: it hands the whole budget to the machine, and
then it makes all its ticks, each of which counts both timers down; it executes less than the budget
only if the machine has come to wait for a key. From one command to the next, what is spent and what
is carried over make up the time that has passed (`perform_conserves`), so they do along a whole
sequence of commands (`performAll_conserves`). An engine that has just been made or reset carries
nothing over; therefore the instructions and the ticks that it has spent are the whole units of the
time since then (`advances_conserve_time`).
-/

namespace Chip8

/-- The nanoseconds that pass with a command. -/
def Command.span : Command → Nat
  | .advance (.nanoseconds span) => span
  | _ => 0

/-! ## Ticks -/

/-- Every tick counts a timer down until it has run out, so a number of them take as much off it as
is there. -/
theorem Machine.timers_iterate_tick (m : Machine) (hdelay : 0 ≤ m.state.delay)
    (hsound : 0 ≤ m.state.sound) (n : Nat) :
    (Machine.tick^[n] m).state.delay = max 0 (m.state.delay - n) ∧
      (Machine.tick^[n] m).state.sound = max 0 (m.state.sound - n) := by
  induction n generalizing m with
  | zero =>
    show m.state.delay = max 0 (m.state.delay - (0 : Nat)) ∧
      m.state.sound = max 0 (m.state.sound - (0 : Nat))
    omega
  | succ n ih =>
    have hdelay' : m.tick.state.delay = max 0 (m.state.delay - 1) := by
      show (if 0 < m.state.delay then m.state.delay - 1 else m.state.delay) = _
      split
      · omega
      · omega
    have hsound' : m.tick.state.sound = max 0 (m.state.sound - 1) := by
      show (if 0 < m.state.sound then m.state.sound - 1 else m.state.sound) = _
      split
      · omega
      · omega
    obtain ⟨hd, hs⟩ := ih m.tick (hdelay' ▸ Int.le_max_left _ _) (hsound' ▸ Int.le_max_left _ _)
    rw [Function.iterate_succ_apply, hd, hs, hdelay', hsound']
    omega

/-- They neither count as instructions, nor do they begin or end a wait for a key. -/
theorem Machine.steady_iterate_tick (m : Machine) (n : Nat) :
    (Machine.tick^[n] m).state.cycles = m.state.cycles ∧
    (Machine.tick^[n] m).state.awaiting = m.state.awaiting := by
  induction n generalizing m with
  | zero => exact ⟨rfl, rfl⟩
  | succ n ih => exact ih m.tick

namespace Engine

variable {e mid : Engine} {commands : List Command} {span : Nat}

/-! ## One advance -/

/-- What an advance does with a span of time: the whole budget is handed to the machine, what is not
executed of it is given up because the machine waits for a key, and then the engine ticks as often
as it is due. -/
structure Spends (e : Engine) (span : Nat) (mid : Engine) : Prop where
  runs : (e.carried span).runCycles (e.budget span) = (.ok (), mid)
  executes : ∃ k ≤ e.budget span, mid.state.cycles = e.state.cycles + (k : Nat) ∧
    (k < e.budget span → mid.state.awaiting.isSome = true)
  ticks : e.advance (.nanoseconds span) =
    (.ok (tick^[e.beats span] mid).frame, (tick^[e.beats span] mid).publish)
  machine : (e.advance (.nanoseconds span)).2.machine = Machine.tick^[e.beats span] mid.machine
  delay : (e.advance (.nanoseconds span)).2.state.delay = max 0 (mid.state.delay - e.beats span)
  sound : (e.advance (.nanoseconds span)).2.state.sound = max 0 (mid.state.sound - e.beats span)

/-- Instructions that bring the engine neither to a halt nor to a breakpoint use up their budget,
unless the machine has come to wait for a key. -/
theorem WellFormed.runCycles_cycles (h : e.WellFormed) {n : Nat}
    (hidle : (e.runCycles n).2.idle = false) :
    ∃ k ≤ n, (e.runCycles n).2.state.cycles = e.state.cycles + (k : Nat) ∧
      (k < n → (e.runCycles n).2.state.awaiting.isSome = true) := by
  obtain ⟨hhalted, hpaused⟩ := Bool.or_eq_false_iff.mp hidle
  -- No breakpoint is hit, so the plain run tells all.
  have hsame := runCycles_quiet h.shared h.undisturbed hpaused
  have hcycles : (e.runCycles n).2.state.cycles = (e.machine.run n).2.state.cycles :=
    congrArg (·.state.cycles) hsame
  have hawaiting : (e.runCycles n).2.state.awaiting = (e.machine.run n).2.state.awaiting :=
    congrArg (·.state.awaiting) hsame
  rw [hcycles, hawaiting]
  exact h.machine.run_cycles ((congrArg Machine.halted hsame).symm.trans hhalted)

/-- **An advance that comes neither to a halt nor to a breakpoint** spends its span of time. -/
theorem WellFormed.spends (h : e.WellFormed) (hidle : e.idle = false)
    (hend : (e.advance (.nanoseconds span)).2.idle = false) : ∃ mid, e.Spends span mid := by
  have hrun := h.runCycles_carried hidle span
  have hadvance := advance_of_ok hidle (pass_of_ok hrun)
  have hcycles := (h.carried span).runCycles_cycles (n := e.budget span)
  have hstate := ((h.carried span).runCycles_snd (e.budget span)).machine.state
  generalize ((e.carried span).runCycles (e.budget span)).2 = mid at hrun hadvance hcycles hstate
  have hmid : mid.idle = false := by
    rw [hadvance] at hend
    split at hend
    · exact hend
    next hno => exact Bool.eq_false_iff.mpr hno
  rw [if_neg (Bool.eq_false_iff.mp hmid), ticks_eq_iterate] at hadvance
  have hmachine : (e.advance (.nanoseconds span)).2.machine =
      Machine.tick^[e.beats span] mid.machine := by
    rw [hadvance]
    exact mid.machine_iterate_tick _
  obtain ⟨hdelay, hsound⟩ :=
    mid.machine.timers_iterate_tick hstate.delay_nonneg hstate.sound_nonneg (e.beats span)
  rw [← hmachine] at hdelay hsound
  exact ⟨mid, hrun, hcycles hmid, hadvance, hmachine, hdelay, hsound⟩

theorem Spends.state (h : e.Spends span mid) :
    (e.perform (.advance (.nanoseconds span))).state.cycles = mid.state.cycles ∧
      (e.perform (.advance (.nanoseconds span))).state.awaiting = mid.state.awaiting := by
  have hmachine : (e.perform (.advance (.nanoseconds span))).machine =
      Machine.tick^[e.beats span] mid.machine :=
    h.machine
  unfold Engine.state
  rw [hmachine]
  exact mid.machine.steady_iterate_tick _

/-! ## Commands -/

/-- What a command takes of an amount that depends on the span of time. -/
def share (amount : Engine → Nat → Nat) (e : Engine) : Command → Nat
  | .advance (.nanoseconds span) => amount e span
  | _ => 0

/-- The sum of the shares of a sequence of commands. -/
def total (amount : Engine → Nat → Nat) (e : Engine) : List Command → Nat
  | [] => 0
  | c :: rest => e.share amount c + (e.perform c).total amount rest

/-- The nanoseconds that pass along a sequence of commands. -/
def time (commands : List Command) : Nat :=
  whole (commands.map Command.span)

theorem perform_of_not_finite {elapsed : Elapsed} {err : ElapsedError} (hidle : e.idle = false)
    (helapsed : elapsed.get = .error err) : e.perform (.advance elapsed) = e :=
  congrArg Prod.snd (advance_of_not_finite hidle helapsed)

/-- **From one command to the next**, what is spent and what is carried over make up the time that
has passed. -/
theorem perform_conserves (h : e.WellFormed) (hclock : 0 ≤ e.settings.clockHz)
    (htimer : 0 ≤ e.settings.timerHz) {c : Command} (hc : c.isInput = true)
    (hidle : e.idle = false) :
    nanoseconds * e.share budget c + (e.perform c).cycleCarry = e.cycleCarry + c.span *
      e.settings.clockHz ∧
      nanoseconds * e.share beats c + (e.perform c).tickCarry = e.tickCarry + c.span *
        e.settings.timerHz := by
  have hnothing : ∀ carry rate : Int,
      nanoseconds * (0 : Nat) + carry = carry + (0 : Nat) * rate := by
    intro carry rate
    rw [Int.natCast_zero, Int.mul_zero, Int.zero_mul, Int.zero_add, Int.add_zero]
  cases c with
  | advance elapsed =>
    cases elapsed with
    | nanoseconds span =>
      have hcarries : SameCarries (e.carried span) (e.perform (.advance (.nanoseconds span))) :=
        sameCarries_advance hidle span
      rw [hcarries.cycleCarry, hcarries.tickCarry]
      exact ⟨due_toNat_conserves span hclock h.paced.cycle_nonneg,
        due_toNat_conserves span htimer h.paced.tick_nonneg⟩
    | notANumber =>
      rw [perform_of_not_finite hidle rfl]
      exact ⟨hnothing _ _, hnothing _ _⟩
    | infinite =>
      rw [perform_of_not_finite hidle rfl]
      exact ⟨hnothing _ _, hnothing _ _⟩
  | press code => exact ⟨hnothing _ _, hnothing _ _⟩
  | release code => exact ⟨hnothing _ _, hnothing _ _⟩
  | _ => cases hc

/-- If the machine does not wait for a key, a command executes its whole budget. -/
theorem perform_cycles (h : e.WellFormed) {c : Command} (hc : c.isInput = true)
    (hidle : e.idle = false) (hend : (e.perform c).idle = false)
    (hwait : (e.perform c).state.awaiting = none) :
    (e.perform c).state.cycles = e.state.cycles + e.share budget c := by
  cases c with
  | advance elapsed =>
    cases elapsed with
    | nanoseconds span =>
      obtain ⟨mid, hspends⟩ := h.spends hidle hend
      obtain ⟨k, hle, hcycles, hleft⟩ := hspends.executes
      obtain ⟨hcount, hawaiting⟩ := hspends.state
      obtain rfl : k = e.budget span := by
        rcases Nat.lt_or_ge k (e.budget span) with hlt | hge
        · have hsome := hleft hlt
          rw [← hawaiting, hwait] at hsome
          cases hsome
        · exact Nat.le_antisymm hle hge
      exact hcount.trans hcycles
    | notANumber =>
      rw [perform_of_not_finite hidle rfl]
      exact (Int.add_zero _).symm
    | infinite =>
      rw [perform_of_not_finite hidle rfl]
      exact (Int.add_zero _).symm
  | press code =>
    have hmachine : (e.perform (.press code)).machine = (e.machine.press code).2 :=
      e.machine_press code
    unfold state
    rw [hmachine]
    exact (e.state.press_cycles code).trans (Int.add_zero _).symm
  | release code =>
    have hmachine : (e.perform (.release code)).machine = e.machine.release code :=
      e.machine_release code
    unfold state
    rw [hmachine]
    exact (e.state.release_cycles code).trans (Int.add_zero _).symm
  | _ => cases hc

/-! ## Sequences of commands -/

/-- **Along a sequence of commands**, too, what is spent and what is carried over make up the time
that has passed. -/
theorem performAll_conserves (h : e.WellFormed) (hclock : 0 ≤ e.settings.clockHz)
    (htimer : 0 ≤ e.settings.timerHz) (hinput : ∀ c ∈ commands, c.isInput = true)
    (hgoes : e.Always (·.idle = false) commands) :
    nanoseconds * e.total budget commands + (e.performAll commands).cycleCarry =
        e.cycleCarry + time commands * e.settings.clockHz ∧
      nanoseconds * e.total beats commands + (e.performAll commands).tickCarry =
        e.tickCarry + time commands * e.settings.timerHz := by
  induction commands generalizing e with
  | nil =>
    show nanoseconds * (0 : Nat) + e.cycleCarry = e.cycleCarry + (0 : Nat) * e.settings.clockHz ∧
      nanoseconds * (0 : Nat) + e.tickCarry = e.tickCarry + (0 : Nat) * e.settings.timerHz
    simp
  | cons c rest ih =>
    have hc : c.isInput = true := hinput c List.mem_cons_self
    have hsettings : (e.perform c).settings = e.settings := (sameSetup_perform hc).settings
    obtain ⟨hcycle, htick⟩ := perform_conserves h hclock htimer hc hgoes.first
    obtain ⟨hcycles, hticks⟩ := ih (h.perform c) (hsettings ▸ hclock) (hsettings ▸ htimer)
      (fun c hc => hinput c (List.mem_cons_of_mem _ hc)) hgoes.rest
    rw [hsettings] at hcycles hticks
    -- The carry that the first command leaves is the one from which the others go on, so it
    -- cancels out.
    have htime : (time (c :: rest) : Int) = c.span + time rest := by
      unfold time
      rw [List.map_cons, whole_cons, Int.natCast_add]
    have hsplit : ∀ amount : Engine → Nat → Nat,
        (e.total amount (c :: rest) : Int) = e.share amount c + (e.perform c).total amount rest :=
      fun amount => Int.natCast_add _ _
    have hlast : e.performAll (c :: rest) = (e.perform c).performAll rest := rfl
    rw [htime, hsplit, hsplit, hlast, Int.add_mul, Int.add_mul, Int.mul_add, Int.mul_add]
    constructor
    · omega
    · omega

/-- If the machine never waits for a key, all that is spent is executed. -/
theorem performAll_cycles (h : e.WellFormed) (hinput : ∀ c ∈ commands, c.isInput = true)
    (hgoes : e.Always (·.idle = false) commands)
    (hwait : e.Always (·.state.awaiting = none) commands) :
    (e.performAll commands).state.cycles = e.state.cycles + e.total budget commands := by
  induction commands generalizing e with
  | nil => exact (Int.add_zero _).symm
  | cons c rest ih =>
    have hone :=
      perform_cycles h (hinput c List.mem_cons_self) hgoes.first hgoes.rest.first hwait.rest.first
    have hrest :=
      ih (h.perform c) (fun c hc => hinput c (List.mem_cons_of_mem _ hc)) hgoes.rest hwait.rest
    have hsplit : (e.total budget (c :: rest) : Int) = e.share budget c +
        (e.perform c).total budget rest :=
      Int.natCast_add _ _
    have hlast : e.performAll (c :: rest) = (e.perform c).performAll rest := rfl
    rw [hlast, hsplit, hrest, hone, Int.add_assoc]

/-- An engine that has just been made, or reset. -/
inductive Fresh : Engine → Prop
  | created {m : Machine} (settings : Settings) (listener : Bool) (h : m.WellFormed) :
      Fresh (create settings m listener)
  | reset {e : Engine} (h : e.WellFormed) : Fresh e.reset

theorem Fresh.wellFormed (h : e.Fresh) : e.WellFormed := by
  cases h with
  | created settings listener h => exact wellFormed_create h settings listener
  | reset h => exact h.perform .reset

/-- Such an engine carries nothing over. -/
theorem Fresh.carries (h : e.Fresh) : e.cycleCarry = 0 ∧ e.tickCarry = 0 := by
  cases h with
  | created => exact ⟨rfl, rfl⟩
  | @reset e _ => exact e.replace_carries none

/-- **No time is gained or lost** by an engine that has just been made or reset, as long as it comes
neither to a halt nor to a breakpoint: the instructions and the ticks that it has spent are the
whole units of the time that has passed, and what it carries over is the rest. -/
theorem advances_conserve_time (h : e.Fresh) (hclock : 0 < e.settings.clockHz)
    (htimer : 0 < e.settings.timerHz) (hinput : ∀ c ∈ commands, c.isInput = true)
    (hgoes : e.Always (·.idle = false) commands) :
    (e.total budget commands : Int) = e.settings.clockHz * time commands / nanoseconds ∧
      (e.total beats commands : Int) = e.settings.timerHz * time commands / nanoseconds ∧
      (e.performAll commands).cycleCarry = e.settings.clockHz * time commands % nanoseconds ∧
      (e.performAll commands).tickCarry = e.settings.timerHz * time commands % nanoseconds ∧
      (e.performAll commands).Paced ∧
      (∀ before span after, commands = before ++ .advance (.nanoseconds span) :: after →
        ∃ mid, (e.performAll before).Spends span mid) ∧
      (e.Always (·.state.awaiting = none) commands →
        (e.performAll commands).state.cycles = e.state.cycles + e.total budget commands) := by
  have hwf := h.wellFormed
  have hpaced := (hwf.performAll commands).paced
  obtain ⟨hcycle0, htick0⟩ := h.carries
  obtain ⟨hcycles, hticks⟩ :=
    performAll_conserves hwf (Int.le_of_lt hclock) (Int.le_of_lt htimer) hinput hgoes
  have hunit : 0 < nanoseconds := by decide
  rw [hcycle0, Int.zero_add, Int.mul_comm (time commands : Int), Int.add_comm] at hcycles
  rw [htick0, Int.zero_add, Int.mul_comm (time commands : Int), Int.add_comm] at hticks
  obtain ⟨hbudget, hcycleCarry⟩ :=
    (Int.ediv_emod_unique hunit).mpr ⟨hcycles, hpaced.cycle_nonneg, hpaced.cycle_lt⟩
  obtain ⟨hbeats, htickCarry⟩ :=
    (Int.ediv_emod_unique hunit).mpr ⟨hticks, hpaced.tick_nonneg, hpaced.tick_lt⟩
  refine ⟨hbudget.symm, hbeats.symm, hcycleCarry.symm, htickCarry.symm, hpaced, ?_,
    performAll_cycles hwf hinput hgoes⟩
  rintro before span after rfl
  obtain ⟨hfirst, hthen⟩ := hgoes.around
  exact (hwf.performAll before).spends hfirst hthen

/-- An engine for a program that counts and never ends. -/
def counting : Engine :=
  create Settings.standard (Machine.boot [0x71, 0x01, 0x12, 0x00] 0x200 (Dice.cycle [])) false

/-- Fifty milliseconds in three parts, none of which is a whole number of instructions or
of ticks. -/
def thirds : List Command :=
  [.advance (.nanoseconds 16666666), .press 1, .advance (.nanoseconds 16666667),
    .advance (.nanoseconds 16666667)]

theorem counting_thirds :
    counting.Always (fun e => e.idle = false ∧ e.state.awaiting = none) thirds := by
  unfold counting
  rw [Machine.boot_eq]
  decide +kernel

theorem advances_conserve_time_thirds :
    counting.Always (·.idle = false) thirds ∧ counting.Always (·.state.awaiting = none) thirds ∧
      counting.total budget thirds = 25 ∧ counting.total beats thirds = 3 ∧
      (counting.performAll thirds).cycleCarry = 0 ∧ (counting.performAll thirds).tickCarry = 0 ∧
      (counting.performAll thirds).state.cycles = 25 := by
  have hgoes : counting.Always (·.idle = false) thirds := fun k hk => (counting_thirds k hk).1
  have hwait : counting.Always (·.state.awaiting = none) thirds :=
    fun k hk => (counting_thirds k hk).2
  have hfresh : counting.Fresh := .created _ _ (Machine.boot_wellFormed _ _ (by decide) (by decide))
  obtain ⟨hcycles, hticks, hcycleCarry, htickCarry, -, -, hcount⟩ :=
    advances_conserve_time hfresh (by decide) (by decide) (by decide) hgoes
  have hbudget : (counting.total budget thirds : Int) = 25 := hcycles
  refine ⟨hgoes, hwait, Int.ofNat_inj.mp hcycles, Int.ofNat_inj.mp hticks, hcycleCarry,
    htickCarry, ?_⟩
  rw [hcount hwait, hbudget]
  rfl

end Engine

end Chip8
