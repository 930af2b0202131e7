import Chip8.Proofs.Engine.Tone
import Chip8.Proofs.Engine.Transparent
import Chip8.Proofs.Machine.Sound

/-!
# How long a tone lasts

A command that leaves the machine in place executes a number of instructions, and then it may make
ticks (`Plays`). Which instructions these are is told by their count (`operation?`), so that it can
be said what a command sets the sound timer to, if it sets it (`Sets`), and whether it leaves the
timer alone (`Keeps`). As long as commands leave it alone, it is only counted down, and the samples
are on for as many ticks as the timer held, and off from there on (`Fades`, `fades_of_keepsAlong`).
The main result is `listener_hears_changes`. Background runs are sequences of commands
(`runAlong_eq_performAll`), so that it is about them, too.
-/

namespace Chip8

/-! ## A sound timer that is only counted down -/

/-- The first `n` samples of a sound timer that holds `s`: they are on for `s` ticks, then there
is silence. -/
def lasting (s n : Nat) : List Bool :=
  List.replicate (min s n) true ++ List.replicate (n - s) false

theorem lasting_add (s j k : Nat) : lasting s (j + k) = lasting s j ++ lasting (s - j) k := by
  unfold lasting
  rcases Nat.le_total s j with h | h
  · -- The silence begins in the first part.
    have hsilence : j + k - s = j - s + k := Nat.sub_add_comm h
    rw [Nat.min_eq_left h, Nat.min_eq_left (Nat.le_add_right_of_le h),
      Nat.sub_eq_zero_of_le h, Nat.zero_min,
      Nat.sub_zero, List.replicate_zero, List.nil_append, List.append_assoc,
      List.replicate_append_replicate, hsilence]
  · have htone : min s (j + k) = j + min (s - j) k := by omega
    have hsilence : j + k - s = k - (s - j) := by omega
    rw [Nat.min_eq_right h, Nat.sub_eq_zero_of_le h, List.replicate_zero, List.append_nil,
      htone, hsilence,
      ← List.append_assoc, List.replicate_append_replicate]

/-- The samples of a sound timer that is only counted down, from what it holds before to what it
holds after them. -/
structure Fades (before after : Int) (samples : List Bool) : Prop where
  samples_eq : samples = lasting before.toNat samples.length
  after_eq : after.toNat = before.toNat - samples.length

theorem Fades.nil (s : Int) : Fades s s [] :=
  ⟨by simp [lasting], (Nat.sub_zero _).symm⟩

theorem Fades.append {s s' s'' : Int} {samples more : List Bool} (h : Fades s s' samples)
    (h' : Fades s' s'' more) :
    Fades s s'' (samples ++ more) := by
  constructor
  · rw [List.length_append, lasting_add, ← h.samples_eq, ← h.after_eq, ← h'.samples_eq]
  · rw [List.length_append, h'.after_eq, h.after_eq, Nat.sub_sub]

/-- One tick. -/
theorem Machine.fades_tick (m : Machine) : Fades m.state.sound m.tick.state.sound [m.sounding] := by
  show Fades m.state.sound (if 0 < m.state.sound then m.state.sound - 1 else m.state.sound)
    [decide (0 < m.state.sound)]
  generalize m.state.sound = s
  by_cases hs : 0 < s
  · have hmin : min s.toNat 1 = 1 := by omega
    have hnone : 1 - s.toNat = 0 := by omega
    rw [if_pos hs, decide_eq_true hs]
    refine ⟨?_, ?_⟩
    · show [true] = List.replicate (min s.toNat 1) true ++ List.replicate (1 - s.toNat) false
      rw [hmin, hnone]
      rfl
    · show (s - 1).toNat = s.toNat - 1
      omega
  · have hzero : s.toNat = 0 := by omega
    rw [if_neg hs, decide_eq_false hs]
    refine ⟨?_, ?_⟩
    · rw [hzero]
      rfl
    · rw [hzero, Nat.zero_sub]

/-! ## The instructions of a command -/

/-- A run of the debugger reaches what its executed instructions leave. -/
theorem Debugger.run_reaches (d : Debugger) (n : Nat) :
    ∃ k, d.target.Reaches (d.run n).2.target k := by
  obtain ⟨k, hends, hd⟩ := (d.run_eq_iff (d.run n).2 n (d.run n).1).mp rfl
  generalize (d.run n).1 = r at hends hd
  rw [hd]
  have hstay : d.target.Reaches (d.target.afterSteps k) k :=
    Machine.reaches_of_executesFirst hends.executesFirst (d.target.quiet_afterSteps k)
  refine ⟨k, ?_⟩
  cases r with
  | failed e =>
    exact Machine.reaches_of_failed hends.executesFirst hends.runInstruction_of_failed
      (d.target.quiet_afterSteps (k + 1))
  | breakpointBefore pc => exact hstay
  | breakpointAfter symbol => exact hstay
  | awaitingKey => exact hstay
  | stepLimit => exact hstay
  | stopped => exact hstay

namespace Engine

variable {e : Engine} {c : Command} {k : Nat} {s : Int}

theorem runCycles_reaches (h : e.Shared) (n : Nat) :
    ∃ k, e.machine.Reaches (e.runCycles n).2.machine k := by
  cases hactive : e.debugger.active with
  | true =>
    rw [runCycles_machine h hactive, h.machine]
    exact e.debugger.run_reaches n
  | false =>
    rw [runCycles_machine_of_inactive hactive]
    exact e.machine.run_reaches n

theorem fades_ticks (e : Engine) (n : Nat) :
    Fades e.state.sound (e.ticks n).state.sound (e.machine.soundings n) := by
  induction n generalizing e with
  | zero => exact .nil _
  | succ n ih =>
    have hrest := ih e.tick
    unfold state at hrest
    rw [machine_tick] at hrest
    exact e.machine.fades_tick.append hrest

/-- A command has executed `k` instructions, and behind them the sound timer has only been
counted down. -/
structure Plays (e : Engine) (c : Command) (k : Nat) : Prop where
  cycles : (e.perform c).state.cycles = e.state.cycles + k
  fades : Fades (e.machine.afterInstructions k).state.sound (e.perform c).state.sound (e.samples c)

/-- A command without ticks. -/
theorem plays_of_reaches (h : e.machine.Reaches (e.perform c).machine k)
    (hsamples : e.samples c = []) :
    e.Plays c k := by
  refine ⟨h.cycles, ?_⟩
  rw [hsamples]
  unfold state
  rw [h.sound]
  exact .nil _

/-- A command that does not touch the machine. -/
theorem plays_of_machine (h : (e.perform c).machine = e.machine) (hsamples : e.samples c = []) :
    e.Plays c 0 := by
  refine plays_of_reaches ?_ hsamples
  rw [h]
  exact .refl _

/-- **A span of time**: its instructions, and then its ticks, if there are any. -/
theorem fades_pass (h : e.Shared) (span : Nat) :
    ∃ k : Nat, (e.pass span).2.state.cycles = e.state.cycles + k ∧
      Fades (e.machine.afterInstructions k).state.sound (e.pass span).2.state.sound
        (e.samplesDuring span) := by
  obtain ⟨k, hreaches⟩ := runCycles_reaches (e := e.carried span) h (e.budget span)
  refine ⟨k, ?_⟩
  rw [pass_eq]
  unfold samplesDuring
  generalize (e.carried span).runCycles (e.budget span) = result at hreaches
  obtain ⟨outcome, mid⟩ := result
  have hsound : mid.state.sound = (e.machine.afterInstructions k).state.sound := hreaches.sound
  have hmid : mid.state.cycles = e.state.cycles + k ∧
      Fades (e.machine.afterInstructions k).state.sound mid.state.sound [] := by
    rw [hsound]
    exact ⟨hreaches.cycles, .nil _⟩
  cases outcome with
  | error err => exact hmid
  | ok done =>
    dsimp only
    split
    · exact hmid
    · exact ⟨(ticked_ticks mid _).cycles.trans hmid.1, hmid.2.append (mid.fades_ticks _)⟩

/-- Publishing a frame does not touch the machine. -/
theorem advance_machine {elapsed : Elapsed} {span : Nat} (hidle : e.idle = false)
    (helapsed : elapsed.get = .ok span) :
    (e.advance elapsed).2.machine = (e.pass span).2.machine := by
  unfold advance
  rw [hidle, if_neg Bool.false_ne_true, helapsed]
  dsimp only
  generalize e.pass span = result
  obtain ⟨outcome, left⟩ := result
  cases outcome with
  | error err => rfl
  | ok done => rfl

theorem plays_advance (h : e.Shared) (elapsed : Elapsed) : ∃ k, e.Plays (.advance elapsed) k := by
  have hsamples := e.samples_advance elapsed
  cases hidle : e.idle with
  | true =>
    rw [hidle, if_pos rfl] at hsamples
    exact ⟨0, plays_of_machine (congrArg (·.2.machine) (advance_of_idle hidle elapsed)) hsamples⟩
  | false =>
    rw [hidle, if_neg Bool.false_ne_true] at hsamples
    cases helapsed : elapsed.get with
    | error err =>
      rw [helapsed] at hsamples
      exact ⟨0, plays_of_machine (congrArg (·.2.machine) (advance_of_not_finite hidle helapsed))
        hsamples⟩
    | ok span =>
      rw [helapsed] at hsamples
      obtain ⟨k, hcycles, hfades⟩ := fades_pass h span
      have hmachine : (e.perform (.advance elapsed)).machine = (e.pass span).2.machine :=
        advance_machine hidle helapsed
      refine ⟨k, ?_, ?_⟩
      · unfold state
        rw [hmachine]
        exact hcycles
      · unfold state
        rw [hmachine, hsamples]
        exact hfades

theorem plays_step (h : e.Shared) : ∃ k, e.Plays .step k := by
  have hreaches : ∃ k, e.machine.Reaches (e.perform .step).machine k := by
    rw [(h.perform .step).machine, h.machine]
    obtain ⟨d, lastError, pending, notes, heq, hd⟩ := e.step_leaves
    have hdebugger : (e.perform .step).debugger = d := congrArg debugger heq
    rw [hdebugger]
    rcases hd with rfl | rfl
    · exact ⟨0, .refl _⟩
    · rw [Debugger.step_target]
      exact e.debugger.target.step_reaches
  obtain ⟨k, hk⟩ := hreaches
  exact ⟨k, plays_of_reaches hk rfl⟩

/-- **Every command that leaves the machine in place.** -/
theorem plays_perform (hshared : e.Shared) (h : ¬ e.Replaces c) : ∃ k, e.Plays c k := by
  -- Loading that fails only tells something.
  have hloading : ∀ {loaded : List Note × Except LoadingError Machine},
      (e.takeLoaded loaded).1 ≠ .ok () →
      (e.takeLoaded loaded).2.machine = e.machine := by
    intro loaded hfail
    obtain ⟨notes, result⟩ := loaded
    cases result with
    | error err => rfl
    | ok m => exact absurd rfl hfail
  cases c with
  | advance elapsed => exact plays_advance hshared elapsed
  | step => exact plays_step hshared
  | load program => exact ⟨0, plays_of_machine (hloading h) (if_neg h)⟩
  | loadFile files path => exact ⟨0, plays_of_machine (hloading h) (if_neg h)⟩
  | reset => exact absurd trivial h
  | press code =>
    have hmachine : (e.perform (.press code)).machine = (e.machine.press code).2 :=
      e.machine_press code
    have hsound : (e.state.press code).2.sound = e.state.sound := by rw [e.state.press_eq code]
    refine ⟨0, plays_of_reaches ?_ rfl⟩
    rw [hmachine]
    exact ⟨(e.state.press_cycles code).trans (Int.add_zero _).symm, hsound⟩
  | release code =>
    have hmachine : (e.perform (.release code)).machine = e.machine.release code :=
      e.machine_release code
    have hsound : (e.state.release code).sound = e.state.sound := by rw [e.state.release_eq code]
    refine ⟨0, plays_of_reaches ?_ rfl⟩
    rw [hmachine]
    exact ⟨(e.state.release_cycles code).trans (Int.add_zero _).symm, hsound⟩
  | start => exact ⟨0, plays_of_machine e.machine_start rfl⟩
  | stop =>
    obtain ⟨notes, hstop⟩ := e.stop_eq
    have hmachine : e.stop.machine = e.machine := by
      rw [hstop]
      rfl
    exact ⟨0, plays_of_machine hmachine rfl⟩
  | add b => exact ⟨0, plays_of_machine (e.machine_mapDebugger (e.debugger.add_keeps b).2) rfl⟩
  | update old new => exact ⟨0, plays_of_machine (e.machine_mapDebugger rfl) rfl⟩
  | remove b => exact ⟨0, plays_of_machine (e.machine_mapDebugger rfl) rfl⟩
  | finish =>
    refine ⟨0, plays_of_machine ?_ rfl⟩
    show (if e.running then { e with background := .ended } else e).machine = e.machine
    split
    · rfl
    · rfl

/-! ## What commands set the timer to -/

/-- The operation that a command executes as its `j`-th instruction, counted from zero. -/
def operation? (e : Engine) (c : Command) (j : Nat) : Option Operation :=
  if e.state.cycles + j < (e.perform c).state.cycles then
    (e.machine.afterInstructions j).executed? else none

/-- A command sets the sound timer to `s`, if it sets it more than once with its last `Fx18`. -/
def Sets (e : Engine) (c : Command) (s : Int) : Prop :=
  ¬ e.Replaces c ∧ ∃ j op, e.operation? c j = some op ∧ op.SetsSound ∧
    (e.machine.afterInstructions j).state.v.get op.word.x = s ∧
    ∀ i, j < i → ∀ op ∈ e.operation? c i, ¬ op.SetsSound

/-- A command neither sets the sound timer nor puts another machine in place. -/
def Keeps (e : Engine) (c : Command) : Prop :=
  ¬ e.Replaces c ∧ ∀ j, ∀ op ∈ e.operation? c j, ¬ op.SetsSound

/-- None of a sequence of commands does. -/
def KeepsAlong (e : Engine) : List Command → Prop
  | [] => True
  | c :: rest => e.Keeps c ∧ (e.perform c).KeepsAlong rest

theorem Plays.operation?_eq (h : e.Plays c k) (j : Nat) :
    e.operation? c j = if j < k then (e.machine.afterInstructions j).executed? else none := by
  have hcount : e.state.cycles + j < (e.perform c).state.cycles ↔ j < k := by
    rw [h.cycles]
    omega
  unfold operation?
  simp only [hcount]

/-- A timer that is set is counted down from there on. -/
theorem Sets.fades (hshared : e.Shared) (h : e.Sets c s) :
    Fades s (e.perform c).state.sound (e.samples c) := by
  obtain ⟨hmachine, j, op, hop, hsets, hvalue, hlast⟩ := h
  obtain ⟨k, hplays⟩ := plays_perform hshared hmachine
  have hj : j < k := by
    rw [hplays.operation?_eq] at hop
    by_contra hj
    rw [if_neg hj] at hop
    cases hop
  rw [hplays.operation?_eq, if_pos hj] at hop
  have hsound : (e.machine.afterInstructions k).state.sound = s := by
    rw [Machine.sound_of_last hj hop hsets fun i hi hik => ?_, hvalue]
    have hrest := hlast i hi
    rwa [hplays.operation?_eq, if_pos hik] at hrest
  rw [← hsound]
  exact hplays.fades

/-- **A command that leaves the timer alone** counts it down. -/
theorem Keeps.fades (hshared : e.Shared) (h : e.Keeps c) :
    Fades e.state.sound (e.perform c).state.sound (e.samples c) := by
  obtain ⟨hmachine, hops⟩ := h
  obtain ⟨k, hplays⟩ := plays_perform hshared hmachine
  have hsound : (e.machine.afterInstructions k).state.sound = e.state.sound := by
    refine Machine.sound_afterInstructions fun j hj => ?_
    have hop := hops j
    rwa [hplays.operation?_eq, if_pos hj] at hop
  rw [← hsound]
  exact hplays.fades

/-- **So does a sequence of them.** -/
theorem fades_of_keepsAlong (hshared : e.Shared) {commands : List Command}
    (h : e.KeepsAlong commands) :
    Fades e.state.sound (e.performAll commands).state.sound (e.samplesAlong commands) := by
  induction commands generalizing e with
  | nil => exact .nil _
  | cons c rest ih => exact (h.1.fades hshared).append (ih (hshared.perform c) h.2)

theorem samplesAlong_append (e : Engine) (commands more : List Command) :
    e.samplesAlong (commands ++ more) = e.samplesAlong commands ++
      (e.performAll commands).samplesAlong more := by
  induction commands generalizing e with
  | nil => rfl
  | cons c rest ih =>
    show e.samples c ++ (e.perform c).samplesAlong (rest ++ more) = _
    rw [ih, ← List.append_assoc]
    rfl

/-- **A listener hears exactly the changes of the tone.** What is reported along a sequence of
commands is where the stream of samples changes, beginning with silence; so the tone comes on and
goes off in turns, whatever number of ticks falls into one advance. Once a command has set the sound
timer to `s`, exactly `s` samples that are on come before the first one that is off, and all others
are off, until the timer is set again or another machine is put in place. Without a listener
everything is the same but for the reports, and the commands give the same, too. -/
theorem listener_hears_changes (settings : Settings) (base : Int) (m : Machine)
    (commands : List Command) :
    ((build settings base m true).performAll commands).tones =
        changes ((build settings base m true).samplesAlong commands) ∧
      (false :: ((build settings base m true).performAll commands).tones).IsChain (· ≠ ·) ∧
      (∀ before c later s, commands = before ++ c :: later →
        ((build settings base m true).performAll before).Sets c s →
        (((build settings base m true).performAll before).perform c).KeepsAlong later →
        ∃ n, (build settings base m true).samplesAlong commands =
          (build settings base m true).samplesAlong before ++ lasting s.toNat n) ∧
      (build settings base m false).performAll commands =
        ((build settings base m true).performAll commands).hearing false [] ∧
      (build settings base m false).replies (commands.map .command) =
        (build settings base m true).replies (commands.map .command) := by
  have hlistening : Hears true [] (build settings base m true) (build settings base m true) :=
    ⟨rfl, rfl⟩
  have hsilent : Hears false [] (build settings base m true) (build settings base m false) :=
    ⟨rfl, rfl⟩
  obtain ⟨-, hheard⟩ := hlistening.performAll commands
  obtain ⟨hreplies, hsame⟩ := hsilent.performAll commands
  have htones := congrArg tones hheard.eq
  refine ⟨htones, ?_, ?_, hsame.eq, hreplies⟩
  · rw [htones]
    exact isChain_changes _
  · rintro before c later s rfl hsets hkeeps
    have hshared : ((build settings base m true).performAll before).Shared :=
      Shared.performAll (e := build settings base m true) rfl before
    have hfades := (hsets.fades hshared).append (fades_of_keepsAlong (hshared.perform c) hkeeps)
    rw [samplesAlong_append]
    exact ⟨_, congrArg (_ ++ ·) hfades.samples_eq⟩

/-- A machine that sets the sound timer to eight and then goes on in a circle. -/
def tolling : Machine :=
  Machine.boot [0x60, 0x08, 0xF0, 0x18, 0x12, 0x04] 0x200 (Dice.cycle [])

/-- An engine for it that executes twenty instructions in a second. -/
def bell (listener : Bool) : Engine :=
  build { Settings.standard with clockHz := 20 } 0x200 tolling listener

/-- Two instructions and six ticks. -/
def strike : Command :=
  .advance (.nanoseconds 100000000)

/-- One instruction and three ticks, during which the tone ends. -/
def linger : Command :=
  .advance (.nanoseconds 50000000)

theorem bell_counts :
    (bell true).state.cycles = 0 ∧ ((bell true).perform strike).state.cycles = 2 ∧
      (((bell true).perform strike).perform linger).state.cycles = 3 ∧
      (bell true).operation? strike 1 = some ⟨0xF018, 0x202, .setSound 0⟩ ∧
      ((bell true).machine.afterInstructions 1).state.v.get 0 = 8 ∧
      ((bell true).perform strike).operation? linger 0 = some ⟨0x1204, 0x204, .jump 0x204⟩ ∧
      (bell true).samplesAlong [strike, linger] = lasting 8 9 ∧
      changes (lasting 8 9) = [true, false] := by
  unfold bell tolling
  rw [Machine.boot_eq]
  decide +kernel

theorem bell_sets : (bell true).Sets strike 8 := by
  obtain ⟨hstart, hcycles, -, hop, hvalue, -⟩ := bell_counts
  refine ⟨id, 1, _, hop, by decide, hvalue, fun i hi op hi' => ?_⟩
  have hnone : (bell true).operation? strike i = none := by
    refine if_neg ?_
    rw [hstart, hcycles]
    omega
  rw [hnone] at hi'
  cases hi'

theorem bell_keeps : ((bell true).perform strike).KeepsAlong [linger] := by
  obtain ⟨-, hcycles, hend, -, -, hop, -⟩ := bell_counts
  refine ⟨⟨id, fun j op hj => ?_⟩, trivial⟩
  cases j with
  | zero =>
    obtain rfl := Option.some.inj (hop.symm.trans hj)
    decide
  | succ j =>
    have hnone : ((bell true).perform strike).operation? linger (j + 1) = none := by
      refine if_neg ?_
      rw [hcycles, hend]
      omega
    rw [hnone] at hj
    cases hj

theorem listener_hears_changes_bell :
    (bell true).Sets strike 8 ∧ ((bell true).perform strike).KeepsAlong [linger] ∧
      (∃ n, (bell true).samplesAlong [strike, linger] = lasting 8 n) ∧
      ((bell true).performAll [strike, linger]).tones = [true, false] ∧
      ((bell false).performAll [strike, linger]).tones = [] := by
  obtain ⟨htones, -, hfading, hsilent, -⟩ :=
    listener_hears_changes { Settings.standard with clockHz := 20 } 0x200 tolling [strike, linger]
  obtain ⟨-, -, -, -, -, -, hsamples, hchanges⟩ := bell_counts
  refine ⟨bell_sets, bell_keeps, hfading [] _ _ 8 rfl bell_sets bell_keeps, ?_,
    congrArg tones hsilent⟩
  calc
    ((bell true).performAll [strike, linger]).tones =
      changes ((bell true).samplesAlong [strike, linger]) := htones
    _ = [true, false] := by rw [hsamples, hchanges]

end Engine

end Chip8
