import Chip8.Proofs.Debugger.Invariant
import Chip8.Proofs.Engine.Invariant
import Chip8.Proofs.Engine.Mark
import Mathlib.Logic.Relation

/-!
# Elementary changes of an engine

Every command is a course of elementary changes (`Change`), and loading and resetting puts another
machine in the place of the present one, too (`performs`). What instructions and single steps can
reach in an engine is said once (`runCycles_leaves`, `step_leaves`, `WellFormed.stepped`), and so is
what is left when the machine is replaced (`replaced`). Elementary changes take the machine on by
events alone (`Change.evolves`), and the debugger always has the machine that the engine has: the
one that has been put there last, as far as events have taken it (`perform_evolves`).
-/

namespace Chip8.Engine

variable {e e' : Engine}

/-! ## Instructions -/

/-- Instructions reach the debugger, the pause, the fault that is kept and the log; the debugger has
run, or the machine without it. -/
theorem runCycles_leaves (h : e.Shared) (n : Nat) :
    ∃ d paused lastError notes,
      (e.runCycles n).2 =
          { e with debugger := d, paused := paused, lastError := lastError, notes := notes } ∧
        (d = (e.debugger.run n).2 ∨ d = { e.debugger with target := (e.machine.run n).2 }) := by
  unfold runCycles
  split
  next =>
    generalize e.debugger.run n = result
    split
    next err d =>
      obtain ⟨lastError, notes, hleft⟩ := handle_leaves { e with debugger := d } err
      exact ⟨d, e.paused, lastError, notes, hleft, .inl rfl⟩
    next => exact ⟨_, _, _, _, rfl, .inl rfl⟩
  next =>
    generalize e.machine.run n = result
    split
    next err m =>
      obtain ⟨lastError, notes, hleft⟩ := handle_leaves (e.mapMachine fun _ => m) err
      rw [h.mapMachine_eq] at hleft ⊢
      exact ⟨{ e.debugger with target := m }, e.paused, lastError, notes, hleft, .inr rfl⟩
    next =>
      rw [h.mapMachine_eq]
      exact ⟨_, _, _, _, rfl, .inr rfl⟩

theorem step_of_fault {f : Fault} {d : Debugger} (h : e.machine.halted = false)
    (hd : e.debugger.step = (.error (.fault f), d)) :
    e.step =
      (.ok ({ e with paused := false, debugger := d }.recordFault f).frame,
        ({ e with paused := false, debugger := d }.recordFault f).publish) := by
  have hrun : ¬ { e with paused := false }.machine.halted = true := Bool.eq_false_iff.mp h
  unfold step
  dsimp only
  rw [if_neg hrun, hd]
  rfl

theorem step_of_answer {record : Option Snapshot} {d : Debugger} (h : e.machine.halted = false)
    (hd : e.debugger.step = (.ok record, d)) :
    e.step =
      (.ok { e with paused := false, debugger := d }.frame,
        { e with paused := false, debugger := d }.publish) := by
  have hrun : ¬ { e with paused := false }.machine.halted = true := Bool.eq_false_iff.mp h
  unfold step
  dsimp only
  rw [if_neg hrun, hd]

/-- A step reaches the debugger, the fault that is kept, the frame and the log, and ends a pause. -/
theorem step_leaves (e : Engine) :
    ∃ d lastError pending notes,
      e.step.2 =
          { e with
            debugger := d
            paused := false
            lastError := lastError
            pending := pending
            notes := notes } ∧
        (d = e.debugger ∨ d = e.debugger.step.2) := by
  cases hhalted : e.machine.halted with
  | true =>
    rw [step_of_halted hhalted]
    exact ⟨_, _, _, _, rfl, .inl rfl⟩
  | false =>
    have hrun : ¬ { e with paused := false }.machine.halted = true := Bool.eq_false_iff.mp hhalted
    unfold step
    dsimp only
    rw [if_neg hrun]
    generalize e.debugger.step = result
    obtain ⟨answer, d⟩ := result
    cases answer with
    | ok record => exact ⟨_, _, _, _, rfl, .inr rfl⟩
    | error err =>
      cases err with
      | fault f => exact ⟨_, _, _, _, rfl, .inr rfl⟩
      | mishap m => exact ⟨_, _, _, _, rfl, .inr rfl⟩
      | halted cause => exact ⟨_, _, _, _, rfl, .inr rfl⟩

/-- **The ways in which a step can go**, if it does not come to grief. -/
inductive Stepped (e : Engine) : Prop
  | halted (h : e.machine.halted = true)
      (heq : e.step = (.ok { e with paused := false }.frame, { e with paused := false }.publish))
  | fault (h : e.machine.halt = none) (f : Fault) (d : Debugger)
      (hd : e.debugger.step = (.error (.fault f), d))
      (hhalt : d.target.halt = some f)
      (heq : e.step =
        (.ok ({ e with paused := false, debugger := d }.recordFault f).frame,
          ({ e with paused := false, debugger := d }.recordFault f).publish))
  | answer (h : e.machine.halt = none) (record : Option Snapshot) (d : Debugger)
      (hd : e.debugger.step = (.ok record, d)) (hhalt : d.target.halt = none)
      (heq : e.step =
        (.ok { e with paused := false, debugger := d }.frame,
          { e with paused := false, debugger := d }.publish))

theorem WellFormed.stepped (h : e.WellFormed) : e.Stepped := by
  cases hhalted : e.machine.halted with
  | true => exact .halted hhalted (step_of_halted hhalted)
  | false =>
    have hrun : e.machine.halt = none := Machine.halt_of_not_halted hhalted
    have hhalts := e.debugger.halts_step h.target (h.shared.machine ▸ hrun)
    cases hd : e.debugger.step with
    | mk answer d =>
      rw [hd] at hhalts
      cases answer with
      | error err =>
        obtain ⟨f, rfl, hhalt⟩ := hhalts
        exact .fault hrun f d hd hhalt (step_of_fault hhalted hd)
      | ok record => exact .answer hrun record d hd hhalts (step_of_answer hhalted hd)

/-- A step of a well-formed engine gives a frame, also if the machine comes to a halt. -/
theorem WellFormed.step_fst (h : e.WellFormed) : e.step.1 = .ok e.step.2.frame := by
  cases h.stepped with
  | halted _ heq =>
    rw [heq]
    rfl
  | fault _ f d _ _ heq =>
    rw [heq]
    rfl
  | answer _ record d _ _ heq =>
    rw [heq]
    rfl

/-! ## Elementary changes -/

/-- What commands are made of, apart from putting in another machine. -/
inductive Change : Engine → Engine → Prop
  | run {e : Engine} (hidle : e.idle = false) (n : Nat) : Change e (e.runCycles n).2
  | step (e : Engine) : Change e e.step.2
  | tick (e : Engine) : Change e e.tick
  | press (e : Engine) (code : Int) : Change e (e.press code).2
  | release (e : Engine) (code : Int) : Change e (e.release code)
  | start (e : Engine) : Change e e.start
  | carry (e : Engine) (span : Nat) : Change e (e.carried span)
  | breakpoints (e : Engine) (bs : List Breakpoint) :
      Change e (e.mapDebugger fun d => { d with breakpoints := bs })
  /-- What is shown and told, and whether the background run goes on. -/
  | outside (e : Engine) (pending : Option Frame) (latest : Frame) (background : Background)
      (notes : List Note) :
      Change e
        { e with pending := pending, latest := latest, background := background, notes := notes }

/-- Any number of elementary changes. -/
def Course (e e' : Engine) : Prop :=
  Relation.ReflTransGen Change e e'

theorem Change.course (h : Change e e') : Course e e' :=
  .single h

theorem Course.refl (e : Engine) : Course e e :=
  Relation.ReflTransGen.refl

theorem Course.trans {e'' : Engine} (h : Course e e') (h' : Course e' e'') : Course e e'' :=
  Relation.ReflTransGen.trans h h'

/-- Whatever an engine keeps along elementary changes, it keeps along a course of them. -/
theorem Course.induction {P : Engine → Prop} (h : Course e e') (he : P e)
    (hchange : ∀ e e', Change e e' → P e → P e') : P e' := by
  have hcourse : Relation.ReflTransGen Change e e' := h
  induction hcourse with
  | refl => exact he
  | tail hfirst hlast ih => exact hchange _ _ hlast (ih hfirst)

theorem course_publish (e : Engine) : Course e e.publish :=
  (Change.outside e (some e.frame) e.latest e.background e.notes).course

theorem course_tell (e : Engine) (notes : List Note) : Course e (e.tell notes) :=
  (Change.outside e e.pending e.latest e.background (e.notes ++ notes)).course

theorem course_stop (e : Engine) : Course e e.stop := by
  unfold stop
  split
  · exact .refl e
  · exact (Change.outside e e.pending e.latest .none (e.notes ++ [.stopped])).course

theorem course_ticks (e : Engine) (n : Nat) : Course e (e.ticks n) := by
  induction n generalizing e with
  | zero => exact .refl e
  | succ n ih => exact (Change.tick e).course.trans (ih e.tick)

theorem course_pass (hidle : e.idle = false) (span : Nat) : Course e (e.pass span).2 := by
  have hcarried : Course e (e.carried span) := (Change.carry e span).course
  have hmid : Course e ((e.carried span).runCycles (e.budget span)).2 :=
    hcarried.trans (Change.run (e := e.carried span) hidle _).course
  rw [pass_eq]
  generalize runCycles _ _ = result at hmid
  obtain ⟨outcome, mid⟩ := result
  cases outcome with
  | error err => exact hmid
  | ok done =>
    dsimp only
    split
    · exact hmid
    · exact hmid.trans (course_ticks mid _)

theorem course_advance (e : Engine) (elapsed : Elapsed) : Course e (e.advance elapsed).2 := by
  cases hidle : e.idle with
  | true =>
    rw [advance_of_idle hidle]
    exact course_publish e
  | false =>
    cases helapsed : elapsed.get with
    | error err =>
      rw [advance_of_not_finite hidle helapsed]
      exact .refl e
    | ok span =>
      have hpass := course_pass hidle span
      unfold advance
      rw [hidle, if_neg Bool.false_ne_true, helapsed]
      dsimp only
      generalize e.pass span = result at hpass
      obtain ⟨outcome, left⟩ := result
      cases outcome with
      | error err => exact hpass
      | ok done => exact hpass.trans (course_publish left)

/-! ## Commands -/

/-- The machine in place when a command begins to have an effect: a machine that is loaded or reset
comes before. -/
def installed (e : Engine) : Command → Machine
  | .load program => (Loading.fromBytes program e.base e.machine.dice).2.toOption.getD e.machine
  | .loadFile files path =>
    (Loading.fromFile files path e.base e.machine.dice).2.toOption.getD e.machine
  | .reset => e.machine.reset
  | _ => e.machine

/-- What another machine in the place of the present one leaves as it is, and what it does not. -/
structure Replaced (e : Engine) (m : Machine) (e' : Engine) : Prop where
  machine : e'.machine = m
  paused : e'.paused = false
  lastError : e'.lastError = none
  toneOn : e'.toneOn = false
  history : e'.debugger.history = e.debugger.history.clear
  stopRequested : e'.debugger.stopRequested = e.debugger.stopRequested
  stopDuring : e'.debugger.stopDuring = e.debugger.stopDuring
  listener : e'.listener = e.listener
  tones : e'.tones = e.tones ++ if e.toneOn && e.listener then [false] else []

theorem Replaced.start {m : Machine} (h : e.Replaced m e') : e.Replaced m e'.start := by
  have hm : e'.start.machine = m := e'.machine_start.trans h.machine
  unfold Engine.start at hm ⊢
  split at hm
  next hrunning =>
    rw [if_pos hrunning]
    exact h
  next hrunning =>
    rw [if_neg hrunning]
    exact { h with machine := hm, paused := rfl }

/-- A listener hears that the tone ends, if it was on. -/
theorem told_eq (e : Engine) (loaded : Option Machine) :
    (if e.toneOn then (e.attached loaded).report [false] else e.attached loaded) =
      { e.attached loaded with
        tones := e.stop.tones ++ if e.toneOn && e.stop.listener then [false] else [] } := by
  have hlistener : (e.attached loaded).listener = e.stop.listener := rfl
  have htones : (e.attached loaded).tones = e.stop.tones := rfl
  cases e.toneOn with
  | false =>
    rw [if_neg Bool.false_ne_true, Bool.false_and, if_neg Bool.false_ne_true, List.append_nil]
    rfl
  | true =>
    rw [if_pos rfl, Bool.true_and]
    unfold report
    rw [hlistener]
    split
    · rfl
    · rw [List.append_nil]
      rfl

theorem replaced (e : Engine) (loaded : Option Machine) :
    e.Replaced (e.successor loaded) (e.replace loaded) := by
  obtain ⟨notes, hstop⟩ := e.stop_eq
  have hdebugger : e.stop.debugger = e.debugger := by rw [hstop]
  have hlistener : e.stop.listener = e.listener := by rw [hstop]
  have htones : e.stop.tones = e.tones := by rw [hstop]
  have hrequested : e.stop.debugger.stopRequested = e.debugger.stopRequested := by rw [hdebugger]
  have hduring : e.stop.debugger.stopDuring = e.debugger.stopDuring := by rw [hdebugger]
  have htold :
      e.Replaced (e.successor loaded)
        (if e.toneOn then (e.attached loaded).report [false] else e.attached loaded) := by
    rw [told_eq]
    exact
      { machine := e.machine_attached loaded
        paused := rfl
        lastError := rfl
        toneOn := rfl
        history := congrArg (fun d : Debugger => d.history.clear) hdebugger
        stopRequested := hrequested
        stopDuring := hduring
        listener := hlistener
        tones := by rw [htones, hlistener] }
  rw [replace_eq_attached]
  dsimp only
  split
  · exact htold.start
  · exact htold

/-- What a machine is replaced by: one that has just been loaded, or itself after a reset. -/
inductive Installs : Option Machine → Prop
  | load {program : List UInt8} {base : Int} {dice : Dice} {m : Machine}
      (h : Machine.load program base dice = .ok m) : Installs (some m)
  | reset : Installs none

namespace Installs

variable {loaded : Option Machine}

theorem halt (h : Installs loaded) (e : Engine) : (e.successor loaded).halt = none := by
  cases h with
  | load hload =>
    obtain ⟨n, hfits, -, -, rfl⟩ := Machine.load_eq_ok hload
    rfl
  | reset => rfl

theorem wellFormed (h : Installs loaded) (hm : e.machine.WellFormed) :
    (e.successor loaded).WellFormed := by
  cases h with
  | load hload => exact Machine.wellFormed_of_load hload
  | reset => exact hm.reset

theorem reachable (h : Installs loaded) (hm : e.machine.Reachable) :
    (e.successor loaded).Reachable := by
  cases h with
  | load hload => exact Machine.reachable_of_load hload
  | reset => exact hm.evolves (e.machine.evolves_after .reset)

end Installs

/-- What a command does if it puts no machine in place, and what it does otherwise. -/
inductive Performs (e : Engine) (c : Command) : Prop
  | course (hm : e.installed c = e.machine) (h : Course e (e.perform c))
  | replace (notes : List Note) (loaded : Option Machine) (hm : e.installed c = e.successor loaded)
      (hloaded : Installs loaded) (h : Course ((e.tell notes).replace loaded) (e.perform c))

/-- Loading puts the machine in place that has been loaded, if there is one. -/
theorem performs_of_takeLoaded {c : Command} {loaded : List Note × Except LoadingError Machine}
    (hm : e.installed c = loaded.2.toOption.getD e.machine)
    (hperform : e.perform c = (e.takeLoaded loaded).2)
    (hloaded : ∀ m, loaded.2 = .ok m → ∃ program base dice,
      Machine.load program base dice = .ok m) :
    e.Performs c := by
  obtain ⟨notes, result⟩ := loaded
  cases result with
  | error err =>
    refine .course hm ?_
    rw [hperform]
    exact course_tell e notes
  | ok m =>
    obtain ⟨program, base, dice, hload⟩ := hloaded m rfl
    refine .replace notes (some m) hm (.load hload) ?_
    rw [hperform]
    exact .refl _

/-- **What a command does.** -/
theorem performs (e : Engine) (c : Command) : e.Performs c := by
  cases c with
  | advance elapsed => exact .course rfl (course_advance e elapsed)
  | step => exact .course rfl (Change.step e).course
  | start => exact .course rfl (Change.start e).course
  | stop => exact .course rfl (course_stop e)
  | load program =>
    refine performs_of_takeLoaded rfl rfl fun m hm => ?_
    exact ⟨_, _, _, Loading.fromBytes_eq_ok hm⟩
  | loadFile files path =>
    refine performs_of_takeLoaded rfl rfl fun m hm => ?_
    obtain ⟨program, hload⟩ := Loading.fromFile_eq_ok hm
    exact ⟨_, _, _, hload⟩
  | reset =>
    refine .replace [] none rfl .reset ?_
    have hsame : e.tell [] = e :=
      congrArg (fun notes => { e with notes := notes }) (List.append_nil e.notes)
    rw [hsame]
    exact course_tell _ _
  | press code => exact .course rfl (Change.press e code).course
  | release code => exact .course rfl (Change.release e code).course
  | add b =>
    refine .course rfl ?_
    show Course e { e with debugger := e.debugger.add b }
    unfold Debugger.add
    split
    · exact .refl e
    · exact (Change.breakpoints e _).course
  | update old new => exact .course rfl (Change.breakpoints e _).course
  | remove b => exact .course rfl (Change.breakpoints e _).course
  | finish =>
    refine .course rfl ?_
    show Course e (if e.running then { e with background := .ended } else e)
    split
    · exact (Change.outside e e.pending e.latest .ended e.notes).course
    · exact .refl e

/-! ## The machine under the debugger -/

theorem WellFormed.change (h : e.WellFormed) (hchange : Change e e') : e'.WellFormed := by
  cases hchange with
  | run hidle n => exact h.runCycles_snd n
  | step => exact h.step
  | tick => exact h.tick
  | press code => exact h.perform (.press code)
  | release code => exact h.perform (.release code)
  | start => exact h.start
  | carry span => exact h.carried span
  | breakpoints bs => exact h.withDebugger h.target rfl
  | outside => exact h.update h.machine rfl rfl rfl rfl

theorem Change.shared (h : Change e e') (hshared : e.Shared) : e'.Shared := by
  cases h with
  | run hidle n => exact hshared.runCycles n
  | step => exact hshared.step
  | tick => exact hshared.tick
  | press code => exact hshared.mapMachine _
  | release code => exact hshared.mapMachine _
  | start => exact hshared.start
  | carry span => exact hshared
  | breakpoints bs => exact hshared
  | outside => exact hshared

/-- Elementary changes take the machine on by events alone. -/
theorem Change.evolves (h : Change e e') (hshared : e.Shared) :
    Machine.Evolves e.machine e'.machine := by
  cases h with
  | run hidle n =>
    have hthen : (e.runCycles n).2.machine = (e.runCycles n).2.debugger.target :=
      (hshared.runCycles n).machine
    obtain ⟨d, paused, lastError, notes, heq, hd⟩ := runCycles_leaves hshared n
    rw [hthen, heq]
    rcases hd with rfl | rfl
    · rw [hshared.machine]
      exact e.debugger.evolves_run n
    · exact e.machine.evolves_run n
  | step =>
    have hthen : e.step.2.machine = e.step.2.debugger.target := hshared.step.machine
    obtain ⟨d, lastError, pending, notes, heq, hd⟩ := e.step_leaves
    rw [hthen, heq, hshared.machine]
    rcases hd with rfl | rfl
    · exact .refl _
    · show Machine.Evolves e.debugger.target e.debugger.step.2.target
      rw [Debugger.step_target]
      exact e.debugger.target.evolves_after .step
  | tick =>
    rw [machine_tick]
    exact e.machine.evolves_after .tick
  | press code =>
    rw [machine_press]
    exact e.machine.evolves_after (.press code)
  | release code =>
    rw [machine_release]
    exact e.machine.evolves_after (.release code)
  | start =>
    rw [machine_start]
    exact .refl _
  | carry => exact .refl _
  | breakpoints bs =>
    rw [e.machine_mapDebugger rfl]
    exact .refl _
  | outside => exact .refl _

theorem Course.evolves (h : Course e e') (hshared : e.Shared) :
    Machine.Evolves e.machine e'.machine := by
  refine And.right (h.induction (P := fun e' => e'.Shared ∧ Machine.Evolves e.machine e'.machine)
    ⟨hshared, .refl _⟩ ?_)
  rintro e' e'' hchange ⟨he, hm⟩
  exact ⟨hchange.shared he, hm.trans (hchange.evolves he)⟩

/-- **After every command** the debugger has the machine that the command has put in place, as far
as events have taken it. -/
theorem perform_evolves (h : e.Shared) (c : Command) :
    Machine.Evolves (e.installed c) (e.perform c).debugger.target := by
  rw [← (h.perform c).machine]
  cases e.performs c with
  | course hm hcourse =>
    rw [hm]
    exact hcourse.evolves h
  | replace notes loaded hm _ hcourse =>
    have hreplaced : ((e.tell notes).replace loaded).machine = e.successor loaded :=
      ((e.tell notes).replaced loaded).machine
    rw [hm, ← hreplaced]
    exact hcourse.evolves (shared_replace _ loaded)

end Chip8.Engine
