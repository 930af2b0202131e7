import Chip8.Proofs.Engine.Shared

/-!
# Where the mark of the debugger comes from

The debugger of an engine marks an address at which the next instruction is not to be stopped.
`Marks` lists where the mark comes from that a command leaves: the command is a start at that
address, or it is an advance that pauses at the breakpoint there, or the mark was there before and
the command executes nothing under the debugger (`Unwatched`). `marks` shows that these are all the
ways, command by command. The debugger marks an address of the machine that it has; that this is the
machine of the engine is what `Shared` says.
-/

namespace Chip8

namespace Debugger

end Debugger

namespace Engine

variable {e : Engine}

/-- Whether a command neither starts the background run nor replaces the machine, and executes no
instruction under the debugger: those are the instructions of single steps, and of advances while
some breakpoint is enabled. -/
def Unwatched (e : Engine) (c : Command) : Prop :=
  ¬ e.Starts c ∧ ¬ e.Replaces c ∧
    ((∀ j, ¬ e.Executes c j) ∨ (∃ elapsed, c = .advance elapsed) ∧ e.debugger.active = false)

/-- Whether an advance comes to the breakpoint before the instruction at an address and
pauses there. -/
structure Hits (e : Engine) (elapsed : Elapsed) (p : Int) : Prop where
  before : e.paused = false
  after : (e.perform (.advance elapsed)).paused = true
  note : (e.perform (.advance elapsed)).notes = e.notes ++ [.breakpointBefore p]
  pc : (e.perform (.advance elapsed)).state.pc = p

/-- Where the mark comes from that a command leaves. -/
inductive Marks (e : Engine) (c : Command) (p : Int) : Prop
  | start (h : e.Starts c) (hpc : (e.perform c).state.pc = p)
      (hpaused : (e.perform c).paused = false)
  | hit (elapsed : Elapsed) (hc : c = .advance elapsed) (h : e.Hits elapsed p)
  | keep (hmark : e.debugger.resumePc = some p) (hrun : e.machine.halted = false)
      (hc : e.Unwatched c)
      (hpaused : (e.perform c).paused = e.paused ∨ c = .step ∧ (e.perform c).paused = false)

/-- Nothing has been executed if nothing has been counted and the machine is not halted. -/
theorem not_executes_of_cycles {c : Command} (hcycles : (e.perform c).state.cycles = e.state.cycles)
    (hrun : (e.perform c).machine.halted = false) (j : Nat) : ¬ e.Executes c j := by
  have hnot : ¬ (e.state.cycles + j < (e.perform c).state.cycles ∨
      e.machine.halted = false ∧ (e.perform c).machine.halted = true ∧
        (e.perform c).state.cycles = e.state.cycles + j) := by
    rintro (hlt | ⟨-, hhalt, -⟩)
    · omega
    · rw [hrun] at hhalt
      cases hhalt
  cases c with
  | advance elapsed => exact hnot
  | step => exact hnot
  | _ => exact id

/-- A command that neither is a start nor replaces the machine does not start anything. -/
theorem not_starts {c : Command} (hc : c ≠ .start) (hreplaces : ¬ e.Replaces c) : ¬ e.Starts c := by
  rintro (⟨h, -⟩ | ⟨h, -⟩)
  · exact hc h
  · exact hreplaces h

theorem marks_advance (h : e.Shared) {elapsed : Elapsed} {p : Int}
    (hmark : (e.perform (.advance elapsed)).debugger.resumePc = some p)
    (hrun : (e.perform (.advance elapsed)).machine.halted = false) :
    e.Marks (.advance elapsed) p := by
  have hadvanced : Advanced e (e.perform (.advance elapsed)) := e.advanced elapsed
  have hstarts : ¬ e.Starts (.advance elapsed) := not_starts (fun h => by cases h) id
  cases hadvanced with
  | idle hticked =>
    rw [hticked.resumePc] at hmark
    have hrun' : e.machine.halted = false := by
      unfold Machine.halted at hrun ⊢
      rwa [hticked.halt] at hrun
    exact .keep hmark hrun' ⟨hstarts, id, .inl (not_executes_of_cycles hticked.cycles hrun)⟩
      (.inl hticked.paused)
  | unwatched hidle hactive hresume hpaused hbackground =>
    rw [hresume] at hmark
    have hrun' := (Bool.or_eq_false_iff.mp hidle).1
    exact .keep hmark hrun' ⟨hstarts, id, .inr ⟨⟨elapsed, rfl⟩, hactive⟩⟩ (.inl hpaused)
  | @watched mid n k r hidle hends hran hticks =>
    obtain ⟨hrun', hgoes⟩ := Bool.or_eq_false_iff.mp hidle
    rw [hticks.resumePc, hran.debugger] at hmark
    have hpaused := hticks.paused.trans hran.paused
    have hmid := h.machine_ran hran
    rcases hends.resumePc_cases hmark with ⟨rfl, hpc⟩ | ⟨rfl, hkept, hnot⟩
    · -- The run has ended at a breakpoint before an instruction, and the pause is on from now.
      refine .hit elapsed rfl ⟨hgoes, hpaused.trans (Bool.or_true _),
        hticks.notes.trans (hran.notes p rfl), ?_⟩
      rw [hticks.pc]
      show mid.machine.state.pc = p
      rw [hmid]
      exact hpc
    · -- The mark was there before: the run has ended at once, so nothing has been counted.
      have hcycles : (e.perform (.advance elapsed)).state.cycles = e.state.cycles := by
        rw [hticks.cycles]
        show mid.machine.state.cycles = e.machine.state.cycles
        rw [hmid, hends.counts.1, h.machine]
        exact Int.add_zero _
      refine .keep hkept hrun' ⟨hstarts, id, .inl (not_executes_of_cycles hcycles hrun)⟩ (.inl ?_)
      rw [hpaused, hnot, Bool.or_false]

/-- A single step is one of the debugger, and it takes a pause back. -/
theorem step_of_running (h : e.machine.halted = false) :
    e.step.2.debugger = e.debugger.step.2 ∧ e.step.2.paused = false := by
  have hreleased : { e with paused := false }.machine.halted = false := h
  unfold Engine.step
  dsimp only
  rw [if_neg (Bool.eq_false_iff.mp hreleased)]
  generalize e.debugger.step = result
  obtain ⟨outcome, d⟩ := result
  cases outcome with
  | ok snap? => exact ⟨rfl, rfl⟩
  | error err =>
    cases err with
    | fault f => exact ⟨rfl, rfl⟩
    | halted cause => exact ⟨rfl, rfl⟩
    | mishap err => exact ⟨rfl, rfl⟩

theorem marks_step (h : e.Shared) {p : Int} (hmark : (e.perform .step).debugger.resumePc = some p)
    (hrun : (e.perform .step).machine.halted = false) : e.Marks .step p := by
  have hstarts : ¬ e.Starts .step := not_starts (fun h => by cases h) id
  cases hhalt : e.machine.halted with
  | true =>
    have hstep : e.step = (.ok { e with paused := false }.frame,
        { e with paused := false }.publish) := if_pos hhalt
    have hstill : e.step.2.machine.halted = true := by
      rw [hstep]
      exact hhalt
    cases hstill.symm.trans hrun
  | false =>
    obtain ⟨hdebugger, hpaused⟩ := step_of_running hhalt
    -- Steps that fail and steps that wait for a key keep the mark; both are settled by this.
    have hkeep : ∀ d, e.debugger.step.2 = d → d.resumePc = e.debugger.resumePc →
        d.target.state.cycles = e.debugger.target.state.cycles → e.Marks .step p := by
      intro d hd hsame hcycles
      have hd' : (e.perform .step).debugger = d := hdebugger.trans hd
      rw [hd', hsame] at hmark
      have hcycles' : (e.perform .step).state.cycles = e.state.cycles := by
        show (e.perform .step).machine.state.cycles = e.machine.state.cycles
        rw [(h.perform .step).machine, hd', h.machine]
        exact hcycles
      exact .keep hmark hhalt ⟨hstarts, id, .inl (not_executes_of_cycles hcycles' hrun)⟩
        (.inr ⟨rfl, hpaused⟩)
    cases hstep : e.debugger.target.step.1 with
    | error err =>
      exact hkeep _ (congrArg Prod.snd (Debugger.step_of_error hstep)) rfl
        (Machine.step_failed hstep)
    | ok snap? =>
      cases snap? with
      | none => exact hkeep _ (congrArg Prod.snd (Debugger.step_of_awaitingKey hstep)) rfl rfl
      | some snap =>
        -- A step that makes a record takes the mark away, so there is none to explain.
        have hd' : (e.perform .step).debugger = e.debugger.stepped snap :=
          hdebugger.trans (congrArg Prod.snd (Debugger.step_of_snapshot hstep))
        rw [hd'] at hmark
        cases hmark

/-- A start that takes effect marks the counter and takes a pause back. -/
theorem start_of_not_running (h : e.running = false) :
    e.start.debugger = e.debugger.resume ∧ e.start.paused = false := by
  unfold start
  rw [if_neg (Bool.eq_false_iff.mp h)]
  exact ⟨rfl, rfl⟩

/-- Stopping leaves no background run, and changes nothing else but the log. -/
theorem stop_keeps (e : Engine) :
    e.stop.debugger = e.debugger ∧ e.stop.paused = e.paused ∧ e.stop.background = .none := by
  obtain ⟨notes, hstop⟩ := e.stop_eq
  rw [hstop]
  exact ⟨rfl, rfl, rfl⟩

/-- Replacing the machine takes the mark away; if the background run went on, it is
started again. -/
theorem replace_cases (e : Engine) (loaded : Option Machine) :
    (e.replace loaded).paused = false ∧
      if e.running then (e.replace loaded).debugger.resumePc = some (e.replace loaded).state.pc
      else (e.replace loaded).debugger.resumePc = none := by
  have hshared := e.shared_replace loaded
  have hticked : Ticked (e.attached loaded)
      (if e.toneOn then (e.attached loaded).report [false] else e.attached loaded) := by
    split
    · exact ticked_report _ _
    · exact .refl _
  rw [replace_eq_attached] at hshared ⊢
  dsimp only at hshared ⊢
  generalize (if e.toneOn then (e.attached loaded).report [false] else e.attached loaded) =
    told at hshared hticked ⊢
  have hbackground : told.background = .none := hticked.background.trans (stop_keeps e).2.2
  have hrunning : told.running = false := by
    unfold running
    rw [hbackground]
    rfl
  cases hgoes : e.running with
  | true =>
    obtain ⟨hd, hp⟩ := start_of_not_running hrunning
    rw [hgoes, if_pos rfl] at hshared
    rw [if_pos rfl, if_pos rfl]
    refine ⟨hp, ?_⟩
    show told.start.debugger.resumePc = some told.start.machine.state.pc
    rw [hshared.machine, hd]
    rfl
  | false => exact ⟨hticked.paused, hticked.resumePc⟩

/-- A command that replaces the machine leaves a mark only by a start. -/
theorem marks_of_replace {c : Command} {p : Int} (before : Engine) (loaded : Option Machine)
    (h : e.Replaces c) (hrunning : before.running = e.running)
    (hd : (e.perform c).debugger = (before.replace loaded).debugger)
    (hm : (e.perform c).machine = (before.replace loaded).machine)
    (hpaused : (e.perform c).paused = (before.replace loaded).paused)
    (hmark : (e.perform c).debugger.resumePc = some p) : e.Marks c p := by
  obtain ⟨hfree, hcases⟩ := before.replace_cases loaded
  unfold state at hcases
  rw [← hd, ← hm] at hcases
  cases hrun : e.running with
  | true =>
    -- The background run has been started again, which has set the mark anew.
    rw [hrunning.trans hrun, if_pos rfl, hmark] at hcases
    exact .start (.inr ⟨h, hrun⟩) (Option.some.inj hcases).symm (hpaused.trans hfree)
  | false =>
    rw [hrunning.trans hrun, if_neg Bool.false_ne_true, hmark] at hcases
    cases hcases

/-- A command that changes neither the mark nor the count, and neither halts the machine
nor pauses. -/
theorem marks_of_same {c : Command} {p : Int} (hstarts : ¬ e.Starts c) (hreplaces : ¬ e.Replaces c)
    (hresume : (e.perform c).debugger.resumePc = e.debugger.resumePc)
    (hcycles : (e.perform c).state.cycles = e.state.cycles)
    (hhalt : (e.perform c).machine.halt = e.machine.halt)
    (hpaused : (e.perform c).paused = e.paused) (hmark : (e.perform c).debugger.resumePc = some p)
    (hrun : (e.perform c).machine.halted = false) :
    e.Marks c p := by
  have hrun' : e.machine.halted = false := by
    unfold Machine.halted at hrun ⊢
    rwa [hhalt] at hrun
  exact .keep (hresume.symm.trans hmark) hrun'
    ⟨hstarts, hreplaces, .inl (not_executes_of_cycles hcycles hrun)⟩ (.inl hpaused)

/-- A command that does not change the debugger at all. -/
theorem marks_of_debugger (h : e.Shared) {c : Command} {p : Int} (hstarts : ¬ e.Starts c)
    (hreplaces : ¬ e.Replaces c) (hd : (e.perform c).debugger = e.debugger)
    (hpaused : (e.perform c).paused = e.paused) (hmark : (e.perform c).debugger.resumePc = some p)
    (hrun : (e.perform c).machine.halted = false) :
    e.Marks c p := by
  have hm : (e.perform c).machine = e.machine := by
    rw [(h.perform c).machine, hd, h.machine]
  exact marks_of_same hstarts hreplaces (congrArg Debugger.resumePc hd)
    (congrArg (·.state.cycles) hm)
    (congrArg (·.halt) hm) hpaused hmark hrun

/-- Loading leaves a mark only by a start, and if it fails it changes nothing. -/
theorem marks_of_takeLoaded (h : e.Shared) {c : Command}
    {loaded : List Note × Except LoadingError Machine} {p : Int} (hc : c ≠ .start)
    (hreplaces : e.Replaces c ↔ (e.takeLoaded loaded).1 = .ok ())
    (hperform : e.perform c = (e.takeLoaded loaded).2)
    (hmark : (e.perform c).debugger.resumePc = some p)
    (hrun : (e.perform c).machine.halted = false) : e.Marks c p := by
  obtain ⟨notes, result⟩ := loaded
  cases result with
  | ok m =>
    exact marks_of_replace (e.tell notes) (some m) (hreplaces.mpr rfl) rfl
      (congrArg Engine.debugger hperform)
      (congrArg Engine.machine hperform) (congrArg Engine.paused hperform) hmark
  | error err =>
    have hnot : ¬ e.Replaces c := fun hc => by cases hreplaces.mp hc
    have hd : (e.perform c).debugger = e.debugger := by
      rw [hperform]
      rfl
    have hpaused : (e.perform c).paused = e.paused := by
      rw [hperform]
      rfl
    exact marks_of_debugger h (not_starts hc hnot) hnot hd hpaused hmark hrun

/-- **What a single command does to the mark.** -/
theorem marks (h : e.Shared) {c : Command} {p : Int}
    (hmark : (e.perform c).debugger.resumePc = some p)
    (hrun : (e.perform c).machine.halted = false) : e.Marks c p := by
  cases c with
  | advance elapsed => exact marks_advance h hmark hrun
  | step => exact marks_step h hmark hrun
  | start =>
    cases hrunning : e.running with
    | true =>
      have hstart : e.start = e := if_pos hrunning
      have hstarts : ¬ e.Starts .start := by
        rintro (⟨-, h⟩ | ⟨h, -⟩)
        · cases hrunning.symm.trans h
        · exact h
      exact marks_of_debugger h hstarts id (congrArg Engine.debugger hstart)
        (congrArg Engine.paused hstart) hmark hrun
    | false =>
      obtain ⟨hd, hpaused⟩ := start_of_not_running hrunning
      refine .start (.inl ⟨rfl, hrunning⟩) ?_ hpaused
      have hmark' : e.start.debugger.resumePc = some p := hmark
      show e.start.machine.state.pc = p
      rw [h.start.machine]
      rw [hd] at hmark' ⊢
      exact Option.some.inj hmark'
  | stop =>
    obtain ⟨hd, hpaused, -⟩ := stop_keeps e
    exact marks_of_debugger h (not_starts (fun h => by cases h) id) id hd hpaused hmark hrun
  | load program => exact marks_of_takeLoaded h (fun h => by cases h) Iff.rfl rfl hmark hrun
  | loadFile files path => exact marks_of_takeLoaded h (fun h => by cases h) Iff.rfl rfl hmark hrun
  | reset => exact marks_of_replace e none trivial rfl rfl rfl rfl hmark
  | press code =>
    have hm : (e.perform (.press code)).machine = (e.machine.press code).2 := e.machine_press code
    have hcycles : (e.perform (.press code)).state.cycles = e.state.cycles :=
      (congrArg (·.state.cycles) hm).trans (State.press_cycles _ code)
    exact marks_of_same (not_starts (fun h => by cases h) id) id rfl hcycles (congrArg (·.halt) hm)
      rfl hmark hrun
  | release code =>
    have hm : (e.perform (.release code)).machine = e.machine.release code := e.machine_release code
    have hcycles : (e.perform (.release code)).state.cycles = e.state.cycles :=
      (congrArg (·.state.cycles) hm).trans (State.release_cycles _ code)
    exact marks_of_same (not_starts (fun h => by cases h) id) id rfl hcycles (congrArg (·.halt) hm)
      rfl hmark hrun
  | add b =>
    obtain ⟨hresume, htarget⟩ := e.debugger.add_keeps b
    have hm : (e.perform (.add b)).machine = e.machine := e.machine_mapDebugger htarget
    exact marks_of_same (not_starts (fun h => by cases h) id) id hresume
      (congrArg (·.state.cycles) hm)
      (congrArg (·.halt) hm) rfl hmark hrun
  | update old new =>
    have hm : (e.perform (.update old new)).machine = e.machine := e.machine_mapDebugger rfl
    exact marks_of_same (not_starts (fun h => by cases h) id) id rfl (congrArg (·.state.cycles) hm)
      (congrArg (·.halt) hm) rfl hmark hrun
  | remove b =>
    have hm : (e.perform (.remove b)).machine = e.machine := e.machine_mapDebugger rfl
    exact marks_of_same (not_starts (fun h => by cases h) id) id rfl (congrArg (·.state.cycles) hm)
      (congrArg (·.halt) hm) rfl hmark hrun
  | finish =>
    have hfinish : (e.perform .finish).debugger = e.debugger ∧
        (e.perform .finish).paused = e.paused := by
      show (if e.running then _ else _ : Engine).debugger = _ ∧
        (if e.running then _ else _ : Engine).paused = _
      split
      · exact ⟨rfl, rfl⟩
      · exact ⟨rfl, rfl⟩
    exact marks_of_debugger h (not_starts (fun h => by cases h) id) id hfinish.1
      hfinish.2 hmark hrun

end Engine

end Chip8
