import Chip8.Proofs.Engine.Change

/-!
# The frame that is taken next

A frame is published whenever the machine may have come to a halt or another machine has been put in
its place. So the frame that is taken next always shows whether the machine is halted (`Prompt`),
which every command preserves (`Prompt.perform`). A halted machine stays halted, with the same fault
kept, until it is replaced (`halted_perform`).
-/

namespace Chip8.Engine

variable {e e' : Engine}

/-- The frame that is taken next. -/
def upcoming (e : Engine) : Frame :=
  e.takeFrame.1

/-- Whether the frame taken next shows whether the machine is halted. -/
def Prompt (e : Engine) : Prop :=
  e.upcoming.halted = e.machine.halted

theorem prompt_create (settings : Settings) (m : Machine) (listener : Bool) :
    (create settings m listener).Prompt :=
  rfl

theorem prompt_publish (e : Engine) : e.publish.Prompt :=
  rfl

namespace Prompt

/-- What changes neither the frame to be taken nor the halt. -/
theorem of_machine (h : e.Prompt) (hframe : e'.upcoming = e.upcoming)
    (hhalted : e'.machine.halted = e.machine.halted) : e'.Prompt := by
  unfold Prompt
  rw [hframe, hhalted]
  exact h

theorem start (h : e.Prompt) : e.start.Prompt := by
  refine h.of_machine ?_ (congrArg Machine.halted e.machine_start)
  unfold Engine.start
  split
  · rfl
  · rfl

theorem stop (h : e.Prompt) : e.stop.Prompt := by
  unfold Engine.stop
  split
  · exact h
  · exact h

theorem replace (e : Engine) (loaded : Option Machine) : (e.replace loaded).Prompt := by
  have htold : (if e.toneOn then (e.attached loaded).report [false]
      else e.attached loaded).Prompt := by
    rw [told_eq]
    exact prompt_publish _
  rw [replace_eq_attached]
  dsimp only
  split
  · exact htold.start
  · exact htold

theorem takeLoaded (h : e.Prompt) (loaded : List Note × Except LoadingError Machine) :
    (e.takeLoaded loaded).2.Prompt := by
  unfold Engine.takeLoaded
  dsimp only
  split
  · exact h
  · exact replace _ _

/-- Instructions and ticks are followed by a frame. -/
theorem advance (h : e.Prompt) (hwf : e.WellFormed) (elapsed : Elapsed) :
    (e.advance elapsed).2.Prompt := by
  cases hidle : e.idle with
  | true =>
    rw [advance_of_idle hidle]
    exact prompt_publish e
  | false =>
    cases elapsed with
    | nanoseconds span =>
      rw [advance_of_ok hidle (pass_of_ok (hwf.runCycles_carried hidle span))]
      exact prompt_publish _
    | notANumber =>
      rw [advance_of_not_finite hidle rfl]
      exact h
    | infinite =>
      rw [advance_of_not_finite hidle rfl]
      exact h

theorem step (hwf : e.WellFormed) : e.step.2.Prompt := by
  cases hwf.stepped with
  | halted _ heq =>
    rw [heq]
    exact prompt_publish _
  | fault _ f d _ _ heq =>
    rw [heq]
    exact prompt_publish _
  | answer _ record d _ _ heq =>
    rw [heq]
    exact prompt_publish _

/-- **Every command** leaves an engine whose next frame shows whether the machine is halted. -/
theorem perform (h : e.Prompt) (hwf : e.WellFormed) (c : Command) : (e.perform c).Prompt := by
  cases c with
  | advance elapsed => exact h.advance hwf elapsed
  | step => exact step hwf
  | start => exact h.start
  | stop => exact h.stop
  | load program => exact h.takeLoaded _
  | loadFile files path => exact h.takeLoaded _
  | reset => exact replace e _
  | press code =>
    exact h.of_machine rfl ((congrArg Machine.halted (e.machine_press code)).trans rfl)
  | release code =>
    exact h.of_machine rfl ((congrArg Machine.halted (e.machine_release code)).trans rfl)
  | add b =>
    have htarget := (e.debugger.add_keeps b).2
    exact h.of_machine rfl (congrArg Machine.halted (e.machine_mapDebugger htarget))
  | update old new => exact h.of_machine rfl (congrArg Machine.halted (e.machine_mapDebugger rfl))
  | remove b => exact h.of_machine rfl (congrArg Machine.halted (e.machine_mapDebugger rfl))
  | finish =>
    show Prompt (if e.running then { e with background := .ended } else e)
    split
    · exact h
    · exact h

end Prompt

/-! ## Halted machines -/

theorem halted_takeLoaded {loaded : List Note × Except LoadingError Machine}
    (hfailed : ¬ (e.takeLoaded loaded).1 = .ok ()) (h : e.machine.halted = true) :
    (e.takeLoaded loaded).2.machine.halted = true ∧
    (e.takeLoaded loaded).2.lastError = e.lastError := by
  obtain ⟨notes, result⟩ := loaded
  cases result with
  | error err => exact ⟨h, rfl⟩
  | ok m => exact absurd rfl hfailed

/-- **Nothing but another machine** ends a halt. -/
theorem halted_perform {c : Command} (hc : ¬ e.Replaces c) (h : e.machine.halted = true) :
    (e.perform c).machine.halted = true ∧ (e.perform c).lastError = e.lastError := by
  cases c with
  | advance elapsed =>
    have hidle : e.idle = true := Bool.or_eq_true_iff.mpr (.inl h)
    have hadvance : e.perform (.advance elapsed) = e.publish :=
      congrArg Prod.snd (advance_of_idle hidle elapsed)
    rw [hadvance]
    exact ⟨h, rfl⟩
  | step =>
    have hstep : e.perform .step = { e with paused := false }.publish :=
      congrArg Prod.snd (step_of_halted h)
    rw [hstep]
    exact ⟨h, rfl⟩
  | start => exact ⟨(congrArg Machine.halted e.machine_start).trans h, e.lastError_start⟩
  | stop =>
    obtain ⟨notes, hstop⟩ := e.stop_eq
    show e.stop.machine.halted = true ∧ e.stop.lastError = e.lastError
    rw [hstop]
    exact ⟨h, rfl⟩
  | load program => exact halted_takeLoaded hc h
  | loadFile files path => exact halted_takeLoaded hc h
  | reset => exact absurd trivial hc
  | press code => exact ⟨(congrArg Machine.halted (e.machine_press code)).trans h, rfl⟩
  | release code => exact ⟨(congrArg Machine.halted (e.machine_release code)).trans h, rfl⟩
  | add b =>
    have htarget := (e.debugger.add_keeps b).2
    exact ⟨(congrArg Machine.halted (e.machine_mapDebugger htarget)).trans h, rfl⟩
  | update old new => exact ⟨(congrArg Machine.halted (e.machine_mapDebugger rfl)).trans h, rfl⟩
  | remove b => exact ⟨(congrArg Machine.halted (e.machine_mapDebugger rfl)).trans h, rfl⟩
  | finish =>
    unfold perform
    dsimp only
    split
    · exact ⟨h, rfl⟩
    · exact ⟨h, rfl⟩

end Chip8.Engine
