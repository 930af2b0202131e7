import Chip8.Proofs.Engine.Span

/-!
# The debugger has the machine of the engine

An engine refers to a machine, and so does its debugger. `Shared` says that both refer to the
same one. An engine is made so; whatever changes the machine then changes it for both, and only
while another machine is put in does the engine refer to one that the debugger does not know,
until that is handed over (`shared_replace`). So every command leaves an engine shared that was
so before (`Shared.perform`), and any number of them do (`Shared.performAll`), also with
machines that are not well-formed. As long as it holds, the machine of the engine can be read
off the debugger (`Shared.machine`).
-/

namespace Chip8.Engine

variable {e e' : Engine}

/-- The debugger refers to the machine of the engine, and not to another one. -/
def Shared (e : Engine) : Prop :=
  e.ref = .shared

theorem shared_create (settings : Settings) (m : Machine) (listener : Bool) :
    (create settings m listener).Shared :=
  rfl

namespace Shared

/-- Engine and debugger see the same machine. -/
theorem machine (h : e.Shared) : e.machine = e.debugger.target := by
  have href : e.ref = .shared := h
  unfold Engine.machine
  rw [href]
  rfl

/-- A change of the machine is one of the machine under the debugger. -/
theorem mapMachine_eq (h : e.Shared) (f : Machine → Machine) :
    e.mapMachine f = e.mapDebugger (·.mapTarget f) := by
  have href : e.ref = .shared := h
  have hmap : e.mapMachine f = { e with ref := .shared, debugger := e.debugger.mapTarget f } := by
    unfold Engine.mapMachine
    rw [href]
    rfl
  rw [hmap, ← href]
  rfl

/-- Everything but putting in another machine leaves the reference alone. -/
theorem of_ref (h : e.Shared) (href : e'.ref = e.ref) : e'.Shared :=
  href.trans h

/-- What a run of the debugger leaves is the machine of the engine. -/
theorem machine_ran (h : e.Shared) {k : Nat} {r : RunEnd} (hran : e.Ran k r e') :
    e'.machine = (e.debugger.endedBefore k r).target := by
  rw [(h.of_ref hran.ref).machine, hran.debugger]

theorem mapMachine (h : e.Shared) (f : Machine → Machine) : (e.mapMachine f).Shared := by
  rw [h.mapMachine_eq]
  exact h

theorem report (h : e.Shared) (tones : List Bool) : (e.report tones).Shared := by
  unfold Engine.report
  split
  · exact h
  · exact h

theorem tick (h : e.Shared) : e.tick.Shared := by
  rw [tick_eq]
  exact h.mapMachine Machine.tick

theorem ticks (h : e.Shared) (n : Nat) : (e.ticks n).Shared := by
  induction n generalizing e with
  | zero => exact h
  | succ n ih => exact ih h.tick

theorem handle (h : e.Shared) (err : CycleError) : (e.handle err).2.Shared := by
  obtain ⟨lastError, notes, hleft⟩ := e.handle_leaves err
  rw [hleft]
  exact h

theorem runCycles (h : e.Shared) (n : Nat) : (e.runCycles n).2.Shared := by
  unfold Engine.runCycles
  split
  · split
    next err d _ => exact Shared.handle (e := { e with debugger := d }) h err
    next => exact h
  · split
    next err m _ => exact (h.mapMachine fun _ => m).handle err
    next m _ => exact h.mapMachine fun _ => m

theorem pass (h : e.Shared) (span : Nat) : (e.pass span).2.Shared := by
  have hmid := Shared.runCycles (e := e.carried span) h (e.budget span)
  rw [pass_eq]
  generalize Engine.runCycles _ _ = result at hmid
  split
  next => exact hmid
  next =>
    dsimp only
    split
    · exact hmid
    · exact hmid.ticks _

theorem advance (h : e.Shared) (elapsed : Elapsed) : (e.advance elapsed).2.Shared := by
  unfold Engine.advance
  split
  · exact h
  · split
    next => exact h
    next span _ =>
      have hpass := h.pass span
      generalize e.pass span = result at hpass
      split
      next => exact hpass
      next => exact hpass

theorem step (h : e.Shared) : e.step.2.Shared := by
  unfold Engine.step
  dsimp only
  split
  · exact h
  · generalize Debugger.step _ = result
    obtain ⟨outcome, d⟩ := result
    cases outcome with
    | ok record => exact h
    | error err =>
      have hhandled := Shared.handle (e := { e with paused := false, debugger := d }) h err
      dsimp only
      generalize Engine.handle _ _ = handled at hhandled
      split
      next => exact hhandled
      next => exact hhandled

theorem start (h : e.Shared) : e.start.Shared := by
  unfold Engine.start
  split
  · exact h
  · exact h

end Shared

/-- **Another machine is handed to the debugger**, whatever the two had before. -/
theorem shared_replace (e : Engine) (loaded : Option Machine) : (e.replace loaded).Shared := by
  have hattached : (e.attached loaded).Shared := rfl
  have htold : (if e.toneOn then (e.attached loaded).report [false]
      else e.attached loaded : Engine).Shared := by
    split
    · exact hattached.report _
    · exact hattached
  rw [replace_eq_attached]
  dsimp only
  split
  · exact htold.start
  · exact htold

namespace Shared

theorem takeLoaded (h : e.Shared) (loaded : List Note × Except LoadingError Machine) :
    (e.takeLoaded loaded).2.Shared := by
  unfold Engine.takeLoaded
  dsimp only
  split
  next => exact h
  next m _ => exact shared_replace _ (some m)

/-- **One command** leaves a shared machine shared. -/
theorem perform (h : e.Shared) (c : Command) : (e.perform c).Shared := by
  cases c with
  | advance elapsed => exact h.advance elapsed
  | step => exact h.step
  | start => exact h.start
  | stop =>
    obtain ⟨notes, hstop⟩ := e.stop_eq
    show e.stop.Shared
    rw [hstop]
    exact h
  | load program => exact h.takeLoaded _
  | loadFile files path => exact h.takeLoaded _
  | reset => exact shared_replace e none
  | press code => exact h.mapMachine _
  | release code => exact h.mapMachine _
  | add b => exact h
  | update old new => exact h
  | remove b => exact h
  | finish =>
    show (if e.running then { e with background := .ended } else e : Engine).Shared
    split
    · exact h
    · exact h

/-- Any number of commands do. -/
theorem performAll (h : e.Shared) (commands : List Command) : (e.performAll commands).Shared := by
  induction commands generalizing e with
  | nil => exact h
  | cons c rest ih => exact ih (h.perform c)

end Shared

end Chip8.Engine
