import Chip8.Proofs.Engine.Change

/-!
# Sessions with an engine

A `Request` is anything that can be asked of an engine: a command, a whole background run along a
clock, or a look at it. `serveAll` is the engine after a session of them, and `replies` is what it
has given back. Since requests are made of commands, whatever an engine keeps along elementary
changes and when its machine is replaced, it keeps along every session (`serveAll_induction`), and
all engines that are made for a machine have what they begin with and keep (`MadeFor.induction`). So
the engines that come up are well-formed, and their machines are ones that come up after loading.
-/

namespace Chip8.Engine

/-- What can be asked of an engine, with everything that only looks at it. -/
inductive Request where
  | command (c : Command)
  /-- A background run along the readings of a clock. -/
  | runAlong (clock : List Float)
  | takeFrame
  | inspect (lines : Int)
  | history
  | breakpoints
  | lastError
  | paused
  | running

/-- What an engine gives back. -/
inductive Reply where
  | advanced (result : Except AdvanceError Frame)
  | stepped (result : Except RunError Frame)
  | loaded (result : Except LoadingError Unit)
  | pressed (result : Except SlotError Unit)
  /-- The number of readings that a background run has left. -/
  | ran (left : Nat)
  | frame (f : Frame)
  | inspection (result : Except MemoryError Inspection)
  | history (snaps : List Snapshot)
  | breakpoints (bs : List Breakpoint)
  | lastError (fault : Option Fault)
  | paused (paused : Bool)
  | running (running : Bool)
  | done

variable {e e' : Engine}

/-- What a request leaves of an engine. -/
def serve (e : Engine) : Request → Engine
  | .command c => e.perform c
  | .runAlong clock => (e.runAlong clock).2
  | .takeFrame => e.takeFrame.2
  | _ => e

/-- What a session leaves of an engine. -/
def serveAll (e : Engine) (requests : List Request) : Engine :=
  requests.foldl serve e

/-- What an engine gives back for a request. -/
def reply (e : Engine) : Request → Reply
  | .command (.advance elapsed) => .advanced (e.advance elapsed).1
  | .command .step => .stepped e.step.1
  | .command (.load program) => .loaded (e.load program).1
  | .command (.loadFile files path) => .loaded (e.loadFile files path).1
  | .command (.press code) => .pressed (e.press code).1
  | .command _ => .done
  | .runAlong clock => .ran (e.runAlong clock).1
  | .takeFrame => .frame e.takeFrame.1
  | .inspect lines => .inspection (e.inspect lines)
  | .history => .history e.debugger.history.items
  | .breakpoints => .breakpoints e.debugger.breakpoints
  | .lastError => .lastError e.lastError
  | .paused => .paused e.paused
  | .running => .running e.running

/-- What an engine gives back along a session. -/
def replies (e : Engine) : List Request → List Reply
  | [] => []
  | request :: rest => e.reply request :: (e.serve request).replies rest

/-- An engine for a machine, with an address of its own at which programs are loaded. -/
def build (settings : Settings) (base : Int) (m : Machine) (listener : Bool) : Engine :=
  { create settings m listener with base := base }

/-- The engines that come up when an engine is made for a machine. -/
def MadeFor (m : Machine) (e : Engine) : Prop :=
  ∃ settings base listener requests, e = (build settings base m listener).serveAll requests

/-- The engines that come up at all. -/
def Reachable (e : Engine) : Prop :=
  ∃ m, m.Reachable ∧ MadeFor m e

/-- **Whatever an engine keeps along elementary changes**, and when its machine is replaced, it
keeps along every session. -/
theorem serveAll_induction {P : Engine → Prop} (he : P e)
    (hchange : ∀ e e', Change e e' → P e → P e')
    (hreplace : ∀ e loaded, Installs loaded → P e → P (e.replace loaded))
    (requests : List Request) :
    P (e.serveAll requests) := by
  have hcourse : ∀ {e e'}, P e → Course e e' → P e' := fun he h => h.induction he hchange
  have hperform : ∀ {e} c, P e → P (e.perform c) := by
    intro e c he
    cases e.performs c with
    | course _ h => exact hcourse he h
    | replace notes loaded _ hloaded h =>
      exact hcourse (hreplace (e.tell notes) loaded hloaded (hcourse he (course_tell e notes))) h
  -- Background runs are sequences of commands, so these come before the requests.
  have hperformAll : ∀ {e} commands, P e → P (e.performAll commands) := by
    intro e commands he
    induction commands generalizing e with
    | nil => exact he
    | cons c rest ih => exact ih (hperform c he)
  unfold serveAll
  induction requests generalizing e with
  | nil => exact he
  | cons request rest ih =>
    refine ih ?_
    cases request with
    | command c => exact hperform c he
    | runAlong clock =>
      obtain ⟨commands, hcommands⟩ := e.runAlong_eq_performAll clock
      show P (e.runAlong clock).2
      rw [hcommands]
      exact hperformAll commands he
    | takeFrame =>
      exact hchange _ _ (Change.outside e none (e.pending.getD e.latest) e.background e.notes) he
    | _ => exact he

/-! ## Engines that come up -/

/-- What engines begin with and keep, all of them have that are made for a machine. Since they begin
with a debugger for the same machine, it only has to be kept as long as they share it. -/
theorem MadeFor.induction {m : Machine} {P : Engine → Prop} (h : MadeFor m e)
    (hbuild : ∀ settings base listener, P (build settings base m listener))
    (hchange : ∀ e e', e.Shared → Change e e' → P e → P e')
    (hreplace : ∀ e loaded, e.Shared → Installs loaded → P e → P (e.replace loaded)) : P e := by
  obtain ⟨settings, base, listener, requests, rfl⟩ := h
  refine And.right (serveAll_induction (P := fun e => e.Shared ∧ P e)
    (e := build settings base m listener) ⟨rfl, hbuild settings base listener⟩ ?_ ?_ requests)
  · rintro e e' hstep ⟨hshared, he⟩
    exact ⟨hstep.shared hshared, hchange e e' hshared hstep he⟩
  · rintro e loaded hloaded ⟨hshared, he⟩
    exact ⟨shared_replace e loaded, hreplace e loaded hshared hloaded he⟩

theorem MadeFor.wellFormed {m : Machine} (hm : m.WellFormed) (h : MadeFor m e) : e.WellFormed := by
  refine h.induction (fun settings base listener => ?_) (fun _ _ _ hchange he => he.change hchange)
    fun _ _ _ hloaded he => he.replace (hloaded.wellFormed he.machine)
  have hcreated := wellFormed_create hm settings listener
  exact hcreated.update hcreated.machine rfl rfl rfl rfl

theorem MadeFor.machine_reachable {m : Machine} (hm : m.Reachable) (h : MadeFor m e) :
    e.machine.Reachable := by
  refine h.induction (P := fun e => e.machine.Reachable) (fun _ _ _ => hm)
    (fun _ _ hshared hchange he => he.evolves (hchange.evolves hshared)) ?_
  intro e loaded _ hloaded he
  rw [(e.replaced loaded).machine]
  exact hloaded.reachable he

theorem Reachable.wellFormed (h : e.Reachable) : e.WellFormed := by
  obtain ⟨m, hm, hmade⟩ := h
  exact hmade.wellFormed hm.wellFormed

theorem Reachable.machine (h : e.Reachable) : e.machine.Reachable := by
  obtain ⟨m, hm, hmade⟩ := h
  exact hmade.machine_reachable hm

end Chip8.Engine
