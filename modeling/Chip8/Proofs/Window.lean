import Chip8.Proofs.Engine.Change
import Chip8.Proofs.Listing
import Chip8.Proofs.Pane.Breakpoints
import Chip8.Proofs.Window.Move

/-!
# A window and the breakpoints of its engine

The window keeps breakpoints three times: in the debugger of its engine, in the rows of its
breakpoint pane, and as texts in the cells of these rows. `Synced` says that they are the
same, up to order. What is done to a row is done to its cells and to the debugger after it
(`Synced.takeBreakpoints`), and a row that does not exist is refused before anything is done
(`Synced.takeRow`). Whatever else is done in a window, or to its engine behind it, only
makes the engine work (`Works`, `works_after`), which touches neither the pane nor the
breakpoints (`Works.untouched`). So every event keeps them in step (`Synced.after`). The
main result is `create_shows`.
-/

namespace Chip8

/-! ## The engine -/

namespace Engine

variable {e : Engine}

theorem replace_breakpoints (e : Engine) (loaded : Option Machine) :
    (e.replace loaded).debugger.breakpoints = e.debugger.breakpoints := by
  obtain ⟨notes, hstop⟩ := e.stop_eq
  have hbreakpoints : e.stop.debugger.breakpoints = e.debugger.breakpoints := by rw [hstop]
  exact (e.sameCarries_replace loaded).breakpoints.trans hbreakpoints

theorem takeLoaded_breakpoints (e : Engine) (loaded : List Note × Except LoadingError Machine) :
    (e.takeLoaded loaded).2.debugger.breakpoints = e.debugger.breakpoints := by
  unfold takeLoaded
  dsimp only
  split
  · rfl
  · exact replace_breakpoints _ _

/-- **Only edits** touch the breakpoints. -/
theorem perform_breakpoints {c : Command} (hc : c.isEdit = false) :
    (e.perform c).debugger.breakpoints = e.debugger.breakpoints := by
  cases c with
  | advance elapsed => exact (sameSetup_advance e elapsed).breakpoints
  | step =>
    obtain ⟨d, lastError, pending, notes, heq, hd⟩ := e.step_leaves
    show e.step.2.debugger.breakpoints = _
    rw [heq]
    rcases hd with rfl | rfl
    · rfl
    · exact e.debugger.step_breakpoints
  | start => exact (sameCarries_start e).breakpoints
  | stop =>
    obtain ⟨notes, hstop⟩ := e.stop_eq
    show e.stop.debugger.breakpoints = _
    rw [hstop]
  | load program => exact takeLoaded_breakpoints e _
  | loadFile files path => exact takeLoaded_breakpoints e _
  | reset => exact replace_breakpoints e _
  | press code => rfl
  | release code => rfl
  | finish =>
    show (if e.running then { e with background := .ended } else e).debugger.breakpoints = _
    split
    · rfl
    · rfl
  | add b => cases hc
  | update old new => cases hc
  | remove b => cases hc

/-- What a window does to its engine apart from edits: it takes over what comes of a command, or
takes a frame. -/
inductive Served : Engine → Engine → Prop
  | perform {e : Engine} (c : Command) (hc : c.isEdit = false) : Served e (e.perform c).clearEvents
  | takeFrame (e : Engine) : Served e e.takeFrame.2

theorem Served.breakpoints {e' : Engine} (h : Served e e') :
    e'.debugger.breakpoints = e.debugger.breakpoints := by
  cases h with
  | perform c hc => exact perform_breakpoints hc
  | takeFrame => rfl

end Engine

/-! ## The window -/

namespace Window

variable {w w' : Window}

/-- Neither the pane nor the breakpoints of the engine are different. -/
structure Untouched (w w' : Window) : Prop where
  pane : w'.breakpoints = w.breakpoints
  engine : w'.engine.debugger.breakpoints = w.engine.debugger.breakpoints

/-- The pane is not touched, and the engine at most works on. -/
structure Works (w w' : Window) : Prop where
  pane : w'.breakpoints = w.breakpoints
  engine : Relation.ReflTransGen Engine.Served w.engine w'.engine

theorem Works.trans {w'' : Window} (h : Works w w') (h' : Works w' w'') : Works w w'' :=
  ⟨h'.pane.trans h.pane, h.engine.trans h'.engine⟩

/-- An engine that works edits no breakpoints. -/
theorem Works.untouched (h : Works w w') : Untouched w w' := by
  obtain ⟨hpane, hengine⟩ := h
  refine ⟨hpane, ?_⟩
  generalize w'.engine = e at hengine
  induction hengine with
  | refl => rfl
  | tail _ hserved ih => exact hserved.breakpoints.trans ih

/-- A window can be refreshed as long as the counter is not negative. -/
theorem refresh_ok (h : 0 ≤ w.engine.state.pc) : w.refresh.1 = .ok () := by
  obtain ⟨shown, hshown⟩ := Listing.lines_ok w.engine.state.memory ((codeLines * 2 + 1) / 2).toNat h
  have hinspect : w.engine.takeFrame.2.inspect codeLines =
      .ok ⟨w.engine.state.registers, w.engine.state.calls, shown, w.engine.state.heldKeys⟩ := by
    show Except.map _ (Listing.lines w.engine.state.memory w.engine.state.pc
      ((codeLines * 2 + 1) / 2).toNat) = _
    rw [hshown]
    rfl
  unfold refresh
  dsimp only
  rw [hinspect]

/-- A window opens, unless it is to be redrawn at no rate. -/
theorem create_ok {settings : Settings} {m : Machine} (hrate : settings.videoHz ≠ 0)
    (hpc : 0 ≤ m.state.pc) (log : Ring Text) :
    create settings m log = .ok (prepare settings m log).refresh.2 := by
  have hshown : (prepare settings m log).refresh = (.ok (), (prepare settings m log).refresh.2) :=
    Prod.ext (refresh_ok hpc) rfl
  unfold create
  rw [if_neg fun hzero => hrate (eq_of_beq hzero), hshown]
  rfl

theorem works_refresh (w : Window) : Works w w.refresh.2 := by
  unfold refresh
  dsimp only
  split
  · exact ⟨rfl, .single (.takeFrame w.engine)⟩
  · exact ⟨rfl, .single (.takeFrame w.engine)⟩

/-- A move edits no breakpoints. -/
theorem Move.works {R : Engine → Command → Prop} (h : Move R w w') : Works w w' := by
  cases h with
  | serve c hc _ =>
    obtain ⟨log, tone, beeps, heq⟩ := w.takeEngine_leaves (w.engine.perform c)
    rw [heq]
    exact ⟨rfl, .single (.perform c hc)⟩
  | announce c hc status running _ =>
    obtain ⟨log, tone, beeps, heq⟩ := w.takeEngine_leaves (w.engine.perform c)
    rw [heq]
    exact ⟨rfl, .single (.perform c hc)⟩
  | refresh => exact works_refresh w
  | beside => exact ⟨rfl, .refl⟩

/-- **Whatever is not about breakpoints** touches neither the pane nor the debugger's
breakpoints. -/
theorem works_after {event : WindowEvent} (h : event.isEdit = false) : Works w (w.after event) :=
  (moves_after (R := fun _ _ => True) (fun _ _ _ => trivial) (fun _ _ _ => trivial) h).induction
    ⟨rfl, .refl⟩
    fun _ _ hmove hworks => hworks.trans hmove.works

/-! ## Following the pane -/

/-- The debugger has the breakpoints of the rows, and the cells of the rows show them. -/
structure Synced (w : Window) : Prop where
  shows : w.breakpoints.Shows w.engine.debugger
  legible : w.breakpoints.Legible

namespace Synced

/-- What has been done to the rows is done to their cells, and to the debugger. -/
theorem takeBreakpoints (h : w.Synced) {edits : List BreakpointEdit} {pane : BreakpointPane}
    (hfollows : w.breakpoints.Follows edits pane) (dialogs : List Dialog) :
    (w.takeBreakpoints dialogs edits pane).Synced :=
  ⟨hfollows.shows _ h.shows, hfollows.legible h.legible⟩

/-- A row that does not exist cannot be edited. -/
theorem takeRow (h : w.Synced) (number : Int)
    {edit : Fin w.breakpoints.rows.length → List BreakpointEdit × BreakpointPane}
    (hedit : ∀ row, w.breakpoints.Follows (edit row).1 (edit row).2) :
    (w.takeRow (w.breakpoints.atRow number edit)).2.Synced := by
  unfold BreakpointPane.atRow
  split
  next hrow => exact h.takeBreakpoints (hedit ⟨number.toNat, hrow.2⟩) []
  next => exact h

/-- What touches neither the pane nor the breakpoints of the engine. -/
theorem of_untouched (h : w.Synced) (huntouched : Untouched w w') : w'.Synced := by
  constructor
  · unfold BreakpointPane.Shows
    rw [huntouched.pane, huntouched.engine]
    exact h.shows
  · rw [huntouched.pane]
    exact h.legible

/-- **One event** keeps the pane and the debugger in step. -/
theorem after (h : w.Synced) (event : WindowEvent) : (w.after event).Synced := by
  cases hedit : event.isEdit with
  | false => exact h.of_untouched (works_after hedit).untouched
  | true =>
    cases event with
    | addBreakpoint kind typed => exact h.takeBreakpoints (w.breakpoints.follows_add kind typed) []
    | submitBreakpoint kind typed =>
      exact h.takeBreakpoints (w.breakpoints.follows_submit kind typed) _
    | toggleBreakpoint row => exact h.takeRow row w.breakpoints.follows_toggle
    | removeBreakpoint row => exact h.takeRow row w.breakpoints.follows_remove
    | selectBreakpoints rows => exact h.takeBreakpoints (w.breakpoints.follows_select rows) []
    | removeSelectedBreakpoints => exact h.takeBreakpoints (w.breakpoints.follows_removeAll _) []
    | _ => cases hedit

/-- **Any number of them** do. -/
theorem afterAll (h : w.Synced) (events : List WindowEvent) : (w.afterAll events).Synced :=
  afterAll_induction (P := Synced) h fun _ event _ h => h.after event

end Synced

/-- A window that has been opened shows its machine. -/
theorem eq_of_create {settings : Settings} {m : Machine} {log : Ring Text}
    (h : create settings m log = .ok w) :
    w = (prepare settings m log).refresh.2 := by
  unfold create at h
  split at h
  · cases h
  · generalize (prepare settings m log).refresh = result at h ⊢
    obtain ⟨outcome, left⟩ := result
    cases outcome with
    | error err => cases h
    | ok done =>
      cases h
      rfl

theorem synced_of_create {settings : Settings} {m : Machine} {log : Ring Text}
    (h : create settings m log = .ok w) :
    w.Synced := by
  have hempty : (prepare settings m log).Synced := ⟨.refl _, fun _ hrow => by cases hrow⟩
  rw [eq_of_create h]
  exact hempty.of_untouched (works_refresh _).untouched

/-- A window is as it was, apart from what has been put in front of the user and from the
entry field. -/
structure Rejected (w w' : Window) : Prop where
  rows : w'.breakpoints.rows = w.breakpoints.rows
  engine : w'.engine = w.engine

theorem rejected_submitBreakpoint {kind : BreakpointKind} {typed : Text}
    (h : w.breakpoints.Rejects kind typed) :
    Rejected w (w.submitBreakpoint kind typed) := by
  obtain ⟨hedits, hrows⟩ := w.breakpoints.submit_eq kind typed
  rw [BreakpointPane.add_of_rejects h] at hedits hrows
  refine ⟨hrows, ?_⟩
  show (w.takeBreakpoints _ (w.breakpoints.submit kind typed).2.1 _).engine = w.engine
  rw [hedits]
  rfl

theorem addBreakpoint_of_rejects {kind : BreakpointKind} {typed : Text}
    (h : w.breakpoints.Rejects kind typed) :
    (w.addBreakpoint kind typed).2 = w := by
  show w.takeBreakpoints [] (w.breakpoints.add kind typed).2.1
    (w.breakpoints.add kind typed).2.2 = w
  rw [BreakpointPane.add_of_rejects h]
  unfold takeBreakpoints
  rw [List.append_nil]
  rfl

/-- **The rows of the pane and the debugger have the same breakpoints**, up to order and each as
often, after whatever has been done in a window since it was opened, and to its engine behind it.
The status that stands in a row is that of its breakpoint, and an addition that is rejected, because
its text is no breakpoint or one that a row has, touches neither the rows nor the engine. -/
theorem create_shows {settings : Settings} {m : Machine} {log : Ring Text}
    (h : create settings m log = .ok w) (events : List WindowEvent) :
    ((w.afterAll events).breakpoints.rows.map (·.breakpoint)).Perm
      (w.afterAll events).engine.debugger.breakpoints ∧
      (∀ row ∈ (w.afterAll events).breakpoints.rows, row.status = "Active" ↔
        row.breakpoint.enabled = true) ∧
      ∀ kind typed,
        (∀ b, Breakpoint.parse kind typed = .ok b →
          b ∈ (w.afterAll events).breakpoints.rows.map (·.breakpoint)) →
        ((w.afterAll events).addBreakpoint kind typed).2 = w.afterAll events ∧
          Rejected (w.afterAll events) ((w.afterAll events).submitBreakpoint kind typed) := by
  have hsynced := (synced_of_create h).afterAll events
  refine ⟨hsynced.shows, fun row hrow => (hsynced.legible row hrow).status_eq_iff,
    fun kind typed hrejects => ?_⟩
  exact ⟨addBreakpoint_of_rejects hrejects, rejected_submitBreakpoint hrejects⟩

/-- A machine that goes in a circle. -/
def circling : Machine :=
  Machine.boot [0x70, 0x01, 0x12, 0x00] 0x200 (Dice.cycle [])

/-- The jump of the circle. -/
def atCircle : Breakpoint :=
  .onAddress .atAddress 0x202

/-- Two rows come to be equal, and then the second one is switched off; in between the
engine works. -/
def toggling : List WindowEvent :=
  [.addBreakpoint .atAddress "202", .toggleBreakpoint 0, .step, .submitBreakpoint .atAddress "#202",
    .toggleBreakpoint 0, .perform (.advance (.nanoseconds 9000000)) rfl, .toggleBreakpoint 1,
    .perform .reset rfl]

theorem circling_toggling :
    (((prepare Settings.standard circling (Ring.empty 500)).refresh.2.afterAll
      toggling).breakpoints.rows.map
        (·.breakpoint)) = [atCircle, { atCircle with enabled := false }] ∧
      ((prepare Settings.standard circling (Ring.empty 500)).refresh.2.afterAll
        toggling).engine.debugger.breakpoints =
        [{ atCircle with enabled := false }, atCircle] := by
  unfold circling
  rw [Machine.boot_eq]
  decide +kernel

theorem create_shows_circling :
    ∃ w, create Settings.standard circling (Ring.empty 500) = .ok w ∧
      (w.afterAll toggling).breakpoints.rows.map (·.breakpoint) =
        [atCircle, { atCircle with enabled := false }] ∧
      (w.afterAll toggling).engine.debugger.breakpoints =
        [{ atCircle with enabled := false }, atCircle] ∧
      ((w.afterAll (toggling ++ [.removeBreakpoint 0, .step])).breakpoints.rows.map
        (·.breakpoint)).Perm
        (w.afterAll (toggling ++ [.removeBreakpoint 0, .step])).engine.debugger.breakpoints ∧
      ((w.afterAll toggling).addBreakpoint .onRead "").2 = w.afterAll toggling := by
  have hcreate : create Settings.standard circling (Ring.empty 500) =
      .ok (prepare Settings.standard circling (Ring.empty 500)).refresh.2 :=
        create_ok (by decide) (by decide) _
  obtain ⟨hrows, hbreakpoints⟩ := circling_toggling
  obtain ⟨-, -, hrejects⟩ := create_shows hcreate toggling
  refine ⟨_, hcreate, hrows, hbreakpoints, (create_shows hcreate _).1,
    (hrejects .onRead "" fun b hparse => ?_).1⟩
  cases hparse

end Window

end Chip8
