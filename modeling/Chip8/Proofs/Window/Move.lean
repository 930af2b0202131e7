import Chip8.Proofs.Engine.Command
import Chip8.Window
import Mathlib.Logic.Relation

/-!
# What happens in a window

A `WindowEvent` is anything that the user does in a window, a refresh, or a command to the engine
behind the window. Whatever happens is made of a few moves: the engine is asked for something, which
the status line may tell of, everything is brought up to date, or something beside the engine is
noted (`Move`, `moves_after`). Which commands the engine is asked for without a word is left to a
parameter: a window itself asks for none that would put another machine in place. Events of the
breakpoint pane are set apart, they all come to one change of it (`edited_after`). What is kept in
both is kept in every event (`after_induction`).
-/

namespace Chip8

/-- Whether a command edits the breakpoints. -/
def Command.isEdit : Command → Bool
  | .add _ => true
  | .update _ _ => true
  | .remove _ => true
  | _ => false

/-- What can be done in a window, and what can be done to its engine behind it. -/
inductive WindowEvent where
  | refresh
  | redraw (now : Float)
  | start
  | stop
  | step
  | reset
  | close
  | load (files : Files) (path : Text)
  | openFile (files : Files) (path : Text)
  | drop (files : Files) (dropped : List Dropped)
  | key (event : KeyEvent)
  | addBreakpoint (kind : BreakpointKind) (typed : Text)
  | submitBreakpoint (kind : BreakpointKind) (typed : Text)
  | toggleBreakpoint (row : Int)
  | removeBreakpoint (row : Int)
  | selectBreakpoints (rows : List Nat)
  | removeSelectedBreakpoints
  /-- A command to the engine that edits no breakpoint. -/
  | perform (c : Command) (hc : c.isEdit = false)

/-- Whether an event is about the breakpoint pane. -/
def WindowEvent.isEdit : WindowEvent → Bool
  | .addBreakpoint _ _ => true
  | .submitBreakpoint _ _ => true
  | .toggleBreakpoint _ => true
  | .removeBreakpoint _ => true
  | .selectBreakpoints _ => true
  | .removeSelectedBreakpoints => true
  | _ => false

namespace Window

variable {w w' : Window} {event : WindowEvent} {R : Engine → Command → Prop}

/-- What an event leaves of a window, also one that fails. -/
def after (w : Window) : WindowEvent → Window
  | .refresh => w.refresh.2
  | .redraw now => (w.redraw now).2
  | .start => w.start
  | .stop => w.stop
  | .step => w.step.2
  | .reset => w.reset.2
  | .close => w.close
  | .load files path => (w.load files path).2
  | .openFile files path => (w.openFile files path).2
  | .drop files dropped => (w.drop files dropped).2
  | .key event => (w.key event).2
  | .addBreakpoint kind typed => (w.addBreakpoint kind typed).2
  | .submitBreakpoint kind typed => w.submitBreakpoint kind typed
  | .toggleBreakpoint row => (w.toggleBreakpoint row).2
  | .removeBreakpoint row => (w.removeBreakpoint row).2
  | .selectBreakpoints rows => w.selectBreakpoints rows
  | .removeSelectedBreakpoints => w.removeSelectedBreakpoints
  | .perform c _ => w.takeEngine (w.engine.perform c)

/-- What a sequence of events leaves of a window. -/
def afterAll (w : Window) (events : List WindowEvent) : Window :=
  events.foldl after w

/-- Whatever a window keeps along each of some events, it keeps along all of them. -/
theorem afterAll_induction {P : Window → Prop} {events : List WindowEvent} (hw : P w)
    (hafter : ∀ w, ∀ event ∈ events, P w → P (w.after event)) : P (w.afterAll events) := by
  unfold afterAll
  induction events generalizing w with
  | nil => exact hw
  | cons event rest ih =>
    exact ih (hafter w event List.mem_cons_self hw) fun w event hmem =>
      hafter w event (List.mem_cons_of_mem _ hmem)

/-- An engine that is taken over reaches the log, the sound label and the beeps besides. -/
theorem takeEngine_leaves (w : Window) (e : Engine) :
    ∃ log tone beeps, w.takeEngine e =
      { w with engine := e.clearEvents, log := log, tone := tone, beeps := beeps } := by
  have hnotes : ∀ (notes : List Note) (w : Window), ∃ log,
      notes.foldl note w = { w with log := log } := by
    intro notes
    induction notes with
    | nil => exact fun w => ⟨w.log, rfl⟩
    | cons n rest ih =>
      intro w
      obtain ⟨log, heq⟩ := ih (w.note n)
      exact ⟨log, heq⟩
  obtain ⟨log, heq⟩ := hnotes e.notes w
  unfold takeEngine
  rw [heq]
  exact ⟨log, _, _, rfl⟩

/-! ## Moves -/

/-- What events are made of that are not about the breakpoint pane. -/
inductive Move (R : Engine → Command → Prop) : Window → Window → Prop
  /-- A command of which the status line does not tell. -/
  | serve (w : Window) (c : Command) (hc : c.isEdit = false) (h : R w.engine c) :
      Move R w (w.takeEngine (w.engine.perform c))
  /-- A command of which it does. -/
  | announce (w : Window) (c : Command) (hc : c.isEdit = false) (status : Status) (running : Bool)
      (hstatus : ∀ cause, status ≠ .halted cause) :
      Move R w
        { w.takeEngine (w.engine.perform c) with status := status, controlsRunning := running }
  | refresh (w : Window) : Move R w w.refresh.2
  /-- What is noted beside the engine: times, lines of the log, dialogs, and key events
  without use. -/
  | beside (w : Window) (keypad : KeypadPane) (hkeymap : keypad.keymap = w.keypad.keymap)
      (log : Ring Text) (lastRedraw : Option Float) (dialogs : List Dialog)
      (unhandled : List KeyEvent) :
      Move R w
        { w with
          keypad := keypad
          log := log
          lastRedraw := lastRedraw
          dialogs := dialogs
          unhandled := unhandled }

/-- Any number of moves. -/
def Moves (R : Engine → Command → Prop) (w w' : Window) : Prop :=
  Relation.ReflTransGen (Move R) w w'

theorem Move.moves (h : Move R w w') : Moves R w w' :=
  .single h

theorem Moves.refl (w : Window) : Moves R w w :=
  Relation.ReflTransGen.refl

theorem Moves.trans {w'' : Window} (h : Moves R w w') (h' : Moves R w' w'') : Moves R w w'' :=
  Relation.ReflTransGen.trans h h'

/-- Whatever a window keeps along one move, it keeps along any number of them. -/
theorem Moves.induction {P : Window → Prop} (h : Moves R w w') (hw : P w)
    (hmove : ∀ w w', Move R w w' → P w → P w') :
    P w' := by
  have hchain : Relation.ReflTransGen (Move R) w w' := h
  induction hchain with
  | refl => exact hw
  | tail hfirst hlast ih => exact hmove _ _ hlast (ih hfirst)

/-! ## Events -/

section

variable (hR : ∀ (e : Engine) (c : Command), ¬ e.Replaces c → R e c)

include hR

theorem moves_load (w : Window) (files : Files) (path : Text) :
    Moves R w (w.load files path).2 := by
  have hserve : ¬ w.engine.Replaces (.loadFile files path) →
      Move R w (w.takeEngine (w.engine.loadFile files path).2) :=
    fun h => .serve w (.loadFile files path) rfl (hR _ _ h)
  have hannounce :
      Move R w { w.takeEngine (w.engine.loadFile files path).2 with status := .loaded path } :=
    .announce w (.loadFile files path) rfl (.loaded path) _ nofun
  unfold load
  dsimp only [Engine.Replaces] at hserve
  generalize w.engine.loadFile files path = result at hserve hannounce
  obtain ⟨outcome, e⟩ := result
  cases outcome with
  | error err =>
    have htaken : Moves R w (w.takeEngine e) := (hserve nofun).moves
    dsimp only
    split
    · exact htaken.trans (Move.beside _ _ rfl _ _ _ _).moves
    · exact htaken
  | ok done => exact hannounce.moves.trans (Move.refresh _).moves

omit hR in
theorem moves_start (w : Window) : Moves R w w.start :=
  (Move.announce w .start rfl .running true nofun).moves

theorem moves_drop (w : Window) (files : Files) (dropped : List Dropped) :
    Moves R w (w.drop files dropped).2 := by
  unfold drop
  split
  next => exact .refl w
  next d _ =>
    have hload := moves_load hR w files d.path
    generalize w.load files d.path = result at hload
    obtain ⟨outcome, left⟩ := result
    cases outcome with
    | error err => exact hload
    | ok loaded =>
      cases loaded with
      | false => exact hload
      | true => exact hload.trans (moves_start left)

theorem moves_step (w : Window) : Moves R w w.step.2 := by
  have htaken : Moves R w (w.takeEngine w.engine.step.2) :=
    (Move.serve w .step rfl (hR _ _ id)).moves
  unfold step
  generalize w.engine.step = result at htaken
  obtain ⟨outcome, e⟩ := result
  cases outcome with
  | error err => exact htaken
  | ok frame => exact htaken.trans (Move.refresh _).moves

theorem moves_key (w : Window) (event : KeyEvent) : Moves R w (w.key event).2 := by
  unfold key
  split
  next => exact (Move.beside w w.keypad rfl w.log w.lastRedraw w.dialogs _).moves
  next code _ =>
    split
    next => exact (Move.serve w (.press code) rfl (hR _ _ id)).moves
    next => exact (Move.serve w (.release code) rfl (hR _ _ id)).moves

end

/-- A window at a redraw, right before it is brought up to date. -/
def measured (w : Window) (now : Float) : Window :=
  { w with
    keypad := match w.lastRedraw with
      | none => w.keypad
      | some last => w.keypad.record ((now - last) * 1000.0)
    lastRedraw := some now }

theorem moves_measured (w : Window) (now : Float) : Moves R w (w.measured now) := by
  refine (Move.beside w _ ?_ w.log (some now) w.dialogs w.unhandled).moves
  split
  · rfl
  · exact w.keypad.keymap_record _

theorem moves_redraw (w : Window) (now : Float) : Moves R w (w.redraw now).2 :=
  (w.moves_measured now).trans (Move.refresh _).moves

theorem moves_reset (w : Window) : Moves R w w.reset.2 :=
  (Move.announce w .reset rfl .reset (w.takeEngine w.engine.reset).controlsRunning
    nofun).moves.trans
    (Move.refresh _).moves

/-- **Every event** that is not about the breakpoint pane is made of moves. -/
theorem moves_after (hR : ∀ e c, ¬ Engine.Replaces e c → R e c)
    (hperform : ∀ c hc, event = .perform c hc → R w.engine c) (h : event.isEdit = false) :
    Moves R w (w.after event) := by
  cases event with
  | refresh => exact (Move.refresh w).moves
  | redraw now => exact moves_redraw w now
  | start => exact moves_start w
  | stop => exact (Move.announce w .stop rfl .stopped false nofun).moves
  | step => exact moves_step hR w
  | reset => exact moves_reset w
  | close => exact (Move.serve w .stop rfl (hR _ _ id)).moves
  | load files path => exact moves_load hR w files path
  | openFile files path =>
    show Moves R w (w.openFile files path).2
    unfold openFile
    split
    · exact .refl w
    · exact moves_load hR w files path
  | drop files dropped => exact moves_drop hR w files dropped
  | key event => exact moves_key hR w event
  | perform c hc => exact (Move.serve w c hc (hperform c hc rfl)).moves
  | _ => cases h

/-- **Every event that is** comes to one change of the pane, or to nothing if there is no
such row. -/
theorem edited_after (w : Window) (h : event.isEdit = true) :
    w.after event = w ∨ ∃ dialogs edits pane,
    w.after event = w.takeBreakpoints dialogs edits pane := by
  have hrow : ∀ edited, (w.takeRow edited).2 = w ∨
      ∃ dialogs edits pane, (w.takeRow edited).2 = w.takeBreakpoints dialogs edits pane := by
    intro edited
    cases edited with
    | ok edit => exact .inr ⟨[], edit.1, edit.2, rfl⟩
    | error e => exact .inl rfl
  cases event with
  | addBreakpoint kind typed => exact .inr ⟨[], _, _, rfl⟩
  | submitBreakpoint kind typed => exact .inr ⟨_, _, _, rfl⟩
  | toggleBreakpoint row => exact hrow _
  | removeBreakpoint row => exact hrow _
  | selectBreakpoints rows => exact .inr ⟨[], [], _, rfl⟩
  | removeSelectedBreakpoints => exact .inr ⟨[], _, _, rfl⟩
  | _ => cases h

/-- Whatever a window keeps along one move and in a change of the pane, it keeps in any event. -/
theorem after_induction {P : Window → Prop} (hR : ∀ e c, ¬ Engine.Replaces e c → R e c)
    (hperform : ∀ c hc, event = .perform c hc → R w.engine c) (hw : P w)
    (hmove : ∀ w w', Move R w w' → P w → P w')
    (hpane : ∀ dialogs edits pane, P (w.takeBreakpoints dialogs edits pane)) :
    P (w.after event) := by
  cases hedit : event.isEdit with
  | false => exact (moves_after hR hperform hedit).induction hw hmove
  | true =>
    obtain heq | ⟨dialogs, edits, pane, heq⟩ := w.edited_after hedit
    · rw [heq]
      exact hw
    · rw [heq]
      exact hpane dialogs edits pane

end Window

end Chip8
