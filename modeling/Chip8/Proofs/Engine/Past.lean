import Chip8.Proofs.Engine.Session

/-!
# Engines with a past

What an engine has told and reported is only ever added to, and it makes no difference whether the
frame to be shown has been taken before or waits to be taken. `behind` is an engine with some more
notes and tones in its past and with its frame taken. A change of engines is `Blind` if it comes to
the same behind a past as without one; such changes can be put together (`Blind.comp`), and
everything that can be asked of an engine is one of them (`blind_serve`). Since replies say nothing
about the past either (`reply_behind`), two engines that are the same up to their past (`Resembles`)
cannot be told apart by any session (`Resembles.serveAll`).
-/

namespace Chip8.Engine

variable {told : List Note} {heard : List Bool} {e e' : Engine}

/-- An engine with its frame taken, and with notes and tones in front of those that it has kept. -/
def behind (told : List Note) (heard : List Bool) (e : Engine) : Engine :=
  { e with
    pending := none
    latest := e.pending.getD e.latest
    notes := told ++ e.notes
    tones := heard ++ e.tones }

/-- Whether a change comes to the same behind a past, up to the frame to be shown. -/
def Blind (g : Engine → Engine) : Prop :=
  ∀ told heard e, (g (e.behind told heard)).behind [] [] = (g e).behind told heard

theorem Blind.id : Blind fun e => e :=
  fun _ _ _ => rfl

/-- A change that does not touch the frame to be shown. -/
theorem blind_of_eq {g : Engine → Engine}
    (h : ∀ told heard e, g (e.behind told heard) = (g e).behind told heard) :
    Blind g := by
  intro told heard e
  rw [h]
  rfl

theorem Blind.comp {g g' : Engine → Engine} (h : Blind g) (h' : Blind g') :
    Blind fun e => g' (g e) := by
  intro told heard e
  have hfirst : (g (e.behind told heard)).behind [] [] = (g e).behind told heard := h told heard e
  calc
    (g' (g (e.behind told heard))).behind [] [] =
      (g' ((g (e.behind told heard)).behind [] [])).behind [] [] :=
      (h' [] [] _).symm
    _ = (g' ((g e).behind told heard)).behind [] [] := by rw [hfirst]
    _ = (g' (g e)).behind told heard := h' told heard _

/-- A choice that does not look at the past. -/
theorem Blind.ite {g g' : Engine → Engine} {p : Engine → Bool}
    (hp : ∀ told heard e, p (e.behind told heard) = p e) (h : Blind g) (h' : Blind g') :
    Blind fun e => if p e then g e else g' e := by
  intro told heard e
  dsimp only
  rw [hp]
  split
  · exact h told heard e
  · exact h' told heard e

/-! ## Telling, reporting and showing -/

theorem tell_behind (told : List Note) (heard : List Bool) (e : Engine) (notes : List Note) :
    (e.behind told heard).tell notes = (e.tell notes).behind told heard :=
  congrArg (fun notes => { e.behind told heard with notes := notes })
    (List.append_assoc told e.notes notes)

theorem report_behind (told : List Note) (heard : List Bool) (e : Engine) (tones : List Bool) :
    (e.behind told heard).report tones = (e.report tones).behind told heard := by
  have hlistener : (e.behind told heard).listener = e.listener := rfl
  unfold report
  rw [hlistener]
  split
  · exact congrArg (fun tones => { e.behind told heard with tones := tones })
      (List.append_assoc heard e.tones tones)
  · rfl

theorem blind_tell (notes : List Note) : Blind fun e => e.tell notes :=
  blind_of_eq fun told heard e => tell_behind told heard e notes

theorem blind_report (tones : List Bool) : Blind fun e => e.report tones :=
  blind_of_eq fun told heard e => report_behind told heard e tones

theorem recordFault_behind (told : List Note) (heard : List Bool) (e : Engine) (f : Fault) :
    (e.behind told heard).recordFault f = (e.recordFault f).behind told heard :=
  tell_behind told heard { e with lastError := some f } _

theorem handle_behind (told : List Note) (heard : List Bool) (e : Engine) (err : CycleError) :
    (e.behind told heard).handle err = ((e.handle err).1, (e.handle err).2.behind told heard) := by
  cases err with
  | fault f => exact congrArg (Prod.mk _) (recordFault_behind told heard e f)
  | mishap m => rfl
  | halted cause => rfl

/-! ## Time -/

theorem runCycles_behind (told : List Note) (heard : List Bool) (e : Engine) (n : Nat) :
    (e.behind told heard).runCycles n =
      ((e.runCycles n).1, (e.runCycles n).2.behind told heard) := by
  have hdebugger : (e.behind told heard).debugger = e.debugger := rfl
  have hmachine : (e.behind told heard).machine = e.machine := rfl
  unfold runCycles
  rw [hdebugger, hmachine]
  split
  next =>
    generalize e.debugger.run n = result
    split
    next err d => exact handle_behind told heard { e with debugger := d } err
    next r d _ =>
      exact congrArg (Prod.mk _)
        (tell_behind told heard
          { e with debugger := d, paused := e.paused || r.atBreakpoint } r.notes)
  next =>
    generalize e.machine.run n = result
    split
    next err m => exact handle_behind told heard (e.mapMachine fun _ => m) err
    next => rfl

theorem tick_behind (told : List Note) (heard : List Bool) (e : Engine) :
    (e.behind told heard).tick = e.tick.behind told heard := by
  have hreported : (e.behind told heard).reported = e.reported := rfl
  rw [tick_eq, tick_eq, hreported]
  exact congrArg
    (fun tones =>
      { (e.behind told heard).mapMachine Machine.tick with
        toneOn := e.machine.sounding
        tones := tones })
    (List.append_assoc heard e.tones e.reported)

theorem ticks_behind (told : List Note) (heard : List Bool) (e : Engine) (n : Nat) :
    (e.behind told heard).ticks n = (e.ticks n).behind told heard := by
  induction n generalizing e with
  | zero => rfl
  | succ n ih =>
    show (e.behind told heard).tick.ticks n = (e.tick.ticks n).behind told heard
    rw [tick_behind, ih]

theorem pass_behind (told : List Note) (heard : List Bool) (e : Engine) (span : Nat) :
    (e.behind told heard).pass span = ((e.pass span).1, (e.pass span).2.behind told heard) := by
  have hcarried : (e.behind told heard).carried span = (e.carried span).behind told heard := rfl
  have hbudget : (e.behind told heard).budget span = e.budget span := rfl
  have hbeats : (e.behind told heard).beats span = e.beats span := rfl
  rw [pass_eq, pass_eq, hcarried, hbudget, hbeats, runCycles_behind]
  generalize (e.carried span).runCycles (e.budget span) = result
  obtain ⟨outcome, mid⟩ := result
  cases outcome with
  | error err => rfl
  | ok done =>
    have hidle : (mid.behind told heard).idle = mid.idle := rfl
    dsimp only
    rw [hidle]
    split
    · rfl
    · rw [ticks_behind]

theorem advance_behind (told : List Note) (heard : List Bool) (e : Engine) (elapsed : Elapsed) :
    ((e.behind told heard).advance elapsed).1 = (e.advance elapsed).1 ∧
      ((e.behind told heard).advance elapsed).2.behind [] [] =
        (e.advance elapsed).2.behind told heard := by
  have hsame : (e.behind told heard).idle = e.idle := rfl
  unfold advance
  rw [hsame]
  split
  · exact ⟨rfl, rfl⟩
  · split
    · exact ⟨rfl, rfl⟩
    next span _ =>
      rw [pass_behind]
      generalize e.pass span = result
      obtain ⟨outcome, left⟩ := result
      cases outcome with
      | error err => exact ⟨rfl, rfl⟩
      | ok done => exact ⟨rfl, rfl⟩

theorem step_behind (told : List Note) (heard : List Bool) (e : Engine) :
    (e.behind told heard).step.1 = e.step.1 ∧
      (e.behind told heard).step.2.behind [] [] = e.step.2.behind told heard := by
  unfold step
  dsimp only
  have hmachine : { e.behind told heard with paused := false }.machine =
      { e with paused := false }.machine := rfl
  have hdebugger : (e.behind told heard).debugger = e.debugger := rfl
  rw [hmachine, hdebugger]
  split
  · exact ⟨rfl, rfl⟩
  · generalize e.debugger.step = result
    obtain ⟨answer, d⟩ := result
    cases answer with
    | ok record => exact ⟨rfl, rfl⟩
    | error err =>
      have hhandle := handle_behind told heard { e with paused := false, debugger := d } err
      have hsame : { e.behind told heard with paused := false, debugger := d } =
          { e with paused := false, debugger := d }.behind told heard := rfl
      dsimp only
      rw [hsame, hhandle]
      generalize handle _ _ = handled
      obtain ⟨outcome, left⟩ := handled
      cases outcome with
      | error err => exact ⟨rfl, rfl⟩
      | ok done => exact ⟨rfl, rfl⟩

/-! ## Background runs -/

theorem start_behind (told : List Note) (heard : List Bool) (e : Engine) :
    (e.behind told heard).start = e.start.behind told heard := by
  have hrunning : (e.behind told heard).running = e.running := rfl
  unfold start
  rw [hrunning]
  split
  · rfl
  · let started :=
      { e with
        paused := false
        debugger := e.debugger.resume
        background := if hasPeriod e.settings.clockHz then .running else .ended }
    exact tell_behind told heard started [.started]

theorem stop_behind (told : List Note) (heard : List Bool) (e : Engine) :
    (e.behind told heard).stop = e.stop.behind told heard := by
  have hbackground : (e.behind told heard).background = e.background := rfl
  unfold stop
  rw [hbackground]
  split
  · rfl
  · exact tell_behind told heard { e with background := .none } [.stopped]

theorem follow_behind (told : List Note) (heard : List Bool) (e : Engine) (last : Float)
    (clock : List Float) :
    ((e.behind told heard).follow last clock).1 = (e.follow last clock).1 ∧
      ((e.behind told heard).follow last clock).2.behind [] [] =
        (e.follow last clock).2.behind told heard := by
  induction clock generalizing told heard e last with
  | nil =>
    have hadvance := advance_behind told heard e.stop (Elapsed.ofSeconds (last - last))
    rw [← stop_behind] at hadvance
    exact ⟨rfl, hadvance.2⟩
  | cons now rest ih =>
    obtain ⟨hfst, hsnd⟩ := advance_behind told heard e (Elapsed.ofSeconds (now - last))
    unfold follow
    generalize (e.behind told heard).advance _ = result at hfst hsnd
    generalize e.advance _ = result' at hfst hsnd
    obtain ⟨outcome, left⟩ := result
    obtain ⟨outcome', left'⟩ := result'
    dsimp only at hfst hsnd
    subst hfst
    cases outcome with
    | error err => exact ⟨rfl, congrArg (fun e => { e with background := .ended }) hsnd⟩
    | ok frame =>
      dsimp only
      split
      · exact ⟨rfl, congrArg (fun e => { e with background := .ended }) hsnd⟩
      · -- What the advance has left is behind the past only once its frame is taken, so the rest of
        -- the run is compared in two steps: with the frame taken, and then behind the past.
        obtain ⟨hleft, hleft'⟩ := ih [] [] left now
        obtain ⟨hright, hright'⟩ := ih told heard left' now
        rw [hsnd] at hleft hleft'
        exact ⟨hleft.symm.trans hright, hleft'.symm.trans hright'⟩

theorem runAlong_behind (told : List Note) (heard : List Bool) (e : Engine) (clock : List Float) :
    ((e.behind told heard).runAlong clock).1 = (e.runAlong clock).1 ∧
      ((e.behind told heard).runAlong clock).2.behind [] [] =
        (e.runAlong clock).2.behind told heard := by
  have hrunning : (e.start.behind told heard).running = e.start.running := rfl
  unfold runAlong
  rw [start_behind, hrunning]
  split
  · cases clock with
    | nil =>
      dsimp only
      rw [stop_behind]
      exact ⟨rfl, rfl⟩
    | cons first rest => exact follow_behind told heard e.start first rest
  · exact ⟨rfl, rfl⟩

/-! ## Other machines -/

theorem blind_attached (loaded : Option Machine) : Blind fun e => e.attached loaded := by
  intro told heard e
  show ((e.behind told heard).attached loaded).behind [] [] = (e.attached loaded).behind told heard
  unfold attached
  rw [stop_behind]
  rfl

theorem blind_replace (loaded : Option Machine) : Blind fun e => e.replace loaded := by
  have htold : Blind fun e => if e.toneOn then (e.attached loaded).report [false]
      else e.attached loaded :=
    Blind.ite (p := toneOn) (fun _ _ _ => rfl)
      ((blind_attached loaded).comp (blind_report [false])) (blind_attached loaded)
  have hreplace :=
    Blind.ite (p := running) (fun _ _ _ => rfl) (htold.comp (blind_of_eq start_behind)) htold
  intro told heard e
  have hblind := hreplace told heard e
  dsimp only at hblind ⊢
  rw [replace_eq_attached, replace_eq_attached]
  exact hblind

theorem takeLoaded_behind (told : List Note) (heard : List Bool) (e : Engine)
    (loaded : List Note × Except LoadingError Machine) :
    ((e.behind told heard).takeLoaded loaded).1 = (e.takeLoaded loaded).1 ∧
      ((e.behind told heard).takeLoaded loaded).2.behind [] [] =
        (e.takeLoaded loaded).2.behind told heard := by
  unfold takeLoaded
  rw [tell_behind]
  dsimp only
  split
  · exact ⟨rfl, rfl⟩
  · exact ⟨rfl, blind_replace _ told heard _⟩

/-! ## Whole sessions -/

/-- **Commands are blind.** -/
theorem blind_perform (c : Command) : Blind fun e => e.perform c := by
  cases c with
  | advance elapsed => exact fun told heard e => (advance_behind told heard e elapsed).2
  | step => exact fun told heard e => (step_behind told heard e).2
  | start => exact blind_of_eq start_behind
  | stop => exact blind_of_eq stop_behind
  | load program => exact fun told heard e => (takeLoaded_behind told heard e _).2
  | loadFile files path => exact fun told heard e => (takeLoaded_behind told heard e _).2
  | reset => exact (blind_replace none).comp (blind_tell [.resetCompleted])
  | finish => exact Blind.ite (p := running) (fun _ _ _ => rfl) (fun _ _ _ => rfl) Blind.id
  | _ => exact fun _ _ _ => rfl

theorem blind_serve (request : Request) : Blind fun e => e.serve request := by
  cases request with
  | command c => exact blind_perform c
  | runAlong clock => exact fun told heard e => (runAlong_behind told heard e clock).2
  | _ => exact fun _ _ _ => rfl

theorem reply_behind (told : List Note) (heard : List Bool) (e : Engine) (request : Request) :
    (e.behind told heard).reply request = e.reply request := by
  cases request with
  | command c =>
    cases c with
    | advance elapsed => exact congrArg Reply.advanced (advance_behind told heard e elapsed).1
    | step => exact congrArg Reply.stepped (step_behind told heard e).1
    | load program => exact congrArg Reply.loaded (takeLoaded_behind told heard e _).1
    | loadFile files path => exact congrArg Reply.loaded (takeLoaded_behind told heard e _).1
    | _ => rfl
  | runAlong clock => exact congrArg Reply.ran (runAlong_behind told heard e clock).1
  | _ => rfl

/-- The first engine is the second one behind a past, up to the frame to be shown. -/
def Resembles (told : List Note) (heard : List Bool) (e e' : Engine) : Prop :=
  e.behind [] [] = e'.behind told heard

theorem Resembles.reply (h : Resembles told heard e e') (request : Request) :
    e.reply request = e'.reply request := by
  rw [← reply_behind [] [] e, h, reply_behind]

theorem Resembles.serve (h : Resembles told heard e e') (request : Request) :
    Resembles told heard (e.serve request) (e'.serve request) := by
  have hserve := blind_serve request
  calc
    (e.serve request).behind [] [] = ((e.behind [] []).serve request).behind [] [] :=
      (hserve [] [] e).symm
    _ = ((e'.behind told heard).serve request).behind [] [] := by rw [h]
    _ = (e'.serve request).behind told heard := hserve told heard e'

/-- **Engines that are the same up to their past** give the same replies along every session, and
tell and report the same behind what they have told and reported before. -/
theorem Resembles.serveAll (h : Resembles told heard e e') (requests : List Request) :
    e.replies requests = e'.replies requests ∧
      (e.serveAll requests).notes = told ++ (e'.serveAll requests).notes ∧
      (e.serveAll requests).tones = heard ++ (e'.serveAll requests).tones := by
  induction requests generalizing e e' with
  | nil => exact ⟨rfl, congrArg Engine.notes h, congrArg Engine.tones h⟩
  | cons request rest ih =>
    obtain ⟨hreplies, hend⟩ := ih (h.serve request)
    refine ⟨?_, hend⟩
    show e.reply request :: (e.serve request).replies rest = e'.reply request ::
      (e'.serve request).replies rest
    rw [h.reply, hreplies]

end Chip8.Engine
