import Chip8.Proofs.Engine.Refusal
import Chip8.Proofs.Window

/-!
# What is refused leaves a window alone

A window takes over what its engine tells as soon as it has asked it for something, so that between
two events the engine has nothing left to tell (`silent_after`). Therefore a file that cannot be
loaded adds two lines to the log and a dialog, and nothing else is different (`load_of_refused`).
The main result, `refused_unchanged`, puts this together with what is known of the engine itself.
-/

namespace Chip8

namespace Engine

variable {e e' : Engine}

/-- The engine has nothing left to tell. -/
structure Silent (e : Engine) : Prop where
  notes : e.notes = []
  tones : e.tones = []

/-- Forgetting what there is left to tell changes nothing. -/
theorem Silent.clearEvents (h : e.Silent) : e.clearEvents = e := by
  obtain ⟨hnotes, htones⟩ := h
  cases e
  cases hnotes
  cases htones
  rfl

theorem Served.silent (h : Served e e') (he : e.Silent) : e'.Silent := by
  cases h with
  | perform c hc => exact ⟨rfl, rfl⟩
  | takeFrame => exact ⟨he.notes, he.tones⟩

end Engine

namespace Window

variable {w w' : Window}

/-! ## Between two events -/

theorem Works.silent (h : Works w w') (hw : w.engine.Silent) : w'.engine.Silent := by
  have hengine := h.engine
  generalize w'.engine = e at hengine
  induction hengine with
  | refl => exact hw
  | tail _ hserved ih => exact hserved.silent ih

/-- **One event** leaves nothing to be told. -/
theorem silent_after (h : w.engine.Silent) (event : WindowEvent) : (w.after event).engine.Silent :=
  after_induction (P := fun w => w.engine.Silent) (R := fun _ _ => True) (fun _ _ _ => trivial)
    (fun _ _ _ => trivial) h
    (fun _ _ hmove h => hmove.works.silent h) fun _ _ _ => ⟨h.notes, h.tones⟩

/-- **Any number of them** do. -/
theorem silent_afterAll (h : w.engine.Silent) (events : List WindowEvent) :
    (w.afterAll events).engine.Silent :=
  afterAll_induction (P := fun w => w.engine.Silent) h fun _ event _ h => silent_after h event

theorem silent_of_create {settings : Settings} {m : Machine} {log : Ring Text}
    (h : create settings m log = .ok w) :
    w.engine.Silent := by
  have hprepared : (prepare settings m log).engine.Silent := ⟨rfl, rfl⟩
  rw [eq_of_create h]
  exact (works_refresh _).silent hprepared

/-! ## Files that cannot be loaded -/

/-- Nothing but two lines in the log and a dialog comes of a file that cannot be loaded. -/
def refusing (w : Window) (path : Text) (err : LoadingError) : Window :=
  { w with
    log := (w.log.push (Note.romLoading path).render).push (Note.romFailed path err.message).render
    dialogs := w.dialogs ++ [loadingFailed err] }

/-- **A file that cannot be loaded** is refused with a dialog, unless it cannot even be
looked for. -/
theorem load_of_refused (h : w.engine.Silent) (h0 : 0 ≤ w.engine.base)
    (hlt : w.engine.base < 0x1000) {files : Files} {path : Text} {err : LoadingError}
    (hrefused : Loading.Refused files path w.engine.base err) (hchoice : err.isAboutChoice = true) :
    w.load files path = (.ok false, w.refusing path err) := by
  have htaken : w.takeEngine (w.engine.tell [.romLoading path]) = w.note (.romLoading path) := by
    have hengine : (w.engine.tell [.romLoading path]).clearEvents = w.engine := h.clearEvents
    have hnotes : (w.engine.tell [.romLoading path]).notes = [.romLoading path] := by
      unfold Engine.tell
      rw [h.notes]
      rfl
    have htones : (w.engine.tell [.romLoading path]).tones = [] := h.tones
    unfold takeEngine
    rw [hengine, hnotes, htones]
    rfl
  unfold load
  rw [Engine.loadFile_of_refused h0 hlt hrefused]
  dsimp only
  rw [if_pos hchoice, htaken]
  rfl

/-- The windows that come up. -/
def Reachable (w : Window) : Prop :=
  ∃ settings m log w₀ events, m.Reachable ∧ create settings m log = .ok w₀ ∧ w = w₀.afterAll events

/-- **What is refused changes nothing.** An engine that comes up is what it was after a command that
has failed, apart from the note that a file is about to be read: its machine, its breakpoints and
marks, its pause, its background run, what it carries over, its tone, the fault that it keeps, and
the frames. A program that is too large, a file that cannot be read or is too large, and a span of
time that is not a number or infinite do fail, unless the engine is idle in the last case. The
engine of a window that comes up has nothing left to tell; and a window with such an engine, in
which a file is loaded that cannot be, answers with a dialog and two lines in the log, and is
otherwise what it was. -/
theorem refused_unchanged :
    (∀ e : Engine, e.Reachable →
      (∀ c, (e.reply (.command c)).isFailure = true → e.perform c = e.tell c.announced) ∧
      (0 ≤ e.base → e.base < 0x1000 →
        (∀ program : List UInt8, 0x1000 - e.base < program.length →
          e.load program = (.error (.program (.tooLarge program.length (0x1000 - e.base).toNat)),
            e)) ∧
        ∀ files path err, Loading.Refused files path e.base err →
          e.loadFile files path = (.error err, e.tell [.romLoading path])) ∧
      (e.idle = false →
        (∀ seconds : Float, seconds.isNaN = true →
          e.advance (.ofSeconds seconds) = (.error (.elapsed .notANumber), e)) ∧
        ∀ seconds : Float, seconds.isInf = true →
        e.advance (.ofSeconds seconds) = (.error (.elapsed .infinite), e))) ∧
    (∀ w : Window, w.Reachable → w.engine.Silent) ∧
    ∀ w : Window, w.engine.Silent → 0 ≤ w.engine.base → w.engine.base < 0x1000 →
      ∀ files path err, Loading.Refused files path w.engine.base err → err.isAboutChoice = true →
        w.load files path = (.ok false, w.refusing path err) := by
  refine ⟨fun e he => ⟨fun c hfail => ?_, fun h0 hlt =>
    ⟨fun program hlarge => ?_, fun files path err hrefused => ?_⟩,
    fun hidle => ⟨fun seconds h => ?_, fun seconds h => ?_⟩⟩, ?_,
      fun w hsilent h0 hlt files path err hrefused hchoice => ?_⟩
  · exact Engine.perform_of_failure (Engine.Reachable.wellFormed he) hfail
  · exact Engine.load_of_large h0 hlt hlarge
  · exact Engine.loadFile_of_refused h0 hlt hrefused
  · exact Engine.advance_of_isNaN h hidle
  · exact Engine.advance_of_isInf h hidle
  · rintro w ⟨settings, m, log, w₀, events, -, hcreate, rfl⟩
    exact silent_afterAll (silent_of_create hcreate) events
  · exact load_of_refused hsilent h0 hlt hrefused hchoice

theorem circling_reachable : circling.Reachable := by
  have hload : Machine.load [0x70, 0x01, 0x12, 0x00] 0x200 (Dice.cycle []) = .ok circling := rfl
  exact Machine.reachable_of_load hload

/-- The window of the circle while it is running. -/
def runningCircle : Window :=
  (prepare Settings.standard circling (Ring.empty 500)).refresh.2.afterAll [.start]

theorem runningCircle_base :
    0 ≤ runningCircle.engine.base ∧ runningCircle.engine.base < 0x1000 ∧
    runningCircle.engine.running = true := by
  unfold runningCircle circling
  rw [Machine.boot_eq]
  decide +kernel

/-- No number of seconds and a program of all the memory for an engine, and a directory for
a window. -/
theorem refused_unchanged_circling :
    ∃ e w, Engine.Reachable e ∧ e.idle = false ∧ Reachable w ∧ w.engine.running = true ∧
      e.advance (.ofSeconds (0.0 / 0.0)) = (.error (.elapsed .notANumber), e) ∧
      e.load (List.replicate 0x1000 0) = (.error (.program (.tooLarge 0x1000 0xE00)), e) ∧
      w.load (fun path => .error (.directory path)) "roms" =
        (.ok false, w.refusing "roms" (.file (.directory "roms"))) := by
  have he : (Engine.build Settings.standard 0x200 circling true).Reachable :=
    ⟨circling, circling_reachable, Settings.standard, 0x200, true, [], rfl⟩
  have hcreate : create Settings.standard circling (Ring.empty 500) =
      .ok (prepare Settings.standard circling (Ring.empty 500)).refresh.2 :=
        create_ok (by decide) (by decide) _
  have hw : runningCircle.Reachable :=
    ⟨Settings.standard, circling, Ring.empty 500, _, [.start], circling_reachable, hcreate, rfl⟩
  obtain ⟨h0, hlt, hrunning⟩ := runningCircle_base
  have hlength : (List.replicate 0x1000 (0 : UInt8)).length = 0x1000 := List.length_replicate
  obtain ⟨hengine, hsilent, hwindow⟩ := refused_unchanged
  obtain ⟨-, hloads, hadvances⟩ := hengine _ he
  have hload :=
    (hloads (by decide) (by decide)).1 (List.replicate 0x1000 0) (by rw [hlength]; decide)
  rw [hlength] at hload
  exact ⟨_, _, he, rfl, hw, hrunning, (hadvances rfl).1 _ (by decide +kernel), hload,
    hwindow _ (hsilent _ hw) h0 hlt _ _ _ (.unreadable rfl) rfl⟩

end Window

end Chip8
