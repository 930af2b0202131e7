import Chip8.Proofs.Engine.Session
import Chip8.Proofs.Machine.Load

/-!
# What is refused leaves an engine alone

A command fails if a program does not fit or cannot be read, or if a span of time is not finite;
nothing else goes wrong with an engine that comes up, since it is well-formed. Loading makes up its
mind before it touches anything (`loadFile_of_refused`), and so does an advance (`advance_of_isNaN`,
`advance_of_isInf`). Altogether a command that fails leaves the engine as it was, but for the note
that a file is about to be read (`perform_of_failure`).
-/

namespace Chip8

/-! ## Spans of time that are not finite -/

section

open Float.Model (UnpackedFloat)

/-- A product is what comes of its factors once they have been taken apart. -/
theorem mul_eq_of_unpack {x y : Float} {u : UnpackedFloat}
    (h : UnpackedFloat.mul .binary64 x.toModel.unpack y.toModel.unpack = u) :
    x * y = ⟨.pack u⟩ := by
  rw [← h]
  rfl

namespace Elapsed

/-- What is no number of seconds is no number of nanoseconds. -/
theorem ofSeconds_of_isNaN {seconds : Float} (h : seconds.isNaN = true) :
    ofSeconds seconds = .notANumber := by
  have hparts : seconds.toModel.unpack = .notANumber := by
    have h : seconds.toModel.unpack.isNaN = true := h
    cases hu : seconds.toModel.unpack with
    | notANumber => rfl
    | _ =>
      rw [hu] at h
      cases h
  have hproduct : seconds * 1000000000.0 = ⟨.pack .notANumber⟩ := by
    apply mul_eq_of_unpack
    rw [hparts]
    rfl
  have hread : Decimal.Binary.ofFloat ⟨.pack .notANumber⟩ = .notANumber := by decide +kernel
  unfold ofSeconds
  rw [hproduct, hread]
  rfl

/-- Infinitely many seconds are infinitely many nanoseconds, as a second has finitely many of them,
and not none. -/
theorem ofSeconds_of_isInf {seconds : Float} (h : seconds.isInf = true) :
    ofSeconds seconds = .infinite := by
  obtain ⟨sign, hparts⟩ : ∃ sign, seconds.toModel.unpack = .infinity sign := by
    have h : seconds.toModel.unpack.isInf = true := h
    cases hu : seconds.toModel.unpack with
    | infinity sign => exact ⟨sign, rfl⟩
    | _ =>
      rw [hu] at h
      cases h
  obtain ⟨sign', m, exponent, hpos, hunit⟩ :
      ∃ sign' m exponent hpos, (1000000000.0 : Float).toModel.unpack =
        .finite sign' m exponent hpos := by
    have hsort : (match (1000000000.0 : Float).toModel.unpack with
        | .finite _ _ _ _ => true
        | _ => false) = true := by
      decide +kernel
    cases hu : (1000000000.0 : Float).toModel.unpack with
    | finite sign' m exponent hpos => exact ⟨sign', m, exponent, hpos, rfl⟩
    | _ =>
      rw [hu] at hsort
      cases hsort
  have hproduct : seconds * 1000000000.0 = ⟨.pack (.infinity (sign * sign'))⟩ := by
    apply mul_eq_of_unpack
    rw [hparts, hunit]
    rfl
  have hread : ∀ sign, ∃ negative, Decimal.Binary.ofFloat ⟨.pack (.infinity sign)⟩ =
      .infinite negative := by
    intro sign
    cases sign with
    | negative => exact ⟨true, by decide +kernel⟩
    | positive => exact ⟨false, by decide +kernel⟩
  obtain ⟨negative, hnegative⟩ := hread (sign * sign')
  unfold ofSeconds
  rw [hproduct, hnegative]
  rfl

end Elapsed

end

/-! ## Programs that cannot be loaded -/

/-- Why a file cannot be loaded at an address in memory: it cannot be read, or it does not fit
behind the address. -/
inductive Loading.Refused (files : Files) (path : Text) (base : Int) : LoadingError → Prop
  | unreadable {err : FileError} (h : files path = .error err) : Refused files path base (.file err)
  | tooLarge {program : List UInt8} (h : files path = .ok program)
      (hlarge : 0x1000 - base < program.length) :
    Refused files path base (.program (.tooLarge program.length (0x1000 - base).toNat))

/-- What the log is told of a command before it is known what becomes of it. -/
def Command.announced : Command → List Note
  | .loadFile _ path => [.romLoading path]
  | _ => []

namespace Engine

variable {e : Engine}

/-- Whether a reply says that a request has failed. -/
def Reply.isFailure : Reply → Bool
  | .advanced (.error _) => true
  | .stepped (.error _) => true
  | .loaded (.error _) => true
  | .pressed (.error _) => true
  | .inspection (.error _) => true
  | _ => false

/-- Telling the log nothing changes nothing. -/
theorem tell_nil (e : Engine) : e.tell [] = e := by
  unfold tell
  rw [List.append_nil]

theorem load_of_error {program : List UInt8} {err : Program.LoadError}
    (h : Machine.load program e.base e.machine.dice = .error err) :
    e.load program = (.error (.program err), e) := by
  unfold load Loading.fromBytes
  rw [h]
  exact congrArg (Prod.mk _) e.tell_nil

theorem load_of_ok {program : List UInt8} {m : Machine}
    (h : Machine.load program e.base e.machine.dice = .ok m) :
    (e.load program).1 = .ok () := by
  unfold load Loading.fromBytes
  rw [h]
  rfl

theorem loadFile_of_error {files : Files} {path : Text} {err : LoadingError}
    (h : Loading.ofPath files path e.base e.machine.dice = .error err) :
    e.loadFile files path = (.error err, e.tell [.romLoading path]) := by
  unfold loadFile Loading.fromFile
  rw [h]
  rfl

theorem loadFile_of_ok {files : Files} {path : Text} {m : Machine}
    (h : Loading.ofPath files path e.base e.machine.dice = .ok m) :
    (e.loadFile files path).1 = .ok () := by
  unfold loadFile Loading.fromFile
  rw [h]
  rfl

/-- A program that is too large is refused. -/
theorem load_of_large (h0 : 0 ≤ e.base) (hlt : e.base < 0x1000) {program : List UInt8}
    (hlarge : 0x1000 - e.base < program.length) :
    e.load program = (.error (.program (.tooLarge program.length (0x1000 - e.base).toNat)), e) :=
  load_of_error (Machine.load_of_large h0 hlt hlarge _)

/-- A file that cannot be loaded is refused after the log has been told about it. -/
theorem loadFile_of_refused (h0 : 0 ≤ e.base) (hlt : e.base < 0x1000) {files : Files} {path : Text}
    {err : LoadingError} (h : Loading.Refused files path e.base err) :
    e.loadFile files path = (.error err, e.tell [.romLoading path]) := by
  apply loadFile_of_error
  unfold Loading.ofPath
  cases h with
  | unreadable h => rw [h]
  | tooLarge h hlarge =>
    rw [h]
    dsimp only
    rw [Machine.load_of_large h0 hlt hlarge]
    rfl

/-! ## Commands that fail -/

theorem advance_of_isNaN {seconds : Float} (h : seconds.isNaN = true) (hidle : e.idle = false) :
    e.advance (.ofSeconds seconds) = (.error (.elapsed .notANumber), e) :=
  advance_of_not_finite hidle (congrArg Elapsed.get (Elapsed.ofSeconds_of_isNaN h))

theorem advance_of_isInf {seconds : Float} (h : seconds.isInf = true) (hidle : e.idle = false) :
    e.advance (.ofSeconds seconds) = (.error (.elapsed .infinite), e) :=
  advance_of_not_finite hidle (congrArg Elapsed.get (Elapsed.ofSeconds_of_isInf h))

/-- **A command that fails** leaves a well-formed engine as it was, apart from what the log has been
told beforehand. -/
theorem perform_of_failure (h : e.WellFormed) {c : Command}
    (hfail : (e.reply (.command c)).isFailure = true) :
    e.perform c = e.tell c.announced := by
  cases c with
  | advance elapsed =>
    show (e.advance elapsed).2 = e.tell []
    cases helapsed : elapsed.get with
    | error err =>
      cases hidle : e.idle with
      | true =>
        have hok : (e.advance elapsed).1 = .ok e.frame :=
          congrArg Prod.fst (advance_of_idle hidle elapsed)
        rw [reply, hok] at hfail
        cases hfail
      | false => rw [advance_of_not_finite hidle helapsed, tell_nil]
    | ok span =>
      cases elapsed with
      | nanoseconds n =>
        rw [reply, h.advance_fst n] at hfail
        cases hfail
      | _ => cases helapsed
  | step =>
    rw [reply, h.step_fst] at hfail
    cases hfail
  | load program =>
    show (e.load program).2 = e.tell []
    cases hload : Machine.load program e.base e.machine.dice with
    | error err => rw [load_of_error hload, tell_nil]
    | ok m =>
      rw [reply, load_of_ok hload] at hfail
      cases hfail
  | loadFile files path =>
    show (e.loadFile files path).2 = e.tell [.romLoading path]
    cases hload : Loading.ofPath files path e.base e.machine.dice with
    | error err => rw [loadFile_of_error hload]
    | ok m =>
      rw [reply, loadFile_of_ok hload] at hfail
      cases hfail
  | press code =>
    have hpress : (e.press code).1 = .ok () := h.machine.state.press_fst code
    rw [reply, hpress] at hfail
    cases hfail
  | _ => cases hfail

end Engine

end Chip8
