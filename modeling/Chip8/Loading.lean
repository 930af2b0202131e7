import Chip8.Files
import Chip8.Note

/-!
# Loading programs

Programs are loaded from bytes or from a file. `fromBytes` and `fromFile` also say what the log
tells about it; that a file is about to be read is told even if reading fails.
-/

namespace Chip8

/-- Why a program was not loaded. -/
inductive LoadingError where
  | file (e : FileError)
  | program (e : Program.LoadError)
  deriving DecidableEq

namespace LoadingError

def message : LoadingError → String
  | .file e => e.message
  | .program e => e.message

/-- Whether an error is about what was chosen. Otherwise no choice could have been better, or there
was none at all. -/
def isAboutChoice : LoadingError → Bool
  | .file e => e.isAboutPath
  | .program (.tooLarge _ _) => true
  | .program (.badBase _) => false

end LoadingError

namespace Loading

def ofPath (files : Files) (path : Text) (base : Int) (dice : Dice) :
    Except LoadingError Machine :=
  match files path with
  | .error e => .error (.file e)
  | .ok bytes => (Machine.load bytes base dice).mapError .program

/-- Loads a program from bytes, and tells its size and place. -/
def fromBytes (program : List UInt8) (base : Int) (dice : Dice) :
    List Note × Except LoadingError Machine :=
  match Machine.load program base dice with
  | .ok m => ([.programLoaded m.program.length m.base], .ok m)
  | .error e => ([], .error (.program e))

theorem fromBytes_eq_ok {program : List UInt8} {base : Int} {dice : Dice} {m : Machine}
    (h : (fromBytes program base dice).2 = .ok m) :
    Machine.load program base dice = .ok m := by
  unfold fromBytes at h
  split at h
  next heq =>
    cases h
    exact heq
  next => cases h

/-- Loads a program from a file, and tells the path before and the size after. -/
def fromFile (files : Files) (path : Text) (base : Int) (dice : Dice) :
    List Note × Except LoadingError Machine :=
  match ofPath files path base dice with
  | .ok m => ([.romLoading path, .romLoaded m.program.length], .ok m)
  | .error e => ([.romLoading path], .error e)

theorem fromFile_eq_ok {files : Files} {path : Text} {base : Int} {dice : Dice} {m : Machine}
    (h : (fromFile files path base dice).2 = .ok m) :
    ∃ program, Machine.load program base dice = .ok m := by
  unfold fromFile at h
  split at h
  next heq =>
    cases h
    unfold ofPath at heq
    split at heq
    next => cases heq
    next program _ =>
      refine ⟨program, ?_⟩
      cases hload : Machine.load program base dice with
      | error err =>
        rw [hload] at heq
        cases heq
      | ok loaded =>
        rw [hload] at heq
        cases heq
        rfl
  next => cases h

end Loading

end Chip8
