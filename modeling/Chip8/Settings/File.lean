import Chip8.Files
import Chip8.Markup.Document
import Chip8.Settings.Reader

/-!
# Settings files

A settings file is a markup text. A file without data, or whose data is nothing, leaves everything
at its standard.
-/

namespace Chip8

/-- Why a settings file cannot be used. -/
inductive SettingsFileError where
  | file (e : FileError)
  | markup (path : Text) (e : MarkupError)
  | settings (e : SettingsError)

def SettingsFileError.message [NestingLimits] : SettingsFileError → Text
  | .file e => e.message
  | .markup path e => e.message path
  | .settings e => e.message

/-- Whether an error is explained to the user of a launch. -/
def SettingsFileError.isExplained [NestingLimits] : SettingsFileError → Bool
  | .file _ => true
  | .markup _ e => e.isExplained
  | .settings e => e.isExplained

namespace Settings

/-- Reads settings from data, of which nothing at all may be there. -/
def ofDataOrNothing [NestingLimits] (d : Data) : Except SettingsError Settings :=
  if d.isNothing then ofEntries [] else ofData d

def ofFile [NestingLimits] (files : Files) (path : Text) : Except SettingsFileError Settings := do
  let bytes ← (files path).mapError .file
  let d ← (Markup.read bytes).mapError (.markup path)
  (ofDataOrNothing d).mapError .settings

end Settings

end Chip8
