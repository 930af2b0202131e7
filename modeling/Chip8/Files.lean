import Chip8.Text.Encoded
import Chip8.Text.Quoted

/-!
# Files

Files are looked up by their path. A path is a list of names with slashes between them, and is
followed name by name: through the present directory, of which the contents are known, and through
the directories above it. Of those only the topmost is known a little: the usual directories are in
it. What counts of a name are its bytes. `Files.ofList` says what comes of a path.
-/

namespace Chip8

/-- Why a file cannot be read. -/
inductive FileError where
  | missing (path : Text)
  | directory (path : Text)
  | notDirectory (path : Text)
  | nameTooLong (path : Text)
  | encoding (e : Text.EncodeError)
  | nullCharacter
  deriving DecidableEq

namespace FileError

def message : FileError → String
  | .missing path => "[Errno 2] No such file or directory: " ++ Text.quote path
  | .directory path => "[Errno 21] Is a directory: " ++ Text.quote path
  | .notDirectory path => "[Errno 20] Not a directory: " ++ Text.quote path
  | .nameTooLong path => "[Errno 36] File name too long: " ++ Text.quote path
  | .encoding e => e.message
  | .nullCharacter => "embedded null byte"

/-- Whether an error was found by following a path; otherwise what was given is no path at all. -/
def isAboutPath : FileError → Bool
  | .encoding _ | .nullCharacter => false
  | _ => true

end FileError

abbrev Files := Text → Except FileError (List UInt8)

namespace Files

abbrev Name := List UInt8

/-- Where a path has led: to a directory or to a file. -/
inductive Place where
  | here
  | top
  | devices
  | elsewhere
  | file (bytes : List UInt8)

/-- The bytes of the characters that mean something in a path. -/
def dot : UInt8 := 0x2e
def slash : UInt8 := 0x2f

/-- The most bytes that a name and a path may have. -/
def longestName : Nat := 255
def longestPath : Nat := 4095

def nameOf (s : String) : Name :=
  s.toUTF8.toList

/-- The names in the topmost directory, all of them of directories. -/
def topNames : List Name :=
  ["bin", "boot", "dev", "etc", "home", "lib", "lib64", "media", "mnt", "opt", "proc", "root",
    "run", "sbin",
    "srv", "sys", "tmp", "usr", "var"].map nameOf

/-- Where a name leads in a place, if it is known there. The null device is an empty file. -/
def enter? (files : List (Name × List UInt8)) (name : Name) : Place → Option Place
  | .here => (List.lookup name files).map .file
  | .top =>
    if name == nameOf "dev" then some .devices
    else if topNames.contains name then some .elsewhere
    else none
  | .devices => if name == nameOf "null" then some (.file []) else none
  | .elsewhere | .file _ => none

def above : Place → Place
  | .top | .devices => .top
  | .here | .elsewhere | .file _ => .elsewhere

/-- Follows the names of a path through a directory that has the given files. -/
def follow (files : List (Name × List UInt8)) (path : Text) :
    Place → List Name → Except FileError Place
  | place, [] => .ok place
  | .file _, _ :: _ => .error (.notDirectory path)
  | place, name :: rest =>
    if name == [] || name == [dot] then follow files path place rest
    else if name == [dot, dot] then follow files path (above place) rest
    else if longestName < name.length then .error (.nameTooLong path)
    else
      match enter? files name place with
      | some next => follow files path next rest
      | none => .error (.missing path)

/-- The file that the bytes of a path lead to. Behind a final slash there is an empty name. -/
def find (files : List (Name × List UInt8)) (path : Text) (bytes : List UInt8) :
    Except FileError (List UInt8) :=
  if bytes.contains 0 then .error .nullCharacter
  else if bytes.isEmpty then .error (.missing path)
  else if longestPath < bytes.length then .error (.nameTooLong path)
  else
    match follow files path (if bytes.head? == some slash then .top else .here)
      (bytes.splitOn slash) with
    | .ok (.file contents) => .ok contents
    | .ok _ => .error (.directory path)
    | .error e => .error e

/-- The file that a path leads to in a directory with the given files. -/
def ofList (files : List (Text × List UInt8)) : Files := fun path => do
  let bytes ← (Text.nameBytes path).mapError .encoding
  let named :=
    files.filterMap fun (name, contents) => do return (← (Text.nameBytes name).toOption, contents)
  find named path bytes

end Files

end Chip8
