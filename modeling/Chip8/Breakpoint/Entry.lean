import Chip8.Breakpoint
import Chip8.Numeral.Reader
import Chip8.Text.Upper

/-!
# Breakpoints as text

Breakpoints are typed in and described as text: an address in hexadecimal, a register and a value
with an equals sign between, or a register alone. `parse` reads the typed form, `describe` writes a
description, and `retyped` is the description made into a typed form again.
-/

namespace Chip8

/-- Why a typed text is no breakpoint. The text shown is the part that was not understood. -/
inductive EntryError where
  | empty
  | invalidAddress (text : Text)
  | addressRange (text : Text)
  | missingEquals
  | unknownRegister (text : Text)
  | invalidValue (text : Text)
  deriving DecidableEq

def EntryError.message : EntryError → Text
  | .empty => "Empty input"
  | .invalidAddress t => "Invalid address: '" ++ t ++ "'"
  | .addressRange t => "Address out of range: '" ++ t ++ "'"
  | .missingEquals => "Format must be REG=VAL"
  | .unknownRegister t => "Unknown register: '" ++ t ++ "'"
  | .invalidValue t => "Invalid value: '" ++ t ++ "'"

namespace Breakpoint

/-- The text behind a mark of hexadecimal, `0x` or `#`, if it begins with one. -/
def hexBody? : Text → Option Text
  | .char '0' :: .char 'x' :: rest => some rest
  | .char '0' :: .char 'X' :: rest => some rest
  | .char '#' :: rest => some rest
  | _ => none

/-- Reads an address, which is hexadecimal with or without a mark. -/
def parseAddress (t : Text) : Except EntryError Int :=
  match Numeral.read 16 ((hexBody? t).getD t) with
  | .error _ => .error (.invalidAddress t)
  | .ok a => if 0 ≤ a ∧ a ≤ 0xFFF then .ok a else .error (.addressRange t)

/-- Reads a value, which is hexadecimal with a mark and decimal without. -/
def parseValue (t : Text) : Except EntryError Int :=
  let number := match hexBody? t with
    | some body => Numeral.read 16 body
    | none => Numeral.read 10 t
  match number with
  | .ok n => .ok n
  | .error _ => .error (.invalidValue t)

def parseRegister (t : Text) : Except EntryError Text :=
  let name := Text.upper (Text.trim t)
  if registerNames.contains name then .ok name else .error (.unknownRegister t)

/-- Reads the typed form of a breakpoint of some kind. -/
def parse (kind : BreakpointKind) (typed : Text) : Except EntryError Breakpoint :=
  let t := Text.trim typed
  if t.isEmpty then .error .empty
  else
    match kind with
    | .registerValue =>
      match t.span (· != .char '=') with
      | (_, []) => .error .missingEquals
      | (name, _ :: rest) => do
        let register ← parseRegister name
        let value ← parseValue (Text.trim rest)
        .ok (onValue register value)
    | .registerChange => (parseRegister t).map onChange
    | kind => (parseAddress t).map (onAddress kind)

/-- The name of the register that a breakpoint is about. -/
def registerText (b : Breakpoint) : Text :=
  b.register.getD "None"

def describe (b : Breakpoint) : Text :=
  match b.kind with
  | .registerValue => b.registerText ++ " == #" ++ Numeral.upperHex 1 (b.value.getD 0)
  | .registerChange => b.registerText ++ " changed"
  | _ => "@ #" ++ Numeral.upperHex 3 (b.address.getD 0)

/-- The description of a breakpoint as it would be typed. -/
def retyped (b : Breakpoint) : Text :=
  match b.kind with
  | .registerValue => b.registerText ++ "=#" ++ Numeral.upperHex 1 (b.value.getD 0)
  | .registerChange => b.registerText
  | _ => "#" ++ Numeral.upperHex 3 (b.address.getD 0)

end Breakpoint

end Chip8
