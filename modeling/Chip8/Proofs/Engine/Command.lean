import Chip8.Engine

/-!
# Commands

A `Command` is anything that can be asked of an engine, or happen to it, between two moments at
which nothing is going on. `performAll` is the engine after a sequence of them. `Starts`, `Replaces`
and `Executes` say what can be seen of a command from outside: whether it starts the background run,
whether it puts another machine in the place of the present one, and which instructions it executes.
-/

namespace Chip8

/-- What can be asked of an engine; the last one is not asked for, but happens when the background
run ends by itself. -/
inductive Command where
  | advance (elapsed : Elapsed)
  | step
  | start
  | stop
  | load (program : List UInt8)
  | loadFile (files : Files) (path : Text)
  | reset
  | press (code : Int)
  | release (code : Int)
  | add (b : Breakpoint)
  | update (old new : Breakpoint)
  | remove (b : Breakpoint)
  | finish

namespace Engine

/-- What a command leaves of an engine, also one that fails. -/
def perform (e : Engine) : Command → Engine
  | .advance elapsed => (e.advance elapsed).2
  | .step => e.step.2
  | .start => e.start
  | .stop => e.stop
  | .load program => (e.load program).2
  | .loadFile files path => (e.loadFile files path).2
  | .reset => e.reset
  | .press code => (e.press code).2
  | .release code => e.release code
  | .add b => e.mapDebugger (·.add b)
  | .update old new => e.mapDebugger (·.update old new)
  | .remove b => e.mapDebugger (·.remove b)
  | .finish => if e.running then { e with background := .ended } else e

/-- What a sequence of commands leaves of an engine. -/
def performAll (e : Engine) (commands : List Command) : Engine :=
  commands.foldl perform e

/-- Whether a command puts another machine in the place of the present one. -/
def Replaces (e : Engine) : Command → Prop
  | .load program => (e.load program).1 = .ok ()
  | .loadFile files path => (e.loadFile files path).1 = .ok ()
  | .reset => True
  | _ => False

/-- Whether a command starts the background run: by itself, if there is none, or again, when the
machine is replaced during one. -/
def Starts (e : Engine) (c : Command) : Prop :=
  c = .start ∧ e.running = false ∨ e.Replaces c ∧ e.running = true

/-- Whether a command executes a `j`-th instruction, counted from zero. It has been executed if it
has been counted, or if the machine has come to a halt on it. -/
def Executes (e : Engine) (c : Command) (j : Nat) : Prop :=
  match c with
  | .advance _ | .step =>
    e.state.cycles + j < (e.perform c).state.cycles ∨
      e.machine.halted = false ∧ (e.perform c).machine.halted = true ∧
        (e.perform c).state.cycles = e.state.cycles + j
  | _ => False

theorem performAll_append (e : Engine) (commands more : List Command) :
    e.performAll (commands ++ more) = (e.performAll commands).performAll more :=
  List.foldl_append

theorem performAll_concat (e : Engine) (commands : List Command) (c : Command) :
    e.performAll (commands ++ [c]) = (e.performAll commands).perform c := by
  rw [performAll_append]
  rfl

end Engine

end Chip8
