import Chip8.Journal
import Chip8.Main
import Chip8.Proofs.Breakpoint.Entry
import Chip8.Proofs.Debugger.Chunks
import Chip8.Proofs.Engine.Consistent
import Chip8.Proofs.Engine.Fading
import Chip8.Proofs.Engine.History
import Chip8.Proofs.Engine.Reset
import Chip8.Proofs.Engine.Resume
import Chip8.Proofs.Engine.Split
import Chip8.Proofs.Engine.Time
import Chip8.Proofs.Instruction.Arithmetic
import Chip8.Proofs.Instruction.Digits
import Chip8.Proofs.Instruction.Drawings
import Chip8.Proofs.Instruction.Effect
import Chip8.Proofs.Listing.Range
import Chip8.Proofs.Machine.Mixture
import Chip8.Proofs.Machine.Preview
import Chip8.Proofs.Machine.Wait
import Chip8.Proofs.Opcode.Table
import Chip8.Proofs.Pane.Registers
import Chip8.Proofs.Pane.Removal
import Chip8.Proofs.Program.Demo
import Chip8.Proofs.Settings.Color
import Chip8.Proofs.Window.Keys
import Chip8.Proofs.Window.Refusal
import Chip8.Proofs.Window.Status
