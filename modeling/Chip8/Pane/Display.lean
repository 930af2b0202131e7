import Chip8.Settings

/-!
# The display pane

The display pane paints a screen enlarged: every pixel becomes a square, and the lit ones are filled
with the foreground colour. A frame that is shown already is not painted again.
-/

namespace Chip8

/-- A filled square. -/
structure Square where
  x : Int
  y : Int
  side : Int
  color : Color
  deriving DecidableEq

/-- The display pane. -/
structure DisplayPane where
  scale : Int
  foreground : Color
  background : Color
  shown : Option Screen
  repaints : Nat

namespace DisplayPane

/-- The pane on which nothing is shown. -/
def create (scale : Int) (foreground background : Color) : DisplayPane :=
  ⟨scale, foreground, background, none, 0⟩

def size (p : DisplayPane) : Int × Int :=
  (screenWidth * p.scale, screenHeight * p.scale)

/-- Shows the screen of a frame, unless this very frame is shown already. -/
def offer (p : DisplayPane) (fresh : Bool) (screen : Screen) : DisplayPane :=
  if fresh then { p with shown := some screen, repaints := p.repaints + 1 } else p

def square (p : DisplayPane) (pixel : Nat × Nat) : Square :=
  ⟨pixel.1 * p.scale, pixel.2 * p.scale, p.scale, p.foreground⟩

def squares (p : DisplayPane) : List Square :=
  match p.shown with
  | none => []
  | some screen => screen.litPixels.map p.square

end DisplayPane

end Chip8
