/-!
# The screen

The screen has 32 rows of 64 pixels, each row a bit vector with the leftmost pixel as its highest
bit. A sprite is a list of bytes, one for each of its rows. `Screen.sprite` is the screen on which
nothing but a sprite is lit, wrapped around at all edges; drawing exchanges exactly its pixels, and
collides if one of them was lit.
-/

namespace Chip8

def screenWidth : Nat := 64

def screenHeight : Nat := 32

/-- The pixels of a screen by rows from the top. -/
structure Screen where
  rows : Vector (BitVec 64) 32
  deriving DecidableEq

namespace Screen

def blank : Screen :=
  ⟨Vector.replicate 32 0⟩

/-- Whether the pixel in a column of a row is lit. -/
def pixel (s : Screen) (column : Nat) (row : Fin 32) : Bool :=
  s.rows[row].getMsbD column

/-- There are no pixels beyond the last column. -/
theorem pixel_of_le {c : Nat} (s : Screen) (r : Fin 32) (h : screenWidth ≤ c) :
    s.pixel c r = false :=
  BitVec.getMsbD_of_ge _ c h

theorem lt_of_pixel {s : Screen} {c : Nat} {r : Fin 32} (h : s.pixel c r = true) :
    c < screenWidth := by
  refine Nat.lt_of_not_le fun hge => ?_
  rw [pixel_of_le s r hge] at h
  cases h

/-- A screen is known by its pixels. -/
theorem ext_pixel {s t : Screen} (h : ∀ c < screenWidth, ∀ r, s.pixel c r = t.pixel c r) :
    s = t := by
  obtain ⟨rows⟩ := s
  obtain ⟨rows'⟩ := t
  congr 1
  apply Vector.ext
  intro r hr
  exact BitVec.eq_of_getMsbD_eq fun c hc => h c hc ⟨r, hr⟩

/-- A sprite byte as a row whose first pixel is in column `column`, wrapped around. -/
def spriteRow (column : Nat) (b : UInt8) : BitVec 64 :=
  (b.toBitVec ++ (0 : BitVec 56)).rotateRight column

/-- The screen that shows a sprite alone, its upper left corner at a column and a row. -/
def sprite (column row : Nat) (bytes : List UInt8) : Screen :=
  ⟨Vector.ofFn fun r =>
    match bytes[(r.val + 32 - row % 32) % 32]? with
    | some b => spriteRow (column % 64) b
    | none => 0⟩

/-- The pixels that are lit on exactly one of two screens. -/
def xor (s t : Screen) : Screen :=
  ⟨Vector.zipWith (· ^^^ ·) s.rows t.rows⟩

@[simp] theorem pixel_xor (s t : Screen) (c : Nat) (r : Fin 32) :
    (s.xor t).pixel c r = (s.pixel c r ^^ t.pixel c r) := by
  have hrow : (s.xor t).rows[r] = s.rows[r] ^^^ t.rows[r] := Vector.getElem_zipWith _
  unfold pixel
  rw [hrow, BitVec.getMsbD_xor]

/-- Whether some pixel is lit on both of two screens. -/
def meets (s t : Screen) : Bool :=
  (Vector.zipWith (· &&& ·) s.rows t.rows).any (· != 0)

/-- Draws a sprite, and tells whether it put a lit pixel out. -/
def draw (s : Screen) (column row : Nat) (bytes : List UInt8) : Screen × Bool :=
  let shape := sprite column row bytes
  (s.xor shape, s.meets shape)

/-- The lit pixels as column and row, by rows from the top and in each from the left. -/
def litPixels (s : Screen) : List (Nat × Nat) :=
  (List.finRange 32).flatMap fun row =>
    ((List.range 64).filter fun column => s.pixel column row).map fun column => (column, row.val)

/-- The rows that are not dark, with their numbers. -/
def litRows (s : Screen) : List (Fin 32 × BitVec 64) :=
  ((List.finRange 32).map fun row => (row, s.rows[row])).filter (·.2 != 0)

def litCount (s : Screen) : Nat :=
  s.litPixels.length

end Screen

end Chip8
