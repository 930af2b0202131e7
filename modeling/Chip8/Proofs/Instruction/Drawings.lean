import Chip8.Proofs.Instruction.Draw
import Chip8.Proofs.Listing
import Mathlib.Algebra.BigOperators.Group.List.Lemmas
import Mathlib.Algebra.BigOperators.Ring.List
import Mathlib.Algebra.Ring.Parity

/-!
# Many drawings on one screen

A `Drawing` is a word `Dxyn` with all that it is executed on but for the screen, and its `Shape` is
what counts of that: where the corner of the sprite comes to lie, and the rows of the sprite. A
drawing exchanges the pixels of its shape (`execute_eq`), so after any number of them a pixel has
been exchanged if an odd number of the shapes light it (`pixel_foldl_exchanged`). That number has
nothing to do with the order of the drawings, and it is even where each shape has been drawn an even
number of times. The main result is `drawings_compose`.
-/

namespace Chip8

/-- What is drawn: a sprite, and the column and the row of its upper left corner. -/
structure Shape where
  column : Nat
  row : Nat
  bytes : List UInt8
  deriving DecidableEq

/-- The screen that shows a shape alone. -/
def Shape.alone (shape : Shape) : Screen :=
  Screen.sprite shape.column shape.row shape.bytes

/-- A word `Dxyn` at an address, with the state and the dice that it is executed on. The screen of
the state does not matter. -/
structure Drawing where
  x : Reg
  y : Reg
  height : Fin 16
  address : Int
  state : State
  dice : Dice

/-! ## Exchanging the pixels of shapes -/

namespace Screen

variable {s : Screen} {shapes : List Shape}

/-- The screen after the pixels of a shape have been exchanged. -/
def exchanged (s : Screen) (shape : Shape) : Screen :=
  s.xor shape.alone

/-- **A pixel has been exchanged** if an odd number of shapes light it. -/
theorem pixel_foldl_exchanged (s : Screen) (shapes : List Shape) (c : Nat) (r : Fin 32) :
    (shapes.foldl exchanged s).pixel c r =
      (s.pixel c r ^^ decide (Odd (shapes.countP fun shape => shape.alone.pixel c r))) := by
  induction shapes generalizing s with
  | nil => simp
  | cons shape rest ih =>
    have hfirst : (s.exchanged shape).pixel c r = (s.pixel c r ^^ shape.alone.pixel c r) :=
      pixel_xor ..
    rw [List.foldl_cons, ih, hfirst, List.countP_cons, Bool.xor_assoc]
    congr 1
    cases shape.alone.pixel c r with
    | false => rw [if_neg Bool.false_ne_true, Bool.false_xor, Nat.add_zero]
    | true => rw [if_pos rfl, Bool.true_xor, ← decide_not, decide_eq_decide, Nat.odd_add_one]

/-- The order of the shapes does not matter. -/
theorem foldl_exchanged_perm {shapes' : List Shape} (h : shapes.Perm shapes') :
    shapes.foldl exchanged s = shapes'.foldl exchanged s := by
  apply ext_pixel
  intro c _ r
  rw [pixel_foldl_exchanged, pixel_foldl_exchanged, h.countP_eq]

/-- What is counted over shapes is even if each of them is there an even number of times. -/
theorem even_countP_of_count (h : ∀ shape, Even (shapes.count shape)) (p : Shape → Bool) :
    Even (shapes.countP p) := by
  rw [← List.sum_map_count_dedup_filter_eq_countP, even_iff_two_dvd]
  apply List.dvd_sum
  intro n hn
  obtain ⟨shape, -, rfl⟩ := List.mem_map.mp hn
  exact even_iff_two_dvd.mp (h shape)

/-- Shapes that are each drawn an even number of times leave the screen as it was. -/
theorem foldl_exchanged_of_even (h : ∀ shape, Even (shapes.count shape)) :
    shapes.foldl exchanged s = s := by
  apply ext_pixel
  intro c _ r
  have heven := even_countP_of_count h fun shape => shape.alone.pixel c r
  rw [pixel_foldl_exchanged, decide_eq_false (Nat.not_odd_iff_even.mpr heven), Bool.xor_false]

/-- A shape that has just been drawn meets the screen in the pixels that it has lit. -/
theorem exchanged_meets_iff (s : Screen) (shape : Shape) :
    (s.exchanged shape).meets shape.alone = true ↔
      ∃ c < screenWidth, ∃ r, s.pixel c r = false ∧ (s.exchanged shape).pixel c r = true := by
  have hpixel : ∀ c r, (s.exchanged shape).pixel c r = (s.pixel c r ^^ shape.alone.pixel c r) :=
    pixel_xor s _
  rw [meets_iff]
  constructor
  · rintro ⟨c, r, hnew, hshape⟩
    have hold : s.pixel c r = false := by
      rw [hpixel, hshape, Bool.xor_true, Bool.not_eq_true'] at hnew
      exact hnew
    exact ⟨c, lt_of_pixel hnew, r, hold, hnew⟩
  · rintro ⟨c, -, r, hold, hnew⟩
    have hshape : shape.alone.pixel c r = true := by
      rw [hpixel, hold, Bool.false_xor] at hnew
      exact hnew
    exact ⟨c, r, hnew, hshape⟩

end Screen

/-! ## Drawings -/

namespace Drawing

variable {p p' : Drawing} {screen : Screen}

/-- The shape that a drawing draws. -/
def shape (p : Drawing) : Shape where
  column := (p.state.v.get p.x % screenWidth).toNat
  row := (p.state.v.get p.y % screenHeight).toNat
  bytes := (List.range p.height).map fun j => p.state.memory.getD (p.state.index + (j : Nat))

/-- What executing the word of a drawing makes of its state, with a screen put in. -/
def execute (p : Drawing) (screen : Screen) : Except InstructionError State :=
  (Operation.dispatch (Word.drawing p.x p.y p.height).toNat p.address { p.state with screen }
    p.dice).map (·.2.1)

/-- The screen after drawings one after the other, each executed on what it brings along and on the
screen that the one before has left. -/
def executeAll (screen : Screen) : List Drawing → Except InstructionError Screen
  | [] => .ok screen
  | p :: rest =>
    match p.execute screen with
    | .ok s => executeAll s.screen rest
    | .error e => .error e

/-- The word of a drawing draws a sprite. -/
theorem instruction?_drawing (x y : Reg) (n : Fin 16) :
    Opcode.instruction? (Word.drawing x y n).toNat = some (.draw x y n) := by
  unfold Opcode.instruction?
  rw [Operation.find?_drawing, Option.map_some, Word.ofOpcode_toNat]
  exact congrArg some (Operation.draw_drawing x y n)

theorem execute_eq_drawSprite (p : Drawing) (screen : Screen) :
    p.execute screen = .ok ({ p.state with screen }.drawSprite p.x p.y p.height) := by
  have hdispatch := Listing.dispatch_of_some (instruction?_drawing p.x p.y p.height) p.address
    { p.state with screen } p.dice
  unfold execute
  cases hd : Operation.dispatch (Word.drawing p.x p.y p.height).toNat p.address
    { p.state with screen } p.dice with
  | error e =>
    rw [hd] at hdispatch
    cases hdispatch
  | ok result =>
    rw [hd] at hdispatch
    exact congrArg (Except.map (·.1)) hdispatch

/-- **Executing a drawing** exchanges the pixels of its shape, and sets the flag register if the
shape meets the screen of before. It changes nothing but these two and the log. -/
theorem execute_eq (p : Drawing) (screen : Screen) :
    p.execute screen = .ok { p.state with
      screen := screen.exchanged p.shape
      v := p.state.v.set flagReg (if screen.meets p.shape.alone then 1 else 0) flagReg.isLt
      memory := { p.state.memory with
        log := p.state.memory.log ++ p.state.memory.reads p.state.index p.height } } := by
  have hfetch := p.state.memory.fetchBlock_eq p.state.index p.height
  rw [execute_eq_drawSprite]
  unfold State.drawSprite
  dsimp only
  rw [hfetch]
  rfl

theorem executeAll_eq (drawings : List Drawing) (screen : Screen) :
    executeAll screen drawings = .ok ((drawings.map shape).foldl Screen.exchanged screen) := by
  induction drawings generalizing screen with
  | nil => rfl
  | cons p rest ih =>
    unfold executeAll
    rw [execute_eq]
    exact ih _

/-- A drawing leaves its own shape as it is, unless it takes the place of the corner from the
flag register. -/
theorem shape_left {s : State} (hx : p.x ≠ flagReg) (hy : p.y ≠ flagReg)
    (h : p.execute screen = .ok s) :
    { p with state := s }.shape = p.shape := by
  have hkept : ∀ z : Reg, z ≠ flagReg → ∀ n : Int,
      (p.state.v.set flagReg n).get z = p.state.v.get z := by
    intro z hz n
    have hne : flagReg.val ≠ z.val := fun heq => hz (Fin.ext heq.symm)
    exact Vector.getElem_set_ne _ _ hne
  rw [execute_eq] at h
  cases h
  unfold shape
  dsimp only
  rw [hkept _ hx, hkept _ hy]
  rfl

/-- **Drawings compose by exchanging pixels.** Every list of drawings can be executed on every
screen, and the screen that is left is the same whatever the order in which the shapes are drawn; it
is the one of before if each shape is drawn an even number of times. A drawing behind one of the
same shape sets the flag register to one if the first of the two has lit a pixel, and to zero
otherwise; such is the same word again, unless it takes the place from the flag register. -/
theorem drawings_compose (drawings : List Drawing) (screen : Screen) :
    ∃ final, executeAll screen drawings = .ok final ∧
      (∀ drawings', (drawings'.map shape).Perm (drawings.map shape) →
        executeAll screen drawings' = .ok final) ∧
      ((∀ shape, Even ((drawings.map Drawing.shape).count shape)) → final = screen) ∧
      ∀ p : Drawing, ∃ first, p.execute screen = .ok first ∧
        (p.x ≠ flagReg → p.y ≠ flagReg → { p with state := first }.shape = p.shape) ∧
        ∀ p' : Drawing, p'.shape = p.shape → ∃ second, p'.execute first.screen = .ok second ∧
          second.v.get flagReg =
            if ∃ c < screenWidth, ∃ r, screen.pixel c r = false ∧ first.screen.pixel c r = true
            then 1 else 0 := by
  refine ⟨_, executeAll_eq drawings screen, fun drawings' hperm => ?_,
    Screen.foldl_exchanged_of_even, fun p => ?_⟩
  · rw [executeAll_eq, Screen.foldl_exchanged_perm hperm]
  · refine ⟨_, p.execute_eq screen, fun hx hy => shape_left hx hy (p.execute_eq screen),
      fun p' hshape => ?_⟩
    refine ⟨_, p'.execute_eq _, ?_⟩
    have hflag : ∀ n : Int, (p'.state.v.set flagReg n).get flagReg = n :=
      fun n => Vector.getElem_set_self _
    rw [hflag, hshape]
    simp only [Screen.exchanged_meets_iff]

/-- The drawing of `D013`, of three rows with the corner in the registers `V0` and `V1`. -/
def ofCorner (column row : Int) (bytes : List UInt8) : Drawing :=
  let w : Word := 0xD013
  let s := State.start (Memory.ofCells bytes.toArray) 0x202
  { x := w.x
    y := w.y
    height := w.nibble
    address := 0x200
    state := (s.setReg w.x column).setReg w.y row
    dice := Dice.cycle [] }

/-- A sprite that wraps around at the right and at the bottom. -/
def wrapping : Drawing :=
  ofCorner 60 31 [0xFF, 0x81, 0x3C]

/-- The same sprite, with its corner a whole screen further on. -/
def farther : Drawing :=
  ofCorner 124 63 [0xFF, 0x81, 0x3C]

/-- A sprite that lies over the other one. Its last row is not in memory. -/
def crossing : Drawing :=
  ofCorner 62 31 [0xAA, 0x0F]

theorem drawings_compose_crossing :
    (∃ final, executeAll Screen.blank [wrapping, crossing, farther] = .ok final ∧
      executeAll Screen.blank [crossing, wrapping, farther] = .ok final) ∧
      executeAll Screen.blank [wrapping, crossing, farther, crossing] = .ok Screen.blank ∧
      ∃ first second, wrapping.execute Screen.blank = .ok first ∧
      farther.execute first.screen = .ok second ∧
        second.v.get flagReg = 1 := by
  have hfarther : farther.shape = wrapping.shape := by decide +kernel
  have heven : ∀ shape,
      Even (([wrapping, crossing, farther, crossing].map Drawing.shape).count shape) := by
    intro shape
    rw [List.map_cons, List.map_cons, List.map_cons, hfarther]
    simp only [List.map_cons, List.map_nil, List.count_cons, List.count_nil]
    split <;> split <;> decide
  obtain ⟨final, hfinal, hperm, -, hagain⟩ :=
    drawings_compose [wrapping, crossing, farther] Screen.blank
  obtain ⟨back, hback, -, hrestored, -⟩ :=
    drawings_compose [wrapping, crossing, farther, crossing] Screen.blank
  obtain ⟨first, hfirst, -, hsecond⟩ := hagain wrapping
  obtain ⟨second, hexecute, hflag⟩ := hsecond farther hfarther
  refine ⟨⟨final, hfinal, hperm _ (.swap _ _ _)⟩, hrestored heven ▸ hback, first, second,
    hfirst, hexecute, ?_⟩
  rw [hflag, if_pos]
  rw [execute_eq] at hfirst
  cases hfirst
  exact ⟨60, by decide, 31, by decide +kernel, by decide +kernel⟩

end Drawing

end Chip8
