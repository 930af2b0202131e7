import Chip8.Execution
import Chip8.Proofs.Memory.Replay
import Chip8.Proofs.Opcode.Encoding
import Chip8.Proofs.Screen

/-!
# Drawing, pixel by pixel

The words `Dxyn` take a sprite from memory and draw it at a place that two registers name. The
sprite is fetched as a block (`fetchBlock_eq`), whose rows beyond the memory are dark and leave
nothing in the log (`reads_eq`). `SpriteLights` says which pixels it lights, in terms of the
registers and of the memory alone, and `dispatch_draw` what has become of a state: these pixels
are exchanged, the flag register tells whether one of them went out, the reads have been
logged, and nothing else has changed. The registers are those of before also where one of them
is the flag register.
-/

namespace Chip8

namespace Memory

variable {m : Memory}

/-- **Fetching a block** gives its bytes, zero where there is no cell, and logs its reads. -/
theorem fetchBlock_eq (m : Memory) (a : Int) (count : Nat) :
    m.fetchBlock a count =
      ((List.range count).map fun j => m.getD (a + (j : Nat)),
        { m with log := m.log ++ m.reads a count }) := by
  induction count generalizing m a with
  | zero =>
    show ([], m) = ([], { m with log := m.log ++ [] })
    rw [List.append_nil]
  | succ count ih =>
    have hplace : ∀ j : Nat, a + 1 + j = a + (j + 1 : Nat) := fun j => by omega
    have hstep : m.fetchBlock a (count + 1) =
        ((m.fetchCell a).1 :: ((m.fetchCell a).2.fetchBlock (a + 1) count).1,
          ((m.fetchCell a).2.fetchBlock (a + 1) count).2) := rfl
    rw [hstep, ih, fetchCell_eq, List.range_succ_eq_map, List.map_cons, List.map_map]
    refine Prod.ext ?_ ?_
    · -- The rest is fetched from the memory that the first read has logged, which has the
      -- same cells.
      refine congrArg₂ List.cons (by rw [Int.natCast_zero, Int.add_zero])
        (List.map_congr_left fun j _ => ?_)
      rw [hplace]
      rfl
    · have hlog : ∀ log, Memory.reads { m with log } (a + 1) count = m.reads (a + 1) count :=
        fun log => reads_congr _ _ rfl
      rw [hlog, List.append_assoc]
      rfl

/-- **The reads of a block** are one for each of its rows that has a cell, in their order. -/
theorem reads_eq (m : Memory) (a : Int) (count : Nat) :
    m.reads a count =
      ((List.range count).filter fun j => m.contains (a + (j : Nat))).map fun j =>
        .read (a + (j : Nat)) (m.getD (a + (j : Nat))) := by
  induction count generalizing a with
  | zero => rfl
  | succ count ih =>
    have hplace : ∀ j : Nat, a + 1 + j = a + (j + 1 : Nat) := fun j => by omega
    have hrest : m.reads a (count + 1) = ((m.get? a).map (.read a)).toList ++
        m.reads (a + 1) count := rfl
    have hfirst : ((m.get? a).map (Access.read a)).toList =
        if m.contains a then [.read a (m.getD a)] else [] := by
      unfold getD
      cases hb : m.get? a with
      | none => rw [(m.get?_eq_none_iff a).mp hb, if_neg Bool.false_ne_true]; rfl
      | some b => rw [contains_of_get? hb, if_pos rfl]; rfl
    rw [hrest, ih, hfirst, List.range_succ_eq_map, List.filter_cons, List.filter_map]
    simp only [hplace, Int.natCast_zero, Int.add_zero]
    split
    · rw [List.map_cons, List.map_map, Int.natCast_zero, Int.add_zero]
      rfl
    · rw [List.map_map]
      rfl

end Memory

namespace State

variable {s : State} {x y : Reg} {height : Nat}

/-- Whether a pixel is one of those that a sprite lights: one of its bits is set, and reaches the
pixel when it is counted on from the place that two registers name. -/
def SpriteLights (s : State) (x y : Reg) (height c : Nat) (r : Fin 32) : Prop :=
  ∃ i < 8, ∃ j < height,
    (c : Int) = (s.v.get x + (i : Nat)) % screenWidth ∧
      (r.val : Int) = (s.v.get y + (j : Nat)) % screenHeight ∧
      (s.memory.getD (s.index + (j : Nat))).toNat.testBit (7 - i) = true

instance (c : Nat) (r : Fin 32) : Decidable (s.SpriteLights x y height c r) :=
  inferInstanceAs (Decidable (∃ i < 8, ∃ j < height, _ ∧ _ ∧ _))

/-- The sprite that is drawn lights these pixels. -/
theorem pixel_sprite_fetched (s : State) (x y : Reg) (hheight : height ≤ screenHeight) (c : Nat)
    (r : Fin 32) :
    (Screen.sprite (s.v.get x % screenWidth).toNat (s.v.get y % screenHeight).toNat
      (s.memory.fetchBlock s.index height).1).pixel c r =
        decide (s.SpriteLights x y height c r) := by
  rw [Memory.fetchBlock_eq, Bool.eq_iff_iff, decide_eq_true_iff,
    Screen.pixel_sprite_iff (by simpa using hheight)]
  unfold SpriteLights
  have hcolumn : ∀ i : Nat, c = ((s.v.get x % screenWidth).toNat + i) % screenWidth ↔
      (c : Int) = (s.v.get x + i) % screenWidth := by
    intro i
    show c = ((s.v.get x % 64).toNat + i) % 64 ↔ (c : Int) = (s.v.get x + i) % 64
    omega
  have hrow : ∀ j : Nat, r.val = ((s.v.get y % screenHeight).toNat + j) % screenHeight ↔
      (r.val : Int) = (s.v.get y + j) % screenHeight := by
    intro j
    show r.val = ((s.v.get y % 32).toNat + j) % 32 ↔ (r.val : Int) = (s.v.get y + j) % 32
    omega
  refine exists_congr fun i => and_congr_right fun _ => exists_congr fun j => ?_
  rw [← hcolumn, ← hrow]
  constructor
  · rintro ⟨b, hb, hc, hr, hbit⟩
    obtain ⟨hj, rfl⟩ := List.getElem?_eq_some_iff.mp hb
    rw [List.length_map, List.length_range] at hj
    rw [List.getElem_map, List.getElem_range] at hbit
    exact ⟨hj, hc, hr, hbit⟩
  · rintro ⟨hj, hc, hr, hbit⟩
    refine ⟨_, ?_, hc, hr, hbit⟩
    show _ = _
    rw [List.getElem?_map, List.getElem?_range hj, Option.map_some]

/-- **Drawing a sprite** exchanges the pixels that it lights, sets the flag register to one exactly
if a pixel has gone out, logs the reads of its rows, and changes nothing else. -/
theorem drawSprite_eq (s : State) (x y : Reg) (hheight : height ≤ screenHeight) :
    ∃ screen,
      (∀ c r, screen.pixel c r = (s.screen.pixel c r ^^ decide (s.SpriteLights x y height c r))) ∧
      s.drawSprite x y height = { s with
        screen
        v := s.v.set flagReg
          (if ∃ c < screenWidth, ∃ r, s.screen.pixel c r = true ∧
            screen.pixel c r = false then 1 else 0)
        memory := { s.memory with log := s.memory.log ++ s.memory.reads s.index height } } := by
  have hsprite := s.pixel_sprite_fetched x y hheight
  have hmemory := congrArg Prod.snd (s.memory.fetchBlock_eq s.index height)
  have hdrawn : s.drawSprite x y height = { s with
      screen := s.screen.xor _
      v := s.v.set flagReg (if s.screen.meets _ then 1 else 0)
      memory := (s.memory.fetchBlock s.index height).2 } := rfl
  generalize Screen.sprite _ _ (s.memory.fetchBlock s.index height).1 = sprite at hsprite hdrawn
  -- The screens meet in a pixel that is lit before and dark after.
  have hhit : s.screen.meets sprite = true ↔
      ∃ c < screenWidth, ∃ r, s.screen.pixel c r = true ∧
        (s.screen.xor sprite).pixel c r = false := by
    rw [Screen.meets_iff]
    refine exists_congr fun c => ?_
    constructor
    · rintro ⟨r, hold, hlit⟩
      exact ⟨Screen.lt_of_pixel hold, r, hold, by rw [Screen.pixel_xor, hold, hlit]; rfl⟩
    · rintro ⟨-, r, hold, hnew⟩
      rw [Screen.pixel_xor, hold, Bool.true_xor, Bool.not_eq_false'] at hnew
      exact ⟨r, hold, hnew⟩
  refine ⟨s.screen.xor sprite, fun c r => by rw [Screen.pixel_xor, hsprite], ?_⟩
  rw [hdrawn, hmemory]
  simp only [hhit]

end State

/-- The word `Dxyn`. -/
def Word.drawing (x y : Reg) (n : Fin 16) : Word :=
  .ofDigits 0xD (.ofFin x) (.ofFin y) (.ofFin n)

namespace Operation

/-- The words `Dxyn` are drawings. -/
theorem find?_drawing (x y : Reg) (n : Fin 16) :
    Opcode.find? (Word.drawing x y n).toNat =
      some ⟨0xF000, 0xD000, fun w => .draw w.x w.y w.nibble⟩ := by
  refine (Opcode.find?_eq_some_iff_fits _ (by simp [Opcode.patterns]) (f := .first 0xD) rfl rfl).mpr
    ?_
  rw [Word.ofOpcode_toNat, Form.fits_first_iff]
  exact (Word.ofDigits_inj.mp (Word.ofDigits_digit _)).1

/-- What is cut out of a word `Dxyn`. -/
theorem draw_drawing (x y : Reg) (n : Fin 16) :
    Instruction.draw (Word.drawing x y n).x (Word.drawing x y n).y (Word.drawing x y n).nibble =
      .draw x y n := by
  obtain ⟨-, hx, hy, hn⟩ := Word.ofDigits_inj.mp (Word.ofDigits_digit (Word.drawing x y n))
  have hx : (Word.drawing x y n).x = x := congrArg BitVec.toFin hx
  have hy : (Word.drawing x y n).y = y := congrArg BitVec.toFin hy
  have hn : (Word.drawing x y n).nibble = n := congrArg BitVec.toFin hn
  rw [hx, hy, hn]

/-- **A word `Dxyn` is exact**, on every state and for all registers: a pixel is exchanged if a bit
of the sprite reaches it, and stays as it was otherwise; the flag register becomes one if some pixel
goes out, and zero otherwise; one read is logged for each row of the sprite that lies in memory, in
their order; and nothing else changes. -/
theorem dispatch_draw (s : State) (d : Dice) (address : Int) (x y : Reg) (n : Fin 16) :
    ∃ screen,
      (∀ c r, screen.pixel c r = (s.screen.pixel c r ^^ decide (s.SpriteLights x y n c r))) ∧
      dispatch (Word.drawing x y n).toNat address s d = .ok
        (⟨(Word.drawing x y n).toNat, address, .draw x y n⟩,
          { s with
            screen
            v := s.v.set flagReg
              (if ∃ c < screenWidth, ∃ r, s.screen.pixel c r = true ∧
                screen.pixel c r = false then 1 else 0)
            memory := { s.memory with
              log := s.memory.log ++
                ((List.range n).filter fun j => s.memory.contains (s.index + (j : Nat))).map
                  fun j => .read (s.index + (j : Nat)) (s.memory.getD (s.index + (j : Nat))) } },
          d) := by
  have hheight : n.val ≤ screenHeight := Nat.le_trans (Nat.le_of_lt n.isLt) (by decide)
  obtain ⟨screen, hpixel, hdrawn⟩ := s.drawSprite_eq x y hheight
  refine ⟨screen, hpixel, ?_⟩
  rw [← s.memory.reads_eq, ← hdrawn]
  have hop : ofPattern ⟨0xF000, 0xD000, fun w => .draw w.x w.y w.nibble⟩
      (Word.drawing x y n).toNat address =
      ⟨(Word.drawing x y n).toNat, address, .draw x y n⟩ := by
    rw [← draw_drawing x y n]
    unfold ofPattern
    rw [Word.ofOpcode_toNat]
  unfold dispatch
  rw [find?_drawing]
  dsimp only
  rw [hop]
  rfl

end Operation

end Chip8
