import Chip8.Screen
import Mathlib.Data.List.Nodup
import Mathlib.Order.Fin.Basic

/-!
# The screen pixel by pixel

A screen is kept and drawn on by rows. This file looks at it through `pixel` alone. Two screens with
the same pixels are the same (`ext_pixel`), the exchange of a sprite exchanges each of its pixels
(`pixel_xor`), two screens meet in a pixel (`meets_iff`), and a sprite lights exactly the pixels
that its bits reach when they are counted on from its corner and wrapped around at the edges
(`pixel_sprite_iff`). No two bits reach the same pixel, so a sprite can as well be drawn bit by bit,
looking at each pixel before it is exchanged (`draw_eq_foldl`).
-/

namespace Chip8.Screen

variable {s t : Screen} {column row c : Nat} {r : Fin 32}

/-- A row that is not dark has a lit pixel. -/
theorem ne_zero_iff_getMsbD {n : Nat} (v : BitVec n) : v ≠ 0#n ↔ ∃ c, v.getMsbD c = true := by
  constructor
  · intro hne
    by_contra hdark
    apply hne
    apply BitVec.eq_of_getMsbD_eq
    intro c _
    rw [BitVec.getMsbD_zero]
    exact Bool.eq_false_iff.mpr fun hlit => hdark ⟨c, hlit⟩
  · rintro ⟨c, hlit⟩ rfl
    rw [BitVec.getMsbD_zero] at hlit
    cases hlit

/-- Two screens meet in a pixel that is lit on both. -/
theorem meets_iff (s t : Screen) :
    s.meets t = true ↔ ∃ c r, s.pixel c r = true ∧ t.pixel c r = true := by
  have hrow : ∀ (r : Nat) (hr : r < 32),
      ((Vector.zipWith (· &&& ·) s.rows t.rows)[r] != 0) = true ↔
        ∃ c, s.pixel c ⟨r, hr⟩ = true ∧ t.pixel c ⟨r, hr⟩ = true := by
    intro r hr
    rw [bne_iff_ne, Vector.getElem_zipWith]
    show s.rows[r] &&& t.rows[r] ≠ 0#64 ↔ _
    rw [ne_zero_iff_getMsbD]
    simp only [BitVec.getMsbD_and, Bool.and_eq_true]
    rfl
  unfold meets
  rw [Vector.any_iff_exists]
  constructor
  · rintro ⟨r, hr, hlit⟩
    obtain ⟨c, hc⟩ := (hrow r hr).mp hlit
    exact ⟨c, ⟨r, hr⟩, hc⟩
  · rintro ⟨c, ⟨r, hr⟩, hc⟩
    exact ⟨r, hr, (hrow r hr).mpr ⟨c, hc⟩⟩

/-! ## Sprites -/

/-- The bits of a byte, the highest one first. -/
theorem getMsbD_toBitVec (b : UInt8) {i : Nat} (hi : i < 8) :
    b.toBitVec.getMsbD i = b.toNat.testBit (7 - i) := by
  rw [BitVec.getMsbD_eq_getLsbD, decide_eq_true hi, Bool.true_and, ← UInt8.toNat_toBitVec,
    BitVec.testBit_toNat]

/-- A row of a sprite is lit where its bits are, counted on from a column and wrapped around. -/
theorem getMsbD_spriteRow_iff (hcolumn : column < screenWidth) (b : UInt8) :
    (spriteRow column b).getMsbD c = true ↔
      ∃ i < 8, c = (column + i) % screenWidth ∧ b.toNat.testBit (7 - i) = true := by
  have hcolumn : column < 64 := hcolumn
  -- Before it is rotated, the byte stands at the left edge.
  have hbyte : ∀ i, (b.toBitVec ++ (0 : BitVec 56)).getMsbD i = true ↔ i < 8 ∧
      b.toNat.testBit (7 - i) = true := by
    intro i
    rw [BitVec.getMsbD_append]
    split
    next hle =>
      have hzero : (0 : BitVec 56).getMsbD (i - 8) = false := BitVec.getMsbD_zero
      rw [hzero]
      exact iff_of_false Bool.false_ne_true fun h => by omega
    next hlt => rw [getMsbD_toBitVec b (by omega), and_iff_right (by omega)]
  unfold spriteRow
  rw [BitVec.getMsbD_rotateRight, Nat.mod_eq_of_lt hcolumn, Bool.and_eq_true, decide_eq_true_eq]
  show _ ↔ ∃ i < 8, c = (column + i) % 64 ∧ _
  constructor
  · rintro ⟨hc, hlit⟩
    split at hlit
    next hlt =>
      obtain ⟨hi, hbit⟩ := (hbyte _).mp hlit
      exact ⟨_, hi, by omega, hbit⟩
    next hge =>
      obtain ⟨hi, hbit⟩ := (hbyte _).mp hlit
      exact ⟨_, hi, by omega, hbit⟩
  · rintro ⟨i, hi, rfl, hbit⟩
    refine ⟨Nat.mod_lt _ (by decide), ?_⟩
    split
    next hlt =>
      have hplace : (64 + (column + i) % 64 - column) % 64 = i := by omega
      rw [hplace]
      exact (hbyte i).mpr ⟨hi, hbit⟩
    next hge =>
      have hplace : (column + i) % 64 - column = i := by omega
      rw [hplace]
      exact (hbyte i).mpr ⟨hi, hbit⟩

/-- **A sprite lights** exactly the pixels that its bits reach. It has at most as many rows as the
screen, so no row of the screen shows two of its rows. -/
theorem pixel_sprite_iff {bytes : List UInt8} (hbytes : bytes.length ≤ screenHeight) :
    (sprite column row bytes).pixel c r = true ↔
      ∃ i < 8, ∃ j, ∃ b ∈ bytes[j]?, c = (column + i) % screenWidth ∧
      r.val = (row + j) % screenHeight ∧
        b.toNat.testBit (7 - i) = true := by
  have hbytes : bytes.length ≤ 32 := hbytes
  have hrow : (sprite column row bytes).rows[r] = _ := Vector.getElem_ofFn _
  have hcolumn : column % 64 < screenWidth := Nat.mod_lt _ (by decide)
  -- The row of the screen decides which row of the sprite it shows.
  have hplace : ∀ j < 32, r.val = (row + j) % 32 ↔ (r.val + 32 - row % 32) % 32 = j := by omega
  unfold pixel
  rw [hrow]
  dsimp only
  show _ ↔ ∃ i < 8, ∃ j, ∃ b ∈ bytes[j]?, c = (column + i) % 64 ∧ r.val = (row + j) % 32 ∧ _
  constructor
  · intro hlit
    split at hlit
    next b hb =>
      obtain ⟨i, hi, hc, hbit⟩ := (getMsbD_spriteRow_iff hcolumn b).mp hlit
      have hc : c = (column % 64 + i) % 64 := hc
      exact ⟨i, hi, _, b, hb, by omega, (hplace _ (by omega)).mpr rfl, hbit⟩
    next =>
      rw [show (0 : BitVec 64).getMsbD c = false from BitVec.getMsbD_zero] at hlit
      cases hlit
  · rintro ⟨i, hi, j, b, hb, hc, hr, hbit⟩
    have hj := List.getElem?_eq_some_iff.mp hb |>.1
    rw [(hplace j (by omega)).mp hr]
    have hb : bytes[j]? = some b := hb
    rw [hb]
    refine (getMsbD_spriteRow_iff hcolumn b).mpr ⟨i, hi, ?_, hbit⟩
    show c = (column % 64 + i) % 64
    omega

/-! ## Bit by bit -/

/-- The screen on which a single pixel is lit. -/
def dot (p : Nat × Fin 32) : Screen :=
  ⟨Vector.ofFn fun r => if r = p.2 then BitVec.twoPow 64 (63 - p.1) else 0⟩

theorem pixel_dot {p : Nat × Fin 32} (hp : p.1 < screenWidth) :
    (dot p).pixel c r = decide ((c, r) = p) := by
  have hp : p.1 < 64 := hp
  have hrow : (dot p).rows[r] = if r = p.2 then BitVec.twoPow 64 (63 - p.1) else 0#64 :=
    Vector.getElem_ofFn _
  unfold pixel
  rw [hrow, Bool.eq_iff_iff, decide_eq_true_iff, Prod.ext_iff]
  by_cases hr : r = p.2
  · rw [if_pos hr, BitVec.getMsbD_twoPow, decide_eq_true (by omega), Bool.true_and,
      decide_eq_true_iff]
    constructor
    · intro hc
      exact ⟨show c = p.1 by omega, hr⟩
    · rintro ⟨rfl, -⟩
      omega
  · rw [if_neg hr, BitVec.getMsbD_zero]
    exact iff_of_false Bool.false_ne_true fun h => hr h.2

/-- Exchanges one pixel, and notes if it was lit. -/
def exchange (drawn : Screen × Bool) (p : Nat × Fin 32) : Screen × Bool :=
  (drawn.1.xor (dot p), drawn.2 || drawn.1.pixel p.1 p.2)

/-- Pixels that are exchanged one after the other, none of them twice: each of them is looked at as
it was at the beginning. -/
theorem foldl_exchange {ps : List (Nat × Fin 32)} (hnodup : ps.Nodup)
    (hps : ∀ p ∈ ps, p.1 < screenWidth) (drawn : Screen × Bool) :
    (∀ c r, (ps.foldl exchange drawn).1.pixel c r = (drawn.1.pixel c r ^^ decide ((c, r) ∈ ps))) ∧
      ((ps.foldl exchange drawn).2 = true ↔ drawn.2 = true ∨ ∃ p ∈ ps,
        drawn.1.pixel p.1 p.2 = true) := by
  induction ps generalizing drawn with
  | nil => simp
  | cons p rest ih =>
    obtain ⟨hp, hrest⟩ := List.nodup_cons.mp hnodup
    have hfirst : ∀ c r, (exchange drawn p).1.pixel c r =
        (drawn.1.pixel c r ^^ decide ((c, r) = p)) := by
      intro c r
      unfold exchange
      rw [pixel_xor, pixel_dot (hps p List.mem_cons_self)]
    obtain ⟨hpixel, hhit⟩ :=
      ih hrest (fun q hq => hps q (List.mem_cons_of_mem _ hq)) (exchange drawn p)
    refine ⟨fun c r => ?_, ?_⟩
    · -- A pixel is the first one or one of the others, and not both.
      rw [List.foldl_cons, hpixel, hfirst, Bool.xor_assoc]
      congr 1
      by_cases heq : (c, r) = p
      · rw [heq]
        simp [hp]
      · simp [heq]
    · have hsame : ∀ q ∈ rest, (exchange drawn p).1.pixel q.1 q.2 = drawn.1.pixel q.1 q.2 := by
        intro q hq
        have hne : ¬ (q.1, q.2) = p := fun heq => hp (heq ▸ hq)
        rw [hfirst, decide_eq_false hne, Bool.xor_false]
      rw [List.foldl_cons, hhit, List.exists_mem_cons_iff, ← or_assoc]
      unfold exchange at hsame ⊢
      rw [Bool.or_eq_true]
      exact or_congr_right (exists_congr fun q => and_congr_right fun hq => by rw [hsame q hq])

/-- The pixels that the bits of a sprite reach, row by row and in each row from the highest
bit on. -/
def reached (column row : Nat) (bytes : List UInt8) : List (Nat × Fin 32) :=
  (List.range bytes.length).flatMap fun j =>
    ((List.range 8).filter fun i => (bytes[j]?.getD 0).toNat.testBit (7 - i)).map fun i =>
      ((column + i) % screenWidth, ⟨(row + j) % 32, Nat.mod_lt _ (by decide)⟩)

theorem mem_reached_iff {bytes : List UInt8} :
    (c, r) ∈ reached column row bytes ↔
      ∃ i < 8, ∃ j, ∃ b ∈ bytes[j]?, c = (column + i) % screenWidth ∧
      r.val = (row + j) % screenHeight ∧
        b.toNat.testBit (7 - i) = true := by
  unfold reached
  simp only [List.mem_flatMap, List.mem_map, List.mem_filter, List.mem_range,
    Prod.mk.injEq, Fin.ext_iff]
  constructor
  · rintro ⟨j, hj, i, ⟨hi, hbit⟩, hc, hr⟩
    rw [List.getElem?_eq_getElem hj, Option.getD_some] at hbit
    exact ⟨i, hi, j, bytes[j], List.getElem?_eq_getElem hj, hc.symm, hr.symm, hbit⟩
  · rintro ⟨i, hi, j, b, hb, hc, hr, hbit⟩
    have hb : bytes[j]? = some b := hb
    refine ⟨j, (List.getElem?_eq_some_iff.mp hb).1, i, ⟨hi, ?_⟩, hc.symm, hr.symm⟩
    rw [hb]
    exact hbit

theorem nodup_reached {bytes : List UInt8} (hbytes : bytes.length ≤ screenHeight) :
    (reached column row bytes).Nodup := by
  have hbytes : bytes.length ≤ 32 := hbytes
  refine List.nodup_flatMap.mpr ⟨fun j _ => ?_, ?_⟩
  · refine List.Nodup.map_on ?_ (List.nodup_range.filter _)
    intro i hi i' hi' heq
    have hi := List.mem_range.mp (List.mem_of_mem_filter hi)
    have hi' := List.mem_range.mp (List.mem_of_mem_filter hi')
    have hcolumn : (column + i) % 64 = (column + i') % 64 := congrArg Prod.fst heq
    omega
  · refine List.nodup_range.pairwise_of_forall_ne fun j hj j' hj' hne => ?_
    -- Two rows of a sprite lie in different rows of the screen.
    rintro ⟨c, r⟩ hmem hmem'
    obtain ⟨i, -, heq⟩ := List.mem_map.mp hmem
    obtain ⟨i', -, heq'⟩ := List.mem_map.mp hmem'
    have hrow : (row + j) % 32 = (row + j') % 32 :=
      congrArg (fun p => p.2.val) (heq.trans heq'.symm)
    have hj := List.mem_range.mp hj
    have hj' := List.mem_range.mp hj'
    omega

/-- **Drawing a sprite** is exchanging the pixels that its bits reach, one after the other, and
noting on the way whether one of them is lit. -/
theorem draw_eq_foldl (s : Screen) (column row : Nat) {bytes : List UInt8}
    (hbytes : bytes.length ≤ screenHeight) :
    s.draw column row bytes = (reached column row bytes).foldl exchange (s, false) := by
  have hwidth : ∀ p ∈ reached column row bytes, p.1 < screenWidth := by
    rintro ⟨c, r⟩ hp
    obtain ⟨i, -, j, b, -, rfl, -⟩ := mem_reached_iff.mp hp
    exact Nat.mod_lt _ (by decide)
  have hsprite : ∀ c r, (sprite column row bytes).pixel c r =
      decide ((c, r) ∈ reached column row bytes) := by
    intro c r
    rw [Bool.eq_iff_iff, decide_eq_true_iff, pixel_sprite_iff hbytes, mem_reached_iff]
  obtain ⟨hpixel, hhit⟩ := foldl_exchange (nodup_reached hbytes) hwidth (s, false)
  refine Prod.ext (ext_pixel fun c _ r => ?_) ?_
  · show (s.xor (sprite column row bytes)).pixel c r = _
    rw [pixel_xor, hsprite, hpixel]
  · show s.meets (sprite column row bytes) = _
    rw [Bool.eq_iff_iff, meets_iff, hhit]
    simp only [hsprite, decide_eq_true_iff, Bool.false_eq_true, false_or, Prod.exists]
    exact exists_congr fun c => exists_congr fun r => and_comm

end Chip8.Screen
