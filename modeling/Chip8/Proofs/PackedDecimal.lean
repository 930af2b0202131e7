import Chip8.PackedDecimal
import Mathlib.Data.Nat.Digits.Defs

/-!
# Packed decimals are decimal

The packed decimal form of a number has its decimal digits as digits in base sixteen (`pack`). A
decimal digit that has been raised by three if it is five or more, and is then doubled, is the last
digit of its double with the carry in front, sixteen for ten (`two_mul_raised`). Raising a digit
never reaches into the next one (`adjustAt_place`), so a round doubles the packed number and appends
a bit to it (`two_mul_adjust_pack`). By induction on the rounds, the packed number is what the top
bits of the low byte make up (`rounds_eq_pack`), and after eight rounds its digits are those of the
byte (`ofByte_eq`, `exists_digits`).
-/

namespace Chip8.PackedDecimal

/-- The packed decimal form of a number: its decimal digits, one in each group of four bits. -/
def pack (n : Nat) : Nat :=
  Nat.ofDigits 16 (Nat.digits 10 n)

/-- A digit with three added if it is five or more. -/
def raised (d : Nat) : Nat :=
  if 5 ≤ d then d + 3 else d

variable {d h t o n b low place : Nat}

/-! ## Digits -/

theorem raised_lt (hd : d < 10) : raised d < 16 := by
  unfold raised
  split
  · omega
  · omega

/-- Doubling a raised digit carries sixteen where doubling the digit carries ten. -/
theorem two_mul_raised (hd : d < 10) : 2 * raised d = 2 * d % 10 + 16 * (2 * d / 10) := by
  unfold raised
  split
  · omega
  · omega

theorem digit_place (place high : Nat) (hlow : low < 16 ^ place) (hd : d < 16) :
    digit (low + 16 ^ place * (d + 16 * high)) place = d := by
  show (low + 16 ^ place * (d + 16 * high)) / 16 ^ place % 16 = d
  rw [Nat.add_mul_div_left _ _ (Nat.pow_pos (by decide)), Nat.div_eq_of_lt hlow, Nat.zero_add,
    Nat.add_mul_mod_self_left,
    Nat.mod_eq_of_lt hd]

/-- A decimal digit is raised in its place. -/
theorem adjustAt_place (place high : Nat) (hlow : low < 16 ^ place) (hd : d < 10) :
    adjustAt (low + 16 ^ place * (d + 16 * high)) place = low + 16 ^ place *
      (raised d + 16 * high) := by
  unfold adjustAt raised
  rw [digit_place place high hlow (by omega)]
  split
  · show low + 16 ^ place * (d + 16 * high) + 3 * 16 ^ place = low + 16 ^ place *
      (d + 3 + 16 * high)
    rw [Nat.add_assoc, Nat.mul_comm 3, ← Nat.mul_add, Nat.add_right_comm d]
  · rfl

/-- Three decimal digits are raised one by one, and none of them reaches into the next one. -/
theorem adjust_digits (hh : h < 10) (ht : t < 10) (ho : o < 10) :
    adjust (o + 16 * (t + 16 * h)) = raised o + 16 * (raised t + 16 * raised h) := by
  have hones : adjustAt (o + 16 * (t + 16 * h)) 0 = raised o + 16 * (t + 16 * h) := by
    have hraise := adjustAt_place 0 (t + 16 * h) (by decide : 0 < 16 ^ 0) ho
    simpa using hraise
  have htens : adjustAt (raised o + 16 * (t + 16 * h)) 1 = raised o + 16 * (raised t + 16 * h) :=
    adjustAt_place 1 h (raised_lt ho) ht
  have hhundreds : adjustAt (raised o + 16 * (raised t + 16 * h)) 2 = raised o + 16 *
      (raised t + 16 * raised h) := by
    have hlow : raised o + 16 * raised t < 16 ^ 2 := by
      have := raised_lt ho
      have := raised_lt ht
      omega
    have hraise := adjustAt_place 2 0 hlow hh
    have hform (x : Nat) : raised o + 16 * raised t + 16 ^ 2 * (x + 16 * 0) = raised o + 16 *
        (raised t + 16 * x) := by
      omega
    rwa [hform, hform] at hraise
  unfold adjust
  rw [hones, htens, hhundreds]

/-- Three digits that are packed can be taken out again. -/
theorem digit_packed (hh : h < 16) (ht : t < 16) (ho : o < 16) :
    digit (o + 16 * (t + 16 * h)) 2 = h ∧ digit (o + 16 * (t + 16 * h)) 1 = t ∧
    digit (o + 16 * (t + 16 * h)) 0 = o := by
  refine ⟨?_, ?_, ?_⟩
  · show (o + 16 * (t + 16 * h)) / 256 % 16 = h
    omega
  · show (o + 16 * (t + 16 * h)) / 16 % 16 = t
    omega
  · show (o + 16 * (t + 16 * h)) / 1 % 16 = o
    omega

/-! ## Packed numbers -/

theorem pack_eq (n : Nat) : pack n = n % 10 + 16 * pack (n / 10) := by
  rcases Nat.eq_zero_or_pos n with rfl | hpos
  · rfl
  · unfold pack
    rw [Nat.digits_def' (by decide) hpos, Nat.ofDigits_cons]

theorem pack_of_lt (hn : n < 10) : pack n = n := by
  rw [pack_eq, Nat.mod_eq_of_lt hn, Nat.div_eq_of_lt hn]
  rfl

/-- A number of three digits. -/
theorem pack_of_lt_thousand (hn : n < 1000) :
    pack n = n % 10 + 16 * (n / 10 % 10 + 16 * (n / 100)) := by
  have hhundreds : n / 10 / 10 = n / 100 := Nat.div_div_eq_div_mul n 10 10
  rw [pack_eq, pack_eq (n / 10), hhundreds, pack_of_lt (by omega)]

/-- **A round** doubles a packed number of three digits and appends a bit to it. -/
theorem two_mul_adjust_pack (hn : n < 1000) (hb : b < 2) :
    2 * adjust (pack n) + b = pack (2 * n + b) := by
  have hh : n / 100 < 10 := by omega
  have ht : n / 10 % 10 < 10 := by omega
  have ho : n % 10 < 10 := by omega
  -- The digits of the double, each from a digit of the number and the carry that comes up to it.
  have hones : (2 * n + b) % 10 = 2 * (n % 10) % 10 + b := by omega
  have htens : (2 * n + b) / 10 % 10 = 2 * (n / 10 % 10) % 10 + 2 * (n % 10) / 10 := by omega
  have hrest : (2 * n + b) / 10 / 10 = 2 * (n / 100) + 2 * (n / 10 % 10) / 10 := by omega
  have hhundreds : (2 * (n / 100) + 2 * (n / 10 % 10) / 10) % 10 = 2 * (n / 100) % 10 + 2 *
      (n / 10 % 10) / 10 := by omega
  have hthousands : (2 * (n / 100) + 2 * (n / 10 % 10) / 10) / 10 = 2 * (n / 100) / 10 := by omega
  have hcarry : pack (2 * (n / 100) / 10) = 2 * (n / 100) / 10 := pack_of_lt (by omega)
  have hpack : pack (2 * n + b) = 2 * (n % 10) % 10 + b + 16 *
      (2 * (n / 10 % 10) % 10 + 2 * (n % 10) / 10 +
      16 * (2 * (n / 100) % 10 + 2 * (n / 10 % 10) / 10 + 16 * (2 * (n / 100) / 10))) := by
    rw [pack_eq, hones, pack_eq ((2 * n + b) / 10), htens, hrest, pack_eq, hhundreds,
      hthousands, hcarry]
  have hdouble_h := two_mul_raised hh
  have hdouble_t := two_mul_raised ht
  have hdouble_o := two_mul_raised ho
  rw [hpack, pack_of_lt_thousand hn, adjust_digits hh ht ho]
  omega

/-! ## Rounds -/

/-- The low eight bits of an integer are those of its low byte. -/
theorem bit_eq_of_lt (value : Int) (hplace : place < 8) :
    Bits.bit value place = (value % 256).toNat / 2 ^ place % 2 := by
  obtain ⟨k, hk⟩ : ∃ k, place + (k + 1) = 8 := ⟨7 - place, by omega⟩
  have hpow : 2 ^ place * (2 * 2 ^ k) = 256 := by
    rw [← Nat.pow_succ', ← Nat.pow_add]
    exact congrArg (2 ^ ·) hk
  have hbyte : ((value % 256).toNat : Int) = value % 256 :=
    Int.toNat_of_nonneg (Int.emod_nonneg _ (by decide))
  -- What stands before the byte is even even after the shift.
  have hvalue : value = (value % 256).toNat + (2 ^ place : Nat) *
      (2 * ((2 ^ k : Nat) * (value / 256))) := by
    have hcast : ((2 ^ place : Nat) : Int) * (2 * (2 ^ k : Nat)) = 256 := by exact_mod_cast hpow
    have hdiv := Int.emod_add_mul_ediv value 256
    rw [hbyte, ← Int.mul_assoc 2, ← Int.mul_assoc, hcast]
    exact hdiv.symm
  have hne : ((2 ^ place : Nat) : Int) ≠
      0 := by exact_mod_cast (Nat.pow_pos (by decide : 0 < 2)).ne'
  unfold Bits.bit
  show (value / (2 ^ place : Nat) % 2).toNat = _
  conv_lhs => rw [hvalue]
  rw [Int.add_mul_ediv_left _ _ hne, Int.add_mul_emod_self_left]
  exact Int.toNat_natCast _

/-- **The invariant of the rounds**: the accumulator is the packed decimal form of the top bits of
the low byte. -/
theorem rounds_eq_pack (value : Int) {k : Nat} (hk : k ≤ 8) :
    rounds value k = pack ((value % 256).toNat / 2 ^ (8 - k)) := by
  have hbyte : (value % 256).toNat < 256 := by omega
  induction k with
  | zero =>
    have hnone : (value % 256).toNat / 2 ^ (8 - 0) = 0 := Nat.div_eq_of_lt hbyte
    rw [hnone]
    rfl
  | succ k ih =>
    have hplace : 8 - (k + 1) = 7 - k := by omega
    have hbefore : 2 ^ (8 - k) = 2 ^ (7 - k) * 2 := by
      rw [← Nat.pow_succ]
      congr 1
      omega
    have htop : (value % 256).toNat / 2 ^ (8 - k) < 1000 :=
      Nat.lt_of_le_of_lt (Nat.div_le_self _ _) (by omega)
    show 2 * adjust (rounds value k) + Bits.bit value (7 - k) = _
    rw [ih (by omega), bit_eq_of_lt value (by omega),
      two_mul_adjust_pack htop (Nat.mod_lt _ (by decide)), hplace, hbefore,
      ← Nat.div_div_eq_div_mul, Nat.div_add_mod]

/-- **The digits of a byte** are its hundreds, its tens and its ones. -/
theorem ofByte_eq (value : Int) :
    ofByte value = [(value % 256).toNat / 100, (value % 256).toNat / 10 % 10,
      (value % 256).toNat % 10] := by
  have hbyte : (value % 256).toNat < 256 := by omega
  have hrounds := rounds_eq_pack value (Nat.le_refl 8)
  rw [Nat.sub_self, Nat.pow_zero, Nat.div_one, pack_of_lt_thousand (by omega)] at hrounds
  generalize (value % 256).toNat = n at hrounds hbyte ⊢
  obtain ⟨hhundreds, htens, hones⟩ :=
    digit_packed (h := n / 100) (t := n / 10 % 10) (o := n % 10) (by omega) (by omega)
    (by omega)
  unfold ofByte
  rw [hrounds]
  dsimp only
  rw [hhundreds, htens, hones]

/-- **The digits of an integer** are decimal, and make up its low byte. -/
theorem exists_digits (value : Int) :
    ∃ h t o : Nat, ofByte value = [h, t, o] ∧ h ≤ 9 ∧ t ≤ 9 ∧ o ≤ 9 ∧
    100 * (h : Int) + 10 * t + o = value % 256 := by
  refine ⟨_, _, _, ofByte_eq value, ?_, ?_, ?_, ?_⟩
  · omega
  · omega
  · omega
  · omega

end Chip8.PackedDecimal
