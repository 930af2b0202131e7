import Chip8.Numeral.Reader
import Chip8.Proofs.Text
import Mathlib.Algebra.Group.Nat.Defs

/-!
# Written integers can be read back

A number is written as a sign and a row of digits with zeros in front. Horner's rule over the digits
gives the number back (`foldl_digits`), zeros in front do not count, and so the reader of digits
gives back what has been written (`readDigits_padZeros`); no digit looks like a sign, so the sign is
found again as well (`readSigned_written`). Two integers that look the same are therefore the same
(`upperHex_inj`). The digits are those that the standard library writes, in capitals
(`map_upperDigit_digits`), and a natural number that has room in the width is written with exactly
that many characters (`length_upperHexChars`). In a text that consists of what has been written
there is nothing to be made plain, no blank and no mark of a base, and so the whole text is read as
the integer (`read_upperHex`).
-/

namespace Chip8.Numeral

variable {base width : Nat}

/-! ## The digits of the standard library -/

theorem length_digits_le {n k : Nat} (hbase : 2 ≤ base) (h : n < base ^ (k + 1)) :
    (digits base n).length ≤ k + 1 := by
  unfold digits
  rw [List.length_reverse]
  induction k generalizing n with
  | zero =>
    rw [digitsUp_of_lt (by simpa using h)]
    simp
  | succ k ih =>
    by_cases hlt : n < base
    · rw [digitsUp_of_lt hlt]
      simp
    · have hrest : n / base < base ^ (k + 1) := Nat.div_lt_of_lt_mul (by rwa [← Nat.pow_succ'])
      rw [digitsUp_of_le hbase (by omega), List.length_cons]
      have := ih hrest
      omega

theorem upperDigit_eq {d : Nat} (hd : d < 16) : upperDigit d = d.digitChar.toUpper := by
  have hall : ∀ d < 16, upperDigit d = d.digitChar.toUpper := by decide
  exact hall d hd

theorem map_upperDigit_digits (n : Nat) :
    (digits 16 n).map upperDigit = (Nat.toDigits 16 n).map Char.toUpper := by
  -- Both write the last digit behind the digits of the rest.
  induction n using Nat.strongRecOn with
  | ind n ih =>
    by_cases h : n < 16
    · unfold digits
      rw [digitsUp_of_lt h, Nat.toDigits_of_lt_base h]
      exact congrArg (fun c => [c]) (upperDigit_eq h)
    · have hrest := ih (n / 16) (Nat.div_lt_self (by omega) (by decide))
      unfold digits at hrest ⊢
      rw [digitsUp_of_le (by decide) (by omega), Nat.toDigits_of_base_le (by decide) (by omega),
        List.reverse_cons,
        List.map_append, List.map_append, hrest]
      exact congrArg (fun c => _ ++ [c]) (upperDigit_eq (Nat.mod_lt n (by decide)))

/-! ## Reading them -/

theorem digitValue_upperDigit {d : Nat} (hbase : base ≤ 36) (hd : d < base) :
    digitValue base (upperDigit d) = some d := by
  have hvalue : ∀ d < 36, charValue (upperDigit d) = some d := by decide
  unfold digitValue
  rw [hvalue d (by omega)]
  simp [hd]

theorem isAlphanum_upperDigit {d : Nat} (hd : d < 36) : (upperDigit d).isAlphanum = true := by
  have hall : ∀ d < 36, (upperDigit d).isAlphanum = true := by decide
  exact hall d hd

/-- A digit is none of the characters that are neither letters nor digits. -/
theorem upperDigit_ne {d : Nat} {c : Char} (hd : d < 36) (hc : c.isAlphanum = false) :
    upperDigit d ≠ c := by
  rintro rfl
  rw [isAlphanum_upperDigit hd] at hc
  cases hc

theorem readDigits_map {ds : List Nat} (hbase : base ≤ 36) (hds : ∀ d ∈ ds, d < base)
    (value : Nat) :
    readDigits base value true (ds.map upperDigit) =
      some (ds.foldl (fun value d => value * base + d) value) := by
  induction ds generalizing value with
  | nil => rfl
  | cons d ds ih =>
    obtain ⟨hd, hrest⟩ := List.forall_mem_cons.mp hds
    have hunderscore : (upperDigit d == '_') = false :=
      beq_eq_false_iff_ne.mpr (upperDigit_ne (by omega) rfl)
    rw [List.map_cons, readDigits, hunderscore, if_neg Bool.false_ne_true,
      digitValue_upperDigit hbase hd]
    exact ih hrest _

/-- The first character has to be a digit, and is one. -/
theorem readDigits_map_of_ne_nil {ds : List Nat} (hbase : base ≤ 36) (hds : ∀ d ∈ ds, d < base)
    (hne : ds ≠ []) :
    readDigits base 0 false (ds.map upperDigit) =
      some (ds.foldl (fun value d => value * base + d) 0) := by
  cases ds with
  | nil => exact absurd rfl hne
  | cons d ds =>
    have hd := hds d List.mem_cons_self
    have hunderscore : (upperDigit d == '_') = false :=
      beq_eq_false_iff_ne.mpr (upperDigit_ne (by omega) rfl)
    rw [← readDigits_map hbase hds, List.map_cons, readDigits, readDigits, hunderscore]
    rfl

/-- Zeros in front are digits like the others. -/
theorem padZeros_map (width : Nat) (ds : List Nat) :
    padZeros width (ds.map upperDigit) =
      (List.replicate (width - ds.length) 0 ++ ds).map upperDigit := by
  unfold padZeros
  rw [List.map_append, List.map_replicate, List.length_map]
  rfl

theorem lt_of_mem_padded {k n : Nat} (hbase : 2 ≤ base) :
    ∀ d ∈ List.replicate k 0 ++ digits base n, d < base := by
  intro d hd
  rcases List.mem_append.mp hd with hd | hd
  · rw [List.eq_of_mem_replicate hd]
    omega
  · exact lt_of_mem_digits hbase d hd

/-- **A row of digits with zeros in front** is read as the number that it was written for. -/
theorem readDigits_padZeros (hbase : 2 ≤ base) (hbase' : base ≤ 36) (width n : Nat) :
    readDigits base 0 false (padZeros width ((digits base n).map upperDigit)) = some n := by
  have hzeros : ∀ k, (List.replicate k 0).foldl (fun value d => value * base + d) 0 = 0 := by
    intro k
    induction k with
    | zero => rfl
    | succ k ih => simpa [List.replicate_succ] using ih
  have hne := digits_ne_nil base n
  rw [padZeros_map, readDigits_map_of_ne_nil hbase' (lt_of_mem_padded hbase) (by simp [hne]),
    List.foldl_append, hzeros,
    foldl_digits hbase]

/-- Every character of a row is a digit. -/
theorem mem_padZeros {n : Nat} {c : Char} (hbase : 2 ≤ base)
    (hc : c ∈ padZeros width ((digits base n).map upperDigit)) : ∃ d < base, c = upperDigit d := by
  rw [padZeros_map] at hc
  obtain ⟨d, hd, rfl⟩ := List.mem_map.mp hc
  exact ⟨d, lt_of_mem_padded hbase d hd, rfl⟩

theorem splitSign_of_forall {cs : List Char} (h : ∀ c ∈ cs, c ≠ '-' ∧ c ≠ '+') :
    splitSign cs = (false, cs) := by
  unfold splitSign
  split
  next => exact absurd rfl (h '-' List.mem_cons_self).1
  next => exact absurd rfl (h '+' List.mem_cons_self).2
  next => rfl

/-- Reads a sign and the digits behind it. -/
def readSigned (base : Nat) (cs : List Char) : Option Int :=
  let (negative, body) := splitSign cs
  (readDigits base 0 false body).map fun n => if negative then -(n : Int) else n

/-- **An integer that has been written** can be read back, whatever the width. -/
theorem readSigned_written (hbase : 2 ≤ base) (hbase' : base ≤ 36) (width : Nat) (n : Int) :
    readSigned base (signOf n ++ padZeros width ((digits base n.natAbs).map upperDigit)) =
      some n := by
  have hread := readDigits_padZeros hbase hbase' width n.natAbs
  unfold readSigned signOf
  by_cases hneg : n < 0
  · have hn : -(n.natAbs : Int) = n := by omega
    rw [if_pos hneg]
    simp only [List.cons_append, List.nil_append, splitSign, hread]
    exact congrArg some hn
  · -- Without a sign the first character is a digit, and no digit is taken for a sign.
    have hn : (n.natAbs : Int) = n := by omega
    have hsplit : ∀ c ∈ padZeros width ((digits base n.natAbs).map upperDigit),
        c ≠ '-' ∧ c ≠ '+' := by
      intro c hc
      obtain ⟨d, hd, rfl⟩ := mem_padZeros hbase hc
      exact ⟨upperDigit_ne (by omega) rfl, upperDigit_ne (by omega) rfl⟩
    rw [if_neg hneg, List.nil_append, splitSign_of_forall hsplit]
    simp only [hread]
    exact congrArg some hn

theorem readSigned_upperHexChars (width : Nat) (n : Int) :
    readSigned 16 (upperHexChars width n) = some n :=
  readSigned_written (by omega) (by omega) _ n

theorem readSigned_decimalChars (n : Int) : readSigned 10 (decimalChars n) = some n := by
  have hread : readSigned 10 (signOf n ++ padZeros 0 ((digits 10 n.natAbs).map upperDigit)) =
      some n :=
    readSigned_written (by omega) (by omega) 0 n
  simpa [decimalChars, padZeros] using hread

/-- Two integers that look the same are the same. -/
theorem upperHex_inj {m n : Int} : upperHex width m = upperHex width n ↔ m = n := by
  constructor
  · intro h
    have hread := congrArg (readSigned 16) (String.ofList_inj.mp h)
    rw [readSigned_upperHexChars, readSigned_upperHexChars] at hread
    exact Option.some.inj hread
  · rintro rfl
    rfl

/-! ## Natural numbers -/

theorem isAlphanum_of_mem_upperHexChars {n : Nat} {c : Char} (hc : c ∈ upperHexChars width n) :
    c.isAlphanum = true := by
  rw [upperHexChars_natCast] at hc
  obtain ⟨d, hd, rfl⟩ := mem_padZeros (by omega) hc
  exact isAlphanum_upperDigit (by omega)

theorem isAlphanum_of_mem_decimalChars {n : Nat} {c : Char} (hc : c ∈ decimalChars n) :
    c.isAlphanum = true := by
  unfold decimalChars at hc
  rw [signOf_natCast, List.nil_append] at hc
  obtain ⟨d, hd, rfl⟩ := List.mem_map.mp hc
  have := lt_of_mem_digits (by omega) d hd
  exact isAlphanum_upperDigit (by omega)

/-- A natural number that has room in the width fills it exactly. -/
theorem length_upperHexChars {k n : Nat} (h : n < 16 ^ (k + 1)) :
    (upperHexChars (k + 1) n).length = k + 1 := by
  have hlength := length_digits_le (by omega) h
  rw [upperHexChars_natCast]
  unfold padZeros
  rw [List.length_append, List.length_replicate, List.length_map]
  omega

/-! ## Whole texts -/

/-- In base sixteen numerals can be of any length. -/
theorem read_eq_ok_iff {t : Text} {n : Int} : read 16 t = .ok n ↔ read? 16 t = some n := by
  have hbase : ((16 : Nat) == 10) = false := rfl
  unfold read
  rw [hbase, Bool.false_and, if_neg Bool.false_ne_true]
  cases read? 16 t with
  | none =>
    constructor
    · intro h
      cases h
    · intro h
      cases h
  | some m =>
    constructor
    · intro h
      cases h
      rfl
    · intro h
      cases h
      rfl

/-- What holds of the minus sign and of every digit holds of every character that is written. -/
theorem forall_mem_upperHexChars {p : Char → Prop} (hminus : p '-')
    (hdigit : ∀ d < 16, p (upperDigit d)) (width : Nat) (n : Int) :
    ∀ c ∈ upperHexChars width n, p c := by
  intro c hc
  unfold upperHexChars at hc
  rcases List.mem_append.mp hc with hsign | hdigits
  · unfold signOf at hsign
    split at hsign
    · rw [List.mem_singleton.mp hsign]
      exact hminus
    · cases hsign
  · obtain ⟨d, hd, rfl⟩ := mem_padZeros (by omega) hdigits
    exact hdigit d hd

/-- Characters of ASCII are plain already. -/
theorem normalize_ofChars {cs : List Char} (h : ∀ c ∈ cs, c.toNat < 128) :
    normalize (Text.ofChars cs) = cs := by
  have hplain : (Text.ofChars cs).all (·.toNat < 128) = true := by
    rw [List.all_eq_true]
    intro p hp
    obtain ⟨c, hc, rfl⟩ := List.mem_map.mp hp
    exact decide_eq_true (h c hc)
  unfold normalize
  dsimp only
  rw [hplain]
  unfold Text.ofChars
  rw [List.map_map]
  exact List.map_id cs

theorem dropMark_of_forall {cs : List Char} (h : ∀ c ∈ cs, c.toLower ≠ 'x') :
    dropMark 16 cs = cs := by
  unfold dropMark
  split
  next letter rest =>
    rw [if_neg]
    intro hletter
    exact h letter (by simp) (Option.some.inj (eq_of_beq hletter)).symm
  next => rfl

theorem mem_of_mem_splitSign {cs : List Char} {c : Char} (h : c ∈ (splitSign cs).2) : c ∈ cs := by
  unfold splitSign at h
  split at h
  · exact List.mem_cons_of_mem _ h
  · exact List.mem_cons_of_mem _ h
  · exact h

/-- **An integer that has been written** makes a text that is read as this integer. -/
theorem read_upperHex (width : Nat) (n : Int) :
    read 16 (Text.ofString (upperHex width n)) = .ok n := by
  have hascii :=
    forall_mem_upperHexChars (p := fun c => c.toNat < 128) (by decide) (by decide) width n
  have hblank :=
    forall_mem_upperHexChars (p := fun c => Text.isAsciiBlank c = false) (by decide)
      (by decide) width n
  have hmark :=
    forall_mem_upperHexChars (p := fun c => c.toLower ≠ 'x') (by decide) (by decide) width n
  have hread := readSigned_upperHexChars width n
  have htext : Text.ofString (upperHex width n) = Text.ofChars (upperHexChars width n) := by
    unfold Text.ofString upperHex
    rw [String.toList_ofList]
  rw [read_eq_ok_iff, htext]
  unfold read?
  unfold readSigned at hread
  rw [normalize_ofChars hascii, Text.trimList_of_forall hblank]
  dsimp only at hread ⊢
  rw [dropMark_of_forall fun c hc => hmark c (mem_of_mem_splitSign hc)]
  exact hread

end Chip8.Numeral
