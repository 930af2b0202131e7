/-!
# Written integers

How integers are written: in decimal, in upper-case hexadecimal padded with zeros, and in lower-case
hexadecimal behind `0x`. A padding width counts the sign and the `0x` too, so `-1` in three places
is `-01`, and `-1` behind `0x` in six places is `-0x001`.
-/

namespace Chip8.Numeral

/-- The digits of `n` in base `base`, the lowest first; a base below two gives the number itself. -/
def digitsUp (base n : Nat) : List Nat :=
  if _h : base < 2 ∨ n < base then [n]
  else n % base :: digitsUp base (n / base)
termination_by n
decreasing_by
  have hb : 1 < base := by omega
  have hn : 0 < n := by omega
  exact Nat.div_lt_self hn hb

theorem digitsUp_of_lt {base : Nat} {n : Nat} (h : n < base) : digitsUp base n = [n] := by
  unfold digitsUp
  rw [dif_pos (Or.inr h)]

theorem digitsUp_of_le {base : Nat} {n : Nat} (hbase : 2 ≤ base) (h : base ≤ n) :
    digitsUp base n = n % base :: digitsUp base (n / base) := by
  rw [digitsUp, dif_neg (by omega)]

/-- The digits of `n` in base `base`, the highest first. -/
def digits (base n : Nat) : List Nat :=
  (digitsUp base n).reverse

theorem lt_of_mem_digits {base : Nat} {n : Nat} (hbase : 2 ≤ base) :
    ∀ d ∈ digits base n, d < base := by
  unfold digits
  simp only [List.mem_reverse]
  induction n using Nat.strongRecOn with
  | ind n ih =>
    intro d hd
    by_cases h : n < base
    · rw [digitsUp_of_lt h] at hd
      rw [List.mem_singleton.mp hd]
      exact h
    · rw [digitsUp_of_le hbase (by omega)] at hd
      rcases List.mem_cons.mp hd with rfl | hd
      · exact Nat.mod_lt _ (by omega)
      · exact ih (n / base) (Nat.div_lt_self (by omega) hbase) d hd

theorem digits_ne_nil (base n : Nat) : digits base n ≠ [] := by
  unfold digits digitsUp
  split
  · simp
  · simp

/-- Horner's rule gives a number back from its digits. -/
theorem foldl_digits {base : Nat} (hbase : 2 ≤ base) (n : Nat) :
    (digits base n).foldl (fun value d => value * base + d) 0 = n := by
  unfold digits
  rw [List.foldl_reverse]
  -- Along the recursion of `digitsUp`, which takes the last digit off first.
  induction n using Nat.strongRecOn with
  | ind n ih =>
    by_cases h : n < base
    · rw [digitsUp_of_lt h]
      simp
    · rw [digitsUp_of_le hbase (by omega), List.foldr_cons,
        ih (n / base) (Nat.div_lt_self (by omega) hbase)]
      exact Nat.div_add_mod' n base

/-- The character of a digit, with upper-case letters from ten on. -/
def upperDigit (d : Nat) : Char :=
  if d < 10 then Char.ofNat (48 + d) else Char.ofNat (55 + d)

/-- The character of a digit, with lower-case letters from ten on. -/
def lowerDigit (d : Nat) : Char :=
  if d < 10 then Char.ofNat (48 + d) else Char.ofNat (87 + d)

def padZeros (width : Nat) (cs : List Char) : List Char :=
  List.replicate (width - cs.length) '0' ++ cs

/-- The sign that is written in front of a number. -/
def signOf (n : Int) : List Char :=
  if n < 0 then ['-'] else []

theorem signOf_natCast (n : Nat) : signOf (n : Int) = [] := by
  unfold signOf
  rw [if_neg (by omega)]

/-- The characters of `n` in upper-case hexadecimal, at least `width` of them with the sign. -/
def upperHexChars (width : Nat) (n : Int) : List Char :=
  signOf n ++ padZeros (width - (signOf n).length) ((digits 16 n.natAbs).map upperDigit)

theorem upperHexChars_natCast (width n : Nat) :
    upperHexChars width (n : Int) = padZeros width ((digits 16 n).map upperDigit) := by
  unfold upperHexChars
  rw [signOf_natCast]
  rfl

/-- `n` in upper-case hexadecimal, at least `width` characters with the sign. -/
def upperHex (width : Nat) (n : Int) : String :=
  String.ofList (upperHexChars width n)

/-- A natural number in lower-case hexadecimal with at least `width` digits. -/
def lowerHex (width n : Nat) : List Char :=
  padZeros width ((digits 16 n).map lowerDigit)

/-- A backslash, a letter and a number in `width` hexadecimal digits, which stand for a character by
its number. -/
def codePointEscape (letter : Char) (width code : Nat) : List Char :=
  '\x5c' :: letter :: lowerHex width code

/-- `n` in lower-case hexadecimal behind `0x`, at least `width` characters with sign and `0x`. -/
def markedHex (width : Nat) (n : Int) : String :=
  String.ofList (signOf n ++ ['0', 'x'] ++
    lowerHex (width - (signOf n).length - 2) n.natAbs)

/-- The characters of `n` in decimal. -/
def decimalChars (n : Int) : List Char :=
  signOf n ++ (digits 10 n.natAbs).map upperDigit

/-- `n` in decimal. -/
def decimal (n : Int) : String :=
  String.ofList (decimalChars n)

/-- The most decimal digits that a numeral may have, read or written. -/
def maxDecimalDigits : Nat := 4300

/-- `n` in decimal, unless that takes too many digits. -/
def decimal? (n : Int) : Option String :=
  if maxDecimalDigits < (digits 10 n.natAbs).length then none else some (decimal n)

def tooLongToWrite : String :=
  "Exceeds the limit (" ++ decimal maxDecimalDigits ++
    " digits) for integer string conversion; use sys.set_int_max_str_digits() to increase the limit"

/-- A number in decimal with at least `width` digits. -/
def paddedDecimal (width n : Nat) : String :=
  String.ofList (padZeros width ((digits 10 n).map upperDigit))

end Chip8.Numeral
