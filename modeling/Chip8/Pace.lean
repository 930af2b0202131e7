import Chip8.Decimal.Quotient
import Chip8.Numeral

/-!
# Pace

How much is due in a span of time. Time is counted in nanoseconds; at a rate per second, `due`
gives the number of whole units that fall into a span and carries the rest over. In billionths of a
unit the two together are what was carried before and what the span brings (`due_conserves`), and
the rest is always less than a unit (`due_carry_lt`). From these two facts alone it follows that a
span can be split anywhere (`due_add`). A rate has a period, unless it is zero or too large for its
period to be worked out.
-/

namespace Chip8

def nanoseconds : Int := 1000000000

/-- A span of time as it was measured. -/
inductive Elapsed where
  | nanoseconds (n : Nat)
  | notANumber
  | infinite
  deriving DecidableEq

/-- A span of seconds, rounded to nanoseconds, a half to the even one; no span is negative. -/
def Elapsed.ofSeconds (seconds : Float) : Elapsed :=
  let b := Decimal.Binary.ofFloat (seconds * 1000000000.0)
  match b.round? with
  | some n => .nanoseconds n.toNat
  | none => if b == .notANumber then .notANumber else .infinite

/-- Why two integers do not make a span of time. -/
inductive QuotientError where
  | zeroDivisor
  | tooLarge
  deriving DecidableEq

def QuotientError.message : QuotientError → String
  | .zeroDivisor => "division by zero"
  | .tooLarge => "integer division result too large for a float"

/-- A span of seconds that is given as a quotient, from the float nearest to it. -/
def Elapsed.ofQuotient (num den : Int) : Except QuotientError Elapsed :=
  if den == 0 then .error .zeroDivisor
  else
    match Decimal.quotient? num.natAbs den.natAbs with
    | some x => .ok (Elapsed.ofSeconds (if (num < 0) == (den < 0) then x else -x))
    | none => .error .tooLarge

def hasPeriod (rate : Int) : Bool :=
  rate != 0 && (Decimal.ofInt? rate).isSome

/-- Why a span of time cannot be used. -/
inductive ElapsedError where
  | notANumber
  | infinite
  deriving DecidableEq

def ElapsedError.message : ElapsedError → String
  | .notANumber => "cannot convert float NaN to integer"
  | .infinite => "cannot convert float infinity to integer"

/-- The number of nanoseconds of a span, if it is a finite number. -/
def Elapsed.get : Elapsed → Except ElapsedError Nat
  | .nanoseconds n => .ok n
  | .notANumber => .error .notANumber
  | .infinite => .error .infinite

/-- The units due at a rate per second after `elapsed` nanoseconds, and what is carried over, in
billionths of a unit. Everything is counted in integers, so that no span of time is rounded and the
next span can take up what this one has left. -/
def due (rate carry : Int) (elapsed : Nat) : Int × Int :=
  let total := carry + elapsed * rate
  (Int.fdiv total nanoseconds, Int.fmod total nanoseconds)

/-! ## Nothing is gained or lost -/

section

variable (rate carry : Int) (elapsed : Nat)

theorem due_eq : due rate carry elapsed =
    ((carry + elapsed * rate) / nanoseconds, (carry + elapsed * rate) % nanoseconds) := by
  have hpos : 0 ≤ nanoseconds := by decide
  unfold due
  dsimp only
  rw [Int.fdiv_eq_ediv_of_nonneg _ hpos, Int.fmod_eq_emod_of_nonneg _ hpos]

/-- What is due and what is carried over make up what was carried over before and what the
span brings. -/
theorem due_conserves :
    nanoseconds * (due rate carry elapsed).1 + (due rate carry elapsed).2 = carry +
      elapsed * rate := by
  rw [due_eq]
  exact Int.mul_ediv_add_emod _ _

theorem due_carry_nonneg : 0 ≤ (due rate carry elapsed).2 := by
  rw [due_eq]
  exact Int.emod_nonneg _ (by decide)

/-- Less than a unit is carried over. -/
theorem due_carry_lt : (due rate carry elapsed).2 < nanoseconds := by
  rw [due_eq]
  exact Int.emod_lt_of_pos _ (by decide)

variable {rate carry}

/-- With a rate that is not negative, no less than nothing is due. -/
theorem due_nonneg (hrate : 0 ≤ rate) (hcarry : 0 ≤ carry) : 0 ≤ (due rate carry elapsed).1 := by
  rw [due_eq]
  have hspan : 0 ≤ (elapsed : Int) * rate := Int.mul_nonneg (Int.natCast_nonneg elapsed) hrate
  exact Int.ediv_nonneg (by omega) (by decide)

/-- The same for the number of units, at a rate at which none is owed. -/
theorem due_toNat_conserves (hrate : 0 ≤ rate) (hcarry : 0 ≤ carry) :
    nanoseconds * (due rate carry elapsed).1.toNat + (due rate carry elapsed).2 = carry +
      elapsed * rate := by
  rw [Int.toNat_of_nonneg (due_nonneg elapsed hrate hcarry)]
  exact due_conserves rate carry elapsed

/-- With a negative rate, nothing is ever due. -/
theorem due_nonpos (hrate : rate < 0) (hcarry : carry < nanoseconds) :
    (due rate carry elapsed).1 ≤ 0 := by
  have hconserves := due_conserves rate carry elapsed
  have hnonneg := due_carry_nonneg rate carry elapsed
  have hspan : (elapsed : Int) * rate ≤ 0 :=
    Int.mul_nonpos_of_nonneg_of_nonpos (Int.natCast_nonneg elapsed) (Int.le_of_lt hrate)
  unfold nanoseconds at hconserves hcarry
  omega

/-- In no time nothing is due, and nothing more is carried over. -/
theorem due_zero (h0 : 0 ≤ carry) (h1 : carry < nanoseconds) : due rate carry 0 = (0, carry) := by
  rw [due_eq, Int.natCast_zero, Int.zero_mul, Int.add_zero, Int.ediv_eq_zero_of_lt h0 h1,
    Int.emod_eq_of_lt h0 h1]

/-- **A span can be split anywhere**: the second part goes on from what the first one
carries over. -/
theorem due_add (s t : Nat) :
    (due rate carry (s + t)).1 = (due rate carry s).1 + (due rate (due rate carry s).2 t).1 ∧
      (due rate carry (s + t)).2 = (due rate (due rate carry s).2 t).2 := by
  have hfirst := due_conserves rate carry s
  have hsecond := due_conserves rate (due rate carry s).2 t
  have hwhole := due_conserves rate carry (s + t)
  have hsum : ((s + t : Nat) : Int) * rate = s * rate + t * rate := by
    rw [Int.natCast_add, Int.add_mul]
  -- The rest after the whole span and the rest after its second part are both less than a unit.
  have h0 := due_carry_nonneg rate carry (s + t)
  have h1 := due_carry_lt rate carry (s + t)
  have h0' := due_carry_nonneg rate (due rate carry s).2 t
  have h1' := due_carry_lt rate (due rate carry s).2 t
  unfold nanoseconds at *
  omega

/-- The same for the numbers of units, which are none instead of negative ones. -/
theorem due_toNat_add (h0 : 0 ≤ carry) (h1 : carry < nanoseconds) (s t : Nat) :
    (due rate carry (s + t)).1.toNat =
      (due rate carry s).1.toNat + (due rate (due rate carry s).2 t).1.toNat := by
  have hadd : (due rate carry (s + t)).1 = (due rate carry s).1 +
      (due rate (due rate carry s).2 t).1 :=
    (due_add s t).1
  -- Both parts have the sign of the rate, so that neither of them makes up for the other.
  rcases Int.lt_or_le rate 0 with hneg | hpos
  · have hfirst := due_nonpos s hneg h1
    have hsecond := due_nonpos t hneg (due_carry_lt rate carry s)
    omega
  · have hfirst := due_nonneg s hpos h0
    have hsecond := due_nonneg t hpos (due_carry_nonneg rate carry s)
    omega

end

end Chip8
