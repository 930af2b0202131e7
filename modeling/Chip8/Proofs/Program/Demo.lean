import Chip8.Loading
import Chip8.Proofs.Machine.Course
import Chip8.Settings.Reader

/-!
# The built-in program at other places

The program that shows the digits jumps to fixed addresses, which are its own if it is placed at
`0x200`. Elsewhere the jumps lead to other instructions of the program, into the middle of one, or
out of it. Seven places are such that it runs on for good (`circle_demo`): up to four instructions
beyond `0x200` it enters its loops late, and at two places in front it is caught in the first loop.
Everywhere else it comes to a place where there is no instruction (`ends_demo`): in the
neighbourhood of `0x200` this is computed, and further away the first jump leads into cells that
hold nothing (`ends_far`). Behind `0xFDA` there is not enough memory left for it. `demo_runsOn_iff`
puts this together.
-/

namespace Chip8

namespace Program

/-- The places at which the built-in program runs on. -/
def demoBases : List Nat :=
  [0x1F6, 0x1F8, 0x200, 0x202, 0x204, 0x206, 0x208]

/-- The instructions that the built-in program begins with, up to its first jump. -/
def opening : List Instruction :=
  (List.range 9).filterMap fun k => Opcode.instruction?
    (Course.word (imageByte demo.toArray 0) (2 * k))

/-- The course of the built-in program behind the first `k` instructions. -/
def openingCourse (base k : Nat) : Course :=
  ⟨base + 2 * k, if k < 8 then some 0 else some 1, 0⟩

/-- The courses on which the built-in program runs on. In the place that it was written for, or a
little further on, nothing has to be known of the register in which it counts. -/
def demoCourses (base : Nat) : List Course :=
  if base < 0x200 then (List.range 10).map (openingCourse base)
  else (List.range 19).map fun k => ⟨base + 2 * k, none, 0⟩

theorem circle_demo : ∀ base ∈ demoBases, Course.Circle demo base (demoCourses base) := by
  have hstart : ∀ base ∈ demoBases, ∃ c ∈ demoCourses base,
      c.Covers ⟨base, some 0, 0⟩ := by decide +kernel
  have hclosed : ∀ base ∈ demoBases, Course.Closed (imageByte demo.toArray base)
      (demoCourses base) := by
    decide +kernel
  exact fun base hbase => ⟨hstart base hbase, hclosed base hbase⟩

/-- Where the first jump of the program leads into the program itself, or next to it. -/
theorem ends_near : ∀ base ∈ List.range' 0x1E3 38, base ∉ demoBases →
    Course.endsWithin (imageByte demo.toArray base) 90 ⟨base, some 0, 0⟩ = true := by
  decide +kernel

/-! ## Far away -/

variable {base : Nat}

/-- A program is the same at every place. -/
theorem imageByte_add (program : Array UInt8) (base a : Nat) :
    imageByte program base (base + a) = imageByte program 0 a := by
  unfold imageByte
  rw [if_neg (by omega), if_neg (by omega), Nat.add_sub_cancel_left, Nat.sub_zero]

theorem word_add (program : Array UInt8) (base a : Nat) :
    Course.word (imageByte program base) (base + a) = Course.word (imageByte program 0) a := by
  unfold Course.word
  rw [Nat.add_assoc, imageByte_add, imageByte_add]

theorem next_add {program : Array UInt8} {a : Nat} {i : Instruction}
    (hi : Opcode.instruction? (Course.word (imageByte program 0) a) = some i)
    (hpc : base + a ≤ 0xFFE) (first : Option Nat) (calls : Nat) :
    Course.next (imageByte program base) ⟨base + a, first, calls⟩ =
      Course.through ⟨base + a, first, calls⟩ i := by
  unfold Course.next
  rw [if_neg (Nat.not_lt.mpr hpc), word_add, hi]
  rfl

/-- The program begins with these instructions. -/
theorem opening_eq : opening =
    [.clear, .loadByte 0 0, .loadByte 1 8, .loadByte 2 0xC, .glyph 0, .draw 1 2 5,
      .addByte 1 6, .addByte 0 1,
      .skipIfByte 0 8] := by
  decide +kernel

theorem instruction?_opening :
    ∀ k < 9, Opcode.instruction? (Course.word (imageByte demo.toArray 0) (2 * k)) =
    opening[k]? := by
  decide +kernel

/-- They are passed one after the other, and none of them jumps. -/
theorem through_opening (base k : Nat) {i : Instruction} (h : opening[k]? = some i) :
    (openingCourse base k).through i = some [openingCourse base (k + 1)] := by
  rw [opening_eq] at h
  match k, i, h with
  | 0, _, rfl => rfl
  | 1, _, rfl => rfl
  | 2, _, rfl => rfl
  | 3, _, rfl => rfl
  | 4, _, rfl => rfl
  | 5, _, rfl => rfl
  | 6, _, rfl => rfl
  | 7, _, rfl => rfl
  | 8, _, rfl => rfl
  | _ + 9, _, h => cases h

/-- There is nothing at the address of the first jump if the program is far from it. -/
theorem word_far (hfar : base ≤ 0x1E2 ∨ 0x209 ≤ base) :
    Course.word (imageByte demo.toArray base) 0x208 = 0 := by
  have hfont : ∀ a, 80 ≤ a → font.getD a 0 = 0 := by
    intro a ha
    rw [List.getD_eq_getElem?_getD, List.getElem?_eq_none ha]
    rfl
  have hdemo : ∀ a, 38 ≤ a → demo.toArray.getD a 0 = 0 := by
    intro a ha
    rw [Array.getD_eq_getD_getElem?, Array.getElem?_eq_none ha]
    rfl
  have hbyte : ∀ a, 80 ≤ a → a < base ∨ base + 38 ≤ a → imageByte demo.toArray base a = 0 := by
    intro a ha hoff
    unfold imageByte
    split
    · exact hfont a ha
    · exact hdemo _ (by omega)
  by_cases hedge : base = 0x209
  · -- The second byte is the first one of the program, which is a zero as well.
    rw [hedge]
    decide +kernel
  · unfold Course.word
    rw [hbyte _ (by decide) (by omega), hbyte _ (by decide) (by omega)]
    rfl

/-- **Far away** from the place that it was written for, the program jumps out of itself. -/
theorem ends_far (hfar : base ≤ 0x1E2 ∨ 0x209 ≤ base) (hle : base ≤ 0xFDA) :
    Course.Ends (imageByte demo.toArray base) ⟨base, some 0, 0⟩ := by
  have hjump : Opcode.instruction? (Course.word (imageByte demo.toArray 0) 18) =
      some (.jump 0x208) := by decide +kernel
  have hnothing : Opcode.instruction? (0 : Nat) = none := by decide +kernel
  have hpassing : ∀ k < 9, (openingCourse base k).next (imageByte demo.toArray base) =
      some [openingCourse base (k + 1)] := by
    intro k hk
    have hlength : opening.length = 9 := congrArg List.length opening_eq
    have hk' : k < opening.length := hlength ▸ hk
    rw [← through_opening base k (List.getElem?_eq_getElem hk')]
    exact next_add (by rw [instruction?_opening k hk, List.getElem?_eq_getElem hk']) (by omega) _ _
  have hend : Course.Ends (imageByte demo.toArray base) ⟨0x208, some 1, 0⟩ := by
    refine .noInstruction ?_
    rw [word_far hfar]
    exact hnothing
  have hlast : (openingCourse base 9).next (imageByte demo.toArray base) =
      some [⟨0x208, some 1, 0⟩] :=
    next_add hjump (by omega) _ _
  show Course.Ends _ (openingCourse base 0)
  exact .of_passing hpassing (.on hlast hend)

/-! ## Everywhere -/

theorem ends_demo (hbase : base ∉ demoBases) (hle : base ≤ 0xFDA) :
    Course.Ends (imageByte demo.toArray base) ⟨base, some 0, 0⟩ := by
  by_cases hnear : 0x1E3 ≤ base ∧ base < 0x209
  · exact Course.ends_of_endsWithin (ends_near base (List.mem_range'_1.mpr (by omega)) hbase)
  · exact ends_far (by omega) hle

theorem room_demo {n : Nat} (hle : n ≤ 0xFDA) : n + demo.length ≤ Memory.standardSize :=
  Nat.add_le_add_right hle 38

theorem lt_of_le_demo {n : Nat} (hle : n ≤ 0xFDA) : n < Memory.standardSize :=
  Nat.lt_of_le_of_lt hle (by decide)

/-- The places that have room for the program. -/
theorem fromBytes_demo_iff {base : Int} {dice : Dice} {m : Machine} :
    (Loading.fromBytes demo base dice).2 = .ok m ↔
      ∃ (n : Nat) (hle : n ≤ 0xFDA), base = n ∧ m = Machine.boot demo n dice (room_demo hle) := by
  have hload : (Loading.fromBytes demo base dice).2 = .ok m ↔
      Machine.load demo base dice = .ok m := by
    unfold Loading.fromBytes
    cases Machine.load demo base dice with
    | error e => exact ⟨nofun, nofun⟩
    | ok loaded => rw [Except.ok.injEq, Except.ok.injEq]
  rw [hload, Machine.load_eq_ok_iff]
  constructor
  · rintro ⟨n, hfits, hbase, -, hm⟩
    have hroom : n + 38 ≤ 0x1000 := hfits
    exact ⟨n, by omega, hbase, hm⟩
  · rintro ⟨n, hle, hbase, hm⟩
    exact ⟨n, room_demo hle, hbase, lt_of_le_demo hle, hm⟩

/-- Where the program runs on, it does so whatever is done to the machine. -/
theorem runsOn_demo (hbase : base ∈ demoBases) (hle : base ≤ 0xFDA) (dice : Dice) :
    (Machine.boot demo base dice (room_demo hle)).RunsOn :=
  Machine.runsOn_of_circle (circle_demo base hbase) dice (room_demo hle) (lt_of_le_demo hle)

/-- Where it does not, it fails even if nothing is done. -/
theorem run_demo (hbase : base ∉ demoBases) (hle : base ≤ 0xFDA) (dice : Dice) :
    ∃ n f, ((Machine.boot demo base dice (room_demo hle)).run n).1 = .error (.fault f) :=
  Machine.run_of_ends (.boot dice (room_demo hle) (lt_of_le_demo hle)) (ends_demo hbase hle)

theorem runsOn_demo_iff (hle : base ≤ 0xFDA) (dice : Dice) :
    (Machine.boot demo base dice (room_demo hle)).RunsOn ↔ base ∈ demoBases := by
  refine ⟨fun hruns => ?_, fun hbase => runsOn_demo hbase hle dice⟩
  by_cases hbase : base ∈ demoBases
  · exact hbase
  · obtain ⟨n, f, hfail⟩ := run_demo hbase hle dice
    exact absurd hruns (Machine.not_runsOn_of_fault hfail)

theorem run_demo_iff (hle : base ≤ 0xFDA) (dice : Dice) :
    (∃ n f, ((Machine.boot demo base dice (room_demo hle)).run n).1 = .error (.fault f)) ↔
      base ∉ demoBases := by
  refine ⟨fun hfail hbase => ?_, fun hbase => run_demo hbase hle dice⟩
  obtain ⟨n, f, hfail⟩ := hfail
  exact Machine.not_runsOn_of_fault hfail (runsOn_demo hbase hle dice)

theorem natCast_mem_iff {n : Nat} :
    (n : Int) ∈ ([0x1F6, 0x1F8, 0x200, 0x202, 0x204, 0x206, 0x208] : List Int) ↔ n ∈ demoBases := by
  unfold demoBases
  simp only [List.mem_cons, List.not_mem_nil, or_false]
  omega

/-- **The built-in program** fits at the addresses up to `0xFDA`, and of these there are seven at
which it runs on, whatever is done to the machine. At all others it comes to an instruction that
fails, even if nothing is done. -/
theorem demo_runsOn_iff (base : Int) (dice : Dice) :
    ((∃ m, (Loading.fromBytes demo base dice).2 = .ok m) ↔ 0 ≤ base ∧ base ≤ 0xFDA) ∧
    ((∃ m, (Loading.fromBytes demo base dice).2 = .ok m ∧ m.RunsOn) ↔
      base ∈ ([0x1F6, 0x1F8, 0x200, 0x202, 0x204, 0x206, 0x208] : List Int)) ∧
    ((∃ m n f, (Loading.fromBytes demo base dice).2 = .ok m ∧ (m.run n).1 = .error (.fault f)) ↔
      0 ≤ base ∧ base ≤ 0xFDA ∧
      base ∉ ([0x1F6, 0x1F8, 0x200, 0x202, 0x204, 0x206, 0x208] : List Int)) := by
  by_cases hfits : 0 ≤ base ∧ base ≤ 0xFDA
  · obtain ⟨n, rfl⟩ := Int.eq_ofNat_of_zero_le hfits.1
    have hle : n ≤ 0xFDA := Int.ofNat_le.mp hfits.2
    have hloaded : (Loading.fromBytes demo n dice).2 =
        .ok (Machine.boot demo n dice (room_demo hle)) :=
      fromBytes_demo_iff.mpr ⟨n, hle, rfl, rfl⟩
    rw [hloaded, natCast_mem_iff]
    simp only [Except.ok.injEq, exists_and_left, exists_eq_left', exists_eq', hfits, true_and]
    exact ⟨runsOn_demo_iff hle dice, run_demo_iff hle dice⟩
  · have hrefused : ∀ m, (Loading.fromBytes demo base dice).2 ≠ .ok m := by
      intro m hloaded
      obtain ⟨n, hle, rfl, -⟩ := fromBytes_demo_iff.mp hloaded
      exact hfits ⟨Int.natCast_nonneg n, Int.ofNat_le.mpr hle⟩
    have hout : base ∉ ([0x1F6, 0x1F8, 0x200, 0x202, 0x204, 0x206, 0x208] : List Int) := by
      simp only [List.mem_cons, List.not_mem_nil, or_false]
      omega
    refine ⟨⟨fun h => ?_, fun h => absurd h hfits⟩, ⟨fun h => ?_, fun h => absurd h hout⟩,
      ⟨fun h => ?_, fun h => absurd ⟨h.1, h.2.1⟩ hfits⟩⟩
    · obtain ⟨m, hm⟩ := h
      exact absurd hm (hrefused m)
    · obtain ⟨m, hm, -⟩ := h
      exact absurd hm (hrefused m)
    · obtain ⟨m, n, f, hm, -⟩ := h
      exact absurd hm (hrefused m)

/-- Settings that are accepted, with a base at which the program fails, and with one that leaves no
room for it. -/
theorem demo_not_runsOn_accepted :
    (∃ s m, @Settings.ofData .usual ⟨#[.map [(.text (Text.ofString "base"), .int 0x600)]],
      .stored 0⟩ = .ok s ∧
      (Loading.fromBytes demo s.base (Dice.cycle [])).2 = .ok m ∧ ¬ m.RunsOn) ∧
    ∃ s, @Settings.ofData .usual ⟨#[.map [(.text (Text.ofString "base"), .int 0xFFF)]], .stored 0⟩ =
      .ok s ∧
      (Loading.fromBytes demo s.base (Dice.cycle [])).2 = .error (.program (.tooLarge 38 1)) := by
  have hle : 0x600 ≤ 0xFDA := by decide
  obtain ⟨n, f, hfail⟩ :=
    Machine.run_of_ends (.boot (Dice.cycle []) (room_demo hle) (lt_of_le_demo hle))
    (ends_far (.inr (by decide)) hle)
  exact ⟨⟨{ Settings.standard with base := 0x600 }, _, rfl,
    fromBytes_demo_iff.mpr ⟨0x600, hle, rfl, rfl⟩,
    Machine.not_runsOn_of_fault hfail⟩, { Settings.standard with base := 0xFFF }, rfl, rfl⟩

end Program

end Chip8
