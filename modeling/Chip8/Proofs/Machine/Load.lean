import Chip8.Proofs.Machine.Evolution

/-!
# What loading gives

Whether a program can be loaded depends on its length and on the address alone, and there are three
cases: the address does not lie in memory (`load_of_outside`), there is not enough memory behind it
(`load_of_large`), or the machine comes out that `boot` builds (`load_of_fits`). `JustLoaded`
describes that machine: everything is zero but the counter and the cells, and the cells fall into
those of the glyphs, those of the program and the others. The borders between them depend on the
address and on the length, as the slices of the image do (`Memory.get?_placed`): the program covers
glyphs if it is placed among them, and it may end with the memory. What is read back as the program
is a slice of the image as well. The main result is `load_exact`.
-/

namespace Chip8

namespace Memory

variable {program : List UInt8} {base : Nat}

/-- A memory of cells finds what stands in them. -/
theorem get?_placed (h : base + program.length ≤ standardSize) {a : Nat} (ha : a < standardSize) :
    (ofCells (Program.placed program base).toArray).get? a =
      some (Program.imageByte program.toArray base a) := by
  unfold ofCells get?
  rw [if_pos (Int.natCast_nonneg a), Int.toNat_natCast, List.getElem?_toArray,
    Program.getElem?_placed h ha]

/-- There are no cells but those of the memory. -/
theorem get?_placed_of_outside (h : base + program.length ≤ standardSize) {a : Int}
    (ha : a < 0 ∨ standardSize ≤ a) :
    (ofCells (Program.placed program base).toArray).get? a = none := by
  rw [get?_eq_none_iff]
  unfold ofCells contains
  rw [List.size_toArray, Program.length_placed h, decide_eq_false_iff_not]
  rintro ⟨h0, hlt⟩
  exact ha.elim (Int.not_lt.mpr h0) (Int.not_le.mpr hlt)

end Memory

namespace Machine

/-! ## The machine -/

/-- A machine with nothing but a program in it, right after it has been loaded: the cells are those
of the glyphs below the base, those of the program from the base on, and others that are zero. -/
structure JustLoaded (program : List UInt8) (base : Int) (dice : Dice) (m : Machine) : Prop where
  program_eq : m.program = program
  base_eq : m.base = base
  dice_eq : m.dice = dice
  running : m.halt = none
  pc : m.state.pc = base
  v : ∀ x, m.state.v.get x = 0
  index : m.state.index = 0
  stack : ∀ k, m.state.stack.get k = 0
  sp : m.state.sp = 0
  delay : m.state.delay = 0
  sound : m.state.sound = 0
  screen : ∀ column row, m.state.screen.pixel column row = false
  keys : ∀ k, m.state.keys.get k = false
  awaiting : m.state.awaiting = none
  cycles : m.state.cycles = 0
  log : m.state.memory.log = []
  size : m.state.memory.size = .number 0x1000
  font : ∀ a : Nat, a < min base 80 → m.state.memory.get? a = Program.font[a]?
  bytes : ∀ a, base ≤ a → a < base + program.length →
    m.state.memory.get? a = program[(a - base).toNat]?
  rest : ∀ a, 0 ≤ a → a < 0x1000 → ¬ a < min base 80 → ¬ (base ≤ a ∧ a < base + program.length) →
    m.state.memory.get? a = some 0
  outside : ∀ a, a < 0 ∨ 0x1000 ≤ a → m.state.memory.get? a = none

/-- **What `boot` builds** is a machine that has just been loaded. -/
theorem justLoaded_boot {program : List UInt8} {base : Nat} (dice : Dice)
    (h : base + program.length ≤ Memory.standardSize) :
    JustLoaded program base dice (boot program base dice h) := by
  have hmemory : (boot program base dice h).state.memory =
      Memory.ofCells (Program.placed program base).toArray := Program.Image.memory_ofProgram h
  have hbound : base + program.length ≤ 0x1000 := h
  constructor
  case program_eq => exact program_boot dice h
  case v | stack | keys => exact fun _ => Vector.getElem_replicate _
  case screen =>
    intro column row
    have hrow : Screen.blank.rows[row] = 0 := Vector.getElem_replicate _
    show Screen.blank.rows[row].getMsbD column = false
    rw [hrow]
    exact BitVec.getMsbD_zero
  case log => rw [hmemory]; rfl
  case size =>
    rw [hmemory, Memory.ofCells, List.size_toArray, Program.length_placed h]
    rfl
  case font =>
    intro a ha
    have hlt : a < 0x1000 := by omega
    rw [hmemory]
    exact (Memory.get?_placed h hlt).trans (Program.imageByte_font program (by omega) (by omega))
  case bytes =>
    intro a hlo hhi
    obtain ⟨a, rfl⟩ := Int.eq_ofNat_of_zero_le (Int.le_trans (Int.natCast_nonneg base) hlo)
    have hlt : a < 0x1000 := by omega
    have hplace : ((a : Int) - base).toNat = a - base := by omega
    rw [hmemory, hplace]
    exact (Memory.get?_placed h hlt).trans (Program.imageByte_program (by omega) (by omega))
  case rest =>
    intro a h0 hin hfont hprogram
    obtain ⟨a, rfl⟩ := Int.eq_ofNat_of_zero_le h0
    have hlt : a < 0x1000 := Int.ofNat_lt.mp hin
    have hzero : Program.imageByte program.toArray base a = 0 := by
      by_cases hbase : a < base
      · exact Program.imageByte_gap program hbase (by omega)
      · exact Program.imageByte_behind (by omega)
    rw [hmemory]
    exact (Memory.get?_placed h hlt).trans (congrArg some hzero)
  case outside =>
    intro a ha
    rw [hmemory]
    exact Memory.get?_placed_of_outside h ha
  case base_eq | dice_eq | running | pc | index | sp | delay | sound | awaiting | cycles => rfl

/-! ## The three cases of loading -/

variable {program : List UInt8} {base : Int}

theorem load_of_outside (h : base < 0 ∨ 0x1000 ≤ base) (program : List UInt8) (dice : Dice) :
    load program base dice = .error (.badBase base) := by
  have hsize : Memory.standardSize = 0x1000 := rfl
  have hout : ¬ (0 ≤ base ∧ base < Memory.standardSize) := by omega
  unfold load Program.check Program.checkBase
  rw [if_neg hout]

theorem load_of_large (h0 : 0 ≤ base) (hlt : base < 0x1000)
    (hlarge : 0x1000 - base < program.length) (dice : Dice) :
    load program base dice = .error (.tooLarge program.length (0x1000 - base).toNat) := by
  have hsize : Memory.standardSize = 0x1000 := rfl
  have hin : 0 ≤ base ∧ base < Memory.standardSize := ⟨h0, by omega⟩
  have hroom : Memory.standardSize - base.toNat = (0x1000 - base).toNat := by omega
  have hno : ¬ base.toNat + program.length ≤ Memory.standardSize := by omega
  rw [load, Program.check, Program.checkBase, if_pos hin]
  dsimp only
  rw [dif_neg hno, hroom]

theorem load_of_fits (h0 : 0 ≤ base) (hlt : base < 0x1000)
    (hfits : ¬ 0x1000 - base < program.length) (dice : Dice) :
    ∃ (n : Nat) (h : n + program.length ≤ Memory.standardSize), base = n ∧
      load program base dice = .ok (boot program n dice h) := by
  obtain ⟨n, rfl⟩ := Int.eq_ofNat_of_zero_le h0
  have hsize : Memory.standardSize = 0x1000 := rfl
  exact ⟨n, by omega, rfl, load_boot (by omega) (by omega) dice⟩

/-- The programs that can be loaded, and where. -/
theorem load_eq_ok_iff {m : Machine} {dice : Dice} :
    load program base dice = .ok m ↔
      ∃ (n : Nat) (h : n + program.length ≤ Memory.standardSize),
        base = n ∧ n < Memory.standardSize ∧ m = boot program n dice h := by
  refine ⟨load_eq_ok, ?_⟩
  rintro ⟨n, h, rfl, hn, rfl⟩
  exact load_boot h hn dice

/-- What has been loaded can be loaded again after whatever has been done to it, and is then what it
was at first. -/
theorem load_afterAll {m : Machine} {dice : Dice} (h : load program base dice = .ok m)
    (events : List MachineEvent) (dice' : Dice) :
    load (m.afterAll events).program (m.afterAll events).base dice' =
      .ok { m with dice := dice' } := by
  have hsame : SameOrigin m (m.afterAll events) := Evolves.sameOrigin ⟨events, rfl⟩
  obtain ⟨n, hfits, -, hn, rfl⟩ := load_eq_ok h
  have hbase : ((boot program n dice hfits).afterAll events).base = n := hsame.base
  rw [hsame.program, program_boot, hbase]
  exact load_boot hfits hn dice'

/-- **Loading is exact.** It fails if and only if the address does not lie in memory, or the program
does not fit into the memory behind it. Otherwise it gives a machine of which everything is known,
and which can be loaded again from what it keeps of its program, whatever it has executed. -/
theorem load_exact (program : List UInt8) (base : Int) (dice : Dice) :
    (load program base dice = .error (.badBase base) ↔ ¬ (0 ≤ base ∧ base < 0x1000)) ∧
      (load program base dice = .error (.tooLarge program.length (0x1000 - base).toNat) ↔
        (0 ≤ base ∧ base < 0x1000) ∧ 0x1000 - base < program.length) ∧
      ((∃ m, load program base dice = .ok m) ↔ (0 ≤ base ∧ base < 0x1000) ∧
        ¬ 0x1000 - base < program.length) ∧
      ∀ m, load program base dice = .ok m → m.JustLoaded program base dice ∧
        ∀ events dice', load (m.afterAll events).program (m.afterAll events).base dice' =
          .ok { m with dice := dice' } := by
  have hfailed : ∀ {e : Program.LoadError} {m : Machine}, Except.error e ≠ Except.ok m := nofun
  by_cases hbase : 0 ≤ base ∧ base < 0x1000
  · obtain ⟨h0, hlt⟩ := hbase
    by_cases hlarge : 0x1000 - base < program.length
    · rw [load_of_large h0 hlt hlarge]
      exact ⟨⟨nofun, fun hout => absurd ⟨h0, hlt⟩ hout⟩,
        ⟨fun _ => ⟨⟨h0, hlt⟩, hlarge⟩, fun _ => rfl⟩,
        ⟨fun ⟨_, hm⟩ => absurd hm hfailed, fun hin => absurd hlarge hin.2⟩,
        fun _ hm => absurd hm hfailed⟩
    · obtain ⟨n, hfits, rfl, hload⟩ := load_of_fits h0 hlt hlarge dice
      rw [hload]
      refine ⟨⟨nofun, fun hout => absurd ⟨h0, hlt⟩ hout⟩, ⟨nofun, fun hin => absurd hin.2 hlarge⟩,
        ⟨fun _ => ⟨⟨h0, hlt⟩, hlarge⟩, fun _ => ⟨_, rfl⟩⟩, fun m hm => ?_⟩
      cases hm
      exact ⟨justLoaded_boot dice hfits, load_afterAll hload⟩
  · have hout : base < 0 ∨ 0x1000 ≤ base := by omega
    rw [load_of_outside hout]
    exact ⟨⟨fun _ => hbase, fun _ => rfl⟩, ⟨nofun, fun hin => absurd hin.1 hbase⟩,
      ⟨fun ⟨_, hm⟩ => absurd hm hfailed, fun hin => absurd hin.1 hbase⟩, fun _ hm =>
      absurd hm hfailed⟩

/-- Three bytes in the last glyph, from the last but one of its rows on. -/
theorem load_exact_in_glyph :
    ∃ m, load [1, 2, 3] 0x4E (Dice.cycle []) = .ok m ∧ m.state.memory.get? 0x4D = some 0xF0 ∧
      m.state.memory.get? 0x4F = some 2 ∧ m.state.memory.get? 0x51 = some 0 ∧
      load (m.afterAll [.step, .press 5, .step]).program (m.afterAll [.step, .press 5, .step]).base
        m.dice = .ok m := by
  obtain ⟨-, -, hok, hloaded⟩ := load_exact [1, 2, 3] 0x4E (Dice.cycle [])
  obtain ⟨m, hm⟩ := hok.mpr (by decide)
  obtain ⟨hjust, hagain⟩ := hloaded m hm
  exact ⟨m, hm, hjust.font 0x4D (by decide), hjust.bytes 0x4F (by decide) (by decide),
    hjust.rest 0x51 (by decide) (by decide) (by decide) (by decide), hagain _ m.dice⟩

end Machine

end Chip8
