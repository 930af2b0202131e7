import Chip8.Proofs.Instruction.Saving
import Chip8.Proofs.PackedDecimal

/-!
# Storing decimal digits

The words `Fx33` store the hundreds, the tens and the ones of a register in three cells. A block
that is stored logs one write for each of its cells that exist, in their order (`writes_eq`), and
the bytes that are stored here are the digits of the register (`storeDigits_eq`). The main result,
`stores_decimal`, says first what the packed decimals come to for integers of any size, and then
what the words do with an index register of any size.
-/

namespace Chip8

namespace Memory

/-- The writes of a block, one for each of its cells that exist. -/
theorem writes_eq (m : Memory) (a : Int) (bytes : List UInt8) (k : Nat) :
    m.writes (a + k) bytes =
      ((bytes.zipIdx k).filter fun p => m.contains (a + p.2)).map fun p =>
        .write (a + p.2) p.1 (m.getD (a + p.2)) := by
  induction bytes generalizing k with
  | nil => rfl
  | cons b rest ih =>
    have hrest : a + (k : Int) + 1 = a + ((k + 1 : Nat) : Int) := by omega
    rw [writes, hrest, ih (k + 1), List.zipIdx_cons]
    cases hin : m.contains (a + k) with
    | false =>
      rw [(m.get?_eq_none_iff _).mpr hin, List.filter_cons, if_neg (Bool.eq_false_iff.mp hin)]
      rfl
    | true =>
      have hheld : m.get? (a + k) = some (m.getD (a + k)) := finds_read hin
      rw [hheld, List.filter_cons, if_pos hin]
      rfl

/-- **The log of a block that has been stored** has one write for each of its cells that exist. -/
theorem log_storeBlock (m : Memory) (a : Int) (bytes : List UInt8) :
    (m.storeBlock a bytes).log = m.log ++
      ((bytes.zipIdx.filter fun p => m.contains (a + p.2)).map fun p =>
      .write (a + p.2) p.1 (m.getD (a + p.2))) := by
  have hwrites := m.writes_eq a bytes 0
  rw [Int.natCast_zero, Int.add_zero] at hwrites
  rw [(m.accessed_storeBlock a bytes).logged, hwrites]

end Memory

namespace State

variable {s : State} {x : Reg}

/-- The decimal digits of a byte fit into cells, and make up the byte. -/
theorem exists_digitBytes {n : Int} (hn : IsByte n) :
    ∃ h t o : UInt8, PackedDecimal.ofByte n = [h.toNat, t.toNat, o.toNat] ∧
      n = 100 * (h.toNat : Int) + 10 * t.toNat + o.toNat := by
  obtain ⟨h0, h1⟩ := hn
  have hbyte : n % 256 = n := Int.emod_eq_of_lt h0 (Int.lt_add_one_of_le h1)
  have hfits {d : Nat} (hd : d ≤ 9) : (UInt8.ofNat d).toNat = d :=
    UInt8.toNat_ofNat_of_lt' (Nat.lt_of_le_of_lt hd (by decide))
  obtain ⟨h, t, o, hdigits, hh, ht, ho, hsum⟩ := PackedDecimal.exists_digits n
  refine ⟨UInt8.ofNat h, UInt8.ofNat t, UInt8.ofNat o, ?_, ?_⟩
  · rw [hdigits, hfits hh, hfits ht, hfits ho]
  · rw [hfits hh, hfits ht, hfits ho, hsum, hbyte]

/-- The decimal digits of a byte are stored as a block. -/
theorem storeDigits_eq {h t o : UInt8}
    (hdigits : PackedDecimal.ofByte (s.v.get x) = [h.toNat, t.toNat, o.toNat]) :
    s.storeDigits x = { s with memory := s.memory.storeBlock s.index [h, t, o] } := by
  have hbytes : [h.toNat, t.toNat, o.toNat].map UInt8.ofNat = [h, t, o] := by simp
  unfold storeDigits
  rw [hdigits]
  dsimp only
  rw [hbytes]

end State

namespace Word

/-- The words `Fx33` store the digits of a register. -/
theorem turns_storing (s : State) (x : Reg) : (withReg 0xF x 3 3).Turns s (s.storeDigits x) := by
  have hp : (⟨0xF0FF, 0xF033, fun w => .digits w.x⟩ : Pattern) ∈
      Opcode.patterns := by simp [Opcode.patterns]
  exact turns_of_execute (Opcode.instruction?_withReg hp rfl rfl x) fun address d => rfl

/-- **Decimal digits** come out of the packed decimals, and are what is stored. For an integer of
any size, the rounds keep to the packed decimal form of the top bits of its low byte, and the three
digits make up this byte. From a well-formed state, with any index that is not negative, the word
`Fx33` leaves the digits of its register in those of three cells from the index on that exist; it
logs one write for each of these, in their order, with the byte that has been there; no other cell
changes, and nothing but cells and the log. -/
theorem stores_decimal :
    (∀ value : Int,
      (∃ h t o : Nat, PackedDecimal.ofByte value = [h, t, o] ∧ h ≤ 9 ∧ t ≤ 9 ∧ o ≤ 9 ∧
        100 * (h : Int) + 10 * t + o = value % 256) ∧
      ∀ k ≤ 8, PackedDecimal.rounds value k =
        PackedDecimal.pack ((value % 256).toNat / 2 ^ (8 - k))) ∧
    ∀ (s : State) (index : Int) (x : Reg), s.WellFormed → 0 ≤ index →
      ∃ (stored : State) (h t o : UInt8),
        (withReg 0xF x 3 3).Turns { s with index } stored ∧
          PackedDecimal.ofByte (s.v.get x) = [h.toNat, t.toNat, o.toNat] ∧
          s.v.get x = 100 * (h.toNat : Int) + 10 * t.toNat + o.toNat ∧
          (∀ i d, [h, t, o][i]? = some d → index + (i : Nat) < 0x1000 →
            stored.memory.get? (index + (i : Nat)) = some d) ∧
          (∀ a, stored.memory.get? a ≠ s.memory.get? a → index ≤ a ∧ a ≤ index + 2 ∧ a < 0x1000) ∧
          stored.memory.log = s.memory.log ++
            (([h, t, o].zipIdx.filter fun p => index + (p.2 : Nat) < 0x1000).map fun p =>
              .write (index + (p.2 : Nat)) p.1 (s.memory.getD (index + (p.2 : Nat)))) ∧
          stored = { s with index, memory := stored.memory } ∧
          stored.memory.size = s.memory.size := by
  constructor
  · intro value
    exact ⟨PackedDecimal.exists_digits value, fun k hk => PackedDecimal.rounds_eq_pack value hk⟩
  · intro s index x hs hindex
    obtain ⟨h, t, o, hdigits, hvalue⟩ := State.exists_digitBytes (hs.byte x)
    let start : State := { s with index }
    let stored : State := { start with memory := start.memory.storeBlock index [h, t, o] }
    have hstored : start.storeDigits x = stored := State.storeDigits_eq hdigits
    have hturns : (withReg 0xF x 3 3).Turns start stored := hstored ▸ turns_storing start x
    have hin {a : Int} (ha : 0 ≤ a) : start.memory.contains a = true ↔ a < 0x1000 :=
      hs.contains_iff_lt ha
    have hplaces : ([h, t, o].zipIdx.filter fun p => start.memory.contains (index + (p.2 : Nat))) =
        [h, t, o].zipIdx.filter fun p => index + (p.2 : Nat) < 0x1000 := by
      apply List.filter_congr
      intro p _
      rw [Bool.eq_iff_iff, decide_eq_true_iff]
      exact hin (by omega)
    have hlog := start.memory.log_storeBlock index [h, t, o]
    rw [hplaces] at hlog
    refine ⟨stored, h, t, o, hturns, hdigits, hvalue, ?_, ?_, hlog, rfl,
      start.memory.size_label_storeBlock _ _⟩
    · intro i d hd hlt
      exact Memory.get?_storeBlock_of_inside hd ((hin (by omega)).mpr hlt)
    · intro a ha
      obtain ⟨hcell, hlo, hhi⟩ := Memory.of_get?_storeBlock_ne ha
      have hlast : a < index + 3 := hhi
      exact ⟨hlo, by omega, (hin (Int.le_trans hindex hlo)).mp hcell⟩

/-- All bits of -1 are set. At the end of memory there is a cell for two of the three digits. -/
theorem stores_decimal_end_of_memory :
    PackedDecimal.rounds (-1) 5 = 0x31 ∧
      ∃ s : State, s.WellFormed ∧ s.v.get 5 = 0xFF ∧ ∃ stored,
        (withReg 0xF 5 3 3).Turns { s with index := 0xFFE } stored ∧
          stored.memory.get? 0xFFE = some 2 ∧ stored.memory.get? 0xFFF = some 5 ∧
          stored.memory.log = s.memory.log ++
            [.write 0xFFE 2 (s.memory.getD 0xFFE), .write 0xFFF 5 (s.memory.getD 0xFFF)] := by
  obtain ⟨s, hwf, hall⟩ := State.WellFormed.exists_filled (n := 0xFF) ⟨by decide, by decide⟩
  obtain ⟨stored, h, t, o, hturns, hdigits, -, hcells, -, hlog, -⟩ :=
    stores_decimal.2 s 0xFFE 5 hwf (by decide)
  rw [hall 5, PackedDecimal.ofByte_eq] at hdigits
  obtain ⟨hh, ht, ho⟩ : 2 = h.toNat ∧ 5 = t.toNat ∧ 5 = o.toNat := by simpa using hdigits
  obtain rfl : h = 2 := UInt8.toNat_inj.mp hh.symm
  obtain rfl : t = 5 := UInt8.toNat_inj.mp ht.symm
  have hplaces : ([2, 5, o].zipIdx.filter fun p => (0xFFE : Int) + (p.2 : Nat) < 0x1000) =
      [(2, 0), (5, 1)] := by simp
  rw [hplaces] at hlog
  refine ⟨?_, s, hwf, hall 5, stored, hturns, hcells 0 2 rfl (by decide),
    hcells 1 5 rfl (by decide), hlog⟩
  exact ((stores_decimal.1 (-1)).2 5 (by decide)).trans
    (PackedDecimal.pack_of_lt_thousand (by decide))

end Word

end Chip8
