import Chip8.Proofs.Opcode

/-!
# The words of an instruction

A pattern cuts an instruction out of a word, and `Instruction.encoding` says what is left of the
word in it: the form with the digits of its operands filled in. Every word that stands for an
instruction fits its encoding (`fits_encoding`). For most instructions that fixes all four digits,
so no other word stands for them. The two shifts do not look at their third digit and have sixteen
words each; `eq_or_sameShift` says that these are the only words that mean the same.
-/

namespace Chip8

namespace Word

theorem ofOpcode_toNat (w : Word) : ofOpcode w.toNat = w := by
  unfold ofOpcode
  rw [BitVec.ofInt_natCast, BitVec.ofNat_toNat, BitVec.setWidth_eq]

/-- Words with the same digits are the same. -/
theorem eq_of_digits {w w' : Word} (h3 : w.digit 3 = w'.digit 3) (h2 : w.digit 2 = w'.digit 2)
    (h1 : w.digit 1 = w'.digit 1) (h0 : w.digit 0 = w'.digit 0) : w = w' := by
  rw [← ofDigits_digit w, ← ofDigits_digit w', h3, h2, h1, h0]

end Word

namespace Form

variable {w : Word}

/-- The words of a form with an address in it. -/
def withAddress (d3 : BitVec 4) (a : BitVec 12) : Form :=
  word d3 (a.extractLsb' 8 4) (a.extractLsb' 4 4) (a.extractLsb' 0 4)

/-- The words of a form with a register and a byte in it. -/
def withByte (d3 : BitVec 4) (x : Reg) (b : UInt8) : Form :=
  word d3 (.ofFin x) (b.toBitVec.extractLsb' 4 4) (b.toBitVec.extractLsb' 0 4)

/-- The words of a form with two registers in it. -/
def withPair (d3 : BitVec 4) (x y : Reg) (d0 : BitVec 4) : Form :=
  word d3 (.ofFin x) (.ofFin y) d0

/-- The words of a form with one register in it. -/
def withReg (d3 : BitVec 4) (x : Reg) (d1 d0 : BitVec 4) : Form :=
  word d3 (.ofFin x) d1 d0

/-- The words of a form with two registers in it, of which the second is not looked at. -/
def withFirst (d3 : BitVec 4) (x : Reg) (d0 : BitVec 4) : Form :=
  ⟨some d3, some (.ofFin x), none, some d0⟩

theorem fits_word_iff {d3 d2 d1 d0 : BitVec 4} :
    (word d3 d2 d1 d0).Fits w ↔ w.digit 3 = d3 ∧ w.digit 2 = d2 ∧ w.digit 1 = d1 ∧
    w.digit 0 = d0 := by
  simp [Fits, word]

/-- A form without open digits has one word. -/
theorem eq_of_fits_word {d3 d2 d1 d0 : BitVec 4} {w' : Word} (h : (word d3 d2 d1 d0).Fits w)
    (h' : (word d3 d2 d1 d0).Fits w') : w = w' := by
  obtain ⟨h3, h2, h1, h0⟩ := fits_word_iff.mp h
  obtain ⟨h3', h2', h1', h0'⟩ := fits_word_iff.mp h'
  exact Word.eq_of_digits (h3.trans h3'.symm) (h2.trans h2'.symm) (h1.trans h1'.symm)
    (h0.trans h0'.symm)

theorem fits_first_iff {d3 : BitVec 4} : (first d3).Fits w ↔ w.digit 3 = d3 := by
  simp [Fits, first]

theorem fits_firstLast_iff {d3 d0 : BitVec 4} :
    (firstLast d3 d0).Fits w ↔ w.digit 3 = d3 ∧ w.digit 0 = d0 := by
  simp [Fits, firstLast]

theorem fits_register_iff {d3 d1 d0 : BitVec 4} :
    (register d3 d1 d0).Fits w ↔ w.digit 3 = d3 ∧ w.digit 1 = d1 ∧ w.digit 0 = d0 := by
  simp [Fits, register]

theorem fits_withFirst_iff {d3 d0 : BitVec 4} {x : Reg} :
    (withFirst d3 x d0).Fits w ↔ (firstLast d3 d0).Fits w ∧ w.x = x := by
  have hx : w.digit 2 = .ofFin x ↔ w.x = x := BitVec.toFin_inj.symm
  rw [fits_firstLast_iff, ← hx, and_assoc, and_comm (a := w.digit 0 = d0)]
  simp [Fits, withFirst]

theorem fits_register_of_withReg {d3 d1 d0 : BitVec 4} {x : Reg} (h : (withReg d3 x d1 d0).Fits w) :
    (register d3 d1 d0).Fits w := by
  obtain ⟨h3, -, h1, h0⟩ := fits_word_iff.mp h
  exact fits_register_iff.mpr ⟨h3, h1, h0⟩

/-- A part of a part of a word is a part of the word. -/
theorem extractLsb'_extractLsb' {n : Nat} (v : BitVec n) {start start' len len' : Nat}
    (h : start' + len' ≤ len) :
    (v.extractLsb' start len).extractLsb' start' len' = v.extractLsb' (start + start') len' := by
  ext i hi
  simp only [BitVec.getElem_extractLsb', BitVec.getLsbD_extractLsb']
  rw [decide_eq_true (by omega), Bool.true_and, Nat.add_assoc]

/-! What is cut out of a word that passes the test of a pattern is what the word says. -/

theorem word_fits (d3 d2 d1 d0 : BitVec 4) (w : Word)
    (h : w &&& (word d3 d2 d1 d0).mask = (word d3 d2 d1 d0).value) :
    (word d3 d2 d1 d0).Fits w :=
  (and_mask_eq_value_iff _ w).mp h

theorem withAddress_fits (d3 : BitVec 4) (w : Word) (h : w &&& (first d3).mask = (first d3).value) :
    (withAddress d3 w.address).Fits w := by
  rw [and_mask_eq_value_iff, fits_first_iff] at h
  unfold withAddress Word.address
  rw [fits_word_iff, extractLsb'_extractLsb' w (by decide), extractLsb'_extractLsb' w (by decide),
    extractLsb'_extractLsb' w (by decide)]
  exact ⟨h, rfl, rfl, rfl⟩

theorem withByte_fits (d3 : BitVec 4) (w : Word) (h : w &&& (first d3).mask = (first d3).value) :
    (withByte d3 w.x w.byte).Fits w := by
  rw [and_mask_eq_value_iff, fits_first_iff] at h
  unfold withByte Word.byte
  rw [fits_word_iff, extractLsb'_extractLsb' w (by decide), extractLsb'_extractLsb' w (by decide)]
  exact ⟨h, rfl, rfl, rfl⟩

theorem withNibble_fits (d3 : BitVec 4) (w : Word) (h : w &&& (first d3).mask = (first d3).value) :
    (withPair d3 w.x w.y (.ofFin w.nibble)).Fits w := by
  rw [and_mask_eq_value_iff, fits_first_iff] at h
  exact fits_word_iff.mpr ⟨h, rfl, rfl, rfl⟩

theorem withPair_fits (d3 d0 : BitVec 4) (w : Word)
    (h : w &&& (firstLast d3 d0).mask = (firstLast d3 d0).value) :
    (withPair d3 w.x w.y d0).Fits w := by
  rw [and_mask_eq_value_iff, fits_firstLast_iff] at h
  exact fits_word_iff.mpr ⟨h.1, rfl, rfl, h.2⟩

theorem withFirst_fits (d3 d0 : BitVec 4) (w : Word)
    (h : w &&& (firstLast d3 d0).mask = (firstLast d3 d0).value) :
    (withFirst d3 w.x d0).Fits w := by
  rw [and_mask_eq_value_iff] at h
  exact fits_withFirst_iff.mpr ⟨h, rfl⟩

theorem withReg_fits (d3 d1 d0 : BitVec 4) (w : Word)
    (h : w &&& (register d3 d1 d0).mask = (register d3 d1 d0).value) :
    (withReg d3 w.x d1 d0).Fits w := by
  rw [and_mask_eq_value_iff, fits_register_iff] at h
  exact fits_word_iff.mpr ⟨h.1, rfl, h.2.1, h.2.2⟩

end Form

namespace Instruction

/-- The words that stand for an instruction. -/
def encoding : Instruction → Form
  | clear => .word 0 0 0xE 0
  | ret => .word 0 0 0xE 0xE
  | jump a => .withAddress 1 a
  | call a => .withAddress 2 a
  | skipIfByte x b => .withByte 3 x b
  | skipUnlessByte x b => .withByte 4 x b
  | skipIfEqual x y => .withPair 5 x y 0
  | loadByte x b => .withByte 6 x b
  | addByte x b => .withByte 7 x b
  | copy x y => .withPair 8 x y 0
  | or x y => .withPair 8 x y 1
  | and x y => .withPair 8 x y 2
  | xor x y => .withPair 8 x y 3
  | add x y => .withPair 8 x y 4
  | sub x y => .withPair 8 x y 5
  | shiftRight x => .withFirst 8 x 6
  | subFrom x y => .withPair 8 x y 7
  | shiftLeft x => .withFirst 8 x 0xE
  | skipUnlessEqual x y => .withPair 9 x y 0
  | loadIndex a => .withAddress 0xA a
  | jumpOffset a => .withAddress 0xB a
  | random x b => .withByte 0xC x b
  | draw x y n => .withPair 0xD x y (.ofFin n)
  | skipIfKey x => .withReg 0xE x 9 0xE
  | skipUnlessKey x => .withReg 0xE x 0xA 1
  | readDelay x => .withReg 0xF x 0 7
  | awaitKey x => .withReg 0xF x 0 0xA
  | setDelay x => .withReg 0xF x 1 5
  | setSound x => .withReg 0xF x 1 8
  | addIndex x => .withReg 0xF x 1 0xE
  | glyph x => .withReg 0xF x 2 9
  | digits x => .withReg 0xF x 3 3
  | save x => .withReg 0xF x 5 5
  | restore x => .withReg 0xF x 6 5

end Instruction

/-- Two words that are the same shift, whatever their third digits are. -/
def Word.SameShift (w w' : Word) : Prop :=
  ((Form.firstLast 8 6).Fits w ∧ (Form.firstLast 8 6).Fits w' ∨
    (Form.firstLast 8 0xE).Fits w ∧ (Form.firstLast 8 0xE).Fits w') ∧ w.x = w'.x

instance (w w' : Word) : Decidable (w.SameShift w') :=
  inferInstanceAs (Decidable ((_ ∧ _ ∨ _ ∧ _) ∧ _))

namespace Opcode

/-- A pattern turns the words that belong to it into the instructions that they encode. -/
theorem encoding_fits :
    ∀ p ∈ patterns, ∀ w, w &&& p.mask = p.value → (p.form w).encoding.Fits w := by
  simp only [patterns, List.forall_mem_cons, List.not_mem_nil, false_imp_iff,
    implies_true, and_true]
  -- One entry for each pattern, in the order of the table.
  exact ⟨Form.word_fits 0 0 0xE 0, Form.word_fits 0 0 0xE 0xE, Form.withAddress_fits 1,
    Form.withAddress_fits 2,
    Form.withByte_fits 3, Form.withByte_fits 4, Form.withPair_fits 5 0, Form.withByte_fits 6,
    Form.withByte_fits 7,
    Form.withPair_fits 8 0, Form.withPair_fits 8 1, Form.withPair_fits 8 2, Form.withPair_fits 8 3,
    Form.withPair_fits 8 4, Form.withPair_fits 8 5, Form.withFirst_fits 8 6, Form.withPair_fits 8 7,
    Form.withFirst_fits 8 0xE, Form.withPair_fits 9 0, Form.withAddress_fits 0xA,
    Form.withAddress_fits 0xB,
    Form.withByte_fits 0xC, Form.withNibble_fits 0xD, Form.withReg_fits 0xE 9 0xE,
    Form.withReg_fits 0xE 0xA 1,
    Form.withReg_fits 0xF 0 7, Form.withReg_fits 0xF 0 0xA, Form.withReg_fits 0xF 1 5,
    Form.withReg_fits 0xF 1 8,
    Form.withReg_fits 0xF 1 0xE, Form.withReg_fits 0xF 2 9, Form.withReg_fits 0xF 3 3,
    Form.withReg_fits 0xF 5 5,
    Form.withReg_fits 0xF 6 5⟩

/-- An opcode fits the encoding of the instruction that it stands for. -/
theorem fits_encoding {opcode : Int} {i : Instruction} (h : instruction? opcode = some i) :
    i.encoding.Fits (Word.ofOpcode opcode) := by
  unfold instruction? at h
  obtain ⟨p, hfind, rfl⟩ := Option.map_eq_some_iff.mp h
  obtain ⟨hp, hw⟩ := (find?_eq_some_iff opcode p).mp hfind
  exact encoding_fits p hp _ (eq_of_beq hw)

/-- What has no instruction does not look like one. -/
theorem instruction?_eq_none_iff (opcode : Int) :
    instruction? opcode = none ↔ ¬ (Word.ofOpcode opcode).IsInstruction := by
  unfold instruction?
  rw [Option.map_eq_none_iff, find?_eq_none_iff]

/-- An opcode that fits the form of a pattern stands for the instruction that the pattern cuts out
of it. -/
theorem instruction?_of_fits (opcode : Int) {p : Pattern} (hp : p ∈ patterns) {f : Form}
    (hm : p.mask = f.mask) (hv : p.value = f.value) (hfits : f.Fits (Word.ofOpcode opcode)) :
    instruction? opcode = some (p.form (Word.ofOpcode opcode)) := by
  unfold instruction?
  rw [(find?_eq_some_iff_fits opcode hp hm hv).mpr hfits]
  rfl

/-- A shift is found by its first and last digits, and takes its register from the second. -/
theorem instruction?_of_sameShift {opcode opcode' : Int}
    (h : (Word.ofOpcode opcode).SameShift (Word.ofOpcode opcode')) :
    ∃ i, instruction? opcode = some i ∧ instruction? opcode' = some i := by
  have hright : (⟨0xF00F, 0x8006, fun w => .shiftRight w.x⟩ : Pattern) ∈
      patterns := by simp [patterns]
  have hleft : (⟨0xF00F, 0x800E, fun w => .shiftLeft w.x⟩ : Pattern) ∈
      patterns := by simp [patterns]
  obtain ⟨⟨hfits, hfits'⟩ | ⟨hfits, hfits'⟩, hx⟩ := h
  · refine ⟨.shiftRight (Word.ofOpcode opcode).x,
      instruction?_of_fits opcode hright rfl rfl hfits, ?_⟩
    rw [hx]
    exact instruction?_of_fits opcode' hright rfl rfl hfits'
  · refine ⟨.shiftLeft (Word.ofOpcode opcode).x,
      instruction?_of_fits opcode hleft rfl rfl hfits, ?_⟩
    rw [hx]
    exact instruction?_of_fits opcode' hleft rfl rfl hfits'

/-- **Words that stand for the same instruction** are the same word or the same shift. -/
theorem eq_or_sameShift {opcode opcode' : Int} {i : Instruction} (h : instruction? opcode = some i)
    (h' : instruction? opcode' = some i) :
    Word.ofOpcode opcode = Word.ofOpcode opcode' ∨
    (Word.ofOpcode opcode).SameShift (Word.ofOpcode opcode') := by
  have hfits := fits_encoding h
  have hfits' := fits_encoding h'
  cases i with
  | shiftRight x =>
    obtain ⟨hshift, hx⟩ := Form.fits_withFirst_iff.mp hfits
    obtain ⟨hshift', hx'⟩ := Form.fits_withFirst_iff.mp hfits'
    exact .inr ⟨.inl ⟨hshift, hshift'⟩, hx.trans hx'.symm⟩
  | shiftLeft x =>
    obtain ⟨hshift, hx⟩ := Form.fits_withFirst_iff.mp hfits
    obtain ⟨hshift', hx'⟩ := Form.fits_withFirst_iff.mp hfits'
    exact .inr ⟨.inr ⟨hshift, hshift'⟩, hx.trans hx'.symm⟩
  | _ =>
    -- The encoding fixes all digits.
    exact .inl (Form.eq_of_fits_word hfits hfits')

end Opcode

end Chip8
