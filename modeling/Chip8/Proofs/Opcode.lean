import Chip8.Opcode

/-!
# Instruction words by their digits

The table of opcodes tests words against masks. A reader of a program looks at four hexadecimal
digits instead: `1nnn` is a jump, whatever the last three digits are. `Form.all` lists the
instruction words in that way, digit by digit, and this file shows that the two views agree:
`find?_eq_none_iff` says that an opcode belongs to no pattern exactly when its word fits no form.
The table is unambiguous as well (`find?_eq_some_iff`), so that an opcode belongs to a pattern
exactly when the look-up gives that pattern, wherever it stands in the table.
-/

namespace Chip8

namespace Word

/-- A hexadecimal digit of a word, counted from the lowest. -/
def digit (w : Word) (place : Nat) : BitVec 4 :=
  w.extractLsb' (4 * place) 4

/-- The word of four hexadecimal digits. -/
def ofDigits (d3 d2 d1 d0 : BitVec 4) : Word :=
  d3 ++ d2 ++ d1 ++ d0

theorem ofDigits_digit (w : Word) :
    ofDigits (w.digit 3) (w.digit 2) (w.digit 1) (w.digit 0) = w := by
  have h3 : 4 * 3 = 4 * 2 + 4 := rfl
  have h2 : 4 * 2 = 4 * 1 + 4 := rfl
  have h1 : 4 * 1 = 4 * 0 + 4 := rfl
  unfold ofDigits digit
  rw [BitVec.extractLsb'_append_extractLsb'_eq_extractLsb' h3,
    BitVec.extractLsb'_append_extractLsb'_eq_extractLsb' h2,
    BitVec.extractLsb'_append_extractLsb'_eq_extractLsb' h1]
  exact BitVec.extractLsb'_eq_self

theorem ofDigits_inj {a b c d a' b' c' d' : BitVec 4} :
    ofDigits a b c d = ofDigits a' b' c' d' ↔ a = a' ∧ b = b' ∧ c = c' ∧ d = d' := by
  constructor
  · intro h
    -- The words are equal digit by digit; the last digit is taken off first.
    have split : ∀ {n : Nat} {x x' : BitVec n} {y y' : BitVec 4}, x ++ y = x' ++ y' →
        x = x' ∧ y = y' := by
      intro n x x' y y' h
      constructor
      · rw [← BitVec.extractLsb'_append_eq_left (a := x) (b := y), h,
          BitVec.extractLsb'_append_eq_left]
      · rw [← BitVec.extractLsb'_append_eq_right (a := x) (b := y), h,
          BitVec.extractLsb'_append_eq_right]
    obtain ⟨h, hd⟩ := split h
    obtain ⟨h, hc⟩ := split h
    obtain ⟨ha, hb⟩ := split h
    exact ⟨ha, hb, hc, hd⟩
  · rintro ⟨rfl, rfl, rfl, rfl⟩
    rfl

/-- Words are cut out digit by digit. -/
theorem ofDigits_and (a b c d a' b' c' d' : BitVec 4) :
    ofDigits a b c d &&& ofDigits a' b' c' d' =
      ofDigits (a &&& a') (b &&& b') (c &&& c') (d &&& d') := by
  unfold ofDigits
  rw [BitVec.and_append, BitVec.and_append, BitVec.and_append]

end Word

/-- A way to write instruction words: four hexadecimal digits, some of which are left open. -/
structure Form where
  d3 : Option (BitVec 4)
  d2 : Option (BitVec 4)
  d1 : Option (BitVec 4)
  d0 : Option (BitVec 4)

namespace Form

/-- Whether a word has the digits that a form fixes. -/
def Fits (f : Form) (w : Word) : Prop :=
  (∀ d ∈ f.d3, w.digit 3 = d) ∧ (∀ d ∈ f.d2, w.digit 2 = d) ∧ (∀ d ∈ f.d1, w.digit 1 = d) ∧
    (∀ d ∈ f.d0, w.digit 0 = d)

instance (f : Form) (w : Word) : Decidable (f.Fits w) :=
  inferInstanceAs (Decidable (_ ∧ _ ∧ _ ∧ _))

/-- A form that fixes all digits. -/
def word (d3 d2 d1 d0 : BitVec 4) : Form :=
  ⟨some d3, some d2, some d1, some d0⟩

/-- A form with an address or with a register and a byte, as in `1nnn` and `6xkk`. -/
def first (d3 : BitVec 4) : Form :=
  ⟨some d3, none, none, none⟩

/-- A form with two registers, as in `8xy4`. -/
def firstLast (d3 d0 : BitVec 4) : Form :=
  ⟨some d3, none, none, some d0⟩

/-- A form with one register, as in `Fx33`. -/
def register (d3 d1 d0 : BitVec 4) : Form :=
  ⟨some d3, none, some d1, some d0⟩

/-- The forms of the instructions. -/
def all : List Form :=
  [word 0 0 0xE 0, word 0 0 0xE 0xE, first 1, first 2, first 3, first 4, firstLast 5 0,
    first 6, first 7,
   firstLast 8 0, firstLast 8 1, firstLast 8 2, firstLast 8 3, firstLast 8 4, firstLast 8 5,
   firstLast 8 6,
   firstLast 8 7, firstLast 8 0xE, firstLast 9 0, first 0xA, first 0xB, first 0xC, first 0xD,
   register 0xE 9 0xE, register 0xE 0xA 1, register 0xF 0 7, register 0xF 0 0xA, register 0xF 1 5,
   register 0xF 1 8, register 0xF 1 0xE, register 0xF 2 9, register 0xF 3 3, register 0xF 5 5,
   register 0xF 6 5]

/-- The bits that a digit of a form fixes. -/
def digitMask (d : Option (BitVec 4)) : BitVec 4 :=
  if d.isSome then 0xF else 0

/-- The bits that a form fixes. -/
def mask (f : Form) : Word :=
  Word.ofDigits (digitMask f.d3) (digitMask f.d2) (digitMask f.d1) (digitMask f.d0)

/-- What a form fixes them to. -/
def value (f : Form) : Word :=
  Word.ofDigits (f.d3.getD 0) (f.d2.getD 0) (f.d1.getD 0) (f.d0.getD 0)

theorem digit_and_eq_iff (d : Option (BitVec 4)) (x : BitVec 4) :
    x &&& digitMask d = d.getD 0 ↔ ∀ y ∈ d, x = y := by
  cases d with
  | none => simp [digitMask]
  | some y =>
    have hall : x &&& digitMask (some y) = x := BitVec.and_allOnes
    rw [hall]
    simp

/-- Looking at the bits of a form is looking at its digits. -/
theorem and_mask_eq_value_iff (f : Form) (w : Word) : w &&& f.mask = f.value ↔ f.Fits w := by
  unfold mask value Fits
  conv => lhs; lhs; lhs; rw [← Word.ofDigits_digit w]
  rw [Word.ofDigits_and, Word.ofDigits_inj, digit_and_eq_iff, digit_and_eq_iff, digit_and_eq_iff,
    digit_and_eq_iff]

end Form

/-- Whether a word is an instruction. -/
def Word.IsInstruction (w : Word) : Prop :=
  ∃ f ∈ Form.all, f.Fits w

instance (w : Word) : Decidable w.IsInstruction :=
  inferInstanceAs (Decidable (∃ f ∈ Form.all, f.Fits w))

namespace Opcode

/-- The table has one pattern for each form, and tests for its digits. -/
theorem patterns_eq_forms :
    patterns.map (fun p => (p.mask, p.value)) = Form.all.map (fun f => (f.mask, f.value)) :=
  rfl

/-- An opcode belongs to no pattern exactly when its word fits no form. -/
theorem find?_eq_none_iff (opcode : Int) :
    find? opcode = none ↔ ¬ (Word.ofOpcode opcode).IsInstruction := by
  -- A look-up depends on the masks and values alone, and these are the ones of the forms.
  have hp : find? opcode = none ↔
      ∀ mv ∈ patterns.map (fun p => (p.mask, p.value)), ¬ Word.ofOpcode opcode &&& mv.1 = mv.2 := by
    unfold find? findIn
    rw [List.find?_eq_none, List.forall_mem_map]
    simp only [Pattern.matches, beq_iff_eq]
  rw [hp, patterns_eq_forms, List.forall_mem_map]
  simp only [Form.and_mask_eq_value_iff]
  unfold Word.IsInstruction
  constructor
  · rintro h ⟨f, hf, hfits⟩
    exact h f hf hfits
  · intro h f hf hfits
    exact h ⟨f, hf, hfits⟩

/-! ## The table is unambiguous -/

/-- Any two patterns fix some bit to different values. -/
theorem patterns_clash : patterns.Pairwise fun p q => p.value &&& q.mask ≠ q.value &&& p.mask := by
  decide +kernel

/-- No word belongs to two patterns that clash. -/
theorem not_matches_of_clash {p q : Pattern} (h : p.value &&& q.mask ≠ q.value &&& p.mask)
    {w : Word} (hp : p.matches w = true) : q.matches w = false := by
  unfold Pattern.matches at hp ⊢
  rw [beq_eq_false_iff_ne]
  intro hq
  apply h
  rw [← eq_of_beq hp, ← hq, BitVec.and_assoc, BitVec.and_assoc, BitVec.and_comm p.mask]

/-- Looking through a table without clashes finds the one pattern that matches. -/
theorem find?_of_mem {table : List Pattern}
    (hclash : table.Pairwise fun p q => p.value &&& q.mask ≠ q.value &&& p.mask) {p : Pattern}
    (hp : p ∈ table) {w : Word} (hw : p.matches w = true) : table.find? (·.matches w) = some p := by
  induction table with
  | nil => cases hp
  | cons q rest ih =>
    obtain ⟨hq, hrest⟩ := List.pairwise_cons.mp hclash
    rcases List.mem_cons.mp hp with rfl | hp
    · exact List.find?_cons_of_pos hw
    · -- The pattern is further back in the table, and the first one clashes with it.
      have hno : q.matches w = false := not_matches_of_clash (hq p hp).symm hw
      rw [List.find?_cons_of_neg (by rw [hno]; exact Bool.false_ne_true)]
      exact ih hrest hp

/-- The look-up gives the pattern that an opcode belongs to, wherever it stands in the table. -/
theorem find?_eq_some_iff (opcode : Int) (p : Pattern) :
    find? opcode = some p ↔ p ∈ patterns ∧ p.matches (Word.ofOpcode opcode) = true := by
  constructor
  · intro h
    unfold find? findIn at h
    have hw := List.find?_some h
    exact ⟨List.mem_of_find?_eq_some h, hw⟩
  · rintro ⟨hp, hw⟩
    exact find?_of_mem patterns_clash hp hw

/-- A pattern that tests for the digits of a form is the one for all words that fit the form. -/
theorem find?_eq_some_iff_fits (opcode : Int) {p : Pattern} (hp : p ∈ patterns) {f : Form}
    (hm : p.mask = f.mask) (hv : p.value = f.value) :
    find? opcode = some p ↔ f.Fits (Word.ofOpcode opcode) := by
  rw [find?_eq_some_iff, ← f.and_mask_eq_value_iff, ← hm, ← hv]
  unfold Pattern.matches
  rw [beq_iff_eq]
  exact and_iff_right hp

theorem mask_of_form_ret :
    ∀ p ∈ patterns, ∀ w, p.form w = .ret → p.mask = 0xFFFF ∧ p.value = 0x00EE := by
  simp [patterns]

theorem mask_of_form_call :
    ∀ p ∈ patterns, ∀ w a, p.form w = .call a → p.mask = 0xF000 ∧ p.value = 0x2000 := by
  simp [patterns]

/-- Returns are the words `00EE`. -/
theorem form_eq_ret_iff {opcode : Int} {p : Pattern} (h : find? opcode = some p) :
    p.form (Word.ofOpcode opcode) = .ret ↔ (Form.word 0 0 0xE 0xE).Fits (Word.ofOpcode opcode) := by
  obtain ⟨hp, -⟩ := (find?_eq_some_iff opcode p).mp h
  constructor
  · intro hret
    obtain ⟨hm, hv⟩ := mask_of_form_ret p hp _ hret
    exact (find?_eq_some_iff_fits opcode hp (f := .word 0 0 0xE 0xE) hm hv).mp h
  · intro hfits
    have hr : (⟨0xFFFF, 0x00EE, fun _ => .ret⟩ : Pattern) ∈ patterns := by simp [patterns]
    have hfound := (find?_eq_some_iff_fits opcode hr rfl rfl).mpr hfits
    rw [h] at hfound
    rw [Option.some.inj hfound]

/-- Calls are the words `2nnn`. -/
theorem form_eq_call_iff {opcode : Int} {p : Pattern} (h : find? opcode = some p) :
    (∃ a, p.form (Word.ofOpcode opcode) = .call a) ↔
      (Form.first 2).Fits (Word.ofOpcode opcode) := by
  obtain ⟨hp, -⟩ := (find?_eq_some_iff opcode p).mp h
  constructor
  · rintro ⟨a, hcall⟩
    obtain ⟨hm, hv⟩ := mask_of_form_call p hp _ a hcall
    exact (find?_eq_some_iff_fits opcode hp (f := .first 2) hm hv).mp h
  · intro hfits
    have hc : (⟨0xF000, 0x2000, fun w => .call w.address⟩ : Pattern) ∈
        patterns := by simp [patterns]
    have hfound := (find?_eq_some_iff_fits opcode hc rfl rfl).mpr hfits
    rw [h] at hfound
    rw [Option.some.inj hfound]
    exact ⟨_, rfl⟩

end Opcode

end Chip8
