import Chip8.Instruction
import Chip8.Proofs.Numeral

/-!
# The text of an instruction determines it

An instruction is written as a mnemonic and operands, and `Operand` lists what an operand can be.
What is written can be read back piece by piece: each operand from its own characters
(`Operand.read?_text`), the instruction from its mnemonic and its operands (`ofParts?_operandList`),
and the pieces from the whole line, because no mnemonic has a blank in it and no operand a comma
(`written_inj`). So instructions with the same text are the same (`text_inj`). A line of data is
written in the same way, under a name that no instruction has (`text_ne_data`).
-/

namespace Chip8

/-! ## Operands -/

/-- What stands behind a mnemonic. -/
inductive Operand where
  | reg (x : Reg)
  | address (a : BitVec 12)
  | byte (b : UInt8)
  | height (n : Fin 16)
  | index
  | block
  | delay
  | sound
  | key
  | glyph
  | digits

namespace Operand

/-- An operand as it is written. -/
def text : Operand → String
  | reg x => Reg.name x
  | address a => Instruction.addressText a
  | byte b => Instruction.byteText b
  | height n => Numeral.decimal n.val
  | index => "I"
  | block => "[I]"
  | delay => "DT"
  | sound => "ST"
  | key => "K"
  | glyph => "F"
  | digits => "B"

/-- Reads an operand. -/
def read? (cs : List Char) : Option Operand :=
  match Numeral.readSigned 10 cs with
  | some n => some (height (BitVec.ofNat 4 n.toNat).toFin)
  | none =>
    match cs with
    | ['I'] => some index
    | ['[', 'I', ']'] => some block
    | ['D', 'T'] => some delay
    | ['S', 'T'] => some sound
    | ['K'] => some key
    | ['F'] => some glyph
    | ['B'] => some digits
    | 'V' :: ds => (Numeral.readSigned 16 ds).map fun n => reg (BitVec.ofNat 4 n.toNat).toFin
    | '#' :: ds =>
      (Numeral.readSigned 16 ds).map fun n =>
        if ds.length = 2 then byte (UInt8.ofNat n.toNat) else address (BitVec.ofNat 12 n.toNat)
    | _ => none

theorem toList_reg (x : Reg) : (reg x).text.toList = 'V' :: Numeral.upperHexChars 1 x.val := by
  simp [text, Reg.name, Numeral.upperHex]

theorem toList_address (a : BitVec 12) :
    (address a).text.toList = '#' :: Numeral.upperHexChars 3 a.toNat := by
  simp [text, Instruction.addressText, Numeral.upperHex]

theorem toList_byte (b : UInt8) :
    (byte b).text.toList = '#' :: Numeral.upperHexChars 2 b.toNat := by
  simp [text, Instruction.byteText, Numeral.upperHex]

theorem toList_height (n : Fin 16) : (height n).text.toList = Numeral.decimalChars n.val := by
  simp [text, Numeral.decimal]

/-- **Operands can be read back.** -/
theorem read?_text (o : Operand) : read? o.text.toList = some o := by
  cases o with
  | reg x =>
    rw [toList_reg]
    show (Numeral.readSigned 16 (Numeral.upperHexChars 1 x.val)).map _ = _
    rw [Numeral.readSigned_upperHexChars]
    simp
  | address a =>
    -- An address has one digit more than a byte.
    have hlength : (Numeral.upperHexChars 3 a.toNat).length = 3 :=
      Numeral.length_upperHexChars a.isLt
    rw [toList_address]
    show (Numeral.readSigned 16 (Numeral.upperHexChars 3 a.toNat)).map _ = _
    rw [Numeral.readSigned_upperHexChars, hlength]
    simp
  | byte b =>
    have hlength : (Numeral.upperHexChars 2 b.toNat).length = 2 :=
      Numeral.length_upperHexChars b.toNat_lt
    rw [toList_byte]
    show (Numeral.readSigned 16 (Numeral.upperHexChars 2 b.toNat)).map _ = _
    rw [Numeral.readSigned_upperHexChars, hlength]
    simp
  | height n =>
    rw [toList_height]
    unfold read?
    rw [Numeral.readSigned_decimalChars]
    simp
  | index => rfl
  | block => rfl
  | delay => rfl
  | sound => rfl
  | key => rfl
  | glyph => rfl
  | digits => rfl

/-- There is no comma in an operand. -/
theorem comma_notMem_text (o : Operand) : ',' ∉ o.text.toList := by
  have hhex : ∀ width n : Nat, ',' ∉ Numeral.upperHexChars width (n : Int) := by
    intro width n hc
    have := Numeral.isAlphanum_of_mem_upperHexChars hc
    contradiction
  have hdecimal : ∀ n : Nat, ',' ∉ Numeral.decimalChars (n : Int) := by
    intro n hc
    have := Numeral.isAlphanum_of_mem_decimalChars hc
    contradiction
  cases o with
  | reg x => simp [toList_reg, hhex]
  | address a => simp [toList_address, hhex]
  | byte b => simp [toList_byte, hhex]
  | height n => simp [toList_height, hdecimal]
  | index => decide
  | block => decide
  | delay => decide
  | sound => decide
  | key => decide
  | glyph => decide
  | digits => decide

end Operand

/-! ## Lines -/

/-- A name and operands behind it as they are written. -/
def written (name : String) (operands : List String) : String :=
  if operands.isEmpty then name else name ++ " " ++ String.intercalate ", " operands

/-- The first separator ends the part in front of it. -/
theorem append_cons_inj {c : Char} {l l' t t' : List Char} (h : c ∉ l) (h' : c ∉ l')
    (heq : l ++ c :: t = l' ++ c :: t') : l = l' ∧ t = t' := by
  have hfree : ∀ {l : List Char}, c ∉ l → ∀ x ∈ l, (x == c) = false := by
    intro l h x hx
    rw [beq_eq_false_iff_ne]
    rintro rfl
    exact h hx
  have hsplit := congrArg (List.splitOnP (· == c)) heq
  rw [List.splitOnP_append_cons_of_forall_mem (hfree h) c (beq_self_eq_true c),
    List.splitOnP_append_cons_of_forall_mem (hfree h') c (beq_self_eq_true c)] at hsplit
  obtain rfl := (List.cons.inj hsplit).1
  exact ⟨rfl, by simpa using heq⟩

/-- Parts without a comma in them can be told apart in a row with commas between them. -/
theorem intercalate_inj {ls ls' : List (List Char)} (hne : ls ≠ []) (hne' : ls' ≠ [])
    (h : ∀ l ∈ ls, ',' ∉ l) (h' : ∀ l ∈ ls', ',' ∉ l)
    (heq : [',', ' '].intercalate ls = [',', ' '].intercalate ls') :
    ls = ls' := by
  induction ls generalizing ls' with
  | nil => exact absurd rfl hne
  | cons l rest ih =>
    cases ls' with
    | nil => exact absurd rfl hne'
    | cons l' rest' =>
      obtain ⟨hl, hrest⟩ := List.forall_mem_cons.mp h
      obtain ⟨hl', hrest'⟩ := List.forall_mem_cons.mp h'
      cases rest with
      | nil =>
        cases rest' with
        | nil => simpa using heq
        | cons r' rest' =>
          -- There is a comma on one side only.
          exact absurd (by simp at heq; simp [heq]) hl
      | cons r rest =>
        cases rest' with
        | nil => exact absurd (by simp at heq; simp [← heq]) hl'
        | cons r' rest' =>
          rw [List.intercalate_cons_cons, List.intercalate_cons_cons, List.append_assoc,
            List.append_assoc] at heq
          obtain ⟨hfirst, hbehind⟩ := append_cons_inj hl hl' heq
          rw [hfirst, ih (by simp) (by simp) hrest hrest' (List.cons.inj hbehind).2]

/-- **The pieces of a line** can be told apart. -/
theorem written_inj {name name' : String} {operands operands' : List String}
    (hname : ' ' ∉ name.toList) (hname' : ' ' ∉ name'.toList) (h : ∀ o ∈ operands, ',' ∉ o.toList)
    (h' : ∀ o ∈ operands', ',' ∉ o.toList) (heq : written name operands = written name' operands') :
    name = name' ∧ operands = operands' := by
  have hchars := congrArg String.toList heq
  unfold written at hchars
  cases operands with
  | nil =>
    cases operands' with
    | nil => exact ⟨heq, rfl⟩
    | cons o' rest' =>
      -- There is a blank on one side only.
      exact absurd (by simp at hchars; simp [hchars]) hname
  | cons o rest =>
    cases operands' with
    | nil => exact absurd (by simp at hchars; simp [← hchars]) hname'
    | cons o' rest' =>
      simp only [List.isEmpty_cons, if_neg Bool.false_ne_true, String.toList_append,
        String.toList_intercalate,
        List.append_assoc] at hchars
      obtain ⟨hfirst, hbehind⟩ := append_cons_inj hname hname' hchars
      have hparts :=
        intercalate_inj (by simp) (by simp) (by simpa using h) (by simpa using h') hbehind
      refine ⟨String.toList_inj.mp hfirst, ?_⟩
      exact (List.map_inj_right fun _ _ => String.toList_inj.mp).mp hparts

/-! ## Instructions -/

namespace Instruction

/-- The operands of an instruction, each for what it is. -/
def operandList : Instruction → List Operand
  | clear => []
  | ret => []
  | jump a => [.address a]
  | call a => [.address a]
  | skipIfByte x b => [.reg x, .byte b]
  | skipUnlessByte x b => [.reg x, .byte b]
  | skipIfEqual x y => [.reg x, .reg y]
  | loadByte x b => [.reg x, .byte b]
  | addByte x b => [.reg x, .byte b]
  | copy x y => [.reg x, .reg y]
  | or x y => [.reg x, .reg y]
  | and x y => [.reg x, .reg y]
  | xor x y => [.reg x, .reg y]
  | add x y => [.reg x, .reg y]
  | sub x y => [.reg x, .reg y]
  | shiftRight x => [.reg x]
  | subFrom x y => [.reg x, .reg y]
  | shiftLeft x => [.reg x]
  | skipUnlessEqual x y => [.reg x, .reg y]
  | loadIndex a => [.index, .address a]
  | jumpOffset a => [.reg offsetReg, .address a]
  | random x b => [.reg x, .byte b]
  | draw x y n => [.reg x, .reg y, .height n]
  | skipIfKey x => [.reg x]
  | skipUnlessKey x => [.reg x]
  | readDelay x => [.reg x, .delay]
  | awaitKey x => [.reg x, .key]
  | setDelay x => [.delay, .reg x]
  | setSound x => [.sound, .reg x]
  | addIndex x => [.index, .reg x]
  | glyph x => [.glyph, .reg x]
  | digits x => [.digits, .reg x]
  | save x => [.block, .reg x]
  | restore x => [.reg x, .block]

/-- The instruction of a mnemonic and operands. -/
def ofParts? : String → List Operand → Option Instruction
  | "CLS", [] => some clear
  | "RET", [] => some ret
  | "JP", [.address a] => some (jump a)
  | "CALL", [.address a] => some (call a)
  | "SE", [.reg x, .byte b] => some (skipIfByte x b)
  | "SNE", [.reg x, .byte b] => some (skipUnlessByte x b)
  | "SE", [.reg x, .reg y] => some (skipIfEqual x y)
  | "LD", [.reg x, .byte b] => some (loadByte x b)
  | "ADD", [.reg x, .byte b] => some (addByte x b)
  | "LD", [.reg x, .reg y] => some (copy x y)
  | "OR", [.reg x, .reg y] => some (.or x y)
  | "AND", [.reg x, .reg y] => some (.and x y)
  | "XOR", [.reg x, .reg y] => some (.xor x y)
  | "ADD", [.reg x, .reg y] => some (add x y)
  | "SUB", [.reg x, .reg y] => some (sub x y)
  | "SHR", [.reg x] => some (shiftRight x)
  | "SUBN", [.reg x, .reg y] => some (subFrom x y)
  | "SHL", [.reg x] => some (shiftLeft x)
  | "SNE", [.reg x, .reg y] => some (skipUnlessEqual x y)
  | "LD", [.index, .address a] => some (loadIndex a)
  | "JP", [.reg 0, .address a] => some (jumpOffset a)
  | "RND", [.reg x, .byte b] => some (random x b)
  | "DRW", [.reg x, .reg y, .height n] => some (draw x y n)
  | "SKP", [.reg x] => some (skipIfKey x)
  | "SKNP", [.reg x] => some (skipUnlessKey x)
  | "LD", [.reg x, .delay] => some (readDelay x)
  | "LD", [.reg x, .key] => some (awaitKey x)
  | "LD", [.delay, .reg x] => some (setDelay x)
  | "LD", [.sound, .reg x] => some (setSound x)
  | "ADD", [.index, .reg x] => some (addIndex x)
  | "LD", [.glyph, .reg x] => some (glyph x)
  | "LD", [.digits, .reg x] => some (digits x)
  | "LD", [.block, .reg x] => some (save x)
  | "LD", [.reg x, .block] => some (restore x)
  | _, _ => none

/-- **An instruction can be put together again** from its mnemonic and its operands. -/
theorem ofParts?_operandList (i : Instruction) : ofParts? i.mnemonic i.operandList = some i := by
  cases i <;> rfl

theorem operands_eq (i : Instruction) : i.operands = i.operandList.map Operand.text := by
  cases i with
  | jumpOffset a =>
    have hname : Reg.name offsetReg = "V0" := by decide +kernel
    show ["V0", addressText a] = [Reg.name offsetReg, addressText a]
    rw [hname]
  | _ => rfl

theorem blank_notMem_mnemonic (i : Instruction) : ' ' ∉ i.mnemonic.toList := by
  cases i <;> simp [mnemonic, parts]

theorem comma_notMem_operands (i : Instruction) : ∀ o ∈ i.operands, ',' ∉ o.toList := by
  rw [operands_eq]
  intro o ho
  obtain ⟨operand, -, rfl⟩ := List.mem_map.mp ho
  exact operand.comma_notMem_text

theorem text_eq_written (i : Instruction) : i.text = written i.mnemonic i.operands :=
  rfl

/-- **Instructions with the same text are the same.** -/
theorem text_inj {i j : Instruction} : i.text = j.text ↔ i = j := by
  constructor
  · intro h
    rw [text_eq_written, text_eq_written] at h
    obtain ⟨hname, hoperands⟩ :=
      written_inj i.blank_notMem_mnemonic j.blank_notMem_mnemonic i.comma_notMem_operands
      j.comma_notMem_operands h
    rw [operands_eq, operands_eq] at hoperands
    have hread : i.operandList = j.operandList := by
      refine (List.map_inj_right fun o o' heq => ?_).mp hoperands
      have hsame := o.read?_text
      rw [heq, o'.read?_text] at hsame
      exact (Option.some.inj hsame).symm
    have hi := i.ofParts?_operandList
    rw [hname, hread, j.ofParts?_operandList] at hi
    exact (Option.some.inj hi).symm
  · rintro rfl
    rfl

/-- **No instruction looks like a line of data.** -/
theorem text_ne_data (i : Instruction) (n : Nat) : i.text ≠ "DW #" ++ Numeral.upperHex 4 n := by
  have hdata : "DW #" ++ Numeral.upperHex 4 n = written "DW" ["#" ++ Numeral.upperHex 4 n] := by
    rw [← String.toList_inj]
    simp [written]
  have hcomma : ∀ o ∈ ["#" ++ Numeral.upperHex 4 n], ',' ∉ o.toList := by
    intro o ho hc
    rw [List.mem_singleton.mp ho] at hc
    simp [Numeral.upperHex] at hc
    have := Numeral.isAlphanum_of_mem_upperHexChars hc
    contradiction
  intro h
  rw [text_eq_written, hdata] at h
  obtain ⟨hname, -⟩ :=
    written_inj i.blank_notMem_mnemonic (by decide) i.comma_notMem_operands hcomma h
  have hno : i.mnemonic ≠ "DW" := by cases i <;> simp [mnemonic, parts]
  exact hno hname

end Instruction

end Chip8
