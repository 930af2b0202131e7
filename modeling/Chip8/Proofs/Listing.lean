import Chip8.Execution
import Chip8.Listing
import Chip8.Proofs.Instruction.Text
import Chip8.Proofs.Memory.Replay
import Chip8.Proofs.Opcode.Encoding

/-!
# What a listing tells

A listing gives one line for each word, and the text of the line depends on the word alone: it is
the text of the instruction that the word stands for, or the word itself as data
(`wordText_of_some`, `wordText_of_none`). Two words with the same text stand for the same
instruction or are the same datum, and which words stand for the same instruction is known from
their encoding. So the text tells what will happen, although it does not always tell the word: the
sixteen words of a shift look alike and do the same (`shown_determines_behaviour`).
-/

namespace Chip8

/-! ## Words in memory -/

/-- Whether a word stands at an address, its first byte the higher one. -/
def Memory.Holds (m : Memory) (a : Int) (w : Word) : Prop :=
  ∃ high low, m.get? a = some high ∧ m.get? (a + 1) = some low ∧
    w.toNat = high.toNat * 256 + low.toNat

namespace Listing

variable {m : Memory} {a : Int}

/-- Where a word ends outside of the memory, there are no more lines. -/
theorem lines_of_not_contains (h : m.contains (a + 1) = false) (count : Nat) :
    lines m a count = .ok [] := by
  cases count with
  | zero => rfl
  | succ count =>
    unfold lines
    rw [h]
    rfl

/-- A word that lies in the memory has a line in front of the lines behind it. -/
theorem lines_succ {high low : UInt8} (hhigh : m.get? a = some high)
    (hlow : m.get? (a + 1) = some low) (count : Nat) :
    lines m a (count + 1) = (lines m (a + 2) count).map (line a high low :: ·) := by
  have hin := Memory.contains_of_get? hlow
  have hfirst : m.peek a = .ok high := by rw [Memory.peek, hhigh]
  have hsecond : m.peek (a + 1) = .ok low := by rw [Memory.peek, hlow]
  rw [lines, if_pos hin, hfirst, hsecond]

/-- A listing from an address that is not negative never fails. -/
theorem lines_ok (m : Memory) (count : Nat) {a : Int} (h : 0 ≤ a) :
    ∃ shown, lines m a count = .ok shown := by
  induction count generalizing a with
  | zero => exact ⟨[], rfl⟩
  | succ count ih =>
    by_cases hlow : m.contains (a + 1) = true
    · have hhigh : m.contains a = true := by
        unfold Memory.contains at hlow ⊢
        simp only [decide_eq_true_eq] at hlow ⊢
        omega
      obtain ⟨rest, hrest⟩ := ih (a := a + 2) (by omega)
      rw [lines_succ (Memory.finds_read hhigh) (Memory.finds_read hlow), hrest]
      exact ⟨_, rfl⟩
    · exact ⟨[], lines_of_not_contains (Bool.eq_false_iff.mpr hlow) _⟩

/-! ## Texts of words -/

theorem wordText_of_some {opcode : Int} {i : Instruction} (h : Opcode.instruction? opcode = some i)
    (address : Int) :
    wordText opcode address = i.text := by
  unfold Opcode.instruction? at h
  obtain ⟨p, hfind, rfl⟩ := Option.map_eq_some_iff.mp h
  unfold wordText Operation.decode
  rw [hfind]
  rfl

theorem wordText_of_none {opcode : Int} (h : Opcode.instruction? opcode = none) (address : Int) :
    wordText opcode address = "DW #" ++ Numeral.upperHex 4 opcode := by
  unfold Opcode.instruction? at h
  unfold wordText Operation.decode
  rw [Option.map_eq_none_iff.mp h]

/-- How a listing shows a word. -/
def shown (w : Word) : String :=
  wordText w.toNat 0

/-- A listing shows a word in the same way wherever it stands. -/
theorem wordText_eq_shown (w : Word) (address : Int) : wordText w.toNat address = shown w := by
  unfold shown
  cases h : Opcode.instruction? w.toNat with
  | none => rw [wordText_of_none h, wordText_of_none h]
  | some i => rw [wordText_of_some h, wordText_of_some h]

theorem text_line {w : Word} {high low : UInt8} (h : w.toNat = high.toNat * 256 + low.toNat)
    (address : Int) :
    (line address high low).text = Text.ofString (shown w) := by
  rw [← wordText_eq_shown w address, h]
  rfl

/-- A listing of one word. -/
theorem ofRange_of_holds {w : Word} (h : m.Holds a w) :
    ∃ bytes, ofRange m a 2 = .ok [⟨a, bytes, Text.ofString (shown w)⟩] := by
  obtain ⟨high, low, hhigh, hlow, hw⟩ := h
  refine ⟨(line a high low).bytes, ?_⟩
  rw [← text_line hw a]
  exact lines_succ hhigh hlow 0

/-- **Words that look alike** stand for the same instruction, or are the same datum. -/
theorem shown_eq_iff (w w' : Word) : shown w = shown w' ↔ w = w' ∨ w.SameShift w' := by
  have hw : Word.ofOpcode w.toNat = w := Word.ofOpcode_toNat w
  have hw' : Word.ofOpcode w'.toNat = w' := Word.ofOpcode_toNat w'
  constructor
  · intro h
    unfold shown at h
    cases hi : Opcode.instruction? w.toNat with
    | none =>
      rw [wordText_of_none hi] at h
      cases hi' : Opcode.instruction? w'.toNat with
      | none =>
        -- Two data show all of their digits.
        rw [wordText_of_none hi', String.append_right_inj, Numeral.upperHex_inj] at h
        exact .inl (BitVec.eq_of_toNat_eq (Int.ofNat_inj.mp h))
      | some i' =>
        rw [wordText_of_some hi'] at h
        exact absurd h.symm (i'.text_ne_data _)
    | some i =>
      rw [wordText_of_some hi] at h
      cases hi' : Opcode.instruction? w'.toNat with
      | none =>
        rw [wordText_of_none hi'] at h
        exact absurd h (i.text_ne_data _)
      | some i' =>
        -- The text gives the instruction, and that nearly gives the word.
        rw [wordText_of_some hi', Instruction.text_inj] at h
        rw [← hw, ← hw']
        exact Opcode.eq_or_sameShift hi (h ▸ hi')
  · rintro (rfl | hshift)
    · rfl
    · rw [← hw, ← hw'] at hshift
      obtain ⟨i, hi, hi'⟩ := Opcode.instruction?_of_sameShift hshift
      unfold shown
      rw [wordText_of_some hi, wordText_of_some hi']

/-! ## What words do -/

/-- What a word does is what its instruction does. -/
theorem dispatch_of_some {opcode : Int} {i : Instruction} (h : Opcode.instruction? opcode = some i)
    (address : Int) (s : State) (d : Dice) :
    (Operation.dispatch opcode address s d).map (·.2) = i.execute address s d := by
  unfold Opcode.instruction? at h
  obtain ⟨p, hfind, rfl⟩ := Option.map_eq_some_iff.mp h
  unfold Operation.dispatch
  rw [hfind]
  show ((((p.form (Word.ofOpcode opcode)).execute address s d).map _).map _) = _
  cases (p.form (Word.ofOpcode opcode)).execute address s d with
  | error e => rfl
  | ok result => rfl

/-- **The text of a word determines what it does.** A listing of the word shows the text `shown`,
whatever the memory and the address are. Two words share it if and only if they are the same word or
the same shift, an instruction never shares it with a datum, and words that share it have the same
result from every state and dice: the same state, the same draws, or the same error. -/
theorem shown_determines_behaviour (w w' : Word) :
    (∀ m a, Memory.Holds m a w → ∃ bytes,
      ofRange m a 2 = .ok [⟨a, bytes, Text.ofString (shown w)⟩]) ∧
      (shown w = shown w' ↔ w = w' ∨ w.SameShift w') ∧
      (w.IsInstruction → shown w ≠ "DW #" ++ Numeral.upperHex 4 w'.toNat) ∧
      (shown w = shown w' → ∀ address s d,
        (Operation.dispatch w.toNat address s d).map (·.2) =
          (Operation.dispatch w'.toNat address s d).map (·.2)) := by
  refine ⟨fun m a => ofRange_of_holds, shown_eq_iff w w', fun hyes => ?_,
    fun hsame address s d => ?_⟩
  · unfold shown
    cases hi : Opcode.instruction? w.toNat with
    | none =>
      rw [Opcode.instruction?_eq_none_iff, Word.ofOpcode_toNat] at hi
      exact absurd hyes hi
    | some i =>
      rw [wordText_of_some hi]
      exact i.text_ne_data _
  · rcases (shown_eq_iff w w').mp hsame with rfl | hshift
    · rfl
    · rw [← Word.ofOpcode_toNat w, ← Word.ofOpcode_toNat w'] at hshift
      obtain ⟨i, hi, hi'⟩ := Opcode.instruction?_of_sameShift hshift
      rw [dispatch_of_some hi, dispatch_of_some hi']

/-- Two words for halving `V1`. -/
theorem shown_determines_behaviour_shift :
    shown 0x8126 = shown 0x8136 ∧ ∀ address s d,
      (Operation.dispatch 0x8126 address s d).map (·.2) =
        (Operation.dispatch 0x8136 address s d).map (·.2) := by
  obtain ⟨-, hshown, -, hdo⟩ := shown_determines_behaviour 0x8126 0x8136
  have hsame := hshown.mpr (.inr (by decide))
  exact ⟨hsame, hdo hsame⟩

end Listing

end Chip8
