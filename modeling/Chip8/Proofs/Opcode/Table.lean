import Chip8.Bits
import Chip8.Execution
import Chip8.Proofs.Opcode.Encoding

/-!
# The table of opcodes as a set

An opcode can be any integer, and an entry of the table admits it if it has certain values on
certain bits (`Pattern.Admits`). These bits are among the lowest sixteen, so the word of an opcode
decides about it (`admits_iff_matches`). No opcode is admitted by two entries. So the order of the
table does not matter (`find?_of_perm`), and what an opcode was decoded to is found again when it is
executed (`execute_ofPattern`). `patterns_unambiguous` puts this together.
-/

namespace Chip8

/-- Whether an opcode, with all of its bits, has the value of a pattern on the bits of its mask. -/
def Pattern.Admits (p : Pattern) (opcode : Int) : Prop :=
  Bits.and opcode p.mask.toNat = p.value.toNat

instance (p : Pattern) (opcode : Int) : Decidable (p.Admits opcode) :=
  inferInstanceAs (Decidable (_ = _))

namespace Word

/-! ## Opcodes and their words -/

theorem toNat_and_ofNat (mask : Word) (n : Nat) :
    (mask &&& BitVec.ofNat 16 n).toNat = mask.toNat &&& n := by
  have hmask : mask.toNat % 2 ^ 16 = mask.toNat := Nat.mod_eq_of_lt mask.isLt
  have hlt : mask.toNat &&& n < 2 ^ 16 := Nat.lt_of_le_of_lt Nat.and_le_left mask.isLt
  calc (mask &&& BitVec.ofNat 16 n).toNat
      = mask.toNat % 2 ^ 16 &&& n % 2 ^ 16 := by rw [BitVec.toNat_and, BitVec.toNat_ofNat, hmask]
    _ = (mask.toNat &&& n) % 2 ^ 16 := Nat.and_mod_two_pow.symm
    _ = mask.toNat &&& n := Nat.mod_eq_of_lt hlt

/-- What a mask leaves of an integer, it leaves of its word. -/
theorem and_toNat (opcode : Int) (mask : Word) :
    Bits.and opcode mask.toNat = (ofOpcode opcode &&& mask).toNat := by
  cases opcode with
  | ofNat n =>
    have hword : ofOpcode (Int.ofNat n) = BitVec.ofNat 16 n := BitVec.ofInt_natCast 16 n
    rw [hword, BitVec.and_comm, toNat_and_ofNat, Nat.and_comm]
    rfl
  | negSucc n =>
    -- A negative number has the bits of a natural number exchanged.
    have hword : ofOpcode (Int.negSucc n) = ~~~ BitVec.ofNat 16 n :=
      BitVec.ofInt_negSucc_eq_not_ofNat
    have hbits : ~~~ BitVec.ofNat 16 n &&& mask = mask ^^^ (mask &&& BitVec.ofNat 16 n) := by
      ext i hi
      simp only [BitVec.getElem_and, BitVec.getElem_not, BitVec.getElem_xor]
      cases mask[i] <;> cases (BitVec.ofNat 16 n)[i] <;> rfl
    rw [hword, hbits, BitVec.toNat_xor, toNat_and_ofNat]
    rfl

/-- Opcodes with the same remainder have the same word. -/
theorem ofOpcode_congr {opcode opcode' : Int} (h : opcode % 0x10000 = opcode' % 0x10000) :
    ofOpcode opcode = ofOpcode opcode' := by
  apply BitVec.eq_of_toNat_eq
  unfold ofOpcode
  rw [BitVec.toNat_ofInt, BitVec.toNat_ofInt]
  exact congrArg Int.toNat h

end Word

namespace Opcode

variable {opcode : Int}

/-- The word of an opcode decides which patterns admit it. -/
theorem admits_iff_matches (p : Pattern) (opcode : Int) :
    p.Admits opcode ↔ p.matches (Word.ofOpcode opcode) = true := by
  unfold Pattern.Admits Pattern.matches
  rw [Word.and_toNat, beq_iff_eq, Int.natCast_inj, BitVec.toNat_inj]

theorem findIn_eq (table : List Pattern) (opcode : Int) :
    findIn table opcode = table.find? fun p => p.Admits opcode := by
  unfold findIn
  congr 1
  funext p
  rw [Bool.eq_iff_iff, decide_eq_true_iff, admits_iff_matches]

/-- An opcode is found no more if no pattern admits it. -/
theorem find?_eq_none_of_not_admits (h : ∀ p ∈ patterns, ¬ p.Admits opcode) :
    find? opcode = none := by
  unfold find?
  rw [findIn_eq, List.find?_eq_none]
  exact fun p hp => by simpa using h p hp

/-- No opcode is admitted by two patterns of the table. -/
theorem pairwise_not_admits (opcode : Int) :
    patterns.Pairwise fun p q => ¬ (p.Admits opcode ∧ q.Admits opcode) := by
  refine patterns_clash.imp fun hclash h => ?_
  rw [admits_iff_matches, admits_iff_matches] at h
  rw [not_matches_of_clash hclash h.1] at h
  exact absurd h.2 Bool.false_ne_true

/-- The table may be gone through in any order. -/
theorem find?_of_perm {table : List Pattern} (hperm : table.Perm patterns) (opcode : Int) :
    findIn table opcode = find? opcode := by
  have hclash := (hperm.pairwise_iff fun h => h.symm).mpr patterns_clash
  cases hfind : find? opcode with
  | none =>
    unfold find? findIn at hfind
    unfold findIn
    rw [List.find?_eq_none] at hfind ⊢
    exact fun p hp => hfind p (hperm.mem_iff.mp hp)
  | some p =>
    obtain ⟨hp, hw⟩ := (find?_eq_some_iff opcode p).mp hfind
    exact find?_of_mem hclash (hperm.mem_iff.mpr hp) hw

end Opcode

namespace Operation

/-- Decodes an opcode and executes the operation, each with a look at the table of its own. -/
def decodeThenExecute (opcode address : Int) (s : State) (d : Dice) :
    Except InstructionError (Operation × State × Dice) :=
  match decode opcode address with
  | .ok op => (op.execute s d).map (op, ·)
  | .error f => .error (.fault f)

/-- The second look at the table finds what the first one has found. -/
theorem execute_ofPattern {opcode : Int} {p : Pattern} (h : Opcode.find? opcode = some p)
    (address : Int) (s : State) (d : Dice) :
    (ofPattern p opcode address).execute s d =
      (p.form (Word.ofOpcode opcode)).execute address s d := by
  have hagain : Opcode.find? (ofPattern p opcode address).opcode = some p := h
  unfold execute
  rw [hagain]
  rfl

theorem dispatch_eq (opcode address : Int) (s : State) (d : Dice) :
    dispatch opcode address s d = decodeThenExecute opcode address s d := by
  unfold dispatch decodeThenExecute decode
  cases hfind : Opcode.find? opcode with
  | none => rfl
  | some p =>
    dsimp only
    rw [execute_ofPattern hfind]
    rfl

end Operation

namespace Opcode

/-- **The table is unambiguous**, and one look at it is as good as two. At most one of its patterns
admits an opcode, so the opcode is found in any order of the table, and it is looked up by its
remainder alone. Executing an opcode in one go has the same result as decoding it first, for all
states and dice: the same operation, state and draws, or the same error with the same state left
behind it. An opcode that no pattern admits leaves the state as it was. -/
theorem patterns_unambiguous (opcode : Int) :
    (patterns.Pairwise fun p q => ¬ (p.Admits opcode ∧ q.Admits opcode)) ∧
      (∀ table : List Pattern, table.Perm patterns →
        (table.find? fun p => p.Admits opcode) = find? opcode) ∧
      (∀ opcode', opcode' % 0x10000 = opcode % 0x10000 → find? opcode' = find? opcode) ∧
      ∀ address s d,
        Operation.dispatch opcode address s d = Operation.decodeThenExecute opcode address s d ∧
          ((∀ p ∈ patterns, ¬ p.Admits opcode) →
            ∃ e, Operation.dispatch opcode address s d = .error e ∧
              e = .fault (.invalidOpcode opcode address) ∧ e.leave s = s) := by
  refine ⟨pairwise_not_admits opcode, fun table hperm => ?_, fun opcode' hsame => ?_,
    fun address s d => ⟨?_, fun hno => ?_⟩⟩
  · rw [← findIn_eq]
    exact find?_of_perm hperm opcode
  · unfold find? findIn
    rw [Word.ofOpcode_congr hsame]
  · exact Operation.dispatch_eq opcode address s d
  · refine ⟨_, ?_, rfl, rfl⟩
    unfold Operation.dispatch
    rw [find?_eq_none_of_not_admits hno]

end Opcode

end Chip8
