import Chip8.Proofs.Listing

/-!
# What a listing covers

A listing of a range is to have one line for every second address, from the start of the range on
up to the first word that does not lie in memory. `InRange` says which words are meant, and
`Covers` that the listing has exactly their lines. Only the second byte of a word is tested for
lying in memory. That is enough wherever the first word begins except at -1, where its second byte
is the first one of the memory: `covers_iff` says that every other range is covered, and what
happens to this one.
-/

namespace Chip8.Listing

variable {m : Memory}

/-- Whether the word number `k` of a range begins inside of it and lies in memory with both
its bytes. -/
def InRange (m : Memory) (start length : Int) (k : Nat) : Prop :=
  start + 2 * k < start + length ∧ m.contains (start + 2 * k) = true ∧
    m.contains (start + 2 * k + 1) = true

instance (m : Memory) (start length : Int) (k : Nat) : Decidable (InRange m start length k) :=
  inferInstanceAs (Decidable (_ ∧ _ ∧ _))

/-- The line of the word at an address. -/
def lineAt (m : Memory) (a : Int) : Line :=
  line a (m.getD a) (m.getD (a + 1))

/-- The listing of a range succeeds, and has one line for each of its words up to the first one that
is not in the range and in memory. -/
def Covers (m : Memory) (start length : Int) : Prop :=
  ∃ count : Nat, ofRange m start length =
    .ok ((List.range count).map fun k => lineAt m (start + 2 * (k : Nat))) ∧
    ∀ k, k < count ↔ ∀ j ≤ k, InRange m start length j

/-! ## Lines one after the other -/

/-- Both bytes of a word lie in memory if its second one does, unless the first one is in front
of it. -/
theorem contains_first {a : Int} (ha : a ≠ -1) (h : m.contains (a + 1) = true) :
    m.contains a = true := by
  unfold Memory.contains at h ⊢
  simp only [decide_eq_true_eq] at h ⊢
  omega

/-- The lines from an address on are those of the words that lie in memory, up to the first one that
does not. -/
theorem lines_covers (count : Nat) {a : Int} (ha : a ≠ -1) :
    ∃ found : Nat, lines m a count = .ok
      ((List.range found).map fun k => lineAt m (a + 2 * (k : Nat))) ∧
      ∀ k, k < found ↔
        k < count ∧ ∀ j ≤ k, m.contains (a + 2 * (j : Nat)) = true ∧
        m.contains (a + 2 * (j : Nat) + 1) = true := by
  induction count generalizing a with
  | zero => exact ⟨0, rfl, fun k => by simp⟩
  | succ count ih =>
    by_cases hlow : m.contains (a + 1) = true
    · have hhigh := contains_first ha hlow
      have hnext : a + 2 ≠ -1 := by
        unfold Memory.contains at hhigh
        simp only [decide_eq_true_eq] at hhigh
        omega
      obtain ⟨found, hlines, hfound⟩ := ih hnext
      have hplace : ∀ j : Nat, a + 2 + 2 * (j : Int) = a + 2 * ((j + 1 : Nat) : Int) :=
        fun j => by omega
      refine ⟨found + 1, ?_, fun k => ?_⟩
      · rw [lines_succ (Memory.finds_read hhigh) (Memory.finds_read hlow), hlines,
          List.range_succ_eq_map, List.map_cons,
          List.map_map]
        simp only [hplace]
        have hfirst : lineAt m (a + 2 * ((0 : Nat) : Int)) =
            line a (m.getD a) (m.getD (a + 1)) := by
          rw [Int.natCast_zero, Int.mul_zero, Int.add_zero]
          rfl
        rw [hfirst]
        rfl
      · -- The first word lies in memory, and those behind it are counted from the next one on.
        cases k with
        | zero => simp [hhigh, hlow]
        | succ k =>
          simp only [hplace] at hfound
          rw [Nat.succ_lt_succ_iff, Nat.succ_lt_succ_iff, hfound k]
          refine and_congr_right fun _ => ⟨fun h j hj => ?_, fun h j hj =>
            h (j + 1) (Nat.succ_le_succ hj)⟩
          cases j with
          | zero =>
            rw [Int.natCast_zero, Int.mul_zero, Int.add_zero]
            exact ⟨hhigh, hlow⟩
          | succ j => exact h j (Nat.le_of_succ_le_succ hj)
    · refine ⟨0, lines_of_not_contains (Bool.eq_false_iff.mpr hlow) _, fun k => ?_⟩
      refine iff_of_false (Nat.not_lt_zero k) fun h => hlow ?_
      have hfirst := (h.2 0 (Nat.zero_le k)).2
      rwa [Int.natCast_zero, Int.mul_zero, Int.add_zero] at hfirst

/-- A word begins inside of a range of bytes if its number is below half the length, rounded up. -/
theorem lt_half_iff (start length : Int) (k : Nat) :
    k < ((length + 1) / 2).toNat ↔ start + 2 * k < start + length := by
  omega

/-! ## Ranges -/

/-- A range that does not begin right in front of the memory is covered. -/
theorem covers_of_ne {start : Int} (hstart : start ≠ -1) (length : Int) :
    Covers m start length := by
  obtain ⟨count, hlines, hcount⟩ := lines_covers (m := m) ((length + 1) / 2).toNat hstart
  refine ⟨count, hlines, fun k => ?_⟩
  rw [hcount k, lt_half_iff start length k]
  constructor
  · rintro ⟨hlt, hin⟩ j hj
    exact ⟨by omega, hin j hj⟩
  · intro h
    exact ⟨(h k (Nat.le_refl k)).1, fun j hj => (h j hj).2⟩

/-- No word lies in memory that begins in front of it. -/
theorem not_inRange_before (m : Memory) (length : Int) : ¬ InRange m (-1) length 0 := by
  rintro ⟨-, hfirst, -⟩
  simp [Memory.contains] at hfirst

/-- A range right in front of the memory is covered if its listing is empty. -/
theorem covers_before_iff (m : Memory) (length : Int) :
    Covers m (-1) length ↔ ofRange m (-1) length = .ok [] := by
  constructor
  · rintro ⟨count, hlines, hcount⟩
    have hnone : ¬ 0 < count :=
      fun hpos => not_inRange_before m length ((hcount 0).mp hpos 0 (Nat.le_refl 0))
    obtain rfl : count = 0 := Nat.eq_zero_of_not_pos hnone
    exact hlines
  · intro hlines
    refine ⟨0, hlines, fun k => iff_of_false (Nat.not_lt_zero k) fun h => ?_⟩
    exact not_inRange_before m length (h 0 (Nat.zero_le k))

/-- A listing right in front of the memory looks at a cell that does not exist, if it has to look
at all. -/
theorem ofRange_before (m : Memory) (length : Int) :
    ofRange m (-1) length =
      if 0 < length ∧ m.contains 0 = true then .error (.noCell (-1) m.size) else .ok [] := by
  unfold ofRange
  by_cases hlength : 0 < length
  · obtain ⟨count, hcount⟩ : ∃ count, ((length + 1) / 2).toNat = count + 1 :=
      ⟨((length + 1) / 2).toNat - 1, by omega⟩
    rw [hcount]
    cases hzero : m.contains 0 with
    | false =>
      rw [if_neg (by simp)]
      exact lines_of_not_contains hzero _
    | true =>
      have hfirst : m.peek (-1) = .error (.noCell (-1) m.size) := rfl
      rw [if_pos ⟨hlength, rfl⟩]
      unfold lines
      rw [hfirst]
      show (if m.contains 0 then _ else _) = _
      rw [hzero, if_pos rfl]
  · have hcount : ((length + 1) / 2).toNat = 0 := by omega
    rw [hcount, if_neg fun h => hlength h.1]
    rfl

/-- A listing looks at the cells of a memory and not at its log. -/
theorem lines_withLog (m : Memory) (log : List Access) (a : Int) (count : Nat) :
    lines { m with log } a count = lines m a count := by
  induction count generalizing a with
  | zero => rfl
  | succ count ih =>
    unfold lines
    rw [ih (a + 2)]
    rfl

/-- **A listing covers its range** unless it has to begin with the byte in front of the memory, and
then it fails at that byte. It is made by looking at cells, which leaves the memory alone, and what
has been logged does not matter to it. -/
theorem covers_iff (m : Memory) (start length : Int) :
    (Covers m start length ↔ ¬ (start = -1 ∧ 0 < length ∧ m.contains 0 = true)) ∧
      (Covers m start length ∨ ofRange m start length = .error (.noCell (-1) m.size)) ∧
      ∀ log, ofRange { m with log } start length = ofRange m start length := by
  refine ⟨?_, ?_, fun log => lines_withLog m log start _⟩
  · by_cases hstart : start = -1
    · rw [hstart, covers_before_iff, ofRange_before]
      split
      next hlooks => simp [hlooks]
      next hlooks => simpa using hlooks
    · exact iff_of_true (covers_of_ne hstart length) fun h => hstart h.1
  · by_cases hstart : start = -1
    · rw [hstart, covers_before_iff, ofRange_before]
      split
      · exact .inr rfl
      · exact .inl rfl
    · exact .inl (covers_of_ne hstart length)

/-- One word in front of a memory of 4096 cells: no word is in range, but the listing fails instead
of being empty. -/
theorem not_covers_before :
    ofRange (.blank (.number 4096)) (-1) 2 = .error (.noCell (-1) (.number 4096)) ∧
      ¬ Covers (.blank (.number 4096)) (-1) 2 := by
  have hzero : (Memory.blank (.number 4096)).contains 0 = true := by
    simp [Memory.contains, Memory.blank, Size.toNat]
  have hfails : ofRange (.blank (.number 4096)) (-1) 2 = .error (.noCell (-1) (.number 4096)) := by
    rw [ofRange_before, if_pos ⟨by decide, hzero⟩]
    rfl
  refine ⟨hfails, ?_⟩
  rw [covers_before_iff, hfails]
  exact fun h => nomatch h

end Chip8.Listing
