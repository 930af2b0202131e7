import Chip8.Proofs.Listing
import Chip8.Proofs.Machine.Access
import Chip8.Proofs.Machine.Freeze

/-!
# A listing from the counter foretells the next instruction

An inspector lists the words from the counter on. The listing and the fetch look at the memory in
ways of their own: the listing asks for the second byte of a word only and leaves no accesses, the
fetch asks for both and logs them. On a well-formed state they agree. `State.ofRange_pc` says what
the first line is, `cycle_of_failsWith` and `nextExecutes_of_some` say what the machine does, and
`foretold_wordText` puts them side by side. The main result is `reachable_listing_foretells`: there
is no line if and only if the fetch will fail, there is a line of data if and only if the opcode
will be rejected, and otherwise the line is the instruction that will be executed.

Making a listing gives lines and nothing else, so neither the state nor its access log can
change with it.
-/

namespace Chip8

namespace State

variable {s : State}

/-- The line of the word at the counter. -/
def firstLine (s : State) : Line :=
  Listing.line s.pc (s.memory.getD s.pc) (s.memory.getD (s.pc + 1))

/-- **What a listing from the counter begins with.** -/
theorem ofRange_pc (h : s.WellFormed) {k : Int} (hk : 1 ≤ k) :
    ∃ lines, Listing.ofRange s.memory s.pc (2 * k) = .ok lines ∧
      lines.head? = if 0xFFE < s.pc then none else some s.firstLine := by
  have h0 := h.pc_nonneg
  obtain ⟨count, hcount⟩ : ∃ count, ((2 * k + 1) / 2).toNat = count + 1 := ⟨(k - 1).toNat, by omega⟩
  unfold Listing.ofRange
  rw [hcount]
  by_cases hpc : 0xFFE < s.pc
  · -- The listing looks for the second byte of a word only; without it there is no line.
    have hlow : s.memory.contains (s.pc + 1) = false := by
      rw [← Bool.not_eq_true, h.contains_iff]
      omega
    rw [if_pos hpc]
    exact ⟨[], Listing.lines_of_not_contains hlow _, rfl⟩
  · have hhigh : s.memory.contains s.pc = true := (h.contains_iff _).mpr (by omega)
    have hlow : s.memory.contains (s.pc + 1) = true := (h.contains_iff _).mpr (by omega)
    obtain ⟨rest, hrest⟩ := Listing.lines_ok s.memory count (a := s.pc + 2) (by omega)
    rw [Listing.lines_succ (Memory.finds_read hhigh) (Memory.finds_read hlow), hrest, if_neg hpc]
    exact ⟨_, rfl, rfl⟩

end State

namespace Machine

variable {m n : Machine}

/-- The two ways of asking for an instruction. -/
def instructing : List MachineEvent :=
  [.step, .runInstruction]

theorem raises_iff {event : MachineEvent} (h : event ∈ instructing) (e : CycleError) :
    n.Raises event e ↔ n.cycle.1 = .failed e := by
  constructor
  · intro hraises
    rw [cycle_of_raises hraises]
  · intro hc
    simp only [instructing, List.mem_cons, List.not_mem_nil, or_false] at h
    rcases h with rfl | rfl
    · exact n.step_fst.1 e hc
    · exact n.runInstruction_fst.1 e hc

/-- The next step executes an operation: it makes a record of it, or runs into the fault that the
stack has in store for it. -/
def NextExecutes (n : Machine) (op : Operation) : Prop :=
  match op.instruction.faultIn op.address n.state with
  | none => ∃ snap, n.step.1 = .ok (some snap) ∧ snap.operation = op
  | some f => n.step.1 = .error (.fault f)

/-- A text that says what the next instruction of a machine comes to. -/
structure Foretold (n : Machine) (text : String) : Prop where
  data_iff : ∀ event ∈ instructing,
    (text = "DW #" ++ Numeral.upperHex 4 n.state.word ↔
      ∃ a, n.Raises event (.fault (.invalidOpcode n.state.word a)))
  executes : text ≠ "DW #" ++ Numeral.upperHex 4 n.state.word →
    ∃ op, Operation.decode n.state.word n.state.pc = .ok op ∧ text = op.instruction.text ∧
      n.NextExecutes op
  symbol : ∀ snap, n.step.1 = .ok (some snap) →
    snap.symbol = Numeral.upperHex 3 n.state.pc ++ ": " ++ text

/-- What the next instruction must fail with, it fails with. -/
theorem cycle_of_failsWith (h : n.state.WellFormed) (hrun : n.halt = none)
    (hwait : n.state.awaiting = none) {f : Fault} (hf : n.state.FailsWith f) :
    n.cycle.1 = .failed (.fault f) := by
  rcases cycle_of_running h hrun hwait with ⟨g, hg, hc⟩ | ⟨hno, -⟩
  · rw [← State.nextFault_eq_some_iff] at hf hg
    rw [hc, Option.some.inj (hf.symm.trans hg)]
  · exact absurd hf (hno f)

/-- An operation that its word stands for is executed. -/
theorem nextExecutes_of_some (h : n.state.WellFormed) (hrun : n.halt = none)
    (hwait : n.state.awaiting = none) (hpc : n.state.pc ≤ 0xFFE) {i : Instruction}
    (hi : Opcode.instruction? n.state.word = some i) :
    n.NextExecutes ⟨n.state.word, n.state.pc, i⟩ := by
  -- Which of the two it is can be read off the fault ahead.
  have hnext : n.state.nextFault = i.faultIn n.state.pc n.state := by
    obtain ⟨p, hfind, rfl⟩ := Option.map_eq_some_iff.mp hi
    unfold State.nextFault
    rw [if_neg (by omega), hfind]
  have houtcome := cycle_outcome h
  unfold NextExecutes
  dsimp only
  rw [← hnext]
  cases hc : n.cycle with
  | mk outcome left =>
    rw [hc] at houtcome
    cases houtcome with
    | halted cause hhalt =>
      rw [hrun] at hhalt
      cases hhalt
    | awaitingKey _ hsome =>
      rw [hwait] at hsome
      cases hsome
    | fault f s _ _ hfault =>
      rw [hfault]
      dsimp only
      rw [step_of_failed hc]
    | executed op s d _ _ hfault =>
      rw [hfault]
      dsimp only
      obtain ⟨snap, hstep⟩ := n.step_fst.2 op (congrArg Prod.fst hc)
      obtain ⟨hopcode, haddress, hinstruction, -⟩ := step_accessed h hstep
      rw [hopcode, hi] at hinstruction
      refine ⟨snap, hstep, ?_⟩
      cases hop : snap.operation with
      | mk opcode address instruction =>
        rw [hop] at hopcode haddress hinstruction
        cases hinstruction
        rw [← hopcode, ← haddress]

/-- **The text of the word at the counter** says what the next instruction comes to. -/
theorem foretold_wordText (h : n.state.WellFormed) (hrun : n.halt = none)
    (hwait : n.state.awaiting = none) (hpc : n.state.pc ≤ 0xFFE) :
    n.Foretold (Listing.wordText n.state.word n.state.pc) := by
  cases hi : Opcode.instruction? n.state.word with
  | none =>
    have hno := (Opcode.instruction?_eq_none_iff _).mp hi
    have hc := cycle_of_failsWith h hrun hwait (.invalidOpcode hpc hno)
    rw [Listing.wordText_of_none hi]
    refine ⟨fun event hevent => iff_of_true rfl ⟨_, (raises_iff hevent _).mpr hc⟩,
      fun hne => absurd rfl hne, ?_⟩
    intro snap hstep
    rw [n.step_fst.1 _ hc] at hstep
    cases hstep
  | some i =>
    obtain ⟨w, hw⟩ : ∃ w : Nat, n.state.word = w :=
      Int.eq_ofNat_of_zero_le (by unfold State.word; omega)
    have hdata : i.text ≠ "DW #" ++ Numeral.upperHex 4 n.state.word := hw ▸ i.text_ne_data w
    rw [Listing.wordText_of_some hi]
    refine ⟨fun event hevent => iff_of_false hdata ?_, ?_, ?_⟩
    · rintro ⟨a, hraises⟩
      -- The word is an instruction, so it cannot be the reason.
      obtain ⟨hfails, -⟩ := cycle_of_fault h (cycle_of_raises hraises)
      cases hfails with
      | invalidOpcode _ hno =>
        rw [← Opcode.instruction?_eq_none_iff, hi] at hno
        cases hno
    · intro _
      have hdecode : Operation.decode n.state.word n.state.pc =
          .ok ⟨n.state.word, n.state.pc, i⟩ := by
        obtain ⟨p, hfind, rfl⟩ := Option.map_eq_some_iff.mp hi
        unfold Operation.decode
        rw [hfind]
        rfl
      exact ⟨_, hdecode, rfl, nextExecutes_of_some h hrun hwait hpc hi⟩
    · intro snap hstep
      obtain ⟨hopcode, haddress, hinstruction, -⟩ := step_accessed h hstep
      rw [hopcode, hi] at hinstruction
      unfold Snapshot.symbol Operation.symbol
      rw [haddress, ← Option.some.inj hinstruction]

/-- A machine that would go on where another one stands: it is neither halted nor waiting for a key,
and agrees with the other on the counter and the cells. -/
structure RunsAt (n m : Machine) : Prop where
  state : n.state.WellFormed
  halt : n.halt = none
  awaiting : n.state.awaiting = none
  pc : n.state.pc = m.state.pc
  cells : n.state.memory.cells = m.state.memory.cells

/-- A machine that waits for a key goes on once it has one. -/
theorem RunsAt.press (h : m.state.WellFormed) (hrun : m.halt = none) {code : Int} (h0 : 0 ≤ code)
    (h1 : code < 16) :
    (m.press code).2.RunsAt m := by
  have hwait : (m.state.press code).2.awaiting = none := by
    unfold State.press
    rw [if_pos ⟨h0, h1⟩]
    dsimp only
    split
    next hwait => exact hwait
    next number hwait =>
      obtain ⟨hlo, hhi⟩ := h.awaiting_lt number hwait
      obtain ⟨x, rfl⟩ := Int.eq_ofNat_of_zero_le hlo
      rw [slot_of_lt .writing (by omega)]
  refine ⟨h.press code, hrun, hwait, ?_, ?_⟩
  · show (m.state.press code).2.pc = m.state.pc
    rw [m.state.press_eq code]
  · show (m.state.press code).2.memory.cells = m.state.memory.cells
    rw [m.state.press_eq code]

/-- **A listing from the counter foretells the next instruction.** On every machine that comes up,
running or not, a listing of any number of lines succeeds. It is empty if and only if a machine that
goes on from there fails for want of memory. Otherwise its first line has the counter and the two
bytes there, and the text of it is data if and only if such a machine rejects the word as an opcode;
if not, it is the text of the operation that is executed, as it stands in the record of the step. -/
theorem reachable_listing_foretells (h : m.Reachable) {k : Int} (hk : 1 ≤ k) :
    ∃ lines, Listing.ofRange m.state.memory m.state.pc (2 * k) = .ok lines ∧
      ∀ n : Machine, n.RunsAt m →
        (∀ event ∈ instructing, (lines = [] ↔ ∃ a, n.Raises event (.fault (.outOfMemory a)))) ∧
          ∀ first ∈ lines.head?, ∃ text : String,
            first = ⟨n.state.pc, Numeral.upperHex 2 (n.state.memory.getD n.state.pc).toNat ++ " " ++
              Numeral.upperHex 2 (n.state.memory.getD (n.state.pc + 1)).toNat, text⟩ ∧
                n.Foretold text := by
  obtain ⟨lines, hlines, hfirst⟩ := State.ofRange_pc h.wellFormed.state hk
  refine ⟨lines, hlines, fun n hn => ?_⟩
  -- The line is made of the counter and the cells, which the two machines share.
  have hbytes : ∀ a, n.state.memory.getD a = m.state.memory.getD a := by
    intro a
    unfold Memory.getD Memory.get?
    rw [hn.cells]
  have hline : n.state.firstLine = m.state.firstLine := by
    unfold State.firstLine
    rw [hbytes, hbytes, hn.pc]
  rw [← hn.pc, ← hline] at hfirst
  by_cases hpc : 0xFFE < n.state.pc
  · rw [if_pos hpc, List.head?_eq_none_iff] at hfirst
    have hc := cycle_of_failsWith hn.state hn.halt hn.awaiting (.outOfMemory hpc)
    refine ⟨fun event hevent => iff_of_true hfirst ⟨_, (raises_iff hevent _).mpr hc⟩, ?_⟩
    rw [hfirst]
    rintro first ⟨⟩
  · rw [if_neg hpc] at hfirst
    refine ⟨fun event hevent => iff_of_false ?_ ?_, ?_⟩
    · rintro rfl
      cases hfirst
    · rintro ⟨a, hraises⟩
      obtain ⟨hfails, -⟩ := cycle_of_fault hn.state (cycle_of_raises hraises)
      cases hfails with
      | outOfMemory hlt => exact hpc hlt
    · rintro first hmem
      rw [hfirst] at hmem
      cases hmem
      exact ⟨_, rfl, foretold_wordText hn.state hn.halt hn.awaiting (by omega)⟩

/-- A machine that has written its next instruction itself, `00E0` behind the key wait that it
stands in. -/
def selfWritten : Machine :=
  (boot [0x61, 0xE0, 0xA2, 0x08, 0xF1, 0x55, 0xF2, 0x0A] 0x200 (Dice.cycle [])).afterAll
    (List.replicate 4 .step)

theorem reachable_listing_foretells_selfWritten :
    selfWritten.Reachable ∧ (1 : Int) ≤ 1 ∧ (selfWritten.press 7).2.RunsAt selfWritten ∧
      Listing.ofRange selfWritten.state.memory selfWritten.state.pc (2 * 1) =
        .ok [⟨0x208, Text.ofString "00 E0", Text.ofString "CLS"⟩] ∧
      (selfWritten.press 7).2.Foretold "CLS" := by
  have hreach : selfWritten.Reachable :=
    ⟨[0x61, 0xE0, 0xA2, 0x08, 0xF1, 0x55, 0xF2, 0x0A], 0x200, Dice.cycle [], _,
      List.replicate 4 .step, rfl, rfl⟩
  have hrun : selfWritten.halt = none := by
    unfold selfWritten
    rw [boot_eq]
    decide +kernel
  have hpressed : (selfWritten.press 7).2.RunsAt selfWritten :=
    RunsAt.press hreach.wellFormed.state hrun (by decide) (by decide)
  have hlist : (Listing.ofRange selfWritten.state.memory selfWritten.state.pc (2 * 1)).toOption =
      some [⟨0x208, Text.ofString "00 E0", Text.ofString "CLS"⟩] := by
    unfold selfWritten
    rw [boot_eq]
    decide +kernel
  obtain ⟨lines, hlines, hforetells⟩ := reachable_listing_foretells hreach (k := 1) (by decide)
  rw [hlines] at hlist
  cases hlist
  obtain ⟨-, hfirst⟩ := hforetells _ hpressed
  obtain ⟨text, hline, hforetold⟩ := hfirst _ rfl
  have htext : text = "CLS" := by
    have hsame := congrArg Text.toString? (congrArg Line.text hline)
    rw [Text.toString?_ofString, Text.toString?_ofString] at hsame
    exact (Option.some.inj hsame).symm
  exact ⟨hreach, by decide, hpressed, hlines, htext ▸ hforetold⟩

end Machine

end Chip8
