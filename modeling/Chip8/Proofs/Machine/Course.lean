import Chip8.Proofs.Machine.Fault
import Chip8.Proofs.Machine.Load
import Chip8.Proofs.Machine.Run
import Chip8.Proofs.Opcode.Encoding

/-!
# Programs followed without running them

A `Course` is what has to be known of a machine to tell which instruction comes next in a simple
program: the counter, the first register as far as it is known, and how many calls are open. `next`
follows one instruction through such a course. It knows only a few instructions, none of which
writes to memory, so the words are those of the program as it was loaded; where an instruction
depends on what is not known, there are several courses to go on with.

`Holds` says that a machine is on a course. A cycle follows it (`Holds.cycle`), and so does every
event but a reset, which goes back to the beginning (`Circle.after`). Hence courses that lead to
nothing but each other keep a machine running for good (`runsOn_of_circle`), and a course that comes
to an end stops it (`run_of_ends`). Both can be computed.
-/

namespace Chip8

/-- What is known of a machine on its way through a program. -/
structure Course where
  pc : Nat
  /-- The number in the first register, if it is known. -/
  first : Option Nat
  /-- The number of open calls. -/
  calls : Nat
  deriving DecidableEq

namespace Course

/-- The word at an address of an image. -/
def word (image : Nat → UInt8) (pc : Nat) : Nat :=
  (image pc).toNat * 256 + (image (pc + 1)).toNat

/-- A course behind an instruction that it has passed. -/
def passed (c : Course) : Course :=
  { c with pc := c.pc + 2 }

/-- What is known of a register. -/
def known (c : Course) (x : Reg) : Option Nat :=
  if x = offsetReg then c.first else none

/-- A course after a register has been set. -/
def withReg (c : Course) (x : Reg) (value : Option Nat) : Course :=
  if x = offsetReg then { c with first := value } else c

/-- The courses to go on with after an instruction. -/
def through (c : Course) : Instruction → Option (List Course)
  | .clear => some [c.passed]
  | .glyph _ => some [c.passed]
  | .draw _ _ _ => some [c.passed]
  | .jump a => some [{ c with pc := a.toNat }]
  | .call a =>
    if c.calls < stackDepth then some [{ c with pc := a.toNat, calls := c.calls + 1 }] else none
  | .skipIfByte x b =>
    match c.known x with
    | some n => some [if n = b.toNat then c.passed.passed else c.passed]
    | none => some [c.passed, c.passed.passed]
  | .loadByte x b => some [c.passed.withReg x (some b.toNat)]
  | .addByte x b => some [c.passed.withReg x ((c.known x).map fun n => (n + b.toNat) % 0x100)]
  | _ => none

/-- The courses to go on with after the instruction at the counter. -/
def next (image : Nat → UInt8) (c : Course) : Option (List Course) :=
  if 0xFFE < c.pc then none else (Opcode.instruction? (word image c.pc)).bind c.through

/-- Whether a course knows no more than another one. -/
def Covers (c c' : Course) : Prop :=
  c.pc = c'.pc ∧ c.calls = c'.calls ∧ (c.first = none ∨ c.first = c'.first)

instance (c c' : Course) : Decidable (c.Covers c') :=
  inferInstanceAs (Decidable (_ ∧ _ ∧ _))

/-- Courses that lead to nothing but each other. -/
def Closed (image : Nat → UInt8) (courses : List Course) : Prop :=
  ∀ c ∈ courses, ∃ following ∈ c.next image, ∀ c' ∈ following, ∃ c'' ∈ courses, c''.Covers c'

instance (image : Nat → UInt8) (courses : List Course) : Decidable (Closed image courses) :=
  inferInstanceAs (Decidable (∀ c ∈ courses, ∃ following ∈ c.next image, _))

/-- A course that comes to a place where there is no instruction. -/
inductive Ends (image : Nat → UInt8) : Course → Prop
  | behind {c : Course} (h : 0xFFE < c.pc) : Ends image c
  | noInstruction {c : Course} (h : Opcode.instruction? (word image c.pc) = none) : Ends image c
  | on {c c' : Course} (h : c.next image = some [c']) (h' : Ends image c') : Ends image c

/-- Looks for the end of a course among its first `fuel` instructions. -/
def endsWithin (image : Nat → UInt8) : Nat → Course → Bool
  | 0, _ => false
  | fuel + 1, c =>
    if 0xFFE < c.pc then true
    else
      match Opcode.instruction? (word image c.pc) with
      | none => true
      | some i =>
        match c.through i with
        | some [c'] => endsWithin image fuel c'
        | _ => false

theorem ends_of_endsWithin {image : Nat → UInt8} {fuel : Nat} {c : Course}
    (h : endsWithin image fuel c = true) :
    Ends image c := by
  induction fuel generalizing c with
  | zero => cases h
  | succ fuel ih =>
    unfold endsWithin at h
    split at h
    next hpc => exact .behind hpc
    next hpc =>
      split at h
      next hnone => exact .noInstruction hnone
      next i hi =>
        split at h
        next c' hthrough =>
          refine .on ?_ (ih h)
          unfold next
          rw [if_neg hpc, hi]
          exact hthrough
        next => cases h

/-- A course that ends after it has passed through others. -/
theorem Ends.of_passing {image : Nat → UInt8} {c : Nat → Course} {n : Nat}
    (h : ∀ k < n, (c k).next image = some [c (k + 1)]) (hend : Ends image (c n)) :
    Ends image (c 0) := by
  induction n generalizing c with
  | zero => exact hend
  | succ n ih =>
    exact .on (h 0 (Nat.succ_pos n)) (ih (fun k hk => h (k + 1) (Nat.succ_lt_succ hk)) hend)

/-! ## States and machines on a course -/

/-- What a course knows is so in a state. -/
structure Fits (c : Course) (s : State) : Prop where
  free : s.awaiting = none
  pc : s.pc = c.pc
  first : ∀ n ∈ c.first, s.v.get offsetReg = (n : Nat)
  calls : s.sp = c.calls

/-- A machine is on a course through its program, which it still holds as it was loaded. -/
structure Holds (program : List UInt8) (base : Nat) (c : Course) (m : Machine) : Prop where
  wellFormed : m.WellFormed
  room : base + program.length ≤ Memory.standardSize
  image_eq : m.image = .ofProgram program base room
  base_eq : m.base = base
  size_eq : m.programSize = program.length
  running : m.halt = none
  cells : m.state.memory.cells = (Program.placed program base).toArray
  fits : c.Fits m.state

variable {program : List UInt8} {base : Nat} {c c' : Course} {s : State} {m : Machine}

theorem Fits.of_covers (h : c'.Fits s) (hc : c.Covers c') : c.Fits s := by
  obtain ⟨hpc, hcalls, hfirst⟩ := hc
  refine ⟨h.free, by rw [hpc, h.pc], fun n hn => ?_, by rw [hcalls, h.calls]⟩
  rcases hfirst with hnone | hsame
  · rw [hnone] at hn
    cases hn
  · exact h.first n (hsame ▸ hn)

theorem Fits.known (h : c.Fits s) {x : Reg} {n : Nat} (hn : c.known x = some n) :
    s.v.get x = n := by
  unfold Course.known at hn
  split at hn
  next hx =>
    rw [hx]
    exact h.first n hn
  next => cases hn

/-- Setting a register to what is noted of it. -/
theorem Fits.setReg (h : c.Fits s) (x : Reg) {value : Int} {noted : Option Nat}
    (hvalue : ∀ n ∈ noted, value = (n : Nat)) :
    (c.withReg x noted).Fits (s.setReg x value) := by
  have hget := s.get_setReg x offsetReg value
  unfold withReg
  split
  next hx =>
    rw [if_pos hx.symm] at hget
    exact ⟨h.free, h.pc, fun n hn => hget.trans (hvalue n hn), h.calls⟩
  next hx =>
    rw [if_neg (Ne.symm hx)] at hget
    exact ⟨h.free, h.pc, fun n hn => hget.trans (h.first n hn), h.calls⟩

/-- The flag register is none of those that are followed. -/
theorem Fits.setFlag (h : c.Fits s) (on : Bool) : c.Fits (s.setFlag on) := by
  have hnone : ∀ n ∈ (none : Option Nat), (if on then 1 else 0 : Int) = (n : Nat) :=
    fun n hn => by cases hn
  exact h.setReg flagReg hnone

theorem Fits.skip (h : c.Fits s) : c.passed.Fits { s with pc := s.pc + 2 } :=
  ⟨h.free, by rw [h.pc]; rfl, h.first, h.calls⟩

/-- **An instruction that is followed** is executed, does not touch memory, and leaves a state on
one of the courses to go on with. -/
theorem Fits.execute (h : c.passed.Fits s) {i : Instruction} {following : List Course}
    (hthrough : c.through i = some following) (address : Int) (d : Dice) :
    ∃ s', i.execute address s d = .ok (s', d) ∧ s'.memory.cells = s.memory.cells ∧ ∃ c' ∈ following,
    c'.Fits s' := by
  cases i with
  | clear =>
    cases hthrough
    exact ⟨_, rfl, rfl, _, List.mem_singleton_self _, h.free, h.pc, h.first, h.calls⟩
  | glyph x =>
    cases hthrough
    exact ⟨_, rfl, rfl, _, List.mem_singleton_self _, h.free, h.pc, h.first, h.calls⟩
  | draw x y height =>
    cases hthrough
    refine ⟨_, rfl, Memory.cells_fetchBlock _ _ _, _, List.mem_singleton_self _, Fits.setFlag ?_ _⟩
    exact ⟨h.free, h.pc, h.first, h.calls⟩
  | jump a =>
    cases hthrough
    exact ⟨_, rfl, rfl, _, List.mem_singleton_self _, h.free, rfl, h.first, h.calls⟩
  | call a =>
    rw [through] at hthrough
    split at hthrough
    next hfree =>
      cases hthrough
      have h0 : 0 ≤ s.sp := by
        rw [h.calls]
        exact Int.natCast_nonneg _
      have h1 : s.sp < stackDepth := by
        rw [h.calls]
        exact Int.ofNat_lt.mpr hfree
      obtain ⟨s', henter, -, hleft⟩ := State.enter_of_lt h0 h1 a.toNat address
      refine ⟨s', ?_, ?_, _, List.mem_singleton_self _, ?_, ?_, ?_, ?_⟩
      · show (s.enter a.toNat address).map (·, d) = _
        rw [henter]
        rfl
      · rw [hleft]
      · rw [hleft]
        exact h.free
      · rw [hleft]
      · rw [hleft]
        exact h.first
      · rw [hleft]
        show s.sp + 1 = ((c.calls + 1 : Nat) : Int)
        rw [h.calls]
        rfl
    next => cases hthrough
  | skipIfByte x b =>
    refine ⟨_, rfl, by rw [s.skipIf_eq], ?_⟩
    rw [through] at hthrough
    unfold State.skipIf
    split at hthrough
    next n hknown =>
      cases hthrough
      refine ⟨_, List.mem_singleton_self _, ?_⟩
      have hvalue : (s.v.get x == b.toNat) = decide (n = b.toNat) := by
        rw [h.known hknown, Bool.eq_iff_iff, beq_iff_eq, decide_eq_true_iff]
        exact Int.ofNat_inj
      rw [hvalue]
      by_cases hn : n = b.toNat
      · rw [if_pos hn, if_pos (decide_eq_true hn)]
        exact h.skip
      · rw [if_neg hn, if_neg (by rw [decide_eq_false hn]; exact Bool.false_ne_true)]
        exact h
    next =>
      -- What the register holds is not known, so both ways have to be followed.
      cases hthrough
      split
      · exact ⟨_, List.mem_cons_of_mem _ (List.mem_singleton_self _), h.skip⟩
      · exact ⟨_, List.mem_cons_self, h⟩
  | loadByte x b =>
    cases hthrough
    exact ⟨_, rfl, rfl, _, List.mem_singleton_self _, h.setReg x fun n hn => by cases hn; rfl⟩
  | addByte x b =>
    cases hthrough
    refine ⟨_, rfl, rfl, _, List.mem_singleton_self _, h.setReg x fun n hn => ?_⟩
    obtain ⟨k, hknown, rfl⟩ := Option.map_eq_some_iff.mp hn
    have hvalue : s.v.get x = (k : Nat) := h.known hknown
    rw [hvalue]
    omega
  | _ => cases hthrough

/-! ## Cycles on a course -/

/-- What a cell holds is the byte of the image. -/
theorem getD_image {memory : Memory} (hroom : base + program.length ≤ Memory.standardSize)
    (h : memory.cells = (Program.placed program base).toArray) {a : Nat}
    (ha : a < Memory.standardSize) : memory.getD a = Program.imageByte program.toArray base a := by
  unfold Memory.getD Memory.get?
  rw [if_pos (Int.natCast_nonneg a), h, Int.toNat_natCast, List.getElem?_toArray,
    Program.getElem?_placed hroom ha]
  rfl

namespace Holds

/-- The word at the counter is the one of the image. -/
theorem word_eq (h : Holds program base c m) (hpc : ¬ 0xFFE < c.pc) :
    m.state.word = word (Program.imageByte program.toArray base) c.pc := by
  have hhigh : c.pc < 0x1000 := by omega
  have hlow : c.pc + 1 < 0x1000 := by omega
  have hnext : (c.pc : Int) + 1 = (c.pc + 1 : Nat) := rfl
  unfold State.word word
  rw [h.fits.pc, hnext, getD_image h.room h.cells hhigh, getD_image h.room h.cells hlow]
  omega

/-- **A cycle** follows the course, or one of them if there are several. -/
theorem cycle (h : Holds program base c m) {following : List Course}
    (hnext : c.next (Program.imageByte program.toArray base) = some following) :
    ∃ op, m.cycle = (.executed op, m.cycle.2) ∧ ∃ c' ∈ following,
    Holds program base c' m.cycle.2 := by
  unfold next at hnext
  split at hnext
  next => cases hnext
  next hpc =>
    obtain ⟨i, hi, hthrough⟩ := Option.bind_eq_some_iff.mp hnext
    obtain ⟨p, hfind, rfl⟩ := Option.map_eq_some_iff.mp hi
    have hle : m.state.pc ≤ 0xFFE := by
      rw [h.fits.pc]
      omega
    have hfetched : c.passed.Fits m.state.quiet.fetched :=
      ⟨h.fits.free, h.fits.skip.pc, h.fits.first, h.fits.calls⟩
    obtain ⟨s, hexecute, hcells, c', hc', hfits⟩ := hfetched.execute hthrough m.state.pc m.dice
    have hcycle : ∃ op, m.cycle = (.executed op,
        { m with state := { s with cycles := s.cycles + 1 } }) := by
      refine ⟨.ofPattern p m.state.word m.state.pc, ?_⟩
      rw [← h.word_eq hpc] at hfind hexecute
      rw [Machine.cycle_of_le h.running h.fits.free h.wellFormed.state hle]
      unfold Operation.dispatch
      rw [hfind]
      show m.concluded _ (((p.form (Word.ofOpcode m.state.word)).execute _ _ _).map _) = _
      rw [hexecute]
      rfl
    have hwellFormed := h.wellFormed.of_outcome (Machine.cycle_outcome h.wellFormed.state)
    obtain ⟨op, hop⟩ := hcycle
    rw [hop] at hwellFormed ⊢
    exact ⟨op, rfl, c', hc', hwellFormed, h.room, h.image_eq, h.base_eq, h.size_eq, h.running,
      hcells.trans h.cells, hfits.free, hfits.pc,
      hfits.first, hfits.calls⟩

/-- Where a course ends, a cycle fails. -/
theorem cycle_failed (h : Holds program base c m)
    (hend : 0xFFE < c.pc ∨ Opcode.instruction?
      (word (Program.imageByte program.toArray base) c.pc) = none) :
    ∃ f, m.cycle = (.failed (.fault f), m.cycle.2) := by
  rcases Machine.cycle_of_running h.wellFormed.state h.running
    h.fits.free with ⟨f, -, hc⟩ | ⟨hno, -⟩
  · exact ⟨f, Prod.ext hc rfl⟩
  · -- Otherwise there would be no reason to fail.
    by_cases hpc : 0xFFE < c.pc
    · exact absurd (.outOfMemory (by rw [h.fits.pc]; omega)) (hno _)
    · have hnone := hend.resolve_left hpc
      rw [← h.word_eq hpc, Opcode.instruction?_eq_none_iff] at hnone
      exact absurd (.invalidOpcode (by rw [h.fits.pc]; omega) hnone) (hno _)

/-! ## Events on a course -/

/-- A cycle and its record leave machines on the same courses. -/
theorem quiet (h : Holds program base c m) :
    Holds program base c { m with state := m.state.quiet } where
  wellFormed := ⟨h.wellFormed.state.quiet, h.wellFormed.base_lt, h.wellFormed.halt_awaiting⟩
  room := h.room
  image_eq := h.image_eq
  base_eq := h.base_eq
  size_eq := h.size_eq
  running := h.running
  cells := h.cells
  fits := ⟨h.fits.free, h.fits.pc, h.fits.first, h.fits.calls⟩

theorem press (h : Holds program base c m) (code : Int) :
    Holds program base c (m.press code).2 := by
  have hstate : ∃ keys, (m.press code).2 = { m with state := { m.state with keys } } := by
    unfold Machine.press State.press
    dsimp only
    split
    · rw [h.fits.free]
      exact ⟨_, rfl⟩
    · exact ⟨m.state.keys, rfl⟩
  have hwellFormed := h.wellFormed.press code
  obtain ⟨keys, hkeys⟩ := hstate
  rw [hkeys] at hwellFormed ⊢
  exact ⟨hwellFormed, h.room, h.image_eq, h.base_eq, h.size_eq, h.running, h.cells, h.fits.free,
    h.fits.pc, h.fits.first, h.fits.calls⟩

theorem release (h : Holds program base c m) (code : Int) :
    Holds program base c (m.release code) := by
  have hwellFormed := h.wellFormed.release code
  have hstate : m.release code =
      { m with state := { m.state with keys := (m.state.release code).keys } } := by
    unfold Machine.release Machine.mapState
    rw [← State.release_eq]
  rw [hstate] at hwellFormed ⊢
  exact ⟨hwellFormed, h.room, h.image_eq, h.base_eq, h.size_eq, h.running, h.cells, h.fits.free,
    h.fits.pc, h.fits.first, h.fits.calls⟩

theorem tick (h : Holds program base c m) : Holds program base c m.tick :=
  ⟨h.wellFormed.tick, h.room, h.image_eq, h.base_eq, h.size_eq, h.running, h.cells, h.fits.free,
    h.fits.pc, h.fits.first, h.fits.calls⟩

/-- A machine right after loading is at the beginning. -/
theorem boot (dice : Dice) (hroom : base + program.length ≤ Memory.standardSize)
    (hbase : base < Memory.standardSize) :
    Holds program base ⟨base, some 0, 0⟩ (Machine.boot program base dice hroom) where
  wellFormed := Machine.boot_wellFormed program dice hroom hbase
  room := hroom
  image_eq := rfl
  base_eq := rfl
  size_eq := rfl
  running := rfl
  cells := congrArg Memory.cells (Program.Image.memory_ofProgram hroom)
  fits := ⟨rfl, rfl, fun n hn => by cases hn; exact Vector.getElem_replicate _, rfl⟩

end Holds

/-- A machine is on one of several courses. -/
def HoldsOne (program : List UInt8) (base : Nat) (courses : List Course) (m : Machine) : Prop :=
  ∃ c ∈ courses, Holds program base c m

variable {courses : List Course}

/-- Courses that lead to nothing but each other, one of them at the beginning of the program. -/
structure Circle (program : List UInt8) (base : Nat) (courses : List Course) : Prop where
  start : ∃ c ∈ courses, c.Covers ⟨base, some 0, 0⟩
  closed : Closed (Program.imageByte program.toArray base) courses

theorem HoldsOne.of_covers {following : List Course}
    (hfollowing : ∀ c' ∈ following, ∃ c ∈ courses, c.Covers c')
    (h : HoldsOne program base following m) :
    HoldsOne program base courses m := by
  obtain ⟨c', hc', hm⟩ := h
  obtain ⟨c, hc, hcovers⟩ := hfollowing c' hc'
  exact ⟨c, hc, { hm with fits := hm.fits.of_covers hcovers }⟩

namespace Circle

theorem boot (h : Circle program base courses) (dice : Dice)
    (hroom : base + program.length ≤ Memory.standardSize) (hbase : base < Memory.standardSize) :
    HoldsOne program base courses (Machine.boot program base dice hroom) := by
  obtain ⟨c, hc, hcovers⟩ := h.start
  have hstart := Holds.boot dice hroom hbase
  exact ⟨c, hc, { hstart with fits := hstart.fits.of_covers hcovers }⟩

/-- **On a circle** every cycle executes an instruction and stays on it. -/
theorem cycle (h : Circle program base courses) (hm : HoldsOne program base courses m) :
    ∃ op, m.cycle = (.executed op, m.cycle.2) ∧ HoldsOne program base courses m.cycle.2 := by
  obtain ⟨c, hc, hm⟩ := hm
  obtain ⟨following, hnext, hcovers⟩ := h.closed c hc
  obtain ⟨op, hop, hfollowing⟩ := hm.cycle hnext
  exact ⟨op, hop, HoldsOne.of_covers hcovers hfollowing⟩

theorem runInstruction (h : Circle program base courses) (hm : HoldsOne program base courses m) :
    m.runInstruction.1 = .ok true ∧ HoldsOne program base courses m.runInstruction.2 := by
  obtain ⟨op, hop, hleft⟩ := h.cycle hm
  rw [Machine.runInstruction_of_executed hop]
  exact ⟨rfl, hleft⟩

/-- **Every event** stays on it, also a reset, which goes back to its beginning. -/
theorem after (h : Circle program base courses) (hm : HoldsOne program base courses m)
    (event : MachineEvent) :
    HoldsOne program base courses (m.after event) := by
  cases event with
  | step =>
    obtain ⟨op, hop, c, hc, hleft⟩ := h.cycle hm
    show HoldsOne program base courses m.step.2
    rw [Machine.step_of_executed hop]
    exact ⟨c, hc, hleft.quiet⟩
  | runInstruction => exact (h.runInstruction hm).2
  | press code =>
    obtain ⟨c, hc, hm⟩ := hm
    exact ⟨c, hc, hm.press code⟩
  | release code =>
    obtain ⟨c, hc, hm⟩ := hm
    exact ⟨c, hc, hm.release code⟩
  | tick =>
    obtain ⟨c, hc, hm⟩ := hm
    exact ⟨c, hc, hm.tick⟩
  | reset =>
    obtain ⟨c, hc, hm⟩ := hm
    have hreset : m.reset = Machine.boot program base m.dice hm.room := by
      show Machine.create m.image m.base m.programSize m.dice = _
      rw [hm.image_eq, hm.base_eq, hm.size_eq]
      rfl
    show HoldsOne program base courses m.reset
    rw [hreset]
    exact h.boot m.dice hm.room (hm.base_eq ▸ hm.wellFormed.base_lt)

theorem afterAll (h : Circle program base courses) (hm : HoldsOne program base courses m)
    (events : List MachineEvent) :
    HoldsOne program base courses (m.afterAll events) := by
  unfold Machine.afterAll
  induction events generalizing m with
  | nil => exact hm
  | cons event rest ih => exact ih (h.after hm event)

theorem executesFirst (h : Circle program base courses) (hm : HoldsOne program base courses m)
    (n : Nat) :
    m.ExecutesFirst n := by
  have hall : ∀ j, HoldsOne program base courses (m.afterInstructions j) := by
    intro j
    induction j with
    | zero => exact hm
    | succ j ih =>
      rw [Machine.afterInstructions_succ']
      exact (h.runInstruction ih).2
  exact fun j _ => (h.runInstruction (hall j)).1

end Circle

end Course

namespace Machine

/-- Whether a machine executes as many instructions as it is asked for, whatever has been done to
it before. -/
def RunsOn (m : Machine) : Prop :=
  ∀ events n, ((m.afterAll events).run n).1 = .ok n

variable {program : List UInt8} {base : Nat} {c : Course} {m : Machine}

theorem run_of_executesFirst {n : Nat} (h : m.ExecutesFirst n) : (m.run n).1 = .ok n := by
  have hrun := runFrom_of_executesFirst h 0 0
  rw [Nat.add_zero, Nat.zero_add] at hrun
  unfold run
  rw [hrun]
  rfl

/-- **A program that runs in a circle** runs on. -/
theorem runsOn_of_circle {courses : List Course} (h : Course.Circle program base courses)
    (dice : Dice) (hroom : base + program.length ≤ Memory.standardSize)
    (hbase : base < Memory.standardSize) : (boot program base dice hroom).RunsOn := by
  intro events n
  exact run_of_executesFirst (h.executesFirst (h.afterAll (h.boot dice hroom hbase) events) n)

/-- **A course that ends** is followed up to its end, where an instruction fails. -/
theorem fails_of_ends (hm : Course.Holds program base c m)
    (h : Course.Ends (Program.imageByte program.toArray base) c) :
    ∃ n f, m.ExecutesFirst n ∧ (m.afterInstructions n).runInstruction.1 = .error (.fault f) := by
  have hnow : ∀ {c : Course} {m : Machine}, Course.Holds program base c m →
      (0xFFE < c.pc ∨ Opcode.instruction?
        (Course.word (Program.imageByte program.toArray base) c.pc) = none) →
      ∃ n f, m.ExecutesFirst n ∧ (m.afterInstructions n).runInstruction.1 = .error (.fault f) := by
    intro c m hm hend
    obtain ⟨f, hf⟩ := hm.cycle_failed hend
    refine ⟨0, f, fun j hj => absurd hj (Nat.not_lt_zero j), ?_⟩
    show m.runInstruction.1 = _
    rw [runInstruction_of_failed hf]
  induction h generalizing m with
  | behind hpc => exact hnow hm (.inl hpc)
  | noInstruction hnone => exact hnow hm (.inr hnone)
  | on hnext _ ih =>
    obtain ⟨op, hop, c', hc', hleft⟩ := hm.cycle hnext
    rw [List.mem_singleton.mp hc'] at hleft
    have hrun := runInstruction_of_executed hop
    obtain ⟨n, f, hfirst, hfail⟩ := ih hleft
    have hleft : m.runInstruction.2 = m.cycle.2 := by rw [hrun]
    refine ⟨n + 1, f, fun j hj => ?_, ?_⟩
    · cases j with
      | zero =>
        show m.runInstruction.1 = _
        rw [hrun]
      | succ j =>
        show (m.runInstruction.2.afterInstructions j).runInstruction.1 = _
        rw [hleft]
        exact hfirst j (Nat.lt_of_succ_lt_succ hj)
    · show (m.runInstruction.2.afterInstructions n).runInstruction.1 = _
      rw [hleft]
      exact hfail

/-- The number of instructions that are executed is up to the course, and then there is a fault. -/
theorem run_of_ends (hm : Course.Holds program base c m)
    (h : Course.Ends (Program.imageByte program.toArray base) c) :
    ∃ n f, (m.run n).1 = .error (.fault f) := by
  obtain ⟨n, f, hfirst, hfail⟩ := fails_of_ends hm h
  have hlast : (m.afterInstructions n).runInstruction = (.error (.fault f), _) := Prod.ext hfail rfl
  refine ⟨n + 1, f, ?_⟩
  unfold run
  rw [runFrom_of_executesFirst hfirst 0 1]
  unfold runFrom
  rw [hlast]

/-- A machine that comes to a fault by itself does not run on. -/
theorem not_runsOn_of_fault {n : Nat} {f : Fault} (hfail : (m.run n).1 = .error (.fault f)) :
    ¬ m.RunsOn := by
  intro hruns
  have hrun := hruns [] n
  rw [show m.afterAll [] = m from rfl, hfail] at hrun
  cases hrun

end Machine

end Chip8
