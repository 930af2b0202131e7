import Chip8.Proofs.Instruction.Draw
import Chip8.Proofs.Instruction.Frame
import Chip8.Proofs.Listing
import Chip8.Proofs.State.WellFormed

/-!
# What a word may change

`Word.Confines` says of two states that a word may have made the second one out of the first: a
field differs only if the word is one of those that are there to change it, and a register, a cell
or a slot of the stack only if it is the one that the word names. Each kind of update keeps to that
as long as the word is entitled to it (`Confines.setReg` and the others), and every instruction is
put together from updates that its words are entitled to (`confines_left`). The main result is
`after_confines`, which says in addition how often the dice are drawn.
-/

namespace Chip8

/-! ## Forms of words by what they are for -/

/-- Whether a word has one of several forms. -/
def Word.IsOneOf (w : Word) (forms : List Form) : Prop :=
  ∃ f ∈ forms, f.Fits w

instance (w : Word) (forms : List Form) : Decidable (w.IsOneOf forms) :=
  inferInstanceAs (Decidable (∃ f ∈ forms, f.Fits w))

namespace Form

/-- The words that set the register `Vx`: `6xkk`, `7xkk`, `8xy0` to `8xy3`, `Cxkk` and `Fx07`. -/
def settingOne : List Form :=
  [first 6, first 7, firstLast 8 0, firstLast 8 1, firstLast 8 2, firstLast 8 3, first 0xC,
    register 0xF 0 7]

/-- The words that set the register `Vx` and the flag register: `8xy4` to `8xy7` and `8xyE`. -/
def settingBoth : List Form :=
  [firstLast 8 4, firstLast 8 5, firstLast 8 6, firstLast 8 7, firstLast 8 0xE]

/-- The words that set the flag register alone: `Dxyn` and `Fx1E`. -/
def settingFlag : List Form :=
  [first 0xD, register 0xF 1 0xE]

/-- The words that set the counter: `00EE`, `1nnn`, `2nnn` and `Bnnn`. -/
def jumping : List Form :=
  [word 0 0 0xE 0xE, first 1, first 2, first 0xB]

/-- The words that pass over the next one on a condition: `3xkk`, `4xkk`, `5xy0`, `9xy0`, `Ex9E`
and `ExA1`. -/
def skipping : List Form :=
  [first 3, first 4, firstLast 5 0, firstLast 9 0, register 0xE 9 0xE, register 0xE 0xA 1]

variable {w : Word} {d3 d2 d1 d0 : BitVec 4} {x : Reg}

/-! A word of which all digits are known fits the forms that leave some of them open. -/

theorem first_of_fits (h : (word d3 d2 d1 d0).Fits w) : (first d3).Fits w :=
  fits_first_iff.mpr (fits_word_iff.mp h).1

theorem firstLast_of_fits (h : (word d3 d2 d1 d0).Fits w) : (firstLast d3 d0).Fits w := by
  obtain ⟨h3, -, -, h0⟩ := fits_word_iff.mp h
  exact fits_firstLast_iff.mpr ⟨h3, h0⟩

theorem register_of_fits (h : (word d3 d2 d1 d0).Fits w) : (register d3 d1 d0).Fits w := by
  obtain ⟨h3, -, h1, h0⟩ := fits_word_iff.mp h
  exact fits_register_iff.mpr ⟨h3, h1, h0⟩

theorem x_of_fits (h : (word d3 (.ofFin x) d1 d0).Fits w) : w.x = x :=
  BitVec.toFin_inj.mpr (fits_word_iff.mp h).2.1

end Form

/-! ## What a word is entitled to -/

namespace Word

variable {w : Word} {s s' : State}

/-- Whether a word may change a register. -/
def MaySet (w : Word) (r : Reg) : Prop :=
  r = w.x ∧ w.IsOneOf Form.settingOne ∨ (r = w.x ∨ r = flagReg) ∧ w.IsOneOf Form.settingBoth ∨
    r = flagReg ∧ w.IsOneOf Form.settingFlag ∨ r ≤ w.x ∧ (Form.register 0xF 6 5).Fits w

theorem maySet_one {f : Form} (hf : f ∈ Form.settingOne) (hw : f.Fits w) : w.MaySet w.x :=
  .inl ⟨rfl, f, hf, hw⟩

theorem maySet_both {f : Form} (hf : f ∈ Form.settingBoth) (hw : f.Fits w) :
    w.MaySet w.x ∧ w.MaySet flagReg :=
  ⟨.inr (.inl ⟨.inl rfl, f, hf, hw⟩), .inr (.inl ⟨.inr rfl, f, hf, hw⟩)⟩

theorem maySet_flag {f : Form} (hf : f ∈ Form.settingFlag) (hw : f.Fits w) : w.MaySet flagReg :=
  .inr (.inr (.inl ⟨rfl, f, hf, hw⟩))

/-- Whether a word may change a cell of the memory, executed on a state. -/
def MayStore (w : Word) (s : State) (a : Int) : Prop :=
  s.memory.contains a = true ∧
    ((Form.register 0xF 3 3).Fits w ∧ s.index ≤ a ∧ a ≤ s.index + 2 ∨
      (Form.register 0xF 5 5).Fits w ∧ s.index ≤ a ∧ a ≤ s.index + w.x.val)

/-- Between two states nothing has changed but what a word may change that is executed on the first
one, and the log. -/
structure Confines (w : Word) (s s' : State) : Prop where
  screen : s'.screen ≠ s.screen → w.IsOneOf [.word 0 0 0xE 0, .first 0xD]
  cell : ∀ a, s'.memory.get? a ≠ s.memory.get? a → w.MayStore s a
  size : s'.memory.size = s.memory.size
  slot : ∀ k : Fin 16, s'.stack.get k ≠ s.stack.get k → (Form.first 2).Fits w ∧ s.sp = k.val
  sp : s'.sp ≠ s.sp → w.IsOneOf [.first 2, .word 0 0 0xE 0xE]
  pc : s'.pc ≠ s.pc → w.IsOneOf Form.jumping ∨ w.IsOneOf Form.skipping ∧ s'.pc = s.pc + 2
  index : s'.index ≠ s.index → w.IsOneOf [.first 0xA, .register 0xF 1 0xE, .register 0xF 2 9]
  delay : s'.delay ≠ s.delay → (Form.register 0xF 1 5).Fits w
  sound : s'.sound ≠ s.sound → (Form.register 0xF 1 8).Fits w
  awaiting : s'.awaiting ≠ s.awaiting → (Form.register 0xF 0 0xA).Fits w
  keys : s'.keys = s.keys
  cycles : s'.cycles = s.cycles
  reg : ∀ r, s'.v.get r ≠ s.v.get r → w.MaySet r

namespace Confines

theorem refl (w : Word) (s : State) : w.Confines s s where
  screen := absurd rfl
  cell _ := absurd rfl
  size := rfl
  slot _ := absurd rfl
  sp := absurd rfl
  pc := absurd rfl
  index := absurd rfl
  delay := absurd rfl
  sound := absurd rfl
  awaiting := absurd rfl
  keys := rfl
  cycles := rfl
  reg _ := absurd rfl

theorem withScreen (h : w.Confines s s') (hw : w.IsOneOf [.word 0 0 0xE 0, .first 0xD])
    (screen : Screen) :
    w.Confines s { s' with screen } :=
  { h with screen := fun _ => hw }

theorem withPc (h : w.Confines s s') (hw : w.IsOneOf Form.jumping) (pc : Int) :
    w.Confines s { s' with pc } :=
  { h with pc := fun _ => .inl hw }

theorem withSp (h : w.Confines s s') (hw : w.IsOneOf [.first 2, .word 0 0 0xE 0xE]) (sp : Int) :
    w.Confines s { s' with sp } :=
  { h with sp := fun _ => hw }

theorem withIndex (h : w.Confines s s')
    (hw : w.IsOneOf [.first 0xA, .register 0xF 1 0xE, .register 0xF 2 9]) (index : Int) :
    w.Confines s { s' with index } :=
  { h with index := fun _ => hw }

/-- Accesses that have been logged. -/
theorem withLog (h : w.Confines s s') (log : List Access) :
    w.Confines s { s' with memory := { s'.memory with log } } :=
  { h with
    cell := h.cell
    size := h.size }

/-- A register that the word may change. -/
theorem setReg (h : w.Confines s s') {x : Reg} (hx : w.MaySet x) (value : Int) :
    w.Confines s (s'.setReg x value) :=
  { h with
    reg := fun r hr => by
      by_cases hrx : r = x
      · exact hrx ▸ hx
      · rw [State.get_setReg, if_neg hrx] at hr
        exact h.reg r hr }

theorem setFlag (h : w.Confines s s') (hflag : w.MaySet flagReg) (on : Bool) :
    w.Confines s (s'.setFlag on) :=
  h.setReg hflag _

end Confines

/-- A condition on which the next instruction is passed over. -/
theorem confines_skipIf (hw : w.IsOneOf Form.skipping) (s : State) (condition : Bool) :
    w.Confines s (s.skipIf condition) := by
  unfold State.skipIf
  split
  · exact { Confines.refl w s with pc := fun _ => .inr ⟨hw, rfl⟩ }
  · exact .refl w s

theorem confines_skipOnKey (hw : w.IsOneOf Form.skipping) (s : State) (x : Reg) (down : Bool) :
    w.Confines s (s.left (s.skipOnKey x down)) := by
  unfold State.skipOnKey
  cases s.keyDown (s.v.get x) with
  | ok held => exact confines_skipIf hw s _
  | error e => exact .refl w s

/-! ## Calls, blocks of memory and registers -/

theorem confines_leave (hw : (Form.word 0 0 0xE 0xE).Fits w) (s : State) (address : Int) :
    w.Confines s (s.left (s.leave address)) := by
  have hsp : w.IsOneOf [.first 2, .word 0 0 0xE 0xE] := ⟨_, by simp, hw⟩
  have hpc : w.IsOneOf Form.jumping := ⟨_, by simp [Form.jumping], hw⟩
  have hmoved := (Confines.refl w s).withSp hsp (s.left (s.leave address)).sp
  rw [s.leave_left address]
  exact hmoved.withPc hpc _

/-- A call fills the slot that the stack pointer names. -/
theorem confines_enter (hw : (Form.first 2).Fits w) (hsp : 0 ≤ s.sp) (target address : Int) :
    w.Confines s (s.left (s.enter target address)) := by
  have hmoved : w.IsOneOf [.first 2, .word 0 0 0xE 0xE] := ⟨_, by simp, hw⟩
  have hpc : w.IsOneOf Form.jumping := ⟨_, by simp [Form.jumping], hw⟩
  obtain ⟨top, htop⟩ := Int.eq_ofNat_of_zero_le hsp
  unfold State.enter
  split
  next => exact .refl w s
  next hfree =>
    have hlt : top < 16 := by
      have hlt : ¬ (16 : Int) ≤ s.sp := hfree
      omega
    rw [htop, slot_of_lt .writing hlt]
    have hfilled : w.Confines s { s with stack := s.stack.setIfInBounds top s.pc } :=
      { Confines.refl w s with
        slot := fun k hk => by
          refine ⟨hw, htop.trans (congrArg Int.ofNat ?_)⟩
          by_contra hne
          exact hk (Vector.getElem_setIfInBounds_ne k.isLt hne) }
    exact (hfilled.withSp hmoved _).withPc hpc _

end Word

namespace Memory

variable {m : Memory} {a c : Int}

/-- Storing a block changes no cells but its own. -/
theorem get?_storeBlock_of_outside (bytes : List UInt8) (h : c < a ∨ a + bytes.length ≤ c) :
    (m.storeBlock a bytes).get? c = m.get? c := by
  induction bytes generalizing m a with
  | nil => rfl
  | cons b rest ih =>
    rw [List.length_cons] at h
    have hrest : c < a + 1 ∨ a + 1 + rest.length ≤ c := by omega
    have hne : c ≠ a := by omega
    exact (ih hrest).trans (m.get?_storeCell_ne b hne)

/-- A cell that a block has changed is in the memory, and one of the block. -/
theorem of_get?_storeBlock_ne {bytes : List UInt8} (h : (m.storeBlock a bytes).get? c ≠ m.get? c) :
    m.contains c = true ∧ a ≤ c ∧ c < a + bytes.length := by
  refine ⟨?_, ?_⟩
  · -- Beyond the memory there is nothing to look up, before and after.
    by_contra hout
    have hbefore : m.contains c = false := Bool.eq_false_iff.mpr hout
    have hafter : (m.storeBlock a bytes).contains c = false := by
      unfold contains at hbefore ⊢
      rw [size_storeBlock]
      exact hbefore
    rw [(get?_eq_none_iff _ c).mpr hbefore, (get?_eq_none_iff _ c).mpr hafter] at h
    exact h rfl
  · by_contra hout
    exact h (get?_storeBlock_of_outside bytes (by omega))

end Memory

namespace Word

variable {w : Word} {s : State}

/-- A block that is stored where the word may store. -/
theorem confines_storeBlock (bytes : List UInt8)
    (hw : ∀ a, s.memory.contains a = true → s.index ≤ a → a < s.index + bytes.length →
      w.MayStore s a) :
    w.Confines s { s with memory := s.memory.storeBlock s.index bytes } :=
  { Confines.refl w s with
    cell := fun a ha => by
      obtain ⟨hin, hlo, hhi⟩ := Memory.of_get?_storeBlock_ne ha
      exact hw a hin hlo hhi
    size := s.memory.size_label_storeBlock s.index bytes }

theorem confines_storeDigits (hw : (Form.register 0xF 3 3).Fits w) (s : State) (x : Reg) :
    w.Confines s (s.storeDigits x) := by
  refine confines_storeBlock _ fun a hin hlo hhi => ⟨hin, .inl ⟨hw, hlo, ?_⟩⟩
  have hlength : ((PackedDecimal.ofByte (s.v.get x)).map UInt8.ofNat).length = 3 := rfl
  rw [hlength] at hhi
  omega

/-- Registers that hold bytes are stored as a block. -/
theorem confines_saveRegs (hw : (Form.register 0xF 5 5).Fits w)
    (hv : ∀ x : Reg, IsByte (s.v.get x)) :
    w.Confines s (s.left (s.saveRegs w.x)) := by
  have hbytes := State.isByte_of_mem_take hv (w.x.val + 1)
  unfold State.saveRegs
  rw [s.memory.storeValues_eq_storeBlock s.index hbytes]
  refine confines_storeBlock _ fun a hin hlo hhi => ⟨hin, .inr ⟨hw, hlo, ?_⟩⟩
  rw [List.length_map, List.length_take] at hhi
  omega

/-- What is read from memory goes into the registers up to the one that the word names. -/
theorem confines_restoreRegs (hw : (Form.register 0xF 6 5).Fits w) (s : State) :
    w.Confines s (s.restoreRegs w.x) := by
  unfold State.restoreRegs
  rw [Memory.fetchBlock_eq]
  have hlogged := (Confines.refl w s).withLog (s.memory.log ++ s.memory.reads s.index (w.x.val + 1))
  refine { hlogged with reg := fun r hr => .inr (.inr (.inr ⟨?_, hw⟩)) }
  by_contra hbehind
  have hlt : w.x.val < r.val := Nat.lt_of_not_le hbehind
  apply hr
  show (Vector.ofFn _)[r.val] = _
  rw [Vector.getElem_ofFn, List.getD_eq_getElem?_getD, List.getElem?_eq_none]
  · rfl
  · simp only [List.length_map, List.length_range]
    omega

/-- A sprite is drawn on the screen, and the reads of its rows are logged. -/
theorem confines_drawSprite (hw : (Form.first 0xD).Fits w) (s : State) (x y : Reg) (height : Nat) :
    w.Confines s (s.drawSprite x y height) := by
  have hscreen : w.IsOneOf [.word 0 0 0xE 0, .first 0xD] := ⟨_, by simp, hw⟩
  have hflag := maySet_flag (by simp [Form.settingFlag]) hw
  unfold State.drawSprite
  rw [Memory.fetchBlock_eq]
  exact (((Confines.refl w s).withLog _).withScreen hscreen _).setFlag hflag _

end Word

/-! ## All instructions -/

namespace Instruction

variable {i : Instruction} {w : Word} {s : State}

/-- **Every instruction** changes only what its words may change, if the registers hold bytes and
the stack pointer is not negative. -/
theorem confines_left (hv : ∀ x : Reg, IsByte (s.v.get x)) (hsp : 0 ≤ s.sp) (hw : i.encoding.Fits w)
    (address : Int) (d : Dice) : w.Confines s (i.left address s d) := by
  have hrefl := Word.Confines.refl w s
  cases i with
  | clear => exact hrefl.withScreen ⟨_, List.mem_cons_self, hw⟩ _
  | ret =>
    have hleft : ret.left address s d = s.left (s.leave address) := left_of_map rfl
    rw [hleft]
    exact Word.confines_leave hw s address
  | call a =>
    have hleft : (call a).left address s d = s.left (s.enter a.toNat address) := left_of_map rfl
    rw [hleft]
    exact Word.confines_enter (Form.first_of_fits hw) hsp _ address
  | jump a | jumpOffset a => exact hrefl.withPc ⟨_, by simp [Form.jumping], Form.first_of_fits hw⟩ _
  | skipIfByte x b | skipUnlessByte x b =>
    exact Word.confines_skipIf ⟨_, by simp [Form.skipping], Form.first_of_fits hw⟩ s _
  | skipIfEqual x y | skipUnlessEqual x y =>
    exact Word.confines_skipIf ⟨_, by simp [Form.skipping], Form.firstLast_of_fits hw⟩ s _
  | skipIfKey x =>
    have hleft : (skipIfKey x).left address s d = s.left (s.skipOnKey x true) := left_of_map rfl
    rw [hleft]
    exact Word.confines_skipOnKey ⟨_, by simp [Form.skipping], Form.register_of_fits hw⟩ s x true
  | skipUnlessKey x =>
    have hleft : (skipUnlessKey x).left address s d = s.left (s.skipOnKey x false) :=
      left_of_map rfl
    rw [hleft]
    exact Word.confines_skipOnKey ⟨_, by simp [Form.skipping], Form.register_of_fits hw⟩ s x false
  | loadByte x b | addByte x b | random x b =>
    obtain rfl := Form.x_of_fits hw
    exact hrefl.setReg (Word.maySet_one (by simp [Form.settingOne]) (Form.first_of_fits hw)) _
  | copy x y | or x y | and x y | xor x y =>
    obtain rfl := Form.x_of_fits hw
    exact hrefl.setReg (Word.maySet_one (by simp [Form.settingOne]) (Form.firstLast_of_fits hw)) _
  | readDelay x =>
    obtain rfl := Form.x_of_fits hw
    exact hrefl.setReg (Word.maySet_one (by simp [Form.settingOne]) (Form.register_of_fits hw)) _
  -- The addition writes its result before the flag, the others write it behind the flag.
  | add x y =>
    obtain rfl := Form.x_of_fits hw
    obtain ⟨hx, hflag⟩ := Word.maySet_both (by simp [Form.settingBoth]) (Form.firstLast_of_fits hw)
    exact (hrefl.setReg hx _).setFlag hflag _
  | sub x y | subFrom x y =>
    obtain rfl := Form.x_of_fits hw
    obtain ⟨hx, hflag⟩ := Word.maySet_both (by simp [Form.settingBoth]) (Form.firstLast_of_fits hw)
    exact (hrefl.setFlag hflag _).setReg hx _
  | shiftRight x | shiftLeft x =>
    obtain ⟨hform, rfl⟩ := Form.fits_withFirst_iff.mp hw
    obtain ⟨hx, hflag⟩ := Word.maySet_both (by simp [Form.settingBoth]) hform
    exact (hrefl.setFlag hflag _).setReg hx _
  | loadIndex a => exact hrefl.withIndex ⟨_, by simp, Form.first_of_fits hw⟩ _
  | glyph x => exact hrefl.withIndex ⟨_, by simp, Form.register_of_fits hw⟩ _
  | addIndex x =>
    have hform : (Form.register 0xF 1 0xE).Fits w := Form.register_of_fits hw
    exact (hrefl.withIndex ⟨_, by simp, hform⟩ _).setFlag
      (Word.maySet_flag (by simp [Form.settingFlag]) hform) _
  | draw x y height => exact Word.confines_drawSprite (Form.first_of_fits hw) s x y height
  | awaitKey x => exact { hrefl with awaiting := fun _ => Form.register_of_fits hw }
  | setDelay x => exact { hrefl with delay := fun _ => Form.register_of_fits hw }
  | setSound x => exact { hrefl with sound := fun _ => Form.register_of_fits hw }
  | digits x => exact Word.confines_storeDigits (Form.register_of_fits hw) s x
  | save x =>
    obtain rfl := Form.x_of_fits hw
    have hleft : (save w.x).left address s d = s.left (s.saveRegs w.x) := left_of_map rfl
    rw [hleft]
    exact Word.confines_saveRegs (Form.register_of_fits hw) hv
  | restore x =>
    obtain rfl := Form.x_of_fits hw
    exact Word.confines_restoreRegs (Form.register_of_fits hw) s

/-- The words that draw from the dice are those of `random`. -/
theorem fits_random_iff (hw : i.encoding.Fits w) :
    (Form.first 0xC).Fits w ↔ ∃ x mask, i = random x mask := by
  rw [Form.fits_first_iff]
  have hdigit : ∀ {d3 d2 d1 d0}, i.encoding = ⟨some d3, d2, d1, d0⟩ → w.digit 3 = d3 := by
    intro d3 d2 d1 d0 heq
    rw [heq] at hw
    exact hw.1 d3 rfl
  constructor
  · intro h
    cases i with
    | random x mask => exact ⟨x, mask, rfl⟩
    | _ =>
      rw [hdigit rfl] at h
      cases h
  · rintro ⟨x, mask, rfl⟩
    exact hdigit rfl

/-- What is given the dice along with its result leaves them alone. -/
theorem dice_of_map {result : Except InstructionError State} {s' : State} {d d' : Dice}
    (h : result.map (·, d) = .ok (s', d')) : d' = d := by
  cases result with
  | error e => cases h
  | ok left =>
    cases h
    rfl

/-- Only a word of `random` draws from the dice, and it does so once. -/
theorem execute_dice {address : Int} {d d' : Dice} {s' : State} (hw : i.encoding.Fits w)
    (h : i.execute address s d = .ok (s', d')) :
    d'.byte = d.byte ∧ d'.drawn = d.drawn + if (Form.first 0xC).Fits w then 1 else 0 := by
  by_cases hrandom : (Form.first 0xC).Fits w
  · obtain ⟨x, mask, rfl⟩ := (fits_random_iff hw).mp hrandom
    cases h
    exact ⟨rfl, (if_pos hrandom).symm ▸ rfl⟩
  · have hsame : d' = d := by
      cases i with
      | random x mask => exact absurd ((fits_random_iff hw).mpr ⟨x, mask, rfl⟩) hrandom
      | ret | call _ | skipIfKey _ | skipUnlessKey _ | save _ => exact dice_of_map h
      | _ =>
        cases h
        rfl
    rw [hsame, if_neg hrandom]
    exact ⟨rfl, rfl⟩

end Instruction

/-! ## All words -/

namespace Word

/-- What executing a word leaves, of the state and of the dice, whether it succeeds or not. -/
def after (w : Word) (address : Int) (s : State) (d : Dice) : State × Dice :=
  match Operation.dispatch w.toNat address s d with
  | .ok (_, s', d') => (s', d')
  | .error e => (e.leave s, d)

/-- A word that is no instruction changes nothing. -/
theorem after_of_none {w : Word} (h : Opcode.instruction? w.toNat = none) (address : Int)
    (s : State) (d : Dice) :
    w.after address s d = (s, d) := by
  have hfind : Opcode.find? w.toNat = none := Option.map_eq_none_iff.mp h
  unfold after Operation.dispatch
  rw [hfind]
  rfl

/-- What a word leaves is what its instruction leaves. -/
theorem after_of_some {w : Word} {i : Instruction} (h : Opcode.instruction? w.toNat = some i)
    (address : Int) (s : State) (d : Dice) :
    w.after address s d =
      match i.execute address s d with
      | .ok result => result
      | .error e => (e.leave s, d) := by
  rw [← Listing.dispatch_of_some h address s d]
  unfold after
  cases Operation.dispatch w.toNat address s d with
  | ok result => rfl
  | error e => rfl

/-- **Executing a word** changes only what the word may change, and draws from the dice once if it
is a `Cxkk` and not at all otherwise. The registers have to hold bytes and the stack pointer must
not be negative, as it is with every well-formed state. -/
theorem after_confines (w : Word) {s : State} (hv : ∀ x : Reg, IsByte (s.v.get x)) (hsp : 0 ≤ s.sp)
    (address : Int) (d : Dice) :
    w.Confines s (w.after address s d).1 ∧ (w.after address s d).2.byte = d.byte ∧
      (w.after address s d).2.drawn = d.drawn + if (Form.first 0xC).Fits w then 1 else 0 := by
  cases hi : Opcode.instruction? w.toNat with
  | none =>
    have hno : ¬ (Form.first 0xC).Fits w := by
      intro hrandom
      rw [Opcode.instruction?_eq_none_iff, Word.ofOpcode_toNat] at hi
      exact hi ⟨_, by simp [Form.all], hrandom⟩
    rw [after_of_none hi, if_neg hno]
    exact ⟨.refl w s, rfl, rfl⟩
  | some i =>
    have hw := Opcode.fits_encoding hi
    rw [Word.ofOpcode_toNat] at hw
    have hleft := Instruction.confines_left hv hsp hw address d
    unfold Instruction.left at hleft
    rw [after_of_some hi]
    cases hdo : i.execute address s d with
    | ok result =>
      rw [hdo] at hleft
      exact ⟨hleft, Instruction.execute_dice hw hdo⟩
    | error e =>
      rw [hdo] at hleft
      have hno : ¬ (Form.first 0xC).Fits w := by
        intro hrandom
        obtain ⟨x, mask, rfl⟩ := (Instruction.fits_random_iff hw).mp hrandom
        cases hdo
      rw [if_neg hno]
      exact ⟨hleft, rfl, rfl⟩

/-- Saving all registers from the last but one cell on changes the last two cells alone. -/
theorem after_confines_end_of_memory :
    ∃ s : State, (∀ x : Reg, IsByte (s.v.get x)) ∧ 0 ≤ s.sp ∧ s.index = 0xFFE ∧ ∀ address d,
      ((0xFF55 : Word).after address s d).2.drawn = d.drawn ∧
      ((0xFF55 : Word).after address s d).1.index = 0xFFE ∧
        ∀ a < 0xFFE, ((0xFF55 : Word).after address s d).1.memory.get? a = s.memory.get? a := by
  let s : State :=
    { State.start (.blank (.number 4096)) 0x202 with index := 0xFFE, v := Vector.replicate 16 0xFF }
  have hv (x : Reg) : IsByte (s.v.get x) := by
    have hall : ∀ x : Reg, (Vector.replicate 16 (0xFF : Int)).get x = 0xFF := by decide
    rw [hall x]
    exact ⟨by decide, by decide⟩
  refine ⟨s, hv, Int.le_refl 0, rfl, fun address d => ?_⟩
  obtain ⟨hconfines, -, hdrawn⟩ := after_confines 0xFF55 hv (Int.le_refl 0) address d
  refine ⟨hdrawn, ?_, fun a ha => ?_⟩
  · by_contra hindex
    exact absurd (hconfines.index hindex) (by decide)
  · by_contra hcell
    obtain ⟨-, ⟨hdigits, -⟩ | ⟨-, hlo, -⟩⟩ := hconfines.cell a hcell
    · exact absurd hdigits (by decide)
    · exact absurd ha (Int.not_lt.mpr hlo)

end Word

end Chip8
