import Chip8.Execution
import Chip8.Machine

/-!
# Updates that keep a state well-formed

`State.WellFormed` bounds every field of a state at once, because the bounds lean on each
other: the counter comes from the stack and from a register, the stack holds counters, and
a register holds what a cell, a timer or a key gave. This file shows update by update that
the bounds survive, so that an instruction is well-behaved as soon as it is put together
from these updates. `WellFormed.counted` is the only place where the bound on the index
register moves: it grows by 255 with each instruction, and an addition to the index adds at
most that (`WellFormed.addToIndex_counted`).
-/

namespace Chip8

/-! ## Bytes among the integers -/

/-- The integers that a byte register can hold. -/
def IsByte (n : Int) : Prop :=
  0 ≤ n ∧ n ≤ 0xFF

theorem isByte_natCast {n : Nat} (h : n < 0x100) : IsByte n := by
  constructor <;> omega

theorem isByte_toNat (b : UInt8) : IsByte b.toNat :=
  isByte_natCast b.toNat_lt

theorem isByte_mod (n : Int) : IsByte (n % 0x100) := by
  constructor <;> omega

/-- A byte of a list, or the byte that was there before. -/
theorem isByte_getD (bytes : List UInt8) (i : Nat) {old : Int} (hold : IsByte old) :
    IsByte ((bytes.map (·.toNat : UInt8 → Int)).getD i old) := by
  rw [List.getD_eq_getElem?_getD, List.getElem?_map]
  cases bytes[i]? with
  | some b => exact isByte_toNat b
  | none => exact hold

/-- The bitwise operations stay among the bytes. -/
theorem IsByte.bitwise {m n : Int} (hm : IsByte m) (hn : IsByte n) :
    IsByte (Bits.or m n) ∧ IsByte (Bits.and m n) ∧ IsByte (Bits.xor m n) := by
  obtain ⟨hm0, hm1⟩ := hm
  obtain ⟨hn0, hn1⟩ := hn
  obtain ⟨m, rfl⟩ := Int.eq_ofNat_of_zero_le hm0
  obtain ⟨n, rfl⟩ := Int.eq_ofNat_of_zero_le hn0
  have hm : m < 2 ^ 8 := by omega
  have hn : n < 2 ^ 8 := by omega
  exact ⟨isByte_natCast (Nat.or_lt_two_pow hm hn), isByte_natCast (Nat.and_lt_two_pow _ hn),
    isByte_natCast (Nat.xor_lt_two_pow hm hn)⟩

namespace State

variable {s : State}

/-- If all registers hold bytes, the first ones do. -/
theorem isByte_of_mem_take (hv : ∀ x : Reg, IsByte (s.v.get x)) (count : Nat) :
    ∀ n ∈ s.v.toList.take count, 0 ≤ n ∧ n ≤ 0xFF := by
  intro n hn
  obtain ⟨i, hi, rfl⟩ := List.mem_iff_getElem.mp (List.mem_of_mem_take hn)
  rw [Vector.length_toList] at hi
  exact hv ⟨i, hi⟩

namespace WellFormed

theorem byte (h : s.WellFormed) (x : Reg) : IsByte (s.v.get x) :=
  ⟨h.v_nonneg x, h.v_le x⟩

/-! ## Updates of single fields -/

/-- A register file of bytes. -/
theorem withRegs (h : s.WellFormed) {v : Vector Int 16} (hv : ∀ x : Reg, IsByte (v.get x)) :
    { s with v := v }.WellFormed :=
  { h with
    v_nonneg := fun x => (hv x).1
    v_le := fun x => (hv x).2 }

theorem setReg (h : s.WellFormed) (x : Reg) {value : Int} (hv : IsByte value) :
    (s.setReg x value).WellFormed := by
  refine h.withRegs fun y => ?_
  show IsByte ((s.setReg x value).v.get y)
  rw [State.get_setReg]
  split
  · exact hv
  · exact h.byte y

theorem setFlag (h : s.WellFormed) (on : Bool) : (s.setFlag on).WellFormed := by
  refine h.setReg flagReg ?_
  cases on <;> constructor <;> decide

theorem withPc (h : s.WellFormed) {pc : Int} (h0 : 0 ≤ pc) (h1 : pc ≤ 0x10FE) :
    { s with pc := pc }.WellFormed :=
  { h with
    pc_nonneg := h0
    pc_le := h1 }

theorem withIndex (h : s.WellFormed) {index : Int} (h0 : 0 ≤ index) (h1 : index ≤ 0xFFF) :
    { s with index := index }.WellFormed :=
  { h with
    index_nonneg := h0
    index_le := by
      have := h.cycles_nonneg
      show index ≤ 0xFFF + 255 * s.cycles
      omega }

/-- A memory with as many cells. -/
theorem withMemory (h : s.WellFormed) {memory : Memory}
    (hm : memory.cells.size = s.memory.cells.size) :
    { s with memory := memory }.WellFormed :=
  { h with cells := hm.trans h.cells }

theorem withScreen (h : s.WellFormed) (screen : Screen) : { s with screen := screen }.WellFormed :=
  { h with }

theorem withKeys (h : s.WellFormed) (keys : Vector Bool 16) : { s with keys := keys }.WellFormed :=
  { h with }

theorem withTimers (h : s.WellFormed) {delay sound : Int} (hd : IsByte delay) (hs : IsByte sound) :
    { s with delay := delay, sound := sound }.WellFormed :=
  { h with
    delay_nonneg := hd.1
    delay_le := hd.2
    sound_nonneg := hs.1
    sound_le := hs.2 }

theorem running (h : s.WellFormed) : { s with awaiting := none }.WellFormed :=
  { h with awaiting_lt := fun _ hx => by cases hx }

theorem awaitingFor (h : s.WellFormed) (x : Reg) :
    { s with awaiting := some (x.val : Int) }.WellFormed :=
  { h with
    awaiting_lt := fun y hy => by
      obtain rfl : (x.val : Int) = y := by simpa using hy
      constructor <;> omega }

/-- One more instruction has been executed. -/
theorem counted (h : s.WellFormed) : { s with cycles := s.cycles + 1 }.WellFormed :=
  { h with
    index_le := by
      have := h.index_le
      show s.index ≤ 0xFFF + 255 * (s.cycles + 1)
      omega
    cycles_nonneg := by
      have := h.cycles_nonneg
      show 0 ≤ s.cycles + 1
      omega }

/-! ## Arithmetic, skips, drawing and memory -/

theorem skipIf (h : s.WellFormed) (hpc : s.pc ≤ 0x1000) (condition : Bool) :
    (s.skipIf condition).WellFormed := by
  unfold State.skipIf
  split
  · have := h.pc_nonneg
    exact h.withPc (by omega) (by omega)
  · exact h

theorem addRegs (h : s.WellFormed) (x y : Reg) : (s.addRegs x y).WellFormed :=
  (h.setReg x (isByte_mod _)).setFlag _

theorem subRegs (h : s.WellFormed) (x y : Reg) : (s.subRegs x y).WellFormed :=
  (h.setFlag _).setReg x (isByte_mod _)

theorem subRegsFrom (h : s.WellFormed) (x y : Reg) : (s.subRegsFrom x y).WellFormed :=
  (h.setFlag _).setReg x (isByte_mod _)

theorem shiftRight (h : s.WellFormed) (x : Reg) : (s.shiftRight x).WellFormed := by
  have hs := h.setFlag (Bits.bit (s.v.get x) 0 == 1)
  obtain ⟨h0, h1⟩ := hs.byte x
  exact hs.setReg x ⟨by omega, by omega⟩

theorem shiftLeft (h : s.WellFormed) (x : Reg) : (s.shiftLeft x).WellFormed :=
  (h.setFlag _).setReg x (isByte_mod _)

theorem drawSprite (h : s.WellFormed) (x y : Reg) (height : Nat) :
    (s.drawSprite x y height).WellFormed :=
  ((h.withMemory (congrArg Array.size (Memory.cells_fetchBlock ..))).withScreen _).setFlag _

theorem storeDigits (h : s.WellFormed) (x : Reg) : (s.storeDigits x).WellFormed :=
  h.withMemory (Memory.size_storeBlock ..)

theorem restoreRegs (h : s.WellFormed) (x : Reg) : (s.restoreRegs x).WellFormed := by
  have hmemory := h.withMemory (congrArg Array.size (s.memory.cells_fetchBlock s.index (x.val + 1)))
  refine hmemory.withRegs fun y => ?_
  show IsByte (Vector.ofFn _)[y.val]
  rw [Vector.getElem_ofFn]
  exact isByte_getD _ _ (h.byte y)

/-- Saving registers cannot fail: each of them holds a byte. -/
theorem saveRegs (h : s.WellFormed) (x : Reg) : ∃ s', s.saveRegs x = .ok s' ∧ s'.WellFormed := by
  obtain ⟨memory, hs, hsize⟩ :=
    Memory.storeValues_ok s.memory s.index (isByte_of_mem_take h.byte (x.val + 1))
  refine ⟨{ s with memory := memory }, ?_, h.withMemory hsize⟩
  unfold State.saveRegs
  rw [hs]

/-- Looking at a key cannot fail: a register names a key or a number above all keys. -/
theorem skipOnKey (h : s.WellFormed) (hpc : s.pc ≤ 0x1000) (x : Reg) (down : Bool) :
    ∃ s', s.skipOnKey x down = .ok s' ∧ s'.WellFormed := by
  have hkey : ∃ held, s.keyDown (s.v.get x) = .ok held := by
    obtain ⟨h0, -⟩ := h.byte x
    unfold keyDown
    split
    next => exact ⟨false, rfl⟩
    next hlt =>
      obtain ⟨n, hn⟩ := Int.eq_ofNat_of_zero_le h0
      rw [hn, slot_of_lt .reading (by omega)]
      exact ⟨_, rfl⟩
  obtain ⟨held, hkey⟩ := hkey
  refine ⟨_, ?_, h.skipIf hpc (held == down)⟩
  unfold State.skipOnKey
  rw [hkey]

/-- Adding to the index register uses up the room that the next count gives it. -/
theorem addToIndex_counted (h : s.WellFormed) (x : Reg) :
    { s.addToIndex x with cycles := (s.addToIndex x).cycles + 1 }.WellFormed := by
  obtain ⟨h0, h1⟩ := h.byte x
  -- The sum alone may be over the bound of the old count; only with the new count the state
  -- is well-formed.
  have hnew : { s with index := s.index + s.v.get x, cycles := s.cycles + 1 }.WellFormed :=
    { h.counted with
      index_nonneg := by
        have := h.index_nonneg
        show 0 ≤ s.index + s.v.get x
        omega
      index_le := by
        have := h.index_le
        show s.index + s.v.get x ≤ 0xFFF + 255 * (s.cycles + 1)
        omega }
  exact hnew.setFlag _

/-! ## Calls and returns -/

end WellFormed

/-- With a stack pointer that counts from the bottom, the open calls are the slots below it. -/
theorem calls_of_nonneg (h : 0 ≤ s.sp) : s.calls = s.stack.toList.take s.sp.toNat := by
  unfold calls
  rw [if_neg (by omega)]

/-- A call on a stack with a free slot puts the counter on top. -/
theorem enter_of_lt (h0 : 0 ≤ s.sp) (h1 : s.sp < stackDepth) (target address : Int) :
    ∃ s', s.enter target address = .ok s' ∧ s'.calls = s.calls ++ [s.pc] ∧
      s' = { s with stack := s'.stack, sp := s.sp + 1, pc := target } := by
  obtain ⟨top, htop⟩ := Int.eq_ofNat_of_zero_le h0
  have hlt : top < 16 := by
    rw [htop] at h1
    exact Int.ofNat_lt.mp h1
  refine ⟨{ s with stack := s.stack.setIfInBounds top s.pc, sp := s.sp + 1, pc := target }, ?_, ?_,
    rfl⟩
  · unfold enter
    rw [if_neg (by omega), htop, slot_of_lt .writing hlt]
  · have hsp : (0 : Int) ≤ s.sp + 1 := by omega
    have hnat : (s.sp + 1).toNat = top + 1 := by omega
    rw [calls_of_nonneg (s := { s with stack := _, sp := s.sp + 1, pc := target }) hsp,
      calls_of_nonneg h0]
    show (s.stack.setIfInBounds top s.pc).toList.take (s.sp + 1).toNat =
      s.stack.toList.take s.sp.toNat ++ [s.pc]
    rw [hnat, htop, Int.toNat_natCast, Vector.toList_setIfInBounds, List.take_add_one,
      List.take_set_of_le (Nat.le_refl _),
      List.getElem?_set_self (by rw [Vector.length_toList]; exact hlt)]
    rfl

/-- A return with a call open goes back behind the innermost one. -/
theorem leave_of_pos (h0 : 0 < s.sp) (h1 : s.sp ≤ stackDepth) (address : Int) :
    ∃ s', s.leave address = .ok s' ∧ s.calls = s'.calls ++ [s'.pc] ∧
      s' = { s with sp := s.sp - 1, pc := s'.pc } := by
  obtain ⟨top, htop⟩ := Int.eq_ofNat_of_zero_le (show 0 ≤ s.sp - 1 by omega)
  have hlt : top < 16 := by
    have : s.sp ≤ 16 := h1
    omega
  refine ⟨{ s with sp := s.sp - 1, pc := s.stack.get ⟨top, hlt⟩ }, ?_, ?_, rfl⟩
  · have hne : ¬ (s.sp == 0) = true := by
      rw [beq_iff_eq]
      omega
    have hslot : slot .reading 16 (s.sp - 1) = .ok ⟨top, hlt⟩ := by
      rw [htop]
      exact slot_of_lt .reading hlt
    unfold leave
    rw [if_neg hne]
    simp only [hslot]
  · have hnat : s.sp.toNat = top + 1 := by omega
    rw [calls_of_nonneg (by omega),
      calls_of_nonneg (s := { s with sp := s.sp - 1, pc := _ })
        (show (0 : Int) ≤ s.sp - 1 by omega)]
    show s.stack.toList.take s.sp.toNat = s.stack.toList.take (s.sp - 1).toNat ++
      [s.stack.get ⟨top, hlt⟩]
    rw [hnat, htop, Int.toNat_natCast, List.take_add_one,
      List.getElem?_eq_getElem (by rw [Vector.length_toList]; exact hlt)]
    rfl

namespace WellFormed

/-- A call from behind a fetched word keeps the state well-formed. -/
theorem enter (h : s.WellFormed) (hlt : s.sp < stackDepth) (hlo : 2 ≤ s.pc) (hhi : s.pc ≤ 0x1000)
    (target : BitVec 12) (address : Int) :
    ∃ s', s.enter target.toNat address = .ok s' ∧ s'.WellFormed := by
  obtain ⟨s', hs', hcalls, heq⟩ := enter_of_lt h.sp_nonneg hlt target.toNat address
  have htarget := target.isLt
  refine ⟨s', hs', ?_⟩
  rw [heq] at hcalls ⊢
  have hsp := h.sp_nonneg
  have hdepth : s.sp < 16 := hlt
  exact { h with
    sp_nonneg := show 0 ≤ s.sp + 1 by omega
    sp_le := show s.sp + 1 ≤ 16 by omega
    calls := by
      -- The new entry is the counter behind a fetched word, which is where its bounds come from.
      rw [hcalls]
      intro a ha
      rcases List.mem_append.mp ha with ha | ha
      · exact h.calls a ha
      · rw [List.mem_singleton.mp ha]
        exact ⟨hlo, hhi⟩
    pc_nonneg := show (0 : Int) ≤ target.toNat by omega
    pc_le := show (target.toNat : Int) ≤ 0x10FE by omega }

/-- A return brings back a counter that a call has put on the stack. -/
theorem leave (h : s.WellFormed) (hne : s.sp ≠ 0) (address : Int) :
    ∃ s', s.leave address = .ok s' ∧ s'.WellFormed := by
  have hsp := h.sp_nonneg
  have hdepth : s.sp ≤ 16 := h.sp_le
  obtain ⟨s', hs', hcalls, heq⟩ := leave_of_pos (by omega) h.sp_le address
  -- The calls that are left and the new counter are together the calls of before.
  have hold : ∀ a ∈ s'.calls ++ [s'.pc], 2 ≤ a ∧ a ≤ 0x1000 := hcalls ▸ h.calls
  have hpc := hold s'.pc (List.mem_append_right _ (List.mem_singleton_self _))
  refine ⟨s', hs', ?_⟩
  rw [heq] at hold ⊢
  exact { h with
    sp_nonneg := show 0 ≤ s.sp - 1 by omega
    sp_le := show s.sp - 1 ≤ 16 by omega
    calls := fun a ha => hold a (List.mem_append_left _ ha)
    pc_nonneg := show 0 ≤ s'.pc by omega
    pc_le := show s'.pc ≤ 0x10FE by omega }

end WellFormed

end State

end Chip8
