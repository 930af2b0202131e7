import Chip8.Proofs.Instruction.Frame
import Chip8.Proofs.Machine.Evolution
import Chip8.Proofs.Opcode.Encoding

/-!
# Calls and returns

The call stack has sixteen slots, and what lies above the stack pointer is left over from calls
that are long closed. `Operation.follow` forgets about slots: an executed call puts the address
behind it at the end of a list, an executed return takes the last one off. A cycle does to the open
calls of the machine what `follow` does to such a list (`calls_of_executed`), and no other event
changes them (`calls_after`), so along a whole run the open calls are the list that the executed
operations give (`calls_afterAll`).

Which call a return belongs to is a matter of the operations alone. `Balanced` operations open and
close calls in pairs, so they put the list back to what it was (`Balanced.foldl`), and every address
in the list has been put there by a call behind which all is balanced (`opened_by`). The main result
is `load_calls_refine`: a return goes back behind the call that it matches.
-/

namespace Chip8

namespace Operation

/-- A call, `2nnn`. -/
def IsCall (op : Operation) : Prop :=
  (Form.first 2).Fits op.word

/-- A return, `00EE`. -/
def IsReturn (op : Operation) : Prop :=
  (Form.word 0 0 0xE 0xE).Fits op.word

instance (op : Operation) : Decidable op.IsCall :=
  inferInstanceAs (Decidable (Form.Fits _ _))

instance (op : Operation) : Decidable op.IsReturn :=
  inferInstanceAs (Decidable (Form.Fits _ _))

/-- What an executed operation makes of a list of return addresses that has no bound. -/
def follow (addresses : List Int) (op : Operation) : List Int :=
  if op.IsCall then addresses ++ [op.address + 2]
  else if op.IsReturn then addresses.dropLast
  else addresses

variable {op : Operation}

theorem IsReturn.not_isCall (h : op.IsReturn) : ¬ op.IsCall := by
  intro hcall
  obtain ⟨h3, -⟩ := Form.fits_word_iff.mp h
  rw [IsCall, Form.fits_first_iff, h3] at hcall
  cases hcall

theorem follow_of_isCall (h : op.IsCall) (addresses : List Int) :
    follow addresses op = addresses ++ [op.address + 2] :=
  if_pos h

theorem follow_of_isReturn (h : op.IsReturn) (addresses : List Int) :
    follow addresses op = addresses.dropLast := by
  unfold follow
  rw [if_neg h.not_isCall, if_pos h]

theorem follow_of_not (hcall : ¬ op.IsCall) (hret : ¬ op.IsReturn) (addresses : List Int) :
    follow addresses op = addresses := by
  unfold follow
  rw [if_neg hcall, if_neg hret]

/-- A call stands for the instruction that goes to its last three digits. -/
theorem IsCall.instruction_eq (h : op.IsCall)
    (hi : Opcode.instruction? op.opcode = some op.instruction) :
    op.instruction = .call op.word.address := by
  have hp : (⟨0xF000, 0x2000, fun w => .call w.address⟩ : Pattern) ∈
      Opcode.patterns := by simp [Opcode.patterns]
  rw [Opcode.instruction?_of_fits op.opcode hp rfl rfl h] at hi
  exact (Option.some.inj hi).symm

theorem isCall_iff (hi : Opcode.instruction? op.opcode = some op.instruction) :
    op.IsCall ↔ ∃ a, op.instruction = .call a := by
  obtain ⟨p, hfind, hform⟩ := Option.map_eq_some_iff.mp hi
  rw [← hform]
  exact (Opcode.form_eq_call_iff hfind).symm

theorem isReturn_iff (hi : Opcode.instruction? op.opcode = some op.instruction) :
    op.IsReturn ↔ op.instruction = .ret := by
  obtain ⟨p, hfind, hform⟩ := Option.map_eq_some_iff.mp hi
  rw [← hform]
  exact (Opcode.form_eq_ret_iff hfind).symm

/-! ## Calls and the returns that match them -/

/-- Operations that close every call which they open, and no other. -/
inductive Balanced : List Operation → Prop
  | nil : Balanced []
  | other {op : Operation} (hcall : ¬ op.IsCall) (hret : ¬ op.IsReturn) : Balanced [op]
  | pair {call ret : Operation} {body : List Operation} (hcall : call.IsCall) (hret : ret.IsReturn)
      (hbody : Balanced body) : Balanced (call :: body ++ [ret])
  | append {front back : List Operation} (hfront : Balanced front) (hback : Balanced back) :
      Balanced (front ++ back)

/-- Balanced operations leave the list of addresses as it was. -/
theorem Balanced.foldl {ops : List Operation} (h : Balanced ops) (addresses : List Int) :
    ops.foldl follow addresses = addresses := by
  induction h generalizing addresses with
  | nil => rfl
  | other hcall hret => exact follow_of_not hcall hret addresses
  | pair hcall hret hbody ih =>
    rw [List.cons_append, List.foldl_cons, follow_of_isCall hcall, List.foldl_append, ih,
      List.foldl_cons,
      follow_of_isReturn hret, List.dropLast_concat]
    rfl
  | append hfront hback ihfront ihback => rw [List.foldl_append, ihfront, ihback]

/-- A call is the innermost one that is open after some operations: all is balanced behind it. -/
def Innermost (done : List Operation) (call : Operation) : Prop :=
  ∃ before body, done = before ++ call :: body ∧ call.IsCall ∧ Balanced body

/-- The last address is the one behind the innermost call. -/
theorem Innermost.foldl {done : List Operation} {call : Operation} (h : Innermost done call) :
    ∃ addresses, done.foldl follow [] = addresses ++ [call.address + 2] := by
  obtain ⟨before, body, rfl, hcall, hbody⟩ := h
  refine ⟨before.foldl follow [], ?_⟩
  rw [List.foldl_append, List.foldl_cons, hbody.foldl, follow_of_isCall hcall]

/-- Every address has been put into the list by a call behind which all is balanced. -/
theorem opened_by {done : List Operation} {addresses : List Int} {a : Int}
    (h : done.foldl follow [] = addresses ++ [a]) :
    ∃ before call body, done = before ++ call :: body ∧ call.IsCall ∧ Balanced body ∧
      before.foldl follow [] = addresses := by
  -- The induction is on the number of operations: the call that a return closes is looked up in
  -- what was before it.
  induction hn : done.length using Nat.strongRecOn generalizing done addresses a with
  | ind n ih =>
    rcases List.eq_nil_or_concat done with rfl | ⟨init, op, rfl⟩
    · simp at h
    · rw [List.concat_eq_append, List.foldl_append, List.foldl_cons, List.foldl_nil] at h
      rw [List.concat_eq_append, List.length_append, List.length_singleton] at hn
      rw [List.concat_eq_append]
      by_cases hcall : op.IsCall
      · rw [follow_of_isCall hcall] at h
        exact ⟨init, op, [], rfl, hcall, .nil, (List.append_inj' h rfl).1⟩
      · by_cases hret : op.IsReturn
        · rw [follow_of_isReturn hret] at h
          have hne : init.foldl follow [] ≠ [] := by
            intro hnil
            rw [hnil] at h
            simp at h
          have hinit := (List.dropLast_concat_getLast hne).symm
          rw [h] at hinit
          obtain ⟨before, call, body, rfl, hcall', hbody, hbefore⟩ :=
            ih init.length (by omega) hinit rfl
          -- The return closes this call, so the address was put there by the innermost call
          -- before it.
          rw [List.length_append, List.length_cons] at hn
          obtain ⟨before', call', body', rfl, hcall'', hbody', hbefore'⟩ :=
            ih before.length (by omega) hbefore rfl
          refine ⟨before', call', body' ++ (call :: body ++ [op]), ?_, hcall'',
            hbody'.append (.pair hcall' hret hbody),
            hbefore'⟩
          simp
        · rw [follow_of_not hcall hret] at h
          obtain ⟨before, call, body, rfl, hcall', hbody, hbefore⟩ :=
            ih init.length (by omega) h rfl
          refine ⟨before, call, body ++ [op], ?_, hcall', hbody.append (.other hcall hret), hbefore⟩
          simp

end Operation

/-! ## Instructions -/

namespace State

variable {s s' : State}

/-- An opened call puts the counter on the stack. -/
theorem calls_of_enter {target address : Int} (h0 : 0 ≤ s.sp)
    (h : s.enter target address = .ok s') :
    s'.calls = s.calls ++ [s.pc] ∧ s'.pc = target := by
  by_cases hsp : stackDepth ≤ s.sp
  · unfold enter at h
    rw [if_pos hsp] at h
    cases h
  · obtain ⟨left, hleft, hcalls, heq⟩ := enter_of_lt h0 (Int.not_le.mp hsp) target address
    rw [hleft] at h
    cases h
    exact ⟨hcalls, congrArg State.pc heq⟩

/-- A closed call takes the counter from the stack. -/
theorem calls_of_leave {address : Int} (h0 : 0 ≤ s.sp) (h1 : s.sp ≤ stackDepth)
    (h : s.leave address = .ok s') :
    s.calls = s'.calls ++ [s'.pc] := by
  by_cases hsp : s.sp = 0
  · unfold leave at h
    rw [if_pos (beq_iff_eq.mpr hsp)] at h
    cases h
  · obtain ⟨left, hleft, hcalls, -⟩ := leave_of_pos (by omega) h1 address
    rw [hleft] at h
    cases h
    exact hcalls

end State

/-! ## Single cycles and events -/

namespace Machine

variable {m left : Machine} {op : Operation}

/-- **A cycle** does to the open calls what the executed operation does to a list of addresses; a
call goes to its target, and a return to the address that it takes off. -/
theorem calls_of_executed (h : m.state.WellFormed) (hc : m.cycle = (.executed op, left)) :
    left.state.calls = op.follow m.state.calls ∧
      (op.IsCall → left.state.pc = op.word.address.toNat) ∧
      (op.IsReturn → m.state.calls = left.state.calls ++ [left.state.pc]) := by
  obtain ⟨haddress, -, hi, -, s, d, hexecute, rfl⟩ := executed_of_cycle h hc
  -- The fetch has moved the counter, and nothing that the calls depend on.
  have hfetched : m.state.quiet.fetched.calls = m.state.calls := rfl
  have h0 : 0 ≤ m.state.quiet.fetched.sp := h.sp_nonneg
  have h1 : m.state.quiet.fetched.sp ≤ stackDepth := h.sp_le
  by_cases hcall : op.IsCall
  · rw [hcall.instruction_eq hi] at hexecute
    obtain ⟨hcalls, hpc⟩ := State.calls_of_enter h0 (Instruction.ok_of_map hexecute)
    refine ⟨?_, fun _ => hpc, fun hret => absurd hcall hret.not_isCall⟩
    rw [Operation.follow_of_isCall hcall, haddress]
    exact hcalls
  · by_cases hret : op.IsReturn
    · rw [(Operation.isReturn_iff hi).mp hret] at hexecute
      have hcalls := State.calls_of_leave h0 h1 (Instruction.ok_of_map hexecute)
      refine ⟨?_, fun hyes => absurd hyes hcall, fun _ => hcalls⟩
      rw [Operation.follow_of_isReturn hret, ← hfetched, hcalls, List.dropLast_concat]
      rfl
    · refine ⟨?_, fun hyes => absurd hyes hcall, fun hyes => absurd hyes hret⟩
      rw [Operation.follow_of_not hcall hret, ← hfetched]
      rw [Operation.isCall_iff hi, not_exists] at hcall
      rw [Operation.isReturn_iff hi] at hret
      exact (Instruction.framed_of_ok hexecute).calls hcall hret

/-- A cycle that fails leaves the open calls alone. -/
theorem calls_of_failed {e : CycleError} (h : m.state.WellFormed)
    (hc : m.cycle = (.failed e, left)) :
    left.state.calls = m.state.calls := by
  rcases failed_of_cycle h hc with ⟨-, -, -, rfl⟩ | ⟨f, -, -, -, -, rfl⟩
  · rfl
  · show (if 0xFFE < m.state.pc then m.state.quiet else m.state.quiet.fetched).calls = _
    split
    · rfl
    · rfl

/-- The operation that a cycle has executed, if any. -/
def executed? (m : Machine) : Option Operation :=
  match m.cycle.1 with
  | .executed op => some op
  | _ => none

/-- The operation that an event executes, if any. -/
def executedBy (m : Machine) : MachineEvent → Option Operation
  | .step => m.executed?
  | .runInstruction => m.executed?
  | _ => none

theorem executed?_eq_some (h : m.executed? = some op) : m.cycle = (.executed op, m.cycle.2) := by
  unfold executed? at h
  split at h
  next op' hc =>
    cases h
    exact Prod.ext hc rfl
  next => cases h

theorem calls_of_executed?_eq_none (h : m.state.WellFormed) (hnone : m.executed? = none) :
    m.cycle.2.state.calls = m.state.calls := by
  unfold executed? at hnone
  cases hc : m.cycle with
  | mk outcome left =>
    rw [hc] at hnone
    cases outcome with
    | executed op => cases hnone
    | awaitingKey => rw [cycle_of_awaitingKey hc]
    | failed e => exact calls_of_failed h hc

/-- The record that a step makes takes nothing away from what its cycle leaves but the
pending accesses. -/
theorem step_snd (m : Machine) :
    m.step.2.state.calls = m.cycle.2.state.calls ∧ m.step.2.state.pc = m.cycle.2.state.pc := by
  unfold step
  split
  next hc => exact ⟨congrArg (·.2.state.calls) hc.symm, congrArg (·.2.state.pc) hc.symm⟩
  next hc => exact ⟨congrArg (·.2.state.calls) hc.symm, congrArg (·.2.state.pc) hc.symm⟩
  next hc => exact ⟨congrArg (·.2.state.calls) hc.symm, congrArg (·.2.state.pc) hc.symm⟩

theorem runInstruction_snd (m : Machine) : m.runInstruction.2 = m.cycle.2 := by
  unfold runInstruction
  split
  next hc => exact congrArg Prod.snd hc.symm
  next hc => exact congrArg Prod.snd hc.symm
  next hc => exact congrArg Prod.snd hc.symm

/-- An event that executes an operation leaves the calls and the counter of a cycle that does. -/
theorem cycle_of_executedBy {event : MachineEvent} (h : m.executedBy event = some op) :
    m.cycle = (.executed op, m.cycle.2) ∧ (m.after event).state.calls = m.cycle.2.state.calls ∧
      (m.after event).state.pc = m.cycle.2.state.pc := by
  cases event with
  | step => exact ⟨executed?_eq_some h, m.step_snd⟩
  | runInstruction =>
    refine ⟨executed?_eq_some h, ?_⟩
    show m.runInstruction.2.state.calls = _ ∧ m.runInstruction.2.state.pc = _
    rw [m.runInstruction_snd]
    exact ⟨rfl, rfl⟩
  | press code => cases h
  | release code => cases h
  | tick => cases h
  | reset => cases h

/-- **An event that executes nothing** and is no reset leaves the open calls alone. -/
theorem calls_of_executedBy_eq_none {event : MachineEvent} (h : m.state.WellFormed)
    (hreset : event ≠ .reset) (hnone : m.executedBy event = none) :
    (m.after event).state.calls = m.state.calls := by
  cases event with
  | step => exact m.step_snd.1.trans (calls_of_executed?_eq_none h hnone)
  | runInstruction =>
    show m.runInstruction.2.state.calls = _
    rw [m.runInstruction_snd]
    exact calls_of_executed?_eq_none h hnone
  | press code =>
    show (m.state.press code).2.calls = m.state.calls
    rw [m.state.press_eq code]
    rfl
  | release code =>
    show (m.state.release code).calls = m.state.calls
    rw [m.state.release_eq code]
    rfl
  | tick => rfl
  | reset => exact absurd rfl hreset

/-! ## Whole runs -/

/-- The operations executed since the last reset, if some had been before an event. -/
def executedUntil (m : Machine) (done : List Operation) : MachineEvent → List Operation
  | .reset => []
  | event => done ++ (m.executedBy event).toList

/-- The operations executed since the last reset along a sequence of events, if some had been
before it. -/
def executedAlong (m : Machine) (done : List Operation) : List MachineEvent → List Operation
  | [] => done
  | event :: rest => (m.after event).executedAlong (m.executedUntil done event) rest

/-- **One event** keeps the open calls in step with the operations. -/
theorem calls_after (h : m.state.WellFormed) {done : List Operation}
    (hdone : m.state.calls = done.foldl Operation.follow []) (event : MachineEvent) :
    (m.after event).state.calls = (m.executedUntil done event).foldl Operation.follow [] := by
  by_cases hreset : event = .reset
  · rw [hreset]
    rfl
  · have huntil : m.executedUntil done event = done ++ (m.executedBy event).toList := by
      cases event with
      | reset => exact absurd rfl hreset
      | _ => rfl
    rw [huntil, List.foldl_append, ← hdone]
    cases hop : m.executedBy event with
    | none => exact calls_of_executedBy_eq_none h hreset hop
    | some op =>
      obtain ⟨hc, hcalls, -⟩ := cycle_of_executedBy hop
      rw [hcalls, (calls_of_executed h hc).1]
      rfl

/-- **A whole run** does. -/
theorem calls_afterAll (h : m.WellFormed) {done : List Operation}
    (hdone : m.state.calls = done.foldl Operation.follow []) (events : List MachineEvent) :
    (m.afterAll events).state.calls = (m.executedAlong done events).foldl Operation.follow [] := by
  induction events generalizing m done with
  | nil => exact hdone
  | cons event rest ih => exact ih (h.after event) (calls_after h.state hdone event)

theorem length_calls {s : State} (h : s.WellFormed) : (s.calls.length : Int) = s.sp := by
  have h0 := h.sp_nonneg
  have h1 : s.sp ≤ 16 := h.sp_le
  rw [State.calls_of_nonneg h0, List.length_take, Vector.length_toList]
  omega

/-- What an executed operation does to the calls that are open after some operations, and where it
goes on. -/
structure Tracks (m : Machine) (done : List Operation) (event : MachineEvent) (op : Operation) :
    Prop where
  address : op.address = m.state.pc
  opcode : op.opcode = m.state.word
  calls : (m.after event).state.calls = op.follow m.state.calls
  target : op.IsCall → (m.after event).state.pc = op.word.address.toNat
  dropped : op.IsReturn → m.state.calls = (m.after event).state.calls ++ [(m.after event).state.pc]
  matched : op.IsReturn → ∃ call, Operation.Innermost done call
  behind : op.IsReturn → ∀ call, Operation.Innermost done call →
    (m.after event).state.pc = call.address + 2

theorem tracks (h : m.state.WellFormed) {done : List Operation}
    (hdone : m.state.calls = done.foldl Operation.follow []) {event : MachineEvent}
    (hop : m.executedBy event = some op) : m.Tracks done event op := by
  obtain ⟨hc, hcalls, hpc⟩ := cycle_of_executedBy hop
  obtain ⟨haddress, hopcode, -⟩ := executed_of_cycle h hc
  obtain ⟨hfollow, htarget, hdropped⟩ := calls_of_executed h hc
  rw [← hcalls] at hfollow hdropped
  rw [← hpc] at htarget hdropped
  refine ⟨haddress, hopcode, hfollow, htarget, hdropped, fun hret => ?_, fun hret call hmatch => ?_⟩
  · obtain ⟨before, call, body, heq, hcall, hbody, -⟩ :=
      Operation.opened_by (hdone.symm.trans (hdropped hret))
    exact ⟨call, before, body, heq, hcall, hbody⟩
  · obtain ⟨addresses, hlast⟩ := hmatch.foldl
    have hsame := (hdropped hret).symm.trans (hdone.trans hlast)
    exact List.singleton_inj.mp (List.append_inj' hsame rfl).2

/-- **The call stack is a list of return addresses** to every machine that has been loaded, whatever
has been done to it since. The open calls are what the operations that have been executed since the
last reset make of an empty list, and there are as many as the stack pointer says. An event that
executes nothing and is no reset leaves them alone. An executed operation is the word at the counter
and does to the open calls what it does to a list; a call goes on at its target, and a return at the
address that it takes off. Some call matches the return, and a call that does is the one that the
return goes back behind. -/
theorem load_calls_refine {program : List UInt8} {base : Int} {dice : Dice}
    (hload : load program base dice = .ok m) (events : List MachineEvent) :
    (m.afterAll events).state.calls = (m.executedAlong [] events).foldl Operation.follow [] ∧
      ((m.afterAll events).state.calls.length : Int) = (m.afterAll events).state.sp ∧
      (∀ event, event ≠ .reset → (m.afterAll events).executedBy event = none →
        ((m.afterAll events).after event).state.calls = (m.afterAll events).state.calls) ∧
      ∀ event op, (m.afterAll events).executedBy event = some op →
        (m.afterAll events).Tracks (m.executedAlong [] events) event op := by
  have hwf := wellFormed_of_load hload
  have hstate := (hwf.afterAll events).state
  have hstart : m.state.calls = [].foldl Operation.follow [] := by
    obtain ⟨n, hfits, -, -, rfl⟩ := load_eq_ok hload
    rfl
  have hcalls := calls_afterAll hwf hstart events
  refine ⟨hcalls, length_calls hstate, fun event => calls_of_executedBy_eq_none hstate,
    fun event op => tracks hstate hcalls⟩

/-- A machine that waits for a key two calls deep, and returns from there. -/
def nested : Machine :=
  boot [0x22, 0x04, 0x12, 0x02, 0x22, 0x08, 0x00, 0xEE, 0xF1, 0x0A, 0x00, 0xEE] 0x200
    (Dice.cycle [])

/-- The calls, the wait, the key and a tick. -/
def nestedEvents : List MachineEvent :=
  [.step, .runInstruction, .step, .step, .press 3, .tick]

theorem nested_executedAlong :
    nested.executedAlong [] nestedEvents =
      [⟨0x2204, 0x200, .call 0x204⟩, ⟨0x2208, 0x204, .call 0x208⟩,
        ⟨0xF10A, 0x208, .awaitKey 1⟩] := by
  unfold nested
  rw [boot_eq]
  decide +kernel

theorem nested_executedBy :
    (nested.afterAll nestedEvents).executedBy .step = some ⟨0x00EE, 0x20A, .ret⟩ := by
  unfold nested
  rw [boot_eq]
  decide +kernel

theorem load_calls_refine_nested :
    load nested.program 0x200 nested.dice = .ok nested ∧
      (nested.afterAll nestedEvents).state.calls = [0x202, 0x206] ∧
      (nested.afterAll nestedEvents).executedBy .step = some ⟨0x00EE, 0x20A, .ret⟩ ∧
      ((nested.afterAll nestedEvents).after .step).state.pc = 0x206 := by
  have hload : load nested.program 0x200 nested.dice = .ok nested := by
    unfold nested
    rw [program_boot]
    exact load_boot (by decide) (by decide) _
  obtain ⟨hcalls, -, -, htracks⟩ := load_calls_refine hload nestedEvents
  rw [nested_executedAlong] at hcalls htracks
  have hmatch : Operation.Innermost
      [⟨0x2204, 0x200, .call 0x204⟩, ⟨0x2208, 0x204, .call 0x208⟩, ⟨0xF10A, 0x208, .awaitKey 1⟩]
      ⟨0x2208, 0x204, .call 0x208⟩ :=
    ⟨_, _, (List.singleton_append).symm, by decide, .other (by decide) (by decide)⟩
  refine ⟨hload, hcalls.trans (by decide), nested_executedBy, ?_⟩
  exact (htracks .step _ nested_executedBy).behind (by decide) _ hmatch

end Machine

end Chip8
