import Chip8.Execution

/-!
# What instructions leave alone

No instruction reaches the keys, and single ones are the only ones to reach some of the other
fields: only `Fx0A` makes a machine wait for a key, only `Fx18` sets the sound timer, and only a
call or a return reaches the call stack. `Framed` says this of two states, and `framed_left` shows
it once, for all instructions and whatever state they are given, also if they are not executed. What
a field is after an instruction that is none of its own follows from it.
-/

namespace Chip8.Instruction

variable {i : Instruction} {s s' : State}

/-- The state that an instruction leaves, whether it has been executed or not. -/
def left (i : Instruction) (address : Int) (s : State) (d : Dice) : State :=
  s.left ((i.execute address s d).map (·.1))

/-- The fields that an instruction does not reach are what they were. -/
structure Framed (i : Instruction) (s s' : State) : Prop where
  keys : s'.keys = s.keys
  awaiting : (∀ x, i ≠ awaitKey x) → s'.awaiting = s.awaiting
  sound : (∀ x, i ≠ setSound x) → s'.sound = s.sound
  calls : (∀ a, i ≠ call a) → i ≠ ret → s'.calls = s.calls

/-- An update of the counter alone. -/
theorem framed_of_pc (h : s' = { s with pc := s'.pc }) : i.Framed s s' := by
  rw [h]
  exact ⟨rfl, fun _ => rfl, fun _ => rfl, fun _ _ => rfl⟩

/-- An instruction that goes on with the same dice leaves what its result leaves. -/
theorem left_of_map {result : Except InstructionError State} {address : Int} {d : Dice}
    (h : i.execute address s d = result.map (·, d)) : i.left address s d = s.left result := by
  unfold left
  rw [h]
  cases result with
  | ok s' => rfl
  | error e => rfl

/-- **Every instruction** leaves the fields of others alone. -/
theorem framed_left (i : Instruction) (address : Int) (s : State) (d : Dice) :
    i.Framed s (i.left address s d) := by
  cases i with
  | awaitKey x => exact ⟨rfl, fun h => absurd rfl (h x), fun _ => rfl, fun _ _ => rfl⟩
  | setSound x => exact ⟨rfl, fun _ => rfl, fun h => absurd rfl (h x), fun _ _ => rfl⟩
  | ret =>
    have hleft : ret.left address s d = s.left (s.leave address) := left_of_map rfl
    rw [hleft, s.leave_left address]
    exact ⟨rfl, fun _ => rfl, fun _ => rfl, fun _ h => absurd rfl h⟩
  | call target =>
    have hleft : (call target).left address s d = s.left (s.enter target.toNat address) :=
      left_of_map rfl
    rw [hleft, s.enter_left target.toNat address]
    exact ⟨rfl, fun _ => rfl, fun _ => rfl, fun h _ => absurd rfl (h target)⟩
  | save x =>
    have hleft : (save x).left address s d = s.left (s.saveRegs x) := left_of_map rfl
    rw [hleft, s.saveRegs_left x]
    exact ⟨rfl, fun _ => rfl, fun _ => rfl, fun _ _ => rfl⟩
  | skipIfKey x =>
    have hleft : (skipIfKey x).left address s d = s.left (s.skipOnKey x true) := left_of_map rfl
    rw [hleft, s.skipOnKey_left x true]
    exact framed_of_pc rfl
  | skipUnlessKey x =>
    have hleft : (skipUnlessKey x).left address s d = s.left (s.skipOnKey x false) :=
      left_of_map rfl
    rw [hleft, s.skipOnKey_left x false]
    exact framed_of_pc rfl
  | skipIfByte x byte => exact framed_of_pc (s.skipIf_eq _)
  | skipUnlessByte x byte => exact framed_of_pc (s.skipIf_eq _)
  | skipIfEqual x y => exact framed_of_pc (s.skipIf_eq _)
  | skipUnlessEqual x y => exact framed_of_pc (s.skipIf_eq _)
  -- The others always succeed, and update fields of their own.
  | _ => exact ⟨rfl, fun _ => rfl, fun _ => rfl, fun _ _ => rfl⟩

/-- What is left with success is what is left. -/
theorem framed_of_ok {address : Int} {d d' : Dice} (h : i.execute address s d = .ok (s', d')) :
    i.Framed s s' := by
  have hleft : i.left address s d = s' := by
    unfold left
    rw [h]
    rfl
  exact hleft ▸ framed_left i address s d

/-- An instruction that is not executed is none of those that wait for a key or set a timer. -/
theorem framed_of_error {address : Int} {d : Dice} {e : InstructionError}
    (h : i.execute address s d = .error e) :
    (e.leave s).awaiting = s.awaiting ∧ (e.leave s).sound = s.sound := by
  have hframed := framed_left i address s d
  have hleft : i.left address s d = e.leave s := by
    unfold left
    rw [h]
    rfl
  rw [hleft] at hframed
  refine ⟨hframed.awaiting fun x hx => ?_, hframed.sound fun x hx => ?_⟩
  · subst hx
    cases h
  · subst hx
    cases h

end Chip8.Instruction
