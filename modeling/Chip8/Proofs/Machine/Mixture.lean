import Chip8.Proofs.Machine.Record
import Mathlib.Data.List.Forall2

/-!
# Mixtures of the two ways of asking for an instruction

An instruction can be asked for with a record of it or without one. `answers` are what a machine
gives back along a sequence of events, and `Matches` says when two answers tell the same: two
records only if they are equal, and a record and an answer without one if they agree on whether
there has been an instruction, or on the error. Two machines that differ in their pending accesses
alone give matching answers to an event asked for in either way, and go on to differ in no more than
that (`after_matches`); by induction so do two machines along whole mixtures (`answers_match`). The
main result is `mixtures_agree`, for machines that have been loaded; it says besides that a record
never holds accesses that have been pending from before.
-/

namespace Chip8

/-- What an event gives back. -/
inductive MachineAnswer where
  | recorded (result : Except CycleError (Option Snapshot))
  | ran (result : Except CycleError Bool)
  | pressed (result : Except SlotError Unit)
  /-- Whether the tone is on behind a tick. -/
  | ticked (sounding : Bool)
  | done

/-- Whether two answers tell the same. -/
def MachineAnswer.Matches : MachineAnswer → MachineAnswer → Prop
  | .recorded record, .ran result => record.map (·.isSome) = result
  | .ran result, .recorded record => record.map (·.isSome) = result
  | answer, answer' => answer = answer'

/-- Events that are the same, or both an instruction. -/
inductive MachineEvent.SameAs : MachineEvent → MachineEvent → Prop
  | refl (event : MachineEvent) : SameAs event event
  | unrecorded : SameAs .step .runInstruction
  | recorded : SameAs .runInstruction .step

namespace Machine

variable {m m' : Machine}

/-- What a machine gives back on an event. -/
def answer (m : Machine) : MachineEvent → MachineAnswer
  | .step => .recorded m.step.1
  | .runInstruction => .ran m.runInstruction.1
  | .press code => .pressed (m.press code).1
  | .release _ => .done
  | .tick => .ticked m.tick.sounding
  | .reset => .done

/-- What a machine gives back along a sequence of events. -/
def answers (m : Machine) : List MachineEvent → List MachineAnswer
  | [] => []
  | event :: rest => m.answer event :: (m.after event).answers rest

/-! ## Machines that differ in their pending accesses -/

theorem step_quiet (m : Machine) :
    m.quiet.step.1 = m.step.1 ∧ m.quiet.step.2.quiet = m.step.2.quiet := by
  cases hrun : m.halt with
  | some cause =>
    have hrun' : m.quiet.halt = some cause := hrun
    rw [step_of_failed (cycle_of_halted hrun), step_of_failed (cycle_of_halted hrun')]
    exact ⟨rfl, rfl⟩
  | none =>
    have hrun' : m.quiet.halt = none := hrun
    cases hwait : m.state.awaiting with
    | some number =>
      have hwait' : m.quiet.state.awaiting = some number := hwait
      rw [step_of_awaitingKey (cycle_of_awaiting hrun hwait),
        step_of_awaitingKey (cycle_of_awaiting hrun' hwait')]
      exact ⟨rfl, rfl⟩
    | none =>
      have hsame : m.quiet.step = m.step := by
        unfold step
        rw [cycle_quiet_of_running hrun hwait]
      rw [hsame]
      exact ⟨rfl, rfl⟩

theorem step_congr (h : m.quiet = m'.quiet) :
    m.step.1 = m'.step.1 ∧ m.step.2.quiet = m'.step.2.quiet := by
  obtain ⟨hfst, hsnd⟩ := m.step_quiet
  obtain ⟨hfst', hsnd'⟩ := m'.step_quiet
  rw [← hfst, ← hsnd, h]
  exact ⟨hfst', hsnd'⟩

theorem press_fst_congr (h : m.quiet = m'.quiet) (code : Int) :
    (m.press code).1 = (m'.press code).1 := by
  have hpress : ∀ m : Machine, (m.press code).1 = (m.quiet.press code).1 := by
    intro m
    show (m.state.press code).1 = (m.state.quiet.press code).1
    have hwait : m.state.quiet.awaiting = m.state.awaiting := rfl
    unfold State.press
    split
    · dsimp only
      rw [hwait]
      split
      · rfl
      · split
        · rfl
        · rfl
    · rfl
  rw [hpress m, hpress m', h]

/-- **One event** in either way: the answers match, and the machines differ in their pending
accesses alone. -/
theorem after_matches {event event' : MachineEvent} (h : m.quiet = m'.quiet)
    (hsame : event.SameAs event') :
    (m.answer event).Matches (m'.answer event') ∧
    (m.after event).quiet = (m'.after event').quiet := by
  have hstep := step_congr h
  have hrun := runInstruction_congr h
  have heq := m.runInstruction_eq_step
  have heq' := m'.runInstruction_eq_step
  cases hsame with
  | unrecorded =>
    refine ⟨?_, heq.2.symm.trans hrun.2⟩
    show m.step.1.map (·.isSome) = m'.runInstruction.1
    rw [heq'.1, hstep.1]
  | recorded =>
    refine ⟨?_, hrun.2.trans heq'.2⟩
    show m'.step.1.map (·.isSome) = m.runInstruction.1
    rw [← heq'.1, hrun.1]
  | refl =>
    cases event with
    | step => exact ⟨congrArg MachineAnswer.recorded hstep.1, hstep.2⟩
    | runInstruction => exact ⟨congrArg MachineAnswer.ran hrun.1, hrun.2⟩
    | press code =>
      exact ⟨congrArg MachineAnswer.pressed (press_fst_congr h code), press_congr h code⟩
    | release code => exact ⟨rfl, release_congr h code⟩
    | tick =>
      have htick : m.quiet.tick = m'.quiet.tick := by rw [h]
      have hsounding : m.quiet.tick.sounding = m'.quiet.tick.sounding := by rw [htick]
      exact ⟨congrArg MachineAnswer.ticked hsounding, htick⟩
    | reset =>
      have hreset : m.quiet.reset = m'.quiet.reset := by rw [h]
      refine ⟨rfl, ?_⟩
      show m.quiet.reset.quiet = m'.quiet.reset.quiet
      rw [hreset]

/-! ## Whole mixtures -/

/-- **Along two mixtures** of the same events, all answers match. -/
theorem answers_match {events events' : List MachineEvent} (h : m.quiet = m'.quiet)
    (hsame : List.Forall₂ MachineEvent.SameAs events events') :
    List.Forall₂ MachineAnswer.Matches (m.answers events) (m'.answers events') ∧
      (m.afterAll events).quiet = (m'.afterAll events').quiet := by
  induction hsame generalizing m m' with
  | nil => exact ⟨.nil, h⟩
  | cons hfirst hrest ih =>
    obtain ⟨hmatch, hafter⟩ := after_matches h hfirst
    obtain ⟨hmatches, hend⟩ := ih hafter
    exact ⟨.cons hmatch hmatches, hend⟩

/-- **The two ways of asking for an instruction are interchangeable.** Two mixtures of the same
events on a loaded machine give matching answers, and after each event the two machines differ in
their pending accesses alone. Whatever mixture has come before, a record holds the accesses of its
own instruction and of the fetch of its word, and no others. -/
theorem mixtures_agree {program : List UInt8} {base : Int} {dice : Dice}
    (hload : load program base dice = .ok m) :
    (∀ events events', List.Forall₂ MachineEvent.SameAs events events' →
      List.Forall₂ MachineAnswer.Matches (m.answers events) (m.answers events') ∧
      ∀ k, (m.afterAll (events.take k)).quiet = (m.afterAll (events'.take k)).quiet) ∧
    ∀ events snap, (m.afterAll events).step.1 = .ok (some snap) →
      snap.operation.opcode = (m.afterAll events).state.word ∧
      Opcode.instruction? snap.operation.opcode = some snap.operation.instruction ∧
      snap.activity = (m.afterAll events).state.fetches ++
        snap.operation.instruction.accesses (m.afterAll events).state := by
  constructor
  · intro events events' hsame
    refine ⟨(answers_match rfl hsame).1, fun k => ?_⟩
    exact (answers_match rfl (List.forall₂_take k hsame)).2
  · intro events snap hstep
    have hwf := (wellFormed_of_load hload).afterAll events
    obtain ⟨hopcode, -, hinstruction, hactivity, -⟩ := step_accessed hwf.state hstep
    exact ⟨hopcode, hinstruction, hactivity⟩

/-- Through the key wait, and on after a reset. -/
theorem mixtures_agree_overwriting :
    load [0xA2, 0x00, 0xF1, 0x55, 0xF0, 0x0A] 0x200 (Dice.cycle []) = .ok overwriting ∧
      List.Forall₂ MachineAnswer.Matches
        (overwriting.answers [.step, .runInstruction, .tick, .step, .step, .press 5, .reset, .step])
        (overwriting.answers [.runInstruction, .step, .tick, .step, .runInstruction, .press 5,
          .reset, .step]) ∧
      ∃ snap, (overwriting.afterAll [.runInstruction]).step.1 = .ok (some snap) ∧
        snap.activity = [.read 0x202 0xF1, .read 0x203 0x55, .write 0x200 0 0xA2,
          .write 0x201 0 0x00] ∧
        snap.activity = (overwriting.afterAll [.runInstruction]).state.fetches ++
          snap.operation.instruction.accesses (overwriting.afterAll [.runInstruction]).state := by
  have hload : load [0xA2, 0x00, 0xF1, 0x55, 0xF0, 0x0A] 0x200 (Dice.cycle []) = .ok overwriting :=
    rfl
  obtain ⟨hmixtures, hrecords⟩ := mixtures_agree hload
  refine ⟨hload, (hmixtures _ _ ?_).1, ?_⟩
  · exact .cons .unrecorded (.cons .recorded (.cons (.refl _) (.cons (.refl _) (.cons .unrecorded
      (.cons (.refl _) (.cons (.refl _) (.cons (.refl _) .nil)))))))
  · obtain ⟨snap, hstep, hactivity⟩ := overwriting_record
    exact ⟨snap, hstep, hactivity, (hrecords _ snap hstep).2.2⟩

end Machine

end Chip8
