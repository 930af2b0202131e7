import Chip8.Proofs.Engine.Session
import Chip8.Proofs.Machine.Record
import Mathlib.Data.List.Chain

/-!
# What the history says

A debugger keeps the records of the steps that it has made, and drops the oldest ones. They are a
chain (`Recorded`): each one continues the one before, and the last one comes before the machine as
it is. A step puts its record at the end of the chain (`Recorded.concat`), and what else happens to
the machine, also instructions that leave no record, only lets it grow older (`Recorded.later`). So
the histories of all engines are chains of this kind (`Engine.MadeFor.records`), and
`records_explain_memory` says what there is to be read from them.
-/

namespace Chip8

/-- A list of records that continue each other, with all of them before a machine. -/
structure Recorded (records : List Snapshot) (m : Machine) : Prop where
  chain : records.IsChain fun snap next => next.Continues snap
  last : ∀ snap ∈ records.getLast?, snap.Precedes m

namespace Recorded

variable {records : List Snapshot} {m m' : Machine} {snap : Snapshot}

theorem nil (m : Machine) : Recorded [] m where
  chain := .nil
  last := fun _ h => by cases h

theorem later (h : Recorded records m) (hlater : Machine.Later m m') : Recorded records m' where
  chain := h.chain
  last := fun snap hsnap => (h.last snap hsnap).later hlater

/-- What is left when the oldest records are dropped. -/
theorem drop (h : Recorded records m) (n : Nat) : Recorded (records.drop n) m where
  chain := h.chain.drop n
  last := by
    intro snap hsnap
    rw [List.getLast?_drop] at hsnap
    split at hsnap
    · cases hsnap
    · exact h.last snap hsnap

/-- **A step continues the chain.** -/
theorem concat (h : Recorded records m) (hwf : m.state.WellFormed)
    (hstep : m.step.1 = .ok (some snap)) :
    Recorded (records ++ [snap]) m.step.2 where
  chain := by
    -- Only the last record so far has to be compared with the new one.
    refine h.chain.append (.singleton snap) ?_
    intro before hbefore next hnext
    cases hnext
    exact (h.last before hbefore).continues hwf hstep
  last := by
    intro last hlast
    rw [List.getLast?_concat] at hlast
    cases hlast
    exact Snapshot.precedes_of_step hstep

end Recorded

namespace Debugger

variable {d : Debugger}

/-- The history of a debugger is a chain of records, with a well-formed machine behind it. -/
structure Records (d : Debugger) : Prop where
  machine : d.target.WellFormed
  recorded : Recorded d.history.items d.target

theorem Records.step (h : d.Records) : d.step.2.Records := by
  have hmachine : d.step.2.target.WellFormed := by
    rw [step_target]
    exact h.machine.step
  refine ⟨hmachine, ?_⟩
  cases hfst : d.target.step.1 with
  | error e =>
    rw [step_of_error hfst]
    exact h.recorded.later (Machine.later_step h.machine.state)
  | ok record =>
    cases record with
    | none =>
      rw [step_of_awaitingKey hfst]
      exact h.recorded
    | some snap =>
      rw [step_of_snapshot hfst]
      show Recorded (d.history.push snap).items d.target.step.2
      rw [Ring.items_push]
      exact (h.recorded.concat h.machine.state hfst).drop _

theorem Records.run (h : d.Records) (n : Nat) : (d.run n).2.Records :=
  loop_induction (P := Records) (d := { d with stopRequested := false }) (fun _ hd => hd.step)
    (fun _ _ hd => ⟨hd.machine, hd.recorded⟩) ⟨h.machine, h.recorded⟩ n

end Debugger

namespace Engine

variable {e e' : Engine}

/-- What happens to the machine outside the debugger only lets it grow older. -/
theorem records_mapMachine (hshared : e.Shared) {f : Machine → Machine}
    (hf : (f e.machine).WellFormed) (hlater : Machine.Later e.machine (f e.machine))
    (h : e.debugger.Records) :
    (e.mapMachine f).debugger.Records := by
  rw [hshared.machine] at hf hlater
  rw [hshared.mapMachine_eq]
  exact ⟨hf, h.recorded.later hlater⟩

/-- **Elementary changes** leave a chain of records. -/
theorem Change.records (hchange : Change e e') (hshared : e.Shared) (h : e.debugger.Records) :
    e'.debugger.Records := by
  have hm : e.machine.WellFormed := hshared.machine ▸ h.machine
  cases hchange with
  | run hidle n =>
    obtain ⟨d, paused, lastError, notes, heq, hd⟩ := runCycles_leaves hshared n
    rw [heq]
    rcases hd with rfl | rfl
    · exact h.run n
    · rw [hshared.machine]
      exact ⟨h.machine.run n, h.recorded.later (Machine.later_run h.machine n)⟩
  | step =>
    obtain ⟨d, lastError, pending, notes, heq, hd⟩ := e.step_leaves
    rw [heq]
    rcases hd with rfl | rfl
    · exact h
    · exact h.step
  | tick =>
    rw [tick_eq]
    exact records_mapMachine hshared hm.tick (Machine.later_tick _) h
  | press code => exact records_mapMachine hshared (hm.press code) (Machine.later_press _ code) h
  | release code =>
    exact records_mapMachine hshared (hm.release code) (Machine.later_release _ code) h
  | start =>
    unfold Engine.start
    split
    · exact h
    · exact ⟨h.machine, h.recorded⟩
  | carry span => exact h
  | breakpoints bs => exact ⟨h.machine, h.recorded⟩
  | outside => exact h

/-- Another machine begins with no records. -/
theorem records_replace {loaded : Option Machine} (hloaded : Installs loaded)
    (hm : e.machine.WellFormed) :
    (e.replace loaded).debugger.Records := by
  have hreplaced := e.replaced loaded
  refine ⟨?_, ?_⟩
  · rw [← (e.shared_replace loaded).machine, hreplaced.machine]
    exact hloaded.wellFormed hm
  · rw [hreplaced.history]
    exact .nil _

theorem MadeFor.records {m : Machine} (hm : m.WellFormed) (h : MadeFor m e) :
    e.debugger.Records := by
  refine h.induction (P := fun e => e.debugger.Records) (fun _ _ _ => ⟨hm, .nil m⟩)
    (fun _ _ hshared hchange he => hchange.records hshared he) ?_
  intro e loaded hshared hloaded he
  exact records_replace hloaded (hshared.machine ▸ he.machine)

/-- **The records explain the memory.** The record of every step does so by itself; and in the
history of every engine the counts grow from record to record, and the memory of a record that is
the next one by its count is the memory of the record before with its writes. -/
theorem records_explain_memory :
    (∀ (m : Machine) (snap : Snapshot), m.state.WellFormed → m.step.1 = .ok (some snap) →
      snap.Explains m) ∧
      ∀ (m : Machine) (e : Engine), m.WellFormed → MadeFor m e →
        (e.debugger.history.items.map (·.cycle)).Pairwise (· < ·) ∧
          e.debugger.history.items.IsChain fun snap next =>
            next.cycle = snap.cycle + 1 → next.state.memory =
              snap.state.memory.replay next.activity := by
  refine ⟨fun m snap hwf hstep => Machine.step_explains hwf hstep, fun m e hm hmade => ?_⟩
  have hchain := (hmade.records hm).recorded.chain
  refine ⟨List.isChain_iff_pairwise.mp ?_, hchain.imp fun _ _ hnext => hnext.2⟩
  exact (List.isChain_map _).mpr (hchain.imp fun _ _ hnext => hnext.1)

/-- An engine that has stepped over an instruction and over one that overwrites it. -/
def overwritten : Engine :=
  (build Settings.standard 0x200 Machine.overwriting false).serveAll
    [.command .step, .command .step]

theorem overwritten_history :
    overwritten.debugger.history.items.map (fun snap => (snap.cycle, snap.activity)) =
      [(1, [.read 0x200 0xA2, .read 0x201 0x00]),
        (2, [.read 0x202 0xF1, .read 0x203 0x55, .write 0x200 0 0xA2, .write 0x201 0 0x00])] := by
  unfold overwritten Machine.overwriting
  rw [Machine.boot_eq]
  decide +kernel

theorem records_explain_memory_overwritten :
    Machine.overwriting.WellFormed ∧
      (∃ snap, (Machine.overwriting.afterAll [.runInstruction]).step.1 = .ok (some snap) ∧
        snap.activity = [.read 0x202 0xF1, .read 0x203 0x55, .write 0x200 0 0xA2,
          .write 0x201 0 0x00] ∧
        snap.Explains (Machine.overwriting.afterAll [.runInstruction])) ∧
      MadeFor Machine.overwriting overwritten ∧
      ∃ snap next, overwritten.debugger.history.items = [snap, next] ∧
        next.activity = [.read 0x202 0xF1, .read 0x203 0x55, .write 0x200 0 0xA2,
          .write 0x201 0 0x00] ∧
        next.state.memory = snap.state.memory.replay next.activity := by
  have hwf : Machine.overwriting.WellFormed := Machine.boot_wellFormed _ _ (by decide) (by decide)
  have hmade : MadeFor Machine.overwriting overwritten := ⟨_, _, _, _, rfl⟩
  obtain ⟨hexplains, hhistories⟩ := records_explain_memory
  refine ⟨hwf, ?_, hmade, ?_⟩
  · obtain ⟨snap, hstep, hactivity⟩ := Machine.overwriting_record
    exact ⟨snap, hstep, hactivity, hexplains _ snap (hwf.afterAll _).state hstep⟩
  · obtain ⟨snap, rest, hitems, hsnap, hrest⟩ := List.map_eq_cons_iff.mp overwritten_history
    obtain ⟨next, more, rfl, hnext, hmore⟩ := List.map_eq_cons_iff.mp hrest
    cases List.map_eq_nil_iff.mp hmore
    obtain ⟨-, hchain⟩ := hhistories _ _ hwf hmade
    rw [hitems] at hchain ⊢
    have hcycle : snap.cycle = 1 := congrArg Prod.fst hsnap
    have hcycle' : next.cycle = 2 := congrArg Prod.fst hnext
    refine ⟨snap, next, rfl, congrArg Prod.snd hnext, ?_⟩
    exact List.isChain_pair.mp hchain (by omega)

end Engine

end Chip8
