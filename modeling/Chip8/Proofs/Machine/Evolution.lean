import Chip8.Proofs.Machine.Invariant

/-!
# Machines that come out of others

`Evolves` says that a machine has come out of another one by events. Whole runs are sequences of
instructions (`evolves_run`). No event touches the image or the place of the program in it
(`Evolves.sameOrigin`), and neither has anything to do with the dice; so what has been loaded once
can be read back from the image and loaded again at any time, with the dice as they are by then, and
what comes out is what a reset gives (`Reachable.load_eq`).
-/

namespace Chip8.Machine

variable {m m' m'' : Machine}

/-- Some events take one machine to another. -/
def Evolves (m m' : Machine) : Prop :=
  ∃ events, m' = m.afterAll events

theorem Evolves.refl (m : Machine) : Evolves m m :=
  ⟨[], rfl⟩

theorem Evolves.trans (h : Evolves m m') (h' : Evolves m' m'') : Evolves m m'' := by
  obtain ⟨events, rfl⟩ := h
  obtain ⟨events', rfl⟩ := h'
  exact ⟨events ++ events', List.foldl_append.symm⟩

theorem evolves_after (m : Machine) (event : MachineEvent) : Evolves m (m.after event) :=
  ⟨[event], rfl⟩

/-- Whatever a machine keeps along single events, it keeps along all of them. -/
theorem Evolves.induction {P : Machine → Prop} (h : Evolves m m') (hm : P m)
    (hafter : ∀ m event, P m → P (m.after event)) : P m' := by
  obtain ⟨events, rfl⟩ := h
  unfold afterAll
  induction events generalizing m with
  | nil => exact hm
  | cons event rest ih => exact ih (hafter m event hm)

theorem Reachable.evolves (h : m.Reachable) (hm : Evolves m m') : m'.Reachable := by
  obtain ⟨program, base, dice, loaded, events, hload, rfl⟩ := h
  obtain ⟨more, hmore⟩ := Evolves.trans ⟨events, rfl⟩ hm
  exact ⟨program, base, dice, loaded, more, hload, hmore⟩

theorem reachable_of_load {program : List UInt8} {base : Int} {dice : Dice}
    (h : load program base dice = .ok m) :
    m.Reachable :=
  ⟨program, base, dice, m, [], h, rfl⟩

theorem evolves_runFrom (m : Machine) (ran n : Nat) : Evolves m (m.runFrom ran n).2 := by
  induction n generalizing m ran with
  | zero => exact .refl m
  | succ n ih =>
    have hfirst : Evolves m m.runInstruction.2 := m.evolves_after .runInstruction
    unfold runFrom
    generalize m.runInstruction = result at hfirst
    split
    next => exact hfirst
    next => exact hfirst
    next => exact hfirst.trans (ih _ _)

theorem evolves_run (m : Machine) (n : Nat) : Evolves m (m.run n).2 :=
  m.evolves_runFrom 0 n

/-! ## Where a machine comes from -/

/-- One machine has come from the same image as another, and has the same part of it for
its program. -/
structure SameOrigin (m m' : Machine) : Prop where
  image : m'.image = m.image
  base : m'.base = m.base
  programSize : m'.programSize = m.programSize

theorem SameOrigin.refl (m : Machine) : SameOrigin m m :=
  ⟨rfl, rfl, rfl⟩

theorem SameOrigin.trans (h : SameOrigin m m') (h' : SameOrigin m' m'') : SameOrigin m m'' :=
  ⟨h'.image.trans h.image, h'.base.trans h.base, h'.programSize.trans h.programSize⟩

theorem SameOrigin.program (h : SameOrigin m m') : m'.program = m.program := by
  unfold Machine.program
  rw [h.image, h.base, h.programSize]

/-- A reset puts together again what the image gives. -/
theorem SameOrigin.reset (h : SameOrigin m m') :
    m'.reset = create m.image m.base m.programSize m'.dice := by
  rw [← h.image, ← h.base, ← h.programSize]
  rfl

theorem sameOrigin_cycle (m : Machine) : SameOrigin m m.cycle.2 := by
  unfold cycle
  split
  · exact .refl m
  · split
    · exact .refl m
    · dsimp only
      split
      · exact ⟨rfl, rfl, rfl⟩
      · split
        · exact ⟨rfl, rfl, rfl⟩
        · exact ⟨rfl, rfl, rfl⟩
        · exact ⟨rfl, rfl, rfl⟩

/-- **No event touches the image**, or the place that has been made out for the program in it. -/
theorem sameOrigin_after (m : Machine) (event : MachineEvent) : SameOrigin m (m.after event) := by
  have hcycle := m.sameOrigin_cycle
  cases event with
  | step =>
    show SameOrigin m m.step.2
    unfold step
    generalize m.cycle = result at hcycle
    split
    · exact hcycle
    · exact hcycle
    · exact hcycle.trans ⟨rfl, rfl, rfl⟩
  | runInstruction =>
    show SameOrigin m m.runInstruction.2
    unfold runInstruction
    generalize m.cycle = result at hcycle
    split
    · exact hcycle
    · exact hcycle
    · exact hcycle
  | press code => exact ⟨rfl, rfl, rfl⟩
  | release code => exact ⟨rfl, rfl, rfl⟩
  | tick => exact ⟨rfl, rfl, rfl⟩
  | reset => exact ⟨rfl, rfl, rfl⟩

/-- Neither do any number of events. -/
theorem Evolves.sameOrigin (h : Evolves m m') : SameOrigin m m' :=
  h.induction (.refl m) fun m' event h => h.trans (m'.sameOrigin_after event)

/-! ## Loading again -/

/-- The program of a machine is the one that has been placed in its image. -/
theorem program_boot {program : List UInt8} {base : Nat} (dice : Dice)
    (h : base + program.length ≤ Memory.standardSize) :
    (boot program base dice h).program = program := by
  have himage : (boot program base dice h).image.bytes = Program.placed program base := rfl
  unfold Machine.program
  rw [himage]
  exact Program.extract_placed h

/-- Loading does not look at the dice. -/
theorem load_boot {program : List UInt8} {base : Nat}
    (h : base + program.length ≤ Memory.standardSize) (hbase : base < Memory.standardSize)
    (dice : Dice) :
    load program base dice = .ok (boot program base dice h) := by
  have hin : 0 ≤ (base : Int) ∧ (base : Int) < Memory.standardSize :=
    ⟨Int.natCast_nonneg base, Int.ofNat_lt.mpr hbase⟩
  have hcheck : Program.check program base = .ok ⟨base, h⟩ := by
    rw [Program.check, Program.checkBase, if_pos hin, Int.toNat_natCast]
    dsimp only
    rw [dif_pos h]
  rw [load, hcheck]

/-- **A program that is in a machine can be loaded again**, and the machine that comes out is the
one after a reset. -/
theorem Reachable.load_eq (h : m.Reachable) : load m.program m.base m.dice = .ok m.reset := by
  obtain ⟨program, base, dice, loaded, events, hload, hm⟩ := h
  obtain ⟨n, hfits, -, hn, rfl⟩ := load_eq_ok hload
  have hsame : SameOrigin (boot program n dice hfits) m := Evolves.sameOrigin ⟨events, hm⟩
  have hbase : m.base = n := hsame.base
  rw [hsame.program, program_boot, hbase, hsame.reset]
  exact load_boot hfits hn m.dice

end Chip8.Machine
