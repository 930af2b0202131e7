import Chip8.Proofs.Engine.Mark
import Chip8.Proofs.Machine.Halt

/-!
# Breakpoints are passed over on resumption only

A breakpoint before an instruction stops every advance that comes to it. The one exception is
the first instruction of an advance that goes on from there: `ResumedFrom` says of a sequence
of commands that the last resumption was at an address, be it by a start or by taking back
the pause that the breakpoint itself had caused. What carries the proof is the mark of the
debugger: `Explained` says that a mark means a pause or a resumption, one more command
preserves it (`Explained.concat`), and so do any number of them (`explained`). The main
result is `passes_over_only_resumed`. A start alone does not explain every breakpoint that is
passed over (`passes_over_not_started`).
-/

namespace Chip8.Engine

variable {e e₀ : Engine}

/-! ## Resumptions -/

/-- The engine pauses since the breakpoint before the instruction at an address has been hit. -/
inductive PausedBefore (e₀ : Engine) : List Command → Int → Prop
  | hit {commands : List Command} {elapsed : Elapsed} {p : Int}
      (h : (e₀.performAll commands).Hits elapsed p) :
      PausedBefore e₀ (commands ++ [.advance elapsed]) p
  | keep {commands : List Command} {c : Command} {p : Int} (h : PausedBefore e₀ commands p)
      (hc : (e₀.performAll commands).Unwatched c)
        (hpaused : (e₀.performAll (commands ++ [c])).paused = true) :
      PausedBefore e₀ (commands ++ [c]) p

/-- The last resumption was at an address, and no instruction has been executed under the
debugger since. -/
inductive ResumedFrom (e₀ : Engine) : List Command → Int → Prop
  /-- The background run has been started there. -/
  | start {commands : List Command} {c : Command} {p : Int} (h : (e₀.performAll commands).Starts c)
      (hpc : (e₀.performAll (commands ++ [c])).state.pc = p) : ResumedFrom e₀ (commands ++ [c]) p
  /-- A single step has taken back the pause at the breakpoint there, and executed nothing. -/
  | release {commands : List Command} {p : Int} (h : PausedBefore e₀ commands p)
      (hnone : ∀ j, ¬ (e₀.performAll commands).Executes .step j) :
        ResumedFrom e₀ (commands ++ [.step]) p
  | keep {commands : List Command} {c : Command} {p : Int} (h : ResumedFrom e₀ commands p)
      (hc : (e₀.performAll commands).Unwatched c) : ResumedFrom e₀ (commands ++ [c]) p

/-! ## Whole runs -/

/-- What a mark means after a sequence of commands, as long as the machine is not halted: at that
address the engine pauses at a breakpoint, or the last resumption was there. -/
def Explained (e₀ : Engine) (commands : List Command) : Prop :=
  (e₀.performAll commands).machine.halted = false → ∀ p,
    (e₀.performAll commands).debugger.resumePc = some p →
      if (e₀.performAll commands).paused then e₀.PausedBefore commands p
      else e₀.ResumedFrom commands p

/-- **One more command** leaves the mark explained. -/
theorem Explained.concat {commands : List Command} (hshared : e₀.Shared) (h : e₀.Explained commands)
    (c : Command) :
    e₀.Explained (commands ++ [c]) := by
  intro hrun p hmark
  rw [performAll_concat] at hrun hmark
  cases marks (hshared.performAll commands) hmark hrun with
  | start h hpc hpaused =>
    rw [← performAll_concat] at hpc hpaused
    rw [hpaused]
    exact .start h hpc
  | hit elapsed hc h =>
    subst hc
    have hpaused := h.after
    rw [← performAll_concat] at hpaused
    rw [hpaused]
    exact .hit h
  | keep hmark' hrun' hc hpaused =>
    have hbefore := h hrun' p hmark'
    rw [← performAll_concat] at hpaused
    rcases hpaused with hsame | ⟨rfl, hfree⟩
    · -- The pause is as it was, and so is what the mark means.
      rw [hsame]
      split at hbefore
      next hp =>
        rw [if_pos hp]
        exact .keep hbefore hc (hsame.trans hp)
      next hp =>
        rw [if_neg hp]
        exact .keep hbefore hc
    · -- A step has taken back the pause if there was one; the mark survives only if it
      -- executes nothing.
      rw [hfree]
      split at hbefore
      next =>
        refine .release hbefore ?_
        rcases hc.2.2 with hnone | ⟨⟨elapsed, hstep⟩, -⟩
        · exact hnone
        · cases hstep
      next => exact .keep hbefore hc

/-- Any number of commands do. -/
theorem Explained.append {before : List Command} (hshared : e₀.Shared) (h : e₀.Explained before)
    (commands : List Command) :
    e₀.Explained (before ++ commands) := by
  induction commands generalizing before with
  | nil =>
    rw [List.append_nil]
    exact h
  | cons c rest ih =>
    rw [List.append_cons]
    exact ih (h.concat hshared c)

/-- **A mark means a pause or a resumption**, along every sequence of commands. -/
theorem explained (hshared : e₀.Shared) (hnone : e₀.debugger.resumePc = none)
    (commands : List Command) :
    e₀.Explained commands := by
  have hstart : e₀.Explained [] := by
    intro hrun p hmark
    have hmark' : e₀.debugger.resumePc = some p := hmark
    rw [hnone] at hmark'
    cases hmark'
  exact hstart.append hshared commands

/-! ## Two sessions -/

theorem waiting_fits :
    0x200 + ([0xF0, 0x0A, 0x12, 0x02] : List UInt8).length ≤ Memory.standardSize := by
  decide

/-- An engine for a program that waits for a key and then jumps to itself. -/
def waiting : Engine :=
  create Settings.standard
    (Machine.boot [0xF0, 0x0A, 0x12, 0x02] 0x200 (Dice.cycle []) waiting_fits) false

theorem spinning_fits : 0x200 + ([0x12, 0x00] : List UInt8).length ≤ Memory.standardSize := by
  decide

/-- An engine for a program that jumps to itself. -/
def spinning : Engine :=
  create Settings.standard (Machine.boot [0x12, 0x00] 0x200 (Dice.cycle []) spinning_fits) false

/-- The time of one instruction. -/
def beat : Elapsed :=
  .nanoseconds 2000000

/-- The program waits for a key, and the breakpoint behind the wait is hit. A single step takes the
pause back; it executes nothing, and then the key comes. -/
def releasing : List Command :=
  [.add (.onAddress .atAddress 0x202), .step, .advance beat, .step, .press 0]

/-- The jump has been executed once after the start when the breakpoint before it is registered. -/
def returning : List Command :=
  [.start, .advance beat, .add (.onAddress .atAddress 0x200)]

theorem waiting_releasing :
    (waiting.performAll releasing).debugger.breakpoints = [.onAddress .atAddress 0x202] ∧
      (waiting.performAll releasing).state.pc = 0x202 ∧
      (waiting.performAll releasing).state.cycles = 1 ∧
      ((waiting.performAll releasing).perform (.advance beat)).state.cycles = 2 := by
  unfold waiting
  rw [Machine.boot_eq]
  decide +kernel

theorem spinning_started :
    (spinning.performAll [.start]).state.cycles = 0 ∧
      ((spinning.performAll [.start]).perform (.advance beat)).state.cycles = 1 := by
  unfold spinning
  rw [Machine.boot_eq]
  decide +kernel

theorem spinning_returning :
    (spinning.performAll returning).debugger.breakpoints = [.onAddress .atAddress 0x200] ∧
      (spinning.performAll returning).state.pc = 0x200 ∧
      (spinning.performAll returning).state.cycles = 1 ∧
      ((spinning.performAll returning).perform (.advance beat)).state.cycles = 2 := by
  unfold spinning
  rw [Machine.boot_eq]
  decide +kernel

/-! ## Passing over breakpoints -/

/-- The first instruction of an advance is the one at the counter. -/
theorem address_of_pc {p : Int} (h : e.state.pc = p) :
    some p = some (e.machine.afterSteps 0).state.pc :=
  congrArg some h.symm

/-- An advance that executes an instruction with an enabled breakpoint before it goes on from the
mark: the instruction is its first one. -/
theorem passes_over_marked (hshared : e.Shared) {elapsed : Elapsed} {j : Nat} {b : Breakpoint}
    (hb : b ∈ e.debugger.breakpoints) (henabled : b.enabled = true) (hkind : b.kind = .atAddress)
    (haddress : b.address = some (e.machine.afterSteps j).state.pc)
    (hexec : e.Executes (.advance elapsed) j) :
    j = 0 ∧ e.debugger.resumePc = some e.state.pc ∧ e.machine.halted = false ∧
    e.paused = false := by
  have hadvanced : Advanced e (e.perform (.advance elapsed)) := e.advanced elapsed
  cases hadvanced with
  | idle h =>
    rcases hexec with hlt | ⟨hrun, hhalt, -⟩
    · rw [h.cycles] at hlt
      omega
    · unfold Machine.halted at hrun hhalt
      rw [h.halt, hrun] at hhalt
      cases hhalt
  | unwatched hidle hactive =>
    -- The breakpoint is enabled, so the debugger is asked.
    have hsome : e.debugger.active = true := List.any_eq_true.mpr ⟨b, hb, henabled⟩
    cases hsome.symm.trans hactive
  | @watched mid n k r hidle hends hran hticks =>
    obtain ⟨hrun, hgoes⟩ := Bool.or_eq_false_iff.mp hidle
    obtain ⟨hcycles, hfails⟩ := hends.counts
    have hmid := hshared.machine_ran hran
    have hsame := hshared.machine
    have hnone : e.debugger.target.halt = none := hsame ▸ Machine.halt_of_not_halted hrun
    have hcount : (e.perform (.advance elapsed)).state.cycles = e.state.cycles + k := by
      rw [hticks.cycles]
      show mid.machine.state.cycles = e.machine.state.cycles + k
      rw [hmid, hshared.machine]
      exact hcycles
    -- An instruction that is executed is one of the `k` steps of the run, or the one that it
    -- fails on.
    have hj : j < k ∨ j = k ∧ ∃ err, r = .failed err := by
      rcases hexec with hlt | ⟨-, hhalt, heq⟩
      · left
        omega
      · refine .inr ⟨by omega, hfails hnone ?_⟩
        unfold Machine.halted at hhalt
        rw [hticks.halt, hmid] at hhalt
        exact hhalt
    rw [hsame] at haddress
    have hmarked :=
      Classical.not_not.mp fun h => hends.not_blocked hj ⟨⟨b, hb, henabled, hkind, haddress⟩, h⟩
    obtain ⟨rfl, hmark⟩ := hmarked
    refine ⟨rfl, ?_, hrun, hgoes⟩
    show e.debugger.resumePc = some e.machine.state.pc
    rw [hsame]
    exact hmark

/-- **An enabled breakpoint before an instruction is passed over on resumption only**: whatever has
been asked of an engine since it was made, an advance executes an instruction with an enabled
breakpoint before it only as its first one, and only if the last resumption was there. -/
theorem passes_over_only_resumed {settings : Settings} {m : Machine} {listener : Bool}
    {commands : List Command} {elapsed : Elapsed} {j : Nat} {b : Breakpoint}
    (h₀ : e₀ = create settings m listener) (he : e = e₀.performAll commands)
    (hb : b ∈ e.debugger.breakpoints) (henabled : b.enabled = true) (hkind : b.kind = .atAddress)
    (haddress : b.address = some (e.machine.afterSteps j).state.pc)
    (hexec : e.Executes (.advance elapsed) j) : j = 0 ∧ e₀.ResumedFrom commands e.state.pc := by
  have hshared : e₀.Shared := h₀ ▸ shared_create settings m listener
  have hthen : e.Shared := he ▸ hshared.performAll commands
  obtain ⟨hj, hmark, hrun, hgoes⟩ := passes_over_marked hthen hb henabled hkind haddress hexec
  subst h₀ he
  have hmarked := explained hshared rfl commands hrun _ hmark
  rw [if_neg (Bool.eq_false_iff.mp hgoes)] at hmarked
  exact ⟨hj, hmarked⟩

theorem passes_over_only_resumed_releasing :
    .onAddress .atAddress 0x202 ∈ (waiting.performAll releasing).debugger.breakpoints ∧
      some 0x202 = some ((waiting.performAll releasing).machine.afterSteps 0).state.pc ∧
      (waiting.performAll releasing).Executes (.advance beat) 0 ∧
      waiting.ResumedFrom releasing (waiting.performAll releasing).state.pc := by
  obtain ⟨hbreakpoints, hpc, hcycles, hnext⟩ := waiting_releasing
  have hb : .onAddress .atAddress 0x202 ∈ (waiting.performAll releasing).debugger.breakpoints := by
    rw [hbreakpoints]
    exact List.mem_singleton_self _
  have haddress := address_of_pc hpc
  have hexec : (waiting.performAll releasing).Executes (.advance beat) 0 := by
    left
    rw [hcycles, hnext]
    decide
  have hmade : waiting =
      create _ (Machine.boot [0xF0, 0x0A, 0x12, 0x02] 0x200 (Dice.cycle []) waiting_fits) _ :=
    rfl
  have hresumed := passes_over_only_resumed hmade rfl hb rfl rfl haddress hexec
  exact ⟨hb, haddress, hexec, hresumed.2⟩

/-- The last start was at an address, and no instruction has been executed since. -/
inductive StartedFrom (e₀ : Engine) : List Command → Int → Prop
  | start {commands : List Command} {c : Command} {p : Int} (h : (e₀.performAll commands).Starts c)
      (hpc : (e₀.performAll (commands ++ [c])).state.pc = p) : StartedFrom e₀ (commands ++ [c]) p
  | keep {commands : List Command} {c : Command} {p : Int} (h : StartedFrom e₀ commands p)
      (hstarts : ¬ (e₀.performAll commands).Starts c)
        (hnone : ∀ j, ¬ (e₀.performAll commands).Executes c j) :
      StartedFrom e₀ (commands ++ [c]) p

/-- What the last command has done, if the last start was at an address. -/
theorem StartedFrom.last (commands : List Command) {c : Command} {p : Int}
    (h : e₀.StartedFrom (commands ++ [c]) p) :
    (e₀.performAll commands).Starts c ∨
      e₀.StartedFrom commands p ∧ ∀ j, ¬ (e₀.performAll commands).Executes c j := by
  generalize hall : commands ++ [c] = all at h
  cases h with
  | start h hpc =>
    obtain ⟨rfl, hc⟩ := List.append_inj' hall rfl
    cases hc
    exact .inl h
  | keep h hstarts hnone =>
    obtain ⟨rfl, hc⟩ := List.append_inj' hall rfl
    cases hc
    exact .inr ⟨h, hnone⟩

/-- There is no last start among commands that start nothing. -/
theorem StartedFrom.exists_starts {commands : List Command} {p : Int}
    (h : e₀.StartedFrom commands p) :
    ∃ c ∈ commands, ∃ e : Engine, e.Starts c := by
  induction h with
  | start h => exact ⟨_, List.mem_append_right _ (List.mem_singleton_self _), _, h⟩
  | keep _ _ _ ih =>
    obtain ⟨c, hmem, hstarts⟩ := ih
    exact ⟨c, List.mem_append_left _ hmem, hstarts⟩

/-- A breakpoint is passed over without a start, and it is passed over after a start behind which it
has been come to again. -/
theorem passes_over_not_started :
    (waiting.performAll releasing).Executes (.advance beat) 0 ∧
      (waiting.performAll releasing).state.pc = 0x202 ∧
      .onAddress .atAddress 0x202 ∈ (waiting.performAll releasing).debugger.breakpoints ∧
      ¬ waiting.StartedFrom releasing 0x202 ∧
    (spinning.performAll returning).Executes (.advance beat) 0 ∧
      (spinning.performAll returning).state.pc = 0x200 ∧
      .onAddress .atAddress 0x200 ∈ (spinning.performAll returning).debugger.breakpoints ∧
      ¬ spinning.StartedFrom returning 0x200 := by
  obtain ⟨hb, hpc, hcycles, hnext⟩ := waiting_releasing
  obtain ⟨hb', hpc', hcycles', hnext'⟩ := spinning_returning
  obtain ⟨hfirst, hsecond⟩ := spinning_started
  refine ⟨.inl ?_, hpc, ?_, ?_, .inl ?_, hpc', ?_, ?_⟩
  · rw [hcycles, hnext]
    decide
  · rw [hb]
    exact List.mem_singleton_self _
  · intro h
    obtain ⟨c, hmem, e, hstarts⟩ := h.exists_starts
    -- None of the five commands starts anything.
    simp only [releasing, List.mem_cons, List.not_mem_nil, or_false] at hmem
    rcases hmem with rfl | rfl | rfl | rfl | rfl
    all_goals exact not_starts (fun hc => by cases hc) id hstarts
  · rw [hcycles', hnext']
    decide
  · rw [hb']
    exact List.mem_singleton_self _
  · intro h
    rcases StartedFrom.last [.start, .advance beat] h with hstarts | ⟨h, -⟩
    · exact not_starts (fun hc => by cases hc) id hstarts
    · rcases StartedFrom.last [.start] h with hstarts | ⟨-, hnone⟩
      · exact not_starts (fun hc => by cases hc) id hstarts
      · -- The start is there, but the advance behind it has executed an instruction.
        refine hnone 0 (.inl ?_)
        rw [hfirst, hsecond]
        decide

end Chip8.Engine
