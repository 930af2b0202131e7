import Chip8.Pane.Breakpoints
import Chip8.Proofs.Debugger.Run
import Mathlib.Data.List.Nodup
import Mathlib.Data.List.Perm.Basic

/-!
# Edits of the breakpoints

A breakpoint can be added, removed, or put in the place of another one. An addition looks at what is
registered, and a removal only takes away, so neither of them registers a breakpoint twice. An
update does not look: it can put a breakpoint that is registered in the place of another one
(`Collides`), and from then on there are two of it. The step lemma `nodup_follow_iff` says that this
is the only way, and `nodup_take_iff` carries it along sequences of edits.

A run that stops at a breakpoint does so because of one that is registered (`Due`,
`due_of_atBreakpoint`). The main result, `edits_register_once`, puts the two together: unless an
update collides, no breakpoint is ever registered twice, and one that is removed is gone and stops
no run. `update_collides` is what becomes of a removal behind an update that does collide.
-/

namespace Chip8

/-- Up to the order, the first place of an element is given to another one. -/
theorem perm_replace {l : List Breakpoint} {old : Breakpoint} (h : old ∈ l) (new : Breakpoint) :
    (l.replace old new).Perm (new :: l.erase old) := by
  obtain ⟨front, back, hfront, rfl, herase⟩ := List.exists_erase_eq h
  rw [herase, List.replace_append_right hfront, List.replace_cons_self]
  exact List.perm_middle

namespace Debugger

variable {d : Debugger}

/-- The debugger after a sequence of edits. -/
def followAll (d : Debugger) (edits : List BreakpointEdit) : Debugger :=
  edits.foldl follow d

/-- An edit puts a breakpoint that is registered in the place of another one. -/
def Collides (d : Debugger) : BreakpointEdit → Prop
  | .added _ => False
  | .removed _ => False
  | .updated old new => old ∈ d.breakpoints ∧ new ∈ d.breakpoints ∧ old ≠ new

/-- None of a sequence of edits does, when its turn comes. -/
def NeverCollides (d : Debugger) : List BreakpointEdit → Prop
  | [] => True
  | edit :: rest => ¬ d.Collides edit ∧ (d.follow edit).NeverCollides rest

/-! ## What is registered -/

/-- **One edit** registers nothing twice, unless it collides. -/
theorem nodup_follow_iff (h : d.breakpoints.Nodup) (edit : BreakpointEdit) :
    (d.follow edit).breakpoints.Nodup ↔ ¬ d.Collides edit := by
  cases edit with
  | added b =>
    refine iff_of_true ?_ id
    show (d.add b).breakpoints.Nodup
    unfold add
    split
    next => exact h
    next hnew =>
      have hmem : b ∉ d.breakpoints := fun hb => hnew (List.contains_iff_mem.mpr hb)
      rw [← List.concat_eq_append]
      exact h.concat hmem
  | removed b => exact iff_of_true (h.erase b) id
  | updated old new =>
    show (d.breakpoints.replace old new).Nodup ↔
      ¬ (old ∈ d.breakpoints ∧ new ∈ d.breakpoints ∧ old ≠ new)
    by_cases hold : old ∈ d.breakpoints
    · rw [(perm_replace hold new).nodup_iff, List.nodup_cons, h.mem_erase_iff]
      have hrest := h.erase old
      tauto
    · rw [List.replace_of_not_mem hold]
      exact iff_of_true h fun hcollides => hold hcollides.1

/-- **A sequence of edits** never does at any time, exactly if none of them collides. -/
theorem nodup_take_iff (h : d.breakpoints.Nodup) (edits : List BreakpointEdit) :
    (∀ k, (d.followAll (edits.take k)).breakpoints.Nodup) ↔ d.NeverCollides edits := by
  induction edits generalizing d with
  | nil =>
    refine iff_of_true (fun k => ?_) trivial
    rw [List.take_nil]
    exact h
  | cons edit rest ih =>
    constructor
    · intro hall
      have hfirst : (d.follow edit).breakpoints.Nodup := hall 1
      exact ⟨(nodup_follow_iff h edit).mp hfirst, (ih hfirst).mp fun k => hall (k + 1)⟩
    · rintro ⟨hfree, hrest⟩ k
      cases k with
      | zero => exact h
      | succ k => exact (ih ((nodup_follow_iff h edit).mpr hfree)).mpr hrest k

/-! ## What stops a run -/

/-- A breakpoint is a reason for an end of a run before its `k`-th step. -/
def Due (d : Debugger) (k : Nat) (r : RunEnd) (b : Breakpoint) : Prop :=
  b.enabled = true ∧
    match r with
    | .breakpointBefore pc => b.kind = .atAddress ∧ b.address = some pc
    | .breakpointAfter _ =>
      ∃ j snap, k = j + 1 ∧ (d.target.afterSteps j).snapshot? = some snap ∧
        b.MetBy (d.target.afterSteps j).state snap
    | _ => False

/-- A record that counts as a hit has been met by a breakpoint that is registered. -/
theorem due_of_hitAfter? {k : Nat} {snap : Snapshot} (h : d.hitAfter? k = some snap)
    (symbol : String) :
    ∃ b ∈ d.breakpoints, d.Due k (.breakpointAfter symbol) b := by
  cases k with
  | zero => cases h
  | succ j =>
    obtain ⟨hsnap, hmet⟩ := Option.filter_eq_some_iff.mp h
    obtain ⟨b, hb, henabled, hmet⟩ := of_decide_eq_true hmet
    exact ⟨b, hb, henabled, j, snap, rfl, hsnap, hmet⟩

/-- **A run stops at a breakpoint** only because of one that is registered. -/
theorem due_of_atBreakpoint {limit : Option Int} {k : Nat} {r : RunEnd}
    (h : d.endBefore limit k = some r) (hr : r.atBreakpoint = true) :
    ∃ b ∈ d.breakpoints, d.Due k r b := by
  unfold endBefore at h
  cases hhit : d.hitAfter? k with
  | some snap =>
    rw [hhit] at h
    cases h
    exact due_of_hitAfter? hhit _
  | none =>
    rw [hhit] at h
    dsimp only at h
    split at h
    next =>
      cases h
      cases hr
    next =>
      split at h
      next =>
        cases h
        cases hr
      next =>
        split at h
        next hblocked =>
          cases h
          obtain ⟨⟨b, hb, henabled, hat⟩, -⟩ := hblocked
          exact ⟨b, hb, henabled, hat⟩
        next =>
          split at h
          next =>
            cases h
            cases hr
          next =>
            cases h
            cases hr
          next => cases h

/-- Whatever run stops at a breakpoint does so because of another one than this. -/
def StopsForOthers (d : Debugger) (b : Breakpoint) : Prop :=
  ∀ limit r d', d.Returns limit (r, d') → r.atBreakpoint = true →
    ∃ b' ∈ d.breakpoints, b' ≠ b ∧ ∃ k, d.Due k r b' ∧ d' = d.endedBefore k r

theorem stopsForOthers_of_not_mem {b : Breakpoint} (h : b ∉ d.breakpoints) :
    d.StopsForOthers b := by
  intro limit r d' hreturns hr
  obtain ⟨k, hends, hd'⟩ := (returns_iff_endsAt _ d' limit r).mp hreturns
  obtain ⟨b', hb', hdue⟩ := due_of_atBreakpoint hends.1 hr
  exact ⟨b', hb', ne_of_mem_of_not_mem hb' h, k, hdue, hd'⟩

/-! ## Both together -/

/-- **A breakpoint is registered once**, at any time along the edits of a new debugger, exactly if
no update puts a registered breakpoint in the place of another one. Then a breakpoint that is
removed is not registered any more, and no run stops because of it. -/
theorem edits_register_once (target : Machine) (history : Nat) (edits : List BreakpointEdit) :
    ((∀ k, ((create target history).followAll (edits.take k)).breakpoints.Nodup) ↔
      (create target history).NeverCollides edits) ∧
    ((create target history).NeverCollides edits → ∀ b,
      b ∉ (((create target history).followAll edits).remove b).breakpoints ∧
      (((create target history).followAll edits).remove b).StopsForOthers b) := by
  have hstart : (create target history).breakpoints.Nodup := List.nodup_nil
  refine ⟨nodup_take_iff hstart edits, fun hfree b => ?_⟩
  have hnodup : ((create target history).followAll edits).breakpoints.Nodup := by
    have hall := (nodup_take_iff hstart edits).mpr hfree edits.length
    rwa [List.take_length] at hall
  have hgone : b ∉ (((create target history).followAll edits).remove b).breakpoints :=
    hnodup.not_mem_erase
  exact ⟨hgone, stopsForOthers_of_not_mem hgone⟩

/-- A machine that jumps to where it is. -/
def jumping : Machine :=
  Machine.boot [0x12, 0x00] 0x200 (Dice.cycle [])

/-- A breakpoint at the jump. -/
def atJump : Breakpoint :=
  .onAddress .atAddress 0x200

/-- The breakpoint is registered on and off, and then switched on where it is off. -/
def switchedOn : List BreakpointEdit :=
  [.added atJump, .added { atJump with enabled := false },
    .updated { atJump with enabled := false } atJump]

/-- **An update that collides** registers a breakpoint twice; it is still there when it has been
removed, and stops the machine before its first instruction. -/
theorem update_collides :
    ((create jumping 10).followAll switchedOn).breakpoints = [atJump, atJump] ∧
      atJump ∈ (((create jumping 10).followAll switchedOn).remove atJump).breakpoints ∧
      ((((create jumping 10).followAll switchedOn).remove atJump).run 3).1 =
        .breakpointBefore 0x200 := by
  decide

end Debugger

end Chip8
