import Chip8.Debugger

/-!
# Runs in chunks

A run with a limit can be made in several calls with smaller limits: a call that has used up its
steps is followed by the next one, and any other end is the end of the whole. `runChunks` makes a
run so, and the main result `runChunks_eq_run` says that it comes to the same as a single call with
all the steps together: the same reason, and the same debugger with its machine, its history and its
mark. What carries the proof is that a loop which has used up its steps can be gone on with from
where it is (`loop_add`). By then a request to stop has been obeyed, so the next call has none to
forget (`stopRequested_of_stepLimit`), and the mark is looked at only by the next step, whichever
call makes it.
-/

namespace Chip8

namespace Debugger

/-- Runs for `first` steps, and as long as the steps allowed are used up, for each of the other
numbers in turn. -/
def runChunks (d : Debugger) (first : Nat) : List Nat → RunEnd × Debugger
  | [] => d.run first
  | next :: rest =>
    match d.run first with
    | (.stepLimit, d') => d'.runChunks next rest
    | result => result

/-- The end of a loop that is allowed `n` more steps: it goes on if it has used up its steps, and
has ended otherwise. -/
def loopOn (n : Nat) : RunEnd × Debugger → RunEnd × Debugger
  | (.stepLimit, d) => d.loop n
  | result => result

variable {d d' : Debugger}

/-- A loop obeys a request to stop before anything else, with or without steps left. -/
theorem loop_of_stopRequested (h : d.stopRequested = true) (n : Nat) :
    d.loop n = (.stopped, d) := by
  cases n with
  | zero => exact if_pos h
  | succ n => exact if_pos h

/-- **The step lemma**: steps that are allowed together come to the same as steps that are allowed
one part after the other. -/
theorem loop_add (d : Debugger) (m n : Nat) : d.loop (m + n) = loopOn n (d.loop m) := by
  -- Every step of the first part is made by another debugger, so it is generalized.
  induction m generalizing d with
  | zero =>
    rw [Nat.zero_add]
    by_cases hstop : d.stopRequested = true
    · rw [loop_of_stopRequested hstop, loop_of_stopRequested hstop]
      rfl
    · have hzero : d.loop 0 = (.stepLimit, d) := if_neg hstop
      rw [hzero]
      rfl
  | succ m ih =>
    rw [Nat.succ_add]
    unfold loop
    by_cases hstop : d.stopRequested = true
    · rw [if_pos hstop, if_pos hstop]
      rfl
    · rw [if_neg hstop, if_neg hstop]
      by_cases hblocked : d.blocked = true
      · rw [if_pos hblocked, if_pos hblocked]
        rfl
      · rw [if_neg hblocked, if_neg hblocked]
        rcases d.step with ⟨e | (_ | snap), d'⟩
        · rfl
        · rfl
        · dsimp only
          split
          · rfl
          · exact ih d'

/-- No request to stop is pending when the steps allowed are used up. -/
theorem stopRequested_of_stepLimit {n : Nat} (h : d.loop n = (.stepLimit, d')) :
    d'.stopRequested = false := by
  induction n generalizing d with
  | zero =>
    by_cases hstop : d.stopRequested = true
    · rw [loop_of_stopRequested hstop] at h
      cases h
    · have hzero : d.loop 0 = (.stepLimit, d) := if_neg hstop
      rw [hzero] at h
      cases h
      exact Bool.eq_false_iff.mpr hstop
  | succ n ih =>
    -- The steps are used up only by a loop that goes on behind its first step.
    unfold loop at h
    split at h
    · cases h
    · split at h
      · cases h
      · split at h
        · cases h
        · cases h
        · split at h
          · cases h
          · exact ih h

/-- Two calls, the second one made if the first has used up its steps, come to the same as one. -/
theorem run_add (d : Debugger) (m n : Nat) :
    d.run (m + n) = match d.run m with | (.stepLimit, d') => d'.run n | result => result := by
  have hadd : d.run (m + n) = loopOn n (d.run m) := loop_add _ m n
  rw [hadd]
  unfold loopOn
  split
  next d' heq =>
    -- The second call forgets a request to stop, but there is none.
    have hnone : d'.stopRequested = false := stopRequested_of_stepLimit heq
    unfold run
    rw [← hnone]
  next => rfl

/-- **Bounded chunks compose**: where the boundaries between the calls fall makes no difference to
how a run ends or to what it leaves of the debugger. -/
theorem runChunks_eq_run (d : Debugger) (first : Nat) (rest : List Nat) :
    d.runChunks first rest = d.run (first + rest.foldr (· + ·) 0) := by
  -- With one more chunk, the steps behind the first one are those of a single call by induction.
  induction rest generalizing d first with
  | nil => rfl
  | cons next rest ih =>
    rw [List.foldr_cons, run_add]
    unfold runChunks
    split
    next d' _ => exact ih d' next
    next => rfl

end Debugger

end Chip8
