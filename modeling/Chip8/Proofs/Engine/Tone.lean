import Chip8.Proofs.Engine.Session
import Mathlib.Data.List.Destutter

/-!
# What a listener hears

Every timer tick takes a sample of the tone, on if the sound timer is above zero just before it, and
every machine that is put in the place of another one adds a sample that is off. `samplesAlong` is
the stream of the samples of a sequence of commands, and `changes` are the values in it that differ
from the one before. `Hears` says of two engines that they are the same up to a listener, that they
remember the last sample of a stream, and that the second one has reported the changes of the
stream, or nothing if there is no listener. Each tick and each other machine adds its sample to the
stream (`Hears.tick`, `Hears.replace`), everything else leaves it as it is, and `Hears.performAll`
puts this together: an engine looks neither at its listener nor at what it has reported, and it
reports just the changes.
-/

namespace Chip8

/-! ## Streams of samples -/

/-- The values of a stream that differ from the one before, from an initial silence on. -/
def changes (samples : List Bool) : List Bool :=
  (samples.destutter' (· ≠ ·) false).tail

/-- One more value is kept if it differs from the last one, kept or not. -/
theorem destutter'_concat (first : Bool) (samples : List Bool) (on : Bool) :
    (samples ++ [on]).destutter' (· ≠ ·) first =
      samples.destutter' (· ≠ ·) first ++ if on = samples.getLastD first then [] else [on] := by
  induction samples generalizing first with
  | nil =>
    show [on].destutter' (· ≠ ·) first = [first] ++ if on = first then [] else [on]
    rw [List.destutter'_singleton]
    by_cases h : on = first
    · rw [if_pos h, if_neg fun hne => hne h.symm, List.append_nil]
    · rw [if_neg h, if_pos fun heq => h heq.symm]
      rfl
  | cons next rest ih =>
    rw [List.cons_append, List.getLastD_cons]
    by_cases h : first ≠ next
    · rw [List.destutter'_cons_pos _ h, List.destutter'_cons_pos _ h, ih, List.cons_append]
    · obtain rfl : first = next := not_ne_iff.mp h
      rw [List.destutter'_cons_neg _ h, List.destutter'_cons_neg _ h, ih]

theorem cons_changes (samples : List Bool) :
    false :: changes samples = samples.destutter' (· ≠ ·) false := by
  have hhead : ∀ first : Bool, ∃ rest, samples.destutter' (· ≠ ·) first = first :: rest := by
    intro first
    induction samples with
    | nil => exact ⟨[], rfl⟩
    | cons next rest ih =>
      by_cases h : first ≠ next
      · exact ⟨_, List.destutter'_cons_pos _ h⟩
      · rw [List.destutter'_cons_neg _ h]
        exact ih
  obtain ⟨rest, hrest⟩ := hhead false
  unfold changes
  rw [hrest]
  rfl

/-- **Changes alternate**, beginning with the tone coming on. -/
theorem isChain_changes (samples : List Bool) : (false :: changes samples).IsChain (· ≠ ·) := by
  rw [cons_changes]
  exact List.isChain_destutter' _ samples false

theorem changes_concat (samples : List Bool) (on : Bool) :
    changes (samples ++ [on]) = changes samples ++ if on = samples.getLastD false then []
      else [on] := by
  have hconcat := destutter'_concat false samples on
  rw [← cons_changes, ← cons_changes, List.cons_append] at hconcat
  exact List.tail_eq_of_cons_eq hconcat

/-- The samples that a number of ticks of a machine take. -/
def Machine.soundings (m : Machine) : Nat → List Bool
  | 0 => []
  | n + 1 => m.sounding :: m.tick.soundings n

namespace Engine

/-- The samples that a span of time takes: none if its instructions come to grief, to a halt or to
a breakpoint. -/
def samplesDuring (e : Engine) (span : Nat) : List Bool :=
  match (e.carried span).runCycles (e.budget span) with
  | (.error _, _) => []
  | (.ok (), mid) => if mid.idle then [] else mid.machine.soundings (e.beats span)

/-- The samples that a command takes: one for every tick, and one that is off for another
machine. -/
def samples (e : Engine) : Command → List Bool
  | .advance elapsed =>
    if e.idle then [] else
      match elapsed.get with
      | .error _ => []
      | .ok span => e.samplesDuring span
  | .load program => if (e.load program).1 = .ok () then [false] else []
  | .loadFile files path => if (e.loadFile files path).1 = .ok () then [false] else []
  | .reset => [false]
  | _ => []

theorem samples_advance (e : Engine) (elapsed : Elapsed) :
    e.samples (.advance elapsed) = if e.idle then [] else
      match elapsed.get with
      | .error _ => []
      | .ok span => e.samplesDuring span :=
  rfl

/-- The samples of a sequence of commands. -/
def samplesAlong (e : Engine) : List Command → List Bool
  | [] => []
  | c :: rest => e.samples c ++ (e.perform c).samplesAlong rest

/-! ## Engines that differ in their listener -/

variable {listener : Bool} {stream : List Bool} {e e' : Engine}

/-- The engine with a listener or without one, and with other changes of the tone reported. -/
def hearing (e : Engine) (listener : Bool) (tones : List Bool) : Engine :=
  { e with listener := listener, tones := tones }

/-- What is reported of a stream of samples. -/
def reports (listener : Bool) (stream : List Bool) : List Bool :=
  if listener then changes stream else []

/-- The second engine is the first one up to the listener, and it has reported the changes of a
stream, of which the engines remember the last sample. -/
structure Hears (listener : Bool) (stream : List Bool) (e e' : Engine) : Prop where
  eq : e' = e.hearing listener (reports listener stream)
  toneOn : e.toneOn = stream.getLastD false

/-- A change that looks neither at the listener nor at what has been reported, and leaves the
tone alone. -/
theorem Hears.of_eq {f : Engine → Engine} (h : Hears listener stream e e')
    (hf : ∀ tones, f (e.hearing listener tones) = (f e).hearing listener tones)
    (htone : (f e).toneOn = e.toneOn) :
    Hears listener stream (f e) (f e') :=
  ⟨by rw [h.eq, hf], htone.trans h.toneOn⟩

theorem Hears.idle (h : Hears listener stream e e') : e'.idle = e.idle := by
  rw [h.eq]
  rfl

theorem Hears.tell (h : Hears listener stream e e') (notes : List Note) :
    Hears listener stream (e.tell notes) (e'.tell notes) :=
  h.of_eq (f := (·.tell notes)) (fun _ => rfl) rfl

theorem Hears.publish (h : Hears listener stream e e') :
    Hears listener stream e.publish e'.publish :=
  h.of_eq (f := Engine.publish) (fun _ => rfl) rfl

theorem reports_concat (listener : Bool) (stream : List Bool) (on : Bool) :
    reports listener (stream ++ [on]) =
      reports listener stream ++ if listener && on != stream.getLastD false then [on] else [] := by
  cases listener with
  | false => rfl
  | true =>
    show changes (stream ++ [on]) = changes stream ++ if on !=
      stream.getLastD false then [on] else []
    rw [changes_concat]
    by_cases hsame : on = stream.getLastD false
    · rw [if_pos hsame, bne, beq_iff_eq.mpr hsame]
      rfl
    · rw [if_neg hsame, if_pos (bne_iff_ne.mpr hsame)]

/-! ## Instructions and ticks -/

/-- What an instruction fails with has nothing to do with the tone. -/
theorem handle_hearing (e : Engine) (tones : List Bool) (err : CycleError) :
    (e.hearing listener tones).handle err =
      ((e.handle err).1, (e.handle err).2.hearing listener tones) := by
  cases err with
  | fault f => rfl
  | mishap m => rfl
  | halted cause => rfl

/-- Neither have the instructions themselves. -/
theorem runCycles_hearing (e : Engine) (tones : List Bool) (n : Nat) :
    (e.hearing listener tones).runCycles n =
      ((e.runCycles n).1, (e.runCycles n).2.hearing listener tones) := by
  have hdebugger : (e.hearing listener tones).debugger = e.debugger := rfl
  have hmachine : (e.hearing listener tones).machine = e.machine := rfl
  unfold runCycles
  rw [hdebugger, hmachine]
  split
  next =>
    generalize e.debugger.run n = result
    split
    next err d => exact handle_hearing { e with debugger := d } tones err
    next => rfl
  next =>
    generalize e.machine.run n = result
    split
    next err m => exact handle_hearing (e.mapMachine fun _ => m) tones err
    next => rfl

theorem handle_toneOn (e : Engine) (err : CycleError) : (e.handle err).2.toneOn = e.toneOn := by
  obtain ⟨lastError, notes, hleft⟩ := e.handle_leaves err
  rw [hleft]

theorem runCycles_toneOn (e : Engine) (n : Nat) : (e.runCycles n).2.toneOn = e.toneOn := by
  unfold runCycles
  split
  · split
    · exact handle_toneOn _ _
    · rfl
  · split
    · exact handle_toneOn _ _
    · rfl

/-- **A tick** takes one sample. -/
theorem Hears.tick (h : Hears listener stream e e') :
    Hears listener (stream ++ [e.machine.sounding]) e.tick e'.tick := by
  have htone : e.tick.toneOn = e.machine.sounding := by rw [tick_eq]
  refine ⟨?_, htone.trans List.getLastD_concat.symm⟩
  have hreported : (e.hearing listener (reports listener stream)).reported =
      if listener && e.machine.sounding != stream.getLastD false then
        [e.machine.sounding] else [] := by
    rw [← h.toneOn]
    rfl
  rw [h.eq, tick_eq, tick_eq, hreported, reports_concat]
  rfl

/-- Any number of ticks take the samples of the machine. -/
theorem Hears.ticks (h : Hears listener stream e e') (n : Nat) :
    Hears listener (stream ++ e.machine.soundings n) (e.ticks n) (e'.ticks n) := by
  induction n generalizing stream e e' with
  | zero =>
    show Hears listener (stream ++ []) e e'
    rwa [List.append_nil]
  | succ n ih =>
    have hrest := ih h.tick
    rw [machine_tick, List.append_assoc] at hrest
    exact hrest

/-! ## Commands -/

/-- A span of time. -/
theorem Hears.pass (h : Hears listener stream e e') (span : Nat) :
    (e'.pass span).1 = (e.pass span).1 ∧
      Hears listener (stream ++ e.samplesDuring span) (e.pass span).2 (e'.pass span).2 := by
  have hbudget : e'.budget span = e.budget span := by
    rw [h.eq]
    rfl
  have hbeats : e'.beats span = e.beats span := by
    rw [h.eq]
    rfl
  have hcarried : Hears listener stream (e.carried span) (e'.carried span) :=
    h.of_eq (f := (·.carried span)) (fun _ => rfl) rfl
  have hrun : (e'.carried span).runCycles (e.budget span) =
      (((e.carried span).runCycles (e.budget span)).1,
        ((e.carried span).runCycles (e.budget span)).2.hearing listener
          (reports listener stream)) := by
    rw [hcarried.eq, runCycles_hearing]
  have htone := runCycles_toneOn (e.carried span) (e.budget span)
  unfold samplesDuring
  rw [pass_eq, pass_eq, hbudget, hbeats, hrun]
  generalize (e.carried span).runCycles (e.budget span) = result at htone
  obtain ⟨outcome, mid⟩ := result
  have hmid : Hears listener stream mid (mid.hearing listener (reports listener stream)) :=
    ⟨rfl, htone.trans hcarried.toneOn⟩
  cases outcome with
  | error err =>
    dsimp only
    rw [List.append_nil]
    exact ⟨rfl, hmid⟩
  | ok done =>
    dsimp only
    rw [hmid.idle]
    split
    · rw [List.append_nil]
      exact ⟨rfl, hmid⟩
    · exact ⟨rfl, hmid.ticks _⟩

/-- **An advance** takes the samples of its ticks. -/
theorem Hears.advance (h : Hears listener stream e e') (elapsed : Elapsed) :
    (e'.advance elapsed).1 = (e.advance elapsed).1 ∧
      Hears listener (stream ++ e.samples (.advance elapsed)) (e.advance elapsed).2
        (e'.advance elapsed).2 := by
  unfold Engine.advance
  rw [samples_advance, h.idle]
  split
  · rw [List.append_nil]
    refine ⟨?_, h.publish⟩
    rw [h.eq]
    rfl
  · cases elapsed.get with
    | error err =>
      dsimp only
      rw [List.append_nil]
      exact ⟨rfl, h⟩
    | ok span =>
      obtain ⟨hanswer, hpass⟩ := h.pass span
      dsimp only
      generalize e'.pass span = result' at hanswer hpass
      generalize e.pass span = result at hanswer hpass
      obtain ⟨answer', left'⟩ := result'
      obtain ⟨answer, left⟩ := result
      dsimp only at hanswer hpass
      subst hanswer
      cases answer' with
      | error err => exact ⟨rfl, hpass⟩
      | ok done =>
        refine ⟨?_, hpass.publish⟩
        rw [hpass.eq]
        rfl

theorem step_hearing (e : Engine) (tones : List Bool) :
    (e.hearing listener tones).step = (e.step.1, e.step.2.hearing listener tones) := by
  have hmachine : { e.hearing listener tones with paused := false }.machine =
      { e with paused := false }.machine := rfl
  have hdebugger : (e.hearing listener tones).debugger = e.debugger := rfl
  unfold step
  dsimp only
  rw [hmachine, hdebugger]
  split
  · rfl
  · generalize e.debugger.step = result
    obtain ⟨answer, d⟩ := result
    cases answer with
    | ok record => rfl
    | error err =>
      cases err with
      | fault f => rfl
      | mishap m => rfl
      | halted cause => rfl

theorem Hears.step (h : Hears listener stream e e') :
    e'.step.1 = e.step.1 ∧ Hears listener stream e.step.2 e'.step.2 := by
  have htone : e.step.2.toneOn = e.toneOn := by
    obtain ⟨d, lastError, pending, notes, heq, -⟩ := e.step_leaves
    rw [heq]
  have hstep : e'.step = (e.step.1, e.step.2.hearing listener (reports listener stream)) := by
    rw [h.eq, step_hearing]
  rw [hstep]
  exact ⟨rfl, rfl, htone.trans h.toneOn⟩

theorem Hears.start (h : Hears listener stream e e') : Hears listener stream e.start e'.start := by
  refine h.of_eq (f := Engine.start) (fun tones => ?_) ?_
  · have hrunning : (e.hearing listener tones).running = e.running := rfl
    unfold Engine.start
    rw [hrunning]
    split
    · rfl
    · rfl
  · unfold Engine.start
    split
    · rfl
    · rfl

theorem Hears.stop (h : Hears listener stream e e') : Hears listener stream e.stop e'.stop := by
  refine h.of_eq (f := Engine.stop) (fun tones => ?_) ?_
  · have hbackground : (e.hearing listener tones).background = e.background := rfl
    unfold Engine.stop
    rw [hbackground]
    split
    · rfl
    · rfl
  · obtain ⟨notes, hstop⟩ := e.stop_eq
    rw [hstop]

/-- **Another machine** adds a sample that is off. -/
theorem Hears.replace (h : Hears listener stream e e') (loaded : Option Machine) :
    Hears listener (stream ++ [false]) (e.replace loaded) (e'.replace loaded) := by
  have hstop := h.stop
  have hrunning : e'.running = e.running := by
    rw [h.eq]
    rfl
  have htone : e'.toneOn = stream.getLastD false := by
    rw [h.eq]
    exact h.toneOn
  have htold : Hears listener (stream ++ [false])
      (if e.toneOn then (e.attached loaded).report [false] else e.attached loaded)
      (if e'.toneOn then (e'.attached loaded).report [false] else e'.attached loaded) := by
    have hattached : e'.attached loaded =
        (e.attached loaded).hearing listener (reports listener stream) := by
      unfold attached
      rw [hstop.eq]
      rfl
    have hlistener : e'.stop.listener = listener := by rw [hstop.eq]; rfl
    have htones : e'.stop.tones = reports listener stream := by rw [hstop.eq]; rfl
    rw [told_eq, told_eq, hattached, hlistener, htones, htone]
    refine ⟨?_, List.getLastD_concat.symm⟩
    rw [reports_concat, Bool.false_bne, Bool.and_comm]
    rfl
  rw [replace_eq_attached, replace_eq_attached, hrunning]
  dsimp only
  split
  · exact htold.start
  · exact htold

/-- Loading adds that sample if there is a machine to be put in place. -/
theorem Hears.takeLoaded (h : Hears listener stream e e')
    (loaded : Int → Dice → List Note × Except LoadingError Machine) :
    (e'.takeLoaded (loaded e'.base e'.machine.dice)).1 =
      (e.takeLoaded (loaded e.base e.machine.dice)).1 ∧
      Hears listener
        (stream ++ if (e.takeLoaded (loaded e.base e.machine.dice)).1 = .ok () then [false] else [])
        (e.takeLoaded (loaded e.base e.machine.dice)).2
          (e'.takeLoaded (loaded e'.base e'.machine.dice)).2 := by
  have hloaded : loaded e'.base e'.machine.dice = loaded e.base e.machine.dice := by
    rw [h.eq]
    rfl
  rw [hloaded]
  obtain ⟨notes, result⟩ := loaded e.base e.machine.dice
  cases result with
  | error err =>
    have hsilent : (e.takeLoaded (notes, .error err)).1 ≠ .ok () := fun heq => by cases heq
    rw [if_neg hsilent, List.append_nil]
    exact ⟨rfl, h.tell notes⟩
  | ok m => exact ⟨rfl, (h.tell notes).replace (some m)⟩

/-- **Every command** gives the same with a listener as without one, and adds the samples that
it takes. -/
theorem Hears.perform (h : Hears listener stream e e') (c : Command) :
    e'.reply (.command c) = e.reply (.command c) ∧
      Hears listener (stream ++ e.samples c) (e.perform c) (e'.perform c) := by
  -- The commands that take no samples leave the stream as it is.
  have hsilent : ∀ {e e' : Engine}, Hears listener stream e e' →
      Hears listener (stream ++ []) e e' := by
    intro e e' h
    rwa [List.append_nil]
  cases c with
  | advance elapsed =>
    obtain ⟨hanswer, hadvance⟩ := h.advance elapsed
    exact ⟨congrArg Reply.advanced hanswer, hadvance⟩
  | step =>
    obtain ⟨hanswer, hstep⟩ := h.step
    exact ⟨congrArg Reply.stepped hanswer, hsilent hstep⟩
  | start => exact ⟨rfl, hsilent h.start⟩
  | stop => exact ⟨rfl, hsilent h.stop⟩
  | load program =>
    obtain ⟨hanswer, hload⟩ := h.takeLoaded (Loading.fromBytes program)
    exact ⟨congrArg Reply.loaded hanswer, hload⟩
  | loadFile files path =>
    obtain ⟨hanswer, hload⟩ := h.takeLoaded (Loading.fromFile files path)
    exact ⟨congrArg Reply.loaded hanswer, hload⟩
  | reset => exact ⟨rfl, (h.replace none).tell [.resetCompleted]⟩
  | press code =>
    refine ⟨?_, hsilent (h.of_eq (f := fun e => (e.press code).2) (fun _ => rfl) rfl)⟩
    show Reply.pressed (e'.press code).1 = Reply.pressed (e.press code).1
    rw [h.eq]
    rfl
  | release code => exact ⟨rfl, hsilent (h.of_eq (f := (·.release code)) (fun _ => rfl) rfl)⟩
  | add b => exact ⟨rfl, hsilent (h.of_eq (f := (·.mapDebugger (·.add b))) (fun _ => rfl) rfl)⟩
  | update old new =>
    exact ⟨rfl, hsilent (h.of_eq (f := (·.mapDebugger (·.update old new))) (fun _ => rfl) rfl)⟩
  | remove b =>
    exact ⟨rfl, hsilent (h.of_eq (f := (·.mapDebugger (·.remove b))) (fun _ => rfl) rfl)⟩
  | finish =>
    refine ⟨rfl, hsilent ?_⟩
    show Hears listener stream (if e.running then { e with background := .ended } else e)
      (if e'.running then { e' with background := .ended } else e')
    have hrunning : e'.running = e.running := by
      rw [h.eq]
      rfl
    rw [hrunning]
    split
    · exact h.of_eq (f := fun e => { e with background := .ended }) (fun _ => rfl) rfl
    · exact h

/-- **Every sequence of commands.** -/
theorem Hears.performAll (h : Hears listener stream e e') (commands : List Command) :
    e'.replies (commands.map .command) = e.replies (commands.map .command) ∧
      Hears listener (stream ++ e.samplesAlong commands) (e.performAll commands)
      (e'.performAll commands) := by
  induction commands generalizing stream e e' with
  | nil =>
    show [] = [] ∧ Hears listener (stream ++ []) e e'
    rw [List.append_nil]
    exact ⟨rfl, h⟩
  | cons c rest ih =>
    obtain ⟨hreply, hfirst⟩ := h.perform c
    obtain ⟨hreplies, hrest⟩ := ih hfirst
    rw [List.append_assoc] at hrest
    refine ⟨?_, hrest⟩
    show e'.reply (.command c) :: (e'.perform c).replies (rest.map .command) =
      e.reply (.command c) :: (e.perform c).replies (rest.map .command)
    rw [hreply, hreplies]

end Engine

end Chip8
