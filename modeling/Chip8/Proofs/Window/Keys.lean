import Chip8.Proofs.Settings.Keymap
import Chip8.Proofs.Window.Refusal

/-!
# From the keyboard to the keypad

The keymap of settings is read in three places: where settings are put together, where the keypad
shows a host key for each code, and where a key event becomes a code. `keymap_agrees` says that they
agree: the bindings of the settings decide which code a host key has, the keypad shows the first
host key of each code, and an event of a host key is passed on to the engine as its code and as
nothing else (`sends_of_bound`).
-/

namespace Chip8

namespace KeyMotion

/-- Passes a code on to an engine. -/
def send (motion : KeyMotion) (e : Engine) (code : Int) : Except SlotError Unit × Engine :=
  match motion with
  | .press => e.press code
  | .release => (.ok (), e.release code)

/-- The key of the code is held down after a press and not after a release; the other keys stay as
they are. -/
theorem keys_send (motion : KeyMotion) (e : Engine) {code : Int} (h0 : 0 ≤ code) (h1 : code ≤ 0xF) :
    (motion.send e code).2.state.keys =
      e.state.keys.setIfInBounds code.toNat (motion == .press) := by
  have hrange : 0 ≤ code ∧ code < 16 := ⟨h0, by omega⟩
  cases motion with
  | press =>
    have hpress : (KeyMotion.press.send e code).2.state = (e.state.press code).2 :=
      congrArg Machine.state (e.machine_press code)
    rw [hpress]
    unfold State.press
    rw [if_pos hrange]
    dsimp only
    split
    · rfl
    · split
      · rfl
      · rfl
  | release =>
    have hrelease : (KeyMotion.release.send e code).2.state = e.state.release code :=
      congrArg Machine.state (e.machine_release code)
    rw [hrelease]
    unfold State.release
    rw [if_pos hrange]
    rfl

end KeyMotion

namespace Window

variable {w w' : Window} {event : KeyEvent} {code : Int}

/-! ## What no event touches -/

/-- The settings are the same, and so is the keymap that the keypad shows. -/
structure Kept (w w' : Window) : Prop where
  settings : w'.settings = w.settings
  keymap : w'.keypad.keymap = w.keypad.keymap

theorem Kept.trans {w'' : Window} (h : Kept w w') (h' : Kept w' w'') : Kept w w'' :=
  ⟨h'.settings.trans h.settings, h'.keymap.trans h.keymap⟩

theorem kept_takeEngine (w : Window) (e : Engine) : Kept w (w.takeEngine e) := by
  obtain ⟨log, tone, beeps, heq⟩ := w.takeEngine_leaves e
  rw [heq]
  exact ⟨rfl, rfl⟩

theorem kept_refresh (w : Window) : Kept w w.refresh.2 := by
  unfold refresh
  dsimp only
  split
  · exact ⟨rfl, rfl⟩
  · exact ⟨rfl, rfl⟩

theorem Move.kept {R : Engine → Command → Prop} (h : Move R w w') : Kept w w' := by
  cases h with
  | serve c => exact kept_takeEngine w _
  | announce c => exact ⟨(kept_takeEngine w _).settings, (kept_takeEngine w _).keymap⟩
  | refresh => exact kept_refresh w
  | beside keypad hkeymap => exact ⟨rfl, hkeymap⟩

/-- **No event** touches either. -/
theorem kept_after (w : Window) (event : WindowEvent) : Kept w (w.after event) :=
  after_induction (P := Kept w) (R := fun _ _ => True) (fun _ _ _ => trivial)
    (fun _ _ _ => trivial) ⟨rfl, rfl⟩
    (fun _ _ hmove hkept => hkept.trans hmove.kept) fun _ _ _ => ⟨rfl, rfl⟩

/-- **Any number of them** do not either. -/
theorem kept_afterAll (w : Window) (events : List WindowEvent) : Kept w (w.afterAll events) :=
  afterAll_induction (P := Kept w) ⟨rfl, rfl⟩ fun w' event _ h => h.trans (kept_after w' event)

/-- A window shows the keymap of the settings with which it has been opened. -/
theorem kept_of_create {settings : Settings} {m : Machine} {log : Ring Text}
    (h : create settings m log = .ok w) (events : List WindowEvent) :
    (w.afterAll events).settings = settings ∧
    (w.afterAll events).keypad.keymap = settings.keymap := by
  have hkept : Kept (prepare settings m log) (w.afterAll events) := by
    rw [eq_of_create h]
    exact (kept_refresh _).trans (kept_afterAll _ events)
  exact ⟨hkept.settings, hkept.keymap⟩

/-! ## Key events -/

/-- Whether an event is passed on to the engine as a code of a key, and as nothing else. -/
structure Sends (w : Window) (event : KeyEvent) (code : Int) : Prop where
  nonneg : 0 ≤ code
  le : code ≤ 0xF
  key : w.key event =
    ((event.motion.send w.engine code).1.mapError (.mishap ∘ .slot),
      { w with engine := (event.motion.send w.engine code).2 })
  keys : (w.key event).2.engine.state.keys =
    w.engine.state.keys.setIfInBounds code.toNat (event.motion == .press)

/-- An engine with nothing to tell is taken over as it is. -/
theorem takeEngine_of_silent {e : Engine} (h : e.Silent) :
    w.takeEngine e = { w with engine := e } := by
  unfold takeEngine
  rw [h.clearEvents, h.notes, h.tones]
  rfl

/-- **A bound host key** is passed on as the code that it stands for. -/
theorem sends_of_bound (hsilent : w.engine.Silent) (hsafe : w.settings.keymap.Safe)
    (hfresh : event.repeated = false)
    (hcode : w.settings.keymap.code? (Text.upper event.text) = some code) : w.Sends event code := by
  obtain ⟨h0, h1⟩ := hsafe.range hcode
  have hkeyCode : w.keyCode? event = some code := by
    unfold keyCode?
    rw [hfresh, if_neg Bool.false_ne_true, hcode]
  have hkey : w.key event =
      ((event.motion.send w.engine code).1.mapError (.mishap ∘ .slot),
        { w with engine := (event.motion.send w.engine code).2 }) := by
    unfold key
    rw [hkeyCode]
    cases hmotion : event.motion with
    | press =>
      have hquiet : (w.engine.press code).2.Silent := ⟨hsilent.notes, hsilent.tones⟩
      exact Prod.ext rfl (takeEngine_of_silent hquiet)
    | release =>
      have hquiet : (w.engine.release code).Silent := ⟨hsilent.notes, hsilent.tones⟩
      exact Prod.ext rfl (takeEngine_of_silent hquiet)
  refine ⟨h0, h1, hkey, ?_⟩
  rw [hkey]
  exact event.motion.keys_send w.engine h0 h1

/-- **Any other event** is left to others. -/
theorem key_of_unbound (hcode : w.settings.keymap.code? (Text.upper event.text) = none) :
    w.key event = (.ok (), { w with unhandled := w.unhandled ++ [event] }) := by
  have hkeyCode : w.keyCode? event = none := by
    unfold keyCode?
    rw [hcode, ite_self]
  unfold key
  rw [hkeyCode]

/-- The label of a key, from the host keys in their order. -/
theorem label_eq {p : KeypadPane} (h : p.keymap.hosts.Nodup) (code : Fin 16) :
    p.label code =
      Text.ofString (Numeral.upperHex 1 code.val ++ "\n(") ++
        (p.keymap.hosts.find? fun host => p.keymap.code? host == some (code.val : Int)).getD "-" ++
          Text.ofString ")" := by
  unfold KeypadPane.label
  rw [Keymap.hostFor?_eq h]

end Window

namespace Settings

/-- **Keyboard, settings and keypad agree.** The bindings that come of the entries of a keymap
section decide: a host key has the code to which it is bound last, or else its standard code, and
the host keys come in the order of the standard ones and then in that of their first bindings. After
whatever has been done in a window with these settings, the keypad shows for each code the first
host key that has it, or a dash, an event of a host key, unless it is a repetition, is passed on to
the engine as the code that the host key has, and an event of anything else is not passed on. -/
theorem keymap_agrees [NestingLimits] {d : Data} {s : Settings}
    (h : ofData d = .ok s ∨ ofDataOrNothing d = .ok s) :
    ∃ members bindings, readSection (d.entries?.getD []) "keymap" = .ok members ∧
      List.Forall₂ Binds members bindings ∧
      (∀ host, s.keymap.code? host = (bindings.reverse.lookup host).or
        (Keymap.standard.code? host)) ∧
      s.keymap.hosts = (Keymap.standard.hosts ++ bindings.map (·.1)).eraseDups ∧
      ∀ m log w₀, Window.create s m log = .ok w₀ → ∀ events,
        (∀ code : Fin 16, (w₀.afterAll events).keypad.label code =
          Text.ofString (Numeral.upperHex 1 code.val ++ "\n(") ++
            (s.keymap.hosts.find? fun host =>
              s.keymap.code? host == some (code.val : Int)).getD "-" ++
            Text.ofString ")") ∧
        (∀ event code, event.repeated = false → s.keymap.code? (Text.upper event.text) = some code →
          (w₀.afterAll events).Sends event code) ∧
        ∀ event, s.keymap.code? (Text.upper event.text) = none →
          (w₀.afterAll events).key event =
            (.ok (), { w₀.afterAll events with unhandled := (w₀.afterAll events).unhandled ++
              [event] }) := by
  obtain ⟨members, bindings, hmembers, hbindings, hkeymap⟩ := keymap_of_read h
  have hstandard : Keymap.standard.hosts.Nodup := by decide +kernel
  have hhosts : s.keymap.hosts = (Keymap.standard.hosts ++ bindings.map (·.1)).eraseDups := by
    rw [hkeymap, Keymap.hosts_bindAll hstandard]
  have hnodup : s.keymap.hosts.Nodup := hhosts ▸ nodup_eraseDups _
  refine ⟨members, bindings, hmembers, hbindings, fun host => ?_, hhosts,
    fun m log w₀ hcreate events => ?_⟩
  · rw [hkeymap, Keymap.code?_bindAll]
  · obtain ⟨hsettings, hshown⟩ := Window.kept_of_create hcreate events
    have hsilent := Window.silent_afterAll (Window.silent_of_create hcreate) events
    have hsafe : (w₀.afterAll events).settings.keymap.Safe := hsettings ▸ (safe_of_read h).keymap
    refine ⟨fun code => ?_, fun event code hfresh hcode => ?_, fun event hcode => ?_⟩
    · rw [Window.label_eq (hshown ▸ hnodup), hshown]
    · exact Window.sends_of_bound hsilent hsafe hfresh (hsettings ▸ hcode)
    · exact Window.key_of_unbound (hsettings ▸ hcode)

/-- A keymap section with a host key in both cases, another one that is a number, and a third for a
code that had one. -/
def rebinding : Data where
  store := #[.map [(.text "keymap", .stored 1)],
    .map [(.text "q", .int 5), (.int 5, .int 0), (.text "Q", .text "0x7"), (.text "w", .int 0)]]
  value := .stored 0

/-- The standard keymap with the bindings of this section. -/
def reboundKeymap : Keymap :=
  Keymap.standard.bindAll [("Q", 5), ("5", 0), ("Q", 7), ("W", 0)]

theorem read_rebinding :
    ∃ s, @ofData .usual rebinding = .ok s ∧ s.videoHz = 60 ∧ s.keymap = reboundKeymap := by
  have hread : ((@ofData .usual rebinding).toOption.map fun s => (s.videoHz, s.keymap)) =
      some (60, reboundKeymap) := by
    decide +kernel
  cases hdata : @ofData .usual rebinding with
  | error e =>
    rw [hdata] at hread
    cases hread
  | ok s =>
    rw [hdata] at hread
    obtain ⟨hrate, hkeymap⟩ := Prod.ext_iff.mp (Option.some.inj hread)
    exact ⟨s, rfl, hrate, hkeymap⟩

theorem keymap_agrees_rebound :
    ∃ s w, @ofData .usual rebinding = .ok s ∧
    Window.create s Window.circling (Ring.empty 500) = .ok w ∧
      (w.afterAll [.start]).keypad.label 0 = "0\n(W)" ∧
      (w.afterAll [.start]).keypad.label 4 = "4\n(-)" ∧
      (w.afterAll [.start]).keypad.label 7 = "7\n(Q)" ∧
      (w.afterAll [.start]).Sends ⟨.press, "q", false⟩ 7 ∧
      (w.afterAll [.start]).key ⟨.release, "0", true⟩ =
        (.ok (), { w.afterAll [.start] with unhandled := (w.afterAll [.start]).unhandled ++
          [⟨.release, "0", true⟩] }) := by
  obtain ⟨s, hread, hrate, hkeymap⟩ := read_rebinding
  have hcreate : Window.create s Window.circling (Ring.empty 500) =
      .ok (Window.prepare s Window.circling (Ring.empty 500)).refresh.2 :=
    Window.create_ok (by rw [hrate]; decide) (by decide) _
  obtain ⟨-, -, -, -, -, -, hwindow⟩ := @keymap_agrees .usual _ _ (.inl hread)
  obtain ⟨hlabel, hbound, hunbound⟩ := hwindow _ _ _ hcreate [.start]
  rw [hkeymap] at hlabel hbound hunbound
  refine ⟨s, _, hread, hcreate, ?_, ?_, ?_, hbound _ _ rfl (by decide +kernel),
    hunbound _ (by decide +kernel)⟩
  · rw [hlabel]
    decide +kernel
  · rw [hlabel]
    decide +kernel
  · rw [hlabel]
    decide +kernel

end Settings

end Chip8
