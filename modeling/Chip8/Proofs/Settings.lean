import Chip8.Proofs.Data
import Chip8.Settings.Reader
import Chip8.Window

/-!
# Settings that have been accepted

Each reader checks what it reads, so what comes out of reading settings is as it should be
(`Settings.Safe`): the rates and the scale are positive, the base address lies in memory, every host
key stands for a key, and the host keys of the standard keymap still stand for one. If data is
refused, the error can be explained, as long as it does not show data that is too deep to be
written. `Yields` says both of one reader; it passes through `do` (`Yields.bind`), and there is one
lemma for each reader. `ofData_safe` puts them together, and `ofData_nested_unexplained` shows that
the depth matters.
-/

namespace Chip8

/-! ## Errors that are explained -/

namespace Data

/-- Whether data that is too deep to be written lies within data. -/
def HoldsDeep [NestingLimits] (d : Data) : Prop :=
  ∃ inner, d.Holds inner ∧ inner.Deep

end Data

namespace SettingsError

variable [NestingLimits]

/-- Whether an error is explained, or would show what is too deep to be written. -/
def Excused (d : Data) (e : SettingsError) : Prop :=
  e.isExplained = true ∨ d.HoldsDeep

variable {d inner : Data}

theorem isExplained_of_wording {e : SettingsError} (h : e.wording ≠ .error .tooDeep) :
    e.isExplained = true := by
  unfold isExplained
  split
  next hdeep => exact absurd hdeep h
  next => rfl

/-- What shows data with some words in front of it is explained unless the data is deep. -/
theorem excused_of_plain {e : SettingsError} {words : Text → Text} (hinner : d.Holds inner)
    (h : e.wording = inner.plain.map words) : e.Excused d := by
  by_cases hdeep : inner.plain = .error .tooDeep
  · exact .inr ⟨inner, hinner, Data.deep_of_plain hdeep⟩
  · refine .inl (isExplained_of_wording fun hwording => hdeep ?_)
    rw [h] at hwording
    exact error_of_map hwording

theorem excused_badCode (hinner : d.Holds inner) (code : Int) : (badCode inner code).Excused d := by
  by_cases hdeep : inner.plain = .error .tooDeep
  · exact .inr ⟨inner, hinner, Data.deep_of_plain hdeep⟩
  · refine .inl (isExplained_of_wording fun hwording => ?_)
    -- The name comes first, then the code, which is no collection.
    rcases error_of_bind hwording with hname | ⟨name, -, hwording⟩
    · exact hdeep hname
    · rcases error_of_bind hwording with hcode | ⟨shown, -, hwording⟩
      · exact Data.atom_ne_tooDeep _ hcode
      · cases hwording

theorem excused_unwritable {e : WritingError} (hinner : d.Holds inner)
    (h : inner.plain = .error e) :
    (unwritable e).Excused d := by
  cases e with
  | tooLong => exact .inl rfl
  | tooDeep => exact .inr ⟨inner, hinner, Data.deep_of_plain h⟩

theorem isExplained_notPositive (name : String) (n : Int) :
    (notPositive name n).isExplained = true := by
  refine isExplained_of_wording fun h => ?_
  rcases error_of_bind (error_of_map h) with hatom | ⟨shown, -, h⟩
  · exact Data.atom_ne_tooDeep _ hatom
  · cases h

end SettingsError

namespace Settings

variable {α β : Type} {d inner : Data} {post : α → Prop} {entries : Entries}

/-- What reading a part of data comes to: something that is as it should be, or an error that
is excused. -/
def Yields [NestingLimits] (d : Data) (post : α → Prop) : Except SettingsError α → Prop
  | .ok a => post a
  | .error e => e.Excused d

theorem Yields.bind [NestingLimits] {post' : β → Prop} {x : Except SettingsError α}
    {f : α → Except SettingsError β} (h : Yields d post x)
    (hf : ∀ a, post a → Yields d post' (f a)) : Yields d post' (x >>= f) := by
  cases x with
  | error e => exact h
  | ok a => exact hf a h

/-- Whether the keys and values of entries lie within data. -/
def Inside (d : Data) (entries : Entries) : Prop :=
  ∀ entry ∈ entries, d.Holds entry.1 ∧ d.Holds entry.2

theorem Inside.lookup {key : String} (h : Inside d entries)
    (hlookup : Data.lookup entries key = some inner) :
    d.Holds inner := by
  obtain ⟨host, hentry⟩ := Data.mem_of_lookup hlookup
  exact (h _ hentry).2

/-! ## The readers -/

section Readers

variable [NestingLimits]

theorem yields_readInt (h : d.Holds inner) : Yields d (fun _ => True) (readInt inner) := by
  unfold readInt
  split
  · trivial
  · unfold readNumeral
    cases Numeral.read _ _ with
    | ok n => trivial
    | error e => exact .inl rfl
  · exact SettingsError.excused_of_plain h rfl

theorem yields_readIntAt (h : Inside d entries) (name : String) (standard : Int) :
    Yields d (fun _ => True) (readIntAt entries name standard) := by
  unfold readIntAt
  split
  next hlookup => exact yields_readInt (h.lookup hlookup)
  next => trivial

theorem yields_readPositive (h : Inside d entries) (name : String) (standard : Int) :
    Yields d (1 ≤ ·) (readPositive entries name standard) := by
  refine (yields_readIntAt h name standard).bind fun n _ => ?_
  split
  next hpos => exact hpos
  next => exact .inl (SettingsError.isExplained_notPositive name n)

theorem yields_readBase (h : Inside d entries) (standard : Int) :
    Yields d (fun base => 0 ≤ base ∧ base ≤ 0xFFF) (readBase entries standard) := by
  refine (yields_readIntAt h "base" standard).bind fun n _ => ?_
  unfold Program.checkBase
  by_cases hbase : 0 ≤ n ∧ n < Memory.standardSize
  · rw [if_pos hbase]
    have hlt : n < 0x1000 := hbase.2
    show 0 ≤ (n.toNat : Int) ∧ (n.toNat : Int) ≤ 0xFFF
    omega
  · rw [if_neg hbase]
    exact .inl rfl

theorem yields_readSection (h : Inside d entries) (name : String) :
    Yields d (Inside d) (readSection entries name) := by
  have hnil : Inside d [] := fun _ hmem => by cases hmem
  unfold readSection
  split
  next => exact hnil
  next inner hlookup =>
    split
    next => exact hnil
    next =>
      split
      next members hmembers => exact fun entry hentry => (h.lookup hlookup).entry hmembers hentry
      next => exact .inl rfl

theorem yields_readParts {r g b : Data} (h : d.Holds inner) (hr : d.Holds r) (hg : d.Holds g)
    (hb : d.Holds b) :
    Yields d (fun _ => True) (readParts inner r g b) := by
  refine (yields_readInt hr).bind fun red _ => (yields_readInt hg).bind fun green _ =>
    (yields_readInt hb).bind fun blue _ => ?_
  split
  · trivial
  · exact SettingsError.excused_of_plain h rfl

theorem yields_readNumeral (base : Nat) (t : Text) :
    Yields d (fun _ => True) (readNumeral base t) := by
  unfold readNumeral
  cases Numeral.read base t with
  | ok n => trivial
  | error e => exact .inl rfl

theorem yields_readColor (h : d.Holds inner) : Yields d (fun _ => True) (readColor inner) := by
  unfold readColor
  split
  next =>
    exact (yields_readNumeral 16 _).bind fun red _ => (yields_readNumeral 16 _).bind fun green _ =>
      (yields_readNumeral 16 _).bind fun blue _ => trivial
  next r g b hitems _ =>
    exact yields_readParts h (h.item hitems (by simp)) (h.item hitems (by simp))
      (h.item hitems (by simp))
  next => exact SettingsError.excused_of_plain h rfl

theorem yields_readColorAt (h : Inside d entries) (name : String) (standard : Color) :
    Yields d (fun _ => True) (readColorAt entries name standard) := by
  unfold readColorAt
  split
  next hlookup => exact yields_readColor (h.lookup hlookup)
  next => trivial

end Readers

end Settings

/-! ## Keymaps -/

namespace Keymap

/-- Whether all host keys of a keymap stand for keys, those of the standard one among them. -/
structure Safe (keymap : Keymap) : Prop where
  codes : ∀ entry ∈ keymap, 0 ≤ entry.2 ∧ entry.2 ≤ 0xF
  hosts : ∀ entry ∈ standard, (keymap.code? entry.1).isSome = true

theorem safe_standard : standard.Safe where
  codes := by decide
  hosts := by decide +kernel

/-- A binding has the codes of before and the new one. -/
theorem forall_mem_bind {p : Int → Prop} {keymap : Keymap} (h : ∀ entry ∈ keymap, p entry.2)
    (host : Text) {code : Int} (hcode : p code) : ∀ entry ∈ keymap.bind host code, p entry.2 := by
  induction keymap with
  | nil => simpa [bind] using hcode
  | cons first rest ih =>
    obtain ⟨hfirst, hrest⟩ := List.forall_mem_cons.mp h
    unfold bind
    split
    · exact List.forall_mem_cons.mpr ⟨hcode, hrest⟩
    · exact List.forall_mem_cons.mpr ⟨hfirst, ih hrest⟩

/-- A binding takes no host key away. -/
theorem code?_bind_isSome {keymap : Keymap} {host' : Text} (h : (keymap.code? host').isSome = true)
    (host : Text) (code : Int) : ((keymap.bind host code).code? host').isSome = true := by
  induction keymap with
  | nil => cases h
  | cons first rest ih =>
    obtain ⟨known, c⟩ := first
    unfold code? at h ih ⊢
    unfold bind
    split
    next =>
      rw [List.lookup_cons] at h ⊢
      split
      · rfl
      next hne =>
        rw [hne] at h
        exact h
    next =>
      rw [List.lookup_cons] at h ⊢
      split
      · rfl
      next hne =>
        rw [hne] at h
        exact ih h

theorem Safe.bind {keymap : Keymap} (h : keymap.Safe) (host : Text) {code : Int} (h0 : 0 ≤ code)
    (h1 : code ≤ 0xF) :
    (keymap.bind host code).Safe where
  codes := forall_mem_bind (p := fun code => 0 ≤ code ∧ code ≤ 0xF) h.codes host ⟨h0, h1⟩
  hosts entry hentry := code?_bind_isSome (h.hosts entry hentry) host code

end Keymap

namespace Settings

variable {d : Data} {entries : Entries}

theorem yields_bindKeys [NestingLimits] {keymap : Keymap} (hkeymap : keymap.Safe)
    (h : Inside d entries) :
    Yields d Keymap.Safe (bindKeys keymap entries) := by
  induction entries generalizing keymap with
  | nil => exact hkeymap
  | cons entry rest ih =>
    obtain ⟨host, given⟩ := entry
    obtain ⟨hentry, hrest⟩ := List.forall_mem_cons.mp h
    have hhost : d.Holds host := hentry.1
    have hcode : d.Holds given := hentry.2
    refine (yields_readInt hcode).bind fun code _ => ?_
    split
    next hrange =>
      split
      next name _ => exact ih (hkeymap.bind _ hrange.1 hrange.2) hrest
      next e hname => exact SettingsError.excused_unwritable hhost hname
    next => exact SettingsError.excused_badCode hhost code

/-! ## Settings as a whole -/

/-- What settings must be for a machine to run with them and to be shown. -/
structure Safe (s : Settings) : Prop where
  clockHz : 1 ≤ s.clockHz
  timerHz : 1 ≤ s.timerHz
  videoHz : 1 ≤ s.videoHz
  scale : 1 ≤ s.scale
  base_nonneg : 0 ≤ s.base
  base_le : s.base ≤ 0xFFF
  keymap : s.keymap.Safe

theorem yields_ofEntries [NestingLimits] (h : Inside d entries) :
    Yields d Safe (ofEntries entries) := by
  refine (yields_readPositive h _ _).bind fun clockHz hclock =>
    (yields_readPositive h _ _).bind fun timerHz htimer =>
    (yields_readPositive h _ _).bind fun videoHz hvideo =>
    (yields_readBase h _).bind fun base hbase =>
    (yields_readPositive h _ _).bind fun scale hscale =>
    (yields_readSection h _).bind fun display hdisplay =>
    (yields_readColorAt hdisplay _ _).bind fun foreground _ =>
    (yields_readColorAt hdisplay _ _).bind fun background _ =>
    (yields_readSection h _).bind fun keys hkeys =>
    (yields_bindKeys Keymap.safe_standard hkeys).bind fun keymap hkeymap => ?_
  exact ⟨hclock, htimer, hvideo, hscale, hbase.1, hbase.2, hkeymap⟩

theorem yields_ofData [NestingLimits] (d : Data) : Yields d Safe (ofData d) := by
  unfold ofData
  split
  next entries hentries =>
    exact yields_ofEntries fun entry hentry => Data.Holds.itself.entry hentries hentry
  next => exact .inl rfl

namespace Safe

variable {s : Settings}

/-- A program is never refused for its base address. -/
theorem load_ne_badBase (h : s.Safe) (program : List UInt8) (dice : Dice) (base : Int) :
    Machine.load program s.base dice ≠ .error (.badBase base) := by
  have hbase : 0 ≤ s.base ∧ s.base < Memory.standardSize :=
    ⟨h.base_nonneg, Int.lt_of_le_of_lt h.base_le (by decide)⟩
  unfold Machine.load Program.check Program.checkBase
  rw [if_pos hbase]
  dsimp only
  split
  next => exact fun hload => by cases hload
  next heq =>
    split at heq
    · cases heq
    · cases heq
      exact fun hload => by cases hload

/-- A window is never refused for its redraw rate. -/
theorem create_ne_noRedrawRate (h : s.Safe) (m : Machine) (log : Ring Text) :
    Window.create s m log ≠ .error .noRedrawRate := by
  have hrate : (s.videoHz == 0) = false := beq_eq_false_iff_ne.mpr (by have := h.videoHz; omega)
  unfold Window.create
  rw [hrate, if_neg Bool.false_ne_true]
  intro hcreate
  have hrefresh := error_of_map hcreate
  dsimp only at hrefresh
  split at hrefresh
  · cases hrefresh
  · cases hrefresh

end Safe

/-- **Accepted settings are safe to run with**: neither the clock nor the window divides by a rate
of zero, and programs can be placed at the base address. Data that is not accepted is refused with
an error that can be explained, unless something within it is too deep to be written. -/
theorem ofData_safe [NestingLimits] (d : Data) :
    (∃ s, ofData d = .ok s ∧ s.Safe ∧
      (∀ program dice base, Machine.load program s.base dice ≠ .error (.badBase base)) ∧
      (∀ m log, Window.create s m log ≠ .error .noRedrawRate)) ∨
    (∃ e, ofData d = .error e ∧ (e.isExplained = true ∨ ∃ inner, d.Holds inner ∧ inner.Deep)) := by
  have hyields := yields_ofData d
  cases hread : ofData d with
  | ok s =>
    rw [hread] at hyields
    have hsafe : s.Safe := hyields
    exact .inl ⟨s, rfl, hsafe, hsafe.load_ne_badBase, hsafe.create_ne_noRedrawRate⟩
  | error e =>
    rw [hread] at hyields
    exact .inr ⟨e, rfl, hyields⟩

/-! ## Too deep -/

/-- A mapping whose clock rate is a list with a list in it, and so on: `count` collections inside
each other. -/
def nested (count : Nat) : Data where
  store := Array.ofFn fun place : Fin count =>
    if place.val = 0 then .map [(.text (Text.ofString "clock_hz"), .stored 1)]
    else .list [.stored (place.val + 1)]
  value := .stored 0

variable {count : Nat}

theorem store_nested (hcount : 0 < count) :
    (nested count).store[0]? = some (.map [(.text (Text.ofString "clock_hz"), .stored 1)]) := by
  unfold nested
  rw [Array.getElem?_ofFn, dif_pos hcount, if_pos rfl]

theorem store_nested_of_pos {place : Nat} (h0 : 0 < place) (h : place < count) :
    (nested count).store[place]? = some (.list [.stored (place + 1)]) := by
  unfold nested
  rw [Array.getElem?_ofFn, dif_pos h, if_neg (Nat.ne_of_gt h0)]

/-- As long as there are more lists to come than there is room for, they cannot be written. -/
theorem fullInside_nested {around : List Nat} {room place : Nat} (h0 : 0 < place)
    (h : place + room < count) (haround : ∀ p ∈ around, p < place) :
    Data.fullInside (nested count).store around room (.stored place) = .error .tooDeep := by
  induction room generalizing around place with
  | zero =>
    unfold Data.fullInside
    rw [store_nested_of_pos h0 h]
  | succ room ih =>
    have hnew : ¬ around.contains place = true := by
      rw [List.contains_iff_mem]
      intro hmem
      exact absurd (haround place hmem) (Nat.lt_irrefl place)
    have hinner : Data.fullInside (nested count).store (place :: around) room
        (.stored (place + 1)) = .error .tooDeep := by
      refine ih (by omega) (by omega) fun p hp => ?_
      rcases List.mem_cons.mp hp with rfl | hp
      · omega
      · have := haround p hp
        omega
    unfold Data.fullInside
    rw [store_nested_of_pos h0 (by omega)]
    dsimp only
    rw [if_neg hnew, Collection.full, List.mapM_cons, hinner]
    rfl

theorem entries?_nested (hcount : 0 < count) :
    (nested count).entries? =
      some [((nested count).withValue (.text (Text.ofString "clock_hz")),
        (nested count).withValue (.stored 1))] := by
  have hcollection : (nested count).collection? =
      some (.map [(.text (Text.ofString "clock_hz"), .stored 1)]) :=
    store_nested hcount
  unfold Data.entries?
  rw [hcollection]
  rfl

/-- What stands in place of the clock rate is refused, as it is no integer. -/
theorem ofData_nested [NestingLimits] (hcount : 0 < count) :
    ofData (nested count) = .error (.badInteger ((nested count).withValue (.stored 1))) := by
  unfold ofData
  rw [entries?_nested hcount]
  rfl

/-- **Data that is too deep** to be written is refused without an explanation. -/
theorem ofData_nested_unexplained [NestingLimits] (hcount : NestingLimits.written + 1 < count) :
    ∃ e, ofData (nested count) = .error e ∧ e.isExplained = false := by
  refine ⟨_, ofData_nested (by omega), ?_⟩
  have hdeep : ((nested count).withValue (.stored 1)).plain = .error .tooDeep := by
    have hfull : ((nested count).withValue (.stored 1)).full = .error .tooDeep :=
      fullInside_nested (by decide) (by omega) (fun _ hmem => by cases hmem)
    unfold Data.plain
    rw [hfull]
    rfl
  unfold SettingsError.isExplained SettingsError.wording
  dsimp only
  rw [hdeep]
  rfl

theorem ofData_nested_thousand :
    ∃ e, @ofData .usual (nested 1000) = .error e ∧ @SettingsError.isExplained .usual e = false :=
  @ofData_nested_unexplained _ .usual (by decide)

end Settings

end Chip8
