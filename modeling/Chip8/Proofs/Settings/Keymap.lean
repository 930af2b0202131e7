import Chip8.Proofs.Distinct
import Chip8.Proofs.Settings
import Chip8.Settings.File
import Mathlib.Data.List.Find

/-!
# Host keys of settings

A keymap is read by binding host keys to codes, one after the other. A host key keeps the place
at which it came up first (`hosts_bindAll`) and has the code to which it was bound last
(`code?_bindAll`). `Binds` says which binding comes of an entry of settings, and
`keymap_of_read` that the keymap of settings comes of the bindings of their section. Since no
host key has two places, the first one that stands for a code can be found by asking for the
code of each (`hostFor?_eq`).
-/

namespace Chip8

namespace Keymap

variable {keymap : Keymap} {host : Text}

/-- The host keys in their order. -/
def hosts (keymap : Keymap) : List Text :=
  keymap.map (·.1)

/-- Binds host keys, one after the other. -/
def bindAll (keymap : Keymap) (bindings : List (Text × Int)) : Keymap :=
  bindings.foldl (fun keymap binding => keymap.bind binding.1 binding.2) keymap

/-! ## One binding -/

/-- A known host key stays where it is, and a new one comes last. -/
theorem hosts_bind (keymap : Keymap) (host : Text) (code : Int) :
    (keymap.bind host code).hosts = if host ∈ keymap.hosts then keymap.hosts
      else keymap.hosts ++ [host] := by
  induction keymap with
  | nil => rfl
  | cons first rest ih =>
    obtain ⟨known, c⟩ := first
    have hcons (rest : Keymap) (c : Int) : hosts ((known, c) :: rest) = known :: hosts rest := rfl
    by_cases hknown : known = host
    · have hbind : bind ((known, c) :: rest) host code = (known, code) :: rest :=
        if_pos (beq_iff_eq.mpr hknown)
      rw [hbind, hcons, hcons, if_pos (List.mem_cons.mpr (.inl hknown.symm))]
    · have hbind : bind ((known, c) :: rest) host code = (known, c) :: bind rest host code :=
        if_neg fun h => hknown (beq_iff_eq.mp h)
      have hmem : host ∈ known :: hosts rest ↔ host ∈ hosts rest :=
        List.mem_cons.trans (or_iff_right fun h => hknown h.symm)
      rw [hbind, hcons, hcons, ih, if_congr hmem rfl rfl]
      split
      · rfl
      · rfl

/-- The host key that is bound has the new code, and the others have the ones they had. -/
theorem code?_bind (keymap : Keymap) (host : Text) (code : Int) (asked : Text) :
    (keymap.bind host code).code? asked = if asked == host then some code
      else keymap.code? asked := by
  induction keymap with
  | nil =>
    show List.lookup asked [(host, code)] = _
    rw [List.lookup_cons]
    cases asked == host with
    | true => rfl
    | false => rfl
  | cons first rest ih =>
    obtain ⟨known, c⟩ := first
    unfold code? at ih ⊢
    unfold bind
    split
    next hknown =>
      rw [eq_of_beq hknown, List.lookup_cons, List.lookup_cons]
      cases asked == host with
      | true => rfl
      | false => rfl
    next hknown =>
      rw [List.lookup_cons, List.lookup_cons, ih]
      cases hasked : asked == known with
      | true =>
        have hother : (asked == host) = false := by
          rw [eq_of_beq hasked]
          exact Bool.eq_false_iff.mpr hknown
        rw [hother]
        rfl
      | false => rfl

/-! ## All bindings -/

/-- **The last binding of a host key counts.** -/
theorem code?_bindAll (keymap : Keymap) (bindings : List (Text × Int)) (asked : Text) :
    (keymap.bindAll bindings).code? asked =
      (bindings.reverse.lookup asked).or (keymap.code? asked) := by
  induction bindings generalizing keymap with
  | nil => rfl
  | cons binding rest ih =>
    obtain ⟨host, code⟩ := binding
    show ((keymap.bind host code).bindAll rest).code? asked = _
    rw [ih, code?_bind, List.reverse_cons, List.lookup_append, Option.or_assoc, List.lookup_cons]
    cases asked == host with
    | true => rfl
    | false => rfl

/-- **The order of host keys** is that in which they came up first. -/
theorem hosts_bindAll (h : keymap.hosts.Nodup) (bindings : List (Text × Int)) :
    (keymap.bindAll bindings).hosts = (keymap.hosts ++ bindings.map (·.1)).eraseDups := by
  induction bindings generalizing keymap with
  | nil =>
    rw [List.map_nil, List.append_nil, eraseDups_of_nodup h]
    rfl
  | cons binding rest ih =>
    obtain ⟨host, code⟩ := binding
    have hfirst : (keymap.bind host code).hosts = (keymap.hosts ++ [host]).eraseDups := by
      rw [hosts_bind, List.eraseDups_append, eraseDups_of_nodup h, List.cons_removeAll,
        List.nil_removeAll]
      by_cases hmem : host ∈ keymap.hosts
      · have hcontains : ¬ keymap.hosts.contains host = false :=
          Bool.not_eq_false _ ▸ List.contains_iff_mem.mpr hmem
        rw [if_pos hmem, if_neg hcontains, List.eraseDups_nil, List.append_nil]
      · have hcontains : keymap.hosts.contains host = false :=
          Bool.eq_false_iff.mpr fun h => hmem (List.contains_iff_mem.mp h)
        rw [if_neg hmem, if_pos hcontains]
        rfl
    have hnodup : (keymap.bind host code).hosts.Nodup := hfirst ▸ nodup_eraseDups _
    show ((keymap.bind host code).bindAll rest).hosts = _
    rw [ih hnodup, hfirst, eraseDups_append_eraseDups, List.append_assoc]
    rfl

/-! ## Looking for a host key -/

theorem code?_of_mem (h : keymap.hosts.Nodup) {entry : Text × Int} (hmem : entry ∈ keymap) :
    keymap.code? entry.1 = some entry.2 := by
  induction keymap with
  | nil => cases hmem
  | cons first rest ih =>
    obtain ⟨hnew, hrest⟩ := List.nodup_cons.mp h
    unfold code? at ih ⊢
    rw [List.lookup_cons]
    rcases List.mem_cons.mp hmem with rfl | hmem
    · rw [beq_self_eq_true]
    · have hne : (entry.1 == first.1) = false :=
        beq_eq_false_iff_ne.mpr fun heq => hnew (List.mem_map.mpr ⟨entry, hmem, heq⟩)
      rw [hne]
      exact ih hrest hmem

theorem Safe.range {code : Int} (h : keymap.Safe) (hcode : keymap.code? host = some code) :
    0 ≤ code ∧ code ≤ 0xF := by
  obtain ⟨front, back, heq, -⟩ := List.lookup_eq_some_iff.mp hcode
  exact h.codes (host, code) (heq ▸ List.mem_append_right front List.mem_cons_self)

/-- **The host key shown for a code** is the first one that has it. -/
theorem hostFor?_eq (h : keymap.hosts.Nodup) (code : Int) :
    keymap.hostFor? code = keymap.hosts.find? fun host => keymap.code? host == some code := by
  unfold hosts
  rw [hostFor?_eq_find?, List.find?_map]
  refine congrArg _ (List.find?_congr fun entry hmem => ?_)
  rw [Function.comp_apply, code?_of_mem h hmem, Option.some_beq_some, Bool.beq_comm]

end Keymap

namespace Settings

variable {d : Data} {s : Settings} {entries : Entries}

/-- The binding that comes of an entry of settings: the host key is its name in upper case, the code
one of a key. -/
structure Binds [NestingLimits] (entry : Data × Data) (binding : Text × Int) : Prop where
  host : ∃ name, entry.1.plain = .ok name ∧ binding.1 = Text.upper name
  code : readInt entry.2 = .ok binding.2
  nonneg : 0 ≤ binding.2
  le : binding.2 ≤ 0xF

theorem bindAll_of_bindKeys [NestingLimits] {keymap left : Keymap}
    (h : bindKeys keymap entries = .ok left) :
    ∃ bindings, List.Forall₂ Binds entries bindings ∧ left = keymap.bindAll bindings := by
  induction entries generalizing keymap with
  | nil =>
    cases h
    exact ⟨[], .nil, rfl⟩
  | cons entry rest ih =>
    obtain ⟨host, given⟩ := entry
    obtain ⟨code, hcode, h⟩ := bind_eq_ok_iff.mp h
    split at h
    next hrange =>
      split at h
      next name hname =>
        obtain ⟨bindings, hbindings, hleft⟩ := ih h
        exact ⟨(Text.upper name, code) :: bindings,
          .cons ⟨⟨name, hname, rfl⟩, hcode, hrange.1, hrange.2⟩ hbindings, hleft⟩
      next => cases h
    next => cases h

theorem bindKeys_of_ofEntries [NestingLimits] (h : ofEntries entries = .ok s) :
    ∃ members, readSection entries "keymap" = .ok members ∧
    bindKeys Keymap.standard members = .ok s.keymap := by
  obtain ⟨_, -, h⟩ := bind_eq_ok_iff.mp h
  obtain ⟨_, -, h⟩ := bind_eq_ok_iff.mp h
  obtain ⟨_, -, h⟩ := bind_eq_ok_iff.mp h
  obtain ⟨_, -, h⟩ := bind_eq_ok_iff.mp h
  obtain ⟨_, -, h⟩ := bind_eq_ok_iff.mp h
  obtain ⟨_, -, h⟩ := bind_eq_ok_iff.mp h
  obtain ⟨_, -, h⟩ := bind_eq_ok_iff.mp h
  obtain ⟨_, -, h⟩ := bind_eq_ok_iff.mp h
  obtain ⟨members, hmembers, h⟩ := bind_eq_ok_iff.mp h
  obtain ⟨keymap, hkeymap, h⟩ := bind_eq_ok_iff.mp h
  cases h
  exact ⟨members, hmembers, hkeymap⟩

theorem entries_of_isNothing (h : d.isNothing = true) : d.entries?.getD [] = [] := by
  unfold Data.isNothing at h
  unfold Data.entries? Data.collection? at *
  cases hvalue : d.value with
  | stored place =>
    rw [hvalue] at h
    dsimp only at h ⊢
    cases hstored : d.store[place]? with
    | none => rfl
    | some c =>
      rw [hstored] at h
      cases c with
      | map members =>
        rw [List.isEmpty_iff.mp h]
        rfl
      | _ => rfl
  | _ => rfl

theorem ofEntries_of_read [NestingLimits] (h : ofData d = .ok s ∨ ofDataOrNothing d = .ok s) :
    ofEntries (d.entries?.getD []) = .ok s := by
  have hdata : ofData d = .ok s → ofEntries (d.entries?.getD []) = .ok s := fun h => by
    unfold ofData at h
    split at h
    next hentries => rwa [hentries, Option.getD_some]
    next => cases h
  rcases h with h | h
  · exact hdata h
  · unfold ofDataOrNothing at h
    split at h
    next hnothing => rwa [entries_of_isNothing hnothing]
    next => exact hdata h

theorem safe_of_read [NestingLimits] (h : ofData d = .ok s ∨ ofDataOrNothing d = .ok s) :
    s.Safe := by
  have hinside : Inside d (d.entries?.getD []) := by
    cases hentries : d.entries? with
    | none => exact fun _ hmem => by cases hmem
    | some entries => exact fun entry hentry => Data.Holds.itself.entry hentries hentry
  have hyields := yields_ofEntries hinside
  rw [ofEntries_of_read h] at hyields
  exact hyields

/-- **The keymap of settings** is the standard one with the bindings of the section, in
their order. -/
theorem keymap_of_read [NestingLimits] (h : ofData d = .ok s ∨ ofDataOrNothing d = .ok s) :
    ∃ members bindings, readSection (d.entries?.getD []) "keymap" = .ok members ∧
      List.Forall₂ Binds members bindings ∧ s.keymap = Keymap.standard.bindAll bindings := by
  obtain ⟨members, hmembers, hbind⟩ := bindKeys_of_ofEntries (ofEntries_of_read h)
  obtain ⟨bindings, hbindings, hkeymap⟩ := bindAll_of_bindKeys hbind
  exact ⟨members, bindings, hmembers, hbindings, hkeymap⟩

end Settings

end Chip8
