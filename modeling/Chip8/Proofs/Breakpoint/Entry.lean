import Chip8.Pane.Breakpoints
import Chip8.Proofs.Numeral
import Chip8.Proofs.Outcome

/-!
# What is typed and what is described

A breakpoint can be typed in many ways, and is described in one. `IsEntry` says which breakpoints
can be typed in at all (`isEntry_of_parse`). Their descriptions have a blank only around what sets
them apart from a typed form, so this can be taken out of the text (`retyping_describe`), and what
is left is read as the same breakpoint (`parse_retyped`). A text that is read as no breakpoint has
an error that shows a part of it (`shown_of_parse`). The main result is `parse_describe`.
-/

namespace Chip8

/-! ## Words -/

namespace Text

variable {t : Text}

/-- Whether a text has neither white space nor the sign that stands for an address in
descriptions. -/
def IsWord (t : Text) : Prop :=
  ∀ p ∈ t, p.char?.any isBlank = false ∧ p ≠ .char '@'

instance : Decidable (IsWord t) :=
  inferInstanceAs (Decidable (∀ p ∈ t, p.char?.any isBlank = false ∧ p ≠ .char '@'))

namespace IsWord

theorem append {s : Text} (hs : IsWord s) (ht : IsWord t) : IsWord (s ++ t) :=
  List.forall_mem_append.mpr ⟨hs, ht⟩

theorem at_notMem (h : IsWord t) : .char '@' ∉ t := fun hmem => (h _ hmem).2 rfl

theorem blank_notMem (h : IsWord t) : .char ' ' ∉ t := fun hmem => Bool.noConfusion (h _ hmem).1

theorem trim_eq (h : IsWord t) : trim t = t :=
  trimList_of_forall fun p hp => (h p hp).1

end IsWord

/-- The digits of an integer, with its sign, make a word. -/
theorem isWord_upperHex (width : Nat) (n : Int) :
    IsWord (Text.ofString (Numeral.upperHex width n)) := by
  have hall :=
    Numeral.forall_mem_upperHexChars (p := fun c => isBlank c = false ∧ c ≠ '@') (by decide)
      (by decide) width n
  unfold Text.ofString Numeral.upperHex Text.ofChars
  rw [String.toList_ofList]
  intro p hp
  obtain ⟨c, hc, rfl⟩ := List.mem_map.mp hp
  exact ⟨(hall c hc).1, fun heq => (hall c hc).2 (CodePoint.char.inj heq)⟩

end Text

/-! ## Descriptions -/

/-- The part of a typed text that an error shows. -/
def EntryError.shown : EntryError → Text
  | .empty | .missingEquals => []
  | .invalidAddress t | .addressRange t | .unknownRegister t | .invalidValue t => t

/-- Whether the breakpoints of a kind are about an address. -/
def BreakpointKind.UsesAddress (kind : BreakpointKind) : Prop :=
  kind ≠ .registerValue ∧ kind ≠ .registerChange

namespace Breakpoint

variable {kind : BreakpointKind} {t : Text} {b : Breakpoint} {e : EntryError}

/-- What can be typed in for each kind: an enabled breakpoint that has exactly the fields of its
kind, an address of the memory or a register that there is. -/
inductive IsEntry : BreakpointKind → Breakpoint → Prop
  | address {kind : BreakpointKind} (hkind : kind.UsesAddress) {a : Int} (h0 : 0 ≤ a)
      (h1 : a ≤ 0xFFF) :
      IsEntry kind (onAddress kind a)
  | value {register : Text} (h : register ∈ registerNames) (value : Int) :
      IsEntry .registerValue (onValue register value)
  | change {register : Text} (h : register ∈ registerNames) :
      IsEntry .registerChange (onChange register)

/-- The text of a description without what makes it one. -/
def retyping (t : Text) : Text :=
  Text.replace " changed" [] (Text.replace " == " "=" (Text.replace "@ " [] t))

/-! ## Registers -/

/-- The names of registers are made of letters and digits, in upper case. -/
theorem plain_registerNames :
    ∀ register ∈ registerNames, Text.IsWord register ∧ register.isEmpty = false ∧
    CodePoint.char '=' ∉ register ∧
      Text.upper register = register := by
  decide +kernel

/-- The names are those of the register file of every state. -/
theorem map_registers (s : State) : s.registers.map (·.1) = registerNames := by
  unfold State.registers registerNames
  rw [List.map_append, List.map_map]
  rfl

/-- A register that there is has a value in every state. -/
theorem isSome_registers {register : Text} (h : register ∈ registerNames) (s : State) :
    (s.registers.get? register).isSome = true := by
  rw [← map_registers s] at h
  obtain ⟨entry, hentry, rfl⟩ := List.mem_map.mp h
  exact List.lookup_isSome_iff.mpr ⟨entry, hentry, beq_self_eq_true _⟩

theorem parseRegister_of_mem {register : Text} (h : register ∈ registerNames) :
    parseRegister register = .ok register := by
  obtain ⟨hword, -, -, hupper⟩ := plain_registerNames register h
  unfold parseRegister
  dsimp only
  rw [hword.trim_eq, hupper, if_pos (List.contains_iff_mem.mpr h)]

theorem mem_of_parseRegister {register : Text} (h : parseRegister t = .ok register) :
    register ∈ registerNames := by
  unfold parseRegister at h
  dsimp only at h
  split at h
  next hmem =>
    cases h
    exact List.contains_iff_mem.mp hmem
  next => cases h

/-! ## What can be typed in -/

theorem parseAddress_bounds {a : Int} (h : parseAddress t = .ok a) : 0 ≤ a ∧ a ≤ 0xFFF := by
  unfold parseAddress at h
  split at h
  · cases h
  · split at h
    next hbounds =>
      cases h
      exact hbounds
    next => cases h

theorem parse_of_isEmpty (kind : BreakpointKind) (h : (Text.trim t).isEmpty = true) :
    parse kind t = .error .empty := by
  unfold parse
  exact if_pos h

theorem parse_address (hkind : kind.UsesAddress) (h : (Text.trim t).isEmpty = false) :
    parse kind t = (parseAddress (Text.trim t)).map (onAddress kind) := by
  unfold parse
  dsimp only
  rw [h, if_neg Bool.false_ne_true]
  cases kind with
  | registerValue => exact absurd rfl hkind.1
  | registerChange => exact absurd rfl hkind.2
  | _ => rfl

theorem parse_change (h : (Text.trim t).isEmpty = false) :
    parse .registerChange t = (parseRegister (Text.trim t)).map onChange := by
  unfold parse
  exact if_neg (Bool.eq_false_iff.mp h)

/-- Reads what stands on both sides of an equals sign. -/
def parseSides (name value : Text) : Except EntryError Breakpoint :=
  parseRegister name >>= fun register => (parseValue (Text.trim value)).map (onValue register)

/-- A register and a value are set apart by the first equals sign. -/
theorem parse_value {name value : Text} (hname : .char '=' ∉ name)
    (htrim : Text.trim t = name ++ .char '=' :: value) :
    parse .registerValue t = parseSides name value := by
  have hempty : (Text.trim t).isEmpty = false := by
    rw [htrim]
    cases name with
    | nil => rfl
    | cons p name => rfl
  have hbefore : ∀ p ∈ name, (p != .char '=') = true :=
    fun p hp => bne_iff_ne.mpr fun heq => hname (heq ▸ hp)
  have hspan : (Text.trim t).span (· != .char '=') = (name, .char '=' :: value) := by
    rw [htrim, List.span_eq_takeWhile_dropWhile, List.takeWhile_append_of_pos hbefore,
      List.dropWhile_append_of_pos hbefore, List.takeWhile_cons_of_neg (by decide),
      List.dropWhile_cons_of_neg (by decide),
      List.append_nil]
  unfold parse parseSides
  dsimp only
  rw [hempty, if_neg Bool.false_ne_true, hspan]
  rfl

theorem parse_value_of_notMem (h : (Text.trim t).isEmpty = false)
    (hequals : .char '=' ∉ Text.trim t) :
    parse .registerValue t = .error .missingEquals := by
  have hall : ∀ p ∈ Text.trim t, (p != .char '=') = true :=
    fun p hp => bne_iff_ne.mpr fun heq => hequals (heq ▸ hp)
  have hspan : (Text.trim t).span (· != .char '=') = (Text.trim t, []) := by
    rw [List.span_eq_takeWhile_dropWhile, List.takeWhile_eq_self_iff.mpr hall,
      List.dropWhile_eq_nil_iff.mpr hall]
  unfold parse
  dsimp only
  rw [h, if_neg Bool.false_ne_true, hspan]

/-- **The ways in which reading can go.** -/
inductive Parsed (t : Text) : BreakpointKind → Except EntryError Breakpoint → Prop
  | empty {kind : BreakpointKind} : Parsed t kind (.error .empty)
  | address {kind : BreakpointKind} (hkind : kind.UsesAddress) :
      Parsed t kind ((parseAddress (Text.trim t)).map (onAddress kind))
  | change : Parsed t .registerChange ((parseRegister (Text.trim t)).map onChange)
  | noEquals : Parsed t .registerValue (.error .missingEquals)
  | value {name value : Text} (htrim : Text.trim t = name ++ .char '=' :: value) :
      Parsed t .registerValue (parseSides name value)

theorem parsed (kind : BreakpointKind) (t : Text) : Parsed t kind (parse kind t) := by
  cases hempty : (Text.trim t).isEmpty with
  | true =>
    rw [parse_of_isEmpty kind hempty]
    exact .empty
  | false =>
    have haddress : kind.UsesAddress → Parsed t kind (parse kind t) := fun hkind => by
      rw [parse_address hkind hempty]
      exact .address hkind
    cases kind with
    | registerValue =>
      by_cases hequals : CodePoint.char '=' ∈ Text.trim t
      · obtain ⟨name, value, htrim, hname⟩ := List.eq_append_cons_of_mem hequals
        rw [parse_value hname htrim]
        exact .value htrim
      · rw [parse_value_of_notMem hempty hequals]
        exact .noEquals
    | registerChange =>
      rw [parse_change hempty]
      exact .change
    | _ => exact haddress ⟨nofun, nofun⟩

/-- **What has been read** has an address of the memory, or a register that there is. -/
theorem isEntry_of_parse (h : parse kind t = .ok b) : IsEntry kind b := by
  have hparsed := parsed kind t
  rw [h] at hparsed
  generalize hresult : (.ok b : Except EntryError Breakpoint) = result at hparsed
  cases hparsed with
  | empty => cases hresult
  | address hkind =>
    obtain ⟨a, ha, rfl⟩ := map_eq_ok_iff.mp hresult.symm
    have hbounds := parseAddress_bounds ha
    exact .address hkind hbounds.1 hbounds.2
  | change =>
    obtain ⟨register, hregister, rfl⟩ := map_eq_ok_iff.mp hresult.symm
    exact .change (mem_of_parseRegister hregister)
  | noEquals => cases hresult
  | value htrim =>
    obtain ⟨register, hregister, hvalue⟩ := bind_eq_ok_iff.mp hresult.symm
    obtain ⟨n, -, rfl⟩ := map_eq_ok_iff.mp hvalue
    exact .value (mem_of_parseRegister hregister) n

/-! ## Typing a description in again -/

theorem describe_onAddress (hkind : kind.UsesAddress) (a : Int) :
    (onAddress kind a).describe = Text.ofString "@ " ++ (onAddress kind a).retyped := by
  cases kind with
  | registerValue => exact absurd rfl hkind.1
  | registerChange => exact absurd rfl hkind.2
  | _ => rfl

theorem retyped_onAddress (hkind : kind.UsesAddress) (a : Int) :
    (onAddress kind a).retyped = Text.ofString "#" ++ Text.ofString (Numeral.upperHex 3 a) := by
  cases kind with
  | registerValue => exact absurd rfl hkind.1
  | registerChange => exact absurd rfl hkind.2
  | _ => rfl

theorem describe_onValue (register : Text) (value : Int) :
    (onValue register value).describe =
      register ++ (Text.ofString " == " ++
        (Text.ofString "#" ++ Text.ofString (Numeral.upperHex 1 value))) :=
  List.append_assoc register _ _

theorem retyped_onValue (register : Text) (value : Int) :
    (onValue register value).retyped =
      register ++
        (Text.ofString "=" ++ (Text.ofString "#" ++ Text.ofString (Numeral.upperHex 1 value))) :=
  List.append_assoc register _ _

/-- What is typed is one word. -/
theorem isWord_retyped (h : IsEntry kind b) : Text.IsWord b.retyped := by
  have hnumber (width : Nat) (n : Int) :
      Text.IsWord (Text.ofString "#" ++ Text.ofString (Numeral.upperHex width n)) :=
    Text.IsWord.append (by decide) (Text.isWord_upperHex width n)
  cases h with
  | address hkind h0 h1 =>
    rw [retyped_onAddress hkind]
    exact hnumber 3 _
  | value hregister n =>
    rw [retyped_onValue]
    exact (plain_registerNames _ hregister).1.append (Text.IsWord.append (by decide) (hnumber 1 n))
  | change hregister => exact (plain_registerNames _ hregister).1

-- What makes a description is found by its first sign, which words do not have.

theorem mark_eq : Text.ofString "@ " = .char '@' :: " " :=
  rfl

theorem equals_eq : Text.ofString " == " = .char ' ' :: "== " :=
  rfl

theorem changed_eq : Text.ofString " changed" = .char ' ' :: "changed" :=
  rfl

theorem retyping_address (h : Text.IsWord t) : retyping ("@ " ++ t) = t := by
  unfold retyping
  rw [mark_eq, equals_eq, changed_eq, Text.replace_self, List.nil_append,
    Text.replace_of_notMem h.at_notMem,
    Text.replace_of_notMem h.blank_notMem, Text.replace_of_notMem h.blank_notMem]

theorem retyping_value {name value : Text} (hname : Text.IsWord name) (hvalue : Text.IsWord value) :
    retyping (name ++ (" == " ++ value)) = name ++ ("=" ++ value) := by
  have hmarked : CodePoint.char '@' ∉ name ++ (Text.ofString " == " ++ value) := by
    rw [List.mem_append, List.mem_append]
    exact not_or.mpr ⟨hname.at_notMem, not_or.mpr ⟨by decide, hvalue.at_notMem⟩⟩
  have hplain : Text.IsWord (name ++ (Text.ofString "=" ++ value)) :=
    hname.append (Text.IsWord.append (by decide) hvalue)
  unfold retyping
  rw [mark_eq, changed_eq, Text.replace_of_notMem hmarked, equals_eq,
    Text.replace_append hname.blank_notMem,
    Text.replace_self, Text.replace_of_notMem hvalue.blank_notMem,
    Text.replace_of_notMem hplain.blank_notMem]

theorem retyping_change (h : Text.IsWord t) : retyping (t ++ " changed") = t := by
  have hmarked : CodePoint.char '@' ∉ t ++ Text.ofString " changed" := by
    rw [List.mem_append]
    exact not_or.mpr ⟨h.at_notMem, by decide⟩
  have hkept : Text.replace " == " "=" " changed" = " changed" := by decide +kernel
  have hgone : Text.replace " changed" [] " changed" = [] := by decide +kernel
  unfold retyping
  rw [mark_eq, Text.replace_of_notMem hmarked, equals_eq,
    Text.replace_append h.blank_notMem, ← equals_eq, hkept, changed_eq,
    Text.replace_append h.blank_notMem, ← changed_eq, hgone, List.append_nil]

/-- **A description** can be made into a typed form by taking out what makes it one. -/
theorem retyping_describe (h : IsEntry kind b) : retyping b.describe = b.retyped := by
  have hword := isWord_retyped h
  cases h with
  | address hkind h0 h1 =>
    rw [describe_onAddress hkind]
    exact retyping_address hword
  | value hregister n =>
    rw [describe_onValue, retyped_onValue]
    exact retyping_value (plain_registerNames _ hregister).1
      (Text.IsWord.append (by decide) (Text.isWord_upperHex 1 n))
  | change hregister => exact retyping_change hword

/-! ## Reading a typed form -/

theorem parseAddress_typed {a : Int} (h0 : 0 ≤ a) (h1 : a ≤ 0xFFF) :
    parseAddress (Text.ofString "#" ++ Text.ofString (Numeral.upperHex 3 a)) = .ok a := by
  have hbody : hexBody? (Text.ofString "#" ++ Text.ofString (Numeral.upperHex 3 a)) =
      some (Text.ofString (Numeral.upperHex 3 a)) := rfl
  unfold parseAddress
  rw [hbody, Option.getD_some, Numeral.read_upperHex]
  exact if_pos ⟨h0, h1⟩

theorem parseValue_typed (n : Int) :
    parseValue (Text.ofString "#" ++ Text.ofString (Numeral.upperHex 1 n)) = .ok n := by
  have hbody : hexBody? (Text.ofString "#" ++ Text.ofString (Numeral.upperHex 1 n)) =
      some (Text.ofString (Numeral.upperHex 1 n)) := rfl
  unfold parseValue
  rw [hbody]
  dsimp only
  rw [Numeral.read_upperHex]

/-- **The typed form** of a breakpoint is read as this breakpoint. -/
theorem parse_retyped (h : IsEntry kind b) : parse kind b.retyped = .ok b := by
  have htrim := (isWord_retyped h).trim_eq
  cases h with
  | address hkind h0 h1 =>
    rw [retyped_onAddress hkind] at htrim ⊢
    rw [parse_address hkind (by rw [htrim]; rfl), htrim, parseAddress_typed h0 h1]
    rfl
  | value hregister n =>
    have hname := (plain_registerNames _ hregister).2.2.1
    have hvalue : Text.IsWord (Text.ofString "#" ++ Text.ofString (Numeral.upperHex 1 n)) :=
      Text.IsWord.append (by decide) (Text.isWord_upperHex 1 n)
    have hequals (rest : Text) : Text.ofString "=" ++ rest = .char '=' :: rest := rfl
    rw [retyped_onValue, hequals] at htrim
    rw [retyped_onValue, hequals, parse_value hname htrim]
    unfold parseSides
    rw [parseRegister_of_mem hregister, hvalue.trim_eq, parseValue_typed]
    rfl
  | @change register hregister =>
    have htyped : (onChange register).retyped = register := rfl
    rw [htyped] at htrim ⊢
    rw [parse_change (by rw [htrim]; exact (plain_registerNames register hregister).2.1), htrim,
      parseRegister_of_mem hregister]
    rfl

/-! ## Texts that are not read -/

theorem shown_of_parseAddress (h : parseAddress t = .error e) : e.shown = t := by
  unfold parseAddress at h
  split at h
  · cases h
    rfl
  · split at h
    · cases h
    · cases h
      rfl

theorem shown_of_parseValue (h : parseValue t = .error e) : e.shown = t := by
  unfold parseValue at h
  dsimp only at h
  split at h
  · cases h
  · cases h
    rfl

theorem shown_of_parseRegister (h : parseRegister t = .error e) : e.shown = t := by
  unfold parseRegister at h
  dsimp only at h
  split at h
  · cases h
  · cases h
    rfl

/-- What an error shows has been typed. -/
theorem shown_of_parse (h : parse kind t = .error e) : e.shown <:+: t := by
  have hparsed := parsed kind t
  rw [h] at hparsed
  generalize hresult : (.error e : Except EntryError Breakpoint) = result at hparsed
  cases hparsed with
  | empty =>
    cases hresult
    exact List.nil_infix
  | address hkind =>
    rw [shown_of_parseAddress (error_of_map hresult.symm)]
    exact Text.trim_infix t
  | change =>
    rw [shown_of_parseRegister (error_of_map hresult.symm)]
    exact Text.trim_infix t
  | noEquals =>
    cases hresult
    exact List.nil_infix
  | @value name value htrim =>
    have hname : name <:+: Text.trim t := htrim ▸ (List.prefix_append name _).isInfix
    have hvalue : value <:+: Text.trim t :=
      htrim ▸ ((List.suffix_cons _ value).trans (List.suffix_append name _)).isInfix
    rcases error_of_bind hresult.symm with hregister | ⟨register, -, hvalues⟩
    · rw [shown_of_parseRegister hregister]
      exact hname.trans (Text.trim_infix t)
    · rw [shown_of_parseValue (error_of_map hvalues)]
      exact ((Text.trim_infix value).trans hvalue).trans (Text.trim_infix t)

/-- A text that is not read is warned about, and stays in the entry field. -/
theorem submit_of_error (p : BreakpointPane) (h : parse kind t = .error e) :
    p.submit kind t = ([BreakpointPane.warning e], [], { p with entry := t }) := by
  unfold BreakpointPane.submit BreakpointPane.add
  rw [h]

/-- **Typed forms and descriptions.** The breakpoints that can be typed in have an address of the
memory, or one of the 21 registers, which have values in every state; their values are any integers.
A description with the sign of an address, the second equals sign and its blanks, or the word of a
change taken out is read as the breakpoint described, so that breakpoints of one kind are told apart
by their descriptions. A text that is not read has an error that shows a part of it, and all that
comes of it is the warning. -/
theorem parse_describe (kind : BreakpointKind) :
    (∀ b, (∃ t, parse kind t = .ok b) ↔ IsEntry kind b) ∧
    (∀ t b, parse kind t = .ok b →
      (∀ register, b.register = some register → ∀ s : State,
        (s.registers.get? register).isSome = true) ∧
        parse kind (retyping b.describe) = .ok b) ∧
    (registerNames.length = 21 ∧ registerNames.Nodup ∧ ∀ s : State,
      s.registers.map (·.1) = registerNames) ∧
    (∀ t t' b b', parse kind t = .ok b → parse kind t' = .ok b' →
      (b.describe = b'.describe ↔ b = b')) ∧
    ∀ t, (∃ b, parse kind t = .ok b) ∨
      ∃ e, parse kind t = .error e ∧ e.shown <:+: t ∧
        ∀ p : BreakpointPane, p.submit kind t =
          ([BreakpointPane.warning e], [], { p with entry := t }) := by
  have hback : ∀ {t b}, parse kind t = .ok b → parse kind (retyping b.describe) = .ok b :=
    fun h => by
    rw [retyping_describe (isEntry_of_parse h)]
    exact parse_retyped (isEntry_of_parse h)
  refine ⟨fun b => ⟨fun ⟨t, h⟩ => isEntry_of_parse h, fun h => ⟨b.retyped, parse_retyped h⟩⟩,
    fun t b h => ⟨fun register hregister => ?_, hback h⟩,
    ⟨by decide, by decide +kernel, map_registers⟩,
    fun t t' b b' h h' => ⟨fun heq => ?_, fun heq => heq ▸ rfl⟩, fun t => ?_⟩
  · have hmem : register ∈ registerNames := by
      cases isEntry_of_parse h with
      | address hkind h0 h1 => cases hregister
      | value hmem n => exact Option.some.inj hregister ▸ hmem
      | change hmem => exact Option.some.inj hregister ▸ hmem
    exact isSome_registers hmem
  · have hread := hback h
    rw [heq, hback h'] at hread
    exact (Except.ok.inj hread).symm
  · cases hparse : parse kind t with
    | ok b => exact .inl ⟨b, rfl⟩
    | error e => exact .inr ⟨e, rfl, shown_of_parse hparse, fun p => submit_of_error p hparse⟩

/-- A register that is typed as a ligature, behind a blank, and a negative value. -/
theorem parse_describe_ligature :
    parse .registerValue " ﬆ=0X-1F" = .ok (onValue "ST" (-31)) ∧
    retyping (onValue "ST" (-31)).describe = "ST=#-1F" ∧
    parse .registerValue (retyping (onValue "ST" (-31)).describe) = .ok (onValue "ST" (-31)) :=
  have hread : parse .registerValue " ﬆ=0X-1F" = .ok (onValue "ST" (-31)) := by decide +kernel
  ⟨hread, by decide +kernel, ((parse_describe .registerValue).2.1 _ _ hread).2⟩

end Breakpoint

end Chip8
