import Chip8.Pane.Registers
import Chip8.Proofs.Numeral
import Mathlib.Data.List.Forall2
import Mathlib.Data.List.Induction
import Mathlib.Data.List.TakeWhile
import Mathlib.Data.Rat.Floor

/-!
# What the register pane shows

A register pane is given layouts and register files in any order. What counts of that is the
latest layout and the files behind it (`Told`). A cell shows the value that its register had in
the latest of these files to have it (`LatestIn`), and is marked if the file right before that one
had another value (`RegisterCell.Shows`). A file without the register leaves the cell alone, but
it is the one that the next file is compared with: so the text of a cell, its mark and the file
that the pane remembers grow old at different times, and one step of the invariant takes all three
along (`Shows.updated`, `Agrees.update`).

The number of digits is that of the bits in a width, divided by four and rounded up. A width of
fewer than no bits could ask for fewer than no digits, which no value can be written with: the pane
would refuse updates that have such a register, and no others (`Agrees.update_ok_iff`). The main
result is `shows_latest`, for widths as they are.
-/

namespace Chip8

/-! ## Texts of values -/

/-- An integer in upper-case hexadecimal, with zeros in front of its digits up to a number of
places. The sign takes one of the places. -/
def hexText (places value : Int) : String :=
  let sign := if value < 0 then ['-'] else []
  String.ofList (sign ++ ((Nat.toDigits 16 value.natAbs).map Char.toUpper).leftpad
    (places.toNat - sign.length) '0')

theorem upperHex_eq_hexText (places value : Int) :
    Numeral.upperHex places.toNat value = hexText places value := by
  unfold Numeral.upperHex Numeral.upperHexChars hexText Numeral.signOf Numeral.padZeros List.leftpad
  rw [Numeral.map_upperDigit_digits]

/-! ## What a pane is told -/

namespace RegisterPane

/-- What a register pane is given: a layout, or the values of registers. -/
inductive Message where
  | layout (groups : List RegisterGroup)
  | update (file : RegisterFile)

/-- The pane after a message. Of a message that is refused, what has been done stays. -/
def after (p : RegisterPane) : Message → RegisterPane
  | .layout groups => ofLayout groups
  | .update file => (p.update file).2

/-- The pane after messages, from that without a layout. -/
def afterAll (messages : List Message) : RegisterPane :=
  messages.foldl after empty

/-- The number of hexadecimal digits for a number of bits. -/
def digitCount (width : Int) : Int :=
  ⌈(width : ℚ) / 4⌉

/-- What counts of messages: the registers of the latest layout, and the files of the updates
behind it. -/
structure Told where
  registers : List (Text × Int)
  files : List RegisterFile
  deriving DecidableEq

/-- What counts after one more message. -/
def Told.hear (t : Told) : Message → Told
  | .layout groups => ⟨groups.flatMap (·.registers), []⟩
  | .update file => { t with files := t.files ++ [file] }

/-- What counts of some messages. -/
def told (messages : List Message) : Told :=
  messages.foldl Told.hear ⟨[], []⟩

/-- Whether no two registers of a layout have the same name. -/
def Distinct (groups : List RegisterGroup) : Prop :=
  ((groups.flatMap (·.registers)).map (·.1)).Nodup

/-- Whether a file has none of the registers that are to be written with fewer than no digits. -/
def Writable (registers : List (Text × Int)) (file : RegisterFile) : Prop :=
  ∀ register ∈ registers, digitCount register.2 < 0 → file.get? register.1 = none

end RegisterPane

/-- A register had a value in one of some files and is in none behind it. The files before that one
are `earlier`. -/
def LatestIn (files : List RegisterFile) (name : Text) (earlier : List RegisterFile) (value : Int) :
    Prop :=
  ∃ file later, files = earlier ++ file :: later ∧ file.get? name = some value ∧ ∀ f ∈ later,
  f.get? name = none

/-- A cell shows what some files say about a register: the latest value, or dashes if there is none;
and it is marked if the register had another value in the file right before. -/
structure RegisterCell.Shows (files : List RegisterFile) (register : Text × Int)
    (cell : RegisterCell) : Prop where
  name : cell.name = register.1
  digits : cell.digits = RegisterPane.digitCount register.2
  dashes : (∀ file ∈ files, file.get? register.1 = none) →
    cell.text = String.ofList (List.replicate (RegisterPane.digitCount register.2).toNat '-')
  value : ∀ earlier value, LatestIn files register.1 earlier value →
    cell.text = hexText (RegisterPane.digitCount register.2) value
  changed : cell.changed = true ↔ ∃ earlier before value old,
    LatestIn files register.1 (earlier ++ [before]) value ∧
      before.get? register.1 = some old ∧ old ≠ value

/-! ## The latest file of a register -/

variable {files : List RegisterFile} {file : RegisterFile} {name : Text}
  {earlier : List RegisterFile}
  {value v : Int} {register : Text × Int} {cell : RegisterCell}

/-- A file with the register is the latest one. -/
theorem latestIn_concat_of_some (h : file.get? name = some v) :
    LatestIn (files ++ [file]) name earlier value ↔ earlier = files ∧ value = v := by
  constructor
  · intro hlatest
    obtain ⟨latest, later, heq, hvalue, hlater⟩ := hlatest
    rcases List.eq_nil_or_concat' later with rfl | ⟨front, last, rfl⟩
    · obtain ⟨rfl, hlast⟩ := List.append_inj' heq rfl
      obtain rfl : file = latest := List.singleton_inj.mp hlast
      exact ⟨rfl, Option.some.inj (hvalue.symm.trans h)⟩
    · -- The last file has the register, so it is not one behind the latest that does.
      rw [← List.cons_append, ← List.append_assoc] at heq
      obtain ⟨-, hlast⟩ := List.append_inj' heq rfl
      obtain rfl : file = last := List.singleton_inj.mp hlast
      rw [hlater file (List.mem_append_right _ List.mem_cons_self)] at h
      cases h
  · intro hboth
    obtain ⟨rfl, rfl⟩ := hboth
    exact ⟨file, [], rfl, h, fun f hf => by cases hf⟩

/-- A file without the register makes no difference. -/
theorem latestIn_concat_of_none (h : file.get? name = none) :
    LatestIn (files ++ [file]) name earlier value ↔ LatestIn files name earlier value := by
  constructor
  · intro hlatest
    obtain ⟨latest, later, heq, hvalue, hlater⟩ := hlatest
    rcases List.eq_nil_or_concat' later with rfl | ⟨front, last, rfl⟩
    · obtain ⟨-, hlast⟩ := List.append_inj' heq rfl
      obtain rfl : file = latest := List.singleton_inj.mp hlast
      rw [h] at hvalue
      cases hvalue
    · rw [← List.cons_append, ← List.append_assoc] at heq
      obtain ⟨hfront, -⟩ := List.append_inj' heq rfl
      exact ⟨latest, front, hfront, hvalue, fun f hf => hlater f (List.mem_append_left _ hf)⟩
  · intro hlatest
    obtain ⟨latest, later, rfl, hvalue, hlater⟩ := hlatest
    refine ⟨latest, later ++ [file], by simp, hvalue, ?_⟩
    intro f hf
    rcases List.mem_append.mp hf with hf | hf
    · exact hlater f hf
    · exact List.mem_singleton.mp hf ▸ h

namespace RegisterPane

/-! ## Cells of a layout -/

theorem digitsFor_eq (width : Int) : RegisterCell.digitsFor width = digitCount width := by
  have hceil : digitCount width = -(-width / 4) := Rat.ceil_intCast_div_natCast width 4
  unfold RegisterCell.digitsFor
  rw [hceil, Int.fdiv_eq_ediv_of_nonneg _ (by decide)]
  omega

/-- Where there is room for all cells, the room makes no difference. -/
theorem ofLayoutWithin_of_room {most : Int} {layout : List RegisterGroup}
    (h : ∀ r ∈ layout.flatMap (·.registers), (room most (RegisterCell.digitsFor r.2)).isOk = true) :
    ofLayoutWithin most layout = (.ok (), ofLayout layout) := by
  unfold ofLayoutWithin ofLayout
  rw [List.span_eq_takeWhile_dropWhile, List.takeWhile_eq_self_iff.mpr h,
    List.dropWhile_eq_nil_iff.mpr h]

/-- A new cell shows that there are no files yet. -/
theorem shows_blank (register : Text × Int) :
    (RegisterCell.blank register.1 register.2).Shows [] register := by
  have hnever {earlier : List RegisterFile} {value : Int} :
      ¬ LatestIn [] register.1 earlier value := by
    intro hlatest
    obtain ⟨latest, later, heq, -⟩ := hlatest
    exact List.cons_ne_nil _ _ (List.append_eq_nil_iff.mp heq.symm).2
  unfold RegisterCell.blank
  rw [digitsFor_eq]
  refine ⟨rfl, rfl, fun _ => rfl, fun _ _ hlatest => absurd hlatest hnever,
    iff_of_false Bool.false_ne_true ?_⟩
  intro hchanged
  obtain ⟨_, _, _, _, hlatest, -⟩ := hchanged
  exact hnever hlatest

/-- A cell for a register that has none comes behind the others. -/
theorem shows_place {registers : List (Text × Int)} {cells : List RegisterCell}
    (hcells : List.Forall₂ (RegisterCell.Shows files) registers cells)
    (hcell : cell.Shows files register) (hnew : register.1 ∉ registers.map (·.1)) :
    List.Forall₂ (RegisterCell.Shows files) (registers ++ [register]) (place cells cell) := by
  induction hcells with
  | nil => exact .cons hcell .nil
  | @cons first c registers cells hfirst hrest ih =>
    rw [List.map_cons, List.mem_cons, not_or] at hnew
    have hother : ¬ (c.name == cell.name) = true := by
      rw [beq_iff_eq, hfirst.name, hcell.name]
      exact Ne.symm hnew.1
    unfold place
    rw [if_neg hother]
    exact .cons hfirst (ih hnew.2)

/-- The cells of a layout, behind those that are there already. -/
theorem shows_foldl_place {placed registers : List (Text × Int)} {cells : List RegisterCell}
    (hcells : List.Forall₂ (RegisterCell.Shows []) placed cells)
    (hnames : ((placed ++ registers).map (·.1)).Nodup) :
    List.Forall₂ (RegisterCell.Shows []) (placed ++ registers)
      (registers.foldl (fun cells r => place cells (.blank r.1 r.2)) cells) := by
  induction registers generalizing placed cells with
  | nil => simpa using hcells
  | cons register rest ih =>
    have hnew : register.1 ∉ placed.map (·.1) := by
      intro hmem
      rw [List.map_append] at hnames
      exact (List.nodup_append.mp hnames).2.2 register.1 hmem register.1 List.mem_cons_self rfl
    rw [List.append_cons] at hnames ⊢
    exact ih (shows_place hcells (shows_blank register) hnew) hnames

end RegisterPane

namespace RegisterCell

/-! ## Cells of an update -/

/-- The mark compares with the file right before, if there is one. -/
theorem differs_iff (v : Int) :
    ((files.getLastD []).get? name).any (· != v) = true ↔
      ∃ earlier before old, earlier ++ [before] = files ∧
      before.get? name = some old ∧ old ≠ v := by
  simp only [Option.any_eq_true, bne_iff_ne]
  rcases List.eq_nil_or_concat' files with rfl | ⟨front, last, rfl⟩
  · constructor
    · intro hany
      obtain ⟨old, hold, -⟩ := hany
      cases hold
    · intro hbefore
      obtain ⟨earlier, before, -, heq, -⟩ := hbefore
      exact absurd (List.append_eq_nil_iff.mp heq).2 (List.cons_ne_nil _ _)
  · rw [List.getLastD_concat]
    constructor
    · intro hany
      obtain ⟨old, hold, hne⟩ := hany
      exact ⟨front, last, old, rfl, hold, hne⟩
    · intro hbefore
      obtain ⟨earlier, before, old, heq, hold, hne⟩ := hbefore
      obtain ⟨-, hlast⟩ := List.append_inj' heq rfl
      obtain rfl : before = last := List.singleton_inj.mp hlast
      exact ⟨old, hold, hne⟩

/-- **A cell after an update** shows what the files say with one more. -/
theorem Shows.updated (h : cell.Shows files register) (file : RegisterFile) :
    (RegisterPane.updateCell (files.getLastD []) file cell).Shows (files ++ [file]) register := by
  unfold RegisterPane.updateCell
  rw [h.name]
  cases hfile : file.get? register.1 with
  | none =>
    -- The text and the mark are those of before, but the next file will be compared with this one.
    exact {
      name := h.name
      digits := h.digits
      dashes := fun hall => h.dashes fun f hf => hall f (List.mem_append_left _ hf)
      value := fun earlier value hlatest =>
        h.value earlier value ((latestIn_concat_of_none hfile).mp hlatest)
      changed := by simpa only [latestIn_concat_of_none hfile] using h.changed }
  | some v =>
    exact {
      name := h.name
      digits := h.digits
      dashes := fun hall => by
        rw [hall file (List.mem_append_right _ List.mem_cons_self)] at hfile
        cases hfile
      value := fun earlier value hlatest => by
        obtain ⟨-, rfl⟩ := (latestIn_concat_of_some hfile).mp hlatest
        rw [← h.digits]
        exact upperHex_eq_hexText _ _
      changed := by
        refine (differs_iff v).trans ⟨?_, ?_⟩
        · intro hbefore
          obtain ⟨earlier, before, old, heq, hold, hne⟩ := hbefore
          exact ⟨earlier, before, v, old, (latestIn_concat_of_some hfile).mpr ⟨heq, rfl⟩, hold, hne⟩
        · intro hchanged
          obtain ⟨earlier, before, value, old, hlatest, hold, hne⟩ := hchanged
          obtain ⟨heq, rfl⟩ := (latestIn_concat_of_some hfile).mp hlatest
          exact ⟨earlier, before, old, heq, hold, hne⟩ }

/-- A cell cannot show its register of a file exactly if this would take fewer than no digits. -/
theorem Shows.defective_iff (h : cell.Shows files register) (file : RegisterFile) :
    RegisterPane.defective file cell = false ↔
      (RegisterPane.digitCount register.2 < 0 → file.get? register.1 = none) := by
  unfold RegisterPane.defective
  rw [h.name, h.digits, Bool.and_eq_false_iff, decide_eq_false_iff_not, Option.isSome_eq_false_iff,
    Option.isNone_iff_eq_none]
  exact Decidable.imp_iff_not_or.symm

end RegisterCell

namespace RegisterPane

variable {p : RegisterPane} {t : Told}

/-! ## Updates -/

/-- An update is accepted if every cell can show its register, and only then. -/
theorem update_of_forall (h : ∀ cell ∈ p.cells, defective file cell = false) :
    p.update file = (.ok (), ⟨p.cells.map (updateCell p.last file), file⟩) := by
  have hall : ∀ cell ∈ p.cells, (!defective file cell) = true :=
    fun cell hcell => by rw [h cell hcell, Bool.not_false]
  have hdone : p.cells.takeWhile (!defective file ·) = p.cells :=
    List.takeWhile_eq_self_iff.mpr hall
  have hleft : p.cells.dropWhile (!defective file ·) = [] := List.dropWhile_eq_nil_iff.mpr hall
  unfold update
  rw [List.span_eq_takeWhile_dropWhile, hdone, hleft]

theorem update_ok_iff :
    (p.update file).1 = .ok () ↔ ∀ cell ∈ p.cells, defective file cell = false := by
  refine ⟨fun h => ?_, fun h => by rw [update_of_forall h]⟩
  have hleft : p.cells.dropWhile (!defective file ·) = [] := by
    unfold update at h
    rw [List.span_eq_takeWhile_dropWhile] at h
    cases hrest : p.cells.dropWhile (!defective file ·) with
    | nil => rfl
    | cons cell rest =>
      rw [hrest] at h
      cases h
  intro cell hcell
  simpa using List.dropWhile_eq_nil_iff.mp hleft cell hcell

/-! ## The invariant -/

/-- A pane has a cell for each register that counts, under a name of its own; each shows what the
files say, and the last file is remembered. -/
structure Agrees (t : Told) (p : RegisterPane) : Prop where
  names : (t.registers.map (·.1)).Nodup
  cells : List.Forall₂ (RegisterCell.Shows t.files) t.registers p.cells
  last : p.last = t.files.getLastD []

theorem forall_defective_iff {registers : List (Text × Int)} {cells : List RegisterCell}
    (h : List.Forall₂ (RegisterCell.Shows files) registers cells) (file : RegisterFile) :
    (∀ cell ∈ cells, defective file cell = false) ↔ Writable registers file := by
  unfold Writable
  induction h with
  | nil => exact iff_of_true (fun _ hcell => by cases hcell) fun _ hregister => by cases hregister
  | cons hfirst _ ih =>
    rw [List.forall_mem_cons, List.forall_mem_cons, hfirst.defective_iff file, ih]

/-- **An update is accepted** unless it has a register that takes fewer than no digits. -/
theorem Agrees.update_ok_iff (h : Agrees t p) (file : RegisterFile) :
    (p.update file).1 = .ok () ↔ Writable t.registers file :=
  (RegisterPane.update_ok_iff).trans (forall_defective_iff h.cells file)

theorem find?_of_nodup {cells : List RegisterCell} (hnames : (cells.map (·.name)).Nodup)
    (hcell : cell ∈ cells) :
    cells.find? (·.name == cell.name) = some cell := by
  induction cells with
  | nil => cases hcell
  | cons first rest ih =>
    obtain ⟨hnew, hrest⟩ := List.nodup_cons.mp hnames
    rw [List.find?_cons]
    rcases List.mem_cons.mp hcell with rfl | hmem
    · rw [beq_self_eq_true]
    · have hother : first.name ≠ cell.name := by
        intro heq
        exact hnew (List.mem_map.mpr ⟨cell, hmem, heq.symm⟩)
      rw [beq_eq_false_iff_ne.mpr hother]
      exact ih hrest hmem

/-- **A cell is found under its name.** -/
theorem Agrees.cell?_eq (h : Agrees t p) (hcell : cell ∈ p.cells) :
    p.cell? cell.name = some cell := by
  have hsame {registers : List (Text × Int)} {cells : List RegisterCell}
      (hcells : List.Forall₂ (RegisterCell.Shows t.files) registers cells) :
        cells.map (·.name) = registers.map (·.1) := by
    induction hcells with
    | nil => rfl
    | cons hfirst _ ih => rw [List.map_cons, List.map_cons, hfirst.name, ih]
  have hnames := h.names
  rw [← hsame h.cells] at hnames
  exact find?_of_nodup hnames hcell

/-- A layout starts afresh, whatever the pane was. -/
theorem agrees_layout {groups : List RegisterGroup} (hnames : Distinct groups) (t : Told)
    (p : RegisterPane) :
    Agrees (t.hear (.layout groups)) (p.after (.layout groups)) where
  names := hnames
  cells := shows_foldl_place .nil hnames
  last := rfl

/-- **An update** takes every cell along, and is remembered. -/
theorem Agrees.update (h : Agrees t p) (hfile : Writable t.registers file) :
    Agrees (t.hear (.update file)) (p.after (.update file)) := by
  have hupdate := update_of_forall ((forall_defective_iff h.cells file).mpr hfile)
  have hafter : p.after (.update file) = ⟨p.cells.map (updateCell p.last file), file⟩ :=
    congrArg Prod.snd hupdate
  rw [hafter, h.last]
  exact {
    names := h.names
    cells := List.forall₂_map_right_iff.mpr (h.cells.imp fun _ _ hcell => hcell.updated file)
    last := List.getLastD_concat.symm }

/-- What a run of messages leaves. -/
theorem agrees_afterAll {messages : List Message}
    (hnames : ∀ groups, .layout groups ∈ messages → Distinct groups)
    (hfiles : ∀ file ∈ (told messages).files, Writable (told messages).registers file) :
    Agrees (told messages) (afterAll messages) := by
  induction messages using List.reverseRecOn with
  | nil => exact ⟨List.nodup_nil, .nil, rfl⟩
  | append_singleton messages message ih =>
    have htold : told (messages ++ [message]) = (told messages).hear message := List.foldl_concat ..
    have hafter : afterAll (messages ++ [message]) = (afterAll messages).after message :=
      List.foldl_concat ..
    rw [htold] at hfiles ⊢
    rw [hafter]
    cases message with
    | layout groups =>
      exact agrees_layout (hnames groups (List.mem_append_right _ List.mem_cons_self)) _ _
    | update file =>
      refine Agrees.update (ih (fun groups hgroups =>
        hnames groups (List.mem_append_left _ hgroups)) fun f hf => ?_) ?_
      · exact hfiles f (List.mem_append_left _ hf)
      · exact hfiles file (List.mem_append_right _ List.mem_cons_self)

/-! ## What is shown -/

/-- After some messages, the cells are those of the registers that count, in their order, and each
shows what the files say about its register. -/
def ShowsTold (messages : List Message) : Prop :=
  List.Forall₂ (RegisterCell.Shows (told messages).files) (told messages).registers
    (afterAll messages).cells

/-- Widths that are not negative ask for no digits that there are not. -/
theorem writable_of_widths {registers : List (Text × Int)}
    (hwidths : ∀ register ∈ registers, 0 ≤ register.2) (file : RegisterFile) :
    Writable registers file := by
  intro register hregister hdigits
  have hwidth := hwidths register hregister
  rw [← digitsFor_eq, RegisterCell.digitsFor, Int.fdiv_eq_ediv_of_nonneg _ (by decide)] at hdigits
  omega

theorem widths_told {messages : List Message}
    (hwidths : ∀ groups, .layout groups ∈ messages →
      ∀ register ∈ groups.flatMap (·.registers), 0 ≤ register.2) :
    ∀ register ∈ (told messages).registers, 0 ≤ register.2 := by
  induction messages using List.reverseRecOn with
  | nil => exact fun _ hregister => by cases hregister
  | append_singleton messages message ih =>
    have htold : told (messages ++ [message]) = (told messages).hear message := List.foldl_concat ..
    rw [htold]
    cases message with
    | layout groups => exact hwidths groups (List.mem_append_right _ List.mem_cons_self)
    | update file => exact ih fun groups hgroups => hwidths groups (List.mem_append_left _ hgroups)

/-- **The register pane shows the latest values and marks exactly the changes**, after layouts and
updates in any order, as long as the names in a layout are distinct and no width is negative. Each
cell is the one that is found under its name, and no update is refused. -/
theorem shows_latest {messages : List Message}
    (hnames : ∀ groups, .layout groups ∈ messages → Distinct groups)
    (hwidths : ∀ groups, .layout groups ∈ messages →
      ∀ register ∈ groups.flatMap (·.registers), 0 ≤ register.2) :
    ShowsTold messages ∧
      (∀ cell ∈ (afterAll messages).cells, (afterAll messages).cell? cell.name = some cell) ∧
      ∀ file, ((afterAll messages).update file).1 = .ok () := by
  have hwritable := writable_of_widths (widths_told hwidths)
  have hagrees := agrees_afterAll hnames fun file _ => hwritable file
  exact ⟨hagrees.cells, fun cell hcell => hagrees.cell?_eq hcell, fun file =>
    (hagrees.update_ok_iff file).mpr (hwritable file)⟩

/-- Two registers of 8 and 12 bits. -/
def twoRegisters : List RegisterGroup :=
  [⟨"g", [("A", 8), ("B", 12)]⟩]

/-- Updates with one or both of two registers, the first one from before the latest layout. -/
def partialUpdates : List Message :=
  [.layout twoRegisters, .update [("A", 1)], .layout twoRegisters, .update [("A", 2), ("B", 3)],
    .update [("B", 4)], .update [("A", 5)]]

/-- The mark of `B` outlives the last update, and `A` has none since the update right before did not
have it. -/
theorem shows_latest_partialUpdates :
    ∃ a b, (afterAll partialUpdates).cells = [a, b] ∧ a.text = "05" ∧ a.changed = false ∧
    b.text = "004" ∧
      b.changed = true := by
  let bothFile : RegisterFile := [("A", 2), ("B", 3)]
  let fileB : RegisterFile := [("B", 4)]
  let fileA : RegisterFile := [("A", 5)]
  have htold : told partialUpdates = ⟨[("A", 8), ("B", 12)], [bothFile, fileB] ++ [fileA]⟩ := by
      decide +kernel
  have hnames : ∀ groups, .layout groups ∈ partialUpdates → Distinct groups := by
    intro groups hgroups
    obtain rfl : groups = twoRegisters := by simpa [partialUpdates] using hgroups
    show List.Nodup _
    decide
  have hwidths : ∀ groups, .layout groups ∈ partialUpdates →
      ∀ register ∈ groups.flatMap (·.registers), 0 ≤ register.2 := by
    intro groups hgroups
    obtain rfl : groups = twoRegisters := by simpa [partialUpdates] using hgroups
    decide
  obtain ⟨hshows, -⟩ := shows_latest hnames hwidths
  unfold ShowsTold at hshows
  rw [htold] at hshows
  obtain ⟨a, _, ha, hrest, hcells⟩ := List.forall₂_cons_left_iff.mp hshows
  obtain ⟨b, _, hb, hnil, rfl⟩ := List.forall₂_cons_left_iff.mp hrest
  obtain rfl := List.forall₂_nil_left_iff.mp hnil
  have hlatestA {earlier : List RegisterFile} {value : Int} :
      LatestIn ([bothFile, fileB] ++ [fileA]) "A" earlier value ↔
        earlier = [bothFile] ++ [fileB] ∧ value = 5 :=
    latestIn_concat_of_some rfl
  have hlatestB : LatestIn ([bothFile, fileB] ++ [fileA]) "B" [bothFile] 4 :=
    ⟨fileB, [fileA], rfl, rfl, by decide⟩
  refine ⟨a, b, hcells, ?_, ?_, ?_, ?_⟩
  · exact (ha.value _ 5 (hlatestA.mpr ⟨rfl, rfl⟩)).trans (by decide +kernel)
  · rw [← Bool.not_eq_true, ha.changed]
    intro hchanged
    obtain ⟨earlier, before, value, old, hlatest, hold, -⟩ := hchanged
    obtain ⟨-, hlast⟩ := List.append_inj' (hlatestA.mp hlatest).1 rfl
    obtain rfl := List.singleton_inj.mp hlast
    cases hold
  · exact (hb.value _ 4 hlatestB).trans (by decide +kernel)
  · exact hb.changed.mpr ⟨[], bothFile, 4, 3, hlatestB, rfl, by decide⟩

end RegisterPane

end Chip8
