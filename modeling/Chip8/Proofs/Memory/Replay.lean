import Chip8.Memory

/-!
# Logs that can be replayed

A log says of each access what it found: a read the byte that it gave, a write the byte that it put
out. `Fits` says of a memory that it looks like that to every access of a log, one after the other;
then `replay` makes the writes of the log, and `rewind` takes them back from the last to the first.
Rewinding what fits gives the memory of before (`Fits.rewind_replay`).

`Accessed` says that a memory has come out of another one by a list of accesses: these and no others
have been logged, they fit the memory of before, and their writes are all that has changed. `reads`
and `writes` are the accesses of a block, without those that have no cell; blocks that are fetched
or stored make exactly these (`accessed_fetchBlock`, `accessed_storeBlock`).
-/

namespace Chip8.Memory

variable {m m' m'' : Memory} {log log' : List Access}

/-! ## Replaying and rewinding -/

/-- Whether an access finds in a memory what it says: the byte that it gives, or the one that it
puts out. -/
def Finds (m : Memory) : Access → Prop
  | .read a b => m.get? a = some b
  | .write a _ previous => m.get? a = some previous

/-- Makes the write of an access. -/
def redo (m : Memory) : Access → Memory
  | .read _ _ => m
  | .write a b _ => m.set a b

/-- Takes the write of an access back. -/
def undo (m : Memory) : Access → Memory
  | .read _ _ => m
  | .write a _ previous => m.set a previous

/-- Makes the writes of a log in their order. -/
def replay (m : Memory) (log : List Access) : Memory :=
  log.foldl redo m

/-- Takes the writes of a log back, the last one first. -/
def rewind (m : Memory) (log : List Access) : Memory :=
  log.reverse.foldl undo m

/-- Every access of a log finds what it says, as the accesses before it have left the memory. -/
def Fits (m : Memory) : List Access → Prop
  | [] => True
  | access :: rest => m.Finds access ∧ (m.redo access).Fits rest

/-- A read of what a cell holds. -/
theorem finds_read {a : Int} (h : m.contains a = true) : m.Finds (.read a (m.getD a)) := by
  show m.get? a = some ((m.get? a).getD 0)
  cases hb : m.get? a with
  | none =>
    rw [get?_eq_none_iff, h] at hb
    cases hb
  | some b => rfl

theorem undo_redo {access : Access} (h : m.Finds access) : (m.redo access).undo access = m := by
  cases access with
  | read a b => rfl
  | write a b previous => exact set_set_of_get? h

theorem replay_append (m : Memory) (log log' : List Access) :
    m.replay (log ++ log') = (m.replay log).replay log' :=
  List.foldl_append

theorem fits_append (m : Memory) (log log' : List Access) :
    m.Fits (log ++ log') ↔ m.Fits log ∧ (m.replay log).Fits log' := by
  induction log generalizing m with
  | nil => simp [Fits, replay]
  | cons access rest ih =>
    have hreplay : m.replay (access :: rest) = (m.redo access).replay rest := rfl
    show m.Finds access ∧ (m.redo access).Fits (rest ++ log') ↔
      (m.Finds access ∧ (m.redo access).Fits rest) ∧ _
    rw [hreplay, ih, and_assoc]

/-- **Rewinding a log that fits** gives the memory of before. -/
theorem Fits.rewind_replay (h : m.Fits log) : (m.replay log).rewind log = m := by
  induction log generalizing m with
  | nil => rfl
  | cons access rest ih =>
    obtain ⟨hfinds, hrest⟩ := h
    have hlast := ih hrest
    unfold rewind at hlast ⊢
    -- The access made first is the last one to be taken back.
    have hreplay : m.replay (access :: rest) = (m.redo access).replay rest := rfl
    rw [List.reverse_cons, List.foldl_append, hreplay, hlast]
    exact undo_redo hfinds

theorem Finds.contains {access : Access} (h : m.Finds access) :
    m.contains access.address = true := by
  cases access with
  | read a b => exact contains_of_get? h
  | write a b previous => exact contains_of_get? h

theorem contains_redo (m : Memory) (access : Access) (a : Int) :
    (m.redo access).contains a = m.contains a := by
  unfold contains
  cases access with
  | read => rfl
  | write => simp [redo]

/-- A log that fits is about cells of the memory. -/
theorem Fits.contains (h : m.Fits log) : ∀ access ∈ log, m.contains access.address = true := by
  induction log generalizing m with
  | nil => simp
  | cons access rest ih =>
    obtain ⟨hfinds, hrest⟩ := h
    intro other hother
    rcases List.mem_cons.mp hother with rfl | hmem
    · exact hfinds.contains
    · rw [← m.contains_redo access]
      exact ih hrest other hmem

/-! ## The accesses between two memories -/

/-- The second memory has come out of the first by a list of accesses. -/
structure Accessed (m : Memory) (accesses : List Access) (m' : Memory) : Prop where
  logged : m'.log = m.log ++ accesses
  fits : m.Fits accesses
  replays : m'.clearLog = m.clearLog.replay accesses

theorem finds_congr {access : Access} (h : m.cells = m'.cells) :
    m.Finds access ↔ m'.Finds access := by
  unfold Finds get?
  rw [h]

theorem redo_cells_congr (access : Access) (h : m.cells = m'.cells) :
    (m.redo access).cells = (m'.redo access).cells := by
  cases access with
  | read => exact h
  | write a b previous => exact cells_set_congr a b h

/-- The log of a memory has nothing to do with what fits it. -/
theorem Fits.congr (hm : m.Fits log) (h : m.cells = m'.cells) : m'.Fits log := by
  induction log generalizing m m' with
  | nil => trivial
  | cons access rest ih =>
    obtain ⟨hfinds, hrest⟩ := hm
    exact ⟨(finds_congr h).mp hfinds, ih hrest (redo_cells_congr access h)⟩

theorem clearLog_redo (m : Memory) (access : Access) :
    (m.redo access).clearLog = m.clearLog.redo access := by
  cases access with
  | read => rfl
  | write a b previous => exact m.clearLog_set a b

theorem clearLog_replay (m : Memory) (log : List Access) :
    (m.replay log).clearLog = m.clearLog.replay log := by
  induction log generalizing m with
  | nil => rfl
  | cons access rest ih =>
    show ((m.redo access).replay rest).clearLog = (m.clearLog.redo access).replay rest
    rw [ih, clearLog_redo]

theorem Accessed.cells (h : Accessed m log m') : m'.cells = (m.replay log).cells := by
  have hcells := congrArg Memory.cells h.replays
  rw [← clearLog_replay] at hcells
  exact hcells

theorem Accessed.refl (m : Memory) : Accessed m [] m :=
  ⟨(List.append_nil _).symm, trivial, rfl⟩

theorem Accessed.trans (h : Accessed m log m') (h' : Accessed m' log' m'') :
    Accessed m (log ++ log') m'' where
  logged := by rw [h'.logged, h.logged, List.append_assoc]
  fits := (m.fits_append log log').mpr ⟨h.fits, h'.fits.congr h.cells⟩
  replays := by rw [h'.replays, h.replays, replay_append]

/-- A single access that finds what it says, is made and logged. -/
theorem Accessed.single (access : Access) (h : m.Finds access) :
    Accessed m [access] ((m.redo access).record access) where
  logged := by
    have hlog : (m.redo access).log = m.log := by
      cases access with
      | read => rfl
      | write a b previous => exact m.log_set a b
    show (m.redo access).log ++ [access] = _
    rw [hlog]
  fits := ⟨h, trivial⟩
  replays := clearLog_redo m access

/-! ## Blocks -/

/-- The reads of a block of `count` cells, as far as there are any. -/
def reads (m : Memory) (a : Int) : Nat → List Access
  | 0 => []
  | count + 1 => ((m.get? a).map (.read a)).toList ++ m.reads (a + 1) count

/-- The writes that put bytes into a block of cells, as far as there are any. -/
def writes (m : Memory) (a : Int) : List UInt8 → List Access
  | [] => []
  | b :: rest => ((m.get? a).map (.write a b)).toList ++ m.writes (a + 1) rest

theorem reads_congr (a : Int) (count : Nat) (h : m.cells = m'.cells) :
    m.reads a count = m'.reads a count := by
  induction count generalizing a with
  | zero => rfl
  | succ count ih =>
    unfold reads get?
    rw [h, ih]

/-- Only the cells of the block matter. -/
theorem writes_congr {a : Int} (bytes : List UInt8) (h : ∀ c, a ≤ c → m.get? c = m'.get? c) :
    m.writes a bytes = m'.writes a bytes := by
  induction bytes generalizing a with
  | nil => rfl
  | cons b rest ih =>
    have hrest : ∀ c, a + 1 ≤ c → m.get? c = m'.get? c := fun c hc => h c (by omega)
    unfold writes
    rw [h a (Int.le_refl a), ih hrest]

theorem accessed_fetchCell (m : Memory) (a : Int) :
    Accessed m ((m.get? a).map (.read a)).toList (m.fetchCell a).2 := by
  unfold fetchCell
  cases hb : m.get? a with
  | none => exact .refl m
  | some b => exact .single (.read a b) hb

theorem accessed_storeCell (m : Memory) (a : Int) (b : UInt8) :
    Accessed m ((m.get? a).map (.write a b)).toList (m.storeCell a b) := by
  unfold storeCell
  cases hb : m.get? a with
  | none => exact .refl m
  | some previous => exact .single (.write a b previous) hb

/-- **Fetching a block** reads its cells one after the other. -/
theorem accessed_fetchBlock (m : Memory) (a : Int) (count : Nat) :
    Accessed m (m.reads a count) (m.fetchBlock a count).2 := by
  induction count generalizing m a with
  | zero => exact .refl m
  | succ count ih =>
    have hrest := ih (m.fetchCell a).2 (a + 1)
    rw [reads_congr (a + 1) count (m.cells_fetchCell a)] at hrest
    exact (m.accessed_fetchCell a).trans hrest

/-- **Storing a block** writes its cells one after the other. -/
theorem accessed_storeBlock (m : Memory) (a : Int) (bytes : List UInt8) :
    Accessed m (m.writes a bytes) (m.storeBlock a bytes) := by
  induction bytes generalizing m a with
  | nil => exact .refl m
  | cons b rest ih =>
    have hrest := ih (m.storeCell a b) (a + 1)
    rw [writes_congr rest fun c hc => m.get?_storeCell_ne b (by omega)] at hrest
    exact (m.accessed_storeCell a b).trans hrest

/-- A value that fits into a cell is stored as the byte that it is. -/
theorem storeValues_cons {a value : Int} (rest : List Int) (h0 : 0 ≤ value) (h1 : value ≤ 0xFF) :
    m.storeValues a (value :: rest) = (m.storeCell a (UInt8.ofNat value.toNat)).storeValues
      (a + 1) rest := by
  rw [storeValues]
  unfold storeCell write
  cases hb : m.get? a with
  | none => rw [(m.get?_eq_none_iff a).mp hb, if_neg Bool.false_ne_true]
  | some previous =>
    rw [contains_of_get? hb, if_pos rfl]
    simp only [h0, h1, and_self, if_true]

/-- Storing values that all fit is storing their bytes. -/
theorem storeValues_eq_storeBlock (m : Memory) (a : Int) {values : List Int}
    (h : ∀ n ∈ values, 0 ≤ n ∧ n ≤ 0xFF) :
    m.storeValues a values = (.ok (), m.storeBlock a
      (values.map fun n => UInt8.ofNat n.toNat)) := by
  induction values generalizing m a with
  | nil => rfl
  | cons value rest ih =>
    obtain ⟨h0, h1⟩ := h value List.mem_cons_self
    rw [storeValues_cons rest h0 h1, ih _ _ fun n hn => h n (List.mem_cons_of_mem _ hn)]
    rfl

end Chip8.Memory
