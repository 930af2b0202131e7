import Chip8.Proofs.Debugger.Edits

/-!
# Following the breakpoint pane

The pane changes its rows by their number, the debugger its breakpoints by what they are: an update
or a removal goes to the first one that is equal. When two rows have come to be equal, the two of
them go to different places, and from then on the orders drift apart. What is kept is that the rows
and the breakpoints are the same up to order (`Shows`). Each row keeps its breakpoint beside the
texts of its cells, and what is kept of these is that they are the ones of the breakpoint
(`Legible`). `Follows` says of a change of the rows that its edits take the debugger along and that
it leaves the texts right; there is one lemma for each change.
-/

namespace Chip8

/-- What is taken out by its number is taken out as the first of its kind, up to order. -/
theorem eraseIdx_perm_erase {l l' : List Breakpoint} (h : l.Perm l') {n : Nat} (hn : n < l.length) :
    (l.eraseIdx n).Perm (l'.erase l[n]) := by
  have hmem : l[n] ∈ l := List.getElem_mem hn
  have hboth : (l[n] :: l.eraseIdx n).Perm (l[n] :: l.erase l[n]) :=
    (List.getElem_cons_eraseIdx_perm hn).trans (List.perm_cons_erase hmem)
  exact hboth.cons_inv.trans (h.erase _)

/-- What is given to another one by its number is given to it as the first of its kind, up
to order. -/
theorem set_perm_replace {l l' : List Breakpoint} (h : l.Perm l') {n : Nat} (hn : n < l.length)
    (new : Breakpoint) :
    (l.set n new).Perm (l'.replace l[n] new) := by
  have hmem : l[n] ∈ l' := h.mem_iff.mp (List.getElem_mem hn)
  calc
    (l.set n new).Perm (new :: l.eraseIdx n) := List.set_perm_cons_eraseIdx hn new
    List.Perm _ (new :: l'.erase l[n]) := (eraseIdx_perm_erase h hn).cons new
    List.Perm _ (l'.replace l[n] new) := (perm_replace hmem new).symm

namespace BreakpointRow

/-- The cells of a row show its breakpoint. -/
structure Tells (row : BreakpointRow) : Prop where
  kind : row.kind = row.breakpoint.kind.label
  condition : row.condition = row.breakpoint.describe
  status : row.status = if row.breakpoint.enabled then "Active" else "Disabled"

theorem tells_ofBreakpoint (b : Breakpoint) : (ofBreakpoint b).Tells :=
  ⟨rfl, rfl, rfl⟩

/-- Only the status is written anew, so another breakpoint has to be of the same kind and
condition. -/
theorem Tells.hold {row : BreakpointRow} (h : row.Tells) {b : Breakpoint}
    (hkind : b.kind = row.breakpoint.kind) (hdescribe : b.describe = row.breakpoint.describe) :
    (row.hold b).Tells :=
  ⟨hkind ▸ h.kind, hdescribe ▸ h.condition, rfl⟩

theorem Tells.status_eq_iff {row : BreakpointRow} (h : row.Tells) :
    row.status = "Active" ↔ row.breakpoint.enabled = true := by
  rw [h.status]
  cases row.breakpoint.enabled with
  | true => decide
  | false => decide

end BreakpointRow

namespace BreakpointPane

variable {p : BreakpointPane} {d : Debugger}

/-- A pane has the breakpoints of a debugger, up to order. -/
def Shows (p : BreakpointPane) (d : Debugger) : Prop :=
  p.breakpoints.Perm d.breakpoints

/-- The cells of every row show its breakpoint. -/
def Legible (p : BreakpointPane) : Prop :=
  ∀ row ∈ p.rows, row.Tells

/-- Whoever follows some edits from one pane has the breakpoints of another one, which is as legible
as the first. -/
structure Follows (p : BreakpointPane) (edits : List BreakpointEdit) (p' : BreakpointPane) :
    Prop where
  shows : ∀ d, p.Shows d → p'.Shows (d.followAll edits)
  legible : p.Legible → p'.Legible

theorem Follows.refl (p : BreakpointPane) : p.Follows [] p :=
  ⟨fun _ h => h, fun h => h⟩

theorem Follows.trans {edits edits' : List BreakpointEdit} {p' p'' : BreakpointPane}
    (h : p.Follows edits p') (h' : p'.Follows edits' p'') : p.Follows (edits ++ edits') p'' where
  shows d hd := by
    show p''.Shows ((edits ++ edits').foldl Debugger.follow d)
    rw [List.foldl_append]
    exact h'.shows _ (h.shows d hd)
  legible hp := h'.legible (h.legible hp)

/-! ## Additions -/

/-- An addition is rejected if its text is no breakpoint, or one that a row has. -/
def Rejects (p : BreakpointPane) (kind : BreakpointKind) (typed : Text) : Prop :=
  ∀ b, Breakpoint.parse kind typed = .ok b → b ∈ p.breakpoints

theorem follows_append (p : BreakpointPane) {b : Breakpoint} (hnew : ¬ p.breakpoints.contains b) :
    p.Follows [.added b] { p with rows := p.rows ++ [.ofBreakpoint b] } where
  shows d hd := by
    have hmem : d.breakpoints.contains b = false := by
      rw [← hd.contains_eq]
      exact Bool.eq_false_iff.mpr hnew
    have hadd : d.add b = { d with breakpoints := d.breakpoints ++ [b] } := by
      unfold Debugger.add
      rw [hmem, if_neg Bool.false_ne_true]
    show (BreakpointPane.breakpoints _).Perm (d.add b).breakpoints
    rw [hadd]
    unfold breakpoints
    rw [List.map_append]
    exact hd.append_right [b]
  legible hp row hrow := by
    rcases List.mem_append.mp hrow with hold | hlast
    · exact hp row hold
    · rw [List.mem_singleton.mp hlast]
      exact BreakpointRow.tells_ofBreakpoint b

theorem follows_add (p : BreakpointPane) (kind : BreakpointKind) (typed : Text) :
    p.Follows (p.add kind typed).2.1 (p.add kind typed).2.2 := by
  unfold add
  split
  next => exact .refl p
  next b _ =>
    split
    next => exact .refl p
    next hnew => exact p.follows_append hnew

/-- A rejected addition changes no row and edits nothing. -/
theorem add_of_rejects {kind : BreakpointKind} {typed : Text} (h : p.Rejects kind typed) :
    (p.add kind typed).2 = ([], p) := by
  unfold add
  split
  next => rfl
  next b hparse => rw [if_pos (List.contains_iff_mem.mpr (h b hparse))]

/-- What is submitted is added, and only the entry field is touched besides. -/
theorem submit_eq (p : BreakpointPane) (kind : BreakpointKind) (typed : Text) :
    (p.submit kind typed).2.1 = (p.add kind typed).2.1 ∧
      (p.submit kind typed).2.2.rows = (p.add kind typed).2.2.rows := by
  unfold submit add breakpoints
  cases Breakpoint.parse kind typed with
  | error e => exact ⟨rfl, rfl⟩
  | ok b =>
    dsimp only
    cases (p.rows.map (·.breakpoint)).contains b with
    | true => exact ⟨rfl, rfl⟩
    | false => exact ⟨rfl, rfl⟩

theorem follows_submit (p : BreakpointPane) (kind : BreakpointKind) (typed : Text) :
    p.Follows (p.submit kind typed).2.1 (p.submit kind typed).2.2 := by
  obtain ⟨hedits, hrows⟩ := p.submit_eq kind typed
  have hadd := p.follows_add kind typed
  rw [hedits]
  refine ⟨fun d hd => ?_, fun hp => ?_⟩
  · show (List.map _ (p.submit kind typed).2.2.rows).Perm _
    rw [hrows]
    exact hadd.shows d hd
  · unfold Legible
    rw [hrows]
    exact hadd.legible hp

/-! ## Rows -/

theorem lt_length_breakpoints (row : Fin p.rows.length) : row.val < p.breakpoints.length := by
  unfold breakpoints
  rw [List.length_map]
  exact row.isLt

theorem getElem_breakpoints (row : Fin p.rows.length) (h : row.val < p.breakpoints.length) :
    p.breakpoints[row.val] = (p.rows.get row).breakpoint :=
  List.getElem_map _

theorem follows_toggle (p : BreakpointPane) (row : Fin p.rows.length) :
    p.Follows (p.toggle row).1 (p.toggle row).2 where
  shows d hd := by
    have hset := set_perm_replace hd (lt_length_breakpoints row)
      { p.rows[row.val].breakpoint with enabled := !p.rows[row.val].breakpoint.enabled }
    rw [getElem_breakpoints] at hset
    show (List.map (·.breakpoint) (p.rows.set row.val _)).Perm _
    rw [List.map_set]
    exact hset
  legible hp r hr := by
    rcases List.mem_or_eq_of_mem_set hr with hold | rfl
    · exact hp r hold
    · exact (hp _ (List.getElem_mem row.isLt)).hold rfl rfl

theorem follows_remove (p : BreakpointPane) (row : Fin p.rows.length) :
    p.Follows (p.remove row).1 (p.remove row).2 where
  shows d hd := by
    have herase := eraseIdx_perm_erase hd (lt_length_breakpoints row)
    rw [getElem_breakpoints] at herase
    show (List.map (·.breakpoint) (p.rows.eraseIdx row.val)).Perm _
    rw [← List.eraseIdx_map]
    exact herase
  legible hp r hr := hp r (List.mem_of_mem_eraseIdx hr)

/-- Any rows, one after the other. -/
theorem follows_removeAll (p : BreakpointPane) (rows : List Nat) :
    p.Follows (p.removeAll rows).1 (p.removeAll rows).2 := by
  induction rows generalizing p with
  | nil => exact .refl p
  | cons row rest ih =>
    unfold removeAll
    split
    next h => exact (p.follows_remove ⟨row, h⟩).trans (ih _)
    next => exact ih p

theorem follows_select (p : BreakpointPane) (rows : List Nat) : p.Follows [] (p.select rows) where
  shows d hd := by
    have hsame : (p.select rows).breakpoints = p.breakpoints := by
      unfold select breakpoints
      rw [List.map_map]
      show p.rows.zipIdx.map ((·.breakpoint) ∘ Prod.fst) = _
      rw [← List.map_map, List.zipIdx_map_fst]
    show (p.select rows).breakpoints.Perm d.breakpoints
    rw [hsame]
    exact hd
  legible hp r hr := by
    obtain ⟨⟨row, n⟩, hmem, rfl⟩ := List.mem_map.mp hr
    have htells := hp row (List.fst_mem_of_mem_zipIdx hmem)
    exact ⟨htells.kind, htells.condition, htells.status⟩

end BreakpointPane

end Chip8
