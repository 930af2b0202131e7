import Chip8.Pane.Breakpoints
import Chip8.Proofs.Distinct
import Mathlib.Data.List.Induction

/-!
# Removing a selection

A table tells which of its cells are selected, in an order of its own and one cell for each
column. `Reports` is all that is known of that. The rows of these cells, each once and the
highest first, are the selected rows whatever the order was (`rowsDown_of_reports`). Rows that
are removed from the highest one on leave the rows in front of them where they are, so that
induction from the last row on shows what is left and what is told (`removeAll_selection`). The
main result is `removes_selected`.
-/

namespace Chip8.BreakpointPane

variable {p : BreakpointPane} {cells : List BreakpointCell}

/-- Whether some cells are those of the selected rows. In which order they come, and how often, is
left open. -/
def Reports (p : BreakpointPane) (cells : List BreakpointCell) : Prop :=
  ∀ n, (∃ column, ⟨n, column⟩ ∈ cells) ↔ ∃ row, p.rows[n]? = some row ∧ row.selected = true

/-- The numbers of the selected rows, the highest first. -/
def selection (rows : List BreakpointRow) : List Nat :=
  ((rows.zipIdx.filter (·.1.selected)).map (·.2)).reverse

/-- What is left of some rows without the selected ones. -/
def unselected (rows : List BreakpointRow) : List BreakpointRow :=
  rows.filter (!·.selected)

/-- What is told about the removal of the selected rows: the highest one comes first. -/
def removals (rows : List BreakpointRow) : List BreakpointEdit :=
  (rows.filter (·.selected)).reverse.map fun row => .removed row.breakpoint

/-! ## Rows in descending order -/

theorem mem_rowsDown_iff {n : Nat} : n ∈ rowsDown cells ↔ ∃ column, ⟨n, column⟩ ∈ cells := by
  unfold rowsDown
  rw [List.mem_mergeSort, List.mem_eraseDups, List.mem_map]
  constructor
  · rintro ⟨⟨row, column⟩, hcell, rfl⟩
    exact ⟨column, hcell⟩
  · rintro ⟨column, hcell⟩
    exact ⟨_, hcell, rfl⟩

theorem nodup_rowsDown (cells : List BreakpointCell) : (rowsDown cells).Nodup :=
  (List.mergeSort_perm _ _).nodup_iff.mpr (nodup_eraseDups _)

theorem descending_rowsDown (cells : List BreakpointCell) : (rowsDown cells).Pairwise (· ≥ ·) := by
  have htrans : ∀ a b c : Nat, decide (b ≤ a) = true → decide (c ≤ b) = true →
      decide (c ≤ a) = true := by
    intro a b c hab hbc
    rw [decide_eq_true_eq] at hab hbc ⊢
    omega
  have htotal : ∀ a b : Nat, (decide (b ≤ a) || decide (a ≤ b)) = true := by
    intro a b
    rw [Bool.or_eq_true, decide_eq_true_eq, decide_eq_true_eq]
    omega
  exact (List.pairwise_mergeSort htrans htotal _).imp fun hle => of_decide_eq_true hle

theorem mem_selection_iff {rows : List BreakpointRow} {n : Nat} :
    n ∈ selection rows ↔ ∃ row, rows[n]? = some row ∧ row.selected = true := by
  unfold selection
  rw [List.mem_reverse, List.mem_map]
  constructor
  · rintro ⟨⟨row, m⟩, hmem, rfl⟩
    obtain ⟨hindex, hselected⟩ := List.mem_filter.mp hmem
    exact ⟨row, List.mem_zipIdx_iff_getElem?.mp hindex, hselected⟩
  · rintro ⟨row, hrow, hselected⟩
    exact ⟨(row, n), List.mem_filter.mpr ⟨List.mem_zipIdx_iff_getElem?.mpr hrow, hselected⟩, rfl⟩

/-- The last row comes first, if it is selected. -/
theorem selection_concat (rows : List BreakpointRow) (last : BreakpointRow) :
    selection (rows ++ [last]) = if last.selected then rows.length :: selection rows
      else selection rows := by
  unfold selection
  rw [List.zipIdx_append, List.filter_append, List.map_append, List.reverse_append, Nat.zero_add]
  cases hselected : last.selected with
  | true => simp [hselected]
  | false => simp [hselected]

theorem lt_of_mem_selection {rows : List BreakpointRow} {n : Nat} (h : n ∈ selection rows) :
    n < rows.length := by
  obtain ⟨row, hrow, -⟩ := mem_selection_iff.mp h
  exact (List.getElem?_eq_some_iff.mp hrow).1

theorem descending_selection (rows : List BreakpointRow) : (selection rows).Pairwise (· > ·) := by
  induction rows using List.reverseRecOn with
  | nil => exact .nil
  | append_singleton rows last ih =>
    rw [selection_concat]
    split
    · exact .cons (fun n hn => lt_of_mem_selection hn) ih
    · exact ih

/-- **Whatever order the cells come in**, their rows are the selected ones, the highest first. -/
theorem rowsDown_of_reports (h : p.Reports cells) : rowsDown cells = selection p.rows := by
  have hdescending := descending_selection p.rows
  have hnodup : (selection p.rows).Nodup := hdescending.imp fun hgt => Nat.ne_of_gt hgt
  have hperm : (rowsDown cells).Perm (selection p.rows) := by
    rw [List.perm_ext_iff_of_nodup (nodup_rowsDown cells) hnodup]
    intro n
    rw [mem_rowsDown_iff, mem_selection_iff]
    exact h n
  exact hperm.eq_of_pairwise (fun a b _ _ hab hba => Nat.le_antisymm hba hab)
    (descending_rowsDown cells)
    (hdescending.imp fun hgt => Nat.le_of_lt hgt)

/-! ## Removing them one after the other -/

/-- A row in front of others is taken out from between them. -/
theorem remove_between (front back : List BreakpointRow) (row : BreakpointRow) (entry : Text)
    (ns : List Nat) :
    removeAll ⟨front ++ row :: back, entry⟩ (front.length :: ns) =
      (.removed row.breakpoint :: (removeAll ⟨front ++ back, entry⟩ ns).1,
        (removeAll ⟨front ++ back, entry⟩ ns).2) := by
  have hlt : front.length < (front ++ row :: back).length := by
    rw [List.length_append, List.length_cons]
    omega
  have hremove : remove ⟨front ++ row :: back, entry⟩ ⟨front.length, hlt⟩ =
      ([.removed row.breakpoint], ⟨front ++ back, entry⟩) := by
    unfold remove
    simp [List.eraseIdx_append_of_length_le]
  rw [removeAll, dif_pos hlt, hremove]
  rfl

/-- **Removing the selection** of some rows leaves the others, and all rows behind them; what is
told goes from the highest row down. -/
theorem removeAll_selection (rows back : List BreakpointRow) (entry : Text) :
    removeAll ⟨rows ++ back, entry⟩ (selection rows) =
      (removals rows, ⟨unselected rows ++ back, entry⟩) := by
  -- The last row is the first one to go, so the rows come one by one from the end, and those done
  -- with are in `back`.
  induction rows using List.reverseRecOn generalizing back with
  | nil => rfl
  | append_singleton rows last ih =>
    have hback : rows ++ [last] ++ back = rows ++ last ::
        back := by rw [List.append_assoc, List.singleton_append]
    unfold removals unselected at ih ⊢
    rw [selection_concat, hback]
    cases hselected : last.selected with
    | true =>
      rw [if_pos rfl, remove_between, ih back]
      simp [hselected]
    | false =>
      rw [if_neg Bool.false_ne_true, ih (last :: back)]
      simp [hselected]

theorem removeCells_of_reports (h : p.Reports cells) :
    p.removeCells cells = (removals p.rows, { p with rows := unselected p.rows }) := by
  have hall := removeAll_selection p.rows [] p.entry
  rw [List.append_nil, List.append_nil] at hall
  unfold removeCells
  rw [rowsDown_of_reports h]
  exact hall

/-- The cells that are taken for the selected ones are these. -/
theorem reports_selectedCells (p : BreakpointPane) : p.Reports p.selectedCells := by
  intro n
  unfold selectedCells
  constructor
  · rintro ⟨column, hcell⟩
    obtain ⟨⟨row, m⟩, hmem, hcell⟩ := List.mem_flatMap.mp hcell
    obtain ⟨column', -, heq⟩ := List.mem_map.mp hcell
    cases heq
    obtain ⟨hindex, hselected⟩ := List.mem_filter.mp hmem
    exact ⟨row, List.mem_zipIdx_iff_getElem?.mp hindex, hselected⟩
  · rintro ⟨row, hrow, hselected⟩
    refine ⟨.kind, List.mem_flatMap.mpr
      ⟨(row, n), ?_, List.mem_map.mpr ⟨.kind, List.mem_cons_self, rfl⟩⟩⟩
    exact List.mem_filter.mpr ⟨List.mem_zipIdx_iff_getElem?.mpr hrow, hselected⟩

/-- **Removing a selection removes exactly the selected rows.** In whatever order and however
often their cells come, the other rows are left, in their order and as they were, with their
breakpoints and their texts; and each selected row is told once with its breakpoint, from the
highest one down. -/
theorem removes_selected (p : BreakpointPane) :
    (∀ cells, p.Reports cells →
      (p.removeCells cells).2 = { p with rows := p.rows.filter (!·.selected) } ∧
        (∀ column, (p.removeCells cells).2.rows.map (·.text column) =
          (p.rows.filter (!·.selected)).map (·.text column)) ∧
        (p.removeCells cells).1 = (p.rows.filter (·.selected)).reverse.map fun row =>
          .removed row.breakpoint) ∧
      p.Reports p.selectedCells ∧ p.removeSelected = p.removeCells p.selectedCells := by
  refine ⟨fun cells h => ?_, p.reports_selectedCells, rfl⟩
  rw [removeCells_of_reports h]
  exact ⟨rfl, fun column => rfl, rfl⟩

/-- Four rows, of which two are equal and selected, and so is the last one. -/
def doubled : BreakpointPane where
  rows := [{ BreakpointRow.ofBreakpoint (.onChange "I") with selected := true },
    .ofBreakpoint (.onAddress .onRead 0x300),
    { BreakpointRow.ofBreakpoint (.onChange "I") with selected := true },
    { BreakpointRow.ofBreakpoint (.onChange "V0") with selected := true }]
  entry := []

/-- Some of the cells of its selected rows, one of them twice. -/
def doubledCells : List BreakpointCell :=
  [⟨2, .status⟩, ⟨0, .kind⟩, ⟨3, .condition⟩, ⟨0, .kind⟩, ⟨3, .kind⟩]

theorem removes_selected_doubled :
    doubled.Reports doubledCells ∧
      (doubled.removeCells doubledCells).2.rows = [.ofBreakpoint (.onAddress .onRead 0x300)] ∧
      (doubled.removeCells doubledCells).1 =
        [.removed (.onChange "V0"), .removed (.onChange "I"), .removed (.onChange "I")] := by
  have hreports : doubled.Reports doubledCells := by
    intro n
    match n with
    | 0 => exact iff_of_true ⟨.kind, by decide⟩ ⟨_, rfl, rfl⟩
    | 1 =>
      exact iff_of_false (by simp [doubledCells])
        (by simp [doubled, BreakpointRow.ofBreakpoint, BreakpointRow.hold])
    | 2 => exact iff_of_true ⟨.status, by decide⟩ ⟨_, rfl, rfl⟩
    | 3 => exact iff_of_true ⟨.kind, by decide⟩ ⟨_, rfl, rfl⟩
    | n + 4 => exact iff_of_false (by simp [doubledCells]) (by simp [doubled])
  obtain ⟨hleft, -, htold⟩ := (removes_selected doubled).1 doubledCells hreports
  refine ⟨hreports, ?_, ?_⟩
  · rw [hleft]
    rfl
  · rw [htold]
    rfl

end Chip8.BreakpointPane
