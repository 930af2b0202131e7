import Mathlib.Data.List.Nodup

/-!
# First occurrences

`List.eraseDups` keeps each member of a list where it occurs first. Nothing occurs twice in what
is left (`nodup_eraseDups`), a list in which nothing does is left as it is
(`eraseDups_of_nodup`), and it makes no difference whether the front of a list has been treated
before the whole of it is (`eraseDups_append_eraseDups`).
-/

namespace Chip8

variable {α : Type} [BEq α] [LawfulBEq α]

theorem nodup_eraseDups (xs : List α) : xs.eraseDups.Nodup := by
  -- Along the recursion of `eraseDups`, which goes on with the members that are not the first one.
  induction hlength : xs.length using Nat.strongRecOn generalizing xs with
  | ind length ih =>
    cases xs with
    | nil => exact List.nodup_nil
    | cons x rest =>
      rw [List.eraseDups_cons, List.nodup_cons]
      refine ⟨fun hmem => ?_, ?_⟩
      · have hfiltered := List.mem_filter.mp (List.mem_eraseDups.mp hmem)
        simp at hfiltered
      · have hle := List.length_filter_le (fun y => !y == x) rest
        rw [List.length_cons] at hlength
        exact ih _ (by omega) _ rfl

theorem eraseDups_of_nodup {xs : List α} (h : xs.Nodup) : xs.eraseDups = xs := by
  induction xs with
  | nil => rfl
  | cons x rest ih =>
    obtain ⟨hnew, hrest⟩ := List.nodup_cons.mp h
    have hkept : (rest.filter fun y => !y == x) = rest :=
      List.filter_eq_self.mpr fun y hy => by
        rw [Bool.not_eq_true', beq_eq_false_iff_ne]
        rintro rfl
        exact hnew hy
    rw [List.eraseDups_cons, hkept, ih hrest]

theorem eraseDups_append_eraseDups (xs ys : List α) :
    (xs.eraseDups ++ ys).eraseDups = (xs ++ ys).eraseDups := by
  have hremoved : ys.removeAll xs.eraseDups = ys.removeAll xs := by
    unfold List.removeAll
    refine List.filter_congr fun y _ => ?_
    rw [Bool.eq_iff_iff]
    simp only [Bool.not_eq_true', List.elem_eq_mem, decide_eq_false_iff_not, List.mem_eraseDups]
  rw [List.eraseDups_append, List.eraseDups_append,
    eraseDups_of_nodup (nodup_eraseDups xs), hremoved]

end Chip8
