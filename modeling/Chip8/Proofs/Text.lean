import Chip8.Text.Blank
import Mathlib.Data.List.Infix
import Mathlib.Data.List.TakeDrop
import Mathlib.Data.List.TakeWhile

/-!
# Parts of texts

What is trimmed off a text stands at its ends: what is left stands in the text as it was
(`trim_infix`), and this is all of it if nothing is to be dropped (`trimList_of_forall`). `replace`
puts one part in the place of another from the front on. An occurrence is found at its first sign,
so a text without this sign is passed over (`replace_append`).
-/

namespace Chip8.Text

variable {p : CodePoint} {old new t : Text}

/-! ## Trimming -/

theorem trimList_of_forall {α : Type} {drop : α → Bool} {xs : List α}
    (h : ∀ x ∈ xs, drop x = false) :
    trimList drop xs = xs := by
  have hkeeps {ys : List α} (hys : ∀ y ∈ ys, drop y = false) : ys.dropWhile drop = ys :=
    List.dropWhile_eq_self_iff.mpr fun hlength =>
    Bool.eq_false_iff.mp (hys _ (List.getElem_mem hlength))
  unfold trimList
  rw [hkeeps h, hkeeps fun x hx => h x (List.mem_reverse.mp hx), List.reverse_reverse]

/-- What is trimmed stands in the text as it was. -/
theorem trim_infix (t : Text) : trim t <:+: t := by
  have hfront := List.dropWhile_suffix (l := t) fun p => p.char?.any isBlank
  have hback := List.reverse_prefix.mpr
    (List.dropWhile_suffix (l := (t.dropWhile fun p => p.char?.any isBlank).reverse) fun p =>
      p.char?.any isBlank)
  rw [List.reverse_reverse] at hback
  exact hback.isInfix.trans hfront.isInfix

/-! ## Replacing -/

/-- A text with every occurrence of a part, which is not empty, replaced by another one from the
front on. -/
def replace (old new : Text) : Text → Text
  | [] => []
  | p :: rest =>
    if old.isPrefixOf (p :: rest) then new ++ replace old new (rest.drop (old.length - 1))
    else p :: replace old new rest
termination_by t => t.length
decreasing_by
  · rw [List.length_drop, List.length_cons]
    omega
  · exact Nat.lt_succ_self _

/-- There is no occurrence where there is nothing that it could begin with. -/
theorem replace_append {front : Text} (h : p ∉ front) (old new back : Text) :
    replace (p :: old) new (front ++ back) = front ++ replace (p :: old) new back := by
  induction front with
  | nil => rfl
  | cons q front ih =>
    have hfirst : (p == q) = false := beq_eq_false_iff_ne.mpr (List.ne_of_not_mem_cons h)
    have hnone : (p :: old).isPrefixOf (q :: (front ++ back)) = false := by
      rw [List.isPrefixOf_cons_cons, hfirst, Bool.false_and]
    rw [List.cons_append, replace, hnone, if_neg Bool.false_ne_true,
      ih (List.not_mem_of_not_mem_cons h),
      List.cons_append]

theorem replace_of_notMem (h : p ∉ t) : replace (p :: old) new t = t := by
  have happend := replace_append h old new []
  rwa [List.append_nil, replace, List.append_nil] at happend

theorem replace_self (back : Text) :
    replace (p :: old) new (p :: old ++ back) = new ++ replace (p :: old) new back := by
  have hprefix : (p :: old).isPrefixOf (p :: old ++ back) = true :=
    List.isPrefixOf_iff_prefix.mpr (List.prefix_append _ _)
  rw [List.cons_append] at hprefix ⊢
  rw [replace, if_pos hprefix, List.length_cons, Nat.add_sub_cancel, List.drop_left]

end Chip8.Text
