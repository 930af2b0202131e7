import Chip8.Data
import Chip8.Proofs.Outcome

/-!
# Data within data

`Data.Holds` says which data lies within which: the members of a collection, and whatever these
hold. Writing data goes down into it and keeps track of the collections on the way. If there are
more of them inside each other than can be written, none of them twice, the data is `Deep`;
`deep_of_plain` shows that writing gives up on its depth for no other reason.
-/

namespace Chip8

namespace Collection

/-- The values in a collection, in the order in which they are written. -/
def written : Collection → List Value
  | .pair a b => [a, b]
  | .list items => items
  | .set members => inOrder members
  | .map entries => entries.flatMap fun entry => [entry.1, entry.2]

/-- If a collection cannot be written, one of the values in it is the reason. -/
theorem exists_of_full_error {write : Value → Except WritingError String} {c : Collection}
    {e : WritingError} (h : c.full write = .error e) : ∃ v ∈ c.written, write v = .error e := by
  cases c with
  | pair a b => exact exists_of_mapM_error (error_of_map h)
  | list items => exact exists_of_mapM_error (error_of_map h)
  | set members =>
    rw [full] at h
    split at h
    next => cases h
    next => exact exists_of_mapM_error (error_of_map h)
  | map entries =>
    obtain ⟨⟨k, v⟩, hentry, hwrite⟩ := exists_of_mapM_error (error_of_map h)
    -- An entry is written key first.
    rcases error_of_bind hwrite with hk | ⟨key, -, hwrite⟩
    · exact ⟨k, List.mem_flatMap.mpr ⟨_, hentry, by simp⟩, hk⟩
    · rcases error_of_bind hwrite with hv | ⟨value, -, hwrite⟩
      · exact ⟨v, List.mem_flatMap.mpr ⟨_, hentry, by simp⟩, hv⟩
      · cases hwrite

end Collection

/-- A value leads to a collection that lies in `n` others, none of which is met twice or is one of
those around. -/
inductive Nested (store : Store) : List Nat → Nat → Value → Prop
  | innermost {around : List Nat} {place : Nat} {c : Collection} (hc : store[place]? = some c) :
      Nested store around 0 (.stored place)
  | within {around : List Nat} {n place : Nat} {c : Collection} {v : Value}
      (hc : store[place]? = some c)
      (hnew : place ∉ around) (hv : v ∈ c.written) (h : Nested store (place :: around) n v) :
      Nested store around (n + 1) (.stored place)

namespace Data

/-- Whether there are more collections inside each other than can be written. -/
def Deep [NestingLimits] (d : Data) : Prop :=
  Nested d.store [] NestingLimits.written d.value

/-- What lies within data: the data itself, and the members of every collection that does. -/
inductive Holds (d : Data) : Data → Prop
  | itself : d.Holds d
  | member {inner : Data} {c : Collection} {v : Value} (h : d.Holds inner)
      (hc : inner.collection? = some c)
      (hv : v ∈ c.written) : d.Holds (inner.withValue v)

/-- **Writing gives up on depth** where a collection lies in as many others as there is room for. -/
theorem nested_of_fullInside {store : Store} {around : List Nat} {room : Nat} {v : Value}
    (h : fullInside store around room v = .error .tooDeep) : Nested store around room v := by
  induction room generalizing around v with
  | zero =>
    unfold fullInside at h
    split at h
    next place =>
      split at h
      next => exact absurd h (atom_ne_tooDeep _)
      next hc _ => exact .innermost hc
      next heq => cases heq
    next => exact absurd h (atom_ne_tooDeep v)
  | succ room ih =>
    unfold fullInside at h
    split at h
    next place =>
      split at h
      next => exact absurd h (atom_ne_tooDeep _)
      next heq => cases heq
      next c room' hc heq =>
        cases heq
        split at h
        next => cases h
        next hnew =>
          obtain ⟨v, hv, hwrite⟩ := Collection.exists_of_full_error h
          exact .within hc (fun hmem => hnew (List.contains_iff_mem.mpr hmem)) hv (ih hwrite)
    next => exact absurd h (atom_ne_tooDeep v)

/-- Data that cannot be written for its depth is deep. -/
theorem deep_of_plain [NestingLimits] {d : Data} (h : d.plain = .error .tooDeep) : d.Deep := by
  unfold plain at h
  split at h
  · cases h
  · cases h
  · cases h
  · exact nested_of_fullInside (error_of_map h)

/-- What is among the items of a list lies within it. -/
theorem Holds.item {d inner item : Data} {items : List Data} (h : d.Holds inner)
    (hitems : inner.items? = some items) (hitem : item ∈ items) : d.Holds item := by
  unfold items? at hitems
  split at hitems
  next values hc =>
    cases hitems
    obtain ⟨v, hv, rfl⟩ := List.mem_map.mp hitem
    exact h.member hc hv
  next => cases hitems

/-- The keys and values of a mapping lie within it. -/
theorem Holds.entry {d inner : Data} {entries : List (Data × Data)} {entry : Data × Data}
    (h : d.Holds inner) (hentries : inner.entries? = some entries) (hentry : entry ∈ entries) :
    d.Holds entry.1 ∧ d.Holds entry.2 := by
  unfold entries? at hentries
  split at hentries
  next values hc =>
    cases hentries
    obtain ⟨⟨k, v⟩, hkv, rfl⟩ := List.mem_map.mp hentry
    have hmem : ∀ w ∈ [k, v], w ∈ Collection.written (.map values) :=
      fun w hw => List.mem_flatMap.mpr ⟨_, hkv, hw⟩
    exact ⟨h.member hc (hmem k (by simp)), h.member hc (hmem v (by simp))⟩
  next => cases hentries

end Data

end Chip8
