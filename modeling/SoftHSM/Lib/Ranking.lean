import Mathlib.Data.List.Sort

/-!
Places in a list that is sorted by a total order: when one more element leaves every other
element at its place.
-/

namespace SoftHSM.Ranking

variable {α : Type*} {r : α → α → Prop} [DecidableRel r] [Std.Total r] [IsTrans α r]
  [Std.Antisymm r] {l l' : List α} {x : α}

/-- An element that comes after all others takes the last place. -/
lemma insertionSort_of_last (h : l'.Perm (l ++ [x])) (hx : ∀ y ∈ l, r y x) :
    l'.insertionSort r = l.insertionSort r ++ [x] := by
  have hsorted : (l.insertionSort r ++ [x]).Pairwise r := by
    refine List.pairwise_append.2 ⟨List.pairwise_insertionSort r l, List.pairwise_singleton _ _, ?_⟩
    intro y hy z hz
    rw [List.mem_singleton.1 hz]
    exact hx y ((List.mem_insertionSort r).1 hy)
  refine List.Perm.eq_of_pairwise' (List.pairwise_insertionSort r l') hsorted ?_
  calc l'.insertionSort r
    List.Perm _ l' := List.perm_insertionSort r l'
    List.Perm _ (l ++ [x]) := h
    List.Perm _ (l.insertionSort r ++ [x]) := (List.perm_insertionSort r l).symm.append_right _

/-- **One more element** leaves the others at their places if and only if it comes after all
of them. -/
theorem keeps_places_iff (h : l'.Perm (l ++ [x])) :
    (∀ (i : ℕ) (y : α), (l.insertionSort r)[i]? = some y → (l'.insertionSort r)[i]? = some y) ↔
      ∀ y ∈ l, r y x := by
  constructor
  · intro hkeep y hy
    have hpre : l.insertionSort r <+: l'.insertionSort r := by
      refine List.prefix_iff_getElem?.2 fun i hi => ?_
      exact hkeep i _ (List.getElem?_eq_getElem hi)
    obtain ⟨t, ht⟩ := hpre
    have hperm : (l.insertionSort r ++ t).Perm (l.insertionSort r ++ [x]) := by
      rw [ht]
      exact ((List.perm_insertionSort r l').trans h).trans
        ((List.perm_insertionSort r l).symm.append_right _)
    have htx : t = [x] := List.perm_singleton.1 ((List.perm_append_left_iff _).1 hperm)
    have hsorted : (l.insertionSort r ++ [x]).Pairwise r := by
      rw [← htx, ht]
      exact List.pairwise_insertionSort r l'
    exact (List.pairwise_append.1 hsorted).2.2 y ((List.mem_insertionSort r).2 hy) x
      (List.mem_singleton.2 rfl)
  · intro hx i y hi
    rw [insertionSort_of_last h hx]
    rw [List.getElem?_append_left (List.getElem?_eq_some_iff.1 hi).1]
    exact hi

end SoftHSM.Ranking
