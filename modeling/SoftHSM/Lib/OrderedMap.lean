import Mathlib.Data.List.Basic
import Mathlib.Order.Lattice

/-!
A map as the list of its entries in the order of their keys, and the operations of a map on
such lists: looking a key up, putting a value in its place, inserting where the key is free,
and taking a key out.
-/

namespace SoftHSM.OrderedMap

variable {K V W : Type*} [LinearOrder K]

/-- Every key comes once, and they come in order. -/
def Sorted (l : List (K × V)) : Prop := l.Pairwise fun a b => a.1 < b.1

/-- The value at a key. -/
def get (k : K) : List (K × V) → Option V
  | [] => none
  | (k', v) :: l => if k' = k then some v else get k l

/-- The value at the key, whether there was one before or not. -/
def put (k : K) (v : V) : List (K × V) → List (K × V)
  | [] => [(k, v)]
  | (k', v') :: l =>
    if k < k' then (k, v) :: (k', v') :: l
    else if k = k' then (k, v) :: l
    else (k', v') :: put k v l

/-- The value at the key, unless there is one already. -/
def insert (k : K) (v : V) (l : List (K × V)) : Bool × List (K × V) :=
  if (get k l).isSome then (false, l) else (true, put k v l)

def erase (k : K) (l : List (K × V)) : List (K × V) := l.filter fun e => e.1 ≠ k

variable {k k' : K} {v : V} {l l' : List (K × V)}

/-! ### Order -/

lemma sorted_nil : Sorted ([] : List (K × V)) := List.Pairwise.nil

lemma mem_put {e : K × V} (h : e ∈ put k v l) : e = (k, v) ∨ e ∈ l := by
  induction l with
  | nil => exact .inl (List.mem_singleton.1 h)
  | cons a l ih =>
    obtain ⟨k', v'⟩ := a
    simp only [put] at h
    split at h
    · exact List.mem_cons.1 h
    split at h
    · exact (List.mem_cons.1 h).imp_right (List.mem_cons_of_mem _)
    · rcases List.mem_cons.1 h with rfl | h
      · exact .inr (List.mem_cons_self ..)
      · exact (ih h).imp_right (List.mem_cons_of_mem _)

/-- **Putting a value keeps the order.** -/
theorem sorted_put (h : Sorted l) (k : K) (v : V) : Sorted (put k v l) := by
  induction l with
  | nil => exact List.pairwise_singleton _ _
  | cons a l ih =>
    obtain ⟨k', v'⟩ := a
    have hlt : ∀ e ∈ l, k' < e.1 := fun e he => List.rel_of_pairwise_cons h he
    have htail : Sorted l := h.of_cons
    simp only [put]
    split
    · rename_i hk
      refine h.cons fun e he => ?_
      rcases List.mem_cons.1 he with rfl | he
      · exact hk
      · exact hk.trans (hlt e he)
    rename_i hk
    split
    · rename_i heq
      subst heq
      exact htail.cons hlt
    · rename_i hne
      refine (ih htail).cons fun e he => ?_
      rcases mem_put he with rfl | he
      · exact lt_of_le_of_ne (not_lt.1 hk) (Ne.symm hne)
      · exact hlt e he

lemma sorted_erase (h : Sorted l) (k : K) : Sorted (erase k l) := h.filter _

lemma sorted_filter (h : Sorted l) (p : K × V → Bool) : Sorted (l.filter p) := h.filter p

/-! ### Lookup -/

lemma get_put_self (k : K) (v : V) (l : List (K × V)) : get k (put k v l) = some v := by
  induction l with
  | nil => simp [put, get]
  | cons a l ih =>
    obtain ⟨k', v'⟩ := a
    simp only [put]
    split
    · simp [get]
    split
    · simp [get]
    · rename_i hne
      simp [get, Ne.symm hne, ih]

lemma get_put_of_ne (h : k' ≠ k) (v : V) (l : List (K × V)) : get k' (put k v l) = get k' l := by
  induction l with
  | nil => simp [put, get, h.symm]
  | cons a l ih =>
    obtain ⟨k'', v''⟩ := a
    simp only [put]
    split
    · simp [get, h.symm]
    split
    · rename_i heq
      subst heq
      simp [get, h.symm]
    · simp [get, ih]

lemma get_eq_none : get k l = none ↔ ∀ e ∈ l, e.1 ≠ k := by
  induction l with
  | nil => simp [get]
  | cons a l ih =>
    obtain ⟨k', v'⟩ := a
    by_cases h : k' = k
    · simp [get, h]
    · simp [get, h, ih]

lemma mem_of_get (h : get k l = some v) : (k, v) ∈ l := by
  induction l with
  | nil => cases h
  | cons a l ih =>
    obtain ⟨k', v'⟩ := a
    by_cases hk : k' = k
    · rw [get, if_pos hk] at h
      rw [hk, Option.some.inj h]
      exact List.mem_cons_self ..
    · rw [get, if_neg hk] at h
      exact List.mem_cons_of_mem _ (ih h)

lemma get_of_mem (hs : Sorted l) (h : (k, v) ∈ l) : get k l = some v := by
  induction l with
  | nil => cases h
  | cons a l ih =>
    obtain ⟨k', v'⟩ := a
    rcases List.mem_cons.1 h with he | he
    · cases he
      exact if_pos rfl
    · have hlt : k' < k := List.rel_of_pairwise_cons hs he
      rw [get, if_neg hlt.ne]
      exact ih hs.of_cons he

lemma get_insert (k k' : K) (v : V) (l : List (K × V)) : get k' (insert k v l).2 =
    if k' = k then some ((get k l).getD v) else get k' l := by
  unfold insert
  rcases h : get k l with _ | w
  · by_cases hk : k' = k
    · subst hk
      simp [get_put_self]
    · simp [hk, get_put_of_ne]
  · by_cases hk : k' = k
    · subst hk
      simp [h]
    · simp [hk]

lemma get_erase (k k' : K) (l : List (K × V)) :
    get k' (erase k l) = if k' = k then none else get k' l := by
  induction l with
  | nil => simp [erase, get]
  | cons a l ih =>
    obtain ⟨k'', v''⟩ := a
    unfold erase at ih ⊢
    by_cases h : k'' = k
    · rw [List.filter_cons_of_neg (by simp [h]), ih, get]
      by_cases hk : k' = k
      · simp [hk]
      · simp [hk, h, Ne.symm hk]
    · rw [List.filter_cons_of_pos (by simpa using h), get, get, ih]
      by_cases hk : k' = k
      · simp [hk, h]
      · simp [hk]

/-- A value that replaces another stays in its place. -/
lemma put_split {w : V} (hs : Sorted (l ++ (k, w) :: l')) (v : V) :
    put k v (l ++ (k, w) :: l') = l ++ (k, v) :: l' := by
  induction l with
  | nil => rw [List.nil_append, put, if_neg (lt_irrefl k), if_pos rfl, List.nil_append]
  | cons a l ih =>
    obtain ⟨k', v'⟩ := a
    have hk : k' < k :=
      List.rel_of_pairwise_cons hs (List.mem_append_right _ (List.mem_cons_self ..))
    rw [List.cons_append, put, if_neg hk.not_gt, if_neg hk.ne', ih hs.of_cons, List.cons_append]

lemma length_put_of_free (h : get k l = none) (v : V) : (put k v l).length = l.length + 1 := by
  induction l with
  | nil => rfl
  | cons a l ih =>
    obtain ⟨k', v'⟩ := a
    have hne : k' ≠ k := get_eq_none.1 h _ (List.mem_cons_self ..)
    rw [get, if_neg hne] at h
    rw [put]
    split
    · rfl
    · rw [if_neg hne.symm, List.length_cons, ih h, List.length_cons]

/-! ### Building a map -/

/-- A key above all others comes last. -/
lemma put_append (h : ∀ e ∈ l, e.1 < k) (v : V) : put k v l = l ++ [(k, v)] := by
  induction l with
  | nil => rfl
  | cons a l ih =>
    obtain ⟨k', v'⟩ := a
    have hk : k' < k := h (k', v') (List.mem_cons_self ..)
    rw [put, if_neg hk.not_gt, if_neg hk.ne', ih fun e he => h e (List.mem_cons_of_mem _ he)]
    rfl

/-- A list of entries whose keys come in order, put one after the other. -/
theorem foldl_put (hs : Sorted (l ++ l')) : l'.foldl (fun m e => put e.1 e.2 m) l = l ++ l' := by
  induction l' generalizing l with
  | nil => simp
  | cons a l' ih =>
    have hlast : ∀ e ∈ l, e.1 < a.1 := fun e he =>
      (List.pairwise_append.1 hs).2.2 e he a (List.mem_cons_self ..)
    rw [List.foldl_cons, put_append hlast, ih (by simpa using hs)]
    simp

lemma insert_of_lt (h : ∀ e ∈ l, e.1 < k) (v : V) : insert k v l = (true, l ++ [(k, v)]) := by
  have hnone : get k l = none := get_eq_none.2 fun e he => (h e he).ne
  rw [insert, hnone, ← put_append h]
  rfl

end SoftHSM.OrderedMap
