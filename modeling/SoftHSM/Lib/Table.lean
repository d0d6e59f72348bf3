import Mathlib.Data.List.Basic
import Mathlib.Logic.Function.Basic

/-!
A table with secondary indexes: a partial map from keys to values, for each class the list
of the keys of that class, and an inverse that finds the key of a value. What removing and
inserting entries asks of an index so that it stays one.
-/

namespace SoftHSM.Table

variable {K V C σ : Type*}

/-- `idx` lists under each class the keys whose value is of that class. -/
def IsIndex (tbl : K → Option V) (cls : V → Option C) (idx : C → List K) : Prop :=
  ∀ c k, k ∈ idx c ↔ ∃ v, tbl k = some v ∧ cls v = some c

/-- `inv` finds under each name the one key whose value has that name. -/
def IsInverse (tbl : K → Option V) (name : V → Option C) (inv : C → Option K) : Prop :=
  ∀ c k, inv c = some k ↔ ∃ v, tbl k = some v ∧ name v = some c

/-- `tbl'` is `tbl` without the entries in `R`. -/
def Without (tbl tbl' : K → Option V) (R : K → V → Prop) : Prop :=
  ∀ k v, tbl' k = some v ↔ tbl k = some v ∧ ¬ R k v

variable {tbl tbl' tbl'' : K → Option V} {R S : K → V → Prop} {cls : V → Option C}

lemma Without.refl (h : ∀ k v, tbl k = some v → ¬ R k v) : Without tbl tbl R :=
  fun k v => ⟨fun hv => ⟨hv, h k v hv⟩, fun hv => hv.1⟩

lemma Without.sub (h : Without tbl tbl' R) {k : K} {v : V} (hv : tbl' k = some v) :
    tbl k = some v :=
  ((h k v).mp hv).1

lemma Without.trans (h1 : Without tbl tbl' R) (h2 : Without tbl' tbl'' S) :
    Without tbl tbl'' fun k v => R k v ∨ S k v := by
  intro k v
  rw [h2 k v, h1 k v]
  tauto

lemma Without.congr (h : Without tbl tbl' R)
    (hRS : ∀ k v, tbl k = some v → (R k v ↔ S k v)) : Without tbl tbl' S := by
  intro k v
  rw [h k v]
  constructor
  · rintro ⟨hv, hn⟩
    exact ⟨hv, fun hs => hn ((hRS k v hv).mpr hs)⟩
  · rintro ⟨hv, hn⟩
    exact ⟨hv, fun hr => hn ((hRS k v hv).mp hr)⟩

lemma Without.update [DecidableEq K] (tbl : K → Option V) (k : K) :
    Without tbl (Function.update tbl k none) fun k' _ => k' = k := by
  intro k' v
  by_cases h : k' = k
  · subst h; simp
  · simp [h]

/-- Folding rounds that each remove the entry of one key removes the entries of them all. -/
lemma Without.foldl {T : σ → K → Option V} {f : σ → K → σ} {P : V → Prop}
    (h : ∀ s k, Without (T s) (T (f s k)) fun k' v => k' = k ∧ P v)
    (l : List K) (s : σ) :
    Without (T s) (T (l.foldl f s)) fun k v => k ∈ l ∧ P v := by
  induction l generalizing s with
  | nil => exact Without.refl (by simp)
  | cons k l ih =>
    refine ((h s k).trans (ih (f s k))).congr fun k' v _ => ?_
    rw [List.mem_cons]
    tauto

/-! ### Indexes -/

lemma IsIndex.without {idx idx' : C → List K} (hi : IsIndex tbl cls idx)
    (hw : Without tbl tbl' R)
    (hidx : ∀ c k v, tbl k = some v → cls v = some c →
      (k ∈ idx' c ↔ k ∈ idx c ∧ ¬ R k v))
    (hsub : ∀ c k, k ∈ idx' c → k ∈ idx c) : IsIndex tbl' cls idx' := by
  intro c k
  constructor
  · intro hk
    obtain ⟨v, hv, hc⟩ := (hi c k).mp (hsub c k hk)
    exact ⟨v, (hw k v).mpr ⟨hv, ((hidx c k v hv hc).mp hk).2⟩, hc⟩
  · rintro ⟨v, hv, hc⟩
    obtain ⟨hv, hn⟩ := (hw k v).mp hv
    exact (hidx c k v hv hc).mpr ⟨(hi c k).mpr ⟨v, hv, hc⟩, hn⟩

lemma IsIndex.insert [DecidableEq K] [DecidableEq C] {idx : C → List K}
    (hi : IsIndex tbl cls idx) {k : K} {v : V} {c : C} (hk : tbl k = none)
    (hc : cls v = some c) :
    IsIndex (Function.update tbl k (some v)) cls
      (Function.update idx c ((idx c).insert k)) := by
  intro c' k'
  have h' := hi c' k'
  by_cases hkk : k' = k
  · subst hkk
    simp only [hk, reduceCtorEq, false_and, exists_false, iff_false] at h'
    by_cases hcc : c' = c
    · subst hcc; simp [hc]
    · have : ¬ c = c' := fun e => hcc e.symm
      simp [hcc, hc, h', this]
  · by_cases hcc : c' = c
    · subst hcc; simpa [hkk] using h'
    · simpa [hkk, hcc] using h'

lemma IsIndex.insert_other [DecidableEq K] {idx : C → List K}
    (hi : IsIndex tbl cls idx) {k : K} {v : V} (hk : tbl k = none)
    (hc : cls v = none) : IsIndex (Function.update tbl k (some v)) cls idx := by
  intro c' k'
  have h' := hi c' k'
  by_cases hkk : k' = k
  · subst hkk
    simp only [hk, reduceCtorEq, false_and, exists_false, iff_false] at h'
    simp [h', hc]
  · simpa [hkk] using h'

lemma IsIndex.erase [DecidableEq K] [DecidableEq C] {idx : C → List K}
    (hi : IsIndex tbl cls idx) {k : K} {v : V} {c : C} (hn : (idx c).Nodup)
    (hk : tbl k = some v) (hc : cls v = some c) :
    IsIndex (Function.update tbl k none) cls (Function.update idx c ((idx c).erase k)) := by
  refine hi.without (Without.update tbl k) (fun c' k' v' hk' hc' => ?_) fun c' k' hk' => ?_
  · by_cases hcc : c' = c
    · subst hcc
      rw [Function.update_self, hn.mem_erase_iff]
      tauto
    · have hkk : k' ≠ k := by
        rintro rfl
        rw [hk, Option.some.injEq] at hk'
        rw [← hk', hc, Option.some.injEq] at hc'
        exact hcc hc'.symm
      rw [Function.update_of_ne hcc]
      tauto
  · by_cases hcc : c' = c
    · subst hcc
      rw [Function.update_self] at hk'
      exact List.mem_of_mem_erase hk'
    · rwa [Function.update_of_ne hcc] at hk'

lemma IsIndex.erase_other [DecidableEq K] {idx : C → List K} (hi : IsIndex tbl cls idx) {k : K}
    (hk : ∀ v, tbl k = some v → cls v = none) :
    IsIndex (Function.update tbl k none) cls idx := by
  refine hi.without (Without.update tbl k) (fun c' k' v' hk' hc' => ?_) fun _ _ h => h
  have hkk : k' ≠ k := by
    rintro rfl
    rw [hk v' hk'] at hc'
    exact absurd hc' (by simp)
  tauto

/-! ### Inverses -/

/-- Under an inverse, two keys whose values have one name are the same key. -/
lemma IsInverse.unique {name : V → Option C} {inv : C → Option K} (hi : IsInverse tbl name inv)
    {k k' : K} {v v' : V} {c : C} (hv : tbl k = some v) (hc : name v = some c)
    (hv' : tbl k' = some v') (hc' : name v' = some c) : k = k' := by
  have h1 := (hi c k).mpr ⟨v, hv, hc⟩
  have h2 := (hi c k').mpr ⟨v', hv', hc'⟩
  exact Option.some.inj (h1.symm.trans h2)

lemma IsInverse.erase [DecidableEq K] [DecidableEq C] {name : V → Option C} {inv : C → Option K}
    (hi : IsInverse tbl name inv) {k : K} {v : V} {c : C} (hv : tbl k = some v)
    (hc : name v = some c) :
    IsInverse (Function.update tbl k none) name (Function.update inv c none) := by
  intro c' k'
  by_cases hcc : c' = c
  · subst hcc
    simp only [Function.update_self, reduceCtorEq, false_iff]
    rintro ⟨v', hv', hc'⟩
    by_cases hkk : k' = k
    · simp [hkk] at hv'
    · rw [Function.update_of_ne hkk] at hv'
      exact hkk (hi.unique hv' hc' hv hc)
  · rw [Function.update_of_ne hcc, hi c' k']
    by_cases hkk : k' = k
    · subst hkk
      simp only [hv, Option.some.injEq, exists_eq_left', Function.update_self, reduceCtorEq,
        false_and, exists_false, iff_false, hc]
      exact fun e => hcc e.symm
    · rw [Function.update_of_ne hkk]

lemma IsInverse.erase_other [DecidableEq K] {name : V → Option C} {inv : C → Option K}
    (hi : IsInverse tbl name inv) {k : K} (hv : ∀ v, tbl k = some v → name v = none) :
    IsInverse (Function.update tbl k none) name inv := by
  intro c' k'
  rw [hi c' k']
  by_cases hkk : k' = k
  · subst hkk
    simp only [Function.update_self, reduceCtorEq, false_and, exists_false, iff_false]
    rintro ⟨v, h1, h2⟩
    rw [hv v h1] at h2
    exact absurd h2 (by simp)
  · rw [Function.update_of_ne hkk]

lemma IsInverse.insert [DecidableEq K] [DecidableEq C] {name : V → Option C}
    {inv : C → Option K} (hi : IsInverse tbl name inv) {k : K} {v : V} {c : C}
    (hk : tbl k = none) (hinv : inv c = none) (hc : name v = some c) :
    IsInverse (Function.update tbl k (some v)) name (Function.update inv c (some k)) := by
  intro c' k'
  by_cases hcc : c' = c
  · subst hcc
    simp only [Function.update_self, Option.some.injEq]
    constructor
    · rintro rfl
      exact ⟨v, by simp, hc⟩
    · rintro ⟨v', hv', hc'⟩
      by_contra hkk
      rw [Function.update_of_ne (fun e => hkk e.symm)] at hv'
      have := (hi c' k').mpr ⟨v', hv', hc'⟩
      rw [hinv] at this
      exact absurd this (by simp)
  · rw [Function.update_of_ne hcc, hi c' k']
    by_cases hkk : k' = k
    · subst hkk
      simp only [hk, reduceCtorEq, false_and, exists_false, Function.update_self,
        Option.some.injEq, exists_eq_left', hc, false_iff]
      exact fun e => hcc e.symm
    · rw [Function.update_of_ne hkk]

lemma IsInverse.insert_other [DecidableEq K] {name : V → Option C} {inv : C → Option K}
    (hi : IsInverse tbl name inv) {k : K} {v : V} (hk : tbl k = none) (hc : name v = none) :
    IsInverse (Function.update tbl k (some v)) name inv := by
  intro c' k'
  rw [hi c' k']
  by_cases hkk : k' = k
  · subst hkk; simp [hk, hc]
  · rw [Function.update_of_ne hkk]

end SoftHSM.Table
