import Mathlib.Data.Finset.Card
import Mathlib.Data.List.Sort

/-!
Going from a vertex of a graph to a next one, without ever going back, until a vertex decides.
Where the next vertex is the first that fits in a list, the order of the list decides which way
is taken: every way that there is, is taken in some order, as far as it leads.
-/

namespace SoftHSM.Pursuit

variable {V : Type*}

/-! ### Lists in a favourable order -/

/-- The first element of a list that fits satisfies `Q`, if one that fits does. -/
def Favours (l : List V) (Q : V → Prop) : Prop :=
  ∀ (p : V → Bool) x, l.find? p = some x → (∃ y ∈ l, p y = true ∧ Q y) → Q x

lemma find?_le {f : V → ℕ} {l : List V} (hl : l.Pairwise fun x y => f x ≤ f y) {p : V → Bool}
    {x y : V} (hx : l.find? p = some x) (hy : y ∈ l) (hp : p y = true) : f x ≤ f y := by
  induction l with
  | nil => cases hx
  | cons z l ih =>
    rw [List.pairwise_cons] at hl
    rw [List.find?_cons] at hx
    cases hz : p z
    · rw [hz] at hx
      rcases List.mem_cons.1 hy with rfl | hy
      · rw [hp] at hz
        cases hz
      · exact ih hl.2 hx hy
    · rw [hz] at hx
      cases hx
      rcases List.mem_cons.1 hy with rfl | hy
      · exact le_rfl
      · exact hl.1 y hy

/-- Of two of the sets one is part of the other. -/
def Nested (Q : ℕ → V → Prop) : Prop :=
  ∀ m n, (∀ v, Q m v → Q n v) ∨ ∀ v, Q n v → Q m v

/-- **One order for all.** A list can be brought into an order that favours each of finitely many
nested sets. -/
theorem exists_favouring {Q : ℕ → V → Prop} (hQ : Nested Q) (N : ℕ) (l : List V) :
    ∃ l', l'.Perm l ∧ ∀ n < N, Favours l' (Q n) := by
  classical
  -- the number of the sets that a vertex is not in
  let f : V → ℕ := fun v => ((Finset.range N).filter fun n => ¬ Q n v).card
  refine ⟨l.insertionSort fun x y => f x ≤ f y, List.perm_insertionSort _ l, ?_⟩
  rintro n hn p x hx ⟨y, hy, hp, hQy⟩
  by_contra hQx
  have hle : f x ≤ f y := find?_le (List.pairwise_insertionSort _ l) hx hy hp
  refine absurd hle (not_le.2 (Finset.card_lt_card ?_))
  refine Finset.ssubset_iff_subset_ne.2 ⟨fun m hm => ?_, fun he => ?_⟩
  · rw [Finset.mem_filter] at hm ⊢
    refine ⟨hm.1, fun hQm => ?_⟩
    rcases hQ m n with h | h
    · exact hQx (h x hQm)
    · exact hm.2 (h y hQy)
  · have hmem : n ∈ (Finset.range N).filter fun n => ¬ Q n x :=
      Finset.mem_filter.2 ⟨Finset.mem_range.2 hn, hQx⟩
    rw [← he] at hmem
    exact (Finset.mem_filter.1 hmem).2 hQy

/-! ### Ways -/

section ways

variable (halt : V → Option Bool)

/-- Going to the next vertex until one decides or the steps are used up. -/
def walk (next : V → Option V) : ℕ → V → Bool
  | 0, _ => false
  | n + 1, v =>
    match halt v with
    | some b => b
    | none =>
      match next v with
      | none => false
      | some w => walk next n w

variable (E : V → V → Prop)

/-- After at most so many steps, at vertices that do not decide, there is one in `T`. -/
inductive Meets (T : V → Prop) : ℕ → V → Prop
  | here {n : ℕ} {v : V} (h : T v) : Meets T n v
  | step {n : ℕ} {v w : V} (hv : halt v = none) (he : E v w) (h : Meets T n w) :
      Meets T (n + 1) v

/-- There are so many steps at vertices that do not decide. -/
inductive Wanders : ℕ → V → Prop
  | zero (v : V) : Wanders 0 v
  | step {n : ℕ} {v w : V} (hv : halt v = none) (he : E v w) (h : Wanders n w) :
      Wanders (n + 1) v

/-- A vertex that decides against, or from which there is no way. -/
def Dead (v : V) : Prop := halt v = some false ∨ halt v = none ∧ ∀ w, ¬ E v w

/-- A way to a dead end, or one that is too long. -/
def Strays (n : ℕ) (v : V) : Prop := Wanders halt E n v ∨ ∃ m < n, Meets halt E (Dead halt E) m v

variable {halt E} {T : V → Prop} {n m : ℕ} {v : V}

lemma Meets.mono (h : Meets halt E T n v) (hnm : n ≤ m) : Meets halt E T m v := by
  induction h generalizing m with
  | here h => exact .here h
  | step hv he _ ih =>
    cases m with
    | zero => exact absurd hnm (Nat.not_succ_le_zero _)
    | succ m => exact .step hv he (ih (Nat.le_of_succ_le_succ hnm))

/-- The vertex that is met. -/
lemma Meets.exists_eq (h : Meets halt E T n v) : ∃ w, T w ∧ Meets halt E (· = w) n v := by
  induction h with
  | here h => exact ⟨_, h, .here rfl⟩
  | step hv he _ ih =>
    obtain ⟨w, hw, hm⟩ := ih
    exact ⟨w, hw, .step hv he hm⟩

lemma Wanders.anti (h : Wanders halt E n v) (hmn : m ≤ n) : Wanders halt E m v := by
  induction h generalizing m with
  | zero v =>
    rw [Nat.le_zero.1 hmn]
    exact .zero v
  | step hv he _ ih =>
    cases m with
    | zero => exact .zero _
    | succ m => exact .step hv he (ih (Nat.le_of_succ_le_succ hmn))

/-- **A walk fails** exactly if it strays. -/
theorem walk_eq_false_iff {next : V → Option V} :
    walk halt next n v = false ↔ Strays halt (fun v w => next v = some w) n v := by
  induction n generalizing v with
  | zero => exact iff_of_true rfl (.inl (.zero v))
  | succ n ih =>
    rw [walk]
    constructor
    · intro h
      split at h
      · rename_i b hv
        subst h
        exact .inr ⟨n, n.lt_succ_self, .here (.inl hv)⟩
      · rename_i hv
        split at h
        · rename_i hnext
          have hstuck : ∀ w, ¬ next v = some w := fun w he => by
            rw [hnext] at he
            cases he
          exact .inr ⟨n, n.lt_succ_self, .here (.inr ⟨hv, hstuck⟩)⟩
        · rename_i w hnext
          rcases ih.1 h with hw | ⟨m, hm, hw⟩
          · exact .inl (.step hv hnext hw)
          · exact .inr ⟨m + 1, Nat.succ_lt_succ hm, .step hv hnext hw⟩
    · rintro (h | ⟨m, hm, h⟩)
      · cases h with
        | step hv he h =>
          rw [hv]
          simp only [he]
          exact ih.2 (.inl h)
      · cases h with
        | here h =>
          rcases h with h | ⟨h, hw⟩
          · rw [h]
          · rw [h]
            cases hnext : next v with
            | none => rfl
            | some w => exact absurd hnext (hw w)
        | step hv he h =>
          rw [hv]
          simp only [he]
          exact ih.2 (.inr ⟨_, Nat.lt_of_succ_lt_succ hm, h⟩)

end ways

/-! ### The first that fits

Lists of vertices, each with a test for what may follow; a list counts only where the ones before
it have none. -/

section first

abbrev Tier (V : Type*) := (V → V → Bool) × List V

/-- The first vertex of the first list that has one. -/
def first : List (Tier V) → V → Option V
  | [], _ => none
  | t :: ts, v => (t.2.find? (t.1 v)).or (first ts v)

/-- A vertex that comes first in some order of the lists. -/
def Follows : List (Tier V) → V → V → Prop
  | [], _, _ => False
  | t :: ts, v, w => w ∈ t.2 ∧ t.1 v w = true ∨ (∀ u ∈ t.2, t.1 v u = false) ∧ Follows ts v w

/-- The same lists in other orders. -/
def Rearranged : List (Tier V) → List (Tier V) → Prop :=
  List.Forall₂ fun t t' => t.1 = t'.1 ∧ t.2.Perm t'.2

variable {ts ts' : List (Tier V)} {halt : V → Option Bool} {T T' : V → Prop} {n : ℕ} {v w : V}

lemma follows_of_first (h : first ts v = some w) : Follows ts v w := by
  induction ts with
  | nil => cases h
  | cons t ts ih =>
    rw [first] at h
    cases hfind : t.2.find? (t.1 v) with
    | some u =>
      rw [hfind, Option.some_or] at h
      cases h
      exact .inl ⟨List.mem_of_find?_eq_some hfind, List.find?_some hfind⟩
    | none =>
      rw [hfind, Option.none_or] at h
      refine .inr ⟨fun u hu => ?_, ih h⟩
      simpa using List.find?_eq_none.1 hfind u hu

lemma exists_first (h : Follows ts v w) : ∃ u, first ts v = some u := by
  induction ts with
  | nil => exact h.elim
  | cons t ts ih =>
    rw [first]
    rcases h with ⟨hw, hp⟩ | ⟨-, h⟩
    · cases hfind : t.2.find? (t.1 v) with
      | some u => exact ⟨u, rfl⟩
      | none => exact absurd hp (List.find?_eq_none.1 hfind w hw)
    · cases t.2.find? (t.1 v) with
      | some u => exact ⟨u, rfl⟩
      | none => exact ih h

lemma follows_congr (h : Rearranged ts' ts) : Follows ts' v w ↔ Follows ts v w := by
  induction h with
  | nil => rfl
  | cons ht _ ih =>
    unfold Follows
    rw [ht.1, ht.2.mem_iff, ih]
    simp only [ht.2.mem_iff]

lemma meets_of_first (hT : ∀ v, T v → T' v)
    (h : Meets halt (fun v w => first ts v = some w) T n v) : Meets halt (Follows ts) T' n v := by
  induction h with
  | here h => exact .here (hT _ h)
  | step hv he _ ih => exact .step hv (follows_of_first he) ih

lemma wanders_of_first (h : Wanders halt (fun v w => first ts v = some w) n v) :
    Wanders halt (Follows ts) n v := by
  induction h with
  | zero v => exact .zero v
  | step hv he _ ih => exact .step hv (follows_of_first he) ih

/-- The dead ends do not depend on the order. -/
lemma dead_first_iff :
    Dead halt (fun v w => first ts v = some w) v ↔ Dead halt (Follows ts) v := by
  refine or_congr_right (and_congr_right fun _ => ⟨fun h w hw => ?_, fun h w hw => ?_⟩)
  · obtain ⟨u, hu⟩ := exists_first hw
    exact h u hu
  · exact h w (follows_of_first hw)

/-- What comes first in lists in a favourable order. -/
lemma first_favours {Q : V → Prop} (hQ : ∀ t ∈ ts, Favours t.2 Q) (hw : Follows ts v w)
    (h : Q w) : ∃ u, first ts v = some u ∧ Q u := by
  induction ts with
  | nil => exact hw.elim
  | cons t ts ih =>
    rw [first]
    cases hfind : t.2.find? (t.1 v) with
    | some u =>
      refine ⟨u, rfl, ?_⟩
      rcases hw with ⟨hw, hp⟩ | ⟨hnone, -⟩
      · exact hQ t List.mem_cons_self _ _ hfind ⟨w, hw, hp, h⟩
      · have hp := List.find?_some hfind
        rw [hnone u (List.mem_of_find?_eq_some hfind)] at hp
        cases hp
    | none =>
      rcases hw with ⟨hw, hp⟩ | ⟨-, hw⟩
      · exact absurd hp (List.find?_eq_none.1 hfind w hw)
      · exact ih (fun t ht => hQ t (List.mem_cons_of_mem _ ht)) hw

/-- An order in which what may follow in one of the sets comes first. -/
lemma exists_order {Q : ℕ → V → Prop} (hQ : Nested Q) (N : ℕ) (ts : List (Tier V)) :
    ∃ ts', Rearranged ts' ts ∧ ∀ n < N, ∀ v w, Follows ts v w → Q n w →
      ∃ u, first ts' v = some u ∧ Q n u := by
  suffices hall : ∃ ts', Rearranged ts' ts ∧ ∀ t ∈ ts', ∀ n < N, Favours t.2 (Q n) by
    obtain ⟨ts', hr, hf⟩ := hall
    refine ⟨ts', hr, fun n hn v w hw hq => ?_⟩
    exact first_favours (fun t ht => hf t ht n hn) ((follows_congr hr).2 hw) hq
  induction ts with
  | nil => exact ⟨[], .nil, fun t ht => absurd ht List.not_mem_nil⟩
  | cons t ts ih =>
    obtain ⟨ts', hr, hf⟩ := ih
    obtain ⟨l', hl, hl'⟩ := exists_favouring hQ N t.2
    refine ⟨(t.1, l') :: ts', .cons ⟨rfl, hl⟩ hr, fun t' ht' => ?_⟩
    rcases List.mem_cons.1 ht' with rfl | ht'
    · exact hl'
    · exact hf t' ht'

/-- **What may be met is met in some order.** -/
theorem exists_meets (h : Meets halt (Follows ts) T n v) :
    ∃ ts', Rearranged ts' ts ∧ Meets halt (fun v w => first ts' v = some w) T n v := by
  have hnested : Nested (Meets halt (Follows ts) T) := by
    intro m k
    rcases Nat.le_total m k with hmk | hmk
    · exact .inl fun v h => h.mono hmk
    · exact .inr fun v h => h.mono hmk
  obtain ⟨ts', hr, horder⟩ := exists_order hnested n ts
  refine ⟨ts', hr, ?_⟩
  suffices hall : ∀ k ≤ n, ∀ v, Meets halt (Follows ts) T k v →
      Meets halt (fun v w => first ts' v = some w) T k v from hall n le_rfl v h
  intro k
  induction k with
  | zero =>
    intro _ v h
    cases h with
    | here h => exact .here h
  | succ k ih =>
    intro hk v h
    cases h with
    | here h => exact .here h
    | step hv he h =>
      obtain ⟨u, hu, hm⟩ := horder k hk v _ he h
      exact .step hv hu (ih (Nat.le_of_succ_le hk) u hm)

/-- **A way that is too long is taken in some order.** -/
theorem exists_wanders (h : Wanders halt (Follows ts) n v) :
    ∃ ts', Rearranged ts' ts ∧ Wanders halt (fun v w => first ts' v = some w) n v := by
  have hnested : Nested (Wanders halt (Follows ts)) := by
    intro m k
    rcases Nat.le_total m k with hmk | hmk
    · exact .inr fun v h => h.anti hmk
    · exact .inl fun v h => h.anti hmk
  obtain ⟨ts', hr, horder⟩ := exists_order hnested n ts
  refine ⟨ts', hr, ?_⟩
  suffices hall : ∀ k ≤ n, ∀ v, Wanders halt (Follows ts) k v →
      Wanders halt (fun v w => first ts' v = some w) k v from hall n le_rfl v h
  intro k
  induction k with
  | zero => exact fun _ v _ => .zero v
  | succ k ih =>
    intro hk v h
    cases h with
    | step hv he h =>
      obtain ⟨u, hu, hm⟩ := horder k hk v _ he h
      exact .step hv hu (ih (Nat.le_of_succ_le hk) u hm)

/-- **Walking to the first that fits** fails in some order exactly if there is a way that strays. -/
theorem exists_walk_eq_false_iff :
    (∃ ts', Rearranged ts' ts ∧ walk halt (first ts') n v = false) ↔
      Strays halt (Follows ts) n v := by
  constructor
  · rintro ⟨ts', hr, h⟩
    have heq : Follows ts = Follows ts' := by
      funext v w
      exact propext (follows_congr hr).symm
    rw [heq]
    rcases walk_eq_false_iff.1 h with h | ⟨m, hm, h⟩
    · exact .inl (wanders_of_first h)
    · exact .inr ⟨m, hm, meets_of_first (fun _ => dead_first_iff.1) h⟩
  · rintro (h | ⟨m, hm, h⟩)
    · obtain ⟨ts', hr, hw⟩ := exists_wanders h
      exact ⟨ts', hr, walk_eq_false_iff.2 (.inl hw)⟩
    · obtain ⟨ts', hr, hw⟩ := exists_meets h
      refine ⟨ts', hr, walk_eq_false_iff.2 (.inr ⟨m, hm, ?_⟩)⟩
      have hdead : ∀ u, Dead halt (Follows ts) u →
          Dead halt (fun v w => first ts' v = some w) u := fun u hu => by
        rw [dead_first_iff]
        exact or_congr_right (and_congr_right fun _ =>
          forall_congr' fun w => not_congr (follows_congr hr)) |>.2 hu
      clear h
      induction hw with
      | here h => exact .here (hdead _ h)
      | step hv he _ ih => exact .step hv he (ih (Nat.lt_of_succ_lt hm))

end first

end SoftHSM.Pursuit
