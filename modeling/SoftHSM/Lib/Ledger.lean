import Mathlib.Data.List.Induction

/-!
What a history says of one thing: some events begin it, some end it, and each event in between
may add to it.
-/

namespace SoftHSM

/-- How events begin, end and add to a thing. -/
structure Ledger (ℓ α : Type*) where
  opens : ℓ → Option α
  ends : ℓ → Bool
  adds : α → ℓ → α

namespace Ledger

variable {ℓ α : Type*} (b : Ledger ℓ α)

def enter (acc : Option α) (l : ℓ) : Option α :=
  if b.ends l then none else (b.opens l).or (acc.map fun a => b.adds a l)

/-- What stands after a history. -/
def standing (ls : List ℓ) : Option α := ls.foldl b.enter none

variable {b} {ls ls₁ ls₂ : List ℓ} {l : ℓ} {a : α}

lemma standing_snoc (ls : List ℓ) (l : ℓ) :
    b.standing (ls ++ [l]) = b.enter (b.standing ls) l := List.foldl_append

lemma enter_of_ends (h : b.ends l = true) (acc : Option α) : b.enter acc l = none := if_pos h

lemma enter_of_opens (he : b.ends l = false) (ho : b.opens l = some a) (acc : Option α) :
    b.enter acc l = some a := by
  rw [enter, he, if_neg Bool.false_ne_true, ho, Option.some_or]

lemma enter_of_between (he : b.ends l = false) (ho : b.opens l = none) (acc : Option α) :
    b.enter acc l = acc.map fun a => b.adds a l := by
  rw [enter, he, if_neg Bool.false_ne_true, ho, Option.none_or]

/-- **What stands** began at some event, has not ended since, and has what was added since. -/
theorem standing_eq_some : b.standing ls = some a ↔ ∃ ls₁ l ls₂ a₀, ls = ls₁ ++ l :: ls₂ ∧
    b.ends l = false ∧ b.opens l = some a₀ ∧
    (∀ x ∈ ls₂, b.ends x = false ∧ b.opens x = none) ∧ a = ls₂.foldl b.adds a₀ := by
  induction ls using List.reverseRecOn generalizing a with
  | nil =>
    refine iff_of_false (by simp [standing]) ?_
    rintro ⟨ls₁, l, ls₂, -, h, -⟩
    simp at h
  | append_singleton ls x ih =>
    rw [standing_snoc]
    constructor
    · intro h
      cases he : b.ends x with
      | true =>
        rw [enter_of_ends he] at h
        cases h
      | false =>
        cases ho : b.opens x with
        | some a₀ =>
          rw [enter_of_opens he ho] at h
          cases h
          exact ⟨ls, x, [], a, rfl, he, ho, fun y hy => absurd hy List.not_mem_nil, rfl⟩
        | none =>
          rw [enter_of_between he ho] at h
          obtain ⟨a', ha', rfl⟩ := Option.map_eq_some_iff.1 h
          obtain ⟨ls₁, l, ls₂, a₀, rfl, hl, hlo, hbetween, rfl⟩ := ih.1 ha'
          refine ⟨ls₁, l, ls₂ ++ [x], a₀, by simp, hl, hlo, fun y hy => ?_, by simp⟩
          rcases List.mem_append.1 hy with hy | hy
          · exact hbetween y hy
          · rw [List.mem_singleton.1 hy]
            exact ⟨he, ho⟩
    · rintro ⟨ls₁, l, ls₂, a₀, h, hl, hlo, hbetween, rfl⟩
      rcases List.eq_nil_or_concat ls₂ with rfl | ⟨ls₂, y, rfl⟩
      · obtain ⟨-, hx⟩ := List.append_inj' h rfl
        cases hx
        exact enter_of_opens hl hlo _
      · rw [List.concat_eq_append] at h hbetween ⊢
        rw [← List.cons_append, ← List.append_assoc] at h
        obtain ⟨rfl, hx⟩ := List.append_inj' h rfl
        cases hx
        obtain ⟨he, ho⟩ := hbetween x (by simp)
        rw [enter_of_between he ho, List.foldl_append]
        rw [ih.2 ⟨ls₁, l, ls₂, a₀, rfl, hl, hlo, fun z hz => hbetween z (by simp [hz]), rfl⟩]
        rfl

/-- After an end nothing stands that has not begun since. -/
lemma opens_of_ends (h : b.standing (ls₁ ++ l :: ls₂) = some a) (hl : b.ends l = true) :
    ∃ x ∈ ls₂, (b.opens x).isSome = true := by
  have hstand : b.standing (ls₁ ++ l :: ls₂) = b.standing ls₂ := by
    rw [standing, List.foldl_append, List.foldl_cons, enter_of_ends hl, standing]
  rw [hstand] at h
  obtain ⟨ls₃, x, ls₄, a₀, rfl, -, ho, -⟩ := standing_eq_some.1 h
  exact ⟨x, by simp, by rw [ho]; rfl⟩

end Ledger

end SoftHSM
