import Mathlib.Data.Nat.Notation
import Mathlib.Logic.Basic
import Mathlib.Tactic.Common

/-!
An allowance over the steps of a run: some steps take one from it, some fill it up again, and all other
ones leave it. So what was taken in a run and what is left come to what there was and what was filled up.
-/

namespace SoftHSM.Allowance

variable {σ ℓ : Type}

/-- How many steps of a run meet a condition. -/
def count (exec : σ → ℓ → σ) (C : σ → ℓ → Bool) : σ → List ℓ → ℕ
  | _, [] => 0
  | s, l :: ls => (if C s l then 1 else 0) + count exec C (exec s l) ls

/-- What a step does to what is left. -/
structure Step (exec : σ → ℓ → σ) (left : σ → ℕ) (takes fills : σ → ℓ → Bool) (bound : ℕ) (s : σ)
    (l : ℓ) : Prop where
  taken : takes s l = true → left (exec s l) + 1 = left s ∧ fills s l = false
  filled : fills s l = true → left (exec s l) ≤ bound
  same : takes s l = false → fills s l = false → left (exec s l) = left s

variable {exec : σ → ℓ → σ} {left : σ → ℕ} {takes fills : σ → ℓ → Bool} {bound : ℕ} {I : σ → Prop}

/-- **The account of a run.** -/
theorem account (hstep : ∀ s l, I s → I (exec s l) ∧ Step exec left takes fills bound s l) {s : σ}
    (hs : I s) (ls : List ℓ) :
    left (ls.foldl exec s) + count exec takes s ls ≤ left s + bound * count exec fills s ls ∧
      (count exec fills s ls = 0 → left (ls.foldl exec s) + count exec takes s ls = left s) := by
  induction ls generalizing s with
  | nil => exact ⟨Nat.le_add_right _ _, fun _ => rfl⟩
  | cons l ls ih =>
    obtain ⟨hnext, htaken, hfilled, hsame⟩ := hstep s l hs
    obtain ⟨hle, heq⟩ := ih hnext
    simp only [List.foldl_cons, count]
    cases htakes : takes s l with
    | true =>
      obtain ⟨hone, hfills⟩ := htaken htakes
      rw [hfills, if_pos rfl, if_neg Bool.false_ne_true, Nat.zero_add]
      exact ⟨by omega, fun h => by have := heq h; omega⟩
    | false =>
      rw [if_neg Bool.false_ne_true, Nat.zero_add]
      cases hfills : fills s l with
      | true =>
        have hbound := hfilled hfills
        rw [if_pos rfl, Nat.mul_add, Nat.mul_one]
        exact ⟨by omega, fun h => by omega⟩
      | false =>
        rw [if_neg Bool.false_ne_true, Nat.zero_add, ← hsame htakes hfills]
        exact ⟨hle, heq⟩

end SoftHSM.Allowance
