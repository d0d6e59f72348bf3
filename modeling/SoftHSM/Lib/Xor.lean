import Mathlib.Data.LawfulXor.Basic
import Mathlib.Data.List.FinRange
import Mathlib.Logic.Function.Basic

/-!
Exclusive or on families, and the functions that respect it. A family is the combination of the
families with one entry of it each, so a function that respects the combination is known from its
values on those: this is what a table of them says.
-/

set_option linter.unusedSectionVars false

namespace SoftHSM

section pointwise

variable {ι α : Type*} [XorOp α]

instance instXorOpFamily : XorOp (ι → α) := ⟨fun x y i => x i ^^^ y i⟩

@[simp] lemma xor_apply (x y : ι → α) (i : ι) : (x ^^^ y) i = x i ^^^ y i := rfl

instance instLawfulXorFamily [Zero α] [LawfulXor α] : LawfulXor (ι → α) where
  xor_assoc x y z := by ext i; simp [xor_assoc]
  xor_self x := by ext i; simp
  xor_zero x := by ext i; simp
  xor_comm x y := by ext i; exact LawfulXor.xor_comm _ _

end pointwise

/-- A function that respects the combination. -/
def XorAdditive {α β : Type*} [XorOp α] [XorOp β] (f : α → β) : Prop :=
  ∀ x y, f (x ^^^ y) = f x ^^^ f y

/-- What the entries of a list come to together. -/
def xorSum {ι α : Type*} [XorOp α] [Zero α] (l : List ι) (g : ι → α) : α :=
  l.foldl (fun s i => s ^^^ g i) 0

section additive

variable {α β γ : Type*} [XorOp α] [Zero α] [LawfulXor α] [XorOp β] [Zero β] [LawfulXor β]
  [XorOp γ] [Zero γ] [LawfulXor γ] {f : α → β}

lemma XorAdditive.map_zero (hf : XorAdditive f) : f 0 = 0 := by
  have h := hf 0 0
  rwa [LawfulXor.xor_self, LawfulXor.xor_self] at h

lemma XorAdditive.xor {g : α → β} (hf : XorAdditive f) (hg : XorAdditive g) :
    XorAdditive fun x => f x ^^^ g x := by
  intro x y
  dsimp only
  rw [hf, hg]
  have hmid : f y ^^^ (g x ^^^ g y) = g x ^^^ (f y ^^^ g y) := by
    rw [← xor_assoc, LawfulXor.xor_comm (f y) (g x), xor_assoc]
  rw [xor_assoc, hmid, ← xor_assoc]

lemma foldl_xor {ι : Type*} (l : List ι) (g : ι → α) (s : α) :
    l.foldl (fun s i => s ^^^ g i) s = s ^^^ xorSum l g := by
  induction l generalizing s with
  | nil => simp [xorSum]
  | cons i l ih => rw [xorSum, List.foldl_cons, List.foldl_cons, ih, ih (0 ^^^ g i), zero_xor,
      xor_assoc]

@[simp] lemma xorSum_nil {ι : Type*} (g : ι → α) : xorSum [] g = 0 := rfl

lemma xorSum_cons {ι : Type*} (i : ι) (l : List ι) (g : ι → α) :
    xorSum (i :: l) g = g i ^^^ xorSum l g := by
  rw [xorSum, List.foldl_cons, foldl_xor, zero_xor]

lemma xorSum_append {ι : Type*} (l l' : List ι) (g : ι → α) :
    xorSum (l ++ l') g = xorSum l g ^^^ xorSum l' g := by
  rw [xorSum, List.foldl_append, foldl_xor]
  rfl

lemma XorAdditive.map_xorSum (hf : XorAdditive f) {ι : Type*} (l : List ι) (g : ι → α) :
    f (xorSum l g) = xorSum l fun i => f (g i) := by
  induction l with
  | nil => exact hf.map_zero
  | cons i l ih => rw [xorSum_cons, xorSum_cons, hf, ih]

lemma xorAdditive_xorSum {ι : Type*} (l : List ι) {g : ι → α → β}
    (hg : ∀ i, XorAdditive (g i)) : XorAdditive fun x => xorSum l fun i => g i x := by
  induction l with
  | nil =>
    intro x y
    simp
  | cons i l ih =>
    simp only [xorSum_cons]
    exact (hg i).xor ih

lemma xorSum_eq_zero {ι : Type*} {l : List ι} {g : ι → α} (h : ∀ i ∈ l, g i = 0) :
    xorSum l g = 0 := by
  induction l with
  | nil => rfl
  | cons i l ih =>
    rw [xorSum_cons, h i (List.mem_cons_self ..), ih fun j hj => h j (List.mem_cons_of_mem _ hj),
      zero_xor]

/-- Only one entry counts. -/
lemma xorSum_eq_single {ι : Type*} {l : List ι} {g : ι → α} {i : ι} (hl : l.Nodup) (hi : i ∈ l)
    (h : ∀ j ∈ l, j ≠ i → g j = 0) : xorSum l g = g i := by
  induction l with
  | nil => cases hi
  | cons k l ih =>
    obtain ⟨hk, hl⟩ := List.nodup_cons.1 hl
    rw [xorSum_cons]
    rcases List.mem_cons.1 hi with rfl | hi
    · have hrest : xorSum l g = 0 := xorSum_eq_zero fun j hj =>
        h j (List.mem_cons_of_mem _ hj) (by rintro rfl; exact hk hj)
      rw [hrest, xor_zero]
    · have hfirst : g k = 0 := h k (List.mem_cons_self ..) (by rintro rfl; exact hk hi)
      rw [hfirst, zero_xor]
      exact ih hl hi fun j hj => h j (List.mem_cons_of_mem _ hj)

end additive

section units

variable {n : ℕ} {α β : Type*} [XorOp α] [Zero α] [LawfulXor α] [XorOp β] [Zero β] [LawfulXor β]

/-- The family with one entry. -/
def unit (i : Fin n) (a : α) : Fin n → α := Function.update 0 i a

lemma unit_self (i : Fin n) (a : α) : unit i a i = a := Function.update_self ..

lemma unit_of_ne {i j : Fin n} (h : j ≠ i) (a : α) : unit i a j = 0 :=
  Function.update_of_ne h ..

/-- **A family** is the combination of its entries. -/
lemma xorSum_unit (x : Fin n → α) : xorSum (List.finRange n) (fun i => unit i (x i)) = x := by
  ext j
  have hat : XorAdditive fun y : Fin n → α => y j := fun _ _ => rfl
  rw [hat.map_xorSum, xorSum_eq_single (List.nodup_finRange n) (List.mem_finRange j) fun i _ hij =>
    unit_of_ne hij.symm _, unit_self]

/-- **A table** of the values on single entries is all there is to a function. -/
lemma XorAdditive.eq_table {f : (Fin n → α) → β} (hf : XorAdditive f) (x : Fin n → α) :
    f x = xorSum (List.finRange n) fun i => f (unit i (x i)) := by
  rw [← hf.map_xorSum, xorSum_unit]

end units

end SoftHSM
