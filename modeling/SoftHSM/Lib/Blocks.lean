import Mathlib.Data.List.Basic

/-!
Lists in a row, each of them a head with a block behind it, where what can be a head stands in no
block. The row is taken apart at the heads, and what each of the lists says is said by the row.
-/

namespace Blocks

variable {α β γ : Type} {p : β → Prop} {b b' xs ys : List β} {f : α → List β} {g : α → γ}

/-- Two blocks without heads are one if what follows them begins with a head. -/
lemma block_inj (hb : ∀ x ∈ b, ¬ p x) (hb' : ∀ x ∈ b', ¬ p x) (hx : ∀ x ∈ xs.head?, p x)
    (hy : ∀ y ∈ ys.head?, p y) (h : b ++ xs = b' ++ ys) : b = b' ∧ xs = ys := by
  induction b generalizing b' with
  | nil =>
    cases b' with
    | nil => exact ⟨rfl, h⟩
    | cons z b' =>
      have hz : z ∈ xs.head? := by rw [← List.nil_append xs, h]; rfl
      exact absurd (hx z hz) (hb' z (List.mem_cons_self ..))
  | cons z b ih =>
    cases b' with
    | nil =>
      have hz : z ∈ ys.head? := by rw [← List.nil_append ys, ← h]; rfl
      exact absurd (hy z hz) (hb z (List.mem_cons_self ..))
    | cons z' b' =>
      obtain ⟨rfl, htail⟩ := List.cons.inj h
      obtain ⟨rfl, hrest⟩ := ih (fun x hmem => hb x (List.mem_cons_of_mem _ hmem))
        (fun x hmem => hb' x (List.mem_cons_of_mem _ hmem)) htail
      exact ⟨rfl, hrest⟩

/-- Each of the lists is a head with a block. -/
def Headed (p : β → Prop) (f : α → List β) : Prop :=
  ∀ a, ∃ x b, f a = x :: b ∧ p x ∧ ∀ y ∈ b, ¬ p y

lemma Headed.head (hf : Headed p f) (l : List α) : ∀ x ∈ (l.flatMap f).head?, p x := by
  intro x hx
  cases l with
  | nil => cases hx
  | cons a l =>
    obtain ⟨y, b, ha, hy, -⟩ := hf a
    rw [List.flatMap_cons, ha] at hx
    obtain rfl := Option.some.inj hx
    exact hy

/-- **What is said list by list** is said by all of them in a row. -/
lemma Headed.map_eq (hf : Headed p f) (hg : ∀ a a', f a = f a' → g a = g a') {l l' : List α}
    (h : l.flatMap f = l'.flatMap f) : l.map g = l'.map g := by
  induction l generalizing l' with
  | nil =>
    cases l' with
    | nil => rfl
    | cons a' l' =>
      obtain ⟨x, b, ha, -⟩ := hf a'
      rw [List.flatMap_cons, ha] at h
      cases h
  | cons a l ih =>
    obtain ⟨x, b, ha, -, hb⟩ := hf a
    cases l' with
    | nil =>
      rw [List.flatMap_cons, ha] at h
      cases h
    | cons a' l' =>
      obtain ⟨x', b', ha', -, hb'⟩ := hf a'
      rw [List.flatMap_cons, List.flatMap_cons, ha, ha'] at h
      obtain ⟨rfl, htail⟩ := List.cons.inj h
      obtain ⟨rfl, hrest⟩ := block_inj hb hb' (hf.head l) (hf.head l') htail
      rw [List.map_cons, List.map_cons, hg a a' (ha.trans ha'.symm), ih hrest]

end Blocks
