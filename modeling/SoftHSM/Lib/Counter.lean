import SoftHSM.Lib.Memory

/-!
A part of a block as a counter, the highest byte first: counting up carries from byte to byte and
stays inside the part, so as many steps as the part has values give that many different blocks.
-/

namespace SoftHSM.Counter

variable {n : ℕ}

/-- One more in the bytes from `b` up to `i`, from the last one while there is a carry. -/
def increment (b : ℕ) : ℕ → Block n → Block n
  | 0, v => v
  | i + 1, v =>
    if i + 1 ≤ b then v
    else if h : i < n then
      let v' := Function.update v ⟨i, h⟩ (v ⟨i, h⟩ + 1)
      if v' ⟨i, h⟩ ≠ 0 then v' else increment b i v'
    else v

/-- The number in the bytes from `b` up to `e`. -/
def number (b : ℕ) : ℕ → Block n → ℕ
  | 0, _ => 0
  | e + 1, v =>
    if e + 1 ≤ b then 0
    else if h : e < n then number b e v * 256 + (v ⟨e, h⟩).toNat else 0

lemma number_lt (b e : ℕ) (v : Block n) : number b e v < 256 ^ (e - b) := by
  induction e with
  | zero => simp [number]
  | succ e ih =>
    rw [number]
    split
    · exact Nat.pow_pos (by decide)
    · rename_i hb
      split
      · rename_i h
        have hlt := (v ⟨e, h⟩).toNat_lt
        have hpow : 256 ^ (e + 1 - b) = 256 ^ (e - b) * 256 := by
          rw [← pow_succ]
          congr 1
          omega
        omega
      · exact Nat.pow_pos (by decide)

/-- The bytes behind the part do not matter. -/
lemma number_update {b e i : ℕ} (v : Block n) (hi : i < n) (he : e ≤ i) (c : UInt8) :
    number b e (Function.update v ⟨i, hi⟩ c) = number b e v := by
  induction e with
  | zero => rfl
  | succ e ih =>
    have hne : ∀ h : e < n, (⟨e, h⟩ : Fin n) ≠ ⟨i, hi⟩ := by
      intro h heq
      have := congrArg Fin.val heq
      simp only at this
      omega
    rw [number, number, ih (by omega)]
    split
    · rfl
    · split
      · rename_i h
        rw [Function.update_of_ne (hne h)]
      · rfl

lemma increment_outside {b e : ℕ} (v : Block n) (i : Fin n) (hi : i < b ∨ e ≤ i) :
    increment b e v i = v i := by
  induction e generalizing v with
  | zero => rfl
  | succ e ih =>
    rw [increment]
    split
    · rfl
    rename_i hb
    split
    · rename_i h
      have hne : i ≠ ⟨e, h⟩ := by
        intro heq
        have := congrArg Fin.val heq
        simp only at this
        omega
      dsimp only
      split
      · exact Function.update_of_ne hne ..
      · rw [ih _ (by omega), Function.update_of_ne hne]
    · rfl

/-- **Counting up** is counting up, and round at the end. -/
lemma number_increment {b e : ℕ} (he : e ≤ n) (v : Block n) :
    number b e (increment b e v) = (number b e v + 1) % 256 ^ (e - b) := by
  induction e generalizing v with
  | zero => simp [number]
  | succ e ih =>
    rw [increment]
    by_cases hb : e + 1 ≤ b
    · rw [if_pos hb, number, if_pos hb, Nat.sub_eq_zero_of_le hb, pow_zero, Nat.mod_one]
    have hlt : e < n := by omega
    have hpow : 256 ^ (e + 1 - b) = 256 ^ (e - b) * 256 := by
      rw [← pow_succ]
      congr 1
      omega
    have hnum := number_lt b e v
    have hbyte := (v ⟨e, hlt⟩).toNat_lt
    have hv : number b (e + 1) v = number b e v * 256 + (v ⟨e, hlt⟩).toNat := by
      rw [number, if_neg hb, dif_pos hlt]
    rw [if_neg hb, dif_pos hlt, hv, hpow]
    simp only [Function.update_self]
    split
    · rename_i hne
      have hsucc : (v ⟨e, hlt⟩ + 1).toNat = (v ⟨e, hlt⟩).toNat + 1 := by
        have hz : (v ⟨e, hlt⟩ + 1).toNat ≠ 0 := fun h0 => hne (UInt8.toNat_inj.1 h0)
        rw [UInt8.toNat_add, show (1 : UInt8).toNat = 1 from rfl] at hz ⊢
        omega
      have hsmall := (v ⟨e, hlt⟩ + 1).toNat_lt
      rw [number, if_neg hb, dif_pos hlt, Function.update_self, number_update v hlt (Nat.le_refl _),
        hsucc, Nat.mod_eq_of_lt (by omega)]
      omega
    · rename_i hz
      have h255 : (v ⟨e, hlt⟩).toNat = 255 := by
        have h0 : (v ⟨e, hlt⟩ + 1).toNat = 0 := congrArg UInt8.toNat (not_not.1 hz)
        rw [UInt8.toNat_add, show (1 : UInt8).toNat = 1 from rfl] at h0
        omega
      have hlast : increment b e (Function.update v ⟨e, hlt⟩ (v ⟨e, hlt⟩ + 1)) ⟨e, hlt⟩ = 0 := by
        have hout := increment_outside (b := b) (e := e)
          (Function.update v ⟨e, hlt⟩ (v ⟨e, hlt⟩ + 1)) ⟨e, hlt⟩ (.inr (Nat.le_refl e))
        rw [hout, Function.update_self, not_not.1 hz]
      have hcarry : number b e v * 256 + 255 + 1 = (number b e v + 1) * 256 := by ring
      rw [number, if_neg hb, dif_pos hlt, hlast, ih (by omega), number_update v hlt (Nat.le_refl _),
        h255, UInt8.toNat_zero, add_zero, hcarry, Nat.mul_mod_mul_right]

lemma number_iterate {b e : ℕ} (he : e ≤ n) (v : Block n) (k : ℕ) :
    number b e ((increment b e)^[k] v) = (number b e v + k) % 256 ^ (e - b) := by
  induction k with
  | zero => rw [Function.iterate_zero_apply, add_zero, Nat.mod_eq_of_lt (number_lt b e v)]
  | succ k ih => rw [Function.iterate_succ_apply', number_increment he, ih, Nat.mod_add_mod, add_assoc]

/-- The number and the rest are all of a block. -/
lemma eq_of_number {b e : ℕ} {v w : Block n} (he : e ≤ n) (h : number b e v = number b e w)
    (hout : ∀ i : Fin n, i < b ∨ e ≤ i → v i = w i) : v = w := by
  induction e with
  | zero => exact funext fun i => hout i (.inr (Nat.zero_le _))
  | succ e ih =>
    by_cases hb : e + 1 ≤ b
    · exact funext fun i => hout i (by omega)
    have hlt : e < n := he
    rw [number, number, if_neg hb, if_neg hb, dif_pos hlt, dif_pos hlt] at h
    have hv := (v ⟨e, hlt⟩).toNat_lt
    have hw := (w ⟨e, hlt⟩).toNat_lt
    have hbyte : v ⟨e, hlt⟩ = w ⟨e, hlt⟩ := UInt8.toNat_inj.1 (by omega)
    refine ih (by omega) (by omega) fun i hi => ?_
    by_cases hie : i = ⟨e, hlt⟩
    · rw [hie, hbyte]
    · exact hout i (by have := Fin.val_ne_of_ne hie; simp only at this; omega)

lemma iterate_outside {b e : ℕ} (v : Block n) (i : Fin n) (hi : i < b ∨ e ≤ i) (k : ℕ) :
    (increment b e)^[k] v i = v i := by
  induction k with
  | zero => rfl
  | succ k ih => rw [Function.iterate_succ_apply', increment_outside _ _ hi, ih]

/-- The first values of the counter. -/
def values (b e : ℕ) (v : Block n) (k : ℕ) : List (Block n) :=
  (List.range k).map fun i => (increment b e)^[i] v

/-- **No value twice** before the counter has come round. -/
lemma nodup_values {b e k : ℕ} (he : e ≤ n) (hk : k ≤ 256 ^ (e - b)) (v : Block n) :
    (values b e v k).Nodup := by
  refine List.Nodup.map_on (fun i hi j hj hij => ?_) List.nodup_range
  have hi' := List.mem_range.1 hi
  have hj' := List.mem_range.1 hj
  have h : (number b e v + i) % 256 ^ (e - b) = (number b e v + j) % 256 ^ (e - b) := by
    rw [← number_iterate he, ← number_iterate he, hij]
  have hmod : i % 256 ^ (e - b) = j % 256 ^ (e - b) := Nat.ModEq.add_left_cancel' _ h
  rwa [Nat.mod_eq_of_lt (by omega), Nat.mod_eq_of_lt (by omega)] at hmod

end SoftHSM.Counter
