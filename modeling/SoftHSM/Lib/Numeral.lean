import Mathlib.Data.Nat.Digits.Lemmas
import SoftHSM.Lib.Tlv

/-!
Numbers in bytes, the highest first: in as many bytes as there are, or in as few as are needed.
-/

namespace SoftHSM.Numeral

/-- A number in as many bytes as there are. -/
def bigEndian (r i : ℕ) : List UInt8 := (List.range r).reverse.map fun j => UInt8.ofNat (i / 256 ^ j)

/-- A number in as few bytes as it needs. -/
def minimalBigEndian (i : ℕ) : List UInt8 := (Nat.digits 256 i).reverse.map UInt8.ofNat

@[simp] lemma length_bigEndian (r i : ℕ) : (bigEndian r i).length = r := by
  simp [bigEndian]

lemma bigEndian_succ (r i : ℕ) : bigEndian (r + 1) i = UInt8.ofNat (i / 256 ^ r) :: bigEndian r i := by
  simp [bigEndian, List.range_succ]

lemma value_append (l l' : List UInt8) :
    Tlv.value (l ++ l') = Tlv.value l * 256 ^ l'.length + Tlv.value l' := by
  induction l' using List.reverseRecOn with
  | nil => simp [Tlv.value]
  | append_singleton l' b ih =>
    have hsnoc : ∀ bs : List UInt8, Tlv.value (bs ++ [b]) = Tlv.value bs * 256 + b.toNat := by
      intro bs
      rw [Tlv.value, List.foldl_append]
      rfl
    rw [← List.append_assoc, hsnoc, ih, hsnoc, List.length_append, List.length_singleton, pow_succ]
    ring

lemma value_zeros (n : ℕ) (l : List UInt8) : Tlv.value (List.replicate n 0 ++ l) = Tlv.value l := by
  induction n with
  | zero => simp
  | succ n ih =>
    rw [List.replicate_succ, List.cons_append, ← List.singleton_append, value_append, ih]
    simp [Tlv.value]

lemma value_lt (l : List UInt8) : Tlv.value l < 256 ^ l.length := by
  induction l with
  | nil => decide
  | cons b l ih =>
    have hb := b.toNat_lt
    have hone : Tlv.value [b] = b.toNat := by simp [Tlv.value]
    have happ := value_append [b] l
    rw [List.singleton_append, hone] at happ
    rw [happ, List.length_cons, pow_succ]
    nlinarith

/-- **The number** of the bytes of a number. -/
lemma value_bigEndian (r i : ℕ) : Tlv.value (bigEndian r i) = i % 256 ^ r := by
  induction r with
  | zero => rw [pow_zero, Nat.mod_one]; rfl
  | succ r ih =>
    have hone : Tlv.value [UInt8.ofNat (i / 256 ^ r)] = i / 256 ^ r % 256 := by simp [Tlv.value]
    have happ := value_append [UInt8.ofNat (i / 256 ^ r)] (bigEndian r i)
    rw [List.singleton_append, hone, ih, length_bigEndian] at happ
    rw [bigEndian_succ, happ, pow_succ, Nat.mod_mul, Nat.mul_comm]
    exact Nat.add_comm _ _

end SoftHSM.Numeral
