import Mathlib.Algebra.Group.Nat.Defs
import Mathlib.Data.Nat.Notation
import Mathlib.Tactic.Common

/-!
Machine words that are counted with. Beside each operation that wraps stands one that says
whether it did.
-/

namespace Checked

/-! ### Arithmetic that says where it leaves the word -/

def word (k : ℕ) : Option ℕ := if k < 2 ^ 64 then some k else none

def add (a b : ℕ) : Option ℕ := word (a + b)

def mul (a b : ℕ) : Option ℕ := word (a * b)

def sub (a b : ℕ) : Option ℕ := if b ≤ a then some (a - b) else none

/-- A count that is kept in a signed word of half the width. -/
def int (a : ℕ) : Option ℕ := if a < 2 ^ 31 then some a else none

@[simp] lemma word_eq_some {k c : ℕ} : word k = some c ↔ k < 2 ^ 64 ∧ k = c := by
  simp [word]

@[simp] lemma add_eq_some {a b c : ℕ} : add a b = some c ↔ a + b < 2 ^ 64 ∧ a + b = c :=
  word_eq_some

@[simp] lemma mul_eq_some {a b c : ℕ} : mul a b = some c ↔ a * b < 2 ^ 64 ∧ a * b = c :=
  word_eq_some

@[simp] lemma sub_eq_some {a b c : ℕ} : sub a b = some c ↔ b ≤ a ∧ a - b = c := by
  simp [sub]

@[simp] lemma int_eq_some {a c : ℕ} : int a = some c ↔ a < 2 ^ 31 ∧ a = c := by
  simp [int]

/-! ### The words themselves -/

/-- A count in a signed word of half the width, as the code has it. -/
def toInt (x : UInt64) : Int32 := x.toUInt32.toInt32

/-- And back, where it is a factor of a size. -/
def ofInt (i : Int32) : UInt64 := i.toInt64.toUInt64

lemma toNat_add {x y : UInt64} (h : x.toNat + y.toNat < 2 ^ 64) :
    (x + y).toNat = x.toNat + y.toNat := by
  rw [UInt64.toNat_add, Nat.mod_eq_of_lt h]

lemma toNat_mul {x y : UInt64} (h : x.toNat * y.toNat < 2 ^ 64) :
    (x * y).toNat = x.toNat * y.toNat := by
  rw [UInt64.toNat_mul, Nat.mod_eq_of_lt h]

lemma toNat_sub {x y : UInt64} (h : y.toNat ≤ x.toNat) :
    (x - y).toNat = x.toNat - y.toNat :=
  UInt64.toNat_sub_of_le x y (UInt64.le_iff_toNat_le.2 h)

lemma ofInt_toInt {x : UInt64} (h : x.toNat < 2 ^ 31) : ofInt (toInt x) = x := by
  apply UInt64.toBitVec_inj.1
  have hx : x.toBitVec.toNat < 2 ^ 31 := h
  have hmod : x.toBitVec.toNat % 2 ^ 32 = x.toBitVec.toNat := by omega
  have hmsb : (x.toBitVec.setWidth 32).msb = false := by
    rw [BitVec.msb_eq_decide, BitVec.toNat_setWidth, hmod]
    simp only [decide_eq_false_iff_not, Nat.not_le]
    omega
  simp only [ofInt, toInt, Int64.toBitVec_toUInt64, Int32.toBitVec_toInt64,
    UInt32.toBitVec_toInt32, UInt64.toBitVec_toUInt32]
  rw [BitVec.signExtend_eq_setWidth_of_msb_false hmsb]
  apply BitVec.eq_of_toNat_eq
  rw [BitVec.toNat_setWidth, BitVec.toNat_setWidth, hmod]
  omega

end Checked
