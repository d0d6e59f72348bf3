import Mathlib.Data.ZMod.Basic
import Mathlib.Data.ZMod.QuotientGroup
import Mathlib.Algebra.Field.ZMod
import Mathlib.GroupTheory.OrderOfElement
import Mathlib.GroupTheory.Index

/-!
Residues as factors of the elements of a group that the modulus takes to zero; and the elements of
prime order in a group that is not divided by that prime twice.
-/

namespace SoftHSM.PrimeOrder

variable {G : Type*} [AddCommGroup G] {q : ℕ} {P T : G}

/-- An element times a residue. -/
def act (a : ZMod q) (T : G) : G := a.val • T

lemma nsmul_congr (hT : q • T = 0) {a b : ℕ} (h : (a : ZMod q) = b) : a • T = b • T :=
  nsmul_eq_nsmul_iff_modEq.2 <|
    ((ZMod.natCast_eq_natCast_iff a b q).1 h).of_dvd (addOrderOf_dvd_of_nsmul_eq_zero hT)

lemma mod_nsmul (hT : q • T = 0) (a : ℕ) : (a % q) • T = a • T :=
  nsmul_congr hT (ZMod.natCast_mod a q)

section act

variable [NeZero q]

lemma act_natCast (hT : q • T = 0) (a : ℕ) : act (a : ZMod q) T = a • T :=
  nsmul_congr hT (ZMod.natCast_zmod_val _)

lemma act_act (hT : q • T = 0) (a b : ZMod q) : act a (act b T) = act (a * b) T := by
  rw [act, act, act, ← mul_nsmul']
  refine nsmul_congr hT ?_
  rw [Nat.cast_mul, ZMod.natCast_zmod_val, ZMod.natCast_zmod_val, ZMod.natCast_zmod_val]

lemma act_add (hT : q • T = 0) (a b : ZMod q) : act (a + b) T = act a T + act b T := by
  rw [act, act, act, ← add_nsmul]
  refine nsmul_congr hT ?_
  rw [Nat.cast_add, ZMod.natCast_zmod_val, ZMod.natCast_zmod_val, ZMod.natCast_zmod_val]

lemma act_sub (hT : q • T = 0) (a b : ZMod q) : act (a - b) T = act a T - act b T := by
  rw [eq_sub_iff_add_eq, ← act_add hT, sub_add_cancel]

end act

/-- **The elements of prime order** are the multiples of one of them, where the prime does not
divide how many times larger the group is. -/
theorem mem_zmultiples {h : ℕ} (hq : q.Prime) (hcard : Nat.card G = h * q) (hh : ¬ q ∣ h)
    (hP : addOrderOf P = q) (hT : q • T = 0) : T ∈ AddSubgroup.zmultiples P := by
  have hindex : (AddSubgroup.zmultiples P).index = h := by
    have hmul := (AddSubgroup.zmultiples P).card_mul_index
    rw [Nat.card_zmultiples, hP, hcard, Nat.mul_comm h q] at hmul
    exact Nat.eq_of_mul_eq_mul_left hq.pos hmul
  have hclass : h • (T : G ⧸ AddSubgroup.zmultiples P) = 0 := by
    have hall := card_nsmul_eq_zero' (G := G ⧸ AddSubgroup.zmultiples P)
      (x := (T : G ⧸ AddSubgroup.zmultiples P))
    rwa [← AddSubgroup.index_eq_card, hindex] at hall
  have hprime : q • (T : G ⧸ AddSubgroup.zmultiples P) = 0 := by
    rw [← QuotientAddGroup.mk_nsmul, hT, QuotientAddGroup.mk_zero]
  have hone : addOrderOf (T : G ⧸ AddSubgroup.zmultiples P) ∣ 1 := by
    rw [← Nat.coprime_iff_gcd_eq_one.1 ((Nat.Prime.coprime_iff_not_dvd hq).2 hh)]
    exact Nat.dvd_gcd (addOrderOf_dvd_of_nsmul_eq_zero hprime)
      (addOrderOf_dvd_of_nsmul_eq_zero hclass)
  rw [Nat.dvd_one, AddMonoid.addOrderOf_eq_one_iff] at hone
  exact (QuotientAddGroup.eq_zero_iff T).1 hone

end SoftHSM.PrimeOrder
