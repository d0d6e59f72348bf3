import Mathlib.NumberTheory.LucasPrimality

/-!
Certificates for large primes: a number of the greatest order, with the prime factors of that order.
-/

namespace SoftHSM.Certificate

/-- A power modulo a number, for exponents of so many bits. -/
def powMod (m : ℕ) : ℕ → ℕ → ℕ → ℕ
  | 0, _, _ => 1 % m
  | bits + 1, a, e =>
    if e % 2 = 0 then powMod m bits (a * a % m) (e / 2)
    else a * powMod m bits (a * a % m) (e / 2) % m

lemma powMod_eq {m bits : ℕ} (a e : ℕ) (h : e < 2 ^ bits) : powMod m bits a e = a ^ e % m := by
  induction bits generalizing a e with
  | zero =>
    obtain rfl : e = 0 := by simpa using h
    rw [powMod, pow_zero]
  | succ bits ih =>
    have hhalf : e / 2 < 2 ^ bits := by rw [pow_succ] at h; omega
    have hpow : powMod m bits (a * a % m) (e / 2) = a ^ (2 * (e / 2)) % m := by
      rw [ih _ _ hhalf, ← Nat.pow_mod, ← pow_two, ← pow_mul]
    rw [powMod, hpow]
    split_ifs with he
    · rw [Nat.mul_div_cancel' (Nat.dvd_of_mod_eq_zero he)]
    · rw [Nat.mul_mod_mod, ← pow_succ']
      congr 2
      omega

/-- The factors make up the number before `p`, and `a` has that order modulo `p`. -/
def Certifies (p a : ℕ) (factors : List ℕ) : Prop :=
  1 < p ∧ factors.prod = p - 1 ∧ powMod p (p.log2 + 1) a (p - 1) = 1 ∧
    ∀ f ∈ factors, powMod p (p.log2 + 1) a ((p - 1) / f) ≠ 1

instance (p a : ℕ) (factors : List ℕ) : Decidable (Certifies p a factors) :=
  inferInstanceAs (Decidable (_ ∧ _))

/-- **A certificate** with prime factors is that of a prime. -/
theorem Certifies.prime {p a : ℕ} {factors : List ℕ} (h : Certifies p a factors)
    (hf : ∀ f ∈ factors, f.Prime) : p.Prime := by
  obtain ⟨hp, hprod, hone, hne⟩ := h
  have hbits : p - 1 < 2 ^ (p.log2 + 1) := by
    have := Nat.lt_log2_self (n := p)
    omega
  have hcast : ∀ e : ℕ, (a : ZMod p) ^ e = 1 ↔ a ^ e % p = 1 := by
    intro e
    have heq := ZMod.natCast_eq_natCast_iff' (a ^ e) 1 p
    rwa [Nat.cast_pow, Nat.cast_one, Nat.mod_eq_of_lt hp] at heq
  refine lucas_primality p a ?_ fun f hprime hdvd => ?_
  · rw [hcast, ← powMod_eq _ _ hbits]
    exact hone
  · obtain ⟨f', hmem, hdvd'⟩ := (Prime.dvd_prod_iff hprime.prime).1 (hprod ▸ hdvd)
    obtain rfl := (Nat.prime_dvd_prime_iff_eq hprime (hf f' hmem)).1 hdvd'
    rw [Ne, hcast, ← powMod_eq _ _ ((Nat.div_le_self _ _).trans_lt hbits)]
    exact hne f hmem

/-- Each number of a list has a certificate whose factors are known or come after it. -/
def Certified (known : List ℕ) : List (ℕ × ℕ × List ℕ) → Prop
  | [] => True
  | (p, a, factors) :: rows => Certifies p a factors ∧
      (∀ f ∈ factors, f ∈ known ∨ f ∈ rows.map Prod.fst) ∧ Certified known rows

instance (known : List ℕ) : (rows : List (ℕ × ℕ × List ℕ)) → Decidable (Certified known rows)
  | [] => inferInstanceAs (Decidable True)
  | (p, a, factors) :: rows =>
    haveI := instDecidableCertified known rows
    inferInstanceAs (Decidable (Certifies p a factors ∧ _ ∧ _))

theorem Certified.prime {known : List ℕ} {rows : List (ℕ × ℕ × List ℕ)} (h : Certified known rows)
    (hknown : ∀ f ∈ known, f.Prime) : ∀ p ∈ rows.map Prod.fst, p.Prime := by
  induction rows with
  | nil => simp
  | cons row rows ih =>
    obtain ⟨p, a, factors⟩ := row
    obtain ⟨hcert, hfactors, hrows⟩ := h
    refine List.forall_mem_cons.2 ⟨hcert.prime fun f hf => ?_, ih hrows⟩
    exact (hfactors f hf).elim (hknown f) (ih hrows f)

end SoftHSM.Certificate
