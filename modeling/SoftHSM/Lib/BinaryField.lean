import SoftHSM.Lib.Memory

/-!
Blocks of bytes as polynomials over the field of two elements, the first bit the highest power, and
their multiplication modulo a polynomial of the degree of the block: bit by bit, with one shift for
each, it is the product of the polynomials, reduced.
-/

namespace SoftHSM.BinaryField

open Polynomial

variable {n : ℕ}

/-! ### Bits -/

/-- The coefficient of a power. -/
def bit (y : Block n) (k : ℕ) : Bool :=
  if h : k < 8 * n then (y ⟨n - 1 - k / 8, by omega⟩).toBitVec.getLsbD (k % 8) else false

lemma bit_of_le (y : Block n) {k : ℕ} (h : 8 * n ≤ k) : bit y k = false := by
  rw [bit, dif_neg (by omega)]

lemma bit_xor (x y : Block n) (k : ℕ) : bit (x ^^^ y) k = (bit x k ^^ bit y k) := by
  by_cases h : k < 8 * n
  · simp [bit, h]
  · simp [bit, h]

lemma bit_ext {x y : Block n} (h : ∀ k < 8 * n, bit x k = bit y k) : x = y := by
  funext i
  apply UInt8.toBitVec_inj.1
  apply BitVec.eq_of_getLsbD_eq
  intro j hj
  have hk := h (8 * (n - 1 - i) + j) (by omega)
  have hlt : 8 * (n - 1 - (i : ℕ)) + j < 8 * n := by omega
  have hdiv : (8 * (n - 1 - (i : ℕ)) + j) / 8 = n - 1 - i := by omega
  have hmod : (8 * (n - 1 - (i : ℕ)) + j) % 8 = j := by omega
  have hi : n - 1 - (n - 1 - (i : ℕ)) = i := by omega
  simpa only [bit, hlt, dite_true, hdiv, hmod, hi, Fin.eta] using hk

/-- The block whose bits are given. -/
def ofBits (f : ℕ → Bool) : Block n := fun i => ⟨BitVec.ofFnLE fun j : Fin 8 => f (8 * (n - 1 - i) + j)⟩

lemma bit_ofBits (f : ℕ → Bool) {k : ℕ} (h : k < 8 * n) : bit (ofBits (n := n) f) k = f k := by
  have hi : n - 1 - (n - 1 - k / 8) = k / 8 := by omega
  have hk : 8 * (k / 8) + k % 8 = k := by omega
  have hlt : k % 8 < 8 := by omega
  rw [bit, dif_pos h, ofBits]
  simp only [BitVec.getLsbD_eq_getElem hlt, BitVec.getElem_ofFnLE, hi, hk]

/-! ### Polynomials -/

/-- The polynomial of a block. -/
noncomputable def poly (y : Block n) : (ZMod 2)[X] :=
  ∑ k ∈ Finset.range (8 * n), if bit y k then X ^ k else 0

lemma coeff_poly (y : Block n) (k : ℕ) : (poly y).coeff k = if bit y k then 1 else 0 := by
  have hterm : ∀ j, (if bit y j then (X : (ZMod 2)[X]) ^ j else 0).coeff k =
      if j = k then (if bit y k then 1 else 0) else 0 := by
    intro j
    by_cases hj : j = k
    · subst hj
      by_cases hb : bit y j <;> simp [hb]
    · have hjk : ¬ k = j := fun h => hj h.symm
      by_cases hb : bit y j <;> simp [hb, hj, coeff_X_pow, hjk]
  rw [poly, finsetSum_coeff]
  simp only [hterm, Finset.sum_ite_eq', Finset.mem_range]
  by_cases hk : k < 8 * n
  · rw [if_pos hk]
  · rw [if_neg hk, bit_of_le y (by omega)]
    simp

lemma poly_injective : Function.Injective (poly (n := n)) := by
  intro x y h
  refine bit_ext fun k _ => ?_
  have hk : (if bit x k then (1 : ZMod 2) else 0) = if bit y k then 1 else 0 := by
    rw [← coeff_poly, ← coeff_poly, h]
  cases hx : bit x k <;> cases hy : bit y k <;> simp_all

lemma poly_xor (x y : Block n) : poly (x ^^^ y) = poly x + poly y := by
  ext k
  rw [coeff_add, coeff_poly, coeff_poly, coeff_poly, bit_xor]
  cases bit x k <;> cases bit y k <;> decide

lemma poly_zero : poly (0 : Block n) = 0 := by
  have h := poly_xor (0 : Block n) 0
  rw [LawfulXor.xor_self] at h
  exact left_eq_add.1 h

lemma degree_poly_lt (y : Block n) : (poly y).degree < (8 * n : ℕ) := by
  rw [degree_lt_iff_coeff_zero]
  intro k hk
  rw [coeff_poly, bit_of_le y hk]
  simp

/-- The block of a polynomial. -/
noncomputable def ofPoly (p : (ZMod 2)[X]) : Block n := ofBits fun k => decide (p.coeff k = 1)

lemma poly_ofPoly {p : (ZMod 2)[X]} (hp : p.degree < (8 * n : ℕ)) : poly (ofPoly (n := n) p) = p := by
  have htwo : ∀ c : ZMod 2, (if decide (c = 1) then (1 : ZMod 2) else 0) = c := by decide
  ext k
  rw [coeff_poly]
  by_cases hk : k < 8 * n
  · rw [ofPoly, bit_ofBits _ hk, htwo]
  · rw [bit_of_le _ (by omega), (degree_lt_iff_coeff_zero _ _).1 hp k (by omega)]
    simp

/-! ### Multiplication -/

/-- The bits of the polynomial that reduces, below the degree of the block. -/
def low (r : UInt8) (k : ℕ) : Bool := r.toBitVec.getLsbD k

noncomputable def lowPoly (r : UInt8) : (ZMod 2)[X] :=
  ∑ k ∈ Finset.range 8, if low r k then X ^ k else 0

/-- What the multiplication is modulo. -/
noncomputable def modulus (n : ℕ) (r : UInt8) : (ZMod 2)[X] := X ^ (8 * n) + lowPoly r

lemma coeff_lowPoly (r : UInt8) (k : ℕ) : (lowPoly r).coeff k = if low r k then 1 else 0 := by
  have hpoly : lowPoly r = poly (n := 1) fun _ => r := by
    rw [lowPoly, poly]
    refine Finset.sum_congr rfl fun j hj => ?_
    have hlt : j < 8 := by simpa using hj
    have hb : bit (n := 1) (fun _ => r) j = low r j := by
      rw [bit, dif_pos (by omega), low, Nat.mod_eq_of_lt hlt]
    rw [hb]
  rw [hpoly, coeff_poly]
  by_cases hk : k < 8
  · rw [bit, dif_pos (by omega), low, Nat.mod_eq_of_lt hk]
  · rw [bit_of_le _ (by omega), low, BitVec.getLsbD_of_ge _ _ (by omega)]

lemma degree_lowPoly_lt (hn : 0 < n) (r : UInt8) : (lowPoly r).degree < (8 * n : ℕ) := by
  rw [degree_lt_iff_coeff_zero]
  intro k hk
  rw [coeff_lowPoly, low, BitVec.getLsbD_of_ge _ _ (by omega)]
  simp

lemma monic_modulus (hn : 0 < n) (r : UInt8) : (modulus n r).Monic :=
  monic_X_pow_add (degree_lowPoly_lt hn r)

lemma degree_modulus (hn : 0 < n) (r : UInt8) : (modulus n r).degree = (8 * n : ℕ) := by
  rw [modulus, degree_add_eq_left_of_degree_lt, degree_X_pow]
  rw [degree_X_pow]
  exact degree_lowPoly_lt hn r

/-- **The product** of two blocks. -/
noncomputable def product (r : UInt8) (x y : Block n) : Block n :=
  ofPoly ((poly x * poly y) %ₘ modulus n r)

/-- A step of a multiplication: one power up, reduced. -/
def IsDouble (r : UInt8) (v w : Block n) : Prop :=
  ∀ k < 8 * n, bit w k = ((decide (0 < k) && bit v (k - 1)) ^^ (bit v (8 * n - 1) && low r k))

lemma poly_of_isDouble {r : UInt8} {v w : Block n} (hn : 0 < n) (h : IsDouble r v w) :
    poly w + (if bit v (8 * n - 1) then modulus n r else 0) = X * poly v := by
  ext k
  have hmod : (modulus n r).coeff k = (if k = 8 * n then 1 else 0) + if low r k then 1 else 0 := by
    rw [modulus, coeff_add, coeff_X_pow, coeff_lowPoly]
  have hright : (X * poly v).coeff k = if decide (0 < k) && bit v (k - 1) then 1 else 0 := by
    cases k with
    | zero => simp
    | succ k => simp [coeff_X_mul, coeff_poly]
  have hleft : (if bit v (8 * n - 1) then modulus n r else 0).coeff k =
      if bit v (8 * n - 1) then (if k = 8 * n then 1 else 0) + (if low r k then 1 else 0) else 0 := by
    cases bit v (8 * n - 1) <;> simp [hmod]
  rw [coeff_add, coeff_poly, hleft, hright]
  rcases lt_trichotomy k (8 * n) with hk | hk | hk
  · rw [h k hk, if_neg hk.ne]
    generalize (decide (0 < k) && bit v (k - 1)) = a
    cases a <;> cases bit v (8 * n - 1) <;> cases low r k <;> decide
  · have hlow : low r k = false := BitVec.getLsbD_of_ge _ _ (by omega)
    have hpos : 0 < k := by omega
    subst hk
    rw [bit_of_le w (Nat.le_refl _), hlow]
    cases bit v (8 * n - 1) <;> simp [hpos]
  · have hlow : low r k = false := BitVec.getLsbD_of_ge _ _ (by omega)
    rw [bit_of_le w (by omega), hlow, bit_of_le v (by omega : 8 * n ≤ k - 1)]
    simp [hk.ne']

/-- **One power up**, reduced. -/
noncomputable def doubled (r : UInt8) (v : Block n) : Block n := ofPoly ((X * poly v) %ₘ modulus n r)

/-- A polynomial of a block is its own remainder. -/
lemma poly_modByMonic (hn : 0 < n) (r : UInt8) (v : Block n) :
    poly v %ₘ modulus n r = poly v := by
  rw [modByMonic_eq_self_iff (monic_modulus hn r), degree_modulus hn]
  exact degree_poly_lt v

lemma eq_doubled {r : UInt8} {v w : Block n} (hn : 0 < n) (h : IsDouble r v w) :
    w = doubled r v := by
  have hmonic := monic_modulus hn r
  have hmod : (X * poly v) %ₘ modulus n r = poly w := by
    rw [← poly_of_isDouble hn h, add_modByMonic, poly_modByMonic hn]
    split
    · rw [modByMonic_self hmonic, add_zero]
    · rw [zero_modByMonic, add_zero]
  apply poly_injective
  rw [doubled, poly_ofPoly, hmod]
  rw [← degree_modulus hn r]
  exact degree_modByMonic_lt _ hmonic

/-- The loop of a multiplication over the bits of the second block, from the lowest. -/
def multiply (double : Block n → Block n) (x y : Block n) : Block n :=
  ((List.range (8 * n)).foldl
    (fun vz k => (double vz.1, if bit y k then vz.2 ^^^ vz.1 else vz.2)) (x, 0)).2

/-- **The loop multiplies.** -/
theorem multiply_eq_product {r : UInt8} {double : Block n → Block n} (hn : 0 < n)
    (hd : ∀ v, IsDouble r v (double v)) (x y : Block n) : multiply double x y = product r x y := by
  -- in the ring modulo the polynomial, the first block has gone up by the powers that are done
  have hzero : AdjoinRoot.mk (modulus n r) (modulus n r) = 0 := AdjoinRoot.mk_self
  have hdouble : ∀ v, AdjoinRoot.mk (modulus n r) (poly (double v)) =
      AdjoinRoot.mk (modulus n r) (X * poly v) := by
    intro v
    rw [← poly_of_isDouble hn (hd v), map_add]
    split
    · rw [hzero, add_zero]
    · rw [map_zero, add_zero]
  have hloop : ∀ k, ∀ vz, vz = (List.range k).foldl
      (fun vz k => (double vz.1, if bit y k then vz.2 ^^^ vz.1 else vz.2)) (x, (0 : Block n)) →
      AdjoinRoot.mk (modulus n r) (poly vz.1) = AdjoinRoot.mk (modulus n r) (X ^ k * poly x) ∧
      AdjoinRoot.mk (modulus n r) (poly vz.2) = AdjoinRoot.mk (modulus n r)
        ((∑ j ∈ Finset.range k, if bit y j then X ^ j else 0) * poly x) := by
    intro k
    induction k with
    | zero =>
      rintro vz rfl
      simp [poly_zero]
    | succ k ih =>
      rintro vz rfl
      obtain ⟨hv, hz⟩ := ih _ rfl
      rw [List.range_succ, List.foldl_append, List.foldl_cons, List.foldl_nil]
      refine ⟨?_, ?_⟩
      · rw [hdouble, map_mul, hv, ← map_mul]
        congr 1
        ring
      · rw [Finset.sum_range_succ]
        cases bit y k with
        | false =>
          simp only [Bool.false_eq_true, if_false, add_zero]
          exact hz
        | true =>
          simp only [if_true]
          rw [poly_xor, map_add, hz, hv, ← map_add]
          congr 1
          ring
  have hlast : AdjoinRoot.mk (modulus n r) (poly (multiply double x y)) =
      AdjoinRoot.mk (modulus n r) (poly x * poly y) := by
    rw [mul_comm (poly x)]
    exact (hloop (8 * n) _ rfl).2
  have hmonic := monic_modulus hn r
  have hmod : poly (multiply double x y) = (poly x * poly y) %ₘ modulus n r := by
    rw [← poly_modByMonic hn r (multiply double x y)]
    exact modByMonic_eq_of_dvd_sub hmonic (AdjoinRoot.mk_eq_mk.1 hlast)
  apply poly_injective
  rw [product, poly_ofPoly, hmod]
  rw [← degree_modulus hn r]
  exact degree_modByMonic_lt _ hmonic

end SoftHSM.BinaryField
