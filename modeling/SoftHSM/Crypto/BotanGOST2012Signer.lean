import SoftHSM.Crypto.BotanGOSTCurves

/-!
Signatures of GOST R 34.10-2012 on a digest. A signature is `s || r`, both with the highest byte
first; the digest has its lowest byte first. Signing is left to Botan, verifying is not: the
coordinate of the point is taken modulo the order, which is much smaller than the field on the
curves with a cofactor.
-/

namespace SoftHSM

open Numeral PrimeOrder

/-! ### The standard -/

namespace Gost3410

variable {Point : Type} [AddCommGroup Point] {q : ℕ}

/-- The digest as a number that has an inverse. -/
def digestClass (q e : ℕ) : ℕ := if e % q = 0 then 1 else e % q

/-- The point `e⁻¹ s P - e⁻¹ r Q` that a signature leads to. -/
def checkPoint (q : ℕ) (P Q : Point) (e s r : ℕ) : Point :=
  act ((e : ZMod q)⁻¹ * (s : ZMod q)) P - act ((e : ZMod q)⁻¹ * (r : ZMod q)) Q

/-- A signature is valid: both halves are in range, and the point that it leads to has the
coordinate that it claims. -/
def Valid (q : ℕ) (x : Point → Option ℕ) (P Q : Point) (e s r : ℕ) : Prop :=
  (0 < s ∧ s < q) ∧ (0 < r ∧ r < q) ∧ ∃ c, x (checkPoint q P Q e s r) = some c ∧ c % q = r

/-- **A signature leads back to its nonce**, times the quotient of the digest that was signed and
the one that is checked. -/
lemma checkPoint_of_signature [Fact q.Prime] {P : Point} (hP : q • P = 0) {d k e e' r s : ℕ}
    (hs : s = (r * d + k * e) % q) :
    checkPoint q P (d • P) e' s r = act ((e' : ZMod q)⁻¹ * (e : ZMod q) * (k : ZMod q)) P := by
  have hQ : d • P = act (d : ZMod q) P := (act_natCast hP d).symm
  have hs' : (s : ZMod q) = r * d + k * e := by
    rw [hs, ZMod.natCast_mod]
    push_cast
    ring
  rw [checkPoint, hQ, act_act hP, ← act_sub hP, hs']
  congr 1
  ring

end Gost3410

/-! ### Keys and digests -/

structure BotanGOST2012PublicKey where
  ec : ByteString
  q : ByteString

structure BotanGOST2012PrivateKey where
  ec : ByteString
  d : ByteString

set_option linter.unusedSectionVars false

namespace BotanGOST2012

open BotanGOSTCurves Gost3410

variable {Point : Type} [AddCommGroup Point] [DecidableEq Point]

/-- The group of a key; it throws for an unknown curve, or one of another size. -/
def groupOf (botan : Domain → EC_Group Point) (ec : ByteString) (coordinateBytes : ℕ) :
    Option (EC_Group Point) :=
  if !supported ec then none
  else if orderBits ec ≠ coordinateBytes * 8 then none
  else group botan ec

/-- Signing, with Botan's `sign_message` for a group, a scalar and a digest. -/
def signDigest (botan : Domain → EC_Group Point)
    (sign_message : EC_Group Point → ℕ → ByteString → Option ByteString)
    (privateKey : Option BotanGOST2012PrivateKey) (coordinateBytes : ℕ) (digest : ByteString) :
    Option ByteString :=
  match privateKey with
  | none => none
  | some privateKey =>
    if coordinateBytes = 0 ∨ digest.length ≠ coordinateBytes ∨
        privateKey.d.length ≠ coordinateBytes then none
    else do
      let group ← groupOf botan privateKey.ec coordinateBytes
      let scalar := Tlv.value privateKey.d
      if scalar = 0 ∨ group.order ≤ scalar then none
      else
        let result ← sign_message group scalar digest
        if result.length ≠ 2 * coordinateBytes then none
        else some result

/-- The end of `verifyDigest`: clause 6.2 for a public point, the number of the digest and the two
halves of a signature. -/
def verifyNumbers (group : EC_Group Point) (publicPoint : Point) (digest s r : ℕ) : Option Bool := do
  let e := group.mod_order digest
  let e := if e = 0 then 1 else e
  let v := group.inverse_mod_order e
  let z1 := group.multiply_mod_order s v
  let z2 := group.multiply_mod_order (group.order - r) v
  let sP ← group.blinded_base_point_multiply z1
  let rQ ← group.blinded_var_point_multiply publicPoint z2
  let check := sP + rQ
  if check = 0 then some false
  else
    let (x, _) ← group.affine check
    some (group.mod_order x = r)

/-- The `try` block of `verifyDigest`, where nothing is what a throw leads to. -/
def verifyPoint (botan : Domain → EC_Group Point) (publicKey : BotanGOST2012PublicKey)
    (coordinateBytes : ℕ) (digest signature : ByteString) : Option Bool := do
  let group ← groupOf botan publicKey.ec coordinateBytes
  let publicPoint ← group.OS2ECP (uncompressed coordinateBytes publicKey.q)
  if !group.verify_public_element publicPoint then some false
  else
    let orderBytes := bytes group.order
    if signature.length ≠ 2 * orderBytes then some false
    else
      let s := Tlv.value (signature.take orderBytes)
      let r := Tlv.value ((signature.drop orderBytes).take orderBytes)
      if s ≤ 0 ∨ group.order ≤ s ∨ r ≤ 0 ∨ group.order ≤ r then some false
      else verifyNumbers group publicPoint (Tlv.value digest.reverse) s r

def verifyDigest (botan : Domain → EC_Group Point) (publicKey : Option BotanGOST2012PublicKey)
    (coordinateBytes : ℕ) (digest signature : ByteString) : Bool :=
  match publicKey with
  | none => false
  | some publicKey =>
    if coordinateBytes = 0 ∨ digest.length ≠ coordinateBytes ∨
        signature.length ≠ 2 * coordinateBytes ∨ publicKey.q.length ≠ 2 * coordinateBytes then false
    else (verifyPoint botan publicKey coordinateBytes digest signature).getD false

/-! ### Verifying -/

section verifying

variable {botan : Domain → EC_Group Point} {ec : ByteString} {d : Domain} {Q : Point}

/-- The first coordinate of a point. -/
def xCoordinate (g : EC_Group Point) (P : Point) : Option ℕ := (g.affine P).map Prod.fst

lemma groupOf_of_lookup (h : lookup ec = some d) :
    groupOf botan ec (bytes d.p) = some (botan d) := by
  rw [groupOf, supported_of_lookup h, orderBits_of_lookup h]
  simp [group_of_lookup h]

/-- The two products of the verifier add up to the point of the standard. -/
lemma products_eq_checkPoint {g : EC_Group Point} (hg : g.Models d) (hQ : d.order • Q = 0)
    {e s r : ℕ} (hr : r ≤ d.order) :
    g.multiply_mod_order s (g.inverse_mod_order e) • g.base +
        g.multiply_mod_order (d.order - r) (g.inverse_mod_order e) • Q =
      checkPoint d.order g.base Q e s r := by
  have hP : d.order • g.base = 0 := by rw [← hg.base_order, addOrderOf_nsmul_eq_zero]
  have : NeZero d.order := ⟨hg.prime.ne_zero⟩
  have horder : g.order = d.order := congrArg Domain.order hg.domain
  have hinv : ∀ T : Point, d.order • T = 0 → ∀ j : ℕ,
      g.multiply_mod_order j (g.inverse_mod_order e) • T =
        act ((e : ZMod d.order)⁻¹ * (j : ZMod d.order)) T := by
    intro T hT j
    rw [EC_Group.multiply_mod_order, EC_Group.inverse_mod_order, horder, mod_nsmul hT,
      ← act_natCast hT, Nat.cast_mul, ZMod.natCast_zmod_val, mul_comm]
  rw [hinv _ hP, hinv _ hQ, checkPoint, sub_eq_add_neg]
  congr 1
  rw [Nat.cast_sub hr, ZMod.natCast_self, zero_sub, mul_neg, eq_neg_iff_add_eq_zero, ← act_add hQ,
    neg_add_cancel, act, ZMod.val_zero, zero_nsmul]

lemma digestClass_ne_zero {q : ℕ} (hq : q.Prime) (e : ℕ) :
    ((digestClass q e : ℕ) : ZMod q) ≠ 0 := by
  have : Fact q.Prime := ⟨hq⟩
  rw [digestClass]
  split_ifs with h
  · rw [Nat.cast_one]
    exact one_ne_zero
  · rw [ZMod.natCast_mod]
    exact fun hz => h (Nat.mod_eq_zero_of_dvd ((ZMod.natCast_eq_zero_iff e q).1 hz))

/-- **The end of the verifier** is the equation of the standard. -/
lemma verifyNumbers_iff {g : EC_Group Point} (hg : g.Models d) (hQ : d.order • Q = 0)
    {digest s r : ℕ} (hr : r < d.order) :
    verifyNumbers g Q digest s r = some true ↔
      ∃ c, xCoordinate g (checkPoint d.order g.base Q (digestClass d.order digest) s r) = some c ∧
        c % d.order = r := by
  have horder : g.order = d.order := congrArg Domain.order hg.domain
  have hclass : (if g.mod_order digest = 0 then 1 else g.mod_order digest) =
      digestClass d.order digest := by
    rw [EC_Group.mod_order, horder, digestClass]
  have hcheck := products_eq_checkPoint (e := digestClass d.order digest) (s := s) hg hQ hr.le
  rw [verifyNumbers]
  dsimp only
  rw [hclass, hg.base_multiply, hg.var_multiply _ _ hQ]
  dsimp only [Option.bind_eq_bind, Option.bind_some]
  rw [horder, hcheck, xCoordinate]
  split_ifs with hzero
  · rw [hzero, (hg.affine_eq_none 0).2 rfl]
    simp
  · cases hxy : g.affine (checkPoint d.order g.base Q (digestClass d.order digest) s r) with
    | none => exact absurd ((hg.affine_eq_none _).1 hxy) hzero
    | some xy => simp [EC_Group.mod_order, horder]

/-- **The verifier** accepts exactly what the standard does. -/
lemma verifyDigest_eq_true_iff (hec : lookup ec = some d) (hg : (botan d).Models d)
    (hQ : Q ∈ AddSubgroup.zmultiples (botan d).base) (hQ0 : Q ≠ 0) {digest signature : ByteString}
    (hsig : signature.length = 2 * bytes d.p) :
    verifyDigest botan (some ⟨ec, (botan d).publicValue Q⟩) (bytes d.p) digest signature = true ↔
      digest.length = bytes d.p ∧
      Valid d.order (xCoordinate (botan d)) (botan d).base Q
        (digestClass d.order (Tlv.value digest.reverse)) (Tlv.value (signature.take (bytes d.p)))
        (Tlv.value (signature.drop (bytes d.p))) := by
  obtain ⟨hwidth, hbytes, -, -, hlarge, hcof⟩ := spec_of_lookup hec
  have hlen := length_publicValue hg hQ0
  have horder : (botan d).order = d.order := congrArg Domain.order hg.domain
  have hpoint : (botan d).OS2ECP (uncompressed (bytes d.p) ((botan d).publicValue Q)) = some Q :=
    (OS2ECP_uncompressed hg hlen).2 ⟨hQ0, rfl⟩
  have hgood : (botan d).verify_public_element Q = true :=
    (verify_public_element_iff hg hcof (by omega)).2 ⟨hQ0, hQ⟩
  have htorsion : d.order • Q = 0 := ((hg.verify Q).1 hgood).2.1
  have hhalf : (signature.drop (bytes d.p)).take (bytes d.p) = signature.drop (bytes d.p) :=
    List.take_of_length_le (by rw [List.length_drop]; omega)
  rw [verifyDigest]
  dsimp only
  by_cases hdigest : digest.length = bytes d.p
  · rw [if_neg (by omega), verifyPoint, groupOf_of_lookup hec]
    dsimp only [Option.bind_eq_bind, Option.bind_some]
    rw [hpoint]
    dsimp only [Option.bind_some]
    rw [hgood, horder, hbytes, hhalf]
    simp only [Bool.not_true, Bool.false_eq_true, if_false, hsig, ne_eq, not_true]
    rw [Valid]
    split_ifs with hrange
    · simp only [Option.getD_some, Bool.false_eq_true, false_iff]
      omega
    · have hiff := @verifyNumbers_iff _ _ _ _ _ _ hg htorsion (Tlv.value digest.reverse)
        (Tlv.value (signature.take (bytes d.p))) (Tlv.value (signature.drop (bytes d.p)))
        (by omega)
      have hget : ∀ o : Option Bool, o.getD false = true ↔ o = some true := by
        rintro (_ | _ | _) <;> simp
      rw [hget, hiff]
      simp only [hdigest, true_and]
      constructor
      · exact fun h => ⟨by omega, by omega, h⟩
      · exact fun h => h.2.2
  · rw [if_pos (by omega)]
    simp [hdigest]

/-- A signature of the standard: for a scalar, a nonce and the number of a digest. -/
structure Signature (g : EC_Group Point) (scalar k e r s : ℕ) : Prop where
  coordinate : ∃ c, xCoordinate g (k • g.base) = some c ∧ r = c % g.order
  equation : s = (r * scalar + k * e) % g.order
  r_ne_zero : r ≠ 0
  s_ne_zero : s ≠ 0

/-- The bytes of a signature. -/
def encodeSignature (n r s : ℕ) : ByteString := bigEndian n s ++ bigEndian n r

lemma halves_encodeSignature {n r s : ℕ} (hr : r < 256 ^ n) (hs : s < 256 ^ n) :
    (encodeSignature n r s).length = 2 * n ∧
      Tlv.value ((encodeSignature n r s).take n) = s ∧
      Tlv.value ((encodeSignature n r s).drop n) = r := by
  have hlen := length_bigEndian n s
  refine ⟨?_, ?_, ?_⟩
  · rw [encodeSignature, List.length_append, length_bigEndian, length_bigEndian, Nat.two_mul]
  · rw [encodeSignature, List.take_left' hlen, value_bigEndian, Nat.mod_eq_of_lt hs]
  · rw [encodeSignature, List.drop_left' hlen, value_bigEndian, Nat.mod_eq_of_lt hr]

/-- **A signature is checked against a digest** by the nonce times the quotient of two digests. -/
lemma verify_signature_iff (hec : lookup ec = some d) (hg : (botan d).Models d)
    {scalar k e r s : ℕ} (hscalar : ¬ d.order ∣ scalar)
    (h : Signature (botan d) scalar k e r s) {digest : ByteString}
    (hdigest : digest.length = bytes d.p) :
    verifyDigest botan (some ⟨ec, (botan d).publicValue (scalar • (botan d).base)⟩) (bytes d.p)
        digest (encodeSignature (bytes d.p) r s) = true ↔
      ∃ c, xCoordinate (botan d)
        (act ((digestClass d.order (Tlv.value digest.reverse) : ZMod d.order)⁻¹ *
          (e : ZMod d.order) * (k : ZMod d.order)) (botan d).base) = some c ∧ c % d.order = r := by
  have : Fact d.order.Prime := ⟨hg.prime⟩
  obtain ⟨-, -, -, hfield, -, -⟩ := spec_of_lookup hec
  have horder : (botan d).order = d.order := congrArg Domain.order hg.domain
  have hbase : d.order • (botan d).base = 0 := by rw [← hg.base_order, addOrderOf_nsmul_eq_zero]
  obtain ⟨c, -, hrc⟩ := h.coordinate
  have hr : r < d.order := by rw [hrc, horder]; exact Nat.mod_lt _ hg.prime.pos
  have hs : s < d.order := by rw [h.equation, horder]; exact Nat.mod_lt _ hg.prime.pos
  obtain ⟨hlen, hvs, hvr⟩ := halves_encodeSignature (n := bytes d.p) (hr.trans hfield)
    (hs.trans hfield)
  have hQ0 : scalar • (botan d).base ≠ 0 := by
    rw [Ne, ← addOrderOf_dvd_iff_nsmul_eq_zero, hg.base_order]
    exact hscalar
  have hpoint := @checkPoint_of_signature _ _ _ _ _ hbase _ _ _
      (digestClass d.order (Tlv.value digest.reverse)) _ _ (horder ▸ h.equation)
  rw [verifyDigest_eq_true_iff hec hg (AddSubgroup.nsmul_mem_zmultiples _ scalar) hQ0 hlen, Valid,
    hvs, hvr, hpoint]
  constructor
  · exact fun h' => h'.2.2.2
  · exact fun h' => ⟨hdigest, ⟨Nat.pos_of_ne_zero h.s_ne_zero, hs⟩,
      ⟨Nat.pos_of_ne_zero h.r_ne_zero, hr⟩, h'⟩

/-- **GOST R 34.10-2012.** On every curve, for every point of the subgroup, every digest and every
pair of halves the verifier does what the standard says; so it accepts every signature for the
digest that was signed, and for another one exactly if that leads to the same coordinate. -/
theorem verifyDigest_iff (hec : lookup ec = some d) (hg : (botan d).Models d) :
    (∀ Q ∈ AddSubgroup.zmultiples (botan d).base, Q ≠ 0 → ∀ digest signature : ByteString,
      signature.length = 2 * bytes d.p →
      (verifyDigest botan (some ⟨ec, (botan d).publicValue Q⟩) (bytes d.p) digest signature = true ↔
        digest.length = bytes d.p ∧
        Valid d.order (xCoordinate (botan d)) (botan d).base Q
          (digestClass d.order (Tlv.value digest.reverse))
          (Tlv.value (signature.take (bytes d.p))) (Tlv.value (signature.drop (bytes d.p))))) ∧
    ∀ scalar k r s : ℕ, ∀ digest : ByteString, ¬ d.order ∣ scalar → digest.length = bytes d.p →
      Signature (botan d) scalar k (digestClass d.order (Tlv.value digest.reverse)) r s →
      verifyDigest botan (some ⟨ec, (botan d).publicValue (scalar • (botan d).base)⟩) (bytes d.p)
        digest (encodeSignature (bytes d.p) r s) = true ∧
      ∀ digest' : ByteString, digest'.length = bytes d.p →
        (verifyDigest botan (some ⟨ec, (botan d).publicValue (scalar • (botan d).base)⟩)
            (bytes d.p) digest' (encodeSignature (bytes d.p) r s) = true ↔
          ∃ c, xCoordinate (botan d)
            (act ((digestClass d.order (Tlv.value digest'.reverse) : ZMod d.order)⁻¹ *
              (digestClass d.order (Tlv.value digest.reverse) : ZMod d.order) *
              (k : ZMod d.order)) (botan d).base) = some c ∧ c % d.order = r) := by
  refine ⟨fun Q hQ hQ0 digest signature hsig => verifyDigest_eq_true_iff hec hg hQ hQ0 hsig, ?_⟩
  intro scalar k r s digest hscalar hdigest h
  refine ⟨?_, fun digest' hdigest' => verify_signature_iff hec hg hscalar h hdigest'⟩
  have : Fact d.order.Prime := ⟨hg.prime⟩
  have horder : (botan d).order = d.order := congrArg Domain.order hg.domain
  have hbase : d.order • (botan d).base = 0 := by rw [← hg.base_order, addOrderOf_nsmul_eq_zero]
  obtain ⟨c, hc, hrc⟩ := h.coordinate
  rw [verify_signature_iff hec hg hscalar h hdigest]
  refine ⟨c, ?_, by rw [hrc, horder]⟩
  rw [inv_mul_cancel₀ (digestClass_ne_zero hg.prime _), one_mul, act_natCast hbase]
  exact hc

/-- The coordinate of the base point, with residues for the points of the first curve. -/
lemma xCoordinate_residues :
    xCoordinate (residues tc26_256_A) (1 • (residues tc26_256_A).base) = some 4 := by
  rw [one_nsmul, xCoordinate, affine_base (by decide) (by decide +kernel)]
  decide +kernel

/-- On the first curve, with a cofactor of four: scalar and nonce are one, and the digest is zero. -/
theorem verifyDigest_cofactor_four :
    verifyDigest (fun _ => residues tc26_256_A)
      (some ⟨oidTC26_256_A, (residues tc26_256_A).publicValue (1 • (residues tc26_256_A).base)⟩)
      (bytes tc26_256_A.p) (List.replicate 32 0) (encodeSignature (bytes tc26_256_A.p) 4 5) =
      true := by
  have hec : lookup oidTC26_256_A = some tc26_256_A := by decide +kernel
  exact ((@verifyDigest_iff _ _ _ (fun _ => residues tc26_256_A) _ _ hec
      (residues_models hec prime_order)).2 1 1 4 5 (List.replicate 32 0) (by decide +kernel)
    (by decide +kernel) ⟨⟨4, xCoordinate_residues, by decide +kernel⟩, by decide +kernel, by decide,
      by decide⟩).1

/-- What is signed verifies, if Botan's signatures are those of the standard. -/
theorem signDigest_verifies (hec : lookup ec = some d) (hg : (botan d).Models d)
    {sign_message : EC_Group Point → ℕ → ByteString → Option ByteString}
    (hsign : ∀ scalar digest signature, sign_message (botan d) scalar digest = some signature →
      ∃ k r s, Signature (botan d) scalar k (digestClass d.order (Tlv.value digest.reverse)) r s ∧
        signature = encodeSignature (bytes d.p) r s)
    {secret digest signature : ByteString}
    (h : signDigest botan sign_message (some ⟨ec, secret⟩) (bytes d.p) digest = some signature) :
    verifyDigest botan
      (some ⟨ec, (botan d).publicValue (Tlv.value secret • (botan d).base)⟩) (bytes d.p) digest
      signature = true := by
  have horder : (botan d).order = d.order := congrArg Domain.order hg.domain
  rw [signDigest] at h
  dsimp only at h
  split_ifs at h with hlen
  rw [groupOf_of_lookup hec] at h
  dsimp only [Option.bind_eq_bind, Option.bind_some] at h
  split_ifs at h with hrange
  obtain ⟨result, hresult, h⟩ := Option.bind_eq_some_iff.1 h
  split_ifs at h
  obtain rfl := Option.some.inj h
  obtain ⟨k, r, s, hsig, rfl⟩ := hsign _ _ _ hresult
  have hscalar : ¬ d.order ∣ Tlv.value secret := by
    intro hdvd
    have hle := Nat.le_of_dvd (by omega) hdvd
    omega
  have : Fact d.order.Prime := ⟨hg.prime⟩
  have hbase : d.order • (botan d).base = 0 := by rw [← hg.base_order, addOrderOf_nsmul_eq_zero]
  obtain ⟨c, hc, hrc⟩ := hsig.coordinate
  rw [verify_signature_iff hec hg hscalar hsig (by omega)]
  refine ⟨c, ?_, by rw [hrc, horder]⟩
  rw [inv_mul_cancel₀ (digestClass_ne_zero hg.prime _), one_mul, act_natCast hbase]
  exact hc

/-- Signing of the zero digest with the scalar one and the nonce one, on the first curve. -/
def signZeros (_ : EC_Group (ZMod (tc26_256_A.cofactor * tc26_256_A.order))) (scalar : ℕ)
    (digest : ByteString) : Option ByteString :=
  if scalar = 1 ∧ digest = List.replicate 32 0 then
    some (encodeSignature (bytes tc26_256_A.p) 4 5)
  else none

theorem signDigest_verifies_zeros :
    verifyDigest (fun _ => residues tc26_256_A)
      (some ⟨oidTC26_256_A, (residues tc26_256_A).publicValue
        (Tlv.value (bigEndian 32 1) • (residues tc26_256_A).base)⟩)
      (bytes tc26_256_A.p) (List.replicate 32 0) (encodeSignature (bytes tc26_256_A.p) 4 5) =
      true := by
  have hec : lookup oidTC26_256_A = some tc26_256_A := by decide +kernel
  refine @signDigest_verifies _ _ _ (fun _ => residues tc26_256_A) _ _ hec
    (residues_models hec prime_order) signZeros ?_ (bigEndian 32 1) _ _ (by decide +kernel)
  intro scalar digest signature h
  rw [signZeros] at h
  split_ifs at h with hin
  obtain ⟨rfl, rfl⟩ := hin
  exact ⟨1, 4, 5, ⟨⟨4, xCoordinate_residues, by decide +kernel⟩, by decide +kernel, by decide,
    by decide⟩, (Option.some.inj h).symm⟩

end verifying

end BotanGOST2012

end SoftHSM
