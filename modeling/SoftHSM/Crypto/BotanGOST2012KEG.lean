import SoftHSM.Crypto.BotanGOSTCurves

/-!
Key agreement of GOST R 34.10-2012: VKO, and KEG on top of it. The private key is multiplied with
the cofactor and a number that both sides know, its UKM, which VKO reads with its lowest byte first
and KEG with the highest one.
-/

set_option linter.unusedSectionVars false

namespace SoftHSM

open Numeral PrimeOrder BotanGOSTCurves

/-- The hash functions of Botan. -/
structure Streebog where
  hash256 : ByteString → ByteString
  hash512 : ByteString → ByteString

namespace BotanGOST2012KEG

variable {Point : Type} [AddCommGroup Point]

/-- `hmacStreebog256`: a key of 32 bytes in two pads of a block. -/
def hmacStreebog256 (streebog : Streebog) (key message : ByteString) : ByteString :=
  let pad (b : UInt8) : ByteString :=
    (List.range 64).map fun i => if i < key.length then b ^^^ key.getD i 0 else b
  streebog.hash256 (pad 0x5c ++ streebog.hash256 (pad 0x36 ++ message))

/-- The point of a peer, which has to be on the curve. -/
def peerPoint (group : EC_Group Point) (publicValue : ByteString) : Option Point :=
  group.OS2ECP (uncompressed (publicValue.length / 2) publicValue)

/-- The coordinates of an uncompressed point, the lowest byte of each first. -/
def littleEndianPoint (fieldBytes : ℕ) (sharedPoint : ByteString) : ByteString :=
  ((sharedPoint.drop 1).take fieldBytes).reverse ++
    ((sharedPoint.drop (1 + fieldBytes)).take fieldBytes).reverse

/-- The point that two sides share; nothing where this is refused or throws. -/
def agreementPoint (botan : Domain → EC_Group Point)
    (encodedCurveOID privateValue publicValue : ByteString) (ukm : ℕ) : Option ByteString :=
  let fieldBytes := privateValue.length
  if !supported encodedCurveOID then none
  else do
    let group ← group botan encodedCurveOID
    if bytes group.p ≠ fieldBytes then none
    else if group.cofactor ≠ 1 ∧ group.cofactor ≠ 4 then none
    else
      let privateScalar := Tlv.value privateValue
      if privateScalar = 0 ∨ group.order ≤ privateScalar then none
      else
        let peer ← peerPoint group publicValue
        if !group.verify_public_element peer then none
        else
          let scalar := ukm * group.cofactor * privateScalar % group.order
          if scalar = 0 then none
          else
            let shared ← group.blinded_var_point_multiply peer scalar
            let sharedPoint := group.encode shared
            if sharedPoint.length ≠ 1 + 2 * fieldBytes ∨ sharedPoint.head? ≠ some 0x04 then none
            else some (littleEndianPoint fieldBytes sharedPoint)

/-- The UKM of KEG: the first half of the source, and one of sixteen bytes where that is zero. -/
def kegUkm (ukmSource : ByteString) : ℕ :=
  if (ukmSource.take 16).all fun b => b = 0 then Tlv.value (1 :: List.replicate 15 0)
  else Tlv.value (ukmSource.take 16)

/-- A block of the tree that stretches the key of VKO. -/
def kdfBlock (streebog : Streebog) (vkoKey ukmSource : ByteString) (counter : UInt8) : ByteString :=
  hmacStreebog256 streebog vkoKey
    ([counter] ++ [0x6b, 0x64, 0x66, 0x20, 0x74, 0x72, 0x65, 0x65] ++ [0x00] ++
      (ukmSource.drop 16).take 8 ++ [0x02, 0x00])

/-- KEG: a twin key, for the wide curves the hash of the shared point, for the others two blocks. -/
def derive (botan : Domain → EC_Group Point) (streebog : Streebog)
    (encodedCurveOID privateValue publicValue ukmSource : ByteString) : Option ByteString :=
  let fieldBytes := privateValue.length
  if (fieldBytes ≠ 32 ∧ fieldBytes ≠ 64) ∨ publicValue.length ≠ fieldBytes * 2 ∨
      ukmSource.length ≠ 32 then none
  else do
    let vkoInput ← agreementPoint botan encodedCurveOID privateValue publicValue (kegUkm ukmSource)
    if fieldBytes = 64 then
      let vkoKey := streebog.hash512 vkoInput
      if vkoKey.length ≠ 64 then none
      else some vkoKey
    else
      let vkoKey := streebog.hash256 vkoInput
      some (kdfBlock streebog vkoKey ukmSource 1 ++ kdfBlock streebog vkoKey ukmSource 2)

/-- VKO with the short hash. -/
def vko256 (botan : Domain → EC_Group Point) (streebog : Streebog)
    (encodedCurveOID privateValue publicValue ukm : ByteString) : Option ByteString :=
  let fieldBytes := privateValue.length
  if (fieldBytes ≠ 32 ∧ fieldBytes ≠ 64) ∨ publicValue.length ≠ fieldBytes * 2 ∨
      ukm.length = 0 ∨ fieldBytes < ukm.length then none
  else
    let ukmValue := Tlv.value ukm.reverse
    if ukmValue = 0 then none
    else do
      let vkoInput ← agreementPoint botan encodedCurveOID privateValue publicValue ukmValue
      let digest := streebog.hash256 vkoInput
      if digest.length ≠ 32 then none
      else some digest

/-- VKO with the long hash, for the wide curves only. -/
def vko512 (botan : Domain → EC_Group Point) (streebog : Streebog)
    (encodedCurveOID privateValue publicValue ukm : ByteString) : Option ByteString :=
  if privateValue.length ≠ 64 ∨ publicValue.length ≠ 128 ∨ ukm.length = 0 ∨ 32 < ukm.length then
    none
  else
    let ukmValue := Tlv.value ukm.reverse
    if ukmValue = 0 then none
    else do
      let vkoInput ← agreementPoint botan encodedCurveOID privateValue publicValue ukmValue
      let digest := streebog.hash512 vkoInput
      if digest.length ≠ 64 then none
      else some digest

/-! ### The shared point -/

section agreement

variable {botan : Domain → EC_Group Point} {ec : ByteString} {d : Domain}

lemma length_encode {g : EC_Group Point} (hg : g.Models d) {P : Point} (hP : P ≠ 0) :
    (g.encode P).length = 1 + 2 * bytes d.p ∧ (g.encode P).head? = some 0x04 := by
  cases hxy : g.affine P with
  | none => exact absurd ((hg.affine_eq_none P).1 hxy) hP
  | some xy =>
    rw [EC_Group.encode, hxy, hg.domain]
    refine ⟨?_, rfl⟩
    rw [List.length_cons, List.length_append, length_bigEndian, length_bigEndian]
    omega

/-- The scalar is zero exactly if the UKM is. -/
lemma scalar_eq_zero_iff {q cofactor ukm a : ℕ} (hq : q.Prime) (hc : ¬ q ∣ cofactor) (ha : ¬ q ∣ a) :
    ukm * cofactor * a % q = 0 ↔ q ∣ ukm := by
  rw [← Nat.dvd_iff_mod_eq_zero, hq.dvd_mul, hq.dvd_mul]
  tauto

lemma not_dvd_of_range {q a : ℕ} (h0 : 0 < a) (h : a < q) : ¬ q ∣ a := fun hdvd =>
  absurd (Nat.le_of_dvd h0 hdvd) (Nat.not_le.2 h)

/-- **The shared point** of two key pairs: the base point times all that there is. -/
lemma agreementPoint_eq (hec : lookup ec = some d) (hg : (botan d).Models d) {a b : ℕ}
    (ha : 0 < a ∧ a < d.order) (hb : 0 < b ∧ b < d.order) (ukm : ℕ) :
    agreementPoint botan ec (bigEndian (bytes d.p) a)
        ((botan d).publicValue (b • (botan d).base)) ukm =
      if d.order ∣ ukm then none
      else some (littleEndianPoint (bytes d.p)
        ((botan d).encode ((ukm * d.cofactor * (a * b)) • (botan d).base))) := by
  obtain ⟨-, -, -, hfield, hlarge, hcof⟩ := spec_of_lookup hec
  have horder : (botan d).order = d.order := congrArg Domain.order hg.domain
  have hp : (botan d).p = d.p := congrArg Domain.p hg.domain
  have hcofactor : (botan d).cofactor = d.cofactor := congrArg Domain.cofactor hg.domain
  have hbase : d.order • (botan d).base = 0 := by rw [← hg.base_order, addOrderOf_nsmul_eq_zero]
  have hvalue : Tlv.value (bigEndian (bytes d.p) a) = a := by
    rw [value_bigEndian, Nat.mod_eq_of_lt (ha.2.trans hfield)]
  have hb0 : b • (botan d).base ≠ 0 := by
    rw [Ne, ← addOrderOf_dvd_iff_nsmul_eq_zero, hg.base_order]
    exact not_dvd_of_range hb.1 hb.2
  have hlen := length_publicValue hg hb0
  have hpeer : peerPoint (botan d) ((botan d).publicValue (b • (botan d).base)) =
      some (b • (botan d).base) := by
    rw [peerPoint, hlen, Nat.mul_div_cancel_left _ (by decide)]
    exact (OS2ECP_uncompressed hg hlen).2 ⟨hb0, rfl⟩
  have hgood : (botan d).verify_public_element (b • (botan d).base) = true :=
    (verify_public_element_iff hg hcof (by omega)).2
      ⟨hb0, AddSubgroup.nsmul_mem_zmultiples _ b⟩
  have htorsion : d.order • (b • (botan d).base) = 0 := ((hg.verify _).1 hgood).2.1
  have hzero : ukm * d.cofactor * a % d.order = 0 ↔ d.order ∣ ukm :=
    scalar_eq_zero_iff hg.prime (not_dvd_of_range (by omega) (by omega))
      (not_dvd_of_range ha.1 ha.2)
  rw [agreementPoint]
  dsimp only
  rw [supported_of_lookup hec, group_of_lookup hec, length_bigEndian, hvalue]
  dsimp only [Option.bind_eq_bind, Option.bind_some]
  rw [hp, hcofactor, horder, hpeer]
  dsimp only [Option.bind_some]
  rw [hgood]
  simp only [Bool.not_true, Bool.false_eq_true, if_false, ne_eq, not_true]
  rw [if_neg (by omega), if_neg (by omega)]
  by_cases hukm : d.order ∣ ukm
  · rw [if_pos (hzero.2 hukm), if_pos hukm]
  · have hshared : (ukm * d.cofactor * a % d.order) • (b • (botan d).base) =
        (ukm * d.cofactor * (a * b)) • (botan d).base := by
      rw [mod_nsmul htorsion, ← mul_nsmul', Nat.mul_assoc _ a b]
    have hshared0 : (ukm * d.cofactor * (a * b)) • (botan d).base ≠ 0 := by
      rw [← hshared, mod_nsmul htorsion, ← mul_nsmul', Ne, ← addOrderOf_dvd_iff_nsmul_eq_zero,
        hg.base_order, hg.prime.dvd_mul, not_or]
      exact ⟨fun h => hukm (hzero.1 (Nat.mod_eq_zero_of_dvd h)), not_dvd_of_range hb.1 hb.2⟩
    obtain ⟨hlong, hhead⟩ := length_encode hg hshared0
    rw [if_neg (fun h => hukm (hzero.1 h)), if_neg hukm, hg.var_multiply _ _ htorsion]
    dsimp only [Option.bind_some]
    rw [hshared, if_neg (by rw [hlong, hhead]; simp)]

/-- **A point that is agreed upon** is that of a peer in the subgroup. -/
lemma peer_of_agreementPoint (hec : lookup ec = some d) (hg : (botan d).Models d)
    {privateValue publicValue input : ByteString} {ukm : ℕ}
    (hlen : publicValue.length = privateValue.length * 2)
    (h : agreementPoint botan ec privateValue publicValue ukm = some input) :
    ∃ Q ∈ AddSubgroup.zmultiples (botan d).base, Q ≠ 0 ∧
      publicValue = (botan d).publicValue Q := by
  obtain ⟨-, -, -, hfield, hlarge, hcof⟩ := spec_of_lookup hec
  have hp : (botan d).p = d.p := congrArg Domain.p hg.domain
  rw [agreementPoint] at h
  dsimp only at h
  rw [supported_of_lookup hec, group_of_lookup hec] at h
  dsimp only [Option.bind_eq_bind, Option.bind_some] at h
  rw [hp] at h
  split_ifs at h with h1 h2 h3 h4 h5
  · obtain ⟨peer, -, h⟩ := Option.bind_eq_some_iff.1 h
    split_ifs at h
  obtain ⟨peer, hpeer, h⟩ := Option.bind_eq_some_iff.1 h
  split_ifs at h with h6
  have hwidth : bytes d.p = privateValue.length := not_not.1 h2
  have hhalf : publicValue.length / 2 = bytes d.p := by omega
  rw [peerPoint, hhalf, OS2ECP_uncompressed hg (by omega)] at hpeer
  obtain ⟨hQ0, hQ⟩ := (verify_public_element_iff hg hcof (by omega)).1 (by simpa using h6)
  exact ⟨peer, hQ, hQ0, hpeer.2⟩

/-! ### Both sides -/

/-- The private key of a scalar. -/
def privateKey (d : Domain) (k : ℕ) : ByteString := bigEndian (bytes d.p) k

/-- The public key of a scalar. -/
def publicKey (g : EC_Group Point) (k : ℕ) : ByteString := g.publicValue (k • g.base)

/-- Both sides get the same from a way to agree on a key, which they get exactly if the UKM is
admitted. -/
structure Agrees (botan : Domain → EC_Group Point) (d : Domain)
    (agree : ByteString → ByteString → ByteString → Option ByteString)
    (Admitted : ByteString → Prop) : Prop where
  symmetric : ∀ a b, 0 < a ∧ a < d.order → 0 < b ∧ b < d.order → ∀ ukm,
    agree (privateKey d a) (publicKey (botan d) b) ukm =
      agree (privateKey d b) (publicKey (botan d) a) ukm
  succeeds : ∀ a b, 0 < a ∧ a < d.order → 0 < b ∧ b < d.order → ∀ ukm,
    ((agree (privateKey d a) (publicKey (botan d) b) ukm).isSome = true ↔ Admitted ukm)
  subgroup : ∀ secret peer ukm key, agree secret peer ukm = some key →
    ∃ Q ∈ AddSubgroup.zmultiples (botan d).base, Q ≠ 0 ∧ peer = (botan d).publicValue Q

lemma length_keys (hg : (botan d).Models d) {b : ℕ}
    (hb : 0 < b ∧ b < d.order) (a : ℕ) : (privateKey d a).length = bytes d.p ∧
      (publicKey (botan d) b).length = bytes d.p * 2 := by
  have hb0 : b • (botan d).base ≠ 0 := by
    rw [Ne, ← addOrderOf_dvd_iff_nsmul_eq_zero, hg.base_order]
    exact not_dvd_of_range hb.1 hb.2
  refine ⟨length_bigEndian _ _, ?_⟩
  rw [publicKey, length_publicValue hg hb0, Nat.mul_comm]

/-- The agreed point of two sides is one. -/
lemma agreementPoint_symm (hec : lookup ec = some d) (hg : (botan d).Models d) {a b : ℕ}
    (ha : 0 < a ∧ a < d.order) (hb : 0 < b ∧ b < d.order) (ukm : ℕ) :
    agreementPoint botan ec (privateKey d a) (publicKey (botan d) b) ukm =
      agreementPoint botan ec (privateKey d b) (publicKey (botan d) a) ukm := by
  rw [privateKey, publicKey, agreementPoint_eq hec hg ha hb, privateKey, publicKey,
    agreementPoint_eq hec hg hb ha, Nat.mul_comm a b]

lemma agreementPoint_isSome (hec : lookup ec = some d) (hg : (botan d).Models d) {a b : ℕ}
    (ha : 0 < a ∧ a < d.order) (hb : 0 < b ∧ b < d.order) (ukm : ℕ) :
    (agreementPoint botan ec (privateKey d a) (publicKey (botan d) b) ukm).isSome = true ↔
      ¬ d.order ∣ ukm := by
  rw [privateKey, publicKey, agreementPoint_eq hec hg ha hb]
  split_ifs with h <;> simp [h]

variable {streebog : Streebog}

theorem derive_agrees (hec : lookup ec = some d) (hg : (botan d).Models d)
    (hhash : ∀ b, (streebog.hash512 b).length = 64) :
    Agrees botan d (derive botan streebog ec) fun ukm =>
      ukm.length = 32 ∧ ¬ d.order ∣ kegUkm ukm := by
  obtain ⟨hwidth, -⟩ := spec_of_lookup hec
  constructor
  · intro a b ha hb ukm
    obtain ⟨hpriv, hpub⟩ := length_keys hg hb a
    obtain ⟨hpriv', hpub'⟩ := length_keys hg ha b
    rw [derive, derive, hpriv, hpub, hpriv', hpub', agreementPoint_symm hec hg ha hb]
  · intro a b ha hb ukm
    obtain ⟨hpriv, hpub⟩ := length_keys hg hb a
    rw [derive, hpriv, hpub, ← agreementPoint_isSome hec hg ha hb]
    dsimp only
    by_cases hukm : ukm.length = 32
    · rw [if_neg (by omega)]
      cases hpoint : agreementPoint botan ec (privateKey d a) (publicKey (botan d) b) (kegUkm ukm)
        with
      | none => simp
      | some input =>
        simp only [Option.bind_eq_bind, Option.bind_some, hhash, ne_eq, not_true, if_false]
        split_ifs <;> simp [hukm]
    · rw [if_pos (by omega)]
      simp [hukm]
  · intro secret peer ukm key h
    rw [derive] at h
    dsimp only at h
    split_ifs at h with hlen hwide
    · obtain ⟨input, hpoint, -⟩ := Option.bind_eq_some_iff.1 h
      exact peer_of_agreementPoint hec hg (by omega) hpoint
    · obtain ⟨input, hpoint, -⟩ := Option.bind_eq_some_iff.1 h
      exact peer_of_agreementPoint hec hg (by omega) hpoint

theorem vko256_agrees (hec : lookup ec = some d) (hg : (botan d).Models d)
    (hhash : ∀ b, (streebog.hash256 b).length = 32) :
    Agrees botan d (vko256 botan streebog ec) fun ukm =>
      (0 < ukm.length ∧ ukm.length ≤ bytes d.p) ∧ ¬ d.order ∣ Tlv.value ukm.reverse := by
  obtain ⟨hwidth, -⟩ := spec_of_lookup hec
  constructor
  · intro a b ha hb ukm
    obtain ⟨hpriv, hpub⟩ := length_keys hg hb a
    obtain ⟨hpriv', hpub'⟩ := length_keys hg ha b
    rw [vko256, vko256, hpriv, hpub, hpriv', hpub']
    dsimp only
    rw [agreementPoint_symm hec hg ha hb]
  · intro a b ha hb ukm
    obtain ⟨hpriv, hpub⟩ := length_keys hg hb a
    rw [vko256, hpriv, hpub]
    dsimp only
    by_cases hukm : 0 < ukm.length ∧ ukm.length ≤ bytes d.p
    · rw [if_neg (by omega)]
      by_cases hzero : Tlv.value ukm.reverse = 0
      · simp [hzero]
      · rw [if_neg hzero, ← agreementPoint_isSome hec hg ha hb]
        cases hpoint : agreementPoint botan ec (privateKey d a) (publicKey (botan d) b)
          (Tlv.value ukm.reverse) with
        | none => simp
        | some input => simp [hhash, hukm]
    · rw [if_pos (by omega)]
      simp [hukm]
  · intro secret peer ukm key h
    rw [vko256] at h
    dsimp only at h
    split_ifs at h with hlen hzero
    obtain ⟨input, hpoint, -⟩ := Option.bind_eq_some_iff.1 h
    exact peer_of_agreementPoint hec hg (by omega) hpoint

theorem vko512_agrees (hec : lookup ec = some d) (hg : (botan d).Models d)
    (hhash : ∀ b, (streebog.hash512 b).length = 64) :
    Agrees botan d (vko512 botan streebog ec) fun ukm =>
      (bytes d.p = 64 ∧ 0 < ukm.length ∧ ukm.length ≤ 32) ∧
        ¬ d.order ∣ Tlv.value ukm.reverse := by
  constructor
  · intro a b ha hb ukm
    obtain ⟨hpriv, hpub⟩ := length_keys hg hb a
    obtain ⟨hpriv', hpub'⟩ := length_keys hg ha b
    rw [vko512, vko512, hpriv, hpub, hpriv', hpub']
    dsimp only
    rw [agreementPoint_symm hec hg ha hb]
  · intro a b ha hb ukm
    obtain ⟨hpriv, hpub⟩ := length_keys hg hb a
    rw [vko512, hpriv, hpub]
    by_cases hukm : bytes d.p = 64 ∧ 0 < ukm.length ∧ ukm.length ≤ 32
    · rw [if_neg (by omega)]
      dsimp only
      by_cases hzero : Tlv.value ukm.reverse = 0
      · simp [hzero]
      · rw [if_neg hzero, ← agreementPoint_isSome hec hg ha hb]
        cases hpoint : agreementPoint botan ec (privateKey d a) (publicKey (botan d) b)
          (Tlv.value ukm.reverse) with
        | none => simp
        | some input => simp [hhash, hukm]
    · rw [if_pos (by omega)]
      simp [hukm]
  · intro secret peer ukm key h
    rw [vko512] at h
    dsimp only at h
    split_ifs at h with hlen hzero
    obtain ⟨input, hpoint, -⟩ := Option.bind_eq_some_iff.1 h
    exact peer_of_agreementPoint hec hg (by omega) hpoint

/-- **Key agreement is symmetric**, on every curve and in all three ways: KEG takes any UKM of 32
bytes that is not zero modulo the order, and VKO any that is not too long. -/
theorem key_agreement (hec : lookup ec = some d) (hg : (botan d).Models d)
    (h256 : ∀ b, (streebog.hash256 b).length = 32) (h512 : ∀ b, (streebog.hash512 b).length = 64) :
    Agrees botan d (derive botan streebog ec) (fun ukm =>
      ukm.length = 32 ∧ ¬ d.order ∣ kegUkm ukm) ∧
    Agrees botan d (vko256 botan streebog ec) (fun ukm =>
      (0 < ukm.length ∧ ukm.length ≤ bytes d.p) ∧ ¬ d.order ∣ Tlv.value ukm.reverse) ∧
    Agrees botan d (vko512 botan streebog ec) fun ukm =>
      (bytes d.p = 64 ∧ 0 < ukm.length ∧ ukm.length ≤ 32) ∧
        ¬ d.order ∣ Tlv.value ukm.reverse :=
  ⟨derive_agrees hec hg h512, vko256_agrees hec hg h256, vko512_agrees hec hg h512⟩

/-- Hash values of the right lengths, which begin with what is hashed. -/
def shortened : Streebog :=
  ⟨fun b => (b ++ List.replicate 32 0).take 32, fun b => (b ++ List.replicate 64 0).take 64⟩

/-- Two sides on a curve with a cofactor of four, with a UKM of zeros. -/
theorem key_agreement_cofactor_four :
    derive (fun _ => residues tc26_256_A) shortened oidTC26_256_A (privateKey tc26_256_A 1)
        (publicKey (residues tc26_256_A) 2) (List.replicate 32 0) =
      derive (fun _ => residues tc26_256_A) shortened oidTC26_256_A (privateKey tc26_256_A 2)
        (publicKey (residues tc26_256_A) 1) (List.replicate 32 0) ∧
    (derive (fun _ => residues tc26_256_A) shortened oidTC26_256_A (privateKey tc26_256_A 1)
        (publicKey (residues tc26_256_A) 2) (List.replicate 32 0)).isSome = true := by
  have hec : lookup oidTC26_256_A = some tc26_256_A := by decide +kernel
  have hall := @key_agreement _ _ (fun _ => residues tc26_256_A) _ _ shortened hec
      (residues_models hec prime_order) (fun b => by simp [shortened]) fun b => by simp [shortened]
  exact ⟨hall.1.symmetric 1 2 (by decide +kernel) (by decide +kernel) _,
    (hall.1.succeeds 1 2 (by decide +kernel) (by decide +kernel) _).2 (by decide +kernel)⟩

end agreement

end BotanGOST2012KEG

end SoftHSM
