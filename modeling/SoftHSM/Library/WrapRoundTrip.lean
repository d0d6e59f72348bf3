import SoftHSM.Library.GostWrapping

/-!
`C_WrapKey` and `C_UnwrapKey` with keys that belong together: what is wrapped is unwrapped, and a
secret key unwraps nothing else.
-/

namespace SoftHSM.Unwrap

open CK_RV Create Access File

variable (supported : List CK_MECHANISM_TYPE) (b : Build)

section Calls

/-- What is asked of the two halves of a pair: what one encrypts is as long as the modulus and the
other decrypts it, and storing the temporary key gives the key that was made. -/
structure PublicKey.Pair (p : PublicKey) (a : Asymmetric) : Prop where
  getRSAPrivateKey : a.getRSAPrivateKey = CKR_OK
  oaepParam : a.oaepParam = CKR_OK
  decrypt : ∀ mechanism k w, p.encrypt mechanism k = some w →
    w.length = a.size ∧ a.decrypt mechanism w = some k
  modulus : a.modulus.length = a.size
  storeTemporary : a.storeTemporary p.emphkeydata = CKR_OK
  temporary : a.temporary p.emphkeydata = p.temporary.toSymmetric
  inverse : p.temporary.Inverse

variable {p : PublicKey} {a : Asymmetric} {mechanism : CK_MECHANISM_TYPE} {k w : ByteString}

lemma unwrapKeyAsym_of_wrapKeyAsym (h : p.Pair a) (hw : WrapKeyAsym p mechanism k = .ok w) :
    w.length = a.size ∧ UnwrapKeyAsym a mechanism w = .ok k := by
  obtain ⟨_, hmem, hw⟩ := of_bind hw
  obtain ⟨bits, -, hw⟩ := of_bind hw
  have hencrypt : p.encrypt mechanism k = some w := by
    rcases List.mem_pair.1 (of_require hmem) with rfl | rfl
    · rw [if_pos rfl, if_neg (by decide)] at hw
      obtain ⟨_, -, hw⟩ := of_bind hw
      obtain ⟨_, -, hw⟩ := of_bind hw
      exact of_given hw
    · rw [if_neg (by decide), if_pos rfl] at hw
      obtain ⟨_, -, hw⟩ := of_bind hw
      obtain ⟨_, -, hw⟩ := of_bind hw
      obtain ⟨_, -, hw⟩ := of_bind hw
      exact of_given hw
  obtain ⟨hlen, hdecrypt⟩ := h.decrypt mechanism k w hencrypt
  refine ⟨hlen, ?_⟩
  rw [UnwrapKeyAsym, hmem, ok_bind, h.getRSAPrivateKey, h.oaepParam, hdecrypt, require, if_pos hlen]
  split <;> rfl

/-- The first part of the blob is as long as the modulus, so that it is cut where it was joined. -/
lemma unwrapMechRsaAesKw_of_wrap (h : p.Pair a) (hlen : w.length < 2 ^ 31)
    (hw : WrapMechRsaAesKw b p k = .ok w) : UnwrapMechRsaAesKw b a w = .ok k := by
  obtain ⟨_, -, hw⟩ := of_bind hw
  obtain ⟨wrapped_2, h2, hw⟩ := of_bind hw
  obtain ⟨wrapped_1, h1, hw⟩ := of_bind hw
  obtain rfl := Except.ok.inj hw
  obtain ⟨hsize, hfirst⟩ := unwrapKeyAsym_of_wrapKeyAsym h h1
  rw [List.length_append] at hlen
  have hsecond := (unwrapKeySym_iff b h.inverse (by omega) fun hm => absurd hm (by decide)).2 h2
  have hpos := length_of_wrapKeySym_pad b h.inverse h2
  have hmodulus : a.modulus.length = wrapped_1.length := h.modulus.trans hsize.symm
  rw [UnwrapMechRsaAesKw]
  simp only [hmodulus, List.length_append]
  rw [minus_of_le (by omega), ok_bind, elementAt_of_lt (by rw [List.length_append]; omega), ok_bind,
    slice_of_le (by rw [List.length_append]; omega), ok_bind, List.drop_zero, List.take_left, hfirst,
    ok_bind, h.storeTemporary, elementAt_of_lt (by rw [List.length_append]; omega),
    slice_of_le (by rw [List.length_append]; omega), List.drop_left,
    List.take_of_length_le (by omega), h.temporary]
  exact hsecond

/-- A wrapping and an unwrapping call that belong together: the same mechanism with the same
parameter, and two keys that are one key or one pair, the second of them allowed to unwrap. -/
structure Order.Matches (o : Order) (g : Given) : Prop where
  mechanism : g.mechanism = o.mechanism
  ukm : g.ukm = o.ukm
  access : g.access = CKR_OK
  template : g.template = CKR_OK
  kind : wrapKeyCheck CKO_PRIVATE_KEY CKR_UNWRAPPING_KEY_TYPE_INCONSISTENT g.mechanism.mechanism
    g.unwrapKey = CKR_OK
  secret : keyClass o.wrapKey = CKO_SECRET_KEY ↔ keyClass g.unwrapKey = CKO_SECRET_KEY
  pair : keyClass o.wrapKey = CKO_PUBLIC_KEY → keyClass g.unwrapKey = CKO_PRIVATE_KEY
  symmetric : g.symmetric = o.symmetric.toSymmetric
  inverse : o.symmetric.Inverse
  asymmetric : o.asymmetric.Pair g.asymmetric

lemma look_unwrapMechanisms (h : (look (wrapMechanisms b) mechanism).isSome = true) :
    (look (unwrapMechanisms b) mechanism).isSome = true := by
  rw [look, Option.isSome_map] at h ⊢
  rw [unwrapMechanisms, List.find?_append, Option.isSome_or, h, Bool.true_or]

/-- What has an RSA key does not have a secret one. -/
lemma class_of_wrapKeyCheck {rsaClass : UInt64} {rv : CK_RV} {key : AttributeMap} (hrv : rv ≠ CKR_OK)
    (h : wrapKeyCheck rsaClass rv mechanism key = CKR_OK)
    (hrsa : mechanism ∈ [CKM_RSA_PKCS, CKM_RSA_PKCS_OAEP, CKM_RSA_AES_KEY_WRAP]) :
    keyClass key = rsaClass := by
  by_contra hclass
  rw [wrapKeyCheck] at h
  by_cases haes : mechanism ∈ [CKM_AES_KEY_WRAP, CKM_AES_KEY_WRAP_PAD] ∧
      keyClass key ≠ CKO_SECRET_KEY
  · rw [if_pos haes] at h
    exact hrv h
  · rw [if_neg haes, if_pos ⟨hrsa, hclass⟩] at h
    exact hrv h

/-- What the blob that is given out comes from. -/
lemma of_blob {o : Order} {wrapped : ByteString} (h : o.blob supported b = .ok wrapped) :
    (look (wrapMechanisms b) o.mechanism.mechanism).isSome = true ∧ o.mechanism.parameter = CKR_OK ∧
      wrapKeyCheck CKO_PUBLIC_KEY CKR_WRAPPING_KEY_TYPE_INCONSISTENT o.mechanism.mechanism
        o.wrapKey = CKR_OK ∧
      ∃ keydata, o.keydata = .ok keydata ∧
        (if o.mechanism.mechanism = CKM_RSA_AES_KEY_WRAP then WrapMechRsaAesKw b o.asymmetric keydata
        else if keyClass o.wrapKey = CKO_SECRET_KEY then
          WrapKeySym b o.symmetric o.mechanism o.ukm keydata
        else WrapKeyAsym o.asymmetric o.mechanism.mechanism keydata) = .ok wrapped := by
  obtain ⟨_, hlook, h⟩ := of_bind h
  obtain ⟨_, hparameter, h⟩ := of_bind h
  obtain ⟨_, -, h⟩ := of_bind h
  obtain ⟨_, hkind, h⟩ := of_bind h
  obtain ⟨_, -, h⟩ := of_bind h
  obtain ⟨_, -, h⟩ := of_bind h
  obtain ⟨_, -, h⟩ := of_bind h
  obtain ⟨_, -, h⟩ := of_bind h
  obtain ⟨keydata, hkeydata, h⟩ := of_bind h
  obtain ⟨_, -, h⟩ := of_bind h
  exact ⟨of_require hlook, of_passes hparameter, of_passes hkind, keydata, hkeydata, h⟩

/-- With the mechanisms for RSA keys the length is not looked at beforehand. -/
lemma wrappedKeyLenRange_rsa
    (h : mechanism ∈ [CKM_RSA_PKCS, CKM_RSA_PKCS_OAEP, CKM_RSA_AES_KEY_WRAP]) (length : ℕ) :
    wrappedKeyLenRange mechanism length = CKR_OK := by
  rcases List.mem_cons.1 h with rfl | h
  · simp +decide [wrappedKeyLenRange]
  · rcases List.mem_pair.1 h with rfl | rfl <;> simp +decide [wrappedKeyLenRange]

/-- A call of `C_UnwrapKey` that gets to the blob. -/
lemma unwrapKey_eq {o : Order} {g : Given} (h : o.Matches g) {wrapped : ByteString}
    (hlook : (look (wrapMechanisms b) o.mechanism.mechanism).isSome = true)
    (hparameter : o.mechanism.parameter = CKR_OK)
    (hrange : wrappedKeyLenRange o.mechanism.mechanism wrapped.length = CKR_OK) :
    C_UnwrapKey b g wrapped =
      if o.mechanism.mechanism = CKM_RSA_AES_KEY_WRAP then UnwrapMechRsaAesKw b g.asymmetric wrapped
      else if keyClass g.unwrapKey = CKO_SECRET_KEY then
        UnwrapKeySym b o.symmetric.toSymmetric o.mechanism o.ukm wrapped
      else if keyClass g.unwrapKey = CKO_PRIVATE_KEY then
        UnwrapKeyAsym g.asymmetric o.mechanism.mechanism wrapped
      else refuse CKR_UNWRAPPING_KEY_TYPE_INCONSISTENT := by
  have hkind := h.kind
  rw [h.mechanism] at hkind
  rw [C_UnwrapKey, Given.check, h.mechanism, h.ukm, h.access, h.template, h.symmetric, require,
    if_pos (look_unwrapMechanisms b hlook), ok_bind, hparameter, hrange, hkind]
  rfl

lemma recovered_rsa (h : mechanism ∈ [CKM_RSA_PKCS, CKM_RSA_PKCS_OAEP, CKM_RSA_AES_KEY_WRAP])
    (keydata : ByteString) : recovered mechanism keydata = keydata := by
  refine if_neg ?_
  rintro rfl
  exact absurd h (by decide)

lemma class_of_rsa {o : Order} {g : Given} (h : o.Matches g)
    (hkind : wrapKeyCheck CKO_PUBLIC_KEY CKR_WRAPPING_KEY_TYPE_INCONSISTENT o.mechanism.mechanism
      o.wrapKey = CKR_OK)
    (hrsa : o.mechanism.mechanism ∈ [CKM_RSA_PKCS, CKM_RSA_PKCS_OAEP, CKM_RSA_AES_KEY_WRAP]) :
    keyClass o.wrapKey ≠ CKO_SECRET_KEY ∧ keyClass g.unwrapKey = CKO_PRIVATE_KEY := by
  have hpublic := class_of_wrapKeyCheck (by decide) hkind hrsa
  exact ⟨by rw [hpublic]; decide, h.pair hpublic⟩

/-- **A key that is wrapped** is unwrapped again. -/
lemma unwrapKey_of_blob {o : Order} {g : Given} (h : o.Matches g) {keydata wrapped : ByteString}
    (hkeydata : o.keydata = .ok keydata) (hlen : wrapped.length < 2 ^ 31)
    (hblob : o.blob supported b = .ok wrapped) :
    C_UnwrapKey b g wrapped = .ok (recovered o.mechanism.mechanism keydata) := by
  obtain ⟨hlook, hparameter, hkind, _, hkey, hwrap⟩ := of_blob supported b hblob
  obtain rfl := Except.ok.inj (hkeydata.symm.trans hkey)
  by_cases hrsaAes : o.mechanism.mechanism = CKM_RSA_AES_KEY_WRAP
  · have hrsa : o.mechanism.mechanism ∈
        [CKM_RSA_PKCS, CKM_RSA_PKCS_OAEP, CKM_RSA_AES_KEY_WRAP] := by
      rw [hrsaAes]
      decide
    rw [if_pos hrsaAes] at hwrap
    rw [unwrapKey_eq b h hlook hparameter (wrappedKeyLenRange_rsa hrsa _), if_pos hrsaAes,
      recovered_rsa hrsa]
    exact unwrapMechRsaAesKw_of_wrap b h.asymmetric hlen hwrap
  rw [if_neg hrsaAes] at hwrap
  by_cases hclass : keyClass o.wrapKey = CKO_SECRET_KEY
  · rw [if_pos hclass] at hwrap
    rw [unwrapKey_eq b h hlook hparameter (wrappedKeyLenRange_of_wrapKeySym b h.inverse hwrap),
      if_neg hrsaAes, if_pos (h.secret.1 hclass)]
    refine (unwrapKeySym_iff b h.inverse hlen fun hm => ?_).2 (wrapKeySym_recovered b hwrap)
    rw [recovered, if_pos hm]
    exact dvd_length_RFC3394Pad keydata
  · rw [if_neg hclass] at hwrap
    have hmem : o.mechanism.mechanism ∈ [CKM_RSA_PKCS, CKM_RSA_PKCS_OAEP] := by
      obtain ⟨_, hmem, -⟩ := of_bind hwrap
      exact of_require hmem
    have hrsa : o.mechanism.mechanism ∈
        [CKM_RSA_PKCS, CKM_RSA_PKCS_OAEP, CKM_RSA_AES_KEY_WRAP] := List.mem_append_left _ hmem
    obtain ⟨-, hprivate⟩ := class_of_rsa h hkind hrsa
    rw [unwrapKey_eq b h hlook hparameter (wrappedKeyLenRange_rsa hrsa _), if_neg hrsaAes,
      if_neg (by rw [hprivate]; decide), if_pos hprivate, recovered_rsa hrsa]
    exact (unwrapKeyAsym_of_wrapKeyAsym h.asymmetric hwrap).2

/-- A blob that a secret key unwraps is the one that it makes of what it gives. -/
lemma wrapKeySym_of_unwrapKey {o : Order} {g : Given} (h : o.Matches g) {keydata wrapped : ByteString}
    (hlen : wrapped.length < 2 ^ 31) (hclass : keyClass g.unwrapKey = CKO_SECRET_KEY)
    (hunwrap : C_UnwrapKey b g wrapped = .ok keydata) :
    WrapKeySym b o.symmetric o.mechanism o.ukm keydata = .ok wrapped := by
  obtain ⟨_, -, hunwrap⟩ := of_bind hunwrap
  obtain ⟨_, -, hunwrap⟩ := of_bind hunwrap
  obtain ⟨_, -, hunwrap⟩ := of_bind hunwrap
  have hrsaAes : g.mechanism.mechanism ≠ CKM_RSA_AES_KEY_WRAP := by
    intro hm
    have := class_of_wrapKeyCheck (by decide) h.kind (by rw [hm]; decide)
    exact absurd (this.symm.trans hclass) (by decide)
  rw [if_neg hrsaAes, if_pos hclass, h.symmetric, h.mechanism, h.ukm] at hunwrap
  refine (unwrapKeySym_iff b h.inverse hlen fun hm => ?_).1 hunwrap
  simp +decide only [UnwrapKeySym, hm, and_true, and_false, if_false] at hunwrap
  split_ifs at hunwrap
  · exact (length_of_unwrapKey h.inverse (given_ok_iff.1 (passes_bind_iff.1 hunwrap).2)).2
  · cases hunwrap

lemma blob_of_C_WrapKey {o : Order} {room : Option ℕ} {rv : CK_RV} {n : ℕ} {wrapped : ByteString}
    (h : C_WrapKey supported b o room = .ok (rv, n, some wrapped)) :
    o.blob supported b = .ok wrapped ∧ n = wrapped.length := by
  obtain ⟨blob, hblob, h⟩ := of_bind h
  cases room with
  | none => cases h
  | some room =>
    dsimp only at h
    split_ifs at h
    · obtain ⟨-, rfl, hwrapped⟩ := Prod.ext_iff.1 (Except.ok.inj h) |>.imp_right Prod.ext_iff.1
      obtain rfl := Option.some.inj hwrapped
      exact ⟨hblob, rfl⟩
    · cases h

/-- A key of the cipher of 1989, which is in the store for wrapping and for unwrapping. -/
def zeroKey : WrappingKey :=
  gostKey .little CKM_GOST28147_KEY_WRAP ⟨List.replicate 32 0, []⟩ (List.replicate 8 0)

def zeroAttributes : AttributeMap :=
  [(CKA_CLASS, .unsignedLong CKO_SECRET_KEY), (CKA_KEY_TYPE, .unsignedLong CKK_GOST28147),
    (CKA_WRAP, .boolean true), (CKA_EXTRACTABLE, .boolean true)]

/-- No pair of keys has a part in it. -/
def noPair : PublicKey :=
  ⟨none, CKR_GENERAL_ERROR, CKR_OK, 0, fun _ _ => none, CKR_OK, zeroKey, []⟩

def zeroOrder : Order :=
  ⟨⟨CKM_GOST28147_KEY_WRAP, CKR_OK⟩, List.replicate 8 0, zeroAttributes, CKR_OK, zeroAttributes,
    CKR_OK, .ok (List.replicate 32 0), zeroKey, noPair⟩

def zeroGiven : Given :=
  ⟨⟨CKM_GOST28147_KEY_WRAP, CKR_OK⟩, List.replicate 8 0, zeroAttributes, CKR_OK, CKR_OK,
    zeroKey.toSymmetric,
    ⟨CKR_OK, CKR_OK, 0, fun _ _ => none, [], fun _ => CKR_OK, fun _ => zeroKey.toSymmetric⟩⟩

lemma zero_matches : zeroOrder.Matches zeroGiven where
  mechanism := rfl
  ukm := rfl
  access := rfl
  template := rfl
  kind := by decide
  secret := Iff.rfl
  pair := fun h => absurd h (by decide)
  symmetric := rfl
  inverse := inverse_gostKey ..
  asymmetric := ⟨rfl, rfl, (fun _ _ _ h => nomatch h), rfl, rfl, rfl, inverse_gostKey ..⟩

end Calls

end SoftHSM.Unwrap
