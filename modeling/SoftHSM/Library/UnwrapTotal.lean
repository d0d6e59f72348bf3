import SoftHSM.Library.Unwrapping

/-!
Unwrapping on a blob of any length: where it stays inside its buffers and refuses what is too short.
-/

namespace SoftHSM.Unwrap

open CK_RV Create Access File

variable (b : Build)

/-! ### Runs without a fault -/

section Safe

/-- A run that stays inside its buffers, takes no length below zero and refuses with an error. -/
abbrev Orderly {α : Type} (r : Run CK_RV α) : Prop := Safe (fun rv => rv ≠ CKR_OK) r

lemma orderly_passes (rv : CK_RV) : Orderly (passes rv) := safe_require id

lemma of_passes {rv : CK_RV} {u : Unit} (h : passes rv = .ok u) : rv = CKR_OK := of_require h

lemma orderly_sameTag (tag : ℕ → UInt8) {plain : ByteString} {i count : ℕ}
    (h : 32 + i + count ≤ plain.length) : Orderly (sameTag tag plain i count) := by
  induction count generalizing i with
  | zero => exact safe_ok true
  | succ count ih =>
    have hi : 32 + i < plain.length := by omega
    rw [sameTag, elementAt_of_lt hi, ok_bind]
    exact safe_bind (ih (by omega)) fun rest _ => safe_ok _

/-- The export of a key is as long as it has to be before it is read. -/
lemma orderly_unwrapKexp15 (s : Symmetric) (m : Mechanism) (block : ℕ) (ukm wrapped : ByteString) :
    Orderly (unwrapKexp15 s m block ukm wrapped) := by
  refine safe_bind (orderly_passes _) fun _ _ => ?_
  refine safe_bind (safe_require fun _ => by decide) fun _ hlen => ?_
  have hlen := of_require hlen
  refine safe_bind (safe_require fun _ => by decide) fun _ _ => ?_
  refine safe_bind (safe_given (by decide)) fun stream _ => ?_
  have hplain : (wrapped.mapIdx fun i byte => byte ^^^ stream i).length = 32 + block := by
    rw [List.length_mapIdx, hlen]
  dsimp only
  rw [slice_of_le (by omega), ok_bind]
  refine safe_bind (safe_given (by decide)) fun tag _ => ?_
  refine safe_bind (orderly_sameTag tag (by omega)) fun same _ => ?_
  exact safe_bind (safe_require fun _ => by decide) fun _ _ => safe_ok _

lemma decryptBlocks_eq_ok (s : Symmetric) {wrapped : ByteString} {offset count : ℕ}
    (h : offset + 8 * count ≤ wrapped.length) :
    ∃ keydata, decryptBlocks s wrapped offset count = .ok keydata ∧ keydata.length = 8 * count := by
  induction count generalizing offset with
  | zero => exact ⟨[], rfl, rfl⟩
  | succ count ih =>
    obtain ⟨rest, hrest, hlen⟩ := @ih (offset + 8) (by omega)
    rw [decryptBlocks, slice_of_le (by omega), ok_bind, hrest, ok_bind]
    refine ⟨_, rfl, ?_⟩
    rw [List.length_append, s.length_decryptBlock, hlen]
    omega

lemma orderly_macBlocks (s : Symmetric) {keydata : ByteString} {offset count : ℕ} (mac : ℕ → UInt8)
    (h : offset + 8 * count ≤ keydata.length) :
    Orderly (macBlocks s keydata offset count mac) := by
  induction count generalizing offset mac with
  | zero => exact safe_ok mac
  | succ count ih =>
    rw [macBlocks, slice_of_le (by omega), ok_bind]
    exact ih _ (by omega)

lemma orderly_unwrapGOST28147 (s : Symmetric) (m : Mechanism) (ukm wrapped : ByteString) :
    Orderly (unwrapGOST28147 s m ukm wrapped) := by
  refine safe_bind (orderly_passes _) fun _ _ => ?_
  refine safe_bind (safe_require fun _ => by decide) fun _ hlen => ?_
  have hlen := of_require hlen
  refine safe_bind (safe_require fun _ => by decide) fun _ _ => ?_
  obtain ⟨keydata, hkey, hkeylen⟩ :=
    @decryptBlocks_eq_ok s wrapped 0 4 (by omega)
  rw [hkey, ok_bind]
  refine safe_bind (orderly_macBlocks s _ (by omega)) fun mac _ => ?_
  refine safe_bind (orderly_sameTag mac (by omega)) fun same _ => ?_
  exact safe_bind (safe_require fun _ => by decide) fun _ _ => safe_ok _

variable {blocksize : ℕ} {cipher : Cbc blocksize} {wrapped : ByteString}

lemma orderly_decrypt (cipher : Cbc blocksize) (wrapped : ByteString) :
    Orderly (cipher.decrypt wrapped) := by
  refine safe_bind (safe_require fun _ => by decide) fun _ _ => ?_
  refine safe_bind (safe_given (by decide)) fun _ _ => ?_
  exact safe_bind (safe_given (by decide)) fun _ _ => safe_ok _

/-- What a chained cipher gives is as long as what it takes, which is whole blocks. -/
lemma length_of_decrypt {keydata : ByteString} (h : cipher.decrypt wrapped = .ok keydata) :
    keydata.length = wrapped.length ∧ blocksize ∣ wrapped.length := by
  obtain ⟨_, -, h⟩ := of_bind h
  obtain ⟨d, hd, h⟩ := of_bind h
  obtain ⟨f, hf, h⟩ := of_bind h
  obtain rfl := Except.ok.inj h
  exact cipher.length_decrypt wrapped d f (of_given hd) (of_given hf)

/-- A padded key is read outside its buffer just where that is empty. -/
lemma orderly_decryptPad_iff (b : Blocksize) (cipher : Cbc b.size) (wrapped : ByteString) :
    Orderly (cipher.decryptPad wrapped) ↔
      (wrapped = [] → ∀ keydata, cipher.decrypt wrapped ≠ .ok keydata) := by
  constructor
  · rintro h rfl keydata hkey
    have hnil : keydata = [] := List.length_eq_zero_iff.1 (length_of_decrypt hkey).1
    rw [Cbc.decryptPad, hkey, ok_bind, hnil, RFC5652Unpad_nil] at h
    exact not_safe_fault .negative h
  · intro h
    refine safe_bind (orderly_decrypt cipher wrapped) fun keydata hkey => ?_
    have hne : keydata ≠ [] := by
      rintro rfl
      have hlen := (length_of_decrypt hkey).1
      exact h (List.length_eq_zero_iff.1 hlen.symm) [] hkey
    obtain ⟨r, hr, -⟩ := RFC5652Unpad_of_ne_nil (b := b) hne
    rw [hr, ok_bind]
    exact safe_given (by decide)

lemma orderly_unwrapKeyAsym (a : Asymmetric) (mechanism : CK_MECHANISM_TYPE)
    (wrapped : ByteString) : Orderly (UnwrapKeyAsym a mechanism wrapped) := by
  refine safe_bind (safe_require fun _ => by decide) fun _ _ => ?_
  refine safe_bind (orderly_passes _) fun _ _ => ?_
  have hrest : Orderly (do
      require (wrapped.length = a.size) CKR_GENERAL_ERROR
      given (a.decrypt mechanism wrapped) CKR_GENERAL_ERROR) :=
    safe_bind (safe_require fun _ => by decide) fun _ _ => safe_given (by decide)
  split_ifs
  · exact safe_bind (orderly_passes _) fun _ _ => hrest
  · exact hrest

lemma length_of_unwrapKeyAsym {a : Asymmetric} {mechanism : CK_MECHANISM_TYPE}
    {wrapped keydata : ByteString} (h : UnwrapKeyAsym a mechanism wrapped = .ok keydata) :
    mechanism ∈ [CKM_RSA_PKCS, CKM_RSA_PKCS_OAEP] ∧ wrapped.length = a.size := by
  obtain ⟨_, hm, h⟩ := of_bind h
  obtain ⟨_, -, h⟩ := of_bind h
  refine ⟨of_require hm, ?_⟩
  split_ifs at h
  · obtain ⟨_, -, h⟩ := of_bind h
    obtain ⟨_, hlen, -⟩ := of_bind h
    exact of_require hlen
  · obtain ⟨_, hlen, -⟩ := of_bind h
    exact of_require hlen

end Safe

/-! ### Blobs of any length -/

section Total

/-- The length below which a blob cannot be one of a mechanism. -/
def shortest (a : Asymmetric) (mechanism : CK_MECHANISM_TYPE) : ℕ :=
  if mechanism = CKM_KUZNECHIK_KEXP_15_WRAP then 48
  else if mechanism = CKM_MAGMA_KEXP_15_WRAP then 40
  else if mechanism = CKM_GOST28147_KEY_WRAP then 36
  else if mechanism = CKM_AES_KEY_WRAP then 24
  else if mechanism ∈ [CKM_AES_KEY_WRAP_PAD, CKM_AES_CBC, CKM_AES_CBC_PAD] then 16
  else if mechanism = CKM_DES3_CBC_PAD then 8
  else if mechanism ∈ [CKM_RSA_PKCS, CKM_RSA_PKCS_OAEP] then a.size
  else if mechanism = CKM_RSA_AES_KEY_WRAP then a.modulus.length + 16
  else 0

/-- **What is asked** of a run on a blob: that it does not fault, and that it refuses a blob that
is too short. -/
def Total (r : Run CK_RV ByteString) (tooShort : Prop) : Prop :=
  Orderly r ∧ (tooShort → ∃ rv, rv ≠ CKR_OK ∧ r = refuse rv)

lemma total_iff {r : Run CK_RV ByteString} {tooShort : Prop} :
    Total r tooShort ↔ Orderly r ∧ (tooShort → ∀ keydata, r ≠ .ok keydata) := by
  refine and_congr_right fun h => forall_congr' fun _ => ⟨?_, refused_of_safe h⟩
  rintro ⟨rv, -, rfl⟩ keydata hk
  cases hk

/-- A blob that a symmetric key may be given: it is not empty, or the cipher refuses the empty
string. -/
def Symmetric.Fits (s : Symmetric) (mechanism : CK_MECHANISM_TYPE) (wrapped : ByteString) : Prop :=
  s.getSymmetricKey = CKR_OK → wrapped = [] →
    (mechanism ∈ [CKM_AES_CBC, CKM_AES_CBC_PAD] → ∀ keydata, s.aes.decrypt [] ≠ .ok keydata) ∧
    (mechanism = CKM_DES3_CBC_PAD → ∀ keydata, s.des3.decrypt [] ≠ .ok keydata)

/-- A blob that a private key may be given: it has a first part, and where there is no second one,
the first does not give a temporary key. -/
def Asymmetric.Fits (a : Asymmetric) (wrapped : ByteString) : Prop :=
  wrapped ≠ [] ∧ a.modulus.length ≤ wrapped.length ∧
    (a.modulus.length = wrapped.length → ∀ emphkeydata,
      UnwrapKeyAsym a CKM_RSA_PKCS_OAEP wrapped = .ok emphkeydata →
      a.storeTemporary emphkeydata ≠ CKR_OK)

lemma fits_of_other {s : Symmetric} {mechanism : CK_MECHANISM_TYPE} {wrapped : ByteString}
    (h : mechanism ∉ [CKM_AES_CBC, CKM_AES_CBC_PAD, CKM_DES3_CBC_PAD]) :
    s.Fits mechanism wrapped := by
  simp only [List.mem_cons, List.not_mem_nil, or_false, not_or] at h
  exact fun _ _ => ⟨fun hm => by simp_all, fun hm => absurd hm h.2.2⟩

/-- A length below the least is refused, also as an `int`. -/
lemma checkLength_of_lt {size : ℕ} :
    (size < 24 → checkLength size 24 = false) ∧ (size < 16 → checkLength size 16 = false) := by
  have h24 : ∀ n < 24, checkLength n 24 = false := by decide
  have h16 : ∀ n < 16, checkLength n 16 = false := by decide
  exact ⟨h24 size, h16 size⟩

lemma total_of_exact {r : Run CK_RV ByteString} {n : ℕ} {wrapped : ByteString} (h : Orderly r)
    (hlen : ∀ keydata, r = .ok keydata → n ≤ wrapped.length) : Total r (wrapped.length < n) := by
  refine total_iff.2 ⟨h, fun hlt keydata hk => ?_⟩
  exact absurd (hlen keydata hk) (Nat.not_le.2 hlt)

lemma total_unwrapKexp15 (s : Symmetric) (m : Mechanism) (block : ℕ) (ukm wrapped : ByteString) :
    Total (unwrapKexp15 s m block ukm wrapped) (wrapped.length < 32 + block) := by
  refine total_of_exact (orderly_unwrapKexp15 s m block ukm wrapped) fun keydata hk => ?_
  obtain ⟨_, -, hk⟩ := of_bind hk
  obtain ⟨_, hlen, -⟩ := of_bind hk
  exact (of_require hlen).ge

lemma total_unwrapGOST28147 (s : Symmetric) (m : Mechanism) (ukm wrapped : ByteString) :
    Total (unwrapGOST28147 s m ukm wrapped) (wrapped.length < 36) := by
  refine total_of_exact (orderly_unwrapGOST28147 s m ukm wrapped) fun keydata hk => ?_
  obtain ⟨_, -, hk⟩ := of_bind hk
  obtain ⟨_, hlen, -⟩ := of_bind hk
  exact (of_require hlen).ge

/-- The wrapping of keys refuses what is too short itself. -/
lemma total_unwrapKey (s : Symmetric) (pad : Bool) (wrapped : ByteString) :
    Total (do
      passes s.getSymmetricKey
      given (unwrapKey s pad wrapped) CKR_GENERAL_ERROR)
      (wrapped.length < if pad then 16 else 24) := by
  refine total_of_exact
    (safe_bind (orderly_passes _) fun _ _ => safe_given (by decide)) fun keydata hk => ?_
  obtain ⟨_, -, hk⟩ := of_bind hk
  have hk := of_given hk
  by_contra hlt
  have hshort : checkLength wrapped.length (if pad then 16 else 24) = false := by
    cases pad with
    | true => exact checkLength_of_lt.2 (Nat.not_le.1 hlt)
    | false => exact checkLength_of_lt.1 (Nat.not_le.1 hlt)
  rw [unwrapKey, hshort] at hk
  cases hk

section Cbc

variable {rv : CK_RV} {wrapped : ByteString}

/-- What is not empty and too short for a block is no number of blocks. -/
lemma eq_nil_of_short {blocksize : ℕ} {cipher : Cbc blocksize} {keydata : ByteString}
    (hk : cipher.decrypt wrapped = .ok keydata) (hlt : wrapped.length < blocksize) :
    wrapped = [] := by
  obtain ⟨-, hdvd⟩ := length_of_decrypt hk
  exact List.length_eq_zero_iff.1 (Nat.eq_zero_of_dvd_of_lt hdvd hlt)

lemma total_decrypt_iff (b : Blocksize) (cipher : Cbc b.size) :
    Total (do
      passes rv
      cipher.decrypt wrapped) (wrapped.length < b.size) ↔
      (rv = CKR_OK → wrapped = [] → ∀ keydata, cipher.decrypt [] ≠ .ok keydata) := by
  rw [total_iff]
  constructor
  · rintro ⟨-, h⟩ rfl rfl keydata hk
    exact h b.pos keydata hk
  · intro h
    refine ⟨safe_bind (orderly_passes _) fun _ _ => orderly_decrypt _ _, fun hlt keydata hk => ?_⟩
    obtain ⟨_, hrv, hk⟩ := of_bind hk
    have hnil := eq_nil_of_short hk hlt
    rw [hnil] at hk
    exact h (of_passes hrv) hnil keydata hk

lemma total_decryptPad_iff (b : Blocksize) (cipher : Cbc b.size) :
    Total (do
      passes rv
      cipher.decryptPad wrapped) (wrapped.length < b.size) ↔
      (rv = CKR_OK → wrapped = [] → ∀ keydata, cipher.decrypt [] ≠ .ok keydata) := by
  rw [total_iff]
  constructor
  · rintro ⟨h, -⟩ rfl rfl
    exact (orderly_decryptPad_iff b cipher []).1 h rfl
  · intro h
    refine ⟨safe_bind (orderly_passes _) fun _ hrv => ?_, fun hlt keydata hk => ?_⟩
    · refine (orderly_decryptPad_iff b cipher wrapped).2 fun hnil keydata hk => ?_
      rw [hnil] at hk
      exact h (of_passes hrv) hnil keydata hk
    · obtain ⟨_, hrv, hk⟩ := of_bind hk
      obtain ⟨data, hdata, -⟩ := of_bind hk
      have hnil := eq_nil_of_short hdata hlt
      rw [hnil] at hdata
      exact h (of_passes hrv) hnil data hdata

end Cbc

/-- **Symmetric keys**: each mechanism refuses what is too short but for the empty string, which a
chained cipher may take. -/
lemma total_unwrapKeySym_iff (a : Asymmetric) (s : Symmetric) (m : Mechanism)
    (ukm wrapped : ByteString) :
    Total (UnwrapKeySym b s m ukm wrapped) (wrapped.length < shortest a m.mechanism) ↔
      s.Fits m.mechanism wrapped := by
  unfold UnwrapKeySym
  split_ifs with h1 h2 h3 h4 h5 h6 h7 h8
  · rw [h1]
    exact iff_of_true (total_unwrapKexp15 s m 16 ukm wrapped) (fits_of_other (by decide))
  · rw [h2]
    exact iff_of_true (total_unwrapKexp15 s m 8 ukm wrapped) (fits_of_other (by decide))
  · rw [h3]
    exact iff_of_true (total_unwrapGOST28147 s m ukm wrapped) (fits_of_other (by decide))
  · rw [h4.2]
    exact iff_of_true (total_unwrapKey s false wrapped) (fits_of_other (by decide))
  · rw [h5.2]
    exact iff_of_true (total_unwrapKey s true wrapped) (fits_of_other (by decide))
  · rw [h6]
    refine (total_decrypt_iff ⟨16, by decide, by decide⟩ s.aes).trans (forall₂_congr fun _ _ => ?_)
    exact ⟨fun h => ⟨fun _ => h, fun hm => absurd hm (by decide)⟩, fun h => h.1 (by decide)⟩
  · rw [h7]
    refine (total_decryptPad_iff ⟨16, by decide, by decide⟩ s.aes).trans
      (forall₂_congr fun _ _ => ?_)
    exact ⟨fun h => ⟨fun _ => h, fun hm => absurd hm (by decide)⟩, fun h => h.1 (by decide)⟩
  · rw [h8]
    refine (total_decryptPad_iff ⟨8, by decide, by decide⟩ s.des3).trans
      (forall₂_congr fun _ _ => ?_)
    exact ⟨fun h => ⟨fun hm => absurd hm (by decide), fun _ => h⟩, fun h => h.2 rfl⟩
  · refine iff_of_true (total_of_exact (safe_refuse (by decide)) fun keydata hk => ?_) ?_
    · cases hk
    · exact fits_of_other (by simp [h6, h7, h8])

/-- The second part of a blob, which is a key that is wrapped with padding. -/
lemma total_second (s : Symmetric) (wrapped : ByteString) :
    Total (UnwrapKeySym b s ⟨CKM_AES_KEY_WRAP_PAD, CKR_OK⟩ [] wrapped) (wrapped.length < 16) :=
  (total_unwrapKeySym_iff b ⟨CKR_OK, CKR_OK, 0, fun _ _ => none, [], fun _ => CKR_OK, fun _ => s⟩ s
    ⟨CKM_AES_KEY_WRAP_PAD, CKR_OK⟩ [] wrapped).2 (fits_of_other (by decide))

/-- **Two parts**: the first is as long as the modulus, and the second begins after it. -/
lemma total_unwrapMechRsaAesKw_iff (a : Asymmetric) (wrapped : ByteString) :
    Total (UnwrapMechRsaAesKw b a wrapped) (wrapped.length < a.modulus.length + 16) ↔
      a.Fits wrapped := by
  rw [total_iff]
  by_cases hle : a.modulus.length ≤ wrapped.length
  swap
  · have hfault : UnwrapMechRsaAesKw b a wrapped = .error (.fault .negative) := by
      unfold UnwrapMechRsaAesKw
      dsimp only
      rw [minus_of_lt (Nat.not_le.1 hle), error_bind]
    rw [hfault]
    exact iff_of_false (fun h => not_safe_fault _ h.1) fun h => hle h.2.1
  by_cases hnil : wrapped = []
  · have hfault : UnwrapMechRsaAesKw b a wrapped = .error (.fault .outside) := by
      unfold UnwrapMechRsaAesKw
      dsimp only
      rw [minus_of_le hle, ok_bind, elementAt_of_le (by rw [hnil]; exact le_rfl), error_bind]
    rw [hfault]
    exact iff_of_false (fun h => not_safe_fault _ h.1) fun h => h.1 hnil
  have hpos : 0 < wrapped.length := List.length_pos_of_ne_nil hnil
  unfold UnwrapMechRsaAesKw
  dsimp only
  rw [minus_of_le hle, ok_bind, elementAt_of_lt hpos, ok_bind, slice_of_le (by omega), ok_bind,
    List.drop_zero]
  by_cases heq : a.modulus.length = wrapped.length
  · rw [heq, List.take_length, elementAt_of_le le_rfl]
    constructor
    · rintro ⟨h, -⟩
      refine ⟨hnil, hle, fun _ key hkey hstore => ?_⟩
      rw [hkey, ok_bind, hstore] at h
      exact not_safe_fault .outside h
    · rintro ⟨-, -, h⟩
      refine ⟨safe_bind (orderly_unwrapKeyAsym _ _ _) fun key hkey => ?_, fun _ keydata hk => ?_⟩
      · refine safe_bind (orderly_passes _) fun _ hstore => ?_
        exact absurd (of_passes hstore) (h heq key hkey)
      · obtain ⟨key, hkey, hk⟩ := of_bind hk
        obtain ⟨_, hstore, -⟩ := of_bind hk
        exact h heq key hkey (of_passes hstore)
  · have hlt : a.modulus.length < wrapped.length := by omega
    rw [elementAt_of_lt hlt, slice_of_le (by omega)]
    refine iff_of_true ⟨?_, fun hshort keydata hk => ?_⟩ ⟨hnil, hle, fun h => absurd h heq⟩
    · refine safe_bind (orderly_unwrapKeyAsym _ _ _) fun key _ => ?_
      refine safe_bind (orderly_passes _) fun _ _ => ?_
      exact (total_second b (a.temporary key) _).1
    · obtain ⟨key, -, hk⟩ := of_bind hk
      obtain ⟨_, -, hk⟩ := of_bind hk
      refine (total_iff.1 (total_second b (a.temporary key) _)).2 ?_ keydata hk
      rw [List.length_take, List.length_drop]
      omega

/-- Where a call copes with its blob. -/
def Given.Fits (g : Given) (wrapped : ByteString) : Prop :=
  if g.mechanism.mechanism = CKM_RSA_AES_KEY_WRAP then g.asymmetric.Fits wrapped
  else keyClass g.unwrapKey = CKO_SECRET_KEY →
    g.symmetric.Fits g.mechanism.mechanism wrapped

lemma shortest_asym (a : Asymmetric) {mechanism : CK_MECHANISM_TYPE}
    (h : mechanism ∈ [CKM_RSA_PKCS, CKM_RSA_PKCS_OAEP]) : shortest a mechanism = a.size := by
  simp only [List.mem_cons, List.not_mem_nil, or_false] at h
  rcases h with rfl | rfl
  · rfl
  · rfl

lemma total_unwrapKeyAsym (a : Asymmetric) (mechanism : CK_MECHANISM_TYPE) (wrapped : ByteString) :
    Total (UnwrapKeyAsym a mechanism wrapped) (wrapped.length < shortest a mechanism) := by
  refine total_of_exact (orderly_unwrapKeyAsym a mechanism wrapped) fun keydata hk => ?_
  obtain ⟨hm, hlen⟩ := length_of_unwrapKeyAsym hk
  rw [shortest_asym a hm]
  exact hlen.ge

/-- A length that is refused at once is one of a mechanism that copes with every blob. -/
lemma fits_of_wrappedKeyLenRange {g : Given} {wrapped : ByteString}
    (h : wrappedKeyLenRange g.mechanism.mechanism wrapped.length ≠ CKR_OK) : g.Fits wrapped := by
  have hmem : g.mechanism.mechanism ∈ [CKM_AES_KEY_WRAP, CKM_AES_KEY_WRAP_PAD,
      CKM_GOST28147_KEY_WRAP, CKM_KUZNECHIK_KEXP_15_WRAP, CKM_MAGMA_KEXP_15_WRAP] := by
    by_contra hm
    simp only [List.mem_cons, List.not_mem_nil, or_false, not_or] at hm
    exact h (by simp [wrappedKeyLenRange, hm])
  have hother : ∀ x ∈ [CKM_AES_KEY_WRAP, CKM_AES_KEY_WRAP_PAD, CKM_GOST28147_KEY_WRAP,
      CKM_KUZNECHIK_KEXP_15_WRAP, CKM_MAGMA_KEXP_15_WRAP], x ≠ CKM_RSA_AES_KEY_WRAP ∧
      x ∉ [CKM_AES_CBC, CKM_AES_CBC_PAD, CKM_DES3_CBC_PAD] := forall_of_all (by decide)
  obtain ⟨hrsa, hcbc⟩ := hother _ hmem
  rw [Given.Fits, if_neg hrsa]
  exact fun _ => fits_of_other hcbc

lemma orderly_check (g : Given) : Orderly g.check := by
  refine safe_bind (orderly_passes _) fun _ _ => ?_
  refine safe_bind (orderly_passes _) fun _ _ => ?_
  exact safe_bind (orderly_passes _) fun _ _ => orderly_passes _

/-- A check that comes before leaves the rest to be asked about. -/
lemma total_bind_iff {α : Type} {x : Run CK_RV α} {k : α → Run CK_RV ByteString} {tooShort : Prop}
    (hx : Orderly x) : Total (x >>= k) tooShort ↔ ∀ a, x = .ok a → Total (k a) tooShort := by
  cases x with
  | ok a => exact ⟨fun h _ ha => Except.ok.inj ha ▸ h, fun h => h a rfl⟩
  | error s =>
    refine iff_of_true (total_iff.2 ⟨safe_bind hx fun a ha => ?_, fun _ keydata hk => ?_⟩) ?_
    · cases ha
    · cases hk
    · intro a ha
      cases ha

/-- What comes after the checks. -/
lemma total_opened_iff (g : Given) (wrapped : ByteString) :
    Total
        (if g.mechanism.mechanism = CKM_RSA_AES_KEY_WRAP then
          UnwrapMechRsaAesKw b g.asymmetric wrapped
        else if keyClass g.unwrapKey = CKO_SECRET_KEY then
          UnwrapKeySym b g.symmetric g.mechanism g.ukm wrapped
        else if keyClass g.unwrapKey = CKO_PRIVATE_KEY then
          UnwrapKeyAsym g.asymmetric g.mechanism.mechanism wrapped
        else refuse CKR_UNWRAPPING_KEY_TYPE_INCONSISTENT)
        (wrapped.length < shortest g.asymmetric g.mechanism.mechanism) ↔ g.Fits wrapped := by
  unfold Given.Fits
  split_ifs with hrsa hsecret hprivate
  · rw [hrsa]
    exact total_unwrapMechRsaAesKw_iff b g.asymmetric wrapped
  · rw [total_unwrapKeySym_iff]
    exact ⟨fun h _ => h, fun h => h hsecret⟩
  · exact iff_of_true (total_unwrapKeyAsym _ _ _) fun h => absurd h hsecret
  · refine iff_of_true (total_of_exact (safe_refuse (by decide)) fun keydata hk => ?_)
      fun h => absurd h hsecret
    cases hk

lemma total_unwrapKey_iff (g : Given) (wrapped : ByteString) :
    Total (C_UnwrapKey b g wrapped)
        (wrapped.length < shortest g.asymmetric g.mechanism.mechanism) ↔
      ((look (unwrapMechanisms b) g.mechanism.mechanism).isSome = true → g.check = .ok () →
        g.Fits wrapped) := by
  unfold C_UnwrapKey
  rw [total_bind_iff (safe_require fun _ => by decide)]
  constructor
  · intro h hlook hcheck
    by_cases hlen : wrappedKeyLenRange g.mechanism.mechanism wrapped.length = CKR_OK
    · have hpasses : passes (wrappedKeyLenRange g.mechanism.mechanism wrapped.length) = .ok () :=
        if_pos hlen
      have hrest := h () (if_pos hlook)
      rw [hpasses, ok_bind, hcheck, ok_bind] at hrest
      exact (total_opened_iff b g wrapped).1 hrest
    · exact fits_of_wrappedKeyLenRange hlen
  · intro h _ hlook
    refine (total_bind_iff (orderly_passes _)).2 fun _ _ => ?_
    refine (total_bind_iff (orderly_check g)).2 fun _ hcheck => ?_
    exact (total_opened_iff b g wrapped).2 (h (of_require hlook) hcheck)

/-- A cipher that gives back the whole blocks that it takes. -/
def plainBlocks (blocksize : ℕ) : Cbc blocksize where
  decryptInit := true
  decryptUpdate := fun w => if blocksize ∣ w.length then some w else none
  decryptFinal := fun _ => some []
  length_decrypt := by
    intro w d f hd hf
    split_ifs at hd with hdvd
    obtain rfl := Option.some.inj hd
    obtain rfl := Option.some.inj hf
    exact ⟨by simp, hdvd⟩

/-- A key of 16 bytes that unwraps with padding. -/
def paddingKey : Given where
  mechanism := ⟨CKM_AES_CBC_PAD, CKR_OK⟩
  ukm := []
  unwrapKey := [(CKA_CLASS, .unsignedLong CKO_SECRET_KEY), (CKA_KEY_TYPE, .unsignedLong CKK_AES)]
  access := CKR_OK
  template := CKR_OK
  symmetric := ⟨CKR_OK, plainBlocks 16, plainBlocks 8, fun _ _ => none, false, none, fun _ => none,
    false, fun _ => List.replicate 8 0, fun _ => rfl, fun mac _ => mac⟩
  asymmetric := ⟨CKR_GENERAL_ERROR, CKR_OK, 0, fun _ _ => none, [], fun _ => CKR_OK,
    fun _ => ⟨CKR_OK, plainBlocks 16, plainBlocks 8, fun _ _ => none, false, none, fun _ => none,
      false, fun _ => List.replicate 8 0, fun _ => rfl, fun mac _ => mac⟩⟩

end Total

end SoftHSM.Unwrap
