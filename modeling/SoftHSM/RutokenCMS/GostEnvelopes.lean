import Mathlib.Data.Fintype.BigOperators
import Mathlib.Data.Fintype.Pi
import SoftHSM.RutokenCMS.GostMessage

/-!
Envelopes are accepted with the contents of the digest that was signed, and with no others: the
check puts together again what the signer has written.
-/

namespace SoftHSM.RutokenCMS

open CK_RV Der

variable {Cert : Type}

/-! ### What is relied on -/

/-- The library, on certificates that it has decoded and on messages in their shortest form: what
it encodes it decodes, names are the same as themselves, and the time has thirteen digits. -/
structure OpenSSL.Lawful (O : OpenSSL Cert) : Prop where
  certificate : ∀ c, IsEncoded 0x30 (O.i2d_X509 c)
  decodeCertificate : ∀ c, O.decodeCertificate (O.i2d_X509 c) = some c
  issuerName : ∀ c, IsEncoded 0x30 (O.issuerName c)
  serialNumber : ∀ c, IsEncoded 0x02 (O.serialNumber c)
  sameName : ∀ c, O.X509_NAME_cmp (O.issuerName c) (O.issuerName c) = true
  utcTimeNow : O.utcTimeNow ≠ [] →
    ∃ digits : ByteString, digits.length = 13 ∧ O.utcTimeNow = Der.encode 0x17 digits
  decodeMessage : ∀ cms : ContentInfo, cms.WellFormed → cms.encode.length ≤ maxCms →
    (∀ b ∈ cms.certificates, ∃ c, b = O.i2d_X509 c) →
    (∀ s ∈ cms.signerInfos, ∃ c, s.issuer = O.issuerName c ∧ s.serialNumber = O.serialNumber c) →
    cms.contentType = oid NID_pkcs7_signed → O.d2i_CMS_ContentInfo cms.encode = some (cms, [])

/-- The sizes that there are. -/
def GostSize (bits : ℕ) : Prop := bits = 256 ∨ bits = 512

/-- The token: the digest is a function, and a signature is accepted with the public keys of the
key that has made it. -/
structure GostToken.Correct (T : GostToken) (hash : ℕ → ByteString → ByteString)
    (Matches : CK_OBJECT_HANDLE → GostPublicKey → Prop) : Prop where
  digest : ∀ bits data, GostSize bits → T.C_Digest bits data = .ok (hash bits data)
  length_hash : ∀ bits data, GostSize bits → (hash bits data).length = bits / 8
  verify : ∀ key publicKey bits digest signature, GostSize bits →
    T.C_Sign key bits digest = .ok signature →
      (T.C_Verify publicKey bits digest signature = CKR_OK ↔ Matches key publicKey)
  destroy : ∀ publicKey, T.C_DestroyObject publicKey = CKR_OK

/-- Issuer and serial number are the same. -/
def OpenSSL.sameSigner (O : OpenSSL Cert) (c d : Cert) : Bool :=
  O.X509_NAME_cmp (O.issuerName c) (O.issuerName d) && O.serialNumber c = O.serialNumber d

/-- The signature alone is checked, and without lists of what is revoked; the certificate is taken
from the message, or is the first of the signer in the store. -/
structure VerifyState.SignatureOnly (O : OpenSSL Cert) (cert : Cert) (state : VerifyState) :
    Prop where
  flags : state.flags &&& CKF_VENDOR_CHECK_SIGNATURE_ONLY ≠ 0
  crlMode : state.crlMode = OPTIONAL_CRL_CHECK
  crls : state.crls = []
  certificates : ∀ der ∈ state.certificates, (O.decodeCertificate der).isSome = true
  signer : state.flags &&& CKF_VENDOR_DO_NOT_USE_INTERNAL_CMS_CERTS = 0 ∨
    (state.certificates.filterMap O.decodeCertificate).find? (O.sameSigner cert) = some cert

lemma wellFormed_signerInfo {O : OpenSSL Cert} (hO : O.Lawful) {cert : Cert}
    {attributes : List Attribute} {signature : ByteString} (hattrs : ∀ a ∈ attributes, a.WellFormed)
    (hsorted : (attributes.map Attribute.encode).Pairwise NotAfter) :
    (O.signerInfo cert attributes signature).WellFormed where
  issuer := hO.issuerName cert
  serialNumber := hO.serialNumber cert
  digestAlgorithm := wellFormed_null (isObject_gostDigest _)
  signedAttrs := hattrs
  sorted := hsorted
  signatureAlgorithm := wellFormed_null (isObject_gostKey _)

/-- **The message** is well formed. -/
lemma wellFormed_message {O : OpenSSL Cert} (hO : O.Lawful) {data : ByteString} {cert : Cert}
    {chain : List ByteString} (hchain : ∀ der ∈ chain, ∃ d, der = O.i2d_X509 d) {flags : CK_FLAGS}
    {attributes : List Attribute} {signature : ByteString} (hattrs : ∀ a ∈ attributes, a.WellFormed)
    (hsorted : (attributes.map Attribute.encode).Pairwise NotAfter) :
    (O.message data cert chain flags attributes signature).WellFormed where
  contentType := ⟨1, 2, _, by decide, by decide, rfl⟩
  digestAlgorithms a ha := by
    rw [OpenSSL.message, List.mem_singleton] at ha
    rw [ha]
    exact ⟨isObject_gostDigest _, fun p hp => (by cases hp)⟩
  sortedAlgorithms := by simp [OpenSSL.message]
  eContentType := ⟨1, 2, _, by decide, by decide, rfl⟩
  certificates b hb := by
    rw [OpenSSL.message, sort, (List.perm_insertionSort _ _).mem_iff, List.mem_append,
      List.mem_singleton] at hb
    rcases hb with hb | rfl
    · obtain ⟨d, rfl⟩ := hchain b hb
      exact hO.certificate d
    · exact hO.certificate cert
  sortedCertificates := sort_sorted _
  signerInfos s hs := by
    rw [OpenSSL.message, List.mem_singleton] at hs
    rw [hs]
    exact wellFormed_signerInfo hO hattrs hsorted
  sortedSigners := by simp [OpenSSL.message]

/-! ### The check of the message -/

section check

variable {O : OpenSSL Cert} {T : GostToken} {hash : ℕ → ByteString → ByteString}
  {Matches : CK_OBJECT_HANDLE → GostPublicKey → Prop}

lemma GostToken.Correct.tokenDigest (hT : T.Correct hash Matches) {bits : ℕ} (hbits : GostSize bits)
    (data : ByteString) : T.tokenDigest bits data = .ok (hash bits data) := by
  rw [GostToken.tokenDigest, hT.digest bits data hbits]
  exact if_pos (hT.length_hash bits data hbits)

lemma GostToken.Correct.length_hash_le (hT : T.Correct hash Matches) {bits : ℕ} (hbits : GostSize bits)
    (data : ByteString) : (hash bits data).length ≤ 64 := by
  rw [hT.length_hash bits data hbits]
  rcases hbits with rfl | rfl
  · decide
  · decide

/-- The only one that fits is found. -/
lemma find?_eq_some_of_unique {α : Type} {l : List α} {p : α → Bool} {a : α} (hmem : a ∈ l)
    (ha : p a = true) (hall : ∀ b ∈ l, p b = true → b = a) : l.find? p = some a := by
  cases hfind : l.find? p with
  | none => exact absurd ha (List.find?_eq_none.1 hfind a hmem)
  | some b => rw [hall b (List.mem_of_find?_eq_some hfind) (List.find?_some hfind)]

lemma sameSigner_self (hO : O.Lawful) (c : Cert) : O.sameSigner c c = true := by
  simp [OpenSSL.sameSigner, hO.sameName c]

/-- The certificates of the message are those that were given, and the signer's. -/
lemma mem_get1_certs (hO : O.Lawful) {data signature : ByteString} {cert c : Cert}
    {chain : List ByteString} {flags : CK_FLAGS} {attributes : List Attribute} :
    c ∈ O.CMS_get1_certs (O.message data cert chain flags attributes signature) ↔
      c = cert ∨ ∃ der ∈ chain, O.decodeCertificate der = some c := by
  rw [OpenSSL.CMS_get1_certs, OpenSSL.message, List.mem_filterMap]
  simp only [sort, (List.perm_insertionSort _ _).mem_iff, List.mem_append, List.mem_singleton]
  constructor
  · rintro ⟨der, hder | rfl, hc⟩
    · exact .inr ⟨der, hder, hc⟩
    · exact .inl (Option.some.inj (hc.symm.trans (hO.decodeCertificate cert)))
  · rintro (rfl | ⟨der, hder, hc⟩)
    · exact ⟨_, .inr rfl, hO.decodeCertificate c⟩
    · exact ⟨der, .inl hder, hc⟩

/-- **The signer** is found. -/
lemma locate_message (hO : O.Lawful) {state : VerifyState} {data signature : ByteString}
    {cert : Cert} (hstate : state.SignatureOnly O cert) {chain : List ByteString}
    (hchain : ∀ der ∈ chain, ∃ d, der = O.i2d_X509 d ∧ O.sameSigner cert d = false)
    {flags : CK_FLAGS} {attributes : List Attribute} :
    O.locate (O.message data cert chain flags attributes signature)
      (state.certificates.filterMap O.decodeCertificate) state.flags
      (O.signerInfo cert attributes signature) = some cert := by
  have hcmp : O.CMS_SignerInfo_cert_cmp (O.signerInfo cert attributes signature) =
      O.sameSigner cert := rfl
  rw [OpenSSL.locate, hcmp]
  by_cases hused : state.flags &&& CKF_VENDOR_DO_NOT_USE_INTERNAL_CMS_CERTS = 0
  · rw [usedInternal, if_pos hused, Option.getD_some, find?_eq_some_of_unique (a := cert)]
    · rfl
    · exact (mem_get1_certs hO).2 (.inl rfl)
    · exact sameSigner_self hO cert
    · intro c hc hsame
      rcases (mem_get1_certs hO).1 hc with rfl | ⟨der, hder, hdec⟩
      · rfl
      · obtain ⟨d, rfl, hd⟩ := hchain der hder
        rw [hO.decodeCertificate, Option.some_inj] at hdec
        rw [← hdec, hd] at hsame
        cases hsame
  · rw [usedInternal, if_neg hused, List.find?_nil, Option.none_or]
    exact hstate.signer.resolve_left hused

/-- The attribute of a type, of which there is one. -/
lemma get0_data_eq {info : SignerInfo} {plain : List Attribute} {value : ByteString} {type : List ℕ}
    (hattrs : info.signedAttrs.Perm plain)
    (h : plain.filter (fun a => a.type = oid type) = [⟨oid type, [value]⟩]) :
    info.CMS_signed_get0_data_by_OBJ type = some value := by
  have hperm := hattrs.filter fun a => a.type = oid type
  rw [h] at hperm
  rw [SignerInfo.CMS_signed_get0_data_by_OBJ, List.perm_singleton.1 hperm]

lemma names_ne : oid NID_pkcs9_contentType ≠ oid NID_pkcs9_messageDigest ∧
    oid NID_pkcs9_signingTime ≠ oid NID_pkcs9_messageDigest ∧
    oid NID_SMIMECapabilities ≠ oid NID_pkcs9_messageDigest ∧
    oid NID_pkcs9_signingTime ≠ oid NID_pkcs9_contentType ∧
    oid NID_SMIMECapabilities ≠ oid NID_pkcs9_contentType := by
  decide +kernel

/-- **What was signed** is found again just for contents of the digest. -/
lemma signedInput_message (hT : T.Correct hash Matches) {bits : ℕ} (hbits : GostSize bits)
    {info : SignerInfo} {data content signingTime : ByteString} (htime : signingTime.length < 80)
    (hattrs : info.signedAttrs = attributesOf (hash bits data) signingTime) :
    OpenSSL.signedInput T bits content info =
      if hash bits data = hash bits content then
        .ok (tagged 0x31 (signedAttributes (hash bits data) signingTime))
      else .error CKR_SIGNATURE_INVALID := by
  obtain ⟨h1, h2, h3, h4, h5⟩ := names_ne
  have hlen := hT.length_hash_le hbits data
  have hoctets : Der.contentOf 0x04 (Der.encode 0x04 (hash bits data)) = some (hash bits data) :=
    Der.contentOf_encode (by omega)
  have hperm := perm_attributesOf (hash bits data) signingTime
  have hnone := attributesOf_ne_nil (hash bits data) signingTime
  have hsorted := sort_eq (sorted_attributesOf (hash bits data) signingTime)
  rw [← hattrs] at hperm hnone hsorted
  have hdigest := @get0_data_eq _ _ (Der.encode 0x04 (hash bits data)) NID_pkcs9_messageDigest
      hperm (by simp [plainAttributes, h1, h2, h3])
  have hcontentType := @get0_data_eq _ _ (oid NID_pkcs7_data) NID_pkcs9_contentType hperm
      (by simp [plainAttributes, h1.symm, h4, h5])
  rw [OpenSSL.signedInput, if_neg hnone, hdigest, hcontentType, Option.bind_some, hoctets,
    hT.tokenDigest hbits content, signedAttributes_eq hlen htime, hsorted, hattrs]
  by_cases hsame : hash bits data = hash bits content
  · simp [hsame, bind, Except.bind, pure, Except.pure]
  · simp [hsame, bind, Except.bind, throw, throwThe, MonadExceptOf.throw]

lemma gostSize_of_ne_zero {cert : Cert} (h : O.gostBits cert ≠ 0) : GostSize (O.gostBits cert) := by
  revert h
  rw [OpenSSL.gostBits]
  cases O.publicKey cert with
  | none => simp
  | some info =>
    dsimp only
    split_ifs
    · exact fun _ => .inl rfl
    · exact fun _ => .inr rfl
    · simp

/-- **A signature of the token** is accepted if the keys match. -/
lemma verifyGostSignature_iff (hT : T.Correct hash Matches) {cert : Cert}
    {data signature : ByteString} {publicKey : GostPublicKey} {key : CK_OBJECT_HANDLE} (hbits : GostSize (O.gostBits cert))
    (hpublic : O.gostPublicObject T cert (O.gostBits cert) = .ok publicKey)
    (hlen : signature.length = O.gostBits cert / 4) (hdata : data.length ≤ maxData)
    (hsign : T.C_Sign key (O.gostBits cert) (hash (O.gostBits cert) data) = .ok signature) :
    O.verifyGostSignature T cert data signature = CKR_OK ↔ Matches key publicKey := by
  have hne : O.gostBits cert ≠ 0 := by
    rcases hbits with h | h <;> omega
  have hno : ¬ (O.gostBits cert = 0 ∨ signature.length ≠ O.gostBits cert / 4 ∨
      maxData < data.length) := by
    rintro (h | h | h)
    · exact hne h
    · exact h hlen
    · omega
  rw [← hT.verify key publicKey _ _ _ hbits hsign, OpenSSL.verifyGostSignature]
  dsimp only
  rw [if_neg hno, hT.tokenDigest hbits, hpublic]
  dsimp only
  split_ifs with hrv
  · exact Iff.rfl
  · exact iff_of_true (hT.destroy publicKey) (not_not.1 hrv)

lemma isGostCms_message {data signature : ByteString} {cert : Cert} {chain : List ByteString}
    {flags : CK_FLAGS} {attributes : List Attribute} (hbits : GostSize (O.gostBits cert)) :
    (O.message data cert chain flags attributes signature).isGostCms = true := by
  rw [ContentInfo.isGostCms, OpenSSL.message]
  dsimp only [OpenSSL.signerInfo]
  rcases hbits with h | h <;> rw [h] <;> simp

lemma is_detached_message {data signature : ByteString} {cert : Cert} {chain : List ByteString}
    {flags : CK_FLAGS} {attributes : List Attribute} :
    (O.message data cert chain flags attributes signature).CMS_is_detached =
      decide (flags &&& PKCS7_DETACHED_SIGNATURE ≠ 0) := by
  rw [ContentInfo.CMS_is_detached, OpenSSL.message]
  by_cases h : flags &&& PKCS7_DETACHED_SIGNATURE = 0
  · simp [h]
  · simp [h]

/-- The content is the one that is given, or the one in the message. -/
lemma contentOf_message {data signature : ByteString} (hdata : data.length ≤ maxData) {cert : Cert}
    {chain : List ByteString} {flags : CK_FLAGS} {attributes : List Attribute}
    {state : VerifyState} {detached : Bool}
    (hmode : detached = true ↔ flags &&& PKCS7_DETACHED_SIGNATURE ≠ 0) :
    OpenSSL.contentOf (O.message data cert chain flags attributes signature) state detached =
      .ok (if detached then state.data else data) := by
  rw [OpenSSL.contentOf]
  cases detached with
  | true => rfl
  | false =>
    have hattached : flags &&& PKCS7_DETACHED_SIGNATURE = 0 := by
      by_contra h
      exact Bool.false_ne_true (hmode.2 h)
    simp [OpenSSL.message, hattached, hdata, pure, Except.pure]

variable [DecidableEq Cert]

/-- **The check of the message** is that of the digest and of the key. -/
lemma verifyGostCms_message (hO : O.Lawful) (hT : T.Correct hash Matches) {state : VerifyState}
    {cert : Cert} (hstate : state.SignatureOnly O cert) {data signature : ByteString}
    (hdata : data.length ≤ maxData) {chain : List ByteString}
    (hchain : ∀ der ∈ chain, ∃ d, der = O.i2d_X509 d ∧ O.sameSigner cert d = false)
    {flags : CK_FLAGS} {signingTime : ByteString} (htime : signingTime.length < 80)
    {publicKey : GostPublicKey} {key : CK_OBJECT_HANDLE} (hbits : GostSize (O.gostBits cert))
    (hpublic : O.gostPublicObject T cert (O.gostBits cert) = .ok publicKey)
    (hlen : signature.length = O.gostBits cert / 4)
    (hsign : T.C_Sign key (O.gostBits cert) (hash (O.gostBits cert)
      (tagged 0x31 (signedAttributes (hash (O.gostBits cert) data) signingTime))) = .ok signature)
    (hdecode : O.decodeCms state.cms = some (O.message data cert chain flags
      (attributesOf (hash (O.gostBits cert) data) signingTime) signature))
    (detached wanted : Bool) (v : Verified) :
    O.verifyGostCms T state detached wanted = .ok v ↔
      (detached = true ↔ flags &&& PKCS7_DETACHED_SIGNATURE ≠ 0) ∧
      hash (O.gostBits cert) (if detached then state.data else data) =
        hash (O.gostBits cert) data ∧ Matches key publicKey ∧
      v = ⟨if wanted then some (if detached then state.data else data) else none, []⟩ := by
  have hcerts := mapM_of_decodes (X := O.toX509) hstate.certificates
  have hne : O.gostBits cert ≠ 0 := by
    rcases hbits with h | h <;> omega
  have hsigned := length_signedAttributes_le (hT.length_hash_le hbits data) htime
  have hinput : (tagged 0x31
      (signedAttributes (hash (O.gostBits cert) data) signingTime)).length ≤ maxData := by
    refine (length_tagged_le (by omega)).trans ?_
    rw [maxData]
    omega
  have hiff := verifyGostSignature_iff hT hbits hpublic hlen hinput hsign
  rw [OpenSSL.verifyGostCms, hdecode]
  dsimp only
  rw [isGostCms_message hbits, is_detached_message, hcerts]
  simp only [bind, Except.bind, pure, Except.pure, throw, throwThe, MonadExceptOf.throw,
    Bool.not_true, Bool.false_eq_true, if_false]
  by_cases hmode : detached = true ↔ flags &&& PKCS7_DETACHED_SIGNATURE ≠ 0
  · have hdecide : decide (flags &&& PKCS7_DETACHED_SIGNATURE ≠ 0) = detached := by
      rw [← decide_eq_decide.2 hmode, Bool.decide_coe]
    have hcrl : ¬ (state.crlMode ≠ OPTIONAL_CRL_CHECK ∨ state.crls ≠ []) := by
      rw [hstate.crlMode, hstate.crls]
      simp
    rw [if_neg (not_not.2 hdecide), OpenSSL.message_eContentType, if_neg (not_not.2 rfl),
      if_neg hcrl, contentOf_message hdata hmode, OpenSSL.message_signerInfos]
    dsimp only
    rw [locate_message hO hstate hchain]
    dsimp only
    rw [if_neg hne, if_neg (by simp [OpenSSL.signerInfo]),
      signedInput_message hT hbits htime (OpenSSL.signerInfo_signedAttrs ..)]
    by_cases hsame : hash (O.gostBits cert) data =
        hash (O.gostBits cert) (if detached then state.data else data)
    · rw [if_pos hsame]
      dsimp only
      rw [OpenSSL.signerInfo_signature, if_neg (not_not.2 hlen)]
      by_cases hmatch : Matches key publicKey
      · rw [if_neg (not_not.2 (hiff.2 hmatch)), if_neg hstate.flags, Except.ok.injEq]
        exact ⟨fun h => ⟨hmode, hsame.symm, hmatch, h.symm⟩, fun h => h.2.2.2.symm⟩
      · rw [if_pos fun h => hmatch (hiff.1 h)]
        exact ⟨fun h => (by cases h), fun h => absurd h.2.2.1 hmatch⟩
    · rw [if_neg hsame]
      exact ⟨fun h => (by cases h), fun h => absurd h.2.1.symm hsame⟩
  · rw [if_pos]
    · exact ⟨fun h => (by cases h), fun h => absurd h.1 hmode⟩
    · rintro rfl
      exact hmode (by simp)

omit [DecidableEq Cert] in
/-- **What is signed**, and what comes out. -/
lemma signGostCms_ok (hT : T.Correct hash Matches) {data envelope : ByteString} {cert : Cert}
    {key : CK_OBJECT_HANDLE} {chain : List ByteString} {flags : CK_FLAGS}
    (h : O.signGostCms T data cert key chain flags = .ok envelope) :
    GostSize (O.gostBits cert) ∧ O.utcTimeNow ≠ [] ∧ ∃ signature,
      T.C_Sign key (O.gostBits cert) (hash (O.gostBits cert) (tagged 0x31
        (signedAttributes (hash (O.gostBits cert) data) O.utcTimeNow))) = .ok signature ∧
      signature.length = O.gostBits cert / 4 ∧
      envelope = O.envelope data cert chain flags
        (signedAttributes (hash (O.gostBits cert) data) O.utcTimeNow) signature ∧
      envelope.length ≤ maxCms := by
  rw [OpenSSL.signGostCms] at h
  simp only [bind, Except.bind, pure, Except.pure, throw, throwThe, MonadExceptOf.throw] at h
  split at h
  · cases h
  rename_i hne
  have hbits := gostSize_of_ne_zero hne
  rw [hT.tokenDigest hbits] at h
  dsimp only at h
  split at h
  · cases h
  rename_i htime
  refine ⟨hbits, htime, ?_⟩
  rw [GostToken.gostSign] at h
  simp only [bind, Except.bind, pure, Except.pure, throw, throwThe, MonadExceptOf.throw,
    hT.tokenDigest hbits] at h
  cases hsign : T.C_Sign key (O.gostBits cert) (hash (O.gostBits cert) (tagged 0x31
      (signedAttributes (hash (O.gostBits cert) data) O.utcTimeNow))) with
  | error rv =>
    rw [hsign] at h
    cases h
  | ok signature =>
    rw [hsign] at h
    dsimp only at h
    split_ifs at h with hlen hnames hcert
    dsimp only at h
    split_ifs at h with hmax
    obtain rfl := Except.ok.inj h
    exact ⟨signature, rfl, hlen, rfl, hmax⟩

omit [DecidableEq Cert] in
/-- **What comes out** is the message. -/
lemma decodeCms_envelope (hO : O.Lawful) {data contentDigest signature : ByteString} {cert : Cert}
    {chain : List ByteString} (hchain : ∀ der ∈ chain, ∃ d, der = O.i2d_X509 d) {flags : CK_FLAGS}
    (htime : O.utcTimeNow ≠ []) (hdigest : contentDigest.length ≤ 64)
    (hmax : (O.envelope data cert chain flags (signedAttributes contentDigest O.utcTimeNow)
      signature).length ≤ maxCms) :
    O.decodeCms (O.envelope data cert chain flags (signedAttributes contentDigest O.utcTimeNow)
        signature) =
      some (O.message data cert chain flags (attributesOf contentDigest O.utcTimeNow)
        signature) := by
  obtain ⟨digits, hdigits, heq⟩ := hO.utcTimeNow htime
  have hshort := length_utcTime hdigits
  rw [heq] at hmax ⊢
  rw [signedAttributes_eq hdigest hshort] at hmax ⊢
  have hne := attributesOf_ne_nil contentDigest (Der.encode 0x17 digits)
  have henvelope := O.envelope_eq hne (hmax.trans_lt (by rw [maxCms]; omega))
  rw [henvelope] at hmax ⊢
  have hattrs : ∀ a ∈ attributesOf contentDigest (Der.encode 0x17 digits), a.WellFormed :=
    fun a ha => wellFormed_of_mem hdigits ha
  rw [OpenSSL.decodeCms, hO.decodeMessage _
    (wellFormed_message hO hchain hattrs (sorted_attributesOf _ _)) hmax]
  · exact if_pos rfl
  · intro b hb
    rw [OpenSSL.message_certificates, sort, (List.perm_insertionSort _ _).mem_iff, List.mem_append,
      List.mem_singleton] at hb
    rcases hb with hb | rfl
    · exact hchain b hb
    · exact ⟨cert, rfl⟩
  · intro s hs
    rw [OpenSSL.message_signerInfos, List.mem_singleton] at hs
    exact ⟨cert, by rw [hs]; exact ⟨rfl, rfl⟩⟩
  · rfl

omit [DecidableEq Cert] in
/-- **An envelope comes out** where the token signs and nothing is too long. -/
lemma exists_envelope (hO : O.Lawful) (hT : T.Correct hash Matches) {data : ByteString}
    {cert : Cert} (hbits : GostSize (O.gostBits cert)) (htime : O.utcTimeNow ≠ [])
    {key : CK_OBJECT_HANDLE} (hsigns : ∀ digest, digest.length = O.gostBits cert / 8 →
      ∃ signature, T.C_Sign key (O.gostBits cert) digest = .ok signature ∧
        signature.length = O.gostBits cert / 4) {chain : List ByteString} {flags : CK_FLAGS}
    (hlen : data.length + chain.flatten.length + (O.i2d_X509 cert).length +
      (O.issuerName cert).length + (O.serialNumber cert).length + 1000 ≤ maxCms) :
    ∃ envelope, O.signGostCms T data cert key chain flags = .ok envelope := by
  obtain ⟨digits, hdigits, heq⟩ := hO.utcTimeNow htime
  have hshort := length_utcTime hdigits
  rw [← heq] at hshort
  have hattrs := length_signedAttributes_le (hT.length_hash_le hbits data) hshort
  obtain ⟨signature, hsign, hsignature⟩ := hsigns _ (hT.length_hash _ (tagged 0x31
    (signedAttributes (hash (O.gostBits cert) data) O.utcTimeNow)) hbits)
  have hsize : signature.length ≤ 128 := by
    rw [hsignature]
    rcases hbits with h | h
    · omega
    · omega
  have hne : O.gostBits cert ≠ 0 := by
    rcases hbits with h | h
    · omega
    · omega
  have hitem : ∀ {tag : UInt8} {b : ByteString}, IsEncoded tag b → b ≠ [] := by
    rintro tag b ⟨content, rfl⟩
    simp [Der.encode]
  have hnames : ¬ (O.issuerName cert = [] ∨ O.serialNumber cert = []) := by
    rintro (h | h)
    · exact hitem (hO.issuerName cert) h
    · exact hitem (hO.serialNumber cert) h
  have hmax := @length_envelope_le _ O data cert chain flags
      (signedAttributes (hash (O.gostBits cert) data) O.utcTimeNow) signature (by omega)
  refine ⟨O.envelope data cert chain flags
    (signedAttributes (hash (O.gostBits cert) data) O.utcTimeNow) signature, ?_⟩
  rw [OpenSSL.signGostCms]
  simp only [bind, Except.bind, pure, Except.pure, throw, throwThe, MonadExceptOf.throw,
    GostToken.gostSign, hT.tokenDigest hbits, hsign]
  rw [if_neg hne, if_neg htime, if_pos hsignature]
  dsimp only
  rw [if_neg hnames, if_neg (hitem (hO.certificate cert)), if_pos (by omega)]

end check

/-! ### A small token -/

/-- The name of a curve. -/
def byteCurve : ByteString := oid [1, 2, 643, 2, 2, 35, 1]

/-- A library of certificates that are one byte: the serial number, and the bytes of the point. -/
def byteLibrary : OpenSSL UInt8 where
  decodeCertificate der :=
    match contentOf 0x30 der with
    | some [c] => some c
    | _ => none
  inValidity _ := true
  namesIssuer _ _ := true
  check_ca _ := true
  verifyGostCertificate _ _ := true
  i2d_X509 c := Der.encode 0x30 [c]
  issuerName _ := Der.encode 0x30 []
  serialNumber c := Der.encode 0x02 [c]
  publicKey c := some ⟨oid (gostKey 256), Der.encode 0x04 (List.replicate 64 c),
    some (Der.encode 0x30 byteCurve)⟩
  X509_NAME_cmp m n := m = n
  d2i_ASN1_OCTET_STRING b := (contentOf 0x04 b).map (·, [])
  d2i_ASN1_SEQUENCE_ANY b := ((contentOf 0x30 b).bind items).map (·, [])
  d2i_CMS_ContentInfo b := (ContentInfo.decode b).map (·, [])
  utcTimeNow := Der.encode 0x17 (List.replicate 12 0x30 ++ [0x5a])

/-- A token that signs with a byte behind the digest. -/
def byteToken (hash : ℕ → ByteString → ByteString) : GostToken where
  C_Digest bits data := .ok (hash bits data)
  C_Sign key bits digest := .ok (digest ++ List.replicate (bits / 8) (UInt8.ofNat key))
  C_CreateObject _ := CKR_OK
  C_Verify publicKey bits digest signature :=
    if signature = digest ++ List.replicate (bits / 8) (publicKey.value.headD 0) then CKR_OK
    else CKR_SIGNATURE_INVALID
  C_DestroyObject _ := CKR_OK

/-- The byte is the same. -/
def ByteMatches (key : CK_OBJECT_HANDLE) (publicKey : GostPublicKey) : Prop :=
  publicKey.value.headD 0 = UInt8.ofNat key

lemma lawful_byteLibrary : byteLibrary.Lawful where
  certificate c := ⟨_, rfl⟩
  decodeCertificate c := by
    show (match contentOf 0x30 (Der.encode 0x30 [c]) with | some [c] => some c | _ => none) = some c
    rw [contentOf_encode (by simp)]
  issuerName c := ⟨_, rfl⟩
  serialNumber c := ⟨_, rfl⟩
  sameName c := by simp [byteLibrary]
  utcTimeNow _ := ⟨_, by simp, rfl⟩
  decodeMessage cms hwf hlen _ _ _ := by
    have hback := ContentInfo.decode_encode hwf (hlen.trans_lt (by rw [maxCms]; omega))
    show (ContentInfo.decode cms.encode).map (·, []) = some (cms, [])
    rw [hback]
    rfl

lemma correct_byteToken {hash : ℕ → ByteString → ByteString}
    (h : ∀ bits data, GostSize bits → (hash bits data).length = bits / 8) :
    (byteToken hash).Correct hash ByteMatches where
  digest _ _ _ := rfl
  length_hash := h
  verify key publicKey bits digest signature hbits hsign := by
    have hpos : bits / 8 ≠ 0 := by
      rcases hbits with rfl | rfl
      · decide
      · decide
    obtain rfl := Except.ok.inj hsign
    have hsame : digest ++ List.replicate (bits / 8) (UInt8.ofNat key) =
        digest ++ List.replicate (bits / 8) (publicKey.value.headD 0) ↔
          ByteMatches key publicKey := by
      rw [List.append_cancel_left_eq, List.replicate_right_inj hpos, ByteMatches, eq_comm]
    show (if digest ++ List.replicate (bits / 8) (UInt8.ofNat key) =
      digest ++ List.replicate (bits / 8) (publicKey.value.headD 0) then CKR_OK
        else CKR_SIGNATURE_INVALID) = CKR_OK ↔ _
    split_ifs with heq
    · exact iff_of_true rfl (hsame.1 heq)
    · exact iff_of_false (by simp) fun h => heq (hsame.2 h)
  destroy _ := rfl

lemma gostBits_byteLibrary (c : UInt8) : byteLibrary.gostBits c = 256 := by
  show (if oid (gostKey 256) = oid (gostKey 256) then 256
    else if oid (gostKey 256) = oid (gostKey 512) then 512 else 0) = 256
  exact if_pos rfl

lemma exists_envelope_byteToken {hash : ℕ → ByteString → ByteString}
    (h : ∀ bits data, GostSize bits → (hash bits data).length = bits / 8) {data : ByteString}
    (hdata : data.length ≤ 1000) (cert : UInt8) (key : CK_OBJECT_HANDLE) {chain : List ByteString}
    (hchain : chain.flatten.length ≤ 1000) (flags : CK_FLAGS) :
    ∃ envelope, byteLibrary.signGostCms (byteToken hash) data cert key chain flags =
      .ok envelope := by
  refine exists_envelope lawful_byteLibrary (correct_byteToken h) ?_ ?_ ?_ ?_
  · exact .inl (gostBits_byteLibrary cert)
  · simp [byteLibrary, Der.encode]
  · intro digest hdigest
    rw [gostBits_byteLibrary] at hdigest ⊢
    exact ⟨_, rfl, by simp [hdigest]⟩
  · have hitem : (byteLibrary.i2d_X509 cert).length = 3 ∧ (byteLibrary.issuerName cert).length = 2 ∧
        (byteLibrary.serialNumber cert).length = 3 := ⟨rfl, rfl, rfl⟩
    rw [maxCms]
    omega


lemma gostPublicObject_byteLibrary (hash : ℕ → ByteString → ByteString) (c : UInt8) :
    ∃ publicKey, byteLibrary.gostPublicObject (byteToken hash) c (byteLibrary.gostBits c) =
      .ok publicKey ∧ ByteMatches c.toNat publicKey := by
  have hpoint : byteLibrary.d2i_ASN1_OCTET_STRING (Der.encode 0x04 (List.replicate 64 c)) =
      some (List.replicate 64 c, []) := by
    show (contentOf 0x04 (Der.encode 0x04 (List.replicate 64 c))).map (fun b => (b, [])) = _
    rw [contentOf_encode (by simp), Option.map_some]
  have hparameters : byteLibrary.d2i_ASN1_SEQUENCE_ANY (Der.encode 0x30 byteCurve) =
      some ([byteCurve], []) := by
    show ((contentOf 0x30 (Der.encode 0x30 byteCurve)).bind items).map (fun l => (l, [])) = _
    have hcurve : items [byteCurve].flatten = some [byteCurve] :=
      items_flatten (by simpa [IsSome] using ⟨0x06, _, rfl⟩) (by decide +kernel)
    rw [List.flatten_cons, List.flatten_nil, List.append_nil] at hcurve
    rw [contentOf_encode (by decide +kernel), Option.bind_some, hcurve, Option.map_some]
  refine ⟨⟨256, List.replicate 64 c, byteCurve, oid (gostDigest 256)⟩, ?_, by
    simp [ByteMatches, List.replicate_succ]⟩
  have hpublic : byteLibrary.publicKey c = some ⟨oid (gostKey 256),
    Der.encode 0x04 (List.replicate 64 c), some (Der.encode 0x30 byteCurve)⟩ := rfl
  rw [gostBits_byteLibrary, OpenSSL.gostPublicObject, hpublic]
  dsimp only
  rw [if_neg (by simp [Der.encode]), hpoint]
  dsimp only
  rw [if_neg (by simp), Option.bind_some, hparameters]
  rfl

lemma signatureOnly_byteLibrary (cert : UInt8) (cms data : ByteString) :
    VerifyState.SignatureOnly byteLibrary cert
      ⟨cms, data, [], [], [], 0, CKF_VENDOR_CHECK_SIGNATURE_ONLY, true⟩ where
  flags := (by decide : CKF_VENDOR_CHECK_SIGNATURE_ONLY &&& CKF_VENDOR_CHECK_SIGNATURE_ONLY ≠ 0)
  crlMode := rfl
  crls := rfl
  certificates _ hder := (by cases hder)
  signer := .inl (by decide :
    CKF_VENDOR_CHECK_SIGNATURE_ONLY &&& CKF_VENDOR_DO_NOT_USE_INTERNAL_CMS_CERTS = 0)

/-- The first bytes, and zeros where there are none. -/
def firstBytes (bits : ℕ) (data : ByteString) : ByteString :=
  (data ++ List.replicate (bits / 8) 0).take (bits / 8)

lemma length_firstBytes (bits : ℕ) (data : ByteString) :
    (firstBytes bits data).length = bits / 8 := by
  simp [firstBytes]

/-! ### Which contents are accepted -/

/-- **Envelopes are accepted** with the contents of the digest, if the key is the certificate's, and
in the mode in which they were made; what is in the envelope is given back. -/
theorem verifyGostCms_iff [DecidableEq Cert] {O : OpenSSL Cert} {T : GostToken}
    {hash : ℕ → ByteString → ByteString} {Matches : CK_OBJECT_HANDLE → GostPublicKey → Prop}
    (hO : O.Lawful) (hT : T.Correct hash Matches) {data : ByteString}
    (hdata : data.length ≤ maxData) {cert : Cert} {publicKey : GostPublicKey}
    (hpublic : O.gostPublicObject T cert (O.gostBits cert) = .ok publicKey)
    {key : CK_OBJECT_HANDLE} {chain : List ByteString}
    (hchain : ∀ der ∈ chain, ∃ d, der = O.i2d_X509 d ∧ O.sameSigner cert d = false)
    {flags : CK_FLAGS} {envelope : ByteString}
    (hsign : O.signGostCms T data cert key chain flags = .ok envelope) {state : VerifyState}
    (hstate : state.SignatureOnly O cert) (hcms : state.cms = envelope) (detached wanted : Bool)
    (v : Verified) :
    O.verifyGostCms T state detached wanted = .ok v ↔
      (detached = true ↔ flags &&& PKCS7_DETACHED_SIGNATURE ≠ 0) ∧
      hash (O.gostBits cert) (if detached then state.data else data) =
        hash (O.gostBits cert) data ∧ Matches key publicKey ∧
      v = ⟨if wanted then some (if detached then state.data else data) else none, []⟩ := by
  obtain ⟨hbits, htime, signature, hsigned, hlen, henvelope, hmax⟩ := signGostCms_ok hT hsign
  rw [henvelope] at hmax
  obtain ⟨digits, hdigits, heq⟩ := hO.utcTimeNow htime
  have hdecode := decodeCms_envelope hO
    (fun der hder => (hchain der hder).imp fun d hd => hd.1) htime (hT.length_hash_le hbits data)
    hmax
  rw [← henvelope, ← hcms] at hdecode
  have hshort : O.utcTimeNow.length < 80 := by
    rw [heq]
    exact length_utcTime hdigits
  exact verifyGostCms_message hO hT hstate hdata hchain hshort hbits hpublic hlen hsigned hdecode
    detached wanted v

/-- Three bytes in an envelope with the certificate of an issuer. -/
theorem verifyGostCms_three_bytes : ∃ envelope,
    byteLibrary.signGostCms (byteToken firstBytes) [1, 2, 3] 7 7 [Der.encode 0x30 [9]] 0 =
        .ok envelope ∧
      byteLibrary.verifyGostCms (byteToken firstBytes)
        ⟨envelope, [], [], [], [], 0, CKF_VENDOR_CHECK_SIGNATURE_ONLY, true⟩ false true =
          .ok ⟨some [1, 2, 3], []⟩ := by
  obtain ⟨envelope, hsign⟩ := @exists_envelope_byteToken _
      (fun bits data _ => length_firstBytes bits data) [1, 2, 3] (by decide) 7 7
      [Der.encode 0x30 [9]] (by decide) 0
  obtain ⟨publicKey, hpublic, hmatch⟩ := gostPublicObject_byteLibrary firstBytes 7
  refine ⟨envelope, hsign, (verifyGostCms_iff lawful_byteLibrary
    (correct_byteToken fun bits data _ => length_firstBytes bits data) (by decide) hpublic ?_ hsign
    (signatureOnly_byteLibrary 7 envelope []) rfl false true _).2
      ⟨by decide, rfl, hmatch, rfl⟩⟩
  intro der hder
  rw [List.mem_singleton.1 hder]
  exact ⟨9, rfl, by decide⟩

/-- **No other content**, as it is wanted. -/
def OnlyContent (O : OpenSSL Cert) [DecidableEq Cert] (T : GostToken) (cert : Cert)
    (key : CK_OBJECT_HANDLE) : Prop :=
  ∀ data : ByteString, data.length ≤ maxData →
    ∀ envelope, O.signGostCms T data cert key [] PKCS7_DETACHED_SIGNATURE = .ok envelope →
      ∀ state : VerifyState, state.SignatureOnly O cert → state.cms = envelope →
        ∀ wanted v, O.verifyGostCms T state true wanted = .ok v → state.data = data

/-- Thirty-three bytes are too many for digests of thirty-two. -/
lemma exists_collision {hash : ByteString → ByteString} (h : ∀ data, (hash data).length = 32) :
    ∃ data data' : ByteString, data.length = 33 ∧ data' ≠ data ∧ hash data' = hash data := by
  let content (g : Fin 33 → Fin 256) : ByteString := List.ofFn fun i => UInt8.ofFin (g i)
  let digest (g : Fin 33 → Fin 256) (i : Fin 32) : Fin 256 := ((hash (content g)).getD i 0).toFin
  obtain ⟨g, g', hne, heq⟩ := Fintype.exists_ne_map_eq_of_card_lt digest (by simp)
  refine ⟨content g, content g', by simp [content], fun hsame => hne ?_, ?_⟩
  · funext i
    have hi := congrFun (List.ofFn_injective hsame) i
    exact (congrArg UInt8.toFin hi).symm
  · refine List.ext_getElem ((h _).trans (h _).symm) fun i hi hi' => ?_
    have hbyte := UInt8.toFin_inj.1 (congrFun heq ⟨i, by rwa [h] at hi'⟩)
    rw [List.getD_eq_getElem?_getD, List.getD_eq_getElem?_getD, List.getElem?_eq_getElem hi,
      List.getElem?_eq_getElem hi'] at hbyte
    exact hbyte.symm

/-- Whatever the digest is, there are contents that are accepted for another one. -/
theorem other_content_accepted : ¬ ∃ hash : ℕ → ByteString → ByteString,
    (∀ bits data, GostSize bits → (hash bits data).length = bits / 8) ∧
      OnlyContent byteLibrary (byteToken hash) 7 7 := by
  rintro ⟨hash, hlen, honly⟩
  obtain ⟨data, data', hdata, hne, hsame⟩ := exists_collision
    fun data => hlen 256 data (.inl rfl)
  have hshort : data.length ≤ maxData := by
    rw [hdata, maxData]
    omega
  obtain ⟨envelope, hsign⟩ := @exists_envelope_byteToken _ hlen data (by omega) 7 7 [] (by decide)
      PKCS7_DETACHED_SIGNATURE
  obtain ⟨publicKey, hpublic, hmatch⟩ := gostPublicObject_byteLibrary hash 7
  have hstate := signatureOnly_byteLibrary 7 envelope data'
  refine hne (honly data hshort envelope hsign _ hstate rfl false ⟨none, []⟩ ?_)
  refine (verifyGostCms_iff lawful_byteLibrary (correct_byteToken hlen) hshort hpublic
    (fun der hder => (by cases hder)) hsign hstate rfl true false ⟨none, []⟩).2
      ⟨by decide, ?_, hmatch, rfl⟩
  rw [gostBits_byteLibrary]
  exact hsame

end SoftHSM.RutokenCMS
