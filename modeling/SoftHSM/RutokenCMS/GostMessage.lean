import Mathlib.Tactic.Simps.Basic
import SoftHSM.RutokenCMS.GostCms

/-!
What the signer writes by hand is a message in its shortest form, with the attributes and the
certificates in order.
-/

namespace SoftHSM.RutokenCMS

open CK_RV Der

variable {Cert : Type}

/-! ### Items that are tagged -/

lemma length_le_tagged (tag : UInt8) (body : ByteString) :
    body.length ≤ (tagged tag body).length := by
  rw [tagged, taggedWith, List.length_append]
  omega

lemma tagged_eq {tag : UInt8} {body : ByteString} (h : (tagged tag body).length < 2 ^ 64) :
    tagged tag body = Der.encode tag body :=
  taggedWith_eq tag ((length_le_tagged tag body).trans_lt h)

lemma length_tagged_le {tag : UInt8} {body : ByteString} (h : body.length < 2 ^ 64) :
    (tagged tag body).length ≤ body.length + 10 := by
  have h8 := length_sizeBytes h
  rw [tagged, taggedWith, List.length_append]
  split
  · simp
    omega
  · simp
    omega

lemma length_tagged_of_lt {tag : UInt8} {body : ByteString} (h : body.length < 128) :
    (tagged tag body).length = body.length + 2 := by
  rw [tagged, taggedWith, List.length_append, if_pos h]
  simp
  omega

lemma length_lt_of_mem {parts : List ByteString} {part : ByteString} (hmem : part ∈ parts)
    (h : (joined parts).length < 2 ^ 64) : part.length < 2 ^ 64 :=
  (length_le_flatten hmem).trans_lt h

lemma length_lt_of_tagged {tag : UInt8} {body : ByteString}
    (h : (tagged tag body).length < 2 ^ 64) : body.length < 2 ^ 64 :=
  (length_le_tagged tag body).trans_lt h

/-! ### The message that is written -/

lemma oid_lengths : ∀ bits : ℕ,
    (oid (gostDigest bits)).length = 10 ∧ (oid (gostKey bits)).length = 10 := by
  intro bits
  rw [gostDigest, gostKey]
  split
  · decide +kernel
  · decide +kernel

/-- The attributes of a digest and of a time, before they are sorted. -/
def plainAttributes (contentDigest signingTime : ByteString) : List Attribute :=
  [⟨oid NID_pkcs9_contentType, [oid NID_pkcs7_data]⟩, ⟨oid NID_pkcs9_signingTime, [signingTime]⟩,
    ⟨oid NID_pkcs9_messageDigest, [Der.encode 0x04 contentDigest]⟩,
    ⟨oid NID_SMIMECapabilities, [Der.encode 0x30 (smimeCapabilities.drop 20)]⟩]

/-- The attributes of the message, which are sorted. -/
@[irreducible]
def attributesOf (contentDigest signingTime : ByteString) : List Attribute :=
  (plainAttributes contentDigest signingTime).insertionSort fun a b => NotAfter a.encode b.encode

/-- Sorted by their bytes. -/
lemma map_attributesOf (contentDigest signingTime : ByteString) :
    (attributesOf contentDigest signingTime).map Attribute.encode =
      sort ((plainAttributes contentDigest signingTime).map Attribute.encode) := by
  unfold attributesOf
  exact List.map_insertionSort _ NotAfter Attribute.encode _ fun _ _ _ _ => Iff.rfl

lemma smimeCapabilities_eq : smimeCapabilities = Attribute.encode
    ⟨oid NID_SMIMECapabilities, [Der.encode 0x30 (smimeCapabilities.drop 20)]⟩ := by
  decide +kernel

lemma signedAttribute_eq {type : List ℕ} {value : ByteString} (htype : (oid type).length < 64)
    (hvalue : value.length < 80) :
    signedAttribute type value = Attribute.encode ⟨oid type, [value]⟩ := by
  have hset : (tagged 0x31 value).length = value.length + 2 := length_tagged_of_lt (by omega)
  have hbody : (joined [oid type, tagged 0x31 value]).length < 2 ^ 64 := by
    simp only [joined, List.flatten_cons, List.flatten_nil, List.append_nil, List.length_append]
    omega
  have hinner : tagged 0x31 value = Der.encode 0x31 value := taggedWith_eq 0x31 (by omega)
  have houter : tagged 0x30 (joined [oid type, tagged 0x31 value]) = _ := taggedWith_eq 0x30 hbody
  rw [signedAttribute, houter, hinner, Attribute.encode]
  simp [joined, sort]

/-- **The signed attributes** are those of the message. -/
lemma signedAttributes_eq {contentDigest signingTime : ByteString}
    (hdigest : contentDigest.length ≤ 64) (htime : signingTime.length < 80) :
    signedAttributes contentDigest signingTime =
      ((attributesOf contentDigest signingTime).map Attribute.encode).flatten := by
  have hnames : ∀ type ∈ [NID_pkcs9_contentType, NID_pkcs9_signingTime, NID_pkcs9_messageDigest],
      (oid type).length < 64 := by decide +kernel
  have hdata : (oid NID_pkcs7_data).length < 80 := by decide +kernel
  have htag : (tagged 0x04 contentDigest).length = contentDigest.length + 2 :=
    length_tagged_of_lt (by omega)
  have hoctets : tagged 0x04 contentDigest = Der.encode 0x04 contentDigest :=
    taggedWith_eq 0x04 (by omega)
  rw [map_attributesOf, signedAttributes, signedAttribute_eq (hnames _ (by simp)) hdata,
    signedAttribute_eq (hnames _ (by simp)) htime,
    signedAttribute_eq (hnames _ (by simp)) (by omega), hoctets, smimeCapabilities_eq]
  rfl

/-- The parameters of an algorithm that has none. -/
def null : ByteString := Der.encode 0x05 []

namespace OpenSSL

variable (O : OpenSSL Cert)

/-- The signer of the message. -/
@[simps]
def signerInfo (cert : Cert) (attributes : List Attribute) (signature : ByteString) :
    SignerInfo where
  issuer := O.issuerName cert
  serialNumber := O.serialNumber cert
  digestAlgorithm := ⟨oid (gostDigest (O.gostBits cert)), some null⟩
  signedAttrs := attributes
  signatureAlgorithm := ⟨oid (gostKey (O.gostBits cert)), some null⟩
  signature := signature

/-- The message that the envelope is. -/
@[simps]
def message (data : ByteString) (cert : Cert) (chain : List ByteString) (flags : CK_FLAGS)
    (attributes : List Attribute) (signature : ByteString) : ContentInfo where
  contentType := oid NID_pkcs7_signed
  digestAlgorithms := [⟨oid (gostDigest (O.gostBits cert)), none⟩]
  eContentType := oid NID_pkcs7_data
  eContent := if flags &&& PKCS7_DETACHED_SIGNATURE = 0 then some data else none
  certificates := sort (chain ++ [O.i2d_X509 cert])
  signerInfos := [O.signerInfo cert attributes signature]

variable {O} {data signature : ByteString} {cert : Cert} {chain : List ByteString}
  {flags : CK_FLAGS} {attributes : List Attribute}

lemma signer_eq (hne : attributes ≠ [])
    (hlen : (O.signer cert (attributes.map Attribute.encode).flatten signature).length < 2 ^ 64) :
    O.signer cert (attributes.map Attribute.encode).flatten signature =
      (O.signerInfo cert attributes signature).encode := by
  have hparts := length_lt_of_tagged hlen
  have hsid := tagged_eq (@length_lt_of_mem _
      (tagged 0x30 (joined [O.issuerName cert, O.serialNumber cert])) (by simp) hparts)
  have hattrs := tagged_eq (@length_lt_of_mem _
      (tagged 0xa0 (attributes.map Attribute.encode).flatten) (by simp) hparts)
  have hsignature := tagged_eq (@length_lt_of_mem _ (tagged 0x04 signature) (by simp) hparts)
  have hdigest := tagged_eq (@length_lt_of_mem _
      (tagged 0x30 (joined [oid (gostDigest (O.gostBits cert)), [0x05, 0x00]])) (by simp) hparts)
  have hkey := tagged_eq (@length_lt_of_mem _
      (tagged 0x30 (joined [oid (gostKey (O.gostBits cert)), [0x05, 0x00]])) (by simp) hparts)
  have hversion := tagged_eq (@length_lt_of_mem _ (tagged 0x02 [1]) (by simp) hparts)
  rw [signer] at hlen ⊢
  rw [tagged_eq hlen, hsid, hattrs, hsignature, hdigest, hkey, hversion]
  rw [SignerInfo.encode, SignerInfo.rows, signerInfo, if_neg hne]
  simp [joined, AlgorithmIdentifier.encode, null]
  rfl

/-- **The envelope** is the message. -/
lemma envelope_eq (hne : attributes ≠ [])
    (hlen : (O.envelope data cert chain flags (attributes.map Attribute.encode).flatten
      signature).length < 2 ^ 64) :
    O.envelope data cert chain flags (attributes.map Attribute.encode).flatten signature =
      (O.message data cert chain flags attributes signature).encode := by
  rw [envelope] at hlen ⊢
  have hwrapped := length_lt_of_mem
    (List.mem_cons_of_mem _ (List.mem_cons_self ..)) (length_lt_of_tagged hlen)
  rw [tagged_eq hlen, tagged_eq hwrapped]
  replace hwrapped := length_lt_of_tagged hwrapped
  rw [signedData] at hwrapped ⊢
  rw [tagged_eq hwrapped]
  have hparts := length_lt_of_tagged hwrapped
  have hset := @length_lt_of_mem _
      (tagged 0x31 (O.signer cert (attributes.map Attribute.encode).flatten signature)) (by simp)
      hparts
  have hcerts := tagged_eq (@length_lt_of_mem _
      (tagged 0xa0 (sort (chain ++ [O.i2d_X509 cert])).flatten) (by simp) hparts)
  have hversion := tagged_eq (@length_lt_of_mem _ (tagged 0x02 [1]) (by simp) hparts)
  have halgs := @length_lt_of_mem _
      (tagged 0x31 (tagged 0x30 (oid (gostDigest (O.gostBits cert))))) (by simp) hparts
  have hinfo := @length_lt_of_mem _
      (tagged 0x30 (joined [oid NID_pkcs7_data,
    if flags &&& PKCS7_DETACHED_SIGNATURE = 0 then tagged 0xa0 (tagged 0x04 data) else []]))
      (by simp) hparts
  rw [tagged_eq hset, signer_eq hne (length_lt_of_tagged hset), hcerts, hversion, tagged_eq halgs,
    tagged_eq (length_lt_of_tagged halgs), tagged_eq hinfo]
  have hcontent : (if flags &&& PKCS7_DETACHED_SIGNATURE = 0 then tagged 0xa0 (tagged 0x04 data)
      else []) = if flags &&& PKCS7_DETACHED_SIGNATURE = 0 then
        Der.encode 0xa0 (Der.encode 0x04 data) else [] := by
    split
    · rename_i hattached
      rw [if_pos hattached] at hinfo
      have hoctets := @length_lt_of_mem _ (tagged 0xa0 (tagged 0x04 data)) (by simp)
          (length_lt_of_tagged hinfo)
      rw [tagged_eq hoctets, tagged_eq (length_lt_of_tagged hoctets)]
    · rfl
  have hsome : (O.message data cert chain flags attributes signature).certificates ≠ [] := by
    simp [message, sort, ← List.length_pos_iff]
  rw [hcontent, ContentInfo.encode, ContentInfo.rows, if_neg hsome]
  by_cases hattached : flags &&& PKCS7_DETACHED_SIGNATURE = 0
  · simp [message, ContentInfo.encapsulated, hattached, joined, AlgorithmIdentifier.encode]
  · simp [message, ContentInfo.encapsulated, hattached, joined, AlgorithmIdentifier.encode]

end OpenSSL

lemma perm_attributesOf (contentDigest signingTime : ByteString) :
    (attributesOf contentDigest signingTime).Perm (plainAttributes contentDigest signingTime) := by
  unfold attributesOf
  exact List.perm_insertionSort _ _

lemma mem_attributesOf {contentDigest signingTime : ByteString} {a : Attribute} :
    a ∈ attributesOf contentDigest signingTime ↔ a ∈ plainAttributes contentDigest signingTime :=
  (perm_attributesOf contentDigest signingTime).mem_iff

lemma attributesOf_ne_nil (contentDigest signingTime : ByteString) :
    attributesOf contentDigest signingTime ≠ [] := by
  have hmem := mem_attributesOf.2 (List.mem_cons_self (a := ⟨oid NID_pkcs9_contentType,
    [oid NID_pkcs7_data]⟩) (l := (plainAttributes contentDigest signingTime).tail))
  exact List.ne_nil_of_mem hmem

lemma isObject_gostDigest (bits : ℕ) : IsObject (oid (gostDigest bits)) :=
  ⟨1, 2, _, by decide, by decide, rfl⟩

lemma isObject_gostKey (bits : ℕ) : IsObject (oid (gostKey bits)) :=
  ⟨1, 2, _, by decide, by decide, rfl⟩

lemma wellFormed_null {algorithm : ByteString} (h : IsObject algorithm) :
    AlgorithmIdentifier.WellFormed ⟨algorithm, some null⟩ where
  algorithm := h
  parameter _ hp := Option.some.inj hp ▸ .null

lemma length_utcTime {digits : ByteString} (h : digits.length = 13) :
    (Der.encode 0x17 digits).length < 80 := by
  have hshort : Der.lengthOctets digits.length = [13] := by
    rw [h]
    decide
  rw [Der.encode, hshort]
  simp [h]

lemma wellFormed_of_mem {contentDigest digits : ByteString} (hdigits : digits.length = 13)
    {a : Attribute} (ha : a ∈ attributesOf contentDigest (Der.encode 0x17 digits)) :
    a.WellFormed := by
  have hdata : IsObject (oid NID_pkcs7_data) := ⟨1, 2, _, by decide, by decide, rfl⟩
  rw [mem_attributesOf, plainAttributes] at ha
  simp only [List.mem_cons, List.not_mem_nil, or_false] at ha
  rcases ha with rfl | rfl | rfl | rfl
  · exact ⟨⟨1, 2, _, by decide, by decide, rfl⟩, by simpa using .object hdata, by simp⟩
  · exact ⟨⟨1, 2, _, by decide, by decide, rfl⟩, by simpa using .time hdigits, by simp⟩
  · exact ⟨⟨1, 2, _, by decide, by decide, rfl⟩, by simpa using .octets _, by simp⟩
  · exact ⟨⟨1, 2, _, by decide, by decide, rfl⟩, by simpa using .sequence _, by simp⟩

lemma sorted_attributesOf (contentDigest signingTime : ByteString) :
    ((attributesOf contentDigest signingTime).map Attribute.encode).Pairwise NotAfter := by
  rw [map_attributesOf]
  exact sort_sorted _

/-! ### How long it is -/

lemma length_joined (parts : List ByteString) :
    (joined parts).length = (parts.map List.length).sum :=
  List.length_flatten

lemma length_signedAttribute {type : List ℕ} {value : ByteString} (htype : (oid type).length = 11)
    (hvalue : value.length < 80) : (signedAttribute type value).length = value.length + 15 := by
  have hset : (tagged 0x31 value).length = value.length + 2 := length_tagged_of_lt (by omega)
  have hbody : (joined [oid type, tagged 0x31 value]).length = value.length + 13 := by
    simp only [joined, List.flatten_cons, List.flatten_nil, List.append_nil, List.length_append]
    omega
  rw [signedAttribute, length_tagged_of_lt (by omega), hbody]

lemma length_signedAttributes_le {contentDigest signingTime : ByteString}
    (hdigest : contentDigest.length ≤ 64) (htime : signingTime.length < 80) :
    (signedAttributes contentDigest signingTime).length ≤ 500 := by
  have hnames : ∀ type ∈ [NID_pkcs9_contentType, NID_pkcs9_signingTime, NID_pkcs9_messageDigest],
      (oid type).length = 11 := by decide +kernel
  have hdata : (oid NID_pkcs7_data).length = 11 := by decide +kernel
  have hsmime : smimeCapabilities.length = 170 := by decide +kernel
  have htag : (tagged 0x04 contentDigest).length = contentDigest.length + 2 :=
    length_tagged_of_lt (by omega)
  have hperm := (List.perm_insertionSort NotAfter
    [signedAttribute NID_pkcs9_contentType (oid NID_pkcs7_data),
      signedAttribute NID_pkcs9_signingTime signingTime,
      signedAttribute NID_pkcs9_messageDigest (tagged 0x04 contentDigest),
      smimeCapabilities]).flatten.length_eq
  have h1 := @length_signedAttribute _ (oid NID_pkcs7_data)
      (hnames NID_pkcs9_contentType (by simp)) (by omega)
  have h2 := length_signedAttribute (hnames NID_pkcs9_signingTime (by simp)) htime
  have h3 := @length_signedAttribute _ (tagged 0x04 contentDigest)
      (hnames NID_pkcs9_messageDigest (by simp)) (by omega)
  rw [signedAttributes, sort, hperm]
  simp only [List.flatten_cons, List.flatten_nil, List.append_nil, List.length_append]
  omega

section lengths

variable {O : OpenSSL Cert}

lemma length_signer_le {cert : Cert} {attributes signature : ByteString}
    (h : (O.issuerName cert).length + (O.serialNumber cert).length + attributes.length +
      signature.length ≤ maxCms) :
    (O.signer cert attributes signature).length ≤ (O.issuerName cert).length +
      (O.serialNumber cert).length + attributes.length + signature.length + 100 := by
  obtain ⟨hdigest, hkey⟩ := oid_lengths (O.gostBits cert)
  rw [maxCms] at h
  have hversion : (tagged 0x02 [1]).length = 3 := length_tagged_of_lt (by decide)
  have hsid := @length_tagged_le 0x30 (joined [O.issuerName cert, O.serialNumber cert])
  have hdigestAlg := @length_tagged_le 0x30
      (joined [oid (gostDigest (O.gostBits cert)), [0x05, 0x00]])
  have hattrs := @length_tagged_le 0xa0 attributes
  have hkeyAlg := @length_tagged_le 0x30 (joined [oid (gostKey (O.gostBits cert)), [0x05, 0x00]])
  have hsignature := @length_tagged_le 0x04 signature
  simp only [length_joined, List.map_cons, List.map_nil, List.sum_cons, List.sum_nil,
    List.length_cons, List.length_nil, hdigest, hkey] at hsid hdigestAlg hkeyAlg
  rw [OpenSSL.signer]
  refine (length_tagged_le ?_).trans ?_
  · simp only [length_joined, List.map_cons, List.map_nil, List.sum_cons, List.sum_nil]
    omega
  · simp only [length_joined, List.map_cons, List.map_nil, List.sum_cons, List.sum_nil]
    omega

lemma length_envelope_le {data : ByteString} {cert : Cert} {chain : List ByteString}
    {flags : CK_FLAGS} {attributes signature : ByteString}
    (h : data.length + chain.flatten.length + (O.i2d_X509 cert).length +
      (O.issuerName cert).length + (O.serialNumber cert).length + attributes.length +
      signature.length ≤ maxCms) :
    (O.envelope data cert chain flags attributes signature).length ≤
      data.length + chain.flatten.length + (O.i2d_X509 cert).length +
      (O.issuerName cert).length + (O.serialNumber cert).length + attributes.length +
      signature.length + 250 := by
  obtain ⟨hdigest, hkey⟩ := oid_lengths (O.gostBits cert)
  have hsigner := @length_signer_le _ O cert attributes signature (by omega)
  rw [maxCms] at h
  have hoids : (oid NID_pkcs7_data).length = 11 ∧ (oid NID_pkcs7_signed).length = 11 := by
    decide +kernel
  have hversion : (tagged 0x02 [1]).length = 3 := length_tagged_of_lt (by decide)
  have halg : (tagged 0x30 (oid (gostDigest (O.gostBits cert)))).length = 12 := by
    rw [length_tagged_of_lt (by omega), hdigest]
  have halgs : (tagged 0x31 (tagged 0x30 (oid (gostDigest (O.gostBits cert))))).length = 14 := by
    rw [length_tagged_of_lt (by omega), halg]
  have hcontent : (if flags &&& PKCS7_DETACHED_SIGNATURE = 0 then tagged 0xa0 (tagged 0x04 data)
      else []).length ≤ data.length + 20 := by
    have hoctets := @length_tagged_le 0x04 data (by omega)
    have hwrapped := @length_tagged_le 0xa0 (tagged 0x04 data) (by omega)
    split
    · omega
    · simp
  have hinfo := @length_tagged_le 0x30
      (joined [oid NID_pkcs7_data,
    if flags &&& PKCS7_DETACHED_SIGNATURE = 0 then tagged 0xa0 (tagged 0x04 data) else []])
  have hsort : (sort (chain ++ [O.i2d_X509 cert])).flatten.length =
      chain.flatten.length + (O.i2d_X509 cert).length := by
    rw [sort, (List.perm_insertionSort _ _).flatten.length_eq]
    simp
  have hcerts := @length_tagged_le 0xa0 (sort (chain ++ [O.i2d_X509 cert])).flatten
  have hset := @length_tagged_le 0x31 (O.signer cert attributes signature)
  simp only [length_joined, List.map_cons, List.map_nil, List.sum_cons, List.sum_nil] at hinfo
  have hdata : (O.signedData data cert chain flags (O.signer cert attributes signature)).length ≤
      data.length + chain.flatten.length + (O.i2d_X509 cert).length +
        (O.issuerName cert).length + (O.serialNumber cert).length + attributes.length +
        signature.length + 200 := by
    rw [OpenSSL.signedData]
    refine (length_tagged_le ?_).trans ?_
    · simp only [length_joined, List.map_cons, List.map_nil, List.sum_cons, List.sum_nil] at *
      omega
    · simp only [length_joined, List.map_cons, List.map_nil, List.sum_cons, List.sum_nil] at *
      omega
  have hwrapped := @length_tagged_le 0xa0
      (O.signedData data cert chain flags (O.signer cert attributes signature)) (by omega)
  rw [OpenSSL.envelope]
  refine (length_tagged_le ?_).trans ?_
  · simp only [length_joined, List.map_cons, List.map_nil, List.sum_cons, List.sum_nil]
    omega
  · simp only [length_joined, List.map_cons, List.map_nil, List.sum_cons, List.sum_nil]
    omega

end lengths

end SoftHSM.RutokenCMS
