import SoftHSM.Library.KeyKinds
import SoftHSM.Library.MechanismPolicy

/-!
The keys that the calls use, against what the mechanisms are defined for: the class and the type of
each key that has been used, whether it could be read, and whether it was for that use. What the
calls do not check of a key follows from its kind, but for an object that is digested, the other
key of a concatenation, and a key that unwraps with triple DES.
-/

namespace SoftHSM.Create

open CK_RV Search P11Object OSObject AttributeMap
open Transition

/-! ### The keys that mechanisms are defined for -/

/-- Some mechanisms in some uses, with the classes of the keys, and their types if not all are. -/
structure Definition where
  uses : List KeyUse
  mechanisms : List CK_MECHANISM_TYPE
  classes : List UInt64
  keyTypes : Option (List CK_KEY_TYPE)

/-- With one secret key for both directions. -/
def secretDefinition (uses : List KeyUse) (mechanisms : List CK_MECHANISM_TYPE)
    (keyTypes : List CK_KEY_TYPE) : Definition :=
  ⟨uses, mechanisms, [CKO_SECRET_KEY], some keyTypes⟩

/-- With a public key in one direction and the private one in the other. -/
def pairDefinition (forPublic forPrivate : KeyUse) (mechanisms : List CK_MECHANISM_TYPE)
    (keyTypes : List CK_KEY_TYPE) : List Definition :=
  [⟨[forPublic], mechanisms, [CKO_PUBLIC_KEY], some keyTypes⟩,
    ⟨[forPrivate], mechanisms, [CKO_PRIVATE_KEY], some keyTypes⟩]

def cipherDefinitions : List Definition :=
  [secretDefinition [.encrypt, .decrypt] [CKM_DES_ECB, CKM_DES_CBC, CKM_DES_CBC_PAD] [CKK_DES],
    secretDefinition [.encrypt, .decrypt] [CKM_DES3_ECB, CKM_DES3_CBC, CKM_DES3_CBC_PAD]
      [CKK_DES2, CKK_DES3],
    secretDefinition [.encrypt, .decrypt]
      [CKM_AES_ECB, CKM_AES_CBC, CKM_AES_CBC_PAD, CKM_AES_CTR, CKM_AES_GCM] [CKK_AES],
    secretDefinition [.encrypt, .decrypt]
      [CKM_GOST28147_ECB, CKM_GOST28147, CKM_VENDOR_GOST28147_CBC_FSS] [CKK_GOST28147],
    secretDefinition [.encrypt, .decrypt]
      [CKM_KUZNECHIK_ECB, CKM_KUZNECHIK_CTR_ACPKM, CKM_KUZNECHIK_MGM] [CKK_KUZNECHIK],
    secretDefinition [.encrypt, .decrypt] [CKM_MAGMA_ECB, CKM_MAGMA_CTR_ACPKM, CKM_MAGMA_MGM]
      [CKK_MAGMA]] ++
  pairDefinition .encrypt .decrypt [CKM_RSA_PKCS, CKM_RSA_X_509, CKM_RSA_PKCS_OAEP] [CKK_RSA]

def macDefinitions : List Definition :=
  [secretDefinition [.sign, .verify] [CKM_MD5_HMAC] [CKK_GENERIC_SECRET, CKK_MD5_HMAC],
    secretDefinition [.sign, .verify] [CKM_SHA_1_HMAC] [CKK_GENERIC_SECRET, CKK_SHA_1_HMAC],
    secretDefinition [.sign, .verify] [CKM_SHA224_HMAC] [CKK_GENERIC_SECRET, CKK_SHA224_HMAC],
    secretDefinition [.sign, .verify] [CKM_SHA256_HMAC] [CKK_GENERIC_SECRET, CKK_SHA256_HMAC],
    secretDefinition [.sign, .verify] [CKM_SHA384_HMAC] [CKK_GENERIC_SECRET, CKK_SHA384_HMAC],
    secretDefinition [.sign, .verify] [CKM_SHA512_HMAC] [CKK_GENERIC_SECRET, CKK_SHA512_HMAC],
    secretDefinition [.sign, .verify]
      [CKM_GOSTR3411_HMAC, CKM_GOSTR3411_12_256_HMAC, CKM_GOSTR3411_12_512_HMAC]
      [CKK_GENERIC_SECRET, CKK_GOST28147],
    secretDefinition [.sign, .verify] [CKM_DES3_CMAC] [CKK_DES2, CKK_DES3],
    secretDefinition [.sign, .verify] [CKM_AES_CMAC] [CKK_AES],
    secretDefinition [.sign, .verify] [CKM_KUZNECHIK_MAC] [CKK_KUZNECHIK],
    secretDefinition [.sign, .verify] [CKM_GOST28147_MAC] [CKK_GOST28147],
    secretDefinition [.sign, .verify] [CKM_MAGMA_MAC] [CKK_MAGMA]]

def signatureDefinitions : List Definition :=
  pairDefinition .verify .sign
    [CKM_RSA_PKCS, CKM_RSA_X_509, CKM_MD5_RSA_PKCS, CKM_SHA1_RSA_PKCS, CKM_SHA224_RSA_PKCS,
      CKM_SHA256_RSA_PKCS, CKM_SHA384_RSA_PKCS, CKM_SHA512_RSA_PKCS, CKM_RSA_PKCS_PSS,
      CKM_SHA1_RSA_PKCS_PSS, CKM_SHA224_RSA_PKCS_PSS, CKM_SHA256_RSA_PKCS_PSS,
      CKM_SHA384_RSA_PKCS_PSS, CKM_SHA512_RSA_PKCS_PSS] [CKK_RSA] ++
  pairDefinition .verify .sign
    [CKM_DSA, CKM_DSA_SHA1, CKM_DSA_SHA224, CKM_DSA_SHA256, CKM_DSA_SHA384, CKM_DSA_SHA512]
    [CKK_DSA] ++
  pairDefinition .verify .sign
    [CKM_ECDSA, CKM_ECDSA_SHA1, CKM_ECDSA_SHA224, CKM_ECDSA_SHA256, CKM_ECDSA_SHA384,
      CKM_ECDSA_SHA512] [CKK_EC] ++
  pairDefinition .verify .sign
    [CKM_GOSTR3410, CKM_GOSTR3410_WITH_GOSTR3411, CKM_GOSTR3410_WITH_GOSTR3411_2012_256]
    [CKK_GOSTR3410] ++
  pairDefinition .verify .sign [CKM_GOSTR3410_512, CKM_GOSTR3410_WITH_GOSTR3411_12_512]
    [CKK_GOSTR3410_512] ++
  pairDefinition .verify .sign [CKM_EDDSA] [CKK_EC_EDWARDS] ++
  pairDefinition .verify .sign [CKM_ML_DSA] [CKK_ML_DSA]

def wrapDefinitions : List Definition :=
  [secretDefinition [.wrap, .unwrap]
      [CKM_AES_KEY_WRAP, CKM_AES_KEY_WRAP_PAD, CKM_AES_CBC, CKM_AES_CBC_PAD] [CKK_AES],
    secretDefinition [.wrap, .unwrap] [CKM_DES3_CBC_PAD] [CKK_DES2, CKK_DES3],
    secretDefinition [.wrap, .unwrap] [CKM_GOST28147_KEY_WRAP] [CKK_GOST28147],
    secretDefinition [.wrap, .unwrap] [CKM_KUZNECHIK_KEXP_15_WRAP] [CKK_KUZNECHIK_TWIN_KEY],
    secretDefinition [.wrap, .unwrap] [CKM_MAGMA_KEXP_15_WRAP] [CKK_MAGMA_TWIN_KEY]] ++
  pairDefinition .wrap .unwrap [CKM_RSA_PKCS, CKM_RSA_PKCS_OAEP, CKM_RSA_AES_KEY_WRAP] [CKK_RSA]

/-- What is wrapped. -/
def wrappedDefinitions : List Definition :=
  [⟨[.wrapped], [CKM_AES_KEY_WRAP, CKM_AES_KEY_WRAP_PAD, CKM_AES_CBC, CKM_AES_CBC_PAD,
      CKM_RSA_AES_KEY_WRAP], [CKO_SECRET_KEY, CKO_PRIVATE_KEY], none⟩,
    ⟨[.wrapped], [CKM_RSA_PKCS, CKM_RSA_PKCS_OAEP], [CKO_SECRET_KEY], none⟩,
    secretDefinition [.wrapped] [CKM_GOST28147_KEY_WRAP] [CKK_GOST28147],
    secretDefinition [.wrapped] [CKM_KUZNECHIK_KEXP_15_WRAP, CKM_MAGMA_KEXP_15_WRAP]
      [CKK_GENERIC_SECRET, CKK_GOST28147, CKK_KUZNECHIK, CKK_MAGMA]]

def deriveDefinitions : List Definition :=
  [⟨[.derive], [CKM_DH_PKCS_DERIVE], [CKO_PRIVATE_KEY], some [CKK_DH]⟩,
    ⟨[.derive], [CKM_ECDH1_DERIVE], [CKO_PRIVATE_KEY], some [CKK_EC, CKK_EC_EDWARDS]⟩,
    ⟨[.derive], [CKM_GOSTR3410_12_DERIVE, CKM_GOST_KEG], [CKO_PRIVATE_KEY],
      some [CKK_GOSTR3410, CKK_GOSTR3410_512]⟩,
    ⟨[.derive], [CKM_VKO_GOSTR3410_2012_512], [CKO_PRIVATE_KEY], some [CKK_GOSTR3410_512]⟩,
    secretDefinition [.derive] [CKM_KDF_HMAC3411_2012_256, CKM_KDF_TREE_GOSTR3411_2012_256]
      [CKK_GOST28147, CKK_MAGMA, CKK_KUZNECHIK],
    secretDefinition [.derive] [CKM_DES_ECB_ENCRYPT_DATA, CKM_DES_CBC_ENCRYPT_DATA] [CKK_DES],
    secretDefinition [.derive] [CKM_DES3_ECB_ENCRYPT_DATA, CKM_DES3_CBC_ENCRYPT_DATA]
      [CKK_DES2, CKK_DES3],
    secretDefinition [.derive] [CKM_AES_ECB_ENCRYPT_DATA, CKM_AES_CBC_ENCRYPT_DATA] [CKK_AES],
    ⟨[.derive], [CKM_CONCATENATE_DATA_AND_BASE, CKM_CONCATENATE_BASE_AND_DATA], [CKO_SECRET_KEY],
      none⟩,
    ⟨[.derive, .concatenated], [CKM_CONCATENATE_BASE_AND_KEY], [CKO_SECRET_KEY], none⟩]

def definitions : List Definition :=
  cipherDefinitions ++ macDefinitions ++ signatureDefinitions ++ wrapDefinitions ++
    wrappedDefinitions ++ deriveDefinitions ++
    pairDefinition .encapsulate .decapsulate [CKM_ML_KEM] [CKK_ML_KEM]

/-- Whether a mechanism is defined in some use for keys of a class and a type. Every digest takes
the value of a secret key. -/
def defines (use : KeyUse) (mechanism : CK_MECHANISM_TYPE) (objClass : UInt64)
    (keyType : CK_KEY_TYPE) : Bool :=
  if use = .digest then decide (objClass = CKO_SECRET_KEY)
  else definitions.any fun d => decide (use ∈ d.uses) && decide (mechanism ∈ d.mechanisms) &&
    decide (objClass ∈ d.classes) && d.keyTypes.all fun types => decide (keyType ∈ types)

/-- The attribute that permits a use. -/
def KeyUse.attribute : KeyUse → Option CK_ATTRIBUTE_TYPE
  | .encrypt => some CKA_ENCRYPT
  | .decrypt => some CKA_DECRYPT
  | .sign => some CKA_SIGN
  | .verify => some CKA_VERIFY
  | .digest => none
  | .wrap => some CKA_WRAP
  | .wrapped => some CKA_EXTRACTABLE
  | .unwrap => some CKA_UNWRAP
  | .derive => some CKA_DERIVE
  | .concatenated => some CKA_DERIVE
  | .encapsulate => some CKA_ENCAPSULATE
  | .decapsulate => some CKA_DECAPSULATE

/-! ### The class of a key by its type -/

/-- The class of a key of some type that permits a use. -/
def classByType (use : KeyUse) (keyType : CK_KEY_TYPE) : UInt64 :=
  if keyType ∈ secretKeyKinds.flatMap keyTypesOf then CKO_SECRET_KEY
  else if use ∈ [.encrypt, .verify, .wrap, .encapsulate] then CKO_PUBLIC_KEY
  else CKO_PRIVATE_KEY

/-- The uses that not every key has. -/
def keyUses : List KeyUse :=
  [.encrypt, .decrypt, .sign, .verify, .wrap, .unwrap, .encapsulate, .decapsulate]

lemma classByType_table : ∀ x ∈ kinds, ∀ v ∈ keyTypesOf x.2, ∀ use ∈ keyUses,
    ∀ a ∈ x.2.attributes, some a.type = use.attribute → x.1 = classByType use v := by
  have h : ∀ x ∈ kinds, ((keyTypesOf x.2).all fun v => keyUses.all fun use =>
      x.2.attributes.all fun a => decide (some a.type = use.attribute →
        x.1 = classByType use v)) = true := by decide +kernel
  intro x hx v hv use hu a ha
  have hx := h x hx
  simp only [List.all_eq_true, decide_eq_true_eq] at hx
  exact hx v hv use hu a ha

/-- Only these keys have a mechanism for the exchange of a secret. -/
lemma encapsulation_table : ∀ x ∈ kinds, ∀ v ∈ keyTypesOf x.2, ∀ a ∈ x.2.attributes,
    a.type ∈ [CKA_ENCAPSULATE, CKA_DECAPSULATE] → v = CKK_ML_KEM := by
  have h : ∀ x ∈ kinds, ((keyTypesOf x.2).all fun v => x.2.attributes.all fun a =>
      decide (a.type ∈ [CKA_ENCAPSULATE, CKA_DECAPSULATE] → v = CKK_ML_KEM)) = true := by
    decide +kernel
  intro x hx v hv a ha
  have hx := h x hx
  simp only [List.all_eq_true, decide_eq_true_eq] at hx
  exact hx v hv a ha

/-- A private key is not of the type of a secret key. -/
lemma privateType_table : ∀ x ∈ kinds, x.1 = CKO_PRIVATE_KEY → ∀ v ∈ keyTypesOf x.2,
    v ∉ secretKeyKinds.flatMap keyTypesOf := by
  have h : ∀ x ∈ kinds, x.1 = CKO_PRIVATE_KEY →
      ((keyTypesOf x.2).all fun v => decide (v ∉ secretKeyKinds.flatMap keyTypesOf)) = true := by
    decide +kernel
  exact fun x hx hprivate => forall_of_all (h x hx hprivate)

section classes

variable {m : AttributeMap} {use : KeyUse} {t : CK_ATTRIBUTE_TYPE}

lemma keyUses_usages : ∀ use ∈ keyUses, ∀ t ∈ use.attribute, t ∈ usages := by
  have h : (keyUses.all fun use => use.attribute.all fun t => decide (t ∈ usages)) = true := by decide
  intro use hu t ht
  have hall := List.all_eq_true.1 h use hu
  rw [Option.mem_def.1 ht] at hall
  exact of_decide_eq_true hall

/-- A key that permits a use is of a kind that has it. -/
lemma Fits.kind_of_use (h : Fits m) (hu : use ∈ keyUses) (ht : use.attribute = some t)
    (hm : m.getBooleanValue t false = true) : ∃ x ∈ kinds, keyClass m = x.1 ∧
      keyTypeOf m ∈ keyTypesOf x.2 ∧ ∃ a ∈ x.2.attributes, a.type = t := by
  obtain ⟨x, hx, hk⟩ := h
  obtain ⟨hc, hkt, ha⟩ := hk.usage t (keyUses_usages use hu t (by rw [ht]; rfl))
    (flag_of_getBooleanValue hm)
  obtain ⟨c, hc⟩ := Option.isSome_iff_exists.1 hc
  obtain ⟨kt, hkt⟩ := Option.isSome_iff_exists.1 hkt
  obtain ⟨v, hv, rfl⟩ := hk.keyType kt hkt
  rw [hk.objClass c hc] at hc
  refine ⟨x, hx, ?_, ?_, ha⟩
  · rw [keyClass, getUnsignedLongValue, hc]
  · rwa [keyTypeOf, getUnsignedLongValue, hkt]

/-- So its type tells its class. -/
lemma Fits.class_of_use (h : Fits m) (hu : use ∈ keyUses) (ht : use.attribute = some t)
    (hm : m.getBooleanValue t false = true) : keyClass m = classByType use (keyTypeOf m) := by
  obtain ⟨x, hx, hc, hv, a, ha, rfl⟩ := h.kind_of_use hu ht hm
  rw [hc]
  exact classByType_table x hx _ hv use hu a ha ht.symm

/-- A key of the type of a secret key is not a private one. -/
lemma Fits.class_of_type (h : Fits m) (ht : keyTypeOf m ∈ secretKeyKinds.flatMap keyTypesOf) :
    keyClass m ≠ CKO_PRIVATE_KEY := by
  intro hprivate
  obtain ⟨x, hx, hk⟩ := h
  have hc : x.1 = CKO_PRIVATE_KEY := by
    rw [keyClass, getUnsignedLongValue] at hprivate
    split at hprivate
    · rename_i v hv
      have := hk.objClass _ hv
      rw [OSAttribute.unsignedLong.injEq] at this
      rw [← this, hprivate]
    · exact absurd hprivate (by decide)
  have hv : keyTypeOf m ∈ keyTypesOf x.2 := by
    rw [keyTypeOf, getUnsignedLongValue] at ht ⊢
    split at ht
    · rename_i v hv
      obtain ⟨v', hv', heq⟩ := hk.keyType _ hv
      rw [OSAttribute.unsignedLong.injEq] at heq
      rwa [heq]
    · exact absurd ht (by decide)
  exact privateType_table x hx hc _ hv ht

end classes

/-! ### What the calls check is what the mechanisms are defined for -/

section tables

variable {α : Type} {mechanism : CK_MECHANISM_TYPE} {keyType : CK_KEY_TYPE} {use : KeyUse}

lemma of_look {rows : List (Row α)} {v : α} (h : look rows mechanism = some v) :
    ∃ row ∈ rows, mechanism ∈ row.mechanisms ∧ row.value = v := by
  obtain ⟨row, hrow, rfl⟩ := Option.map_eq_some_iff.1 h
  have hfound := List.find?_some hrow
  rw [Bool.and_eq_true, decide_eq_true_eq] at hfound
  exact ⟨row, List.mem_of_find?_eq_some hrow, hfound.2, rfl⟩

/-- Every row of a table has key types that its mechanisms are defined for. -/
def rowsDefined (use : KeyUse) (rows : List (Row (List CK_KEY_TYPE))) : Bool :=
  rows.all fun row => row.mechanisms.all fun m => row.value.all fun v =>
    defines use m (classByType use v) v

lemma defines_of_look {rows : List (Row (List CK_KEY_TYPE))} {types : List CK_KEY_TYPE}
    (hrows : rowsDefined use rows = true) (h : look rows mechanism = some types)
    (ht : keyType ∈ types) : defines use mechanism (classByType use keyType) keyType = true := by
  obtain ⟨row, hrow, hm, rfl⟩ := of_look h
  simp only [rowsDefined, List.all_eq_true] at hrows
  exact hrows row hrow mechanism hm keyType ht

variable (b : Build) (fakeRutokenECP : Bool)

lemma symKeyTypes_encrypt : rowsDefined .encrypt (symKeyTypes b fakeRutokenECP) = true := by rfl

lemma symKeyTypes_decrypt : rowsDefined .decrypt (symKeyTypes b fakeRutokenECP) = true := by rfl

lemma asymKeyTypes_encrypt : rowsDefined .encrypt asymKeyTypes = true := by rfl

lemma asymKeyTypes_decrypt : rowsDefined .decrypt asymKeyTypes = true := by rfl

lemma macKeyTypes_sign : rowsDefined .sign (macKeyTypes b) = true := by rfl

lemma macKeyTypes_verify : rowsDefined .verify (macKeyTypes b) = true := by rfl

lemma signKeyTypes_sign : rowsDefined .sign (signKeyTypes b) = true := by rfl

lemma signKeyTypes_verify : rowsDefined .verify (signKeyTypes b) = true := by rfl

/-- The type of the key that each mechanism wraps with, and unwraps with but for triple DES. -/
def wrapKeyTypes : List (CK_MECHANISM_TYPE × CK_KEY_TYPE) :=
  [(CKM_AES_KEY_WRAP, CKK_AES), (CKM_AES_KEY_WRAP_PAD, CKK_AES), (CKM_RSA_PKCS, CKK_RSA),
    (CKM_RSA_PKCS_OAEP, CKK_RSA), (CKM_RSA_AES_KEY_WRAP, CKK_RSA), (CKM_AES_CBC, CKK_AES),
    (CKM_AES_CBC_PAD, CKK_AES), (CKM_GOST28147_KEY_WRAP, CKK_GOST28147),
    (CKM_KUZNECHIK_KEXP_15_WRAP, CKK_KUZNECHIK_TWIN_KEY),
    (CKM_MAGMA_KEXP_15_WRAP, CKK_MAGMA_TWIN_KEY)]

lemma wrapKeyTypes_table : ∀ r ∈ wrapKeyTypes, ∀ use ∈ [KeyUse.wrap, .unwrap],
    defines use r.1 (classByType use r.2) r.2 = true := by
  have h : (wrapKeyTypes.all fun r => [KeyUse.wrap, .unwrap].all fun use =>
      defines use r.1 (classByType use r.2) r.2) = true := by decide +kernel
  exact fun r hr => List.all_eq_true.1 (List.all_eq_true.1 h r hr)

lemma wrapMechanisms_types {b : Build} (h : (look (wrapMechanisms b) mechanism).isSome = true) :
    mechanism ∈ wrapKeyTypes.map (·.1) := by
  obtain ⟨u, hu⟩ := Option.isSome_iff_exists.1 h
  obtain ⟨row, hrow, hm, -⟩ := of_look hu
  have hrows : (wrapMechanisms b).all (fun row => row.mechanisms.all fun m =>
      decide (m ∈ wrapKeyTypes.map (·.1))) = true := by rfl
  simp only [List.all_eq_true, decide_eq_true_eq] at hrows
  exact hrows row hrow mechanism hm

lemma unwrapMechanisms_types {b : Build} (h : (look (unwrapMechanisms b) mechanism).isSome = true) :
    mechanism = CKM_DES3_CBC_PAD ∨ mechanism ∈ wrapKeyTypes.map (·.1) := by
  obtain ⟨u, hu⟩ := Option.isSome_iff_exists.1 h
  obtain ⟨row, hrow, hm, -⟩ := of_look hu
  have hrows : (unwrapMechanisms b).all (fun row => row.mechanisms.all fun m =>
      decide (m = CKM_DES3_CBC_PAD ∨ m ∈ wrapKeyTypes.map (·.1))) = true := by rfl
  simp only [List.all_eq_true, decide_eq_true_eq] at hrows
  exact hrows row hrow mechanism hm

/-- A check that is passed has found the type of the key. -/
lemma type_of_wrapKeyCheck {rsaClass : UInt64} {rv : CK_RV} {key : AttributeMap} (hrv : rv ≠ CKR_OK)
    (hm : mechanism ∈ wrapKeyTypes.map (·.1)) (h : wrapKeyCheck rsaClass rv mechanism key = CKR_OK) :
    (mechanism, keyTypeOf key) ∈ wrapKeyTypes := by
  unfold wrapKeyCheck at h
  simp only [wrapKeyTypes, List.map_cons, List.map_nil, List.mem_cons, List.not_mem_nil,
    or_false] at hm
  rcases hm with rfl | rfl | rfl | rfl | rfl | rfl | rfl | rfl | rfl | rfl <;>
    simp +decide [wrapKeyTypes, hrv] at h ⊢
  all_goals first
    | exact h
    | by_contra hne
      simp [hne, hrv] at h

/-- What is wrapped is of a class and a type that the mechanism is defined for. -/
lemma defines_of_wrappedCheck {b : Build} {wrapKey key : AttributeMap} (hk : Fits key)
    (hm : mechanism ∈ wrapKeyTypes.map (·.1))
    (h : wrappedCheck b mechanism wrapKey key = CKR_OK) :
    key.getBooleanValue CKA_EXTRACTABLE false = true ∧
      defines .wrapped mechanism (keyClass key) (keyTypeOf key) = true := by
  unfold wrappedCheck at h
  split_ifs at h with h1 h2 h3 h4 h5 h6 h7 h8
  all_goals try cases h
  have hclass : keyClass key ∈ [CKO_SECRET_KEY, CKO_PRIVATE_KEY] := h3
  refine ⟨by simpa using h1, ?_⟩
  -- a key of the type of a secret key is one
  have hsecret : keyTypeOf key ∈ secretKeyKinds.flatMap keyTypesOf →
      keyClass key = CKO_SECRET_KEY := by
    intro ht
    rcases List.mem_cons.1 hclass with hc | hc
    · exact hc
    · exact absurd (List.mem_singleton.1 hc) (hk.class_of_type ht)
  have heither : (∀ c ∈ [CKO_SECRET_KEY, CKO_PRIVATE_KEY],
      defines .wrapped mechanism c (keyTypeOf key) = true) →
      defines .wrapped mechanism (keyClass key) (keyTypeOf key) = true := fun h => h _ hclass
  have hkexp : ∀ m ∈ [CKM_KUZNECHIK_KEXP_15_WRAP, CKM_MAGMA_KEXP_15_WRAP],
      ∀ v ∈ [CKK_GENERIC_SECRET, CKK_GOST28147, CKK_KUZNECHIK, CKK_MAGMA],
      defines .wrapped m CKO_SECRET_KEY v = true ∧ v ∈ secretKeyKinds.flatMap keyTypesOf := by
    have h : ([CKM_KUZNECHIK_KEXP_15_WRAP, CKM_MAGMA_KEXP_15_WRAP].all fun m =>
        [CKK_GENERIC_SECRET, CKK_GOST28147, CKK_KUZNECHIK, CKK_MAGMA].all fun v =>
          decide (defines .wrapped m CKO_SECRET_KEY v = true ∧
            v ∈ secretKeyKinds.flatMap keyTypesOf)) = true := by decide +kernel
    exact fun m hm => forall_of_all (List.all_eq_true.1 h m hm)
  simp only [wrapKeyTypes, List.map_cons, List.map_nil, List.mem_cons, List.not_mem_nil,
    or_false] at hm
  rcases hm with rfl | rfl | rfl | rfl | rfl | rfl | rfl | rfl | rfl | rfl
  case inr.inr.inl | inr.inr.inr.inl =>
    rw [show keyClass key = CKO_SECRET_KEY by simpa +decide using h4]
    rfl
  case inr.inr.inr.inr.inr.inr.inr.inl =>
    have ht : keyTypeOf key = CKK_GOST28147 := by simpa using h5
    rw [hsecret (ht ▸ by decide), ht]
    rfl
  case inr.inr.inr.inr.inr.inr.inr.inr.inl =>
    obtain ⟨hd, ht⟩ := hkexp CKM_KUZNECHIK_KEXP_15_WRAP (by simp) (keyTypeOf key)
      (not_not.1 fun hnot => h6 ⟨by decide, hnot⟩)
    rw [hsecret ht]
    exact hd
  case inr.inr.inr.inr.inr.inr.inr.inr.inr =>
    obtain ⟨hd, ht⟩ := hkexp CKM_MAGMA_KEXP_15_WRAP (by simp) (keyTypeOf key)
      (not_not.1 fun hnot => h6 ⟨by decide, hnot⟩)
    rw [hsecret ht]
    exact hd
  all_goals
    refine heither fun c hc => ?_
    simp only [List.mem_cons, List.not_mem_nil, or_false] at hc
    rcases hc with rfl | rfl <;> rfl

/-- The class and the types of the base key are those that the mechanism is defined for. -/
lemma derive_table {b : Build} {row : Row (UInt64 × Option (List CK_KEY_TYPE))}
    (hrow : row ∈ earlyDeriveKeyTypes b ++ lateDeriveKeyTypes b) (hm : mechanism ∈ row.mechanisms)
    (ht : ∀ types ∈ row.value.2, keyType ∈ types) :
    defines .derive mechanism row.value.1 keyType = true := by
  have hdefined : ∀ {mechs : List CK_MECHANISM_TYPE} {c : UInt64} {types : List CK_KEY_TYPE},
      (mechs.all fun m => types.all fun v => defines .derive m c v) = true → mechanism ∈ mechs →
      keyType ∈ types → defines .derive mechanism c keyType = true := by
    intro mechs c types h hm ht
    simp only [List.all_eq_true] at h
    exact h mechanism hm keyType ht
  have hgost : ∀ c : Bool, keyType ∈ CKK_GOSTR3410 :: (if c then [CKK_GOSTR3410_512] else []) →
      keyType ∈ [CKK_GOSTR3410, CKK_GOSTR3410_512] := by
    intro c h
    cases c
    · exact List.mem_cons.2 (.inl (List.mem_singleton.1 h))
    · exact h
  have hcurves : ∀ c c' : Bool, keyType ∈ (if c then [CKK_EC] else []) ++
      (if c' then [CKK_EC_EDWARDS] else []) → keyType ∈ [CKK_EC, CKK_EC_EDWARDS] := by
    intro c c' h
    cases c <;> cases c' <;> simp at h ⊢ <;> tauto
  simp only [earlyDeriveKeyTypes, lateDeriveKeyTypes, List.mem_append, List.mem_cons,
    List.not_mem_nil, or_false] at hrow
  rcases hrow with (rfl | rfl) | rfl | rfl | rfl | rfl | rfl | rfl | rfl | rfl
  case inl.inl => exact hdefined (by rfl) hm (hgost _ (ht _ rfl))
  case inr.inr.inl => exact hdefined (by rfl) hm (hgost _ (ht _ rfl))
  case inr.inr.inr.inr.inl => exact hdefined (by rfl) hm (hcurves _ _ (ht _ rfl))
  case inr.inr.inr.inr.inr.inr.inr.inr =>
    -- a concatenation takes a secret key of any type
    simp only [List.mem_cons, List.not_mem_nil, or_false] at hm
    rcases hm with rfl | rfl | rfl <;> rfl
  all_goals exact hdefined (by rfl) hm (ht _ rfl)

end tables

/-! ### The calls -/

/-- A call that puts keys to use. -/
inductive KeyCall
  | withMechanism (call : MechanismCall) (pMechanism : Option Mechanism)
  | digestKey (hObject : ℕ)

variable {Obj Sess : Type}

namespace KeyCall

def perform (supported : List CK_MECHANISM_TYPE) (b : Build)
    (digestOp : Sess → Option CK_MECHANISM_TYPE) (hSession : ℕ) (rest : CK_RV)
    (st : Store Obj Sess) : KeyCall → Except CK_RV (List Used)
  | .withMechanism call pMechanism => call.perform supported b hSession pMechanism rest st
  | .digestKey hObject => C_DigestKey digestOp hSession hObject rest st

/-- The mechanism of a call; `C_DigestKey` has none of its own. -/
def mechanism : KeyCall → CK_MECHANISM_TYPE
  | .withMechanism _ pMechanism => (pMechanism.map (·.mechanism)).getD 0
  | .digestKey _ => 0

/-- What the calls do not look after themselves: that an object that is digested is a secret key,
that a key that unwraps with triple DES is of a type for it, and that the other key of a
concatenation is a secret key that can be read and that keys may be derived from. -/
def Fitting (st : Store Obj Sess) (hSession : ℕ) : KeyCall → Prop
  | .digestKey hObject => ∀ o ∈ st.handleManager.getObject hObject,
    keyClass (st.object o).attributes = CKO_SECRET_KEY
  | .withMechanism (.unwrapKey hUnwrappingKey _) (some m) => m.mechanism = CKM_DES3_CBC_PAD →
    ∀ o ∈ st.handleManager.getObject hUnwrappingKey,
      keyTypeOf (st.object o).attributes ∈ [CKK_DES2, CKK_DES3]
  | .withMechanism (.deriveKey _ hOtherKey _) (some m) =>
    m.mechanism = CKM_CONCATENATE_BASE_AND_KEY →
    ∀ o ∈ st.handleManager.getObject hOtherKey,
      keyClass (st.object o).attributes = CKO_SECRET_KEY ∧
      (st.object o).attributes.getBooleanValue CKA_DERIVE false = true ∧
      ∃ s, st.handleManager.getSession hSession = some s ∧
        haveRead (st.getState s) ((st.object o).attributes.getBooleanValue CKA_TOKEN false)
          ((st.object o).attributes.getBooleanValue CKA_PRIVATE true) = CKR_OK
  | _ => True

end KeyCall

/-- A key is used as it allows: the mechanism is defined for it, the state of the session lets it be
read, and it has the attribute for the use. -/
structure UsedRightly (st : Store Obj Sess) (hSession : ℕ) (mechanism : CK_MECHANISM_TYPE)
    (u : Used) : Prop where
  defined : defines u.use mechanism (keyClass u.key.attributes) (keyTypeOf u.key.attributes) = true
  read : ∃ s, st.handleManager.getSession hSession = some s ∧
    haveRead (st.getState s) (u.key.attributes.getBooleanValue CKA_TOKEN false)
      (u.key.attributes.getBooleanValue CKA_PRIVATE true) = CKR_OK
  permitted : ∀ t ∈ u.use.attribute, u.key.attributes.getBooleanValue t false = true

section calls

variable {supported : List CK_MECHANISM_TYPE} {b : Build} {hSession hKey : ℕ} {rest : CK_RV}
  {usage : CK_ATTRIBUTE_TYPE} {m : Mechanism} {st : Store Obj Sess} {key : OSObject}
  {used : List Used} {use : KeyUse}

lemma perform_none {call : MechanismCall} :
    call.perform supported b hSession none rest st ≠ .ok used := by
  intro h
  have hbegins : ∀ {α : Type} {k : Sess × Mechanism → Except CK_RV α} {r : α},
      (begins hSession none st >>= k) ≠ .ok r := by
    intro α k r h
    obtain ⟨r', hr, -⟩ := of_bind h
    unfold begins at hr
    replace hr := (of_check hr).2
    cases hr
  cases call with
  | digestInit => exact hbegins h
  | generateKey | generateKeyPair => exact hbegins h
  | encryptInit hKey | decryptInit hKey | signInit hKey | verifyInit hKey => exact hbegins h
  | wrapKey hWrappingKey hKey => exact hbegins h
  | unwrapKey hUnwrappingKey template => exact hbegins h
  | deriveKey hBaseKey hOtherKey template => exact hbegins h
  | encapsulateKey hPublicKey template | decapsulateKey hPrivateKey template => exact hbegins h

/-- An object that is read is shown. -/
lemma Readable.fits (h : Readable st hSession hKey key) (hset : AllSettled st)
    (hall : FitsHolds st) : Fits key.attributes := by
  obtain ⟨o, -, rfl⟩ := h.object
  exact hall o _ (shown_of_valid (hset o) h.valid)

lemma Usable.rightly {mechanism : CK_MECHANISM_TYPE}
    (h : Usable supported st hSession hKey usage mechanism key)
    (huse : use.attribute = some usage)
    (hd : defines use mechanism (keyClass key.attributes) (keyTypeOf key.attributes) = true) :
    UsedRightly st hSession mechanism ⟨use, key⟩ := by
  refine ⟨hd, h.read, fun t ht => ?_⟩
  rw [huse, Option.mem_some_iff] at ht
  exact ht ▸ h.usage

/-- A key that begins an operation. -/
lemma rightly_of_keyInit {keyTypes : List (Row (List CK_KEY_TYPE))} {typeFirst : Bool}
    (hset : AllSettled st) (hall : FitsHolds st) (huse : use ∈ keyUses)
    (hattr : use.attribute = some usage) (hrows : rowsDefined use keyTypes = true)
    (h : keyInit supported use usage keyTypes typeFirst hSession (some m) hKey rest st = .ok used) :
    ∀ u ∈ used, UsedRightly st hSession m.mechanism u := by
  obtain ⟨key, types, rfl, hu, hlook, ht⟩ := of_keyInit h
  have hfits := hu.toReadable.fits hset hall
  intro u hmem
  rw [List.mem_singleton.1 hmem]
  refine hu.rightly hattr ?_
  rw [hfits.class_of_use huse hattr hu.usage]
  exact defines_of_look hrows hlook ht

lemma of_C_DigestKey {digestOp : Sess → Option CK_MECHANISM_TYPE} {hObject : ℕ}
    (h : C_DigestKey digestOp hSession hObject rest st = .ok used) :
    ∃ key, used = [⟨.digest, key⟩] ∧ Readable st hSession hObject key := by
  unfold C_DigestKey at h
  replace h := (of_check h).2
  cases hs : st.handleManager.getSession hSession with
  | none => rw [hs] at h; cases h
  | some s =>
    rw [hs] at h
    dsimp only at h
    cases hd : digestOp s with
    | none => rw [hd] at h; cases h
    | some algo =>
      rw [hd] at h
      dsimp only at h
      cases ho : st.handleManager.getObject hObject with
      | none => rw [ho] at h; cases h
      | some o =>
        rw [ho] at h
        obtain ⟨hv, h⟩ := of_check h
        obtain ⟨hread, h⟩ := of_check h
        replace h := (of_check h).2
        replace h := (of_check h).2
        replace h := (of_passes h).2
        cases h
        exact ⟨_, rfl, ⟨o, ho, rfl⟩, by simpa using hv, s, hs, not_not.1 hread⟩

lemma defines_unwrap_des3 {keyType : CK_KEY_TYPE} :
    defines .unwrap CKM_DES3_CBC_PAD CKO_SECRET_KEY keyType = true ↔
      keyType ∈ [CKK_DES2, CKK_DES3] := by
  simp +decide [defines, definitions, cipherDefinitions, macDefinitions, signatureDefinitions,
    wrapDefinitions, wrappedDefinitions, deriveDefinitions, secretDefinition, pairDefinition]

lemma defines_concatenated {objClass : UInt64} {keyType : CK_KEY_TYPE} :
    defines .concatenated CKM_CONCATENATE_BASE_AND_KEY objClass keyType = true ↔
      objClass = CKO_SECRET_KEY := by
  simp +decide [defines, definitions, cipherDefinitions, macDefinitions, signatureDefinitions,
    wrapDefinitions, wrappedDefinitions, deriveDefinitions, secretDefinition, pairDefinition]

/-- A key that wraps or unwraps, but for triple DES. -/
lemma rightly_of_wrapKeyCheck {rsaClass : UInt64} {rv : CK_RV} (hrv : rv ≠ CKR_OK)
    (hset : AllSettled st) (hall : FitsHolds st) (huse : use ∈ [KeyUse.wrap, .unwrap])
    (hattr : use.attribute = some usage) (hm : m.mechanism ∈ wrapKeyTypes.map (·.1))
    (hu : Usable supported st hSession hKey usage m.mechanism key)
    (h : wrapKeyCheck rsaClass rv m.mechanism key.attributes = CKR_OK) :
    UsedRightly st hSession m.mechanism ⟨use, key⟩ := by
  have hkeyUse : use ∈ keyUses := by
    rcases List.mem_cons.1 huse with rfl | hmem
    · decide
    · rw [List.mem_singleton.1 hmem]
      decide
  have hfits := hu.toReadable.fits hset hall
  have htype := type_of_wrapKeyCheck hrv hm h
  refine hu.rightly hattr ?_
  rw [hfits.class_of_use hkeyUse hattr hu.usage]
  exact wrapKeyTypes_table _ htype use huse

lemma rightly_of_C_WrapKey {hWrappingKey : ℕ} (hset : AllSettled st) (hall : FitsHolds st)
    (h : C_WrapKey supported b hSession (some m) hWrappingKey hKey rest st = .ok used) :
    ∀ u ∈ used, UsedRightly st hSession m.mechanism u := by
  obtain ⟨wrapKey, key, rfl, hwrap, hread, hlook, hcheck, hwrapped, -⟩ := of_C_WrapKey h
  have hm := wrapMechanisms_types hlook
  obtain ⟨hextractable, hdefined⟩ :=
    defines_of_wrappedCheck (hread.fits hset hall) hm hwrapped
  intro u hu
  rcases List.mem_cons.1 hu with rfl | hu
  · exact rightly_of_wrapKeyCheck CK_RV.noConfusion hset hall (by decide) rfl hm hwrap hcheck
  · rw [List.mem_singleton.1 hu]
    refine ⟨hdefined, hread.read, fun t ht => ?_⟩
    obtain rfl := Option.some.inj ht
    exact hextractable

/-- A key that unwraps with triple DES is a secret key, of any type. -/
lemma rightly_of_useToUnwrap {template : CK_RV} (hset : AllSettled st) (hall : FitsHolds st)
    (h : useToUnwrap supported b hSession (some m) hKey template rest st = .ok used) :
    (∀ u ∈ used, UsedRightly st hSession m.mechanism u) ↔
      (m.mechanism = CKM_DES3_CBC_PAD → ∀ o ∈ st.handleManager.getObject hKey,
        keyTypeOf (st.object o).attributes ∈ [CKK_DES2, CKK_DES3]) := by
  obtain ⟨key, rfl, hu, hlook, hcheck, hclass, hdispatch⟩ := of_useToUnwrap h
  rw [List.forall_mem_singleton]
  by_cases hm : m.mechanism = CKM_DES3_CBC_PAD
  swap
  · have hrow := (unwrapMechanisms_types hlook).resolve_left hm
    exact iff_of_true
      (rightly_of_wrapKeyCheck CK_RV.noConfusion hset hall (by decide) rfl hrow hu hcheck)
      fun he => absurd he hm
  obtain ⟨o, ho, hkey⟩ := hu.object
  have hsecret : keyClass key.attributes = CKO_SECRET_KEY := by
    rw [hm] at hclass hdispatch
    rcases List.mem_cons.1 (hclass.resolve_left (by decide)) with hc | hc
    · exact hc
    · rw [List.mem_singleton.1 hc] at hdispatch
      have hrefused : dispatch b CKM_DES3_CBC_PAD CKO_PRIVATE_KEY = CKR_MECHANISM_INVALID := rfl
      rw [hrefused] at hdispatch
      cases hdispatch
  have hrightly : UsedRightly st hSession m.mechanism ⟨.unwrap, key⟩ ↔
      keyTypeOf key.attributes ∈ [CKK_DES2, CKK_DES3] := by
    refine ⟨fun hr => ?_, fun ht => hu.rightly rfl ?_⟩
    · have hdefined := hr.defined
      dsimp only at hdefined
      rwa [hm, hsecret, defines_unwrap_des3] at hdefined
    · rwa [hm, hsecret, defines_unwrap_des3]
  rw [hrightly, forall_prop_of_true hm, ho, hkey]
  simp only [Option.mem_def, Option.some.injEq, forall_eq']

/-- One of the two checks has found the class and the type of the base key. -/
lemma of_baseKeyCheck {rows rows' : List (Row (UInt64 × Option (List CK_KEY_TYPE)))}
    {mechanism : CK_MECHANISM_TYPE} {value : UInt64 × Option (List CK_KEY_TYPE)}
    {m : AttributeMap} (h : look (rows ++ rows') mechanism = some value)
    (hearly : baseKeyCheck rows mechanism m = CKR_OK)
    (hlate : baseKeyCheck rows' mechanism m = CKR_OK) :
    keyClass m = value.1 ∧ ∀ types ∈ value.2, keyTypeOf m ∈ types := by
  have hcheck : ∀ {rows : List (Row (UInt64 × Option (List CK_KEY_TYPE)))},
      look rows mechanism = some value → baseKeyCheck rows mechanism m = CKR_OK →
      keyClass m = value.1 ∧ ∀ types ∈ value.2, keyTypeOf m ∈ types := by
    intro rows hlook hok
    obtain ⟨objClass, types⟩ := value
    rw [baseKeyCheck, hlook] at hok
    dsimp only at hok
    split at hok
    · cases hok
    rename_i hne
    simp only [Bool.or_eq_true, decide_eq_true_eq, not_or, not_not, ne_eq, Option.any_eq_true,
      not_exists, not_and] at hne
    exact ⟨hne.1, hne.2⟩
  unfold look at h
  rw [List.find?_append] at h
  cases hfirst : rows.find? fun row => row.given && decide (mechanism ∈ row.mechanisms) with
  | none =>
    rw [hfirst, Option.none_or] at h
    exact hcheck h hlate
  | some row =>
    rw [hfirst, Option.some_or] at h
    have hlook : look rows mechanism = some value := by
      rw [look, hfirst]
      exact h
    exact hcheck hlook hearly

/-- The other key of a concatenation is looked at no further than whether it is valid. -/
lemma rightly_of_useToDerive {hOtherKey : ℕ} {template : CK_RV}
    (h : useToDerive supported b hSession (some m) hKey hOtherKey template rest st = .ok used) :
    (∀ u ∈ used, UsedRightly st hSession m.mechanism u) ↔
      (m.mechanism = CKM_CONCATENATE_BASE_AND_KEY → ∀ o ∈ st.handleManager.getObject hOtherKey,
        keyClass (st.object o).attributes = CKO_SECRET_KEY ∧
        (st.object o).attributes.getBooleanValue CKA_DERIVE false = true ∧
        ∃ s, st.handleManager.getSession hSession = some s ∧
          haveRead (st.getState s) ((st.object o).attributes.getBooleanValue CKA_TOKEN false)
            ((st.object o).attributes.getBooleanValue CKA_PRIVATE true) = CKR_OK) := by
  obtain ⟨key, hu, hlook, hearly, hlate, hused⟩ := of_useToDerive h
  have hbase : UsedRightly st hSession m.mechanism ⟨.derive, key⟩ := by
    obtain ⟨value, hvalue⟩ := Option.isSome_iff_exists.1 hlook
    obtain ⟨row, hrow, hmech, hrowvalue⟩ := of_look hvalue
    obtain ⟨hc, ht⟩ := of_baseKeyCheck hvalue hearly hlate
    refine hu.rightly rfl ?_
    rw [hc, ← hrowvalue]
    exact derive_table hrow hmech (hrowvalue ▸ ht)
  by_cases hm : m.mechanism = CKM_CONCATENATE_BASE_AND_KEY
  swap
  · rw [if_neg hm] at hused
    rw [hused, List.forall_mem_singleton]
    exact iff_of_true hbase fun he => absurd he hm
  rw [if_pos hm] at hused
  obtain ⟨o, ho, -, rfl⟩ := hused
  rw [List.forall_mem_cons, List.forall_mem_singleton, and_iff_right hbase, forall_prop_of_true hm, ho]
  simp only [Option.mem_def, Option.some.injEq, forall_eq']
  refine ⟨fun hr => ⟨?_, hr.permitted _ rfl, hr.read⟩, fun ⟨hc, hd, hread⟩ => ⟨?_, hread, ?_⟩⟩
  · have hdefined := hr.defined
    dsimp only at hdefined
    rwa [hm, defines_concatenated] at hdefined
  · dsimp only
    rwa [hm, defines_concatenated]
  · intro t ht
    obtain rfl := Option.some.inj ht
    exact hd

lemma rightly_of_useToEncapsulate {template : CK_RV} (hset : AllSettled st) (hall : FitsHolds st)
    (huse : use ∈ [KeyUse.encapsulate, .decapsulate]) (hattr : use.attribute = some usage)
    (h : useToEncapsulate supported use usage hSession (some m) hKey template rest st = .ok used) :
    ∀ u ∈ used, UsedRightly st hSession m.mechanism u := by
  obtain ⟨key, rfl, hu, hm⟩ := of_useToEncapsulate h
  have hfits := hu.toReadable.fits hset hall
  have hboth : use ∈ keyUses ∧ usage ∈ [CKA_ENCAPSULATE, CKA_DECAPSULATE] ∧
      defines use CKM_ML_KEM (classByType use CKK_ML_KEM) CKK_ML_KEM = true := by
    rcases List.mem_cons.1 huse with rfl | hmem
    · obtain rfl := Option.some.inj hattr
      decide +kernel
    · obtain rfl := List.mem_singleton.1 hmem
      obtain rfl := Option.some.inj hattr
      decide +kernel
  have htype : keyTypeOf key.attributes = CKK_ML_KEM := by
    obtain ⟨x, hx, -, hv, a, ha, hat⟩ := hfits.kind_of_use hboth.1 hattr hu.usage
    exact encapsulation_table x hx _ hv a ha (hat ▸ hboth.2.1)
  rw [List.forall_mem_singleton]
  refine hu.rightly hattr ?_
  rw [hfits.class_of_use hboth.1 hattr hu.usage, hm, htype]
  exact hboth.2.2

/-- Any object may be digested that has a value. -/
lemma rightly_of_C_DigestKey {digestOp : Sess → Option CK_MECHANISM_TYPE} {hObject : ℕ}
    (h : C_DigestKey digestOp hSession hObject rest st = .ok used) :
    (∀ u ∈ used, UsedRightly st hSession 0 u) ↔
      ∀ o ∈ st.handleManager.getObject hObject,
        keyClass (st.object o).attributes = CKO_SECRET_KEY := by
  obtain ⟨key, rfl, hread⟩ := of_C_DigestKey h
  obtain ⟨o, ho, hkey⟩ := hread.object
  have hdigest : ∀ {c t}, defines .digest 0 c t = true ↔ c = CKO_SECRET_KEY := by
    intro c t
    rw [defines, if_pos rfl, decide_eq_true_eq]
  rw [List.forall_mem_singleton, ho, hkey]
  simp only [Option.mem_def, Option.some.injEq, forall_eq']
  rw [← hkey]
  exact ⟨fun hr => hdigest.1 hr.defined, fun hc => ⟨hdigest.2 hc, hread.read, fun _ ht => nomatch ht⟩⟩

/-- **One call.** -/
lemma rightly_iff (hset : AllSettled st) (hall : FitsHolds st)
    {digestOp : Sess → Option CK_MECHANISM_TYPE} {call : KeyCall}
    (h : call.perform supported b digestOp hSession rest st = .ok used) :
    (∀ u ∈ used, UsedRightly st hSession call.mechanism u) ↔ call.Fitting st hSession := by
  cases call with
  | digestKey hObject => exact rightly_of_C_DigestKey h
  | withMechanism call pMechanism =>
    cases pMechanism with
    | none => exact absurd h perform_none
    | some m =>
      have hnothing : used = [] → ∀ u ∈ used, UsedRightly st hSession m.mechanism u := by
        rintro rfl u hu
        cases hu
      cases call with
      | digestInit => exact iff_of_true (hnothing (of_C_DigestInit h)) trivial
      | generateKey | generateKeyPair => exact iff_of_true (hnothing (of_generates h)) trivial
      | encryptInit hKey =>
        refine iff_of_true (rightly_of_keyInit hset hall (by decide) rfl ?_ h) trivial
        split
        · exact symKeyTypes_encrypt b _
        · exact asymKeyTypes_encrypt
      | decryptInit hKey =>
        refine iff_of_true (rightly_of_keyInit hset hall (by decide) rfl ?_ h) trivial
        split
        · exact symKeyTypes_decrypt b _
        · exact asymKeyTypes_decrypt
      | signInit hKey =>
        refine iff_of_true (rightly_of_keyInit hset hall (by decide) rfl ?_ h) trivial
        split
        · exact macKeyTypes_sign b
        · exact signKeyTypes_sign b
      | verifyInit hKey =>
        refine iff_of_true (rightly_of_keyInit hset hall (by decide) rfl ?_ h) trivial
        split
        · exact macKeyTypes_verify b
        · exact signKeyTypes_verify b
      | wrapKey hWrappingKey hKey => exact iff_of_true (rightly_of_C_WrapKey hset hall h) trivial
      | unwrapKey hUnwrappingKey template => exact rightly_of_useToUnwrap hset hall h
      | deriveKey hBaseKey hOtherKey template => exact rightly_of_useToDerive h
      | encapsulateKey hPublicKey template =>
        exact iff_of_true (rightly_of_useToEncapsulate hset hall (by decide) rfl h) trivial
      | decapsulateKey hPrivateKey template =>
        exact iff_of_true (rightly_of_useToEncapsulate hset hall (by decide) rfl h) trivial

end calls

/-! ### Runs -/

section runs

variable [DecidableEq Obj] [DecidableEq Sess] {P : Primitives} {st₀ st : Store Obj Sess}
  {evs : List (Event Obj)}

/-- **What an object may be used for**, in every state that is reached: an object that permits a use is
a key of a kind that has it, and of the class that goes with its type and that use. -/
theorem usage_runs (h₀ : Fresh st₀) (hr : Run (Event.Step P) st₀ evs st) :
    ∀ o m, (st.object o).shown = some m → ∀ use ∈ keyUses, ∀ t ∈ use.attribute,
      m.getBooleanValue t false = true →
      keyClass m = classByType use (keyTypeOf m) ∧
        ∃ x ∈ kinds, keyClass m = x.1 ∧ keyTypeOf m ∈ keyTypesOf x.2 ∧
          ∃ a ∈ x.2.attributes, a.type = t := by
  intro o m hm use huse t ht htrue
  have hfits := (run_fits h₀ hr).2 o m hm
  exact ⟨hfits.class_of_use huse ht htrue, hfits.kind_of_use huse ht htrue⟩

/-- **The keys that are used**, in every state that is reached: the ones that a call uses are all used as
they allow if and only if what the call does not look at itself is so. -/
theorem keys_used_rightly (h₀ : Fresh st₀) (hr : Run (Event.Step P) st₀ evs st)
    {supported : List CK_MECHANISM_TYPE} {b : Build} {digestOp : Sess → Option CK_MECHANISM_TYPE}
    {hSession : ℕ} {rest : CK_RV} {call : KeyCall} {used : List Used}
    (h : call.perform supported b digestOp hSession rest st = .ok used) :
    (∀ u ∈ used, UsedRightly st hSession call.mechanism u) ↔ call.Fitting st hSession := by
  obtain ⟨hset, hall⟩ := run_fits h₀ hr
  exact rightly_iff hset hall h

end runs

theorem usage_runs_plainKey : ∃ m, (oneKey.object 0).shown = some m ∧
    m.getBooleanValue CKA_ENCRYPT false = true ∧
    keyClass m = classByType .encrypt (keyTypeOf m) := by
  have hshown : (oneKey.object 0).shown.map (·.getBooleanValue CKA_ENCRYPT false) = some true := by
    decide +kernel
  obtain ⟨m, hm, htrue⟩ := Option.map_eq_some_iff.1 hshown
  have hruns := usage_runs fresh_oneSession (Run.single step_plainKey) 0 m hm .encrypt (by decide)
    CKA_ENCRYPT rfl htrue
  exact ⟨m, hm, htrue, hruns.1⟩

/-- The key encrypts. -/
theorem keys_used_rightly_plainKey : ∃ used,
    (KeyCall.withMechanism (.encryptInit 2) (some ⟨CKM_AES_ECB, CKR_OK⟩)).perform [CKM_AES_ECB] plainBuild
      (fun _ => none) 1 CKR_OK oneKey = .ok used ∧
      ∀ u ∈ used, UsedRightly oneKey 1 CKM_AES_ECB u := by
  have hok : ((KeyCall.withMechanism (.encryptInit 2) (some ⟨CKM_AES_ECB, CKR_OK⟩)).perform
      [CKM_AES_ECB] plainBuild (fun _ => none) 1 CKR_OK oneKey).toOption.isSome = true := by decide +kernel
  cases hcall : (KeyCall.withMechanism (.encryptInit 2) (some ⟨CKM_AES_ECB, CKR_OK⟩)).perform
      [CKM_AES_ECB] plainBuild (fun _ => none) 1 CKR_OK oneKey with
  | error rv =>
    rw [hcall] at hok
    cases hok
  | ok used =>
    exact ⟨used, rfl,
      (keys_used_rightly fresh_oneSession (Run.single step_plainKey) hcall).2 trivial⟩

end SoftHSM.Create
