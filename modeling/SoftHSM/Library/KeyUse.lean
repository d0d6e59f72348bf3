import SoftHSM.Library.Mechanisms
import SoftHSM.Library.Plans

/-!
The calls that take a mechanism or put a key to use, up to where the cryptography begins: which
objects they use, for what, and what they check before. What a mechanism's parameter and the
cryptography come to is with the call.
-/

namespace SoftHSM.Create

open CK_RV Search File

/-- A mechanism, with what the check of its parameter says. -/
structure Mechanism where
  mechanism : CK_MECHANISM_TYPE
  parameter : CK_RV

inductive KeyUse
  | encrypt
  | decrypt
  | sign
  | verify
  | digest
  | wrap
  | wrapped
  | unwrap
  | derive
  | concatenated
  | encapsulate
  | decapsulate
  deriving DecidableEq

/-- An object that a call takes key material from. -/
structure Used where
  use : KeyUse
  key : OSObject

/-! ### The mechanisms of each call -/

/-- Some mechanisms, if the build has them, with what goes with them. -/
structure Row (α : Type) where
  given : Bool
  mechanisms : List CK_MECHANISM_TYPE
  value : α

def look {α : Type} (rows : List (Row α)) (mechanism : CK_MECHANISM_TYPE) : Option α :=
  (rows.find? fun row => row.given && decide (mechanism ∈ row.mechanisms)).map (·.value)

def isSymMechanism (mechanism : CK_MECHANISM_TYPE) : Bool :=
  decide (mechanism ∈ [CKM_DES_ECB, CKM_DES_CBC, CKM_DES_CBC_PAD, CKM_DES3_ECB, CKM_DES3_CBC,
    CKM_DES3_CBC_PAD, CKM_AES_ECB, CKM_AES_CBC, CKM_AES_CBC_PAD, CKM_AES_CTR, CKM_AES_GCM,
    CKM_GOST28147_ECB, CKM_GOST28147, CKM_VENDOR_GOST28147_CBC_FSS, CKM_KUZNECHIK_ECB,
    CKM_MAGMA_ECB, CKM_KUZNECHIK_CTR_ACPKM, CKM_MAGMA_CTR_ACPKM, CKM_KUZNECHIK_MGM,
    CKM_MAGMA_MGM])

def isMacMechanism (b : Build) (mechanism : CK_MECHANISM_TYPE) : Bool :=
  decide (mechanism ∈ [CKM_MD5_HMAC, CKM_SHA_1_HMAC, CKM_SHA224_HMAC, CKM_SHA256_HMAC,
    CKM_SHA384_HMAC, CKM_SHA512_HMAC, CKM_DES3_CMAC, CKM_AES_CMAC, CKM_GOST28147_MAC,
    CKM_KUZNECHIK_MAC, CKM_MAGMA_MAC]) ||
  b.WITH_GOST_3411_2012 && decide (mechanism = CKM_GOSTR3411_12_256_HMAC) ||
  b.WITH_GOST_3411_2012_512 && decide (mechanism = CKM_GOSTR3411_12_512_HMAC) ||
  b.WITH_GOST && decide (mechanism = CKM_GOSTR3411_HMAC)

/-- The types of the keys for a cipher, the same in both directions. -/
def symKeyTypes (b : Build) (fakeRutokenECP : Bool) : List (Row (List CK_KEY_TYPE)) :=
  [⟨!b.WITH_FIPS, [CKM_DES_ECB, CKM_DES_CBC, CKM_DES_CBC_PAD], [CKK_DES]⟩,
    ⟨true, [CKM_DES3_ECB, CKM_DES3_CBC, CKM_DES3_CBC_PAD], [CKK_DES2, CKK_DES3]⟩,
    ⟨true, [CKM_KUZNECHIK_ECB, CKM_KUZNECHIK_CTR_ACPKM, CKM_KUZNECHIK_MGM], [CKK_KUZNECHIK]⟩,
    ⟨true, [CKM_GOST28147_ECB, CKM_GOST28147], [CKK_GOST28147]⟩,
    ⟨fakeRutokenECP, [CKM_VENDOR_GOST28147_CBC_FSS], [CKK_GOST28147]⟩,
    ⟨true, [CKM_MAGMA_ECB, CKM_MAGMA_CTR_ACPKM, CKM_MAGMA_MGM], [CKK_MAGMA]⟩,
    ⟨true, [CKM_AES_ECB, CKM_AES_CBC, CKM_AES_CBC_PAD, CKM_AES_CTR, CKM_AES_GCM], [CKK_AES]⟩]

def asymKeyTypes : List (Row (List CK_KEY_TYPE)) :=
  [⟨true, [CKM_RSA_PKCS, CKM_RSA_X_509, CKM_RSA_PKCS_OAEP], [CKK_RSA]⟩]

/-- The types of the keys for a code, the same for signing and for verifying. -/
def macKeyTypes (b : Build) : List (Row (List CK_KEY_TYPE)) :=
  [⟨!b.WITH_FIPS, [CKM_MD5_HMAC], [CKK_GENERIC_SECRET, CKK_MD5_HMAC]⟩,
    ⟨true, [CKM_SHA_1_HMAC], [CKK_GENERIC_SECRET, CKK_SHA_1_HMAC]⟩,
    ⟨true, [CKM_SHA224_HMAC], [CKK_GENERIC_SECRET, CKK_SHA224_HMAC]⟩,
    ⟨true, [CKM_SHA256_HMAC], [CKK_GENERIC_SECRET, CKK_SHA256_HMAC]⟩,
    ⟨true, [CKM_SHA384_HMAC], [CKK_GENERIC_SECRET, CKK_SHA384_HMAC]⟩,
    ⟨true, [CKM_SHA512_HMAC], [CKK_GENERIC_SECRET, CKK_SHA512_HMAC]⟩,
    ⟨b.WITH_GOST_3411_2012, [CKM_GOSTR3411_12_256_HMAC], [CKK_GENERIC_SECRET, CKK_GOST28147]⟩,
    ⟨b.WITH_GOST_3411_2012_512, [CKM_GOSTR3411_12_512_HMAC],
      [CKK_GENERIC_SECRET, CKK_GOST28147]⟩,
    ⟨b.WITH_GOST, [CKM_GOSTR3411_HMAC], [CKK_GENERIC_SECRET, CKK_GOST28147]⟩,
    ⟨true, [CKM_DES3_CMAC], [CKK_DES2, CKK_DES3]⟩,
    ⟨true, [CKM_AES_CMAC], [CKK_AES]⟩,
    ⟨true, [CKM_KUZNECHIK_MAC], [CKK_KUZNECHIK]⟩,
    ⟨true, [CKM_GOST28147_MAC], [CKK_GOST28147]⟩,
    ⟨true, [CKM_MAGMA_MAC], [CKK_MAGMA]⟩]

/-- The types of the keys for a signature, the same for signing and for verifying. -/
def signKeyTypes (b : Build) : List (Row (List CK_KEY_TYPE)) :=
  [⟨true, [CKM_RSA_PKCS, CKM_RSA_X_509], [CKK_RSA]⟩,
    ⟨!b.WITH_FIPS, [CKM_MD5_RSA_PKCS], [CKK_RSA]⟩,
    ⟨true, [CKM_SHA1_RSA_PKCS, CKM_SHA224_RSA_PKCS, CKM_SHA256_RSA_PKCS, CKM_SHA384_RSA_PKCS,
      CKM_SHA512_RSA_PKCS], [CKK_RSA]⟩,
    ⟨b.WITH_RAW_PSS, [CKM_RSA_PKCS_PSS], [CKK_RSA]⟩,
    ⟨true, [CKM_SHA1_RSA_PKCS_PSS, CKM_SHA224_RSA_PKCS_PSS, CKM_SHA256_RSA_PKCS_PSS,
      CKM_SHA384_RSA_PKCS_PSS, CKM_SHA512_RSA_PKCS_PSS], [CKK_RSA]⟩,
    ⟨true, [CKM_DSA, CKM_DSA_SHA1, CKM_DSA_SHA224, CKM_DSA_SHA256, CKM_DSA_SHA384,
      CKM_DSA_SHA512], [CKK_DSA]⟩,
    ⟨b.WITH_ECC, [CKM_ECDSA, CKM_ECDSA_SHA1, CKM_ECDSA_SHA224, CKM_ECDSA_SHA256,
      CKM_ECDSA_SHA384, CKM_ECDSA_SHA512], [CKK_EC]⟩,
    ⟨b.WITH_GOST, [CKM_GOSTR3410, CKM_GOSTR3410_WITH_GOSTR3411], [CKK_GOSTR3410]⟩,
    ⟨b.WITH_GOST_3410_2012_256 && !b.WITH_GOST,
      [CKM_GOSTR3410, CKM_GOSTR3410_WITH_GOSTR3411_2012_256], [CKK_GOSTR3410]⟩,
    ⟨b.WITH_GOST_3410_2012_512, [CKM_GOSTR3410_512, CKM_GOSTR3410_WITH_GOSTR3411_12_512],
      [CKK_GOSTR3410_512]⟩,
    ⟨b.WITH_EDDSA, [CKM_EDDSA], [CKK_EC_EDWARDS]⟩,
    ⟨b.WITH_ML_DSA, [CKM_ML_DSA], [CKK_ML_DSA]⟩]

def digestMechanisms (b : Build) : List (Row Unit) :=
  [⟨!b.WITH_FIPS, [CKM_MD5], ()⟩,
    ⟨true, [CKM_SHA_1, CKM_SHA224, CKM_SHA256, CKM_SHA384, CKM_SHA512], ()⟩,
    ⟨b.WITH_GOST, [CKM_GOSTR3411], ()⟩,
    ⟨b.WITH_GOST_3411_2012, [CKM_GOSTR3411_2012_256], ()⟩,
    ⟨b.WITH_GOST_3411_2012_512, [CKM_GOSTR3411_12_512], ()⟩]

def keyGenMechanisms (b : Build) : List (Row Unit) :=
  [⟨true, [CKM_DSA_PARAMETER_GEN, CKM_DH_PKCS_PARAMETER_GEN], ()⟩,
    ⟨!b.WITH_FIPS, [CKM_DES_KEY_GEN], ()⟩,
    ⟨true, [CKM_DES2_KEY_GEN, CKM_DES3_KEY_GEN, CKM_AES_KEY_GEN, CKM_GENERIC_SECRET_KEY_GEN,
      CKM_GOST28147_KEY_GEN, CKM_KUZNECHIK_KEY_GEN, CKM_MAGMA_KEY_GEN], ()⟩]

def keyPairGenMechanisms (b : Build) : List (Row Unit) :=
  [⟨true, [CKM_RSA_PKCS_KEY_PAIR_GEN, CKM_DSA_KEY_PAIR_GEN, CKM_DH_PKCS_KEY_PAIR_GEN], ()⟩,
    ⟨b.WITH_ECC, [CKM_EC_KEY_PAIR_GEN], ()⟩,
    ⟨b.WITH_GOST || b.WITH_GOST_3410_2012_256, [CKM_GOSTR3410_KEY_PAIR_GEN], ()⟩,
    ⟨b.WITH_GOST_3410_2012_512, [CKM_GOSTR3410_512_KEY_PAIR_GEN], ()⟩,
    ⟨b.WITH_EDDSA, [CKM_EC_EDWARDS_KEY_PAIR_GEN], ()⟩,
    ⟨b.WITH_ML_DSA, [CKM_ML_DSA_KEY_PAIR_GEN], ()⟩,
    ⟨b.WITH_ML_KEM, [CKM_ML_KEM_KEY_PAIR_GEN], ()⟩]

/-- The class and the types of the base keys of a derivation that are checked before `CKA_DERIVE`
is looked at. -/
def earlyDeriveKeyTypes (b : Build) : List (Row (UInt64 × Option (List CK_KEY_TYPE))) :=
  [⟨b.WITH_GOST_3410_2012_256, [CKM_GOSTR3410_12_DERIVE], CKO_PRIVATE_KEY,
      some (CKK_GOSTR3410 :: if b.WITH_GOST_3410_2012_512 then [CKK_GOSTR3410_512] else [])⟩,
    ⟨b.WITH_GOST_3410_2012_256, [CKM_KDF_HMAC3411_2012_256, CKM_KDF_TREE_GOSTR3411_2012_256],
      CKO_SECRET_KEY, some [CKK_GOST28147, CKK_MAGMA, CKK_KUZNECHIK]⟩]

/-- Those that are checked after the template. A concatenation takes every secret key. -/
def lateDeriveKeyTypes (b : Build) : List (Row (UInt64 × Option (List CK_KEY_TYPE))) :=
  [⟨true, [CKM_DH_PKCS_DERIVE], CKO_PRIVATE_KEY, some [CKK_DH]⟩,
    ⟨b.WITH_GOST_3410_2012_256, [CKM_GOST_KEG], CKO_PRIVATE_KEY,
      some (CKK_GOSTR3410 :: if b.WITH_GOST_3410_2012_512 then [CKK_GOSTR3410_512] else [])⟩,
    ⟨b.WITH_GOST_3410_2012_256 && b.WITH_GOST_3410_2012_512, [CKM_VKO_GOSTR3410_2012_512],
      CKO_PRIVATE_KEY, some [CKK_GOSTR3410_512]⟩,
    ⟨b.WITH_ECC || b.WITH_EDDSA, [CKM_ECDH1_DERIVE], CKO_PRIVATE_KEY,
      some ((if b.WITH_ECC then [CKK_EC] else []) ++
        if b.WITH_EDDSA then [CKK_EC_EDWARDS] else [])⟩,
    ⟨!b.WITH_FIPS, [CKM_DES_ECB_ENCRYPT_DATA, CKM_DES_CBC_ENCRYPT_DATA], CKO_SECRET_KEY,
      some [CKK_DES]⟩,
    ⟨true, [CKM_DES3_ECB_ENCRYPT_DATA, CKM_DES3_CBC_ENCRYPT_DATA], CKO_SECRET_KEY,
      some [CKK_DES2, CKK_DES3]⟩,
    ⟨true, [CKM_AES_ECB_ENCRYPT_DATA, CKM_AES_CBC_ENCRYPT_DATA], CKO_SECRET_KEY,
      some [CKK_AES]⟩,
    ⟨true, [CKM_CONCATENATE_DATA_AND_BASE, CKM_CONCATENATE_BASE_AND_DATA,
      CKM_CONCATENATE_BASE_AND_KEY], CKO_SECRET_KEY, none⟩]

/-- The mechanisms that wrap, and those that unwrap with the one that only unwraps. -/
def wrapMechanisms (b : Build) : List (Row Unit) :=
  [⟨b.HAVE_AES_KEY_WRAP, [CKM_AES_KEY_WRAP], ()⟩,
    ⟨b.HAVE_AES_KEY_WRAP_PAD, [CKM_AES_KEY_WRAP_PAD], ()⟩,
    ⟨true, [CKM_RSA_PKCS, CKM_RSA_PKCS_OAEP, CKM_RSA_AES_KEY_WRAP, CKM_AES_CBC, CKM_AES_CBC_PAD,
      CKM_GOST28147_KEY_WRAP, CKM_KUZNECHIK_KEXP_15_WRAP, CKM_MAGMA_KEXP_15_WRAP], ()⟩]

def unwrapMechanisms (b : Build) : List (Row Unit) :=
  wrapMechanisms b ++ [⟨true, [CKM_DES3_CBC_PAD], ()⟩]

/-- The mechanisms of `WrapKeySym` and `UnwrapKeySym`, and those of `WrapKeyAsym` and
`UnwrapKeyAsym`. -/
def symWrapMechanisms (b : Build) : List (Row Unit) :=
  [⟨true, [CKM_KUZNECHIK_KEXP_15_WRAP, CKM_MAGMA_KEXP_15_WRAP, CKM_GOST28147_KEY_WRAP], ()⟩,
    ⟨b.HAVE_AES_KEY_WRAP, [CKM_AES_KEY_WRAP], ()⟩,
    ⟨b.HAVE_AES_KEY_WRAP_PAD, [CKM_AES_KEY_WRAP_PAD], ()⟩,
    ⟨true, [CKM_AES_CBC, CKM_AES_CBC_PAD, CKM_DES3_CBC, CKM_DES3_CBC_PAD], ()⟩]

def asymWrapMechanisms : List (Row Unit) := [⟨true, [CKM_RSA_PKCS, CKM_RSA_PKCS_OAEP], ()⟩]

/-- The types of the private keys that can be wrapped. -/
def wrappedPrivateTypes (b : Build) : List CK_KEY_TYPE :=
  [CKK_RSA, CKK_DSA, CKK_DH] ++ (if b.WITH_ECC then [CKK_EC] else []) ++
    (if b.WITH_EDDSA then [CKK_EC_EDWARDS] else []) ++
    (if b.WITH_GOST then [CKK_GOSTR3410] else []) ++
    (if b.WITH_ML_DSA then [CKK_ML_DSA] else []) ++ if b.WITH_ML_KEM then [CKK_ML_KEM] else []

/-! ### The calls -/

def keyClass (m : AttributeMap) : UInt64 := m.getUnsignedLongValue CKA_CLASS CKO_VENDOR_DEFINED

def keyTypeOf (m : AttributeMap) : CK_KEY_TYPE :=
  m.getUnsignedLongValue CKA_KEY_TYPE CKK_VENDOR_DEFINED

variable {Obj Sess : Type}

/-- An answer that is not `CKR_OK` ends a call. -/
def passes (rv : CK_RV) : Except CK_RV Unit := if rv ≠ CKR_OK then throw rv else return ()

/-- How each of these calls begins. -/
def begins (hSession : ℕ) (pMechanism : Option Mechanism) (st : Store Obj Sess) :
    Except CK_RV (Sess × Mechanism) := do
  if !st.isInitialised then throw CKR_CRYPTOKI_NOT_INITIALIZED
  let some pMechanism := pMechanism | throw CKR_ARGUMENTS_BAD
  let some s := st.handleManager.getSession hSession | throw CKR_SESSION_HANDLE_INVALID
  return (s, pMechanism)

section

variable (supported : List CK_MECHANISM_TYPE) (b : Build)

/-- The checks of the key that a call is given first: its class and type where they come before
its use, what it may be used for and with which mechanisms. -/
def useKey (hSession hKey : ℕ) (invalid : CK_RV) (check : AttributeMap → CK_RV)
    (usage : CK_ATTRIBUTE_TYPE) (mechanism : CK_MECHANISM_TYPE) (st : Store Obj Sess) :
    Except CK_RV OSObject := do
  let (_, key) ← keyToUse hSession hKey invalid st
  passes (check key.attributes)
  if !key.attributes.getBooleanValue usage false then throw CKR_KEY_FUNCTION_NOT_PERMITTED
  if !isMechanismPermitted supported (some key.attributes) mechanism then
    throw CKR_MECHANISM_INVALID
  return key

/-- A key type that the mechanism does not take. -/
def inconsistent (types : List CK_KEY_TYPE) (keyType : CK_KEY_TYPE) : CK_RV :=
  if keyType ∉ types then CKR_KEY_TYPE_INCONSISTENT else CKR_OK

/-- What the four calls share that begin an operation with a key. The parameter is checked after
the type of the key, or before it. -/
def keyInit (use : KeyUse) (usage : CK_ATTRIBUTE_TYPE) (keyTypes : List (Row (List CK_KEY_TYPE)))
    (typeFirst : Bool) (hSession : ℕ) (pMechanism : Option Mechanism) (hKey : ℕ) (start : CK_RV)
    (st : Store Obj Sess) : Except CK_RV (List Used) := do
  let (s, m) ← begins hSession pMechanism st
  if (st.session s).opType ≠ .none then throw CKR_OPERATION_ACTIVE
  let key ← useKey supported hSession hKey CKR_OBJECT_HANDLE_INVALID (fun _ => CKR_OK) usage
    m.mechanism st
  let some types := look keyTypes m.mechanism | throw CKR_MECHANISM_INVALID
  if typeFirst then
    passes (inconsistent types (keyTypeOf key.attributes))
    passes m.parameter
  else
    passes m.parameter
    passes (inconsistent types (keyTypeOf key.attributes))
  passes start
  return [⟨use, key⟩]

/-- `SymEncryptInit` and `AsymEncryptInit`. -/
def C_EncryptInit (hSession : ℕ) (pMechanism : Option Mechanism) (hKey : ℕ) (start : CK_RV)
    (st : Store Obj Sess) : Except CK_RV (List Used) :=
  keyInit supported .encrypt CKA_ENCRYPT
    (if pMechanism.any fun m => isSymMechanism m.mechanism then symKeyTypes b st.fakeRutokenECP
      else asymKeyTypes) true hSession pMechanism hKey start st

/-- `SymDecryptInit` and `AsymDecryptInit`. -/
def C_DecryptInit (hSession : ℕ) (pMechanism : Option Mechanism) (hKey : ℕ) (start : CK_RV)
    (st : Store Obj Sess) : Except CK_RV (List Used) :=
  keyInit supported .decrypt CKA_DECRYPT
    (if pMechanism.any fun m => isSymMechanism m.mechanism then symKeyTypes b st.fakeRutokenECP
      else asymKeyTypes) true hSession pMechanism hKey start st

/-- `MacSignInit` and `AsymSignInit`. -/
def C_SignInit (hSession : ℕ) (pMechanism : Option Mechanism) (hKey : ℕ) (start : CK_RV)
    (st : Store Obj Sess) : Except CK_RV (List Used) :=
  let isMac := pMechanism.any fun m => isMacMechanism b m.mechanism
  keyInit supported .sign CKA_SIGN (if isMac then macKeyTypes b else signKeyTypes b) isMac hSession
    pMechanism hKey start st

/-- `MacVerifyInit` and `AsymVerifyInit`. -/
def C_VerifyInit (hSession : ℕ) (pMechanism : Option Mechanism) (hKey : ℕ) (start : CK_RV)
    (st : Store Obj Sess) : Except CK_RV (List Used) :=
  let isMac := pMechanism.any fun m => isMacMechanism b m.mechanism
  keyInit supported .verify CKA_VERIFY (if isMac then macKeyTypes b else signKeyTypes b) isMac
    hSession pMechanism hKey start st

def C_DigestInit (hSession : ℕ) (pMechanism : Option Mechanism) (start : CK_RV)
    (st : Store Obj Sess) : Except CK_RV (List Used) := do
  let (s, m) ← begins hSession pMechanism st
  if (st.session s).opType ≠ .none then throw CKR_OPERATION_ACTIVE
  let some () := look (digestMechanisms b) m.mechanism | throw CKR_MECHANISM_INVALID
  passes m.parameter
  passes start
  return []

/-- `C_DigestKey`, with the digest that each session computes. -/
def C_DigestKey (digestOp : Sess → Option CK_MECHANISM_TYPE) (hSession hObject : ℕ)
    (digested : CK_RV) (st : Store Obj Sess) : Except CK_RV (List Used) := do
  if !st.isInitialised then throw CKR_CRYPTOKI_NOT_INITIALIZED
  let some s := st.handleManager.getSession hSession | throw CKR_SESSION_HANDLE_INVALID
  let some algo := digestOp s | throw CKR_OPERATION_NOT_INITIALIZED
  let some o := st.handleManager.getObject hObject | throw CKR_KEY_HANDLE_INVALID
  let key := st.object o
  if !key.valid then throw CKR_KEY_HANDLE_INVALID
  if haveRead (st.getState s) (key.attributes.getBooleanValue CKA_TOKEN false)
      (key.attributes.getBooleanValue CKA_PRIVATE true) ≠ CKR_OK then throw CKR_GENERAL_ERROR
  if algo ∉ [CKM_SHA_1, CKM_SHA224, CKM_SHA256, CKM_SHA384, CKM_SHA512] &&
      (!key.attributes.getBooleanValue CKA_EXTRACTABLE false ||
        key.attributes.getBooleanValue CKA_SENSITIVE false) then throw CKR_KEY_INDIGESTIBLE
  if !AttributeMap.attributeExists key.attributes CKA_VALUE then throw CKR_KEY_INDIGESTIBLE
  passes digested
  return [⟨.digest, key⟩]

/-- The checks of the class and the type of a key that wraps or unwraps. Two of them answer the
same in both directions; the last is never passed. -/
def wrapKeyCheck (rsaClass : UInt64) (rv : CK_RV) (mechanism : CK_MECHANISM_TYPE)
    (key : AttributeMap) : CK_RV :=
  if mechanism ∈ [CKM_AES_KEY_WRAP, CKM_AES_KEY_WRAP_PAD] ∧ keyClass key ≠ CKO_SECRET_KEY then rv
  else if mechanism ∈ [CKM_RSA_PKCS, CKM_RSA_PKCS_OAEP, CKM_RSA_AES_KEY_WRAP] ∧
    keyClass key ≠ rsaClass then rv
  else if mechanism ∈ [CKM_AES_KEY_WRAP, CKM_AES_KEY_WRAP_PAD] ∧ keyTypeOf key ≠ CKK_AES then rv
  else if mechanism ∈ [CKM_RSA_PKCS, CKM_RSA_PKCS_OAEP, CKM_RSA_AES_KEY_WRAP] ∧
    keyTypeOf key ≠ CKK_RSA then rv
  else if mechanism ∈ [CKM_AES_CBC, CKM_AES_CBC_PAD] ∧ keyTypeOf key ≠ CKK_AES then
    CKR_WRAPPING_KEY_TYPE_INCONSISTENT
  else if mechanism = CKM_GOST28147_KEY_WRAP ∧ keyTypeOf key ≠ CKK_GOST28147 then rv
  else if mechanism = CKM_KUZNECHIK_KEXP_15_WRAP ∧ keyTypeOf key ≠ CKK_KUZNECHIK_TWIN_KEY then rv
  else if mechanism = CKM_MAGMA_KEXP_15_WRAP ∧ keyTypeOf key ≠ CKK_MAGMA_TWIN_KEY then rv
  else if mechanism = CKM_DES3_CBC ∧ (keyTypeOf key ≠ CKK_DES2 ∨ keyTypeOf key ≠ CKK_DES3) then
    CKR_WRAPPING_KEY_TYPE_INCONSISTENT
  else CKR_OK

/-- `CKA_WRAP_TEMPLATE`: the key that is wrapped has each of its attributes with its value. -/
def obeysWrapTemplate (wrapKey key : AttributeMap) : Bool :=
  match OrderedMap.get CKA_WRAP_TEMPLATE wrapKey with
  | some (.attributeMap map) => map.all fun entry =>
    match OrderedMap.get entry.1 key with
    | none => false
    | some keyAttr =>
      (peekValue keyAttr).isSome && decide (peekValue keyAttr = peekValue entry.2)
  | _ => true

/-- What makes a key one that is not wrapped. -/
def wrappedCheck (mechanism : CK_MECHANISM_TYPE) (wrapKey key : AttributeMap) : CK_RV :=
  if !key.getBooleanValue CKA_EXTRACTABLE false then CKR_KEY_UNEXTRACTABLE
  else if key.getBooleanValue CKA_WRAP_WITH_TRUSTED false &&
    !wrapKey.getBooleanValue CKA_TRUSTED false then CKR_KEY_NOT_WRAPPABLE
  else if keyClass key ∉ [CKO_SECRET_KEY, CKO_PRIVATE_KEY] then CKR_KEY_NOT_WRAPPABLE
  else if mechanism ∈ [CKM_RSA_PKCS, CKM_RSA_PKCS_OAEP] ∧ keyClass key ≠ CKO_SECRET_KEY then
    CKR_KEY_NOT_WRAPPABLE
  else if mechanism = CKM_GOST28147_KEY_WRAP ∧ keyTypeOf key ≠ CKK_GOST28147 then
    CKR_KEY_NOT_WRAPPABLE
  else if mechanism ∈ [CKM_KUZNECHIK_KEXP_15_WRAP, CKM_MAGMA_KEXP_15_WRAP] ∧
    keyTypeOf key ∉ [CKK_GENERIC_SECRET, CKK_GOST28147, CKK_KUZNECHIK, CKK_MAGMA] then
    CKR_KEY_NOT_WRAPPABLE
  else if !obeysWrapTemplate wrapKey key then CKR_KEY_NOT_WRAPPABLE
  else if keyClass key ≠ CKO_SECRET_KEY ∧ keyTypeOf key ∉ wrappedPrivateTypes b then
    CKR_KEY_NOT_WRAPPABLE
  else CKR_OK

/-- Which of the two procedures takes the key, and whether it has the mechanism. -/
def dispatch (mechanism : CK_MECHANISM_TYPE) (objClass : UInt64) : CK_RV :=
  if mechanism = CKM_RSA_AES_KEY_WRAP then CKR_OK
  else if (look (if objClass = CKO_SECRET_KEY then symWrapMechanisms b else asymWrapMechanisms)
    mechanism).isSome then CKR_OK
  else CKR_MECHANISM_INVALID

def C_WrapKey (hSession : ℕ) (pMechanism : Option Mechanism) (hWrappingKey hKey : ℕ)
    (wrapped : CK_RV) (st : Store Obj Sess) : Except CK_RV (List Used) := do
  let (_, m) ← begins hSession pMechanism st
  let some () := look (wrapMechanisms b) m.mechanism | throw CKR_MECHANISM_INVALID
  passes m.parameter
  let wrapKey ← useKey supported hSession hWrappingKey CKR_WRAPPING_KEY_HANDLE_INVALID
    (wrapKeyCheck CKO_PUBLIC_KEY CKR_WRAPPING_KEY_TYPE_INCONSISTENT m.mechanism) CKA_WRAP
    m.mechanism st
  let (_, key) ← keyToUse hSession hKey CKR_KEY_HANDLE_INVALID st
  passes (wrappedCheck b m.mechanism wrapKey.attributes key.attributes)
  passes (dispatch b m.mechanism (keyClass wrapKey.attributes))
  passes wrapped
  return [⟨.wrap, wrapKey⟩, ⟨.wrapped, key⟩]

/-- `C_UnwrapKey`, with what the checks of the template say. -/
def useToUnwrap (hSession : ℕ) (pMechanism : Option Mechanism) (hUnwrappingKey : ℕ)
    (template unwrapped : CK_RV) (st : Store Obj Sess) : Except CK_RV (List Used) := do
  let (_, m) ← begins hSession pMechanism st
  let some () := look (unwrapMechanisms b) m.mechanism | throw CKR_MECHANISM_INVALID
  passes m.parameter
  let unwrapKey ← useKey supported hSession hUnwrappingKey CKR_UNWRAPPING_KEY_HANDLE_INVALID
    (wrapKeyCheck CKO_PRIVATE_KEY CKR_UNWRAPPING_KEY_TYPE_INCONSISTENT m.mechanism) CKA_UNWRAP
    m.mechanism st
  passes template
  if m.mechanism ≠ CKM_RSA_AES_KEY_WRAP ∧
      keyClass unwrapKey.attributes ∉ [CKO_SECRET_KEY, CKO_PRIVATE_KEY] then
    throw CKR_UNWRAPPING_KEY_TYPE_INCONSISTENT
  passes (dispatch b m.mechanism (keyClass unwrapKey.attributes))
  passes unwrapped
  return [⟨.unwrap, unwrapKey⟩]

/-- The class and the type of a base key, if they are checked here. -/
def baseKeyCheck (rows : List (Row (UInt64 × Option (List CK_KEY_TYPE))))
    (mechanism : CK_MECHANISM_TYPE) (key : AttributeMap) : CK_RV :=
  match look rows mechanism with
  | none => CKR_OK
  | some (objClass, types) =>
    if keyClass key ≠ objClass || types.any (fun types => decide (keyTypeOf key ∉ types)) then
      CKR_KEY_TYPE_INCONSISTENT
    else CKR_OK

/-- `C_DeriveKey`. The other key of a concatenation is looked up by the handle in the parameter. -/
def useToDerive (hSession : ℕ) (pMechanism : Option Mechanism) (hBaseKey hOtherKey : ℕ)
    (template derived : CK_RV) (st : Store Obj Sess) : Except CK_RV (List Used) := do
  let (_, m) ← begins hSession pMechanism st
  let some _ := look (earlyDeriveKeyTypes b ++ lateDeriveKeyTypes b) m.mechanism
    | throw CKR_MECHANISM_INVALID
  let key ← useKey supported hSession hBaseKey CKR_OBJECT_HANDLE_INVALID
    (baseKeyCheck (earlyDeriveKeyTypes b) m.mechanism) CKA_DERIVE m.mechanism st
  passes template
  passes (baseKeyCheck (lateDeriveKeyTypes b) m.mechanism key.attributes)
  passes m.parameter
  if m.mechanism = CKM_CONCATENATE_BASE_AND_KEY then
    let some o := st.handleManager.getObject hOtherKey | throw CKR_OBJECT_HANDLE_INVALID
    if !(st.object o).valid then throw CKR_OBJECT_HANDLE_INVALID
    passes derived
    return [⟨.derive, key⟩, ⟨.concatenated, st.object o⟩]
  passes derived
  return [⟨.derive, key⟩]

/-- What `C_EncapsulateKey` and `C_DecapsulateKey` share. -/
def useToEncapsulate (use : KeyUse) (usage : CK_ATTRIBUTE_TYPE) (hSession : ℕ)
    (pMechanism : Option Mechanism) (hKey : ℕ) (template secret : CK_RV) (st : Store Obj Sess) :
    Except CK_RV (List Used) := do
  let (_, m) ← begins hSession pMechanism st
  if hKey = CK_INVALID_HANDLE then throw CKR_ARGUMENTS_BAD
  let key ← useKey supported hSession hKey CKR_KEY_HANDLE_INVALID (fun _ => CKR_OK) usage
    m.mechanism st
  passes template
  if m.mechanism ≠ CKM_ML_KEM then throw CKR_MECHANISM_INVALID
  passes secret
  return [⟨use, key⟩]

/-- What `C_GenerateKey` and `C_GenerateKeyPair` share. -/
def generates (rows : List (Row Unit)) (hSession : ℕ) (pMechanism : Option Mechanism)
    (generated : CK_RV) (st : Store Obj Sess) : Except CK_RV (List Used) := do
  let (_, m) ← begins hSession pMechanism st
  let some () := look rows m.mechanism | throw CKR_MECHANISM_INVALID
  passes m.parameter
  passes generated
  return []

/-- The calls that take a mechanism. The answer of the rest of each call is with it. -/
inductive MechanismCall
  | digestInit
  | encryptInit (hKey : ℕ)
  | decryptInit (hKey : ℕ)
  | signInit (hKey : ℕ)
  | verifyInit (hKey : ℕ)
  | generateKey
  | generateKeyPair
  | wrapKey (hWrappingKey hKey : ℕ)
  | unwrapKey (hUnwrappingKey : ℕ) (template : CK_RV)
  | deriveKey (hBaseKey hOtherKey : ℕ) (template : CK_RV)
  | encapsulateKey (hPublicKey : ℕ) (template : CK_RV)
  | decapsulateKey (hPrivateKey : ℕ) (template : CK_RV)
  deriving DecidableEq

/-- The answer of a call, or the objects it has used when it answers `CKR_OK`. -/
def MechanismCall.perform (call : MechanismCall) (hSession : ℕ) (pMechanism : Option Mechanism)
    (rest : CK_RV) (st : Store Obj Sess) : Except CK_RV (List Used) :=
  match call with
  | .digestInit => C_DigestInit b hSession pMechanism rest st
  | .encryptInit hKey => C_EncryptInit supported b hSession pMechanism hKey rest st
  | .decryptInit hKey => C_DecryptInit supported b hSession pMechanism hKey rest st
  | .signInit hKey => C_SignInit supported b hSession pMechanism hKey rest st
  | .verifyInit hKey => C_VerifyInit supported b hSession pMechanism hKey rest st
  | .generateKey => generates (keyGenMechanisms b) hSession pMechanism rest st
  | .generateKeyPair => generates (keyPairGenMechanisms b) hSession pMechanism rest st
  | .wrapKey hWrappingKey hKey => C_WrapKey supported b hSession pMechanism hWrappingKey hKey rest st
  | .unwrapKey hUnwrappingKey template =>
    useToUnwrap supported b hSession pMechanism hUnwrappingKey template rest st
  | .deriveKey hBaseKey hOtherKey template =>
    useToDerive supported b hSession pMechanism hBaseKey hOtherKey template rest st
  | .encapsulateKey hPublicKey template =>
    useToEncapsulate supported .encapsulate CKA_ENCAPSULATE hSession pMechanism hPublicKey template
      rest st
  | .decapsulateKey hPrivateKey template =>
    useToEncapsulate supported .decapsulate CKA_DECAPSULATE hSession pMechanism hPrivateKey
      template rest st

end

/-! ### What the checks let through -/

lemma of_passes {α : Type} {rv : CK_RV} {k : Unit → Except CK_RV α} {r : α}
    (h : (passes rv >>= k) = .ok r) : rv = CKR_OK ∧ k () = .ok r := by
  unfold passes at h
  by_cases hrv : rv = CKR_OK
  · rw [if_neg (not_not.2 hrv)] at h
    exact ⟨hrv, h⟩
  · rw [if_pos hrv] at h
    cases h

lemma of_begins {α : Type} {hSession : ℕ} {m : Mechanism} {st : Store Obj Sess}
    {k : Sess × Mechanism → Except CK_RV α} {r : α}
    (h : (begins hSession (some m) st >>= k) = .ok r) :
    ∃ s, st.handleManager.getSession hSession = some s ∧ k (s, m) = .ok r := by
  obtain ⟨⟨s, m'⟩, hbegins, h⟩ := of_bind h
  unfold begins at hbegins
  replace hbegins := (of_check hbegins).2
  dsimp only at hbegins
  cases hs : st.handleManager.getSession hSession with
  | none => rw [hs] at hbegins; cases hbegins
  | some s' => rw [hs] at hbegins; cases hbegins; exact ⟨_, rfl, h⟩

/-- The object of a handle is valid, and the state of the session lets it be read. -/
structure Readable (st : Store Obj Sess) (hSession hKey : ℕ) (key : OSObject) : Prop where
  object : ∃ o, st.handleManager.getObject hKey = some o ∧ key = st.object o
  valid : key.valid = true
  read : ∃ s, st.handleManager.getSession hSession = some s ∧
    haveRead (st.getState s) (key.attributes.getBooleanValue CKA_TOKEN false)
      (key.attributes.getBooleanValue CKA_PRIVATE true) = CKR_OK

lemma readable_of_keyToUse {hSession hKey : ℕ} {invalid : CK_RV} {st : Store Obj Sess} {s : Sess}
    {key : OSObject} (h : keyToUse hSession hKey invalid st = .ok (s, key)) :
    Readable st hSession hKey key := by
  obtain ⟨hs, o, ho, rfl, hv⟩ := of_keyToUse h
  refine ⟨⟨o, ho, rfl⟩, hv, s, hs, ?_⟩
  unfold keyToUse at h
  replace h := (of_check h).2
  rw [hs, ho] at h
  replace h := (of_check h).2
  exact not_not.1 (of_check h).1

variable {supported : List CK_MECHANISM_TYPE} {b : Build} {hSession hKey : ℕ} {invalid : CK_RV}
  {check : AttributeMap → CK_RV} {usage : CK_ATTRIBUTE_TYPE} {mechanism : CK_MECHANISM_TYPE}
  {pMechanism : Option Mechanism} {m : Mechanism} {rest template : CK_RV} {st : Store Obj Sess}
  {key : OSObject} {used : List Used}

/-- What is known of the key that a call checks first. -/
structure Usable (supported : List CK_MECHANISM_TYPE) (st : Store Obj Sess) (hSession hKey : ℕ)
    (usage : CK_ATTRIBUTE_TYPE) (mechanism : CK_MECHANISM_TYPE) (key : OSObject) : Prop
    extends Readable st hSession hKey key where
  usage : key.attributes.getBooleanValue usage false = true
  permitted : isMechanismPermitted supported (some key.attributes) mechanism = true

lemma of_useKey
    (h : useKey supported hSession hKey invalid check usage mechanism st = .ok key) :
    Usable supported st hSession hKey usage mechanism key ∧ check key.attributes = CKR_OK := by
  unfold useKey at h
  obtain ⟨⟨s, key'⟩, hkey, h⟩ := of_bind h
  obtain ⟨hcheck, h⟩ := of_passes h
  obtain ⟨husage, h⟩ := of_check h
  obtain ⟨hpermitted, h⟩ := of_check h
  cases h
  exact ⟨⟨readable_of_keyToUse hkey, by simpa using husage, by simpa using hpermitted⟩, hcheck⟩

lemma of_keyInit {use : KeyUse} {keyTypes : List (Row (List CK_KEY_TYPE))} {typeFirst : Bool}
    (h : keyInit supported use usage keyTypes typeFirst hSession (some m) hKey rest st =
      .ok used) :
    ∃ key types, used = [⟨use, key⟩] ∧
      Usable supported st hSession hKey usage m.mechanism key ∧
      look keyTypes m.mechanism = some types ∧ keyTypeOf key.attributes ∈ types := by
  unfold keyInit at h
  obtain ⟨s, -, h⟩ := of_begins h
  dsimp only at h
  replace h := (of_check h).2
  obtain ⟨key, hkey, h⟩ := of_bind h
  cases hlook : look keyTypes m.mechanism with
  | none => rw [hlook] at h; cases h
  | some types =>
    rw [hlook] at h
    dsimp only at h
    have hconsistent : ∀ {rv}, inconsistent types rv = CKR_OK → rv ∈ types := by
      intro rv hrv
      unfold inconsistent at hrv
      by_contra hnot
      rw [if_pos hnot] at hrv
      cases hrv
    refine ⟨key, types, ?_, (of_useKey hkey).1, rfl, ?_⟩
    · cases typeFirst with
      | true =>
        replace h := (of_passes (of_passes h).2).2
        replace h := (of_passes h).2
        cases h
        rfl
      | false =>
        replace h := (of_passes (of_passes h).2).2
        replace h := (of_passes h).2
        cases h
        rfl
    · cases typeFirst with
      | true => exact hconsistent (of_passes h).1
      | false => exact hconsistent (of_passes (of_passes h).2).1

lemma of_C_WrapKey {hWrappingKey : ℕ}
    (h : C_WrapKey supported b hSession (some m) hWrappingKey hKey rest st = .ok used) :
    ∃ wrapKey key, used = [⟨.wrap, wrapKey⟩, ⟨.wrapped, key⟩] ∧
      Usable supported st hSession hWrappingKey CKA_WRAP m.mechanism wrapKey ∧
      Readable st hSession hKey key ∧
      (look (wrapMechanisms b) m.mechanism).isSome ∧
      wrapKeyCheck CKO_PUBLIC_KEY CKR_WRAPPING_KEY_TYPE_INCONSISTENT m.mechanism
        wrapKey.attributes = CKR_OK ∧
      wrappedCheck b m.mechanism wrapKey.attributes key.attributes = CKR_OK ∧
      dispatch b m.mechanism (keyClass wrapKey.attributes) = CKR_OK := by
  unfold C_WrapKey at h
  obtain ⟨s, -, h⟩ := of_begins h
  dsimp only at h
  cases hlook : look (wrapMechanisms b) m.mechanism with
  | none => rw [hlook] at h; cases h
  | some u =>
    rw [hlook] at h
    replace h := (of_passes h).2
    obtain ⟨wrapKey, hwrap, h⟩ := of_bind h
    obtain ⟨⟨s', key⟩, hkey, h⟩ := of_bind h
    obtain ⟨hwrapped, h⟩ := of_passes h
    obtain ⟨hdispatch, h⟩ := of_passes h
    replace h := (of_passes h).2
    cases h
    exact ⟨wrapKey, key, rfl, (of_useKey hwrap).1, readable_of_keyToUse hkey, rfl,
      (of_useKey hwrap).2, hwrapped, hdispatch⟩

lemma of_useToUnwrap
    (h : useToUnwrap supported b hSession (some m) hKey template rest st = .ok used) :
    ∃ unwrapKey, used = [⟨.unwrap, unwrapKey⟩] ∧
      Usable supported st hSession hKey CKA_UNWRAP m.mechanism unwrapKey ∧
      (look (unwrapMechanisms b) m.mechanism).isSome ∧
      wrapKeyCheck CKO_PRIVATE_KEY CKR_UNWRAPPING_KEY_TYPE_INCONSISTENT m.mechanism
        unwrapKey.attributes = CKR_OK ∧
      (m.mechanism = CKM_RSA_AES_KEY_WRAP ∨
        keyClass unwrapKey.attributes ∈ [CKO_SECRET_KEY, CKO_PRIVATE_KEY]) ∧
      dispatch b m.mechanism (keyClass unwrapKey.attributes) = CKR_OK := by
  unfold useToUnwrap at h
  obtain ⟨s, -, h⟩ := of_begins h
  dsimp only at h
  cases hlook : look (unwrapMechanisms b) m.mechanism with
  | none => rw [hlook] at h; cases h
  | some u =>
    rw [hlook] at h
    replace h := (of_passes h).2
    obtain ⟨unwrapKey, hkey, h⟩ := of_bind h
    replace h := (of_passes h).2
    obtain ⟨hclass, h⟩ := of_check h
    obtain ⟨hdispatch, h⟩ := of_passes h
    replace h := (of_passes h).2
    cases h
    refine ⟨unwrapKey, rfl, (of_useKey hkey).1, rfl, (of_useKey hkey).2, ?_, hdispatch⟩
    by_cases hm : m.mechanism = CKM_RSA_AES_KEY_WRAP
    · exact .inl hm
    · exact .inr (not_not.1 fun hnot => hclass ⟨hm, hnot⟩)

lemma of_useToDerive {hOtherKey : ℕ}
    (h : useToDerive supported b hSession (some m) hKey hOtherKey template rest st = .ok used) :
    ∃ key, Usable supported st hSession hKey CKA_DERIVE m.mechanism key ∧
      (look (earlyDeriveKeyTypes b ++ lateDeriveKeyTypes b) m.mechanism).isSome ∧
      baseKeyCheck (earlyDeriveKeyTypes b) m.mechanism key.attributes = CKR_OK ∧
      baseKeyCheck (lateDeriveKeyTypes b) m.mechanism key.attributes = CKR_OK ∧
      if m.mechanism = CKM_CONCATENATE_BASE_AND_KEY then
        ∃ o, st.handleManager.getObject hOtherKey = some o ∧ (st.object o).valid = true ∧
          used = [⟨.derive, key⟩, ⟨.concatenated, st.object o⟩]
      else used = [⟨.derive, key⟩] := by
  unfold useToDerive at h
  obtain ⟨s, -, h⟩ := of_begins h
  dsimp only at h
  cases hlook : look (earlyDeriveKeyTypes b ++ lateDeriveKeyTypes b) m.mechanism with
  | none => rw [hlook] at h; cases h
  | some row =>
    rw [hlook] at h
    obtain ⟨key, hkey, h⟩ := of_bind h
    replace h := (of_passes h).2
    obtain ⟨hlate, h⟩ := of_passes h
    replace h := (of_passes h).2
    refine ⟨key, (of_useKey hkey).1, rfl, (of_useKey hkey).2, hlate, ?_⟩
    by_cases hconcat : m.mechanism = CKM_CONCATENATE_BASE_AND_KEY
    · rw [if_pos hconcat] at h ⊢
      cases ho : st.handleManager.getObject hOtherKey with
      | none => rw [ho] at h; cases h
      | some o =>
        rw [ho] at h
        obtain ⟨hv, h⟩ := of_check h
        replace h := (of_passes h).2
        cases h
        exact ⟨o, rfl, by simpa using hv, rfl⟩
    · rw [if_neg hconcat] at h ⊢
      replace h := (of_passes h).2
      cases h
      rfl

lemma of_useToEncapsulate {use : KeyUse}
    (h : useToEncapsulate supported use usage hSession (some m) hKey template rest st = .ok used) :
    ∃ key, used = [⟨use, key⟩] ∧ Usable supported st hSession hKey usage m.mechanism key ∧
      m.mechanism = CKM_ML_KEM := by
  unfold useToEncapsulate at h
  obtain ⟨s, -, h⟩ := of_begins h
  dsimp only at h
  replace h := (of_check h).2
  obtain ⟨key, hkey, h⟩ := of_bind h
  replace h := (of_passes h).2
  obtain ⟨hmech, h⟩ := of_check h
  replace h := (of_passes h).2
  cases h
  exact ⟨key, rfl, (of_useKey hkey).1, not_not.1 hmech⟩

lemma of_generates {rows : List (Row Unit)}
    (h : generates rows hSession (some m) rest st = .ok used) : used = [] := by
  unfold generates at h
  obtain ⟨s, -, h⟩ := of_begins h
  dsimp only at h
  cases hlook : look rows m.mechanism with
  | none => rw [hlook] at h; cases h
  | some u =>
    rw [hlook] at h
    replace h := (of_passes (of_passes h).2).2
    cases h
    rfl

lemma of_C_DigestInit (h : C_DigestInit b hSession (some m) rest st = .ok used) : used = [] := by
  unfold C_DigestInit at h
  obtain ⟨s, -, h⟩ := of_begins h
  dsimp only at h
  replace h := (of_check h).2
  cases hlook : look (digestMechanisms b) m.mechanism with
  | none => rw [hlook] at h; cases h
  | some u =>
    rw [hlook] at h
    replace h := (of_passes (of_passes h).2).2
    cases h
    rfl

end SoftHSM.Create
