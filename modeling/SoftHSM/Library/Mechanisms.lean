import Mathlib.Data.String.Basic
import SoftHSM.Lib.OrderedMap
import SoftHSM.Library.MakeKeys

/-!
The mechanisms that are known, those that `slots.mechanisms` enables, and the list that is
reported. A mechanism that is enabled may still be one that a key does not allow.
-/

namespace SoftHSM.Create

open CK_RV

def CKM_MD5 : CK_MECHANISM_TYPE := 0x210
def CKM_SHA224 : CK_MECHANISM_TYPE := 0x255
def CKM_SHA256 : CK_MECHANISM_TYPE := 0x250
def CKM_SHA384 : CK_MECHANISM_TYPE := 0x260
def CKM_SHA512 : CK_MECHANISM_TYPE := 0x270
def CKM_MD5_HMAC : CK_MECHANISM_TYPE := 0x211
def CKM_SHA_1_HMAC : CK_MECHANISM_TYPE := 0x221
def CKM_SHA224_HMAC : CK_MECHANISM_TYPE := 0x256
def CKM_SHA256_HMAC : CK_MECHANISM_TYPE := 0x251
def CKM_SHA384_HMAC : CK_MECHANISM_TYPE := 0x261
def CKM_SHA512_HMAC : CK_MECHANISM_TYPE := 0x271
def CKM_RSA_PKCS : CK_MECHANISM_TYPE := 0x1
def CKM_RSA_X_509 : CK_MECHANISM_TYPE := 0x3
def CKM_MD5_RSA_PKCS : CK_MECHANISM_TYPE := 0x5
def CKM_SHA1_RSA_PKCS : CK_MECHANISM_TYPE := 0x6
def CKM_RSA_PKCS_OAEP : CK_MECHANISM_TYPE := 0x9
def CKM_RSA_AES_KEY_WRAP : CK_MECHANISM_TYPE := 0x1054
def CKM_SHA224_RSA_PKCS : CK_MECHANISM_TYPE := 0x46
def CKM_SHA256_RSA_PKCS : CK_MECHANISM_TYPE := 0x40
def CKM_SHA384_RSA_PKCS : CK_MECHANISM_TYPE := 0x41
def CKM_SHA512_RSA_PKCS : CK_MECHANISM_TYPE := 0x42
def CKM_RSA_PKCS_PSS : CK_MECHANISM_TYPE := 0xd
def CKM_SHA1_RSA_PKCS_PSS : CK_MECHANISM_TYPE := 0xe
def CKM_SHA224_RSA_PKCS_PSS : CK_MECHANISM_TYPE := 0x47
def CKM_SHA256_RSA_PKCS_PSS : CK_MECHANISM_TYPE := 0x43
def CKM_SHA384_RSA_PKCS_PSS : CK_MECHANISM_TYPE := 0x44
def CKM_SHA512_RSA_PKCS_PSS : CK_MECHANISM_TYPE := 0x45
def CKM_DES_ECB : CK_MECHANISM_TYPE := 0x121
def CKM_DES_CBC : CK_MECHANISM_TYPE := 0x122
def CKM_DES_CBC_PAD : CK_MECHANISM_TYPE := 0x125
def CKM_DES_ECB_ENCRYPT_DATA : CK_MECHANISM_TYPE := 0x1100
def CKM_DES_CBC_ENCRYPT_DATA : CK_MECHANISM_TYPE := 0x1101
def CKM_DES3_ECB : CK_MECHANISM_TYPE := 0x132
def CKM_DES3_CBC : CK_MECHANISM_TYPE := 0x133
def CKM_DES3_CBC_PAD : CK_MECHANISM_TYPE := 0x136
def CKM_DES3_ECB_ENCRYPT_DATA : CK_MECHANISM_TYPE := 0x1102
def CKM_DES3_CBC_ENCRYPT_DATA : CK_MECHANISM_TYPE := 0x1103
def CKM_DES3_CMAC : CK_MECHANISM_TYPE := 0x138
def CKM_AES_ECB : CK_MECHANISM_TYPE := 0x1081
def CKM_AES_CBC : CK_MECHANISM_TYPE := 0x1082
def CKM_AES_CBC_PAD : CK_MECHANISM_TYPE := 0x1085
def CKM_AES_CTR : CK_MECHANISM_TYPE := 0x1086
def CKM_AES_GCM : CK_MECHANISM_TYPE := 0x1087
def CKM_AES_KEY_WRAP : CK_MECHANISM_TYPE := 0x2109
def CKM_AES_KEY_WRAP_PAD : CK_MECHANISM_TYPE := 0x210a
def CKM_AES_ECB_ENCRYPT_DATA : CK_MECHANISM_TYPE := 0x1104
def CKM_AES_CBC_ENCRYPT_DATA : CK_MECHANISM_TYPE := 0x1105
def CKM_AES_CMAC : CK_MECHANISM_TYPE := 0x108a
def CKM_DSA : CK_MECHANISM_TYPE := 0x11
def CKM_DSA_SHA1 : CK_MECHANISM_TYPE := 0x12
def CKM_DSA_SHA224 : CK_MECHANISM_TYPE := 0x13
def CKM_DSA_SHA256 : CK_MECHANISM_TYPE := 0x14
def CKM_DSA_SHA384 : CK_MECHANISM_TYPE := 0x15
def CKM_DSA_SHA512 : CK_MECHANISM_TYPE := 0x16
def CKM_DH_PKCS_DERIVE : CK_MECHANISM_TYPE := 0x21
def CKM_ECDSA : CK_MECHANISM_TYPE := 0x1041
def CKM_ECDSA_SHA1 : CK_MECHANISM_TYPE := 0x1042
def CKM_ECDSA_SHA224 : CK_MECHANISM_TYPE := 0x1043
def CKM_ECDSA_SHA256 : CK_MECHANISM_TYPE := 0x1044
def CKM_ECDSA_SHA384 : CK_MECHANISM_TYPE := 0x1045
def CKM_ECDSA_SHA512 : CK_MECHANISM_TYPE := 0x1046
def CKM_ECDH1_DERIVE : CK_MECHANISM_TYPE := 0x1050
def CKM_GOSTR3411 : CK_MECHANISM_TYPE := 0x1210
def CKM_GOSTR3411_HMAC : CK_MECHANISM_TYPE := 0x1211
def CKM_GOSTR3410 : CK_MECHANISM_TYPE := 0x1201
def CKM_GOSTR3410_WITH_GOSTR3411 : CK_MECHANISM_TYPE := 0x1202
def CKM_GOSTR3410_WITH_GOSTR3411_2012_256 : CK_MECHANISM_TYPE := 0xd4321008
def CKM_GOSTR3410_512 : CK_MECHANISM_TYPE := 0xd4321006
def CKM_GOSTR3410_WITH_GOSTR3411_12_512 : CK_MECHANISM_TYPE := 0xd4321009
def CKM_VKO_GOSTR3410_2012_512 : CK_MECHANISM_TYPE := 0xd4321038
def CKM_GOST_KEG : CK_MECHANISM_TYPE := 0xd4321039
def CKM_GOSTR3410_12_DERIVE : CK_MECHANISM_TYPE := 0xd4321007
def CKM_KDF_HMAC3411_2012_256 : CK_MECHANISM_TYPE := 0xd4321028
def CKM_KDF_TREE_GOSTR3411_2012_256 : CK_MECHANISM_TYPE := 0xd432102a
def CKM_GOSTR3411_2012_256 : CK_MECHANISM_TYPE := 0xd4321012
def CKM_GOSTR3411_12_256_HMAC : CK_MECHANISM_TYPE := 0xd4321014
def CKM_GOSTR3411_12_512 : CK_MECHANISM_TYPE := 0xd4321013
def CKM_GOSTR3411_12_512_HMAC : CK_MECHANISM_TYPE := 0xd4321015
def CKM_GOST28147_ECB : CK_MECHANISM_TYPE := 0x1221
def CKM_GOST28147 : CK_MECHANISM_TYPE := 0x1222
def CKM_KUZNECHIK_ECB : CK_MECHANISM_TYPE := 0xd4321031
def CKM_MAGMA_ECB : CK_MECHANISM_TYPE := 0xd4321035
def CKM_KUZNECHIK_CTR_ACPKM : CK_MECHANISM_TYPE := 0xd4321032
def CKM_MAGMA_CTR_ACPKM : CK_MECHANISM_TYPE := 0xd4321036
def CKM_KUZNECHIK_MGM : CK_MECHANISM_TYPE := 0xd432102d
def CKM_MAGMA_MGM : CK_MECHANISM_TYPE := 0xd432102e
def CKM_GOST28147_MAC : CK_MECHANISM_TYPE := 0x1223
def CKM_KUZNECHIK_MAC : CK_MECHANISM_TYPE := 0xd4321033
def CKM_MAGMA_MAC : CK_MECHANISM_TYPE := 0xd4321037
def CKM_GOST28147_KEY_WRAP : CK_MECHANISM_TYPE := 0x1224
def CKM_KUZNECHIK_KEXP_15_WRAP : CK_MECHANISM_TYPE := 0xd432102b
def CKM_MAGMA_KEXP_15_WRAP : CK_MECHANISM_TYPE := 0xd432102c
def CKM_EDDSA : CK_MECHANISM_TYPE := 0x1057
def CKM_ML_DSA : CK_MECHANISM_TYPE := 0x1d
def CKM_ML_KEM : CK_MECHANISM_TYPE := 0x17
def CKM_CONCATENATE_DATA_AND_BASE : CK_MECHANISM_TYPE := 0x363
def CKM_CONCATENATE_BASE_AND_DATA : CK_MECHANISM_TYPE := 0x362
def CKM_CONCATENATE_BASE_AND_KEY : CK_MECHANISM_TYPE := 0x360
def CKM_GOSTR3410_DERIVE : CK_MECHANISM_TYPE := 0x1204
def CKM_VENDOR_GOST28147_CBC_FSS : CK_MECHANISM_TYPE := 0x8000000b

/-- What this is another name of. -/
def CKM_GOSTR3411_12_256 : CK_MECHANISM_TYPE := CKM_GOSTR3411_2012_256
def CKM_GOSTR3410_WITH_GOSTR3411_12_256 : CK_MECHANISM_TYPE :=
  CKM_GOSTR3410_WITH_GOSTR3411_2012_256

/-- The switches of the build. -/
structure Build where
  WITH_FIPS : Bool
  WITH_RAW_PSS : Bool
  HAVE_AES_KEY_WRAP : Bool
  HAVE_AES_KEY_WRAP_PAD : Bool
  WITH_ECC : Bool
  WITH_EDDSA : Bool
  WITH_GOST : Bool
  WITH_GOST_3410_2012_256 : Bool
  WITH_GOST_3410_2012_512 : Bool
  WITH_GOST_3411_2012 : Bool
  WITH_GOST_3411_2012_512 : Bool
  WITH_ML_DSA : Bool
  WITH_ML_KEM : Bool

/-- The names of the mechanisms, with the condition under which the build has them. -/
def mechanismBlocks (b : Build) : List (Bool × List (String × CK_MECHANISM_TYPE)) :=
  [(!b.WITH_FIPS, [("CKM_MD5", CKM_MD5)]),
    (true, [("CKM_SHA_1", CKM_SHA_1), ("CKM_SHA224", CKM_SHA224), ("CKM_SHA256", CKM_SHA256),
      ("CKM_SHA384", CKM_SHA384), ("CKM_SHA512", CKM_SHA512)]),
    (!b.WITH_FIPS, [("CKM_MD5_HMAC", CKM_MD5_HMAC)]),
    (true, [("CKM_SHA_1_HMAC", CKM_SHA_1_HMAC), ("CKM_SHA224_HMAC", CKM_SHA224_HMAC),
      ("CKM_SHA256_HMAC", CKM_SHA256_HMAC), ("CKM_SHA384_HMAC", CKM_SHA384_HMAC),
      ("CKM_SHA512_HMAC", CKM_SHA512_HMAC),
      ("CKM_RSA_PKCS_KEY_PAIR_GEN", CKM_RSA_PKCS_KEY_PAIR_GEN), ("CKM_RSA_PKCS", CKM_RSA_PKCS),
      ("CKM_RSA_X_509", CKM_RSA_X_509)]),
    (!b.WITH_FIPS, [("CKM_MD5_RSA_PKCS", CKM_MD5_RSA_PKCS)]),
    (true, [("CKM_SHA1_RSA_PKCS", CKM_SHA1_RSA_PKCS), ("CKM_RSA_PKCS_OAEP", CKM_RSA_PKCS_OAEP),
      ("CKM_RSA_AES_KEY_WRAP", CKM_RSA_AES_KEY_WRAP),
      ("CKM_SHA224_RSA_PKCS", CKM_SHA224_RSA_PKCS), ("CKM_SHA256_RSA_PKCS", CKM_SHA256_RSA_PKCS),
      ("CKM_SHA384_RSA_PKCS", CKM_SHA384_RSA_PKCS), ("CKM_SHA512_RSA_PKCS", CKM_SHA512_RSA_PKCS)]),
    (b.WITH_RAW_PSS, [("CKM_RSA_PKCS_PSS", CKM_RSA_PKCS_PSS)]),
    (true, [("CKM_SHA1_RSA_PKCS_PSS", CKM_SHA1_RSA_PKCS_PSS),
      ("CKM_SHA224_RSA_PKCS_PSS", CKM_SHA224_RSA_PKCS_PSS),
      ("CKM_SHA256_RSA_PKCS_PSS", CKM_SHA256_RSA_PKCS_PSS),
      ("CKM_SHA384_RSA_PKCS_PSS", CKM_SHA384_RSA_PKCS_PSS),
      ("CKM_SHA512_RSA_PKCS_PSS", CKM_SHA512_RSA_PKCS_PSS),
      ("CKM_GENERIC_SECRET_KEY_GEN", CKM_GENERIC_SECRET_KEY_GEN)]),
    (!b.WITH_FIPS, [("CKM_DES_KEY_GEN", CKM_DES_KEY_GEN)]),
    (true, [("CKM_DES2_KEY_GEN", CKM_DES2_KEY_GEN), ("CKM_DES3_KEY_GEN", CKM_DES3_KEY_GEN)]),
    (!b.WITH_FIPS, [("CKM_DES_ECB", CKM_DES_ECB), ("CKM_DES_CBC", CKM_DES_CBC),
      ("CKM_DES_CBC_PAD", CKM_DES_CBC_PAD),
      ("CKM_DES_ECB_ENCRYPT_DATA", CKM_DES_ECB_ENCRYPT_DATA),
      ("CKM_DES_CBC_ENCRYPT_DATA", CKM_DES_CBC_ENCRYPT_DATA)]),
    (true, [("CKM_DES3_ECB", CKM_DES3_ECB), ("CKM_DES3_CBC", CKM_DES3_CBC),
      ("CKM_DES3_CBC_PAD", CKM_DES3_CBC_PAD),
      ("CKM_DES3_ECB_ENCRYPT_DATA", CKM_DES3_ECB_ENCRYPT_DATA),
      ("CKM_DES3_CBC_ENCRYPT_DATA", CKM_DES3_CBC_ENCRYPT_DATA), ("CKM_DES3_CMAC", CKM_DES3_CMAC),
      ("CKM_AES_KEY_GEN", CKM_AES_KEY_GEN), ("CKM_AES_ECB", CKM_AES_ECB),
      ("CKM_AES_CBC", CKM_AES_CBC), ("CKM_AES_CBC_PAD", CKM_AES_CBC_PAD),
      ("CKM_AES_CTR", CKM_AES_CTR), ("CKM_AES_GCM", CKM_AES_GCM),
      ("CKM_AES_KEY_WRAP", CKM_AES_KEY_WRAP)]),
    (b.HAVE_AES_KEY_WRAP_PAD, [("CKM_AES_KEY_WRAP_PAD", CKM_AES_KEY_WRAP_PAD)]),
    (true, [("CKM_AES_ECB_ENCRYPT_DATA", CKM_AES_ECB_ENCRYPT_DATA),
      ("CKM_AES_CBC_ENCRYPT_DATA", CKM_AES_CBC_ENCRYPT_DATA), ("CKM_AES_CMAC", CKM_AES_CMAC),
      ("CKM_DSA_PARAMETER_GEN", CKM_DSA_PARAMETER_GEN),
      ("CKM_DSA_KEY_PAIR_GEN", CKM_DSA_KEY_PAIR_GEN), ("CKM_DSA", CKM_DSA),
      ("CKM_DSA_SHA1", CKM_DSA_SHA1), ("CKM_DSA_SHA224", CKM_DSA_SHA224),
      ("CKM_DSA_SHA256", CKM_DSA_SHA256), ("CKM_DSA_SHA384", CKM_DSA_SHA384),
      ("CKM_DSA_SHA512", CKM_DSA_SHA512), ("CKM_DH_PKCS_KEY_PAIR_GEN", CKM_DH_PKCS_KEY_PAIR_GEN),
      ("CKM_DH_PKCS_PARAMETER_GEN", CKM_DH_PKCS_PARAMETER_GEN),
      ("CKM_DH_PKCS_DERIVE", CKM_DH_PKCS_DERIVE)]),
    (b.WITH_ECC, [("CKM_EC_KEY_PAIR_GEN", CKM_EC_KEY_PAIR_GEN), ("CKM_ECDSA", CKM_ECDSA),
      ("CKM_ECDSA_SHA1", CKM_ECDSA_SHA1), ("CKM_ECDSA_SHA224", CKM_ECDSA_SHA224),
      ("CKM_ECDSA_SHA256", CKM_ECDSA_SHA256), ("CKM_ECDSA_SHA384", CKM_ECDSA_SHA384),
      ("CKM_ECDSA_SHA512", CKM_ECDSA_SHA512)]),
    (b.WITH_ECC || b.WITH_EDDSA, [("CKM_ECDH1_DERIVE", CKM_ECDH1_DERIVE)]),
    (b.WITH_GOST, [("CKM_GOSTR3411", CKM_GOSTR3411), ("CKM_GOSTR3411_HMAC", CKM_GOSTR3411_HMAC),
      ("CKM_GOSTR3410_KEY_PAIR_GEN", CKM_GOSTR3410_KEY_PAIR_GEN),
      ("CKM_GOSTR3410", CKM_GOSTR3410),
      ("CKM_GOSTR3410_WITH_GOSTR3411", CKM_GOSTR3410_WITH_GOSTR3411)]),
    (b.WITH_GOST_3410_2012_256 && !b.WITH_GOST, [
      ("CKM_GOSTR3410_KEY_PAIR_GEN", CKM_GOSTR3410_KEY_PAIR_GEN),
      ("CKM_GOSTR3410", CKM_GOSTR3410),
      ("CKM_GOSTR3410_WITH_GOSTR3411_2012_256", CKM_GOSTR3410_WITH_GOSTR3411_2012_256)]),
    (b.WITH_GOST_3410_2012_512, [
      ("CKM_GOSTR3410_512_KEY_PAIR_GEN", CKM_GOSTR3410_512_KEY_PAIR_GEN),
      ("CKM_GOSTR3410_512", CKM_GOSTR3410_512),
      ("CKM_GOSTR3410_WITH_GOSTR3411_12_512", CKM_GOSTR3410_WITH_GOSTR3411_12_512),
      ("CKM_VKO_GOSTR3410_2012_512", CKM_VKO_GOSTR3410_2012_512)]),
    (b.WITH_GOST_3410_2012_256, [("CKM_GOST_KEG", CKM_GOST_KEG),
      ("CKM_GOSTR3410_12_DERIVE", CKM_GOSTR3410_12_DERIVE),
      ("CKM_KDF_HMAC3411_2012_256", CKM_KDF_HMAC3411_2012_256),
      ("CKM_KDF_TREE_GOSTR3411_2012_256", CKM_KDF_TREE_GOSTR3411_2012_256)]),
    (b.WITH_GOST_3411_2012, [("CKM_GOSTR3411_2012_256", CKM_GOSTR3411_2012_256),
      ("CKM_GOSTR3411_12_256_HMAC", CKM_GOSTR3411_12_256_HMAC)]),
    (b.WITH_GOST_3411_2012_512, [("CKM_GOSTR3411_12_512", CKM_GOSTR3411_12_512),
      ("CKM_GOSTR3411_12_512_HMAC", CKM_GOSTR3411_12_512_HMAC)]),
    (true, [("CKM_GOST28147_KEY_GEN", CKM_GOST28147_KEY_GEN),
      ("CKM_KUZNECHIK_KEY_GEN", CKM_KUZNECHIK_KEY_GEN), ("CKM_MAGMA_KEY_GEN", CKM_MAGMA_KEY_GEN),
      ("CKM_GOST28147_ECB", CKM_GOST28147_ECB), ("CKM_GOST28147", CKM_GOST28147),
      ("CKM_KUZNECHIK_ECB", CKM_KUZNECHIK_ECB), ("CKM_MAGMA_ECB", CKM_MAGMA_ECB),
      ("CKM_KUZNECHIK_CTR_ACPKM", CKM_KUZNECHIK_CTR_ACPKM),
      ("CKM_MAGMA_CTR_ACPKM", CKM_MAGMA_CTR_ACPKM), ("CKM_KUZNECHIK_MGM", CKM_KUZNECHIK_MGM),
      ("CKM_MAGMA_MGM", CKM_MAGMA_MGM), ("CKM_GOST28147_MAC", CKM_GOST28147_MAC),
      ("CKM_KUZNECHIK_MAC", CKM_KUZNECHIK_MAC), ("CKM_MAGMA_MAC", CKM_MAGMA_MAC),
      ("CKM_GOST28147_KEY_WRAP", CKM_GOST28147_KEY_WRAP),
      ("CKM_KUZNECHIK_KEXP_15_WRAP", CKM_KUZNECHIK_KEXP_15_WRAP),
      ("CKM_MAGMA_KEXP_15_WRAP", CKM_MAGMA_KEXP_15_WRAP)]),
    (b.WITH_EDDSA, [("CKM_EC_EDWARDS_KEY_PAIR_GEN", CKM_EC_EDWARDS_KEY_PAIR_GEN),
      ("CKM_EDDSA", CKM_EDDSA)]),
    (b.WITH_ML_DSA, [("CKM_ML_DSA_KEY_PAIR_GEN", CKM_ML_DSA_KEY_PAIR_GEN),
      ("CKM_ML_DSA", CKM_ML_DSA)]),
    (b.WITH_ML_KEM, [("CKM_ML_KEM_KEY_PAIR_GEN", CKM_ML_KEM_KEY_PAIR_GEN),
      ("CKM_ML_KEM", CKM_ML_KEM)]),
    (true, [("CKM_CONCATENATE_DATA_AND_BASE", CKM_CONCATENATE_DATA_AND_BASE),
      ("CKM_CONCATENATE_BASE_AND_DATA", CKM_CONCATENATE_BASE_AND_DATA),
      ("CKM_CONCATENATE_BASE_AND_KEY", CKM_CONCATENATE_BASE_AND_KEY)])]

/-- The names that a build has. -/
def mechanismEntries (b : Build) : List (String × CK_MECHANISM_TYPE) :=
  (mechanismBlocks b).flatMap fun block => if block.1 then block.2 else []

/-- The table as a build has it, in the order of the names. -/
def mechanisms_table (b : Build) : List (String × CK_MECHANISM_TYPE) :=
  (mechanismEntries b).foldl (fun t e => OrderedMap.put e.1 e.2 t) []

section

variable (t : List (String × CK_MECHANISM_TYPE))

/-- What one name of the list does; a name that is not known does nothing. -/
def prepareToken (negative : Bool) (supportedMechanisms : List CK_MECHANISM_TYPE)
    (token : String) : List CK_MECHANISM_TYPE :=
  match OrderedMap.get token t with
  | some mechanism =>
    if !negative then supportedMechanisms ++ [mechanism]
    else supportedMechanisms.filter (· ≠ mechanism)
  | none => supportedMechanisms

/-- The names from a place on, up to a comma or the end. A comma at the end ends the list. -/
def prepareTokens (negative : Bool) (mechs : List Char) (prev : ℕ)
    (supportedMechanisms : List CK_MECHANISM_TYPE) : List CK_MECHANISM_TYPE :=
  let pos := prev + (mechs.drop prev).idxOf ','
  let token := String.ofList ((mechs.drop prev).take (pos - prev))
  let supportedMechanisms := prepareToken t negative supportedMechanisms token
  if pos < mechs.length ∧ pos + 1 < mechs.length then
    prepareTokens negative mechs (pos + 1) supportedMechanisms
  else supportedMechanisms
termination_by mechs.length - prev
decreasing_by omega

/-- The list in the order of the table, or of the string if it says what is enabled. -/
def prepareSupportedMechanisms (mechs : String) : List CK_MECHANISM_TYPE :=
  let supportedMechanisms := t.map (·.2)
  if mechs = "ALL" then supportedMechanisms
  else
    let negative := mechs.toList.head? = some '-'
    prepareTokens t negative mechs.toList (if negative then 1 else 0)
      (if negative then supportedMechanisms else [])

end

def FAKE_RUTOKEN_MECHANISMS : List CK_MECHANISM_TYPE :=
  [CKM_RSA_PKCS_KEY_PAIR_GEN, CKM_RSA_PKCS, CKM_RSA_X_509, CKM_RSA_PKCS_OAEP, CKM_RSA_PKCS_PSS,
    CKM_MD5_RSA_PKCS, CKM_SHA1_RSA_PKCS, CKM_SHA224_RSA_PKCS, CKM_SHA256_RSA_PKCS,
    CKM_SHA384_RSA_PKCS, CKM_SHA512_RSA_PKCS, CKM_SHA1_RSA_PKCS_PSS, CKM_SHA224_RSA_PKCS_PSS,
    CKM_SHA256_RSA_PKCS_PSS, CKM_SHA384_RSA_PKCS_PSS, CKM_SHA512_RSA_PKCS_PSS, CKM_MD5, CKM_SHA_1,
    CKM_SHA224, CKM_SHA256, CKM_SHA384, CKM_SHA512, CKM_GOSTR3410_KEY_PAIR_GEN, CKM_GOSTR3410,
    CKM_GOSTR3410_DERIVE, CKM_GOSTR3410_512_KEY_PAIR_GEN, CKM_GOSTR3410_512,
    CKM_GOSTR3410_12_DERIVE, CKM_VKO_GOSTR3410_2012_512, CKM_GOSTR3411, CKM_GOSTR3411_12_256,
    CKM_GOSTR3411_12_512, CKM_GOSTR3410_WITH_GOSTR3411, CKM_GOSTR3410_WITH_GOSTR3411_12_256,
    CKM_GOSTR3410_WITH_GOSTR3411_12_512, CKM_GOST28147_KEY_WRAP, CKM_GOST28147_ECB,
    CKM_VENDOR_GOST28147_CBC_FSS, CKM_GOST28147, CKM_GOST28147_KEY_GEN, CKM_GOST28147_MAC,
    CKM_MAGMA_KEY_GEN, CKM_KUZNECHIK_KEY_GEN, CKM_MAGMA_ECB, CKM_KUZNECHIK_ECB,
    CKM_MAGMA_CTR_ACPKM, CKM_KUZNECHIK_CTR_ACPKM, CKM_MAGMA_MGM, CKM_KUZNECHIK_MGM, CKM_MAGMA_MAC,
    CKM_KUZNECHIK_MAC, CKM_GOSTR3411_12_256_HMAC, CKM_GOSTR3411_12_512_HMAC, CKM_GOSTR3411_HMAC,
    CKM_EC_KEY_PAIR_GEN, CKM_ECDSA, CKM_ECDSA_SHA1, CKM_ECDSA_SHA224, CKM_ECDSA_SHA256,
    CKM_ECDSA_SHA384, CKM_ECDSA_SHA512, CKM_EDDSA, CKM_EC_EDWARDS_KEY_PAIR_GEN,
    CKM_KDF_HMAC3411_2012_256, CKM_CONCATENATE_BASE_AND_KEY, CKM_KDF_TREE_GOSTR3411_2012_256,
    CKM_GOST_KEG, CKM_ECDH1_DERIVE, 0xD432102B, 0xD432102C, 0x80000003,
    CKM_GENERIC_SECRET_KEY_GEN]

/-- What the library comes up with: the list of the reference device in its profile. -/
def supportedMechanisms (b : Build) (mechs : String) (fakeRutokenECP : Bool) :
    List CK_MECHANISM_TYPE :=
  if fakeRutokenECP then FAKE_RUTOKEN_MECHANISMS
  else prepareSupportedMechanisms (mechanisms_table b) mechs

/-- `C_GetMechanismList`, with the slots there are: what it answers, the count it leaves and what
it writes into the buffer. Without a buffer it is asked for the count. -/
def C_GetMechanismList (isInitialised : Bool) (slots : CK_SLOT_ID → Bool)
    (supportedMechanisms : List CK_MECHANISM_TYPE) (slotID : CK_SLOT_ID) (hasList : Bool)
    (pulCount : Option ℕ) : CK_RV × Option ℕ × Option (List CK_MECHANISM_TYPE) :=
  if !isInitialised then (CKR_CRYPTOKI_NOT_INITIALIZED, pulCount, none)
  else match pulCount with
    | none => (CKR_ARGUMENTS_BAD, none, none)
    | some count =>
      if !slots slotID then (CKR_SLOT_ID_INVALID, some count, none)
      else if !hasList then (CKR_OK, some supportedMechanisms.length, none)
      else if count < supportedMechanisms.length then
        (CKR_BUFFER_TOO_SMALL, some supportedMechanisms.length, none)
      else (CKR_OK, some supportedMechanisms.length, some supportedMechanisms)

/-- `CKA_ALLOWED_MECHANISMS`. -/
def allowedMechanisms (key : AttributeMap) : Finset CK_MECHANISM_TYPE :=
  match OrderedMap.get CKA_ALLOWED_MECHANISMS key with
  | some (.mechanismTypeSet mechanisms) => mechanisms
  | _ => ∅

def isMechanismPermitted (supportedMechanisms : List CK_MECHANISM_TYPE)
    (key : Option AttributeMap) (mechanism : CK_MECHANISM_TYPE) : Bool :=
  if mechanism ∉ supportedMechanisms then false
  else match key with
    | none => true
    | some key =>
      if allowedMechanisms key = ∅ then true else decide (mechanism ∈ allowedMechanisms key)

/-! ### What the string names -/

/-- The names in the string, which a minus sign in front does not belong to. -/
def names (mechs : String) : List String :=
  ((mechs.toList.drop (if mechs.toList.head? = some '-' then 1 else 0)).splitOn ',').map
    String.ofList

variable {t : List (String × CK_MECHANISM_TYPE)}

lemma prepareToken_unknown {n : String} (h : OrderedMap.get n t = none) (negative : Bool)
    (l : List CK_MECHANISM_TYPE) : prepareToken t negative l n = l := by
  simp [prepareToken, h]

lemma prepareTokens_eq {negative : Bool} (hempty : OrderedMap.get "" t = none)
    {mechs : List Char} {prev : ℕ} (hprev : prev ≤ mechs.length) (l : List CK_MECHANISM_TYPE) :
    prepareTokens t negative mechs prev l =
      (((mechs.drop prev).splitOn ',').map String.ofList).foldl (prepareToken t negative) l := by
  fun_induction prepareTokens t negative mechs prev l with
  | case1 prev l pos token l' hpos ih =>
    rw [ih (by omega)]
    have hmem : ',' ∈ mechs.drop prev := by
      rw [← List.idxOf_lt_length_iff, List.length_drop]
      omega
    obtain ⟨as, bs, heq, has⟩ := List.eq_append_cons_of_mem hmem
    have hidx : (mechs.drop prev).idxOf ',' = as.length := by
      rw [heq, List.idxOf_append, if_neg has, List.idxOf_cons_self, Nat.zero_add]
    have hrest : mechs.drop (pos + 1) = bs := by
      have hdrop : mechs.drop (pos + 1) = (mechs.drop prev).drop (as.length + 1) := by
        rw [List.drop_drop, ← hidx]
        congr 1
      rw [hdrop, heq]
      simp
    have htoken : token = String.ofList as := by
      simp only [token, pos, hidx, Nat.add_sub_cancel_left]
      rw [heq, List.take_left']
      rfl
    rw [hrest, heq, List.splitOn_append_cons_self_of_not_mem has, List.map_cons, List.foldl_cons]
    simp only [l', htoken]
  | case2 prev l pos token l' hpos =>
    by_cases hmem : ',' ∈ mechs.drop prev
    · -- the last comma ends the string, and what follows it is no name
      obtain ⟨as, bs, heq, has⟩ := List.eq_append_cons_of_mem hmem
      have hidx : (mechs.drop prev).idxOf ',' = as.length := by
        rw [heq, List.idxOf_append, if_neg has, List.idxOf_cons_self, Nat.zero_add]
      have hlen : mechs.length = prev + (as.length + 1 + bs.length) := by
        have := congrArg List.length heq
        simp only [List.length_drop, List.length_append, List.length_cons] at this
        omega
      have hbs : bs = [] := by
        apply List.eq_nil_of_length_eq_zero
        omega
      have htoken : token = String.ofList as := by
        simp only [token, pos, hidx, Nat.add_sub_cancel_left]
        rw [heq, List.take_left']
        rfl
      rw [heq, List.splitOn_append_cons_self_of_not_mem has, hbs, List.splitOn_nil]
      simp only [List.map_cons, List.map_nil, List.foldl_cons, List.foldl_nil]
      rw [prepareToken_unknown (show OrderedMap.get (String.ofList []) t = none from hempty)]
      simp only [l', htoken]
    · have hidx : (mechs.drop prev).idxOf ',' = (mechs.drop prev).length :=
        List.idxOf_eq_length hmem
      have htoken : token = String.ofList (mechs.drop prev) := by
        simp only [token, pos, hidx, Nat.add_sub_cancel_left, List.take_length]
      rw [List.splitOn_eq_singleton hmem]
      simp only [List.map_cons, List.map_nil, List.foldl_cons, List.foldl_nil, l', htoken]

lemma foldl_prepareToken_positive (tokens : List String) (l : List CK_MECHANISM_TYPE) :
    tokens.foldl (prepareToken t false) l =
      l ++ tokens.filterMap fun n => OrderedMap.get n t := by
  induction tokens generalizing l with
  | nil => simp
  | cons n tokens ih =>
    rw [List.foldl_cons, ih]
    cases h : OrderedMap.get n t <;> simp [prepareToken, h]

lemma foldl_prepareToken_negative (tokens : List String) (l : List CK_MECHANISM_TYPE) :
    tokens.foldl (prepareToken t true) l =
      l.filter fun m => m ∉ tokens.filterMap fun n => OrderedMap.get n t := by
  induction tokens generalizing l with
  | nil => simp
  | cons n tokens ih =>
    rw [List.foldl_cons, ih]
    cases h : OrderedMap.get n t with
    | none => simp [prepareToken, h]
    | some mechanism =>
      simp only [prepareToken, h, Bool.not_true, Bool.false_eq_true, if_false, List.filter_filter]
      apply List.filter_congr
      intro m _
      simp [h, Bool.and_comm]

/-- What makes a table a table: one mechanism for a name, one name for a mechanism, and no name
that is empty. -/
structure NamesOnce (t : List (String × CK_MECHANISM_TYPE)) : Prop where
  sorted : OrderedMap.Sorted t
  once : ∀ n n' m, OrderedMap.get n t = some m → OrderedMap.get n' t = some m → n = n'
  nonempty : OrderedMap.get "" t = none

/-- What the string enables. -/
def Enables (t : List (String × CK_MECHANISM_TYPE)) (mechs : String) (m : CK_MECHANISM_TYPE) :
    Prop :=
  ∃ n, OrderedMap.get n t = some m ∧
    (mechs = "ALL" ∨ if mechs.toList.head? = some '-' then n ∉ names mechs else n ∈ names mechs)

/-- No known mechanism is named twice where that counts. -/
def NamedOnce (t : List (String × CK_MECHANISM_TYPE)) (mechs : String) : Prop :=
  mechs = "ALL" ∨ mechs.toList.head? = some '-' ∨
    ((names mechs).filter fun n => (OrderedMap.get n t).isSome).Nodup

instance (t : List (String × CK_MECHANISM_TYPE)) (mechs : String) :
    Decidable (NamedOnce t mechs) := by
  unfold NamedOnce
  infer_instance

lemma prepareSupportedMechanisms_positive (hempty : OrderedMap.get "" t = none) {mechs : String}
    (hall : mechs ≠ "ALL") (hminus : mechs.toList.head? ≠ some '-') :
    prepareSupportedMechanisms t mechs = (names mechs).filterMap fun n => OrderedMap.get n t := by
  have heq : prepareTokens t false mechs.toList 0 [] =
      ((mechs.toList.splitOn ',').map String.ofList).foldl (prepareToken t false) [] :=
    prepareTokens_eq hempty (Nat.zero_le _) []
  simp only [prepareSupportedMechanisms, if_neg hall, hminus, decide_false, if_false]
  rw [heq, foldl_prepareToken_positive, names, if_neg hminus, List.nil_append, List.drop_zero]

lemma prepareSupportedMechanisms_negative (hempty : OrderedMap.get "" t = none) {mechs : String}
    (hall : mechs ≠ "ALL") (hminus : mechs.toList.head? = some '-') :
    prepareSupportedMechanisms t mechs =
      (t.map (·.2)).filter fun m => m ∉ (names mechs).filterMap fun n => OrderedMap.get n t := by
  have hone : 1 ≤ mechs.toList.length := by
    cases h : mechs.toList with
    | nil => simp [h] at hminus
    | cons c l => simp
  have heq : prepareTokens t true mechs.toList 1 (t.map (·.2)) =
      (((mechs.toList.drop 1).splitOn ',').map String.ofList).foldl (prepareToken t true)
        (t.map (·.2)) :=
    prepareTokens_eq hempty hone _
  simp only [prepareSupportedMechanisms, if_neg hall, hminus, decide_true, if_true]
  rw [heq, foldl_prepareToken_negative, names, if_pos hminus]

lemma mem_map_snd (h : NamesOnce t) {m : CK_MECHANISM_TYPE} :
    m ∈ t.map (·.2) ↔ ∃ n, OrderedMap.get n t = some m := by
  rw [List.mem_map]
  constructor
  · rintro ⟨⟨n, _⟩, he, rfl⟩
    exact ⟨n, OrderedMap.get_of_mem h.sorted he⟩
  · rintro ⟨n, hn⟩
    exact ⟨(n, m), OrderedMap.mem_of_get hn, rfl⟩

lemma nodup_map_snd (h : NamesOnce t) : (t.map (·.2)).Nodup := by
  refine List.Nodup.map_on ?_ (h.sorted.imp fun {a b} hab he => ?_)
  · rintro ⟨n, m⟩ he ⟨n', m'⟩ he' heq
    have hm : m = m' := heq
    subst hm
    rw [h.once n n' m (OrderedMap.get_of_mem h.sorted he) (OrderedMap.get_of_mem h.sorted he')]
  · rw [he] at hab
    exact lt_irrefl _ hab

/-- A partial function that is injective where it is defined keeps and reflects that nothing is
there twice. -/
lemma nodup_filterMap {α β : Type} {f : α → Option β}
    (hf : ∀ a a' b, f a = some b → f a' = some b → a = a') (l : List α) :
    (l.filterMap f).Nodup ↔ (l.filter fun a => (f a).isSome).Nodup := by
  induction l with
  | nil => simp
  | cons a l ih =>
    cases h : f a with
    | none => simpa [h] using ih
    | some b =>
      rw [List.filterMap_cons_some h, List.filter_cons_of_pos (by simp [h]), List.nodup_cons,
        List.nodup_cons, ih]
      have hmem : b ∈ l.filterMap f ↔ a ∈ l.filter fun a => (f a).isSome := by
        rw [List.mem_filterMap, List.mem_filter]
        constructor
        · rintro ⟨a', ha', hb⟩
          rw [hf a a' b h hb]
          exact ⟨ha', by simp [hb]⟩
        · rintro ⟨ha, -⟩
          exact ⟨a, ha, h⟩
      rw [hmem]

theorem mem_prepareSupportedMechanisms (h : NamesOnce t) {mechs : String}
    {m : CK_MECHANISM_TYPE} : m ∈ prepareSupportedMechanisms t mechs ↔ Enables t mechs m := by
  unfold Enables
  by_cases hall : mechs = "ALL"
  · rw [prepareSupportedMechanisms, if_pos hall, mem_map_snd h]
    simp [hall]
  · by_cases hminus : mechs.toList.head? = some '-'
    · rw [prepareSupportedMechanisms_negative h.nonempty hall hminus, List.mem_filter,
        mem_map_snd h]
      simp only [hall, false_or, if_pos hminus, List.mem_filterMap, decide_eq_true_eq]
      constructor
      · rintro ⟨⟨n, hn⟩, hnot⟩
        exact ⟨n, hn, fun hin => hnot ⟨n, hin, hn⟩⟩
      · rintro ⟨n, hn, hnot⟩
        refine ⟨⟨n, hn⟩, ?_⟩
        rintro ⟨n', hin, hn'⟩
        rw [h.once n' n m hn' hn] at hin
        exact hnot hin
    · rw [prepareSupportedMechanisms_positive h.nonempty hall hminus, List.mem_filterMap]
      simp only [hall, false_or, if_neg hminus]
      constructor
      · rintro ⟨n, hin, hn⟩
        exact ⟨n, hn, hin⟩
      · rintro ⟨n, hn, hin⟩
        exact ⟨n, hin, hn⟩

theorem nodup_prepareSupportedMechanisms (h : NamesOnce t) {mechs : String} :
    (prepareSupportedMechanisms t mechs).Nodup ↔ NamedOnce t mechs := by
  unfold NamedOnce
  by_cases hall : mechs = "ALL"
  · rw [prepareSupportedMechanisms, if_pos hall]
    simp [hall, nodup_map_snd h]
  · by_cases hminus : mechs.toList.head? = some '-'
    · rw [prepareSupportedMechanisms_negative h.nonempty hall hminus]
      simp [hminus, (nodup_map_snd h).filter]
    · rw [prepareSupportedMechanisms_positive h.nonempty hall hminus, nodup_filterMap h.once]
      simp only [hall, hminus, false_or]

/-! ### The table of a build -/

/-- Which names a build has depends on its switches, not what they name. -/
lemma mechanismBlocks_all (b b' : Build) :
    (mechanismBlocks b).flatMap (·.2) = (mechanismBlocks b').flatMap (·.2) := rfl

def plainBuild : Build :=
  ⟨false, false, true, true, true, true, false, true, true, true, true, false, false⟩

lemma mechanisms_once : ∀ e ∈ (mechanismBlocks plainBuild).flatMap (·.2), e.1 ≠ "" ∧
    ∀ e' ∈ (mechanismBlocks plainBuild).flatMap (·.2), e.2 = e'.2 → e.1 = e'.1 := by
  decide +kernel

lemma mem_mechanisms_table {b : Build} {e : String × CK_MECHANISM_TYPE}
    (h : e ∈ mechanisms_table b) : e ∈ (mechanismBlocks plainBuild).flatMap (·.2) := by
  have hfold : ∀ (l t : List (String × CK_MECHANISM_TYPE)),
      e ∈ l.foldl (fun t e => OrderedMap.put e.1 e.2 t) t → e ∈ l ∨ e ∈ t := by
    intro l
    induction l with
    | nil => exact fun t he => .inr he
    | cons e' l ih =>
      intro t he
      rcases ih _ he with hl | ht
      · exact .inl (List.mem_cons_of_mem _ hl)
      · rcases OrderedMap.mem_put ht with rfl | ht
        · exact .inl List.mem_cons_self
        · exact .inr ht
  rcases hfold _ _ h with hl | hnil
  · rw [mechanismBlocks_all plainBuild b]
    obtain ⟨block, hblock, he⟩ := List.mem_flatMap.1 hl
    refine List.mem_flatMap.2 ⟨block, hblock, ?_⟩
    by_cases hgiven : block.1 = true
    · rwa [if_pos hgiven] at he
    · rw [if_neg hgiven] at he
      cases he
  · cases hnil

lemma isSome_mechanisms_table {b : Build} {n : String}
    (h : n ∈ (mechanismEntries b).map (·.1)) : (OrderedMap.get n (mechanisms_table b)).isSome := by
  have hfold : ∀ (l t : List (String × CK_MECHANISM_TYPE)),
      n ∈ l.map (·.1) ∨ (OrderedMap.get n t).isSome →
      (OrderedMap.get n (l.foldl (fun t e => OrderedMap.put e.1 e.2 t) t)).isSome := by
    intro l
    induction l with
    | nil => exact fun t ht => ht.resolve_left List.not_mem_nil
    | cons e l ih =>
      intro t ht
      refine ih _ ?_
      by_cases hn : n = e.1
      · right
        rw [hn, OrderedMap.get_put_self]
        rfl
      · rw [OrderedMap.get_put_of_ne hn]
        refine ht.imp_left fun hmem => ?_
        rw [List.map_cons] at hmem
        exact (List.mem_cons.1 hmem).resolve_left hn
  exact hfold _ _ (.inl h)

lemma sorted_mechanisms_table (b : Build) : OrderedMap.Sorted (mechanisms_table b) := by
  have hfold : ∀ (l t : List (String × CK_MECHANISM_TYPE)), OrderedMap.Sorted t →
      OrderedMap.Sorted (l.foldl (fun t e => OrderedMap.put e.1 e.2 t) t) := by
    intro l
    induction l with
    | nil => exact fun t ht => ht
    | cons e l ih => exact fun t ht => ih _ (OrderedMap.sorted_put ht _ _)
  exact hfold _ _ OrderedMap.sorted_nil

theorem namesOnce_mechanisms_table (b : Build) : NamesOnce (mechanisms_table b) where
  sorted := sorted_mechanisms_table b
  once n n' m hn hn' :=
    (mechanisms_once _ (mem_mechanisms_table (OrderedMap.mem_of_get hn))).2 _
      (mem_mechanisms_table (OrderedMap.mem_of_get hn')) rfl
  nonempty := by
    cases h : OrderedMap.get "" (mechanisms_table b) with
    | none => rfl
    | some m =>
      exact absurd rfl (mechanisms_once _ (mem_mechanisms_table (OrderedMap.mem_of_get h))).1

end SoftHSM.Create
