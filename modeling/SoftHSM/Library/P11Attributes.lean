import SoftHSM.Cryptoki
import SoftHSM.ObjectStore.File

/-!
The attributes of an object as callers see them: for each type, the size of its value, the
checks that are made, its default and how it is updated; and what reading and updating one do.
-/

namespace SoftHSM

open CK_RV

abbrev CK_KEY_TYPE := UInt64

/-! ### Numbers of the standard and of the vendor -/

def CKA_CLASS : CK_ATTRIBUTE_TYPE := 0x0
def CKA_TOKEN : CK_ATTRIBUTE_TYPE := 0x1
def CKA_PRIVATE : CK_ATTRIBUTE_TYPE := 0x2
def CKA_LABEL : CK_ATTRIBUTE_TYPE := 0x3
def CKA_APPLICATION : CK_ATTRIBUTE_TYPE := 0x10
def CKA_VALUE : CK_ATTRIBUTE_TYPE := 0x11
def CKA_OBJECT_ID : CK_ATTRIBUTE_TYPE := 0x12
def CKA_CERTIFICATE_TYPE : CK_ATTRIBUTE_TYPE := 0x80
def CKA_ISSUER : CK_ATTRIBUTE_TYPE := 0x81
def CKA_SERIAL_NUMBER : CK_ATTRIBUTE_TYPE := 0x82
def CKA_TRUSTED : CK_ATTRIBUTE_TYPE := 0x86
def CKA_CERTIFICATE_CATEGORY : CK_ATTRIBUTE_TYPE := 0x87
def CKA_JAVA_MIDP_SECURITY_DOMAIN : CK_ATTRIBUTE_TYPE := 0x88
def CKA_URL : CK_ATTRIBUTE_TYPE := 0x89
def CKA_HASH_OF_SUBJECT_PUBLIC_KEY : CK_ATTRIBUTE_TYPE := 0x8a
def CKA_HASH_OF_ISSUER_PUBLIC_KEY : CK_ATTRIBUTE_TYPE := 0x8b
def CKA_NAME_HASH_ALGORITHM : CK_ATTRIBUTE_TYPE := 0x8c
def CKA_CHECK_VALUE : CK_ATTRIBUTE_TYPE := 0x90
def CKA_KEY_TYPE : CK_ATTRIBUTE_TYPE := 0x100
def CKA_SUBJECT : CK_ATTRIBUTE_TYPE := 0x101
def CKA_ID : CK_ATTRIBUTE_TYPE := 0x102
def CKA_SENSITIVE : CK_ATTRIBUTE_TYPE := 0x103
def CKA_ENCRYPT : CK_ATTRIBUTE_TYPE := 0x104
def CKA_DECRYPT : CK_ATTRIBUTE_TYPE := 0x105
def CKA_WRAP : CK_ATTRIBUTE_TYPE := 0x106
def CKA_UNWRAP : CK_ATTRIBUTE_TYPE := 0x107
def CKA_SIGN : CK_ATTRIBUTE_TYPE := 0x108
def CKA_SIGN_RECOVER : CK_ATTRIBUTE_TYPE := 0x109
def CKA_VERIFY : CK_ATTRIBUTE_TYPE := 0x10a
def CKA_VERIFY_RECOVER : CK_ATTRIBUTE_TYPE := 0x10b
def CKA_DERIVE : CK_ATTRIBUTE_TYPE := 0x10c
def CKA_START_DATE : CK_ATTRIBUTE_TYPE := 0x110
def CKA_END_DATE : CK_ATTRIBUTE_TYPE := 0x111
def CKA_MODULUS : CK_ATTRIBUTE_TYPE := 0x120
def CKA_MODULUS_BITS : CK_ATTRIBUTE_TYPE := 0x121
def CKA_PUBLIC_EXPONENT : CK_ATTRIBUTE_TYPE := 0x122
def CKA_PRIVATE_EXPONENT : CK_ATTRIBUTE_TYPE := 0x123
def CKA_PRIME_1 : CK_ATTRIBUTE_TYPE := 0x124
def CKA_PRIME_2 : CK_ATTRIBUTE_TYPE := 0x125
def CKA_EXPONENT_1 : CK_ATTRIBUTE_TYPE := 0x126
def CKA_EXPONENT_2 : CK_ATTRIBUTE_TYPE := 0x127
def CKA_COEFFICIENT : CK_ATTRIBUTE_TYPE := 0x128
def CKA_PUBLIC_KEY_INFO : CK_ATTRIBUTE_TYPE := 0x129
def CKA_PRIME : CK_ATTRIBUTE_TYPE := 0x130
def CKA_SUBPRIME : CK_ATTRIBUTE_TYPE := 0x131
def CKA_BASE : CK_ATTRIBUTE_TYPE := 0x132
def CKA_PRIME_BITS : CK_ATTRIBUTE_TYPE := 0x133
def CKA_SUB_PRIME_BITS : CK_ATTRIBUTE_TYPE := 0x134
def CKA_VALUE_BITS : CK_ATTRIBUTE_TYPE := 0x160
def CKA_VALUE_LEN : CK_ATTRIBUTE_TYPE := 0x161
def CKA_EXTRACTABLE : CK_ATTRIBUTE_TYPE := 0x162
def CKA_LOCAL : CK_ATTRIBUTE_TYPE := 0x163
def CKA_NEVER_EXTRACTABLE : CK_ATTRIBUTE_TYPE := 0x164
def CKA_ALWAYS_SENSITIVE : CK_ATTRIBUTE_TYPE := 0x165
def CKA_KEY_GEN_MECHANISM : CK_ATTRIBUTE_TYPE := 0x166
def CKA_MODIFIABLE : CK_ATTRIBUTE_TYPE := 0x170
def CKA_COPYABLE : CK_ATTRIBUTE_TYPE := 0x171
def CKA_DESTROYABLE : CK_ATTRIBUTE_TYPE := 0x172
def CKA_EC_PARAMS : CK_ATTRIBUTE_TYPE := 0x180
def CKA_EC_POINT : CK_ATTRIBUTE_TYPE := 0x181
def CKA_SECONDARY_AUTH : CK_ATTRIBUTE_TYPE := 0x200
def CKA_AUTH_PIN_FLAGS : CK_ATTRIBUTE_TYPE := 0x201
def CKA_ALWAYS_AUTHENTICATE : CK_ATTRIBUTE_TYPE := 0x202
def CKA_WRAP_WITH_TRUSTED : CK_ATTRIBUTE_TYPE := 0x210
def CKA_GOSTR3410_PARAMS : CK_ATTRIBUTE_TYPE := 0x250
def CKA_GOSTR3411_PARAMS : CK_ATTRIBUTE_TYPE := 0x251
def CKA_GOST28147_PARAMS : CK_ATTRIBUTE_TYPE := 0x252
def CKA_PARAMETER_SET : CK_ATTRIBUTE_TYPE := 0x61d
def CKA_ENCAPSULATE : CK_ATTRIBUTE_TYPE := 0x633
def CKA_DECAPSULATE : CK_ATTRIBUTE_TYPE := 0x634
def CKA_SEED : CK_ATTRIBUTE_TYPE := 0x637
def CKA_WRAP_TEMPLATE : CK_ATTRIBUTE_TYPE := 0x40000211
def CKA_UNWRAP_TEMPLATE : CK_ATTRIBUTE_TYPE := 0x40000212
def CKA_ALLOWED_MECHANISMS : CK_ATTRIBUTE_TYPE := 0x40000600
def CKA_VENDOR_KEY_PIN_ENTER : CK_ATTRIBUTE_TYPE := 0x80002000
def CKA_VENDOR_KEY_CONFIRM_OP : CK_ATTRIBUTE_TYPE := 0x80002001
def CKA_VENDOR_KEY_JOURNAL : CK_ATTRIBUTE_TYPE := 0x80002002
def CKA_VENDOR_CONFIRM_BY_TOUCH : CK_ATTRIBUTE_TYPE := 0x80002003

def CKO_DATA : UInt64 := 0
def CKO_CERTIFICATE : UInt64 := 1
def CKO_PUBLIC_KEY : UInt64 := 2
def CKO_PRIVATE_KEY : UInt64 := 3
def CKO_SECRET_KEY : UInt64 := 4
def CKO_DOMAIN_PARAMETERS : UInt64 := 6
def CKO_VENDOR_DEFINED : UInt64 := 0x80000000

def CKC_X_509 : UInt64 := 0
def CKC_VENDOR_DEFINED : UInt64 := 0x80000000
def CKC_OPENPGP : UInt64 := 0x80504750

def CKK_RSA : CK_KEY_TYPE := 0x0
def CKK_DSA : CK_KEY_TYPE := 0x1
def CKK_DH : CK_KEY_TYPE := 0x2
def CKK_EC : CK_KEY_TYPE := 0x3
def CKK_GENERIC_SECRET : CK_KEY_TYPE := 0x10
def CKK_DES : CK_KEY_TYPE := 0x13
def CKK_DES2 : CK_KEY_TYPE := 0x14
def CKK_DES3 : CK_KEY_TYPE := 0x15
def CKK_AES : CK_KEY_TYPE := 0x1f
def CKK_MD5_HMAC : CK_KEY_TYPE := 0x27
def CKK_SHA_1_HMAC : CK_KEY_TYPE := 0x28
def CKK_SHA256_HMAC : CK_KEY_TYPE := 0x2b
def CKK_SHA384_HMAC : CK_KEY_TYPE := 0x2c
def CKK_SHA512_HMAC : CK_KEY_TYPE := 0x2d
def CKK_SHA224_HMAC : CK_KEY_TYPE := 0x2e
def CKK_GOSTR3410 : CK_KEY_TYPE := 0x30
def CKK_GOST28147 : CK_KEY_TYPE := 0x32
def CKK_EC_EDWARDS : CK_KEY_TYPE := 0x40
def CKK_ML_KEM : CK_KEY_TYPE := 0x49
def CKK_ML_DSA : CK_KEY_TYPE := 0x4a
def CKK_VENDOR_DEFINED : CK_KEY_TYPE := 0x80000000
def CKK_GOSTR3410_512 : CK_KEY_TYPE := 0xd4321003
def CKK_KUZNECHIK : CK_KEY_TYPE := 0xd4321004
def CKK_MAGMA : CK_KEY_TYPE := 0xd4321005
def CKK_KUZNECHIK_TWIN_KEY : CK_KEY_TYPE := 0xd4321006
def CKK_MAGMA_TWIN_KEY : CK_KEY_TYPE := 0xd4321007

def CKM_SHA_1 : CK_MECHANISM_TYPE := 0x220
def CKM_GOST28147_KEY_GEN : CK_MECHANISM_TYPE := 0x1220

def CK_FALSE : UInt8 := 0
def CK_TRUE : UInt8 := 1

def sizeof_CK_BBOOL : ℕ := 1
def sizeof_CK_ULONG : ℕ := 8
def sizeof_CK_DATE : ℕ := 8
def sizeof_CK_ATTRIBUTE : ℕ := 24

/-! ### Values in memory -/

/-- An attribute of a template: the bytes behind `pValue`, or the length that comes with a null
pointer. -/
structure CK_ATTRIBUTE where
  type : CK_ATTRIBUTE_TYPE
  pValue : Option ByteString
  nullLen : ℕ := 0

namespace CK_ATTRIBUTE

def ulValueLen (e : CK_ATTRIBUTE) : ℕ :=
  match e.pValue with
  | some value => value.length
  | none => e.nullLen

/-- `ByteString(pValue, ulValueLen)`, for a null pointer of length 0 the empty string. -/
def bytes (e : CK_ATTRIBUTE) : ByteString := e.pValue.getD []

/-- `*(CK_BBOOL*)pValue`. -/
def bool (e : CK_ATTRIBUTE) : UInt8 := e.bytes.headD 0

end CK_ATTRIBUTE

/-- A `CK_ULONG` in memory, the lowest byte first. -/
def ulongBytes (v : UInt64) : ByteString := (ByteString.ofULong v).reverse

/-- `*(CK_ULONG*)pValue`. -/
def ulongAt (b : ByteString) : UInt64 := ByteString.long_val (b.take 8).reverse

lemma length_ulongBytes (v : UInt64) : (ulongBytes v).length = 8 := by
  rw [ulongBytes, List.length_reverse, File.length_ofULong]

lemma ulongAt_ulongBytes (v : UInt64) : ulongAt (ulongBytes v) = v := by
  have htake : (ulongBytes v).take 8 = ulongBytes v :=
    List.take_of_length_le (length_ulongBytes v).le
  rw [ulongAt, htake, ulongBytes, List.reverse_reverse, File.long_val_ofULong]

lemma ulongBytes_ulongAt {b : ByteString} (h : b.length = 8) : ulongBytes (ulongAt b) = b := by
  rw [ulongBytes, ulongAt, List.take_of_length_le h.le,
    File.ofULong_long_val (by rw [List.length_reverse, h]), List.reverse_reverse]

lemma length_flatMap_ulongBytes (l : List UInt64) :
    (l.flatMap ulongBytes).length = l.length * sizeof_CK_ULONG := by
  induction l with
  | nil => rfl
  | cons v l ih =>
    rw [List.flatMap_cons, List.length_append, ih, length_ulongBytes, List.length_cons,
      Nat.succ_mul, Nat.add_comm, sizeof_CK_ULONG]

/-- `ByteString::bits`: the bits from the first one that is set. -/
def bits : ByteString → ℕ
  | [] => 0
  | x :: rest => if x = 0 then bits rest else rest.length * 8 + (Nat.log2 x.toNat + 1)

/-! ### What an object holds -/

abbrev AttributeMap := List (CK_ATTRIBUTE_TYPE × OSAttribute)

namespace AttributeMap

def attributeExists (m : AttributeMap) (type : CK_ATTRIBUTE_TYPE) : Bool :=
  (OrderedMap.get type m).isSome

def getBooleanValue (m : AttributeMap) (type : CK_ATTRIBUTE_TYPE) (val : Bool) : Bool :=
  match OrderedMap.get type m with
  | some (.boolean value) => value
  | _ => val

def getUnsignedLongValue (m : AttributeMap) (type : CK_ATTRIBUTE_TYPE) (val : UInt64) : UInt64 :=
  match OrderedMap.get type m with
  | some (.unsignedLong value) => value
  | _ => val

def getByteStringValue (m : AttributeMap) (type : CK_ATTRIBUTE_TYPE) : ByteString :=
  match OrderedMap.get type m with
  | some (.byteString value) => value
  | _ => []

def setAttribute (m : AttributeMap) (type : CK_ATTRIBUTE_TYPE) (attr : OSAttribute) :
    AttributeMap := OrderedMap.put type attr m

def isModifiable (m : AttributeMap) : Bool :=
  if !m.attributeExists CKA_MODIFIABLE then true else m.getBooleanValue CKA_MODIFIABLE true

def isSensitive (m : AttributeMap) : Bool :=
  if !m.attributeExists CKA_SENSITIVE then false else m.getBooleanValue CKA_SENSITIVE false

def isExtractable (m : AttributeMap) : Bool :=
  if !m.attributeExists CKA_EXTRACTABLE then true else m.getBooleanValue CKA_EXTRACTABLE true

def isTrusted (m : AttributeMap) : Bool :=
  if !m.attributeExists CKA_TRUSTED then false else m.getBooleanValue CKA_TRUSTED false

variable {m : AttributeMap} {type type' : CK_ATTRIBUTE_TYPE} {attr : OSAttribute}

lemma get_setAttribute (type type' : CK_ATTRIBUTE_TYPE) (attr : OSAttribute) (m : AttributeMap) :
    OrderedMap.get type' (m.setAttribute type attr) =
      if type' = type then some attr else OrderedMap.get type' m := by
  unfold setAttribute
  split
  · rename_i h
    rw [h, OrderedMap.get_put_self]
  · rename_i h
    rw [OrderedMap.get_put_of_ne h]

lemma attributeExists_setAttribute_of_ne (h : type' ≠ type) :
    (m.setAttribute type attr).attributeExists type' = m.attributeExists type' := by
  rw [attributeExists, get_setAttribute, if_neg h, attributeExists]

lemma getBooleanValue_setAttribute_of_ne (h : type' ≠ type) (v : Bool) :
    (m.setAttribute type attr).getBooleanValue type' v = m.getBooleanValue type' v := by
  rw [getBooleanValue, get_setAttribute, if_neg h, getBooleanValue]

lemma getUnsignedLongValue_setAttribute_of_ne (h : type' ≠ type) (v : UInt64) :
    (m.setAttribute type attr).getUnsignedLongValue type' v = m.getUnsignedLongValue type' v := by
  rw [getUnsignedLongValue, get_setAttribute, if_neg h, getUnsignedLongValue]

lemma getBooleanValue_setAttribute_self (value v : Bool) :
    (m.setAttribute type (.boolean value)).getBooleanValue type v = value := by
  rw [getBooleanValue, get_setAttribute, if_pos rfl]

lemma getUnsignedLongValue_setAttribute_self (value v : UInt64) :
    (m.setAttribute type (.unsignedLong value)).getUnsignedLongValue type v = value := by
  rw [getUnsignedLongValue, get_setAttribute, if_pos rfl]

lemma attributeExists_setAttribute_self :
    (m.setAttribute type attr).attributeExists type = true := by
  rw [attributeExists, get_setAttribute, if_pos rfl]
  rfl

lemma getBooleanValue_of_missing (h : m.attributeExists type = false) (v : Bool) :
    m.getBooleanValue type v = v := by
  rw [attributeExists, Option.isSome_eq_false_iff, Option.isNone_iff_eq_none] at h
  rw [getBooleanValue, h]

lemma getUnsignedLongValue_of_missing (h : m.attributeExists type = false) (v : UInt64) :
    m.getUnsignedLongValue type v = v := by
  rw [attributeExists, Option.isSome_eq_false_iff, Option.isNone_iff_eq_none] at h
  rw [getUnsignedLongValue, h]

lemma get_of_getByteStringValue {b : ByteString} (h : m.getByteStringValue type = b)
    (hb : b ≠ []) : OrderedMap.get type m = some (.byteString b) := by
  unfold getByteStringValue at h
  split at h
  · rename_i value hget
    rw [hget, h]
  · exact absurd h.symm hb

lemma isSensitive_eq (m : AttributeMap) : m.isSensitive = m.getBooleanValue CKA_SENSITIVE false := by
  unfold isSensitive
  cases h : m.attributeExists CKA_SENSITIVE
  · exact (getBooleanValue_of_missing h false).symm
  · rfl

lemma isExtractable_eq (m : AttributeMap) :
    m.isExtractable = m.getBooleanValue CKA_EXTRACTABLE true := by
  unfold isExtractable
  cases h : m.attributeExists CKA_EXTRACTABLE
  · exact (getBooleanValue_of_missing h true).symm
  · rfl

end AttributeMap

/-! ### The checks, and the ways of updating -/

def ck1 : UInt64 := 0x1
def ck2 : UInt64 := 0x2
def ck3 : UInt64 := 0x4
def ck4 : UInt64 := 0x8
def ck5 : UInt64 := 0x10
def ck6 : UInt64 := 0x20
def ck7 : UInt64 := 0x40
def ck8 : UInt64 := 0x80
def ck9 : UInt64 := 0x100
def ck10 : UInt64 := 0x200
def ck11 : UInt64 := 0x400
def ck12 : UInt64 := 0x800
def ck14 : UInt64 := 0x2000
def ck15 : UInt64 := 0x4000
def ck16 : UInt64 := 0x8000
def ck17 : UInt64 := 0x10000

/-- `OBJECT_OP_*`. -/
inductive ObjectOp
  | COPY
  | CREATE
  | DERIVE
  | GENERATE
  | SET
  | UNWRAP
  | DECAPSULATE
  deriving DecidableEq

/-- The overrides of `updateAttr`, one for each body that the classes have. -/
inductive UpdateRule
  | bytes
  | sameAs (default : UInt64)
  | boolean
  | copyable
  | checkValue
  | value
  | trusted
  | unsignedLong
  | date
  | readOnly
  | sensitive
  | extractable
  | wrapWithTrusted
  | alwaysAuthenticate
  | bigInteger (bitsType : CK_ATTRIBUTE_TYPE)
  | unsignedLongOn (ops : List ObjectOp)
  | template
  | mechanisms

/-- `P11Attribute`, without its object. A size of `none` is variable. -/
structure P11Attribute where
  type : CK_ATTRIBUTE_TYPE
  size : Option ℕ
  checks : UInt64
  default : OSAttribute
  updateAttr : UpdateRule

def P11Attribute.has (a : P11Attribute) (ck : UInt64) : Bool := a.checks &&& ck = ck

/-- `isLegacyPlaintext`, which only the dates override. -/
def P11Attribute.isLegacyPlaintext (a : P11Attribute) (storedSize : ℕ) : Bool :=
  match a.updateAttr with
  | .date => storedSize = sizeof_CK_DATE
  | _ => false

/-! ### The classes -/

section classes

variable (type : CK_ATTRIBUTE_TYPE) (checks : UInt64)

def booleanAttr (default : Bool) (updateAttr : UpdateRule := .boolean) : P11Attribute :=
  ⟨type, some sizeof_CK_BBOOL, checks, .boolean default, updateAttr⟩

def ulongAttr (default : UInt64) (updateAttr : UpdateRule := .unsignedLong) : P11Attribute :=
  ⟨type, some sizeof_CK_ULONG, checks, .unsignedLong default, updateAttr⟩

def bytesAttr (updateAttr : UpdateRule := .bytes) : P11Attribute :=
  ⟨type, none, checks, .byteString [], updateAttr⟩

end classes

def P11AttrClass := ulongAttr CKA_CLASS ck1 CKO_VENDOR_DEFINED (.sameAs CKO_VENDOR_DEFINED)
def P11AttrKeyType (checks : UInt64 := 0) :=
  ulongAttr CKA_KEY_TYPE (ck1 ||| checks) CKK_VENDOR_DEFINED (.sameAs CKK_VENDOR_DEFINED)
def P11AttrCertificateType :=
  ulongAttr CKA_CERTIFICATE_TYPE ck1 CKC_VENDOR_DEFINED (.sameAs CKC_VENDOR_DEFINED)
def P11AttrToken := booleanAttr CKA_TOKEN ck17 false
def P11AttrPrivate := booleanAttr CKA_PRIVATE ck17 true
def P11AttrModifiable := booleanAttr CKA_MODIFIABLE ck17 true
def P11AttrLabel := bytesAttr CKA_LABEL ck8
def P11AttrCopyable := booleanAttr CKA_COPYABLE ck12 true .copyable
def P11AttrDestroyable := booleanAttr CKA_DESTROYABLE ck17 true
def P11AttrApplication := bytesAttr CKA_APPLICATION 0
def P11AttrObjectID := bytesAttr CKA_OBJECT_ID 0
def P11AttrCheckValue (checks : UInt64) := bytesAttr CKA_CHECK_VALUE checks .checkValue
def P11AttrPublicKeyInfo (checks : UInt64) := bytesAttr CKA_PUBLIC_KEY_INFO checks
def P11AttrID := bytesAttr CKA_ID ck8
def P11AttrValue (checks : UInt64) := bytesAttr CKA_VALUE checks .value
def P11AttrSubject (checks : UInt64) := bytesAttr CKA_SUBJECT checks
def P11AttrIssuer := bytesAttr CKA_ISSUER ck8
def P11AttrTrusted := booleanAttr CKA_TRUSTED ck10 false .trusted
def P11AttrCertificateCategory := ulongAttr CKA_CERTIFICATE_CATEGORY 0 0
def P11AttrStartDate (checks : UInt64) := bytesAttr CKA_START_DATE checks .date
def P11AttrEndDate (checks : UInt64) := bytesAttr CKA_END_DATE checks .date
def P11AttrSerialNumber := bytesAttr CKA_SERIAL_NUMBER ck8
def P11AttrURL := bytesAttr CKA_URL ck15
def P11AttrHashOfSubjectPublicKey := bytesAttr CKA_HASH_OF_SUBJECT_PUBLIC_KEY ck16
def P11AttrHashOfIssuerPublicKey := bytesAttr CKA_HASH_OF_ISSUER_PUBLIC_KEY ck16
def P11AttrJavaMidpSecurityDomain := ulongAttr CKA_JAVA_MIDP_SECURITY_DOMAIN 0 0
def P11AttrNameHashAlgorithm := ulongAttr CKA_NAME_HASH_ALGORITHM 0 CKM_SHA_1
def P11AttrDerive := booleanAttr CKA_DERIVE ck8 false
def P11AttrEncrypt := booleanAttr CKA_ENCRYPT (ck8 ||| ck9) true
def P11AttrVerify := booleanAttr CKA_VERIFY (ck8 ||| ck9) true
def P11AttrVerifyRecover := booleanAttr CKA_VERIFY_RECOVER (ck8 ||| ck9) true
def P11AttrWrap := booleanAttr CKA_WRAP (ck8 ||| ck9) true
def P11AttrDecrypt := booleanAttr CKA_DECRYPT (ck8 ||| ck9) true
def P11AttrSign := booleanAttr CKA_SIGN (ck8 ||| ck9) true
def P11AttrSignRecover := booleanAttr CKA_SIGN_RECOVER (ck8 ||| ck9) true
def P11AttrUnwrap := booleanAttr CKA_UNWRAP (ck8 ||| ck9) true
def P11AttrLocal (checks : UInt64 := 0) :=
  booleanAttr CKA_LOCAL (ck2 ||| ck4 ||| checks) false .readOnly
def P11AttrKeyGenMechanism :=
  ulongAttr CKA_KEY_GEN_MECHANISM (ck2 ||| ck4 ||| ck6) (UInt64.ofNat CK_UNAVAILABLE_INFORMATION)
    .readOnly
def P11AttrAlwaysSensitive :=
  booleanAttr CKA_ALWAYS_SENSITIVE (ck2 ||| ck4 ||| ck6) false .readOnly
def P11AttrNeverExtractable :=
  booleanAttr CKA_NEVER_EXTRACTABLE (ck2 ||| ck4 ||| ck6) true .readOnly
def P11AttrSensitive := booleanAttr CKA_SENSITIVE (ck8 ||| ck9 ||| ck11) false .sensitive
def P11AttrExtractable := booleanAttr CKA_EXTRACTABLE (ck8 ||| ck9 ||| ck12) true .extractable
def P11AttrWrapWithTrusted := booleanAttr CKA_WRAP_WITH_TRUSTED ck11 false .wrapWithTrusted
def P11AttrAlwaysAuthenticate := booleanAttr CKA_ALWAYS_AUTHENTICATE 0 false .alwaysAuthenticate
def P11AttrModulus (checks : UInt64 := 0) :=
  bytesAttr CKA_MODULUS (ck1 ||| ck4 ||| checks) (.bigInteger CKA_MODULUS_BITS)
def P11AttrPublicExponent (checks : UInt64) := bytesAttr CKA_PUBLIC_EXPONENT checks
def P11AttrPrivateExponent := bytesAttr CKA_PRIVATE_EXPONENT (ck1 ||| ck4 ||| ck6 ||| ck7)
def P11AttrPrime1 := bytesAttr CKA_PRIME_1 (ck4 ||| ck6 ||| ck7)
def P11AttrPrime2 := bytesAttr CKA_PRIME_2 (ck4 ||| ck6 ||| ck7)
def P11AttrExponent1 := bytesAttr CKA_EXPONENT_1 (ck4 ||| ck6 ||| ck7)
def P11AttrExponent2 := bytesAttr CKA_EXPONENT_2 (ck4 ||| ck6 ||| ck7)
def P11AttrCoefficient := bytesAttr CKA_COEFFICIENT (ck4 ||| ck6 ||| ck7)
def P11AttrModulusBits :=
  ulongAttr CKA_MODULUS_BITS (ck2 ||| ck3) 0 (.unsignedLongOn [.GENERATE])
def P11AttrPrime (checks : UInt64 := 0) :=
  bytesAttr CKA_PRIME (ck1 ||| checks) (.bigInteger CKA_PRIME_BITS)
def P11AttrSubPrime (checks : UInt64 := 0) := bytesAttr CKA_SUBPRIME (ck1 ||| checks)
def P11AttrBase (checks : UInt64 := 0) := bytesAttr CKA_BASE (ck1 ||| checks)
def P11AttrPrimeBits := ulongAttr CKA_PRIME_BITS (ck2 ||| ck3) 0 (.unsignedLongOn [.GENERATE])
def P11AttrValueBits := ulongAttr CKA_VALUE_BITS (ck2 ||| ck6) 0 (.unsignedLongOn [.GENERATE])
def P11AttrEcParams (checks : UInt64 := 0) := bytesAttr CKA_EC_PARAMS (ck1 ||| checks)
def P11AttrEcPoint := bytesAttr CKA_EC_POINT (ck1 ||| ck4)
def P11AttrParameterSet (checks : UInt64 := 0) :=
  ulongAttr CKA_PARAMETER_SET (ck1 ||| checks) 0 (.unsignedLongOn [.GENERATE, .CREATE])
def P11AttrGostR3410Params (checks : UInt64 := 0) := bytesAttr CKA_GOSTR3410_PARAMS (ck1 ||| checks)
def P11AttrGostR3411Params (checks : UInt64 := 0) :=
  bytesAttr CKA_GOSTR3411_PARAMS (ck1 ||| ck8 ||| checks)
def P11AttrGost28147Params (checks : UInt64 := 0) := bytesAttr CKA_GOST28147_PARAMS checks
def P11AttrValueLen (checks : UInt64 := 0) :=
  ulongAttr CKA_VALUE_LEN (ck2 ||| ck3 ||| checks) 0
    (.unsignedLongOn [.GENERATE, .DERIVE, .DECAPSULATE])
def P11AttrWrapTemplate : P11Attribute := ⟨CKA_WRAP_TEMPLATE, none, 0, .attributeMap [], .template⟩
def P11AttrUnwrapTemplate : P11Attribute :=
  ⟨CKA_UNWRAP_TEMPLATE, none, 0, .attributeMap [], .template⟩
def P11AttrAllowedMechanisms : P11Attribute :=
  ⟨CKA_ALLOWED_MECHANISMS, none, 0, .mechanismTypeSet ∅, .mechanisms⟩
def P11AttrSeed := bytesAttr CKA_SEED (ck4 ||| ck6 ||| ck7)
def P11AttrEncapsulate := booleanAttr CKA_ENCAPSULATE (ck8 ||| ck9) true
def P11AttrDecapsulate := booleanAttr CKA_DECAPSULATE (ck8 ||| ck9) true
def P11AttrVendorBool (type : CK_ATTRIBUTE_TYPE) := booleanAttr type ck8 false

/-! ### Updating -/

/-- Which check value of a key is meant. -/
inductive KeyKind
  | symmetric
  | aes
  | des
  deriving DecidableEq

/-- What an update takes from the token, from the libraries and from the memory of the caller:
the array of attributes that the bytes of a value are. -/
structure TokenView where
  encrypt : ByteString → Option ByteString
  decrypt : ByteString → Option ByteString
  isSOLoggedIn : Bool
  getKeyCheckValue : KeyKind → ByteString → ByteString
  sha1 : ByteString → Option ByteString
  arrayAt : ByteString → List CK_ATTRIBUTE

/-- A step on the attributes of an object, and its answer. -/
abbrev Update := AttributeMap → CK_RV × AttributeMap

namespace Update

def done (m : AttributeMap) : CK_RV × AttributeMap := (CKR_OK, m)

def refuse (rv : CK_RV) : Update := fun m => (rv, m)

def set (type : CK_ATTRIBUTE_TYPE) (attr : OSAttribute) : Update :=
  fun m => (CKR_OK, m.setAttribute type attr)

def andThen (u v : Update) : Update := fun m =>
  match u m with
  | (CKR_OK, m) => v m
  | r => r

def when (c : AttributeMap → Bool) (u : Update) : Update := fun m => if c m then u m else done m

end Update

open Update

/-- `value`, encrypted for a private object. -/
def setEncrypted (token : TokenView) (isPrivate : Bool) (type : CK_ATTRIBUTE_TYPE)
    (value : ByteString) : Update :=
  if isPrivate then
    match token.encrypt value with
    | none => refuse CKR_GENERAL_ERROR
    | some value => set type (.byteString value)
  else set type (.byteString value)

/-- The check value of a secret key of a type, `none` where the type has none; `inert` are the
types for which it is the value that is given. -/
def keyCheckValue (token : TokenView) (inert : List CK_KEY_TYPE) (given : ByteString)
    (keyType : CK_KEY_TYPE) (keybits : ByteString) : Option ByteString :=
  if keyType ∈ [CKK_GENERIC_SECRET, CKK_MD5_HMAC, CKK_SHA_1_HMAC, CKK_SHA224_HMAC,
      CKK_SHA256_HMAC, CKK_SHA384_HMAC, CKK_SHA512_HMAC] then
    some (token.getKeyCheckValue .symmetric keybits)
  else if keyType = CKK_AES then some (token.getKeyCheckValue .aes keybits)
  else if keyType ∈ [CKK_DES, CKK_DES2, CKK_DES3] then
    some (token.getKeyCheckValue .des keybits)
  else if keyType ∈ inert then some given
  else none

/-- `P11Attribute::updateAttr`. -/
def updateBytes (token : TokenView) (isPrivate : Bool) (type : CK_ATTRIBUTE_TYPE)
    (e : CK_ATTRIBUTE) : Update :=
  match if isPrivate then token.encrypt e.bytes else some e.bytes with
  | none => refuse CKR_GENERAL_ERROR
  | some value =>
    if value.length < e.ulValueLen then refuse CKR_GENERAL_ERROR
    else set type (.byteString value)

def updateBoolean (type : CK_ATTRIBUTE_TYPE) (e : CK_ATTRIBUTE) : Update :=
  if e.ulValueLen ≠ sizeof_CK_BBOOL then refuse CKR_ATTRIBUTE_VALUE_INVALID
  else set type (.boolean (e.bool ≠ CK_FALSE))

def updateULong (type : CK_ATTRIBUTE_TYPE) (e : CK_ATTRIBUTE) : Update :=
  if e.ulValueLen ≠ sizeof_CK_ULONG then refuse CKR_ATTRIBUTE_VALUE_INVALID
  else set type (.unsignedLong (ulongAt e.bytes))

/-- The checks of `P11AttrCheckValue::updateAttr` on a value that is not empty. -/
def updateCheckValue (token : TokenView) (isPrivate : Bool) (type : CK_ATTRIBUTE_TYPE)
    (e : CK_ATTRIBUTE) : Update := fun m =>
  match if isPrivate then token.encrypt e.bytes else some e.bytes with
  | none => (CKR_GENERAL_ERROR, m)
  | some value =>
    if value.length < e.ulValueLen then (CKR_GENERAL_ERROR, m)
    else if e.ulValueLen = 0 then set type (.byteString value) m
    else
      match if isPrivate then token.decrypt (m.getByteStringValue CKA_VALUE)
          else some (m.getByteStringValue CKA_VALUE) with
      | none => (CKR_GENERAL_ERROR, m)
      | some keybits =>
        match keyCheckValue token [CKK_GOST28147] e.bytes
            (m.getUnsignedLongValue CKA_KEY_TYPE CKK_VENDOR_DEFINED) keybits with
        | none => (CKR_GENERAL_ERROR, m)
        | some checkValue =>
          if e.bytes ≠ checkValue then (CKR_ATTRIBUTE_VALUE_INVALID, m)
          else set type (.byteString value) m

/-- `P11AttrValue::updateAttr`, with the attributes that follow from the value. -/
def updateValue (token : TokenView) (isPrivate : Bool) (type : CK_ATTRIBUTE_TYPE)
    (e : CK_ATTRIBUTE) (op : ObjectOp) : Update :=
  (updateBytes token isPrivate type e).andThen <|
  (when (fun m => (op = .CREATE || op = .UNWRAP || op = .DECAPSULATE) &&
      m.attributeExists CKA_VALUE_LEN)
    (set CKA_VALUE_LEN (.unsignedLong (UInt64.ofNat e.bytes.length)))).andThen <|
  (when (fun m => (op = .CREATE || op = .UNWRAP || op = .DECAPSULATE) &&
      m.attributeExists CKA_VALUE_BITS)
    (set CKA_VALUE_BITS (.unsignedLong (UInt64.ofNat (bits e.bytes))))).andThen <|
  (when (fun m => m.getUnsignedLongValue CKA_CLASS CKO_VENDOR_DEFINED = CKO_CERTIFICATE)
    (match token.sha1 e.bytes with
    | none => refuse CKR_GENERAL_ERROR
    | some digest => setEncrypted token isPrivate CKA_CHECK_VALUE (digest.take 3))).andThen <|
  when (fun m => op = .CREATE &&
      m.getUnsignedLongValue CKA_CLASS CKO_VENDOR_DEFINED = CKO_SECRET_KEY)
    fun m =>
      match keyCheckValue token [CKK_GOST28147, CKK_KUZNECHIK, CKK_MAGMA, CKK_KUZNECHIK_TWIN_KEY,
          CKK_MAGMA_TWIN_KEY] [] (m.getUnsignedLongValue CKA_KEY_TYPE CKK_VENDOR_DEFINED)
          e.bytes with
      | none => (CKR_GENERAL_ERROR, m)
      | some checkValue => setEncrypted token isPrivate CKA_CHECK_VALUE checkValue m

def updateTrusted (token : TokenView) (type : CK_ATTRIBUTE_TYPE) (e : CK_ATTRIBUTE)
    (op : ObjectOp) : Update :=
  if e.ulValueLen ≠ sizeof_CK_BBOOL then refuse CKR_ATTRIBUTE_VALUE_INVALID
  else if op = .SET && !token.isSOLoggedIn then refuse CKR_ATTRIBUTE_READ_ONLY
  else if e.bool = CK_FALSE then set type (.boolean false)
  else if !token.isSOLoggedIn then refuse CKR_ATTRIBUTE_READ_ONLY
  else set type (.boolean true)

/-- An attribute that cannot be changed any more after it has the value `final`. -/
def updateUnlessFinal (final : Bool) (type : CK_ATTRIBUTE_TYPE) (e : CK_ATTRIBUTE) (op : ObjectOp)
    (ifFalse ifTrue : Update) : Update := fun m =>
  if (op = .SET || op = .COPY) && m.getBooleanValue type false = final then
    (CKR_ATTRIBUTE_READ_ONLY, m)
  else if e.ulValueLen ≠ sizeof_CK_BBOOL then (CKR_ATTRIBUTE_VALUE_INVALID, m)
  else if e.bool = CK_FALSE then ((set type (.boolean false)).andThen ifFalse) m
  else ((set type (.boolean true)).andThen ifTrue) m

/-- The types of Boolean attributes in a template, and those of numbers. -/
def templateBooleans : List CK_ATTRIBUTE_TYPE :=
  [CKA_TOKEN, CKA_PRIVATE, CKA_MODIFIABLE, CKA_COPYABLE, CKA_TRUSTED, CKA_ENCRYPT, CKA_DECRYPT,
    CKA_SIGN, CKA_SIGN_RECOVER, CKA_VERIFY, CKA_VERIFY_RECOVER, CKA_WRAP, CKA_UNWRAP, CKA_DERIVE,
    CKA_LOCAL, CKA_ALWAYS_SENSITIVE, CKA_SENSITIVE, CKA_NEVER_EXTRACTABLE, CKA_EXTRACTABLE,
    CKA_WRAP_WITH_TRUSTED, CKA_SECONDARY_AUTH, CKA_ALWAYS_AUTHENTICATE]

def templateULongs : List CK_ATTRIBUTE_TYPE :=
  [CKA_CLASS, CKA_KEY_TYPE, CKA_CERTIFICATE_TYPE, CKA_CERTIFICATE_CATEGORY,
    CKA_JAVA_MIDP_SECURITY_DOMAIN, CKA_NAME_HASH_ALGORITHM, CKA_KEY_GEN_MECHANISM,
    CKA_MODULUS_BITS, CKA_PRIME_BITS, CKA_SUB_PRIME_BITS, CKA_VALUE_BITS, CKA_VALUE_LEN,
    CKA_AUTH_PIN_FLAGS]

/-- The loop over the attributes of a template; the first of a type counts. A null pointer that
the source follows reads as nothing here. -/
def templateMap : List CK_ATTRIBUTE → AttributeMap → Option AttributeMap
  | [], data => some data
  | attr :: rest, data =>
    if attr.type ∈ templateBooleans then
      if attr.ulValueLen ≠ sizeof_CK_BBOOL then none
      else templateMap rest (OrderedMap.insert attr.type (.boolean (attr.bool ≠ CK_FALSE)) data).2
    else if attr.type ∈ templateULongs then
      if attr.ulValueLen ≠ sizeof_CK_ULONG then none
      else templateMap rest
        (OrderedMap.insert attr.type (.unsignedLong (ulongAt attr.bytes)) data).2
    else if attr.type = CKA_WRAP_TEMPLATE ∨ attr.type = CKA_UNWRAP_TEMPLATE then none
    else templateMap rest (OrderedMap.insert attr.type (.byteString attr.bytes) data).2

def updateTemplate (token : TokenView) (type : CK_ATTRIBUTE_TYPE) (e : CK_ATTRIBUTE) : Update :=
  if e.ulValueLen % sizeof_CK_ATTRIBUTE ≠ 0 then refuse CKR_ATTRIBUTE_VALUE_INVALID
  else
    match templateMap (token.arrayAt e.bytes) [] with
    | none => refuse CKR_ATTRIBUTE_VALUE_INVALID
    | some data => set type (.attributeMap data)

/-- The mechanisms in an array of them. -/
def mechanismsAt (value : ByteString) : Finset CK_MECHANISM_TYPE :=
  ((List.range (value.length / sizeof_CK_ULONG)).map fun i =>
    ulongAt (value.drop (i * sizeof_CK_ULONG))).toFinset

def updateMechanisms (type : CK_ATTRIBUTE_TYPE) (e : CK_ATTRIBUTE) : Update :=
  if e.ulValueLen = 0 || e.ulValueLen % sizeof_CK_ULONG ≠ 0 then
    refuse CKR_ATTRIBUTE_VALUE_INVALID
  else set type (.mechanismTypeSet (mechanismsAt e.bytes))

/-- `updateAttr`, of the class that the attribute has. -/
def P11Attribute.applyUpdateAttr (a : P11Attribute) (token : TokenView) (isPrivate : Bool)
    (e : CK_ATTRIBUTE) (op : ObjectOp) : Update :=
  match a.updateAttr with
  | .bytes => updateBytes token isPrivate a.type e
  | .sameAs default => fun m =>
    if e.ulValueLen ≠ sizeof_CK_ULONG then (CKR_ATTRIBUTE_VALUE_INVALID, m)
    else if m.getUnsignedLongValue a.type default ≠ ulongAt e.bytes then
      (CKR_TEMPLATE_INCONSISTENT, m)
    else done m
  | .boolean => updateBoolean a.type e
  | .copyable => fun m =>
    if e.ulValueLen ≠ sizeof_CK_BBOOL then (CKR_ATTRIBUTE_VALUE_INVALID, m)
    else if e.bool = CK_FALSE then set a.type (.boolean false) m
    else if m.getBooleanValue CKA_COPYABLE true = false then (CKR_ATTRIBUTE_READ_ONLY, m)
    else done m
  | .checkValue => updateCheckValue token isPrivate a.type e
  | .value => updateValue token isPrivate a.type e op
  | .trusted => updateTrusted token a.type e op
  | .unsignedLong => updateULong a.type e
  | .date =>
    if e.ulValueLen ≠ sizeof_CK_DATE && e.ulValueLen ≠ 0 then refuse CKR_ATTRIBUTE_VALUE_INVALID
    else updateBytes token isPrivate a.type e
  | .readOnly => refuse CKR_ATTRIBUTE_READ_ONLY
  | .sensitive =>
    updateUnlessFinal true a.type e op (set CKA_ALWAYS_SENSITIVE (.boolean false))
      (when (fun _ => op = .GENERATE || op = .DERIVE) (set CKA_ALWAYS_SENSITIVE (.boolean true)))
  | .extractable =>
    updateUnlessFinal false a.type e op done (set CKA_NEVER_EXTRACTABLE (.boolean false))
  | .wrapWithTrusted => updateUnlessFinal true a.type e op done done
  | .alwaysAuthenticate =>
    if e.ulValueLen ≠ sizeof_CK_BBOOL then refuse CKR_ATTRIBUTE_VALUE_INVALID
    else if e.bool = CK_FALSE then set a.type (.boolean false)
    else if !isPrivate then refuse CKR_TEMPLATE_INCONSISTENT
    else set a.type (.boolean true)
  | .bigInteger bitsType =>
    (updateBytes token isPrivate a.type e).andThen <|
      when (fun m => op = .CREATE && m.attributeExists bitsType)
        (set bitsType (.unsignedLong (UInt64.ofNat (bits e.bytes))))
  | .unsignedLongOn ops =>
    if op ∉ ops then refuse CKR_ATTRIBUTE_READ_ONLY else updateULong a.type e
  | .template => updateTemplate token a.type e
  | .mechanisms => updateMechanisms a.type e

/-- The operations that make an object. -/
def ObjectOp.makes : ObjectOp → Bool
  | .GENERATE | .CREATE | .UNWRAP | .DECAPSULATE => true
  | _ => false

/-- `P11Attribute::update`. -/
def P11Attribute.update (a : P11Attribute) (token : TokenView) (isPrivate : Bool)
    (e : CK_ATTRIBUTE) (op : ObjectOp) : Update := fun m =>
  if e.pValue.isNone && e.ulValueLen ≠ 0 then (CKR_ATTRIBUTE_VALUE_INVALID, m)
  else if a.size.any fun size => size ≠ e.ulValueLen then (CKR_ATTRIBUTE_VALUE_INVALID, m)
  else if !m.isModifiable && !op.makes then (CKR_ATTRIBUTE_READ_ONLY, m)
  else if m.isTrusted && !op.makes &&
      m.getUnsignedLongValue CKA_CLASS CKO_VENDOR_DEFINED = CKO_CERTIFICATE then
    (CKR_ATTRIBUTE_READ_ONLY, m)
  else if a.has ck2 && op = .CREATE then (CKR_ATTRIBUTE_READ_ONLY, m)
  else if a.has ck4 && op = .GENERATE then (CKR_ATTRIBUTE_READ_ONLY, m)
  else if a.has ck6 && op = .UNWRAP then (CKR_ATTRIBUTE_READ_ONLY, m)
  else if a.has ck8 && (op = .SET || op = .COPY) then
    a.applyUpdateAttr token isPrivate e op m
  else if a.has ck10 && op = .SET &&
      m.getUnsignedLongValue CKA_CLASS CKO_VENDOR_DEFINED = CKO_CERTIFICATE then
    a.applyUpdateAttr token isPrivate e op m
  else if a.has ck11 && (op = .SET || op = .COPY) then
    a.applyUpdateAttr token isPrivate e op m
  else if a.has ck17 && op = .COPY then a.applyUpdateAttr token isPrivate e op m
  else if op = .CREATE || op = .DERIVE || op = .GENERATE || op = .UNWRAP || op = .DECAPSULATE then
    a.applyUpdateAttr token isPrivate e op m
  else (CKR_ATTRIBUTE_READ_ONLY, m)

/-! ### Reading -/

/-- An attribute of the array that a template is read into. -/
structure Element where
  type : CK_ATTRIBUTE_TYPE
  hasBuffer : Bool
  ulValueLen : ℕ
  value : Option ByteString := none
  deriving DecidableEq

/-- An attribute that is asked for: whether `pValue` is not a null pointer, the size of the
buffer, and the elements where it is an array of attributes. -/
structure Request where
  type : CK_ATTRIBUTE_TYPE
  hasBuffer : Bool
  ulValueLen : ℕ
  array : List Element := []

/-- What is written to a buffer. -/
inductive Written
  | nothing
  | bytes (value : ByteString)
  | array (elements : List Element)
  deriving DecidableEq

/-- What comes of an attribute that is asked for. -/
structure Retrieved where
  rv : CK_RV
  ulValueLen : ℕ
  written : Written
  deriving DecidableEq

def bboolBytes (b : Bool) : ByteString := [if b then CK_TRUE else CK_FALSE]

/-- The bytes of a simple attribute. -/
def simpleValue : OSAttribute → Option ByteString
  | .boolean value => some (bboolBytes value)
  | .unsignedLong value => some (ulongBytes value)
  | .byteString value => some value
  | _ => none

/-- The first loop of `retrieveAttributeMap`: the types and the sizes. -/
def mapSizes : List Element → AttributeMap → CK_RV × List Element
  | e :: es, (type, attr) :: map =>
    match simpleValue attr with
    | none => (CKR_GENERAL_ERROR, { e with type := type } :: es)
    | some value =>
      let (rv, es) := mapSizes es map
      (rv, { e with type := type, ulValueLen := value.length } :: es)
  | es, _ => (CKR_OK, es)

/-- The second loop of `retrieveAttributeMap`: the values, for the first `n` elements. -/
def mapValues (map : AttributeMap) : ℕ → List Element → CK_RV × List Element
  | n + 1, e :: es =>
    match OrderedMap.get e.type map with
    | none =>
      (CKR_ATTRIBUTE_TYPE_INVALID, { e with ulValueLen := CK_UNAVAILABLE_INFORMATION } :: es)
    | some attr =>
      match simpleValue attr with
      | none => (CKR_GENERAL_ERROR, e :: es)
      | some value =>
        if e.ulValueLen < value.length then
          (CKR_BUFFER_TOO_SMALL, { e with ulValueLen := CK_UNAVAILABLE_INFORMATION } :: es)
        else
          let (rv, es) := mapValues map n es
          (rv, { e with ulValueLen := value.length, value := some value } :: es)
  | _, es => (CKR_OK, es)

def retrieveAttributeMap (pTemplate : List Element) (map : AttributeMap) : CK_RV × List Element :=
  if (pTemplate.take map.length).all fun e => !e.hasBuffer then mapSizes pTemplate map
  else mapValues map map.length pTemplate

/-- `readStored`. -/
def P11Attribute.readStored (a : P11Attribute) (decrypt : ByteString → Option ByteString)
    (stored : ByteString) : Option ByteString :=
  if a.isLegacyPlaintext stored.length then some stored else decrypt stored

/-- The value of a byte string, decrypted for a private object. -/
def P11Attribute.plain (a : P11Attribute) (decrypt : ByteString → Option ByteString)
    (isPrivate : Bool) (stored : ByteString) : Option ByteString :=
  if isPrivate && stored.length ≠ 0 then a.readStored decrypt stored else some stored

/-- The size of an attribute, from the object where it is variable. -/
def P11Attribute.attrSize (a : P11Attribute) (decrypt : ByteString → Option ByteString)
    (isPrivate : Bool) (attr : OSAttribute) : Option ℕ :=
  match a.size with
  | some size => some size
  | none =>
    match attr with
    | .byteString stored => (a.plain decrypt isPrivate stored).map List.length
    | .mechanismTypeSet value => some (value.card * sizeof_CK_ULONG)
    | .attributeMap value => some (value.length * sizeof_CK_ATTRIBUTE)
    | _ => none

/-- Whether the value may not be shown. -/
def P11Attribute.hidden (a : P11Attribute) (m : AttributeMap) : Bool :=
  a.has ck7 && (m.isSensitive || !m.isExtractable)

/-- What is copied into a buffer that is large enough, with the answer. -/
def P11Attribute.copy (a : P11Attribute) (decrypt : ByteString → Option ByteString)
    (isPrivate : Bool) (attr : OSAttribute) (array : List Element) : Option (CK_RV × Written) :=
  match attr with
  | .unsignedLong value => some (CKR_OK, .bytes (ulongBytes value))
  | .boolean value => some (CKR_OK, .bytes (bboolBytes value))
  | .byteString stored => (a.plain decrypt isPrivate stored).map fun value => (CKR_OK, .bytes value)
  | .mechanismTypeSet value =>
    some (CKR_OK, .bytes ((File.mechanismTypes value).flatMap ulongBytes))
  | .attributeMap value =>
    let (rv, elements) := retrieveAttributeMap array value
    some (rv, .array elements)

/-- `P11Attribute::retrieve`. -/
def P11Attribute.retrieve (a : P11Attribute) (decrypt : ByteString → Option ByteString)
    (isPrivate : Bool) (r : Request) (m : AttributeMap) : Retrieved :=
  if a.hidden m then ⟨CKR_ATTRIBUTE_SENSITIVE, CK_UNAVAILABLE_INFORMATION, .nothing⟩
  else
    match OrderedMap.get a.type m with
    | none => ⟨CKR_GENERAL_ERROR, r.ulValueLen, .nothing⟩
    | some attr =>
      match a.attrSize decrypt isPrivate attr with
      | none => ⟨CKR_GENERAL_ERROR, r.ulValueLen, .nothing⟩
      | some attrSize =>
        if !r.hasBuffer then ⟨CKR_OK, attrSize, .nothing⟩
        else if attrSize ≤ r.ulValueLen then
          match a.copy decrypt isPrivate attr r.array with
          | none => ⟨CKR_GENERAL_ERROR, r.ulValueLen, .nothing⟩
          | some (rv, written) => ⟨rv, attrSize, written⟩
        else ⟨CKR_BUFFER_TOO_SMALL, CK_UNAVAILABLE_INFORMATION, .nothing⟩

end SoftHSM
