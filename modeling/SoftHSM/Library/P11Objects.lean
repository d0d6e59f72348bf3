import SoftHSM.Lib.RecordFile
import SoftHSM.Library.P11Attributes

/-!
The kinds of objects: the attributes that each has, and how an object of each kind is given its
defaults, read and updated. An object of a token has a file, one of a session does not.
-/

namespace SoftHSM

open CK_RV
open RecordFile (Write)

/-! ### Objects of the stores -/

/-- An object, and what its file holds unless it is unreadable. The transactions of a session
object do nothing. -/
structure OSObject where
  isSession : Bool
  attributes : AttributeMap
  valid : Bool
  file : Option AttributeMap
  inTransaction : Bool

namespace OSObject

def attributeExists (o : OSObject) (type : CK_ATTRIBUTE_TYPE) : Bool :=
  o.valid && o.attributes.attributeExists type

/-- `store` to the file. -/
def store (w : Write) (o : OSObject) : OSObject :=
  match w with
  | .done => { o with file := some o.attributes }
  | .refused => { o with valid := false }
  | .torn => { o with file := none, valid := false }

/-- The forced `refresh`. -/
def reload (o : OSObject) : OSObject :=
  match o.file with
  | none => { o with valid := false }
  | some m => { o with attributes := m, valid := true }

def setAttribute (w : Write) (type : CK_ATTRIBUTE_TYPE) (attr : OSAttribute) (o : OSObject) :
    Bool × OSObject :=
  if !o.valid then (false, o)
  else
    let o := { o with attributes := o.attributes.setAttribute type attr }
    if o.isSession || o.inTransaction then (true, o)
    else
      let o := o.store w
      (o.valid, o)

def startTransaction (locks : Bool) (o : OSObject) : Bool × OSObject :=
  if o.isSession then (true, o)
  else if o.inTransaction || !locks then (false, o)
  else
    let o := o.reload
    if !o.valid then (false, o) else (true, { o with inTransaction := true })

def commitTransaction (w : Write) (o : OSObject) : Bool × OSObject :=
  if o.isSession then (true, o)
  else if !o.inTransaction then (false, o)
  else
    let o := o.store w
    if !o.valid then (false, o) else (true, { o with inTransaction := false })

def abortTransaction (o : OSObject) : Bool × OSObject :=
  if o.isSession then (true, o)
  else if !o.inTransaction then (false, o)
  else (true, { o with inTransaction := false }.reload)

end OSObject

/-! ### The kinds of objects -/

/-- What `init` sets before the attributes get their defaults. -/
inductive Preset
  | value (type : CK_ATTRIBUTE_TYPE) (v : UInt64)
  | missing (type : CK_ATTRIBUTE_TYPE) (attr : OSAttribute)

/-- `P11Object`, without its object: what `init` sets, and the attributes in the order in which
they are made. -/
structure P11Object where
  presets : List Preset
  attributes : List P11Attribute

namespace P11Object

/-- The attributes of a subclass come after those of its parent, what it sets before. -/
def extend (parent : P11Object) (presets : List Preset) (attributes : List P11Attribute) :
    P11Object := ⟨presets ++ parent.presets, parent.attributes ++ attributes⟩

def base : P11Object :=
  ⟨[], [P11AttrClass, P11AttrToken, P11AttrPrivate, P11AttrModifiable, P11AttrLabel,
    P11AttrCopyable, P11AttrDestroyable]⟩

def P11DataObj : P11Object :=
  base.extend [.value CKA_CLASS CKO_DATA]
    [P11AttrApplication, P11AttrObjectID, P11AttrValue 0]

def P11CertificateObj : P11Object :=
  base.extend [.value CKA_CLASS CKO_CERTIFICATE, .missing CKA_PRIVATE (.boolean false)]
    [P11AttrCertificateType, P11AttrTrusted, P11AttrCertificateCategory, P11AttrCheckValue 0,
      P11AttrStartDate 0, P11AttrEndDate 0, P11AttrPublicKeyInfo 0]

def P11X509CertificateObj : P11Object :=
  P11CertificateObj.extend [.value CKA_CERTIFICATE_TYPE CKC_X_509]
    [P11AttrSubject ck1, P11AttrID, P11AttrIssuer, P11AttrSerialNumber,
      P11AttrValue (ck1 ||| ck14), P11AttrURL, P11AttrHashOfSubjectPublicKey,
      P11AttrHashOfIssuerPublicKey, P11AttrJavaMidpSecurityDomain, P11AttrNameHashAlgorithm]

def P11OpenPGPPublicKeyObj : P11Object :=
  P11CertificateObj.extend [.value CKA_CERTIFICATE_TYPE CKC_OPENPGP]
    [P11AttrSubject ck1, P11AttrID, P11AttrIssuer, P11AttrSerialNumber,
      P11AttrValue (ck1 ||| ck14), P11AttrURL]

def P11KeyObj : P11Object :=
  base.extend []
    [P11AttrKeyType ck5, P11AttrID, P11AttrStartDate ck8, P11AttrEndDate ck8, P11AttrDerive,
      P11AttrLocal ck6, P11AttrKeyGenMechanism, P11AttrAllowedMechanisms,
      P11AttrVendorBool CKA_VENDOR_KEY_PIN_ENTER, P11AttrVendorBool CKA_VENDOR_KEY_CONFIRM_OP,
      P11AttrVendorBool CKA_VENDOR_KEY_JOURNAL, P11AttrVendorBool CKA_VENDOR_CONFIRM_BY_TOUCH]

def P11PublicKeyObj : P11Object :=
  P11KeyObj.extend [.value CKA_CLASS CKO_PUBLIC_KEY, .missing CKA_PRIVATE (.boolean false)]
    [P11AttrSubject ck8, P11AttrEncrypt, P11AttrVerify, P11AttrVerifyRecover, P11AttrWrap,
      P11AttrTrusted, P11AttrWrapTemplate, P11AttrPublicKeyInfo 0]

def P11RSAPublicKeyObj : P11Object :=
  P11PublicKeyObj.extend [.value CKA_KEY_TYPE CKK_RSA]
    [P11AttrModulus 0, P11AttrModulusBits, P11AttrPublicExponent ck1]

def P11DSAPublicKeyObj : P11Object :=
  P11PublicKeyObj.extend [.value CKA_KEY_TYPE CKK_DSA]
    [P11AttrPrime ck3, P11AttrSubPrime ck3, P11AttrBase ck3, P11AttrValue (ck1 ||| ck4)]

def P11ECPublicKeyObj : P11Object :=
  P11PublicKeyObj.extend [.value CKA_KEY_TYPE CKK_EC] [P11AttrEcParams ck3, P11AttrEcPoint]

def P11EDPublicKeyObj : P11Object :=
  P11PublicKeyObj.extend [.value CKA_KEY_TYPE CKK_EC_EDWARDS]
    [P11AttrEcParams ck3, P11AttrEcPoint]

def P11MLDSAPublicKeyObj : P11Object :=
  P11PublicKeyObj.extend [.value CKA_KEY_TYPE CKK_ML_DSA]
    [P11AttrParameterSet ck3, P11AttrValue (ck1 ||| ck4)]

def P11MLKEMPublicKeyObj : P11Object :=
  P11PublicKeyObj.extend [.value CKA_KEY_TYPE CKK_ML_KEM]
    [P11AttrEncapsulate, P11AttrParameterSet (ck1 ||| ck3), P11AttrValue (ck1 ||| ck4)]

def P11DHPublicKeyObj : P11Object :=
  P11PublicKeyObj.extend [.value CKA_KEY_TYPE CKK_DH]
    [P11AttrPrime ck3, P11AttrBase ck3, P11AttrValue (ck1 ||| ck4)]

def P11GOSTPublicKeyObj (keyType : CK_KEY_TYPE) : P11Object :=
  P11PublicKeyObj.extend [.value CKA_KEY_TYPE keyType]
    [P11AttrValue (ck1 ||| ck4), P11AttrGostR3410Params ck3, P11AttrGostR3411Params ck3,
      P11AttrGost28147Params ck8]

def P11PrivateKeyObj : P11Object :=
  P11KeyObj.extend [.value CKA_CLASS CKO_PRIVATE_KEY]
    [P11AttrSubject ck8, P11AttrSensitive, P11AttrDecrypt, P11AttrSign, P11AttrSignRecover,
      P11AttrUnwrap, P11AttrExtractable, P11AttrAlwaysSensitive, P11AttrNeverExtractable,
      P11AttrWrapWithTrusted, P11AttrUnwrapTemplate, P11AttrAlwaysAuthenticate,
      P11AttrPublicKeyInfo ck8]

/-- `CKA_VALUE` of a private or a secret key. -/
def keyValue : P11Attribute := P11AttrValue (ck1 ||| ck4 ||| ck6 ||| ck7)

def P11RSAPrivateKeyObj : P11Object :=
  P11PrivateKeyObj.extend [.value CKA_KEY_TYPE CKK_RSA]
    [P11AttrModulus ck6, P11AttrPublicExponent (ck4 ||| ck6), P11AttrPrivateExponent,
      P11AttrPrime1, P11AttrPrime2, P11AttrExponent1, P11AttrExponent2, P11AttrCoefficient]

def P11DSAPrivateKeyObj : P11Object :=
  P11PrivateKeyObj.extend [.value CKA_KEY_TYPE CKK_DSA]
    [P11AttrPrime (ck4 ||| ck6), P11AttrSubPrime (ck4 ||| ck6), P11AttrBase (ck4 ||| ck6), keyValue]

def P11ECPrivateKeyObj : P11Object :=
  P11PrivateKeyObj.extend [.value CKA_KEY_TYPE CKK_EC] [P11AttrEcParams (ck4 ||| ck6), keyValue]

def P11EDPrivateKeyObj : P11Object :=
  P11PrivateKeyObj.extend [.value CKA_KEY_TYPE CKK_EC_EDWARDS]
    [P11AttrEcParams (ck4 ||| ck6), keyValue]

def P11MLDSAPrivateKeyObj : P11Object :=
  P11PrivateKeyObj.extend [.value CKA_KEY_TYPE CKK_ML_DSA]
    [P11AttrParameterSet (ck4 ||| ck6), keyValue, P11AttrSeed]

def P11MLKEMPrivateKeyObj : P11Object :=
  P11PrivateKeyObj.extend [.value CKA_KEY_TYPE CKK_ML_KEM]
    [P11AttrDecapsulate, P11AttrParameterSet (ck4 ||| ck6), keyValue, P11AttrSeed]

def P11DHPrivateKeyObj : P11Object :=
  P11PrivateKeyObj.extend [.value CKA_KEY_TYPE CKK_DH]
    [P11AttrPrime (ck4 ||| ck6), P11AttrBase (ck4 ||| ck6), keyValue, P11AttrValueBits]

def P11GOSTPrivateKeyObj (keyType : CK_KEY_TYPE) : P11Object :=
  P11PrivateKeyObj.extend [.value CKA_KEY_TYPE keyType]
    [keyValue, P11AttrGostR3410Params (ck4 ||| ck6), P11AttrGostR3411Params (ck4 ||| ck6),
      P11AttrGost28147Params (ck4 ||| ck6 ||| ck8)]

def P11SecretKeyObj : P11Object :=
  P11KeyObj.extend [.value CKA_CLASS CKO_SECRET_KEY]
    [P11AttrSensitive, P11AttrEncrypt, P11AttrDecrypt, P11AttrSign, P11AttrVerify, P11AttrWrap,
      P11AttrUnwrap, P11AttrExtractable, P11AttrAlwaysSensitive, P11AttrNeverExtractable,
      P11AttrCheckValue ck8, P11AttrWrapWithTrusted, P11AttrTrusted, P11AttrWrapTemplate,
      P11AttrUnwrapTemplate]

def P11GenericSecretKeyObj (keytype : CK_KEY_TYPE) : P11Object :=
  P11SecretKeyObj.extend [.value CKA_KEY_TYPE keytype] [keyValue, P11AttrValueLen 0]

def P11AESSecretKeyObj : P11Object :=
  P11SecretKeyObj.extend [.value CKA_KEY_TYPE CKK_AES] [keyValue, P11AttrValueLen ck6]

def P11DESSecretKeyObj (keytype : CK_KEY_TYPE) : P11Object :=
  P11SecretKeyObj.extend [.value CKA_KEY_TYPE keytype] [keyValue]

def P11GOSTSecretKeyObj (keytype : CK_KEY_TYPE) : P11Object :=
  P11SecretKeyObj.extend [.value CKA_KEY_TYPE keytype]
    (if keytype = CKK_GOST28147 then [keyValue, P11AttrGost28147Params (ck1 ||| ck5)]
      else [keyValue])

def P11DomainObj : P11Object :=
  base.extend [.value CKA_CLASS CKO_DOMAIN_PARAMETERS] [P11AttrKeyType 0, P11AttrLocal 0]

def P11DSADomainObj : P11Object :=
  P11DomainObj.extend [.value CKA_KEY_TYPE CKK_DSA]
    [P11AttrPrime ck4, P11AttrSubPrime ck4, P11AttrBase ck4, P11AttrPrimeBits]

def P11DHDomainObj : P11Object :=
  P11DomainObj.extend [.value CKA_KEY_TYPE CKK_DH] [P11AttrPrime ck4, P11AttrBase ck4,
    P11AttrPrimeBits]

/-! ### What an object does -/

/-- The entry of the map at a type: the last attribute that was put there. -/
def attributeOf (p : P11Object) (type : CK_ATTRIBUTE_TYPE) : Option P11Attribute :=
  p.attributes.reverse.find? fun a => a.type = type

/-- A preset, by `setAttribute` whose answer is not looked at. -/
def applyPreset (stores : CK_ATTRIBUTE_TYPE → Write) (o : OSObject) : Preset → OSObject
  | .value type v =>
    if !o.attributeExists type || o.attributes.getUnsignedLongValue type CKO_VENDOR_DEFINED ≠ v then
      (o.setAttribute (stores type) type (.unsignedLong v)).2
    else o
  | .missing type attr =>
    if !o.attributeExists type then (o.setAttribute (stores type) type attr).2 else o

/-- `init` of the attributes, one after the other. -/
def initAttributes (stores : CK_ATTRIBUTE_TYPE → Write) :
    List P11Attribute → OSObject → Bool × OSObject
  | [], o => (true, o)
  | a :: l, o =>
    match if !o.attributeExists a.type then o.setAttribute (stores a.type) a.type a.default
        else (true, o) with
    | (false, o) => (false, o)
    | (true, o) => initAttributes stores l o

/-- `init`, with how each default is stored. -/
def init (p : P11Object) (stores : CK_ATTRIBUTE_TYPE → Write) (o : OSObject) : Bool × OSObject :=
  initAttributes stores p.attributes (p.presets.foldl (applyPreset stores) o)

def isPrivate (m : AttributeMap) : Bool :=
  if !m.attributeExists CKA_PRIVATE then false else m.getBooleanValue CKA_PRIVATE false

def isCopyable (m : AttributeMap) : Bool :=
  if !m.attributeExists CKA_COPYABLE then true else m.getBooleanValue CKA_COPYABLE true

/-- The loop of `loadTemplate`: what comes of the attributes up to the first that fails. -/
def retrieveAll (p : P11Object) (decrypt : ByteString → Option ByteString) (m : AttributeMap) :
    List Request → Bool × List Retrieved
  | [] => (true, [])
  | r :: rs =>
    match p.attributeOf r.type with
    | none =>
      let (ok, l) := p.retrieveAll decrypt m rs
      (ok, ⟨CKR_ATTRIBUTE_TYPE_INVALID, CK_UNAVAILABLE_INFORMATION, .nothing⟩ :: l)
    | some a =>
      let x := a.retrieve decrypt (isPrivate m) r m
      if x.rv = CKR_OK ∨ x.rv = CKR_ATTRIBUTE_SENSITIVE ∨ x.rv = CKR_BUFFER_TOO_SMALL then
        let (ok, l) := p.retrieveAll decrypt m rs
        (ok, x :: l)
      else (false, [x])

/-- `loadTemplate`: its answer, and what comes of each attribute that was reached. -/
def loadTemplate (p : P11Object) (decrypt : ByteString → Option ByteString)
    (pTemplate : List Request) (m : AttributeMap) : CK_RV × List Retrieved :=
  match p.retrieveAll decrypt m pTemplate with
  | (false, l) => (CKR_GENERAL_ERROR, l)
  | (true, l) =>
    (if l.any (·.rv = CKR_ATTRIBUTE_SENSITIVE) then CKR_ATTRIBUTE_SENSITIVE
      else if l.any (·.rv = CKR_ATTRIBUTE_TYPE_INVALID) then CKR_ATTRIBUTE_TYPE_INVALID
      else if l.any (·.rv = CKR_BUFFER_TOO_SMALL) then CKR_BUFFER_TOO_SMALL
      else CKR_OK, l)

/-- The loop of `saveTemplate`. -/
def updateAll (p : P11Object) (token : TokenView) (isPrivate : Bool) (op : ObjectOp) :
    List CK_ATTRIBUTE → Update
  | [] => Update.done
  | e :: es =>
    Update.andThen
      (match p.attributeOf e.type with
      | none => Update.refuse CKR_ATTRIBUTE_TYPE_INVALID
      | some a => a.update token isPrivate e op)
      (p.updateAll token isPrivate op es)

/-- Whether an attribute has to be in the template of an operation. -/
def mandatory (op : ObjectOp) (a : P11Attribute) : Bool :=
  a.has ck1 && op = .CREATE || a.has ck3 && op = .GENERATE || a.has ck5 && op = .UNWRAP ||
    a.has ck5 && op = .DECAPSULATE

/-- How the transaction of a `saveTemplate` turns out. -/
structure Storage where
  locks : Bool
  commit : Write

def saveTemplate (p : P11Object) (token : TokenView) (isPrivate : Bool) (w : Storage)
    (pTemplate : List CK_ATTRIBUTE) (op : ObjectOp) (o : OSObject) : CK_RV × OSObject :=
  match o.startTransaction w.locks with
  | (false, o) => (CKR_GENERAL_ERROR, o)
  | (true, o) =>
    if op = .SET && !o.attributes.isModifiable then (CKR_ACTION_PROHIBITED, o.abortTransaction.2)
    else if op = .COPY && !isCopyable o.attributes then
      (CKR_ACTION_PROHIBITED, o.abortTransaction.2)
    else
      match p.updateAll token isPrivate op pTemplate o.attributes with
      | (CKR_OK, m) =>
        let o := { o with attributes := m }
        if p.attributes.any fun a => mandatory op a && pTemplate.all (·.type ≠ a.type) then
          (CKR_TEMPLATE_INCOMPLETE, o.abortTransaction.2)
        else
          match o.commitTransaction w.commit with
          | (false, o) => (CKR_GENERAL_ERROR, o)
          | (true, o) => (CKR_OK, o)
      | (rv, m) => (rv, { o with attributes := m }.abortTransaction.2)

end P11Object

open P11Object

/-! ### `newP11Object`

For a class, a key type and a certificate type; `none` is `CKR_ATTRIBUTE_VALUE_INVALID`. -/

def certificateOf (certType : UInt64) : Option P11Object :=
  if certType = CKC_X_509 then some P11X509CertificateObj
  else if certType = CKC_OPENPGP then some P11OpenPGPPublicKeyObj
  else none

def publicKeyOf (keyType : CK_KEY_TYPE) : Option P11Object :=
  if keyType = CKK_RSA then some P11RSAPublicKeyObj
  else if keyType = CKK_DSA then some P11DSAPublicKeyObj
  else if keyType = CKK_EC then some P11ECPublicKeyObj
  else if keyType = CKK_DH then some P11DHPublicKeyObj
  else if keyType = CKK_GOSTR3410 then some (P11GOSTPublicKeyObj CKK_GOSTR3410)
  else if keyType = CKK_GOSTR3410_512 then some (P11GOSTPublicKeyObj CKK_GOSTR3410_512)
  else if keyType = CKK_EC_EDWARDS then some P11EDPublicKeyObj
  else if keyType = CKK_ML_DSA then some P11MLDSAPublicKeyObj
  else if keyType = CKK_ML_KEM then some P11MLKEMPublicKeyObj
  else none

def privateKeyOf (keyType : CK_KEY_TYPE) : Option P11Object :=
  if keyType = CKK_RSA then some P11RSAPrivateKeyObj
  else if keyType = CKK_DSA then some P11DSAPrivateKeyObj
  else if keyType = CKK_EC then some P11ECPrivateKeyObj
  else if keyType = CKK_DH then some P11DHPrivateKeyObj
  else if keyType = CKK_GOSTR3410 then some (P11GOSTPrivateKeyObj CKK_GOSTR3410)
  else if keyType = CKK_GOSTR3410_512 then some (P11GOSTPrivateKeyObj CKK_GOSTR3410_512)
  else if keyType = CKK_EC_EDWARDS then some P11EDPrivateKeyObj
  else if keyType = CKK_ML_DSA then some P11MLDSAPrivateKeyObj
  else if keyType = CKK_ML_KEM then some P11MLKEMPrivateKeyObj
  else none

def secretKeyOf (keyType : CK_KEY_TYPE) : Option P11Object :=
  if keyType ∈ [CKK_GENERIC_SECRET, CKK_KUZNECHIK_TWIN_KEY, CKK_MAGMA_TWIN_KEY, CKK_MD5_HMAC,
      CKK_SHA_1_HMAC, CKK_SHA224_HMAC, CKK_SHA256_HMAC, CKK_SHA384_HMAC, CKK_SHA512_HMAC] then
    some (P11GenericSecretKeyObj keyType)
  else if keyType = CKK_AES then some P11AESSecretKeyObj
  else if keyType ∈ [CKK_DES, CKK_DES2, CKK_DES3] then some (P11DESSecretKeyObj keyType)
  else if keyType ∈ [CKK_GOST28147, CKK_KUZNECHIK, CKK_MAGMA] then
    some (P11GOSTSecretKeyObj keyType)
  else none

def domainOf (keyType : CK_KEY_TYPE) : Option P11Object :=
  if keyType = CKK_DSA then some P11DSADomainObj
  else if keyType = CKK_DH then some P11DHDomainObj
  else none

def p11ObjectOf (objClass : UInt64) (keyType : CK_KEY_TYPE) (certType : UInt64) :
    Option P11Object :=
  if objClass = CKO_DATA then some P11DataObj
  else if objClass = CKO_CERTIFICATE then certificateOf certType
  else if objClass = CKO_PUBLIC_KEY then publicKeyOf keyType
  else if objClass = CKO_PRIVATE_KEY then privateKeyOf keyType
  else if objClass = CKO_SECRET_KEY then secretKeyOf keyType
  else if objClass = CKO_DOMAIN_PARAMETERS then domainOf keyType
  else none

/-- The kind of an object, by its own attributes. -/
def kindOf (o : OSObject) : Option P11Object :=
  p11ObjectOf (o.attributes.getUnsignedLongValue CKA_CLASS CKO_VENDOR_DEFINED)
    (if o.attributeExists CKA_KEY_TYPE then o.attributes.getUnsignedLongValue CKA_KEY_TYPE CKK_RSA
      else CKK_RSA)
    (if o.attributeExists CKA_CERTIFICATE_TYPE then
      o.attributes.getUnsignedLongValue CKA_CERTIFICATE_TYPE CKC_X_509 else CKC_X_509)

/-- `newP11Object` of an object, which gives it the defaults that it lacks. -/
def newP11Object (stores : CK_ATTRIBUTE_TYPE → Write) (o : OSObject) :
    Except CK_RV P11Object × OSObject :=
  match kindOf o with
  | none => (.error CKR_ATTRIBUTE_VALUE_INVALID, o)
  | some p =>
    match p.init stores o with
    | (false, o) => (.error CKR_GENERAL_ERROR, o)
    | (true, o) => (.ok p, o)

end SoftHSM
