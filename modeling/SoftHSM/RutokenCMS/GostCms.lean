import SoftHSM.RutokenCMS.SignedData
import SoftHSM.RutokenCMS.VerifyStates

/-!
Signed messages of GOST keys: the token makes the digests and the signatures, the envelope is
written here by hand, and the library reads it.
-/

namespace SoftHSM.RutokenCMS

open CK_RV Der

/-! ### The token and the library -/

abbrev CK_OBJECT_HANDLE := ℕ

def PKCS7_DETACHED_SIGNATURE : CK_FLAGS := 0x01
def OPTIONAL_CRL_CHECK : UInt64 := 0

def NID_pkcs7_signed : List ℕ := [1, 2, 840, 113549, 1, 7, 2]
def NID_pkcs7_data : List ℕ := [1, 2, 840, 113549, 1, 7, 1]
def NID_pkcs9_contentType : List ℕ := [1, 2, 840, 113549, 1, 9, 3]
def NID_pkcs9_messageDigest : List ℕ := [1, 2, 840, 113549, 1, 9, 4]
def NID_pkcs9_signingTime : List ℕ := [1, 2, 840, 113549, 1, 9, 5]
def NID_SMIMECapabilities : List ℕ := [1, 2, 840, 113549, 1, 9, 15]

/-- The identifiers of the digest, of the keys and of the signature with a digest, of 256 or 512
bits. -/
def gostDigest (bits : ℕ) : List ℕ := [1, 2, 643, 7, 1, 1, 2, if bits = 256 then 2 else 3]
def gostKey (bits : ℕ) : List ℕ := [1, 2, 643, 7, 1, 1, 1, if bits = 256 then 1 else 2]
def gostSignature (bits : ℕ) : List ℕ := [1, 2, 643, 7, 1, 1, 3, if bits = 256 then 2 else 3]

/-- The public key that is made on the token, for a key type of so many bits. -/
structure GostPublicKey where
  bits : ℕ
  value : ByteString
  gostR3410Params : ByteString
  gostR3411Params : ByteString
  deriving DecidableEq

/-- What the token answers. -/
structure GostToken where
  C_Digest : ℕ → ByteString → Except CK_RV ByteString
  C_Sign : CK_OBJECT_HANDLE → ℕ → ByteString → Except CK_RV ByteString
  C_CreateObject : GostPublicKey → CK_RV
  C_Verify : GostPublicKey → ℕ → ByteString → ByteString → CK_RV
  C_DestroyObject : GostPublicKey → CK_RV

/-- The public key in a certificate: its algorithm, the point as it is written there, and the
parameters if they are a sequence. -/
structure PublicKeyInfo where
  algorithm : ByteString
  encodedPoint : ByteString
  parameters : Option ByteString

/-- What the library says of certificates and messages, and how it writes them: with no bytes where
it fails. A decoder leaves what it has not read. -/
structure OpenSSL (Cert : Type) extends X509 Cert where
  i2d_X509 : Cert → ByteString
  issuerName : Cert → ByteString
  serialNumber : Cert → ByteString
  publicKey : Cert → Option PublicKeyInfo
  X509_NAME_cmp : ByteString → ByteString → Bool
  d2i_ASN1_OCTET_STRING : ByteString → Option (ByteString × ByteString)
  d2i_ASN1_SEQUENCE_ANY : ByteString → Option (List ByteString × ByteString)
  d2i_CMS_ContentInfo : ByteString → Option (ContentInfo × ByteString)
  utcTimeNow : ByteString

variable {Cert : Type}

namespace GostToken

variable (T : GostToken)

def tokenDigest (bits : ℕ) (input : ByteString) : Except CK_RV ByteString := do
  let output ← T.C_Digest bits input
  if output.length = bits / 8 then pure output else throw CKR_FUNCTION_FAILED

def gostSign (key : CK_OBJECT_HANDLE) (data : ByteString) (bits : ℕ) :
    Except CK_RV ByteString := do
  let digest ← T.tokenDigest bits data
  let signature ← T.C_Sign key bits digest
  if signature.length = bits / 4 then pure signature else throw CKR_FUNCTION_FAILED

end GostToken

/-! ### The envelope -/

def smimeCapabilities : ByteString :=
  [0x30, 0x81, 0xa7, 0x06, 0x09, 0x2a, 0x86, 0x48, 0x86, 0xf7, 0x0d, 0x01, 0x09, 0x0f,
    0x31, 0x81, 0x99, 0x30, 0x81, 0x96, 0x30, 0x0b, 0x06, 0x09, 0x60, 0x86, 0x48, 0x01,
    0x65, 0x03, 0x04, 0x01, 0x2a, 0x30, 0x0a, 0x06, 0x08, 0x2a, 0x85, 0x03, 0x07, 0x01,
    0x01, 0x02, 0x02, 0x30, 0x0a, 0x06, 0x08, 0x2a, 0x85, 0x03, 0x07, 0x01, 0x01, 0x02,
    0x03, 0x30, 0x08, 0x06, 0x06, 0x2a, 0x85, 0x03, 0x02, 0x02, 0x09, 0x30, 0x08, 0x06,
    0x06, 0x2a, 0x85, 0x03, 0x02, 0x02, 0x15, 0x30, 0x0b, 0x06, 0x09, 0x60, 0x86, 0x48,
    0x01, 0x65, 0x03, 0x04, 0x01, 0x16, 0x30, 0x0b, 0x06, 0x09, 0x60, 0x86, 0x48, 0x01,
    0x65, 0x03, 0x04, 0x01, 0x02, 0x30, 0x0a, 0x06, 0x08, 0x2a, 0x86, 0x48, 0x86, 0xf7,
    0x0d, 0x03, 0x07, 0x30, 0x0e, 0x06, 0x08, 0x2a, 0x86, 0x48, 0x86, 0xf7, 0x0d, 0x03,
    0x02, 0x02, 0x02, 0x00, 0x80, 0x30, 0x0d, 0x06, 0x08, 0x2a, 0x86, 0x48, 0x86, 0xf7,
    0x0d, 0x03, 0x02, 0x02, 0x01, 0x40, 0x30, 0x07, 0x06, 0x05, 0x2b, 0x0e, 0x03, 0x02,
    0x07, 0x30, 0x0d, 0x06, 0x08, 0x2a, 0x86, 0x48, 0x86, 0xf7, 0x0d, 0x03, 0x02, 0x02,
    0x01, 0x28]

def signedAttribute (type : List ℕ) (value : ByteString) : ByteString :=
  tagged 0x30 (joined [oid type, tagged 0x31 value])

/-- The attributes that are signed, in order. -/
def signedAttributes (contentDigest signingTime : ByteString) : ByteString :=
  (sort [signedAttribute NID_pkcs9_contentType (oid NID_pkcs7_data),
    signedAttribute NID_pkcs9_signingTime signingTime,
    signedAttribute NID_pkcs9_messageDigest (tagged 0x04 contentDigest),
    smimeCapabilities]).flatten

namespace OpenSSL

variable (O : OpenSSL Cert)

def gostBits (cert : Cert) : ℕ :=
  match O.publicKey cert with
  | none => 0
  | some info =>
    if info.algorithm = oid (gostKey 256) then 256
    else if info.algorithm = oid (gostKey 512) then 512
    else 0

/-- The signer as it is written. -/
def signer (cert : Cert) (attributes signature : ByteString) : ByteString :=
  let bits := O.gostBits cert
  let null : ByteString := [0x05, 0x00]
  tagged 0x30 (joined [tagged 0x02 [1],
    tagged 0x30 (joined [O.issuerName cert, O.serialNumber cert]),
    tagged 0x30 (joined [oid (gostDigest bits), null]),
    tagged 0xa0 attributes,
    tagged 0x30 (joined [oid (gostKey bits), null]),
    tagged 0x04 signature])

def signedData (data : ByteString) (cert : Cert) (chain : List ByteString) (flags : CK_FLAGS)
    (signer : ByteString) : ByteString :=
  let bits := O.gostBits cert
  let certificates := (sort (chain ++ [O.i2d_X509 cert])).flatten
  let contentInfo := joined [oid NID_pkcs7_data,
    if flags &&& PKCS7_DETACHED_SIGNATURE = 0 then tagged 0xa0 (tagged 0x04 data) else []]
  tagged 0x30 (joined [tagged 0x02 [1],
    tagged 0x31 (tagged 0x30 (oid (gostDigest bits))), tagged 0x30 contentInfo,
    tagged 0xa0 certificates, tagged 0x31 signer])

/-- What the signer puts out when the token has signed. -/
def envelope (data : ByteString) (cert : Cert) (chain : List ByteString) (flags : CK_FLAGS)
    (attributes signature : ByteString) : ByteString :=
  tagged 0x30 (joined [oid NID_pkcs7_signed,
    tagged 0xa0 (O.signedData data cert chain flags (O.signer cert attributes signature))])

def signGostCms (T : GostToken) (data : ByteString) (cert : Cert) (key : CK_OBJECT_HANDLE)
    (chain : List ByteString) (flags : CK_FLAGS) : Except CK_RV ByteString := do
  let bits := O.gostBits cert
  if bits = 0 then throw CKR_MECHANISM_INVALID
  let contentDigest ← T.tokenDigest bits data
  if O.utcTimeNow = [] then throw CKR_FUNCTION_FAILED
  let attributes := signedAttributes contentDigest O.utcTimeNow
  let signature ← T.gostSign key (tagged 0x31 attributes) bits
  if O.issuerName cert = [] ∨ O.serialNumber cert = [] then throw CKR_DATA_INVALID
  if O.i2d_X509 cert = [] then throw CKR_DATA_INVALID
  let output := O.envelope data cert chain flags attributes signature
  if output.length ≤ maxCms then pure output else throw CKR_DATA_LEN_RANGE

/-! ### The check -/

/-- Whether what is any type is an identifier. -/
def isObject (b : ByteString) : Bool := b.head? = some 0x06

/-- The identifiers of the curve and of the digest among the parameters; the digest may be left
out. -/
def parameterNames (bits : ℕ) : List ByteString → Option (ByteString × ByteString)
  | [] => none
  | [curve] => if isObject curve then some (curve, oid (gostDigest bits)) else none
  | curve :: hash :: _ => if isObject curve && isObject hash then some (curve, hash) else none

/-- The public key that is created, and with which the token goes on. -/
def gostPublicObject (T : GostToken) (cert : Cert) (bits : ℕ) : Except CK_RV GostPublicKey :=
  match O.publicKey cert with
  | none => .error CKR_DATA_INVALID
  | some info =>
    if info.encodedPoint = [] then .error CKR_DATA_INVALID
    else
      match O.d2i_ASN1_OCTET_STRING info.encodedPoint with
      | some (point, []) =>
        if point.length ≠ bits / 4 then .error CKR_DATA_INVALID
        else
          match info.parameters.bind O.d2i_ASN1_SEQUENCE_ANY with
          | some (values, []) =>
            match parameterNames bits values with
            | none => .error CKR_DATA_INVALID
            | some (curve, hash) =>
              let attrs : GostPublicKey := ⟨bits, point, curve, hash⟩
              if T.C_CreateObject attrs = CKR_OK then .ok attrs
              else .error (T.C_CreateObject attrs)
          | _ => .error CKR_DATA_INVALID
      | _ => .error CKR_DATA_INVALID

def verifyGostSignature (T : GostToken) (publicCert : Cert) (data signature : ByteString) : CK_RV :=
  let bits := O.gostBits publicCert
  if bits = 0 ∨ signature.length ≠ bits / 4 ∨ maxData < data.length then CKR_SIGNATURE_INVALID
  else
    match T.tokenDigest bits data with
    | .error rv => rv
    | .ok digest =>
      match O.gostPublicObject T publicCert bits with
      | .error rv => rv
      | .ok key =>
        let rv := T.C_Verify key bits digest signature
        if rv ≠ CKR_OK then rv else T.C_DestroyObject key

def decodeCms (der : ByteString) : Option ContentInfo :=
  match O.d2i_CMS_ContentInfo der with
  | some (cms, []) => if cms.contentType = oid NID_pkcs7_signed then some cms else none
  | _ => none

end OpenSSL

namespace ContentInfo

variable (cms : ContentInfo)

def isGostCms : Bool :=
  match cms.signerInfos with
  | [info] => info.signatureAlgorithm.algorithm ∈
      [oid (gostSignature 256), oid (gostSignature 512), oid (gostKey 256), oid (gostKey 512)]
  | _ => false

def CMS_is_detached : Bool := cms.eContent.isNone

end ContentInfo

namespace SignerInfo

variable (info : SignerInfo)

/-- The value of the attribute of a type, if there is one attribute with one value. -/
def CMS_signed_get0_data_by_OBJ (type : List ℕ) : Option ByteString :=
  match info.signedAttrs.filter fun a => a.type = oid type with
  | [⟨_, [value]⟩] => some value
  | _ => none

end SignerInfo

/-- What is given back: the content where it is asked for, and the signers. -/
structure Verified where
  data : Option ByteString
  signers : List ByteString
  deriving DecidableEq

namespace OpenSSL

variable (O : OpenSSL Cert)

/-- Whether a certificate is the signer's. -/
def CMS_SignerInfo_cert_cmp (info : SignerInfo) (candidate : Cert) : Bool :=
  O.X509_NAME_cmp info.issuer (O.issuerName candidate) &&
    info.serialNumber = O.serialNumber candidate

/-- The certificates of the message, with which the library has decoded it. -/
def CMS_get1_certs (cms : ContentInfo) : List Cert := cms.certificates.filterMap O.decodeCertificate

/-- The first certificate of the signer in the message, if it may be used, or in the store. -/
def locate (cms : ContentInfo) (external : List Cert) (flags : CK_FLAGS) (info : SignerInfo) :
    Option Cert :=
  ((usedInternal flags (some (O.CMS_get1_certs cms))).find? (O.CMS_SignerInfo_cert_cmp info)).or
    (external.find? (O.CMS_SignerInfo_cert_cmp info))

/-- The content that is checked, which is given with the message or in it. -/
def contentOf (cms : ContentInfo) (state : VerifyState) (detached : Bool) :
    Except CK_RV ByteString :=
  if detached then pure state.data
  else
    match cms.eContent with
    | none => throw CKR_SIGNATURE_INVALID
    | some embedded =>
      if embedded.length ≤ maxData then pure embedded else throw CKR_SIGNATURE_INVALID

/-- What has been signed: the content, or the attributes, which have the digest of the content. -/
def signedInput (T : GostToken) (bits : ℕ) (content : ByteString) (info : SignerInfo) :
    Except CK_RV ByteString :=
  if info.signedAttrs = [] then pure content
  else do
    let digest := (info.CMS_signed_get0_data_by_OBJ NID_pkcs9_messageDigest).bind
      (Der.contentOf 0x04)
    let contentType := info.CMS_signed_get0_data_by_OBJ NID_pkcs9_contentType
    let actualDigest ← T.tokenDigest bits content
    if digest ≠ some actualDigest ∨ contentType ≠ some (oid NID_pkcs7_data) then
      throw CKR_SIGNATURE_INVALID
    pure (tagged 0x31 (sort (info.signedAttrs.map Attribute.encode)).flatten)

variable [DecidableEq Cert]

def verifyGostCms (T : GostToken) (state : VerifyState) (detached wanted : Bool) :
    Except CK_RV Verified :=
  match O.decodeCms state.cms with
  | none => throw CKR_SIGNATURE_INVALID
  | some cms => do
    if !cms.isGostCms then throw CKR_SIGNATURE_INVALID
    if cms.CMS_is_detached ≠ detached then throw CKR_ARGUMENTS_BAD
    if cms.eContentType ≠ oid NID_pkcs7_data then throw CKR_SIGNATURE_INVALID
    if state.crlMode ≠ OPTIONAL_CRL_CHECK ∨ state.crls ≠ [] then throw CKR_FUNCTION_NOT_SUPPORTED
    let content ← contentOf cms state detached
    match state.certificates.mapM O.decodeCertificate, cms.signerInfos with
    | some external, info :: _ =>
      match O.locate cms external state.flags info with
      | none => throw CKR_SIGNATURE_INVALID
      | some signer =>
        let bits := O.gostBits signer
        if bits = 0 then throw CKR_SIGNATURE_INVALID
        if info.digestAlgorithm.algorithm ≠ oid (gostDigest bits) ∨
            info.signatureAlgorithm.algorithm ≠ oid (gostSignature bits) ∧
              info.signatureAlgorithm.algorithm ≠ oid (gostKey bits) then
          throw CKR_SIGNATURE_INVALID
        let input ← signedInput T bits content info
        if info.signature.length ≠ bits / 4 then throw CKR_SIGNATURE_INVALID
        if O.verifyGostSignature T signer input info.signature ≠ CKR_OK then
          throw CKR_SIGNATURE_INVALID
        if state.flags &&& CKF_VENDOR_CHECK_SIGNATURE_ONLY = 0 then
          let rv := verifyGostChain O.toX509 signer state (some (O.CMS_get1_certs cms))
          if rv ≠ CKR_OK then throw rv
          if O.i2d_X509 signer = [] then throw CKR_FUNCTION_FAILED
          pure ⟨if wanted then some content else none, [O.i2d_X509 signer]⟩
        else pure ⟨if wanted then some content else none, []⟩
    | _, _ => throw CKR_DATA_INVALID

end OpenSSL

end SoftHSM.RutokenCMS
