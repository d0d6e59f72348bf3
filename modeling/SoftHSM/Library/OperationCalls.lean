import SoftHSM.Library.KeyUse
import SoftHSM.SessionMgr.Operation

/-!
The calls that begin, carry on and end the operation of a session. The checks of a key and of a
mechanism come to a return value before an operation begins; a pointer that the caller leaves out is
`none`. What a call finds before it looks at the session is not here.
-/

namespace SoftHSM.Operation

open CK_RV Create

/-- What a call answers: its return value, the length and the bytes that it puts at the caller's
pointers, and the handles that it gives out. -/
structure Reply where
  rv : CK_RV
  length : Option UInt64 := none
  output : ByteString := []
  handles : List ℕ := []

/-- An answer that is not `CKR_OK`. -/
abbrev Refusal := { rv : CK_RV // rv ≠ CKR_OK }

/-- The pointer of an output, which may be left out, and the length at the pointer beside it. -/
structure Buffer where
  pointer : Bool
  length : UInt64

variable {B : Backend}

namespace Session

/-- A call that leaves the operation as it is. -/
def keep (s : Session B) (rv : CK_RV) : Reply × Session B := ({ rv := rv }, s)

/-- A call that ends the operation. -/
def close (s : Session B) (rv : CK_RV) : Reply × Session B := ({ rv := rv }, s.resetOp)

/-- The size is told to one who asks for it or who brings too little room. -/
def tell (s : Session B) (size : UInt64) (out : Buffer) (work : Reply × Session B) :
    Reply × Session B :=
  if !out.pointer then ({ rv := CKR_OK, length := some size }, s)
  else if out.length < size then ({ rv := CKR_BUFFER_TOO_SMALL, length := some size }, s)
  else work

/-- A result is given where it has the size that was told. -/
def give (s : Session B) (size : UInt64) : Option ByteString → Reply × Session B
  | none => s.close CKR_GENERAL_ERROR
  | some result =>
    if result.length ≠ size.toNat then s.close CKR_GENERAL_ERROR
    else ({ rv := CKR_OK, length := some size, output := result }, s.resetOp)

end Session

/-! ### Searching -/

/-- The operation is set before the template is looked at. -/
def C_FindObjectsInit (s : Session B) (searched : Except Refusal (List ℕ)) : Reply × Session B :=
  if s.operation ≠ .NONE then s.keep CKR_OPERATION_ACTIVE
  else
    let s := s.setOpType .FIND
    match searched with
    | .error rv => s.keep rv.1
    | .ok found => (s.setFindOp found).keep CKR_OK

def C_FindObjects (s : Session B) (ulMaxObjectCount : ℕ) : Reply × Session B :=
  if s.operation ≠ .FIND then s.keep CKR_OPERATION_NOT_INITIALIZED
  else
    match s.findOp with
    | none => s.keep CKR_GENERAL_ERROR
    | some handles =>
      ({ rv := CKR_OK, handles := handles.take ulMaxObjectCount },
        s.setFindOp (handles.drop ulMaxObjectCount))

def C_FindObjectsFinal (s : Session B) : Reply × Session B :=
  if s.operation ≠ .FIND then s.keep CKR_OPERATION_NOT_INITIALIZED else s.close CKR_OK

/-! ### Beginning -/

/-- What the checks before a symmetric operation come to, with the key of it. -/
abbrev SymBegun (α : Type) := Except Refusal (α × ByteString)

structure AsymBegin (B : Backend) (Key : Type) where
  algorithm : B.Asym
  key : Key
  mechanism : CK_MECHANISM_TYPE
  param : Option B.MechanismParam
  alwaysAuthenticate : Bool

/-- The same of an asymmetric one. -/
abbrev AsymBegun (B : Backend) (Key : Type) := Except Refusal (AsymBegin B Key)

def encryptMechanisms : List (Row AsymMech) :=
  [⟨true, [CKM_RSA_PKCS], .RSA_PKCS⟩, ⟨true, [CKM_RSA_X_509], .RSA⟩,
    ⟨true, [CKM_RSA_PKCS_OAEP], .RSA_PKCS_OAEP⟩]

/-- The mechanisms for signing and verifying, and whether they take a text in parts. Only the one
for lattices takes it in parts for signing and not for verifying. -/
def signMechanisms (b : Build) (verifying : Bool) : List (Row (AsymMech × Bool)) :=
  [⟨true, [CKM_RSA_PKCS], .RSA_PKCS, false⟩, ⟨true, [CKM_RSA_X_509], .RSA, false⟩,
    ⟨!b.WITH_FIPS, [CKM_MD5_RSA_PKCS], .RSA_MD5_PKCS, true⟩,
    ⟨true, [CKM_SHA1_RSA_PKCS], .RSA_SHA1_PKCS, true⟩,
    ⟨true, [CKM_SHA224_RSA_PKCS], .RSA_SHA224_PKCS, true⟩,
    ⟨true, [CKM_SHA256_RSA_PKCS], .RSA_SHA256_PKCS, true⟩,
    ⟨true, [CKM_SHA384_RSA_PKCS], .RSA_SHA384_PKCS, true⟩,
    ⟨true, [CKM_SHA512_RSA_PKCS], .RSA_SHA512_PKCS, true⟩,
    ⟨b.WITH_RAW_PSS, [CKM_RSA_PKCS_PSS], .RSA_PKCS_PSS, false⟩,
    ⟨true, [CKM_SHA1_RSA_PKCS_PSS], .RSA_SHA1_PKCS_PSS, true⟩,
    ⟨true, [CKM_SHA224_RSA_PKCS_PSS], .RSA_SHA224_PKCS_PSS, true⟩,
    ⟨true, [CKM_SHA256_RSA_PKCS_PSS], .RSA_SHA256_PKCS_PSS, true⟩,
    ⟨true, [CKM_SHA384_RSA_PKCS_PSS], .RSA_SHA384_PKCS_PSS, true⟩,
    ⟨true, [CKM_SHA512_RSA_PKCS_PSS], .RSA_SHA512_PKCS_PSS, true⟩,
    ⟨true, [CKM_DSA], .DSA, false⟩, ⟨true, [CKM_DSA_SHA1], .DSA_SHA1, true⟩,
    ⟨true, [CKM_DSA_SHA224], .DSA_SHA224, true⟩, ⟨true, [CKM_DSA_SHA256], .DSA_SHA256, true⟩,
    ⟨true, [CKM_DSA_SHA384], .DSA_SHA384, true⟩, ⟨true, [CKM_DSA_SHA512], .DSA_SHA512, true⟩,
    ⟨b.WITH_ECC, [CKM_ECDSA], .ECDSA, false⟩, ⟨b.WITH_ECC, [CKM_ECDSA_SHA1], .ECDSA_SHA1, true⟩,
    ⟨b.WITH_ECC, [CKM_ECDSA_SHA224], .ECDSA_SHA224, true⟩,
    ⟨b.WITH_ECC, [CKM_ECDSA_SHA256], .ECDSA_SHA256, true⟩,
    ⟨b.WITH_ECC, [CKM_ECDSA_SHA384], .ECDSA_SHA384, true⟩,
    ⟨b.WITH_ECC, [CKM_ECDSA_SHA512], .ECDSA_SHA512, true⟩,
    ⟨b.WITH_GOST || b.WITH_GOST_3410_2012_256, [CKM_GOSTR3410], .GOST, false⟩,
    ⟨b.WITH_GOST, [CKM_GOSTR3410_WITH_GOSTR3411], .GOST_GOST, true⟩,
    ⟨b.WITH_GOST_3410_2012_256 && !b.WITH_GOST, [CKM_GOSTR3410_WITH_GOSTR3411_2012_256],
      .GOST_GOST, true⟩,
    ⟨b.WITH_GOST_3410_2012_512, [CKM_GOSTR3410_512], .GOST_512, false⟩,
    ⟨b.WITH_GOST_3410_2012_512, [CKM_GOSTR3410_WITH_GOSTR3411_12_512], .GOST_GOST_512, true⟩,
    ⟨b.WITH_EDDSA, [CKM_EDDSA], .EDDSA, false⟩, ⟨b.WITH_ML_DSA, [CKM_ML_DSA], .MLDSA, !verifying⟩]

/-- How a symmetric operation begins. -/
def symInit {α : Type} (operation : SESSION_OP) (set : Session B → α → Session B) (s : Session B)
    (begun : SymBegun α) : Reply × Session B :=
  if s.operation ≠ .NONE then s.keep CKR_OPERATION_ACTIVE
  else
    match begun with
    | .error rv => s.keep rv.1
    | .ok (algorithm, key) =>
      let s := set (s.setOpType operation) algorithm
      (((s.setAllowMultiPartOp true).setAllowSinglePartOp true).setSymmetricKey (some key)).keep
        CKR_OK

def SymEncryptInit (s : Session B) (begun : SymBegun B.Cipher) : Reply × Session B :=
  symInit .ENCRYPT Session.setSymmetricCryptoOp s begun

def SymDecryptInit (s : Session B) (begun : SymBegun B.Cipher) : Reply × Session B :=
  symInit .DECRYPT Session.setSymmetricCryptoOp s begun

def MacSignInit (s : Session B) (begun : SymBegun B.Mac) : Reply × Session B :=
  symInit .SIGN Session.setMacOp s begun

def MacVerifyInit (s : Session B) (begun : SymBegun B.Mac) : Reply × Session B :=
  symInit .VERIFY Session.setMacOp s begun

/-- The setters at the end of the beginning of an asymmetric operation. -/
def asymBegins {Key : Type} (operation : SESSION_OP)
    (setKey : Session B → Option Key → Session B) (s : Session B) (begun : AsymBegin B Key)
    (mechanism : AsymMech) (multiPart : Bool) : Reply × Session B :=
  let s := (s.setOpType operation).setAsymmetricCryptoOp begun.algorithm
  let s := (s.setMechanism mechanism).setMechanismParam begun.param
  let s := (s.setAllowMultiPartOp multiPart).setAllowSinglePartOp true
  (setKey s (some begun.key)).keep CKR_OK

def AsymEncryptInit (s : Session B) (begun : AsymBegun B B.PublicKey) : Reply × Session B :=
  if s.operation ≠ .NONE then s.keep CKR_OPERATION_ACTIVE
  else
    match begun with
    | .error rv => s.keep rv.1
    | .ok begun =>
      match look encryptMechanisms begun.mechanism with
      | none => s.keep CKR_MECHANISM_INVALID
      | some mechanism => asymBegins .ENCRYPT Session.setPublicKey s begun mechanism false

/-- The PIN is asked for before the parameter is made, which may fail. -/
def AsymDecryptInit (s : Session B) (begun : AsymBegun B B.PrivateKey) (built : CK_RV) :
    Reply × Session B :=
  if s.operation ≠ .NONE then s.keep CKR_OPERATION_ACTIVE
  else
    match begun with
    | .error rv => s.keep rv.1
    | .ok begun =>
      match look encryptMechanisms begun.mechanism with
      | none => s.keep CKR_MECHANISM_INVALID
      | some mechanism =>
        let s := if begun.alwaysAuthenticate then s.setReAuthentication true else s
        if begun.mechanism = CKM_RSA_PKCS_OAEP ∧ built ≠ CKR_OK then s.keep built
        else asymBegins .DECRYPT Session.setPrivateKey s begun mechanism false

def AsymSignInit (b : Build) (s : Session B) (begun : AsymBegun B B.PrivateKey) :
    Reply × Session B :=
  if s.operation ≠ .NONE then s.keep CKR_OPERATION_ACTIVE
  else
    match begun with
    | .error rv => s.keep rv.1
    | .ok begun =>
      match look (signMechanisms b false) begun.mechanism with
      | none => s.keep CKR_MECHANISM_INVALID
      | some (mechanism, multiPart) =>
        let s := if begun.alwaysAuthenticate then s.setReAuthentication true else s
        asymBegins .SIGN Session.setPrivateKey s begun mechanism multiPart

def AsymVerifyInit (b : Build) (s : Session B) (begun : AsymBegun B B.PublicKey) :
    Reply × Session B :=
  if s.operation ≠ .NONE then s.keep CKR_OPERATION_ACTIVE
  else
    match begun with
    | .error rv => s.keep rv.1
    | .ok begun =>
      match look (signMechanisms b true) begun.mechanism with
      | none => s.keep CKR_MECHANISM_INVALID
      | some (mechanism, multiPart) => asymBegins .VERIFY Session.setPublicKey s begun mechanism multiPart

def C_DigestInit (s : Session B) (begun : Except Refusal (B.Hash × HashAlgo)) :
    Reply × Session B :=
  if s.operation ≠ .NONE then s.keep CKR_OPERATION_ACTIVE
  else
    match begun with
    | .error rv => s.keep rv.1
    | .ok (hash, algo) =>
      (((s.setOpType .DIGEST).setDigestOp hash).setHashAlgo algo).keep CKR_OK

/-! ### Digests -/

/-- `C_Digest` and `C_DigestFinal`, after the operation has been looked at. -/
def digestResult (s : Session B) (hash : B.Hash) (out : Buffer) (result : Option ByteString) :
    Reply × Session B :=
  s.tell (B.hash.getHashSize hash) out (s.give (B.hash.getHashSize hash) result)

/-- These four follow the pointer to the digest without a look at it: there is no answer where it
leads nowhere. -/
def C_Digest (s : Session B) (pData : Option ByteString) (pulDigestLen : Option Buffer) :
    Option (Reply × Session B) :=
  match pulDigestLen, pData with
  | some out, some data =>
    if s.operation ≠ .DIGEST then some (s.keep CKR_OPERATION_NOT_INITIALIZED)
    else
      s.digestOp.map fun hash =>
        digestResult s hash out ((B.hash.hashUpdate hash data).bind B.hash.hashFinal)
  | _, _ => some (s.keep CKR_ARGUMENTS_BAD)

/-- The end of `C_DigestUpdate` and `C_DigestKey`. -/
def hashUpdate (s : Session B) (data : ByteString) : Option (Reply × Session B) :=
  s.digestOp.map fun hash =>
    match B.hash.hashUpdate hash data with
    | none => s.close CKR_GENERAL_ERROR
    | some hash => (s.setDigestOp hash).keep CKR_OK

def C_DigestUpdate (s : Session B) (pPart : Option ByteString) : Option (Reply × Session B) :=
  match pPart with
  | none => some (s.keep CKR_ARGUMENTS_BAD)
  | some part =>
    if s.operation ≠ .DIGEST then some (s.keep CKR_OPERATION_NOT_INITIALIZED)
    else hashUpdate s part

/-- A key that may be read, with the attributes that are looked at and what its value comes to. -/
structure DigestedKey where
  CKA_EXTRACTABLE : Bool
  CKA_SENSITIVE : Bool
  keybits : Except Refusal ByteString

def C_DigestKey (s : Session B) (key : Except Refusal DigestedKey) : Option (Reply × Session B) :=
  if s.operation ≠ .DIGEST then some (s.keep CKR_OPERATION_NOT_INITIALIZED)
  else
    match key with
    | .error rv => some (s.keep rv.1)
    | .ok key =>
      if s.hashAlgo ∉ [.SHA1, .SHA224, .SHA256, .SHA384, .SHA512] ∧
          (!key.CKA_EXTRACTABLE || key.CKA_SENSITIVE) then some (s.keep CKR_KEY_INDIGESTIBLE)
      else
        match key.keybits with
        | .error rv => some (s.keep rv.1)
        | .ok keybits => hashUpdate s keybits

def C_DigestFinal (s : Session B) (pulDigestLen : Option Buffer) :
    Option (Reply × Session B) :=
  match pulDigestLen with
  | none => some (s.keep CKR_ARGUMENTS_BAD)
  | some out =>
    if s.operation ≠ .DIGEST then some (s.keep CKR_OPERATION_NOT_INITIALIZED)
    else s.digestOp.map fun hash => digestResult s hash out (B.hash.hashFinal hash)

/-! ### Signing -/

def MacSign (s : Session B) (data : ByteString) (out : Buffer) : Reply × Session B :=
  match s.macOp with
  | none => s.close CKR_OPERATION_NOT_INITIALIZED
  | some mac =>
    if !s.allowSinglePartOp then s.close CKR_OPERATION_NOT_INITIALIZED
    else
      let size := B.mac.getMacSize mac
      s.tell size out (s.give size ((B.mac.signUpdate mac data).bind B.mac.signFinal))

/-- A text for a raw key, with zeros in front of it. There is none where the text is longer than
the key: so many zeros that the room for them cannot be had. -/
def padded (mechanism : AsymMech) (size : UInt64) (data : ByteString) : Option ByteString :=
  if mechanism = .RSA then
    if size.toNat < data.length then none
    else some (List.replicate (size.toNat - data.length) 0 ++ data)
  else some data

def AsymSign (b : Build) (s : Session B) (data : ByteString) (out : Buffer) :
    Reply × Session B :=
  match s.asymmetricCryptoOp, s.privateKey with
  | some asymCrypto, some privateKey =>
    if !s.allowSinglePartOp then s.close CKR_OPERATION_NOT_INITIALIZED
    else if s.reAuthentication then s.close CKR_USER_NOT_LOGGED_IN
    else
      let size := B.privateLength privateKey
      s.tell size out <|
        if b.WITH_GOST_3410_2012_256 ∧ s.mechanism = .GOST ∧ data.length ≠ 32 then
          s.close CKR_DATA_LEN_RANGE
        else
          match padded s.mechanism size data with
          -- The exception reaches the caller as this, past the end of the operation.
          | none => s.keep CKR_FUNCTION_FAILED
          | some data =>
            s.give size <|
              if s.allowMultiPartOp then (B.asym.signUpdate asymCrypto data).bind B.asym.signFinal
              else B.asym.sign asymCrypto privateKey data s.mechanism s.mechanismParam
  | _, _ => s.close CKR_OPERATION_NOT_INITIALIZED

/-- What comes of a signature once it is kept for the journal of the token: where that is asked
for, the answer is what keeping it answered. -/
def journalled (asked : Bool) (recorded : CK_RV) (out : Buffer) (r : Reply × Session B) :
    Reply × Session B :=
  if r.1.rv ≠ CKR_OK ∨ !out.pointer ∨ !asked then r else ({ r.1 with rv := recorded }, r.2)

/-- With what the build is, whether the profile is on and what `recordSignature` answers. -/
def C_Sign (b : Build) (fakeRutokenECP : Bool) (recorded : CK_RV) (s : Session B)
    (pData : Option ByteString) (pulSignatureLen : Option Buffer) : Reply × Session B :=
  match pData, pulSignatureLen with
  | some data, some out =>
    if s.operation ≠ .SIGN then s.keep CKR_OPERATION_NOT_INITIALIZED
    else if s.macOp.isSome then MacSign s data out
    else
      journalled (fakeRutokenECP && s.mechanism ∈ [.GOST, .GOST_GOST, .GOST_512, .GOST_GOST_512])
        recorded out (AsymSign b s data out)
  | _, _ => s.keep CKR_ARGUMENTS_BAD

def MacSignUpdate (s : Session B) (part : ByteString) : Reply × Session B :=
  match s.macOp with
  | none => s.close CKR_OPERATION_NOT_INITIALIZED
  | some mac =>
    if !s.allowMultiPartOp then s.close CKR_OPERATION_NOT_INITIALIZED
    else
      match B.mac.signUpdate mac part with
      | none => s.close CKR_GENERAL_ERROR
      | some mac => ({ s with macOp := some mac }.setAllowSinglePartOp false).keep CKR_OK

def AsymSignUpdate (s : Session B) (part : ByteString) : Reply × Session B :=
  match s.asymmetricCryptoOp with
  | none => s.close CKR_OPERATION_NOT_INITIALIZED
  | some asymCrypto =>
    if !s.allowMultiPartOp then s.close CKR_OPERATION_NOT_INITIALIZED
    else if s.reAuthentication then s.close CKR_USER_NOT_LOGGED_IN
    else
      match B.asym.signUpdate asymCrypto part with
      | none => s.close CKR_GENERAL_ERROR
      | some asymCrypto =>
        ({ s with asymmetricCryptoOp := some asymCrypto }.setAllowSinglePartOp false).keep CKR_OK

def C_SignUpdate (s : Session B) (pPart : Option ByteString) : Reply × Session B :=
  match pPart with
  | none => s.keep CKR_ARGUMENTS_BAD
  | some part =>
    if s.operation ≠ .SIGN then s.keep CKR_OPERATION_NOT_INITIALIZED
    else if s.macOp.isSome then MacSignUpdate s part else AsymSignUpdate s part

def MacSignFinal (s : Session B) (out : Buffer) : Reply × Session B :=
  match s.macOp with
  | none => s.close CKR_OPERATION_NOT_INITIALIZED
  | some mac =>
    let size := B.mac.getMacSize mac
    s.tell size out (s.give size (B.mac.signFinal mac))

def AsymSignFinal (s : Session B) (out : Buffer) : Reply × Session B :=
  match s.asymmetricCryptoOp, s.privateKey with
  | some asymCrypto, some privateKey =>
    if s.reAuthentication then s.close CKR_USER_NOT_LOGGED_IN
    else
      let size := B.privateLength privateKey
      s.tell size out (s.give size (B.asym.signFinal asymCrypto))
  | _, _ => s.close CKR_OPERATION_NOT_INITIALIZED

def C_SignFinal (fakeRutokenECP : Bool) (recorded : CK_RV) (s : Session B)
    (pulSignatureLen : Option Buffer) : Reply × Session B :=
  match pulSignatureLen with
  | none => s.keep CKR_ARGUMENTS_BAD
  | some out =>
    if s.operation ≠ .SIGN ∨ !s.allowMultiPartOp then s.keep CKR_OPERATION_NOT_INITIALIZED
    else if s.macOp.isSome then MacSignFinal s out
    else
      journalled (fakeRutokenECP && s.mechanism ∈ [.GOST_GOST, .GOST_GOST_512]) recorded out
        (AsymSignFinal s out)

/-! ### Verifying -/

def MacVerify (s : Session B) (data signature : ByteString) : Reply × Session B :=
  match s.macOp with
  | none => s.close CKR_OPERATION_NOT_INITIALIZED
  | some mac =>
    if !s.allowSinglePartOp then s.close CKR_OPERATION_NOT_INITIALIZED
    else if signature.length ≠ (B.mac.getMacSize mac).toNat then s.close CKR_SIGNATURE_LEN_RANGE
    else
      match B.mac.verifyUpdate mac data with
      | none => s.close CKR_GENERAL_ERROR
      | some mac =>
        if !B.mac.verifyFinal mac signature then s.close CKR_SIGNATURE_INVALID
        else s.close CKR_OK

def AsymVerify (s : Session B) (data signature : ByteString) : Reply × Session B :=
  match s.asymmetricCryptoOp, s.publicKey with
  | some asymCrypto, some publicKey =>
    if !s.allowSinglePartOp then s.close CKR_OPERATION_NOT_INITIALIZED
    else
      let size := B.publicLength publicKey
      if signature.length ≠ size.toNat then s.close CKR_SIGNATURE_LEN_RANGE
      else
        match padded s.mechanism size data with
        | none => s.keep CKR_FUNCTION_FAILED
        | some data =>
          let verified :=
            if s.allowMultiPartOp then
              (B.asym.verifyUpdate asymCrypto data).any fun asymCrypto =>
                B.asym.verifyFinal asymCrypto signature
            else B.asym.verify asymCrypto publicKey data signature s.mechanism s.mechanismParam
          if !verified then s.close CKR_SIGNATURE_INVALID else s.close CKR_OK
  | _, _ => s.close CKR_OPERATION_NOT_INITIALIZED

def C_Verify (s : Session B) (pData pSignature : Option ByteString) : Reply × Session B :=
  match pData, pSignature with
  | some data, some signature =>
    if s.operation ≠ .VERIFY then s.keep CKR_OPERATION_NOT_INITIALIZED
    else if s.macOp.isSome then MacVerify s data signature else AsymVerify s data signature
  | _, _ => s.keep CKR_ARGUMENTS_BAD

def MacVerifyUpdate (s : Session B) (part : ByteString) : Reply × Session B :=
  match s.macOp with
  | none => s.close CKR_OPERATION_NOT_INITIALIZED
  | some mac =>
    if !s.allowMultiPartOp then s.close CKR_OPERATION_NOT_INITIALIZED
    else
      match B.mac.verifyUpdate mac part with
      | none => s.close CKR_GENERAL_ERROR
      | some mac => ({ s with macOp := some mac }.setAllowSinglePartOp false).keep CKR_OK

def AsymVerifyUpdate (s : Session B) (part : ByteString) : Reply × Session B :=
  match s.asymmetricCryptoOp with
  | none => s.close CKR_OPERATION_NOT_INITIALIZED
  | some asymCrypto =>
    if !s.allowMultiPartOp then s.close CKR_OPERATION_NOT_INITIALIZED
    else
      match B.asym.verifyUpdate asymCrypto part with
      | none => s.close CKR_GENERAL_ERROR
      | some asymCrypto =>
        ({ s with asymmetricCryptoOp := some asymCrypto }.setAllowSinglePartOp false).keep CKR_OK

def C_VerifyUpdate (s : Session B) (pPart : Option ByteString) : Reply × Session B :=
  match pPart with
  | none => s.keep CKR_ARGUMENTS_BAD
  | some part =>
    if s.operation ≠ .VERIFY then s.keep CKR_OPERATION_NOT_INITIALIZED
    else if s.macOp.isSome then MacVerifyUpdate s part else AsymVerifyUpdate s part

def MacVerifyFinal (s : Session B) (signature : ByteString) : Reply × Session B :=
  match s.macOp with
  | none => s.close CKR_OPERATION_NOT_INITIALIZED
  | some mac =>
    if signature.length ≠ (B.mac.getMacSize mac).toNat then s.close CKR_SIGNATURE_LEN_RANGE
    else if !B.mac.verifyFinal mac signature then s.close CKR_SIGNATURE_INVALID
    else s.close CKR_OK

def AsymVerifyFinal (s : Session B) (signature : ByteString) : Reply × Session B :=
  match s.asymmetricCryptoOp, s.publicKey with
  | some asymCrypto, some publicKey =>
    if signature.length ≠ (B.publicLength publicKey).toNat then s.close CKR_SIGNATURE_LEN_RANGE
    else if !B.asym.verifyFinal asymCrypto signature then s.close CKR_SIGNATURE_INVALID
    else s.close CKR_OK
  | _, _ => s.close CKR_OPERATION_NOT_INITIALIZED

def C_VerifyFinal (s : Session B) (pSignature : Option ByteString) : Reply × Session B :=
  match pSignature with
  | none => s.keep CKR_ARGUMENTS_BAD
  | some signature =>
    if s.operation ≠ .VERIFY ∨ !s.allowMultiPartOp then s.keep CKR_OPERATION_NOT_INITIALIZED
    else if s.macOp.isSome then MacVerifyFinal s signature else AsymVerifyFinal s signature

/-! ### Encrypting and decrypting -/

/-- How the six calls with a cipher begin. -/
def cipherCall (s : Session B) (allowed : Bool)
    (size : Crypt.SymmetricAlgorithm → Except CK_RV UInt64) (out : Buffer)
    (work : B.Cipher → UInt64 → Reply × Session B) : Reply × Session B :=
  match s.symmetricCryptoOp with
  | none => s.close CKR_OPERATION_NOT_INITIALIZED
  | some cipher =>
    if !allowed then s.close CKR_OPERATION_NOT_INITIALIZED
    else
      match size (B.cipher.sizes cipher) with
      | .error rv => s.close rv
      | .ok maxSize => s.tell maxSize out (work cipher maxSize)

/-- What an update gives, where there is room for it. -/
def cipherUpdated (s : Session B) (out : Buffer) (failed tooMuch : CK_RV) :
    Option (ByteString × B.Cipher) → Reply × Session B
  | none => s.close failed
  | some (given, cipher) =>
    if out.length.toNat < given.length then s.close tooMuch
    else
      ({ rv := CKR_OK, length := some (UInt64.ofNat given.length), output := given },
        { s with symmetricCryptoOp := some cipher })

/-- The same at the end. -/
def cipherFinished (s : Session B) (out : Buffer) (failed tooMuch : CK_RV) :
    Option ByteString → Reply × Session B
  | none => s.close failed
  | some given =>
    if out.length.toNat < given.length then s.close tooMuch
    else
      ({ rv := CKR_OK, length := some (UInt64.ofNat given.length), output := given }, s.resetOp)

/-- What comes out at the end of an update and then of the whole. -/
def wholeOf {Cipher : Type} (update : Cipher → ByteString → Option (ByteString × Cipher))
    (final : Cipher → Option ByteString) (cipher : Cipher) (data : ByteString) :
    Option ByteString := do
  let (first, cipher) ← update cipher data
  let last ← final cipher
  return first ++ last

/-- The text is brought to the size that was told. -/
def SymEncrypt (s : Session B) (data : ByteString) (out : Buffer) : Reply × Session B :=
  let ulDataLen := UInt64.ofNat data.length
  cipherCall s s.allowSinglePartOp
    (fun c => Crypt.withinMaximum c ulDataLen CKR_DATA_LEN_RANGE
      (Crypt.SymEncrypt.maxSize c ulDataLen)) out fun cipher maxSize =>
    match wholeOf B.cipher.encryptUpdate B.cipher.encryptFinal cipher data with
    | none => s.close CKR_GENERAL_ERROR
    | some encryptedData =>
      ({ rv := CKR_OK, length := some maxSize, output := encryptedData.takeD maxSize.toNat 0 },
        s.resetOp)

def AsymEncrypt (s : Session B) (data : ByteString) (out : Buffer) : Reply × Session B :=
  match s.asymmetricCryptoOp, s.publicKey with
  | some asymCrypto, some publicKey =>
    if !s.allowSinglePartOp then s.close CKR_OPERATION_NOT_INITIALIZED
    else
      let size := B.publicLength publicKey
      s.tell size out <|
        match padded s.mechanism size data with
        | none => s.keep CKR_FUNCTION_FAILED
        | some data =>
          s.give size (B.asym.encrypt asymCrypto publicKey data s.mechanism s.mechanismParam)
  | _, _ => s.close CKR_OPERATION_NOT_INITIALIZED

/-- Without its arguments this ends whatever operation there is, like the other calls for
encrypting and decrypting. -/
def C_Encrypt (s : Session B) (pData : Option ByteString) (pulEncryptedDataLen : Option Buffer) :
    Reply × Session B :=
  match pData, pulEncryptedDataLen with
  | some data, some out =>
    if s.operation ≠ .ENCRYPT then s.keep CKR_OPERATION_NOT_INITIALIZED
    else if s.symmetricCryptoOp.isSome then SymEncrypt s data out else AsymEncrypt s data out
  | _, _ => s.close CKR_ARGUMENTS_BAD

def SymEncryptUpdate (s : Session B) (data : ByteString) (out : Buffer) : Reply × Session B :=
  let ulDataLen := UInt64.ofNat data.length
  cipherCall s s.allowMultiPartOp
    (fun c => Crypt.withinMaximum c ulDataLen CKR_DATA_LEN_RANGE
      (.ok (Crypt.SymEncryptUpdate.maxSize c ulDataLen))) out fun cipher _ =>
    cipherUpdated s out CKR_GENERAL_ERROR CKR_GENERAL_ERROR (B.cipher.encryptUpdate cipher data)

def C_EncryptUpdate (s : Session B) (pData : Option ByteString)
    (pulEncryptedDataLen : Option Buffer) : Reply × Session B :=
  match pData, pulEncryptedDataLen with
  | some data, some out =>
    if s.operation ≠ .ENCRYPT then s.keep CKR_OPERATION_NOT_INITIALIZED
    else if s.symmetricCryptoOp.isSome then SymEncryptUpdate s data out
    else s.keep CKR_FUNCTION_NOT_SUPPORTED
  | _, _ => s.close CKR_ARGUMENTS_BAD

def SymEncryptFinal (s : Session B) (out : Buffer) : Reply × Session B :=
  cipherCall s s.allowMultiPartOp Crypt.SymEncryptFinal.size out fun cipher _ =>
    cipherFinished s out CKR_GENERAL_ERROR CKR_GENERAL_ERROR (B.cipher.encryptFinal cipher)

def C_EncryptFinal (s : Session B) (pulEncryptedDataLen : Option Buffer) : Reply × Session B :=
  match pulEncryptedDataLen with
  | none => s.close CKR_ARGUMENTS_BAD
  | some out =>
    if s.operation ≠ .ENCRYPT then s.keep CKR_OPERATION_NOT_INITIALIZED
    else if s.symmetricCryptoOp.isSome then SymEncryptFinal s out
    else s.keep CKR_FUNCTION_NOT_SUPPORTED

/-- The text is cut to the length of what came in. -/
def SymDecrypt (s : Session B) (encryptedData : ByteString) (out : Buffer) : Reply × Session B :=
  let ulEncryptedDataLen := UInt64.ofNat encryptedData.length
  cipherCall s s.allowSinglePartOp
    (fun c => Crypt.withinMaximum c ulEncryptedDataLen CKR_ENCRYPTED_DATA_LEN_RANGE
      (Crypt.SymDecrypt.maxSize c ulEncryptedDataLen)) out fun cipher _ =>
    match wholeOf B.cipher.decryptUpdate B.cipher.decryptFinal cipher encryptedData with
    | none => s.close CKR_ENCRYPTED_DATA_INVALID
    | some data =>
      let data := data.take encryptedData.length
      ({ rv := CKR_OK, length := some (UInt64.ofNat data.length), output := data }, s.resetOp)

def AsymDecrypt (s : Session B) (encryptedData : ByteString) (out : Buffer) :
    Reply × Session B :=
  match s.asymmetricCryptoOp, s.privateKey with
  | some asymCrypto, some privateKey =>
    if !s.allowSinglePartOp then s.close CKR_OPERATION_NOT_INITIALIZED
    else if s.reAuthentication then s.close CKR_USER_NOT_LOGGED_IN
    else
      let size := B.privateLength privateKey
      s.tell size out <|
        match B.asym.decrypt asymCrypto privateKey encryptedData s.mechanism s.mechanismParam with
        | none => s.close CKR_ENCRYPTED_DATA_INVALID
        | some data =>
          if size.toNat < data.length then s.close CKR_ENCRYPTED_DATA_LEN_RANGE
          else
            ({ rv := CKR_OK, length := some (UInt64.ofNat data.length), output := data },
              s.resetOp)
  | _, _ => s.close CKR_OPERATION_NOT_INITIALIZED

def C_Decrypt (s : Session B) (pEncryptedData : Option ByteString) (pulDataLen : Option Buffer) :
    Reply × Session B :=
  match pEncryptedData, pulDataLen with
  | some encryptedData, some out =>
    if s.operation ≠ .DECRYPT then s.keep CKR_OPERATION_NOT_INITIALIZED
    else if s.symmetricCryptoOp.isSome then SymDecrypt s encryptedData out
    else AsymDecrypt s encryptedData out
  | _, _ => s.close CKR_ARGUMENTS_BAD

def SymDecryptUpdate (s : Session B) (encryptedData : ByteString) (out : Buffer) :
    Reply × Session B :=
  let ulEncryptedDataLen := UInt64.ofNat encryptedData.length
  cipherCall s s.allowMultiPartOp
    (fun c => Crypt.withinMaximum c ulEncryptedDataLen CKR_ENCRYPTED_DATA_LEN_RANGE
      (.ok (Crypt.SymDecryptUpdate.maxSize c ulEncryptedDataLen))) out fun cipher _ =>
    cipherUpdated s out CKR_ENCRYPTED_DATA_INVALID CKR_ENCRYPTED_DATA_LEN_RANGE
      (B.cipher.decryptUpdate cipher encryptedData)

def C_DecryptUpdate (s : Session B) (pEncryptedData : Option ByteString)
    (pDataLen : Option Buffer) : Reply × Session B :=
  match pEncryptedData, pDataLen with
  | some encryptedData, some out =>
    if s.operation ≠ .DECRYPT then s.keep CKR_OPERATION_NOT_INITIALIZED
    else if s.symmetricCryptoOp.isSome then SymDecryptUpdate s encryptedData out
    else s.keep CKR_FUNCTION_NOT_SUPPORTED
  | _, _ => s.close CKR_ARGUMENTS_BAD

def SymDecryptFinal (s : Session B) (out : Buffer) : Reply × Session B :=
  cipherCall s s.allowMultiPartOp Crypt.SymDecryptFinal.size out fun cipher _ =>
    cipherFinished s out CKR_ENCRYPTED_DATA_INVALID CKR_ENCRYPTED_DATA_LEN_RANGE
      (B.cipher.decryptFinal cipher)

def C_DecryptFinal (s : Session B) (pDataLen : Option Buffer) : Reply × Session B :=
  match pDataLen with
  | none => s.close CKR_ARGUMENTS_BAD
  | some out =>
    if s.operation ≠ .DECRYPT then s.keep CKR_OPERATION_NOT_INITIALIZED
    else if s.symmetricCryptoOp.isSome then SymDecryptFinal s out
    else s.keep CKR_FUNCTION_NOT_SUPPORTED

/-! ### The PIN of an operation -/

/-- `C_Login` for `CKU_CONTEXT_SPECIFIC`, with what the token answers to the PIN. -/
def contextLogin (s : Session B) (reAuthenticated : CK_RV) : Reply × Session B :=
  if !s.reAuthentication then s.keep CKR_OPERATION_NOT_INITIALIZED
  else if reAuthenticated = CKR_OK then (s.setReAuthentication false).keep CKR_OK
  else s.keep reAuthenticated

/-- `C_SignRecoverInit` and `C_VerifyRecoverInit`. -/
def recoverInit (s : Session B) : Reply × Session B :=
  if s.operation ≠ .NONE then s.keep CKR_OPERATION_ACTIVE else s.keep CKR_FUNCTION_NOT_SUPPORTED

/-! ### Any of the calls -/

/-- A call in a session, with what it is given and what the token and the back end answer before
and after it turns to the operation. -/
inductive Call (B : Backend)
  | findObjectsInit (searched : Except Refusal (List ℕ))
  | findObjects (ulMaxObjectCount : ℕ)
  | findObjectsFinal
  | symEncryptInit (begun : SymBegun B.Cipher)
  | asymEncryptInit (begun : AsymBegun B B.PublicKey)
  | encrypt (pData : Option ByteString) (out : Option Buffer)
  | encryptUpdate (pData : Option ByteString) (out : Option Buffer)
  | encryptFinal (out : Option Buffer)
  | symDecryptInit (begun : SymBegun B.Cipher)
  | asymDecryptInit (begun : AsymBegun B B.PrivateKey) (built : CK_RV)
  | decrypt (pEncryptedData : Option ByteString) (out : Option Buffer)
  | decryptUpdate (pEncryptedData : Option ByteString) (out : Option Buffer)
  | decryptFinal (out : Option Buffer)
  | digestInit (begun : Except Refusal (B.Hash × HashAlgo))
  | digest (pData : Option ByteString) (out : Option Buffer)
  | digestUpdate (pPart : Option ByteString)
  | digestKey (key : Except Refusal DigestedKey)
  | digestFinal (out : Option Buffer)
  | macSignInit (begun : SymBegun B.Mac)
  | asymSignInit (begun : AsymBegun B B.PrivateKey)
  | sign (recorded : CK_RV) (pData : Option ByteString) (out : Option Buffer)
  | signUpdate (pPart : Option ByteString)
  | signFinal (recorded : CK_RV) (out : Option Buffer)
  | macVerifyInit (begun : SymBegun B.Mac)
  | asymVerifyInit (begun : AsymBegun B B.PublicKey)
  | verify (pData pSignature : Option ByteString)
  | verifyUpdate (pPart : Option ByteString)
  | verifyFinal (pSignature : Option ByteString)
  | contextLogin (reAuthenticated : CK_RV)
  | recoverInit

/-- No answer where a pointer is followed that leads nowhere. -/
def exec (b : Build) (fakeRutokenECP : Bool) (s : Session B) :
    Call B → Option (Reply × Session B)
  | .findObjectsInit searched => some (C_FindObjectsInit s searched)
  | .findObjects ulMaxObjectCount => some (C_FindObjects s ulMaxObjectCount)
  | .findObjectsFinal => some (C_FindObjectsFinal s)
  | .symEncryptInit begun => some (SymEncryptInit s begun)
  | .asymEncryptInit begun => some (AsymEncryptInit s begun)
  | .encrypt pData out => some (C_Encrypt s pData out)
  | .encryptUpdate pData out => some (C_EncryptUpdate s pData out)
  | .encryptFinal out => some (C_EncryptFinal s out)
  | .symDecryptInit begun => some (SymDecryptInit s begun)
  | .asymDecryptInit begun built => some (AsymDecryptInit s begun built)
  | .decrypt pEncryptedData out => some (C_Decrypt s pEncryptedData out)
  | .decryptUpdate pEncryptedData out => some (C_DecryptUpdate s pEncryptedData out)
  | .decryptFinal out => some (C_DecryptFinal s out)
  | .digestInit begun => some (C_DigestInit s begun)
  | .digest pData out => C_Digest s pData out
  | .digestUpdate pPart => C_DigestUpdate s pPart
  | .digestKey key => C_DigestKey s key
  | .digestFinal out => C_DigestFinal s out
  | .macSignInit begun => some (MacSignInit s begun)
  | .asymSignInit begun => some (AsymSignInit b s begun)
  | .sign recorded pData out => some (C_Sign b fakeRutokenECP recorded s pData out)
  | .signUpdate pPart => some (C_SignUpdate s pPart)
  | .signFinal recorded out => some (C_SignFinal fakeRutokenECP recorded s out)
  | .macVerifyInit begun => some (MacVerifyInit s begun)
  | .asymVerifyInit begun => some (AsymVerifyInit b s begun)
  | .verify pData pSignature => some (C_Verify s pData pSignature)
  | .verifyUpdate pPart => some (C_VerifyUpdate s pPart)
  | .verifyFinal pSignature => some (C_VerifyFinal s pSignature)
  | .contextLogin reAuthenticated => some (contextLogin s reAuthenticated)
  | .recoverInit => some (recoverInit s)

/-- A call with its answer. -/
def Answers (b : Build) (fakeRutokenECP : Bool) (s : Session B) (l : Call B × Reply)
    (s' : Session B) : Prop :=
  exec b fakeRutokenECP s l.1 = some (l.2, s')

end SoftHSM.Operation
