import SoftHSM.DataMgr.SecureDataManager
import SoftHSM.Library.CipherSizes

/-!
What a session keeps of the operation that is under way, with the objects of the back end that work
for it: the setters, which leave an object alone in one case and drop a key in another, and the reset
at the end, which looks for one object after the other and stops at the first.
-/

namespace SoftHSM.Operation

inductive SESSION_OP
  | NONE
  | FIND
  | ENCRYPT
  | DECRYPT
  | DIGEST
  | SIGN
  | VERIFY
  | DIGEST_ENCRYPT
  | DECRYPT_DIGEST
  | SIGN_ENCRYPT
  | DECRYPT_VERIFY
  deriving DecidableEq

inductive HashAlgo
  | Unknown | MD5 | SHA1 | SHA224 | SHA256 | SHA384 | SHA512 | GOST | GOST2012_256 | GOST2012_512
  deriving DecidableEq

inductive AsymMech
  | Unknown | RSA | RSA_MD5_PKCS | RSA_PKCS | RSA_PKCS_OAEP | RSA_SHA1_PKCS | RSA_SHA224_PKCS
  | RSA_SHA256_PKCS | RSA_SHA384_PKCS | RSA_SHA512_PKCS | RSA_PKCS_PSS | RSA_SHA1_PKCS_PSS
  | RSA_SHA224_PKCS_PSS | RSA_SHA256_PKCS_PSS | RSA_SHA384_PKCS_PSS | RSA_SHA512_PKCS_PSS | RSA_SSL
  | DSA | DSA_SHA1 | DSA_SHA224 | DSA_SHA256 | DSA_SHA384 | DSA_SHA512
  | ECDSA | ECDSA_SHA1 | ECDSA_SHA224 | ECDSA_SHA256 | ECDSA_SHA384 | ECDSA_SHA512
  | GOST | GOST_GOST | GOST_512 | GOST_GOST_512 | EDDSA | MLDSA | MLKEM
  deriving DecidableEq

/-! ### The back end -/

/-- An update that fails gives nothing, and so does an end that fails. -/
structure HashAlgorithm (Hash : Type) where
  getHashSize : Hash → UInt64
  hashUpdate : Hash → ByteString → Option Hash
  hashFinal : Hash → Option ByteString

structure MacAlgorithm (Mac : Type) where
  getMacSize : Mac → UInt64
  signUpdate : Mac → ByteString → Option Mac
  signFinal : Mac → Option ByteString
  verifyUpdate : Mac → ByteString → Option Mac
  verifyFinal : Mac → ByteString → Bool

structure AsymmetricAlgorithm (Asym PublicKey PrivateKey MechanismParam : Type) where
  sign : Asym → PrivateKey → ByteString → AsymMech → Option MechanismParam → Option ByteString
  signUpdate : Asym → ByteString → Option Asym
  signFinal : Asym → Option ByteString
  verify : Asym → PublicKey → ByteString → ByteString → AsymMech → Option MechanismParam → Bool
  verifyUpdate : Asym → ByteString → Option Asym
  verifyFinal : Asym → ByteString → Bool
  encrypt : Asym → PublicKey → ByteString → AsymMech → Option MechanismParam → Option ByteString
  decrypt : Asym → PrivateKey → ByteString → AsymMech → Option MechanismParam → Option ByteString

/-- A cipher, with what the sizes are counted from. -/
structure SymmetricAlgorithm (Cipher : Type) where
  sizes : Cipher → Crypt.SymmetricAlgorithm
  encryptUpdate : Cipher → ByteString → Option (ByteString × Cipher)
  encryptFinal : Cipher → Option ByteString
  decryptUpdate : Cipher → ByteString → Option (ByteString × Cipher)
  decryptFinal : Cipher → Option ByteString

/-- The objects that operations work with. -/
structure Backend where
  Hash : Type
  Mac : Type
  Asym : Type
  Cipher : Type
  PublicKey : Type
  PrivateKey : Type
  MechanismParam : Type
  hash : HashAlgorithm Hash
  mac : MacAlgorithm Mac
  asym : AsymmetricAlgorithm Asym PublicKey PrivateKey MechanismParam
  cipher : SymmetricAlgorithm Cipher
  /-- `getOutputLength` of the keys -/
  publicLength : PublicKey → UInt64
  privateLength : PrivateKey → UInt64

/-! ### The session -/

structure Session (B : Backend) where
  operation : SESSION_OP
  findOp : Option (List ℕ)
  digestOp : Option B.Hash
  hashAlgo : HashAlgo
  macOp : Option B.Mac
  asymmetricCryptoOp : Option B.Asym
  symmetricCryptoOp : Option B.Cipher
  mechanism : AsymMech
  mechanismParam : Option B.MechanismParam
  reAuthentication : Bool
  allowMultiPartOp : Bool
  allowSinglePartOp : Bool
  publicKey : Option B.PublicKey
  privateKey : Option B.PrivateKey
  symmetricKey : Option ByteString

namespace Session

variable {B : Backend}

/-- The constructor. -/
def create : Session B where
  operation := .NONE
  findOp := none
  digestOp := none
  hashAlgo := .Unknown
  macOp := none
  asymmetricCryptoOp := none
  symmetricCryptoOp := none
  mechanism := .Unknown
  mechanismParam := none
  reAuthentication := false
  allowMultiPartOp := false
  allowSinglePartOp := false
  publicKey := none
  privateKey := none
  symmetricKey := none

/-- Only the first object that is there is let go, with the keys that go with it. -/
def resetOp (s : Session B) : Session B :=
  let s := { s with mechanismParam := none }
  let s :=
    if s.digestOp.isSome then { s with digestOp := none }
    else if s.findOp.isSome then { s with findOp := none }
    else if s.asymmetricCryptoOp.isSome then
      { s with publicKey := none, privateKey := none, asymmetricCryptoOp := none }
    else if s.symmetricCryptoOp.isSome then
      { s with symmetricKey := none, symmetricCryptoOp := none }
    else if s.macOp.isSome then { s with symmetricKey := none, macOp := none }
    else s
  { s with operation := .NONE, reAuthentication := false }

def setOpType (s : Session B) (inOperation : SESSION_OP) : Session B :=
  { s with operation := inOperation }

def setFindOp (s : Session B) (inFindOp : List ℕ) : Session B := { s with findOp := some inFindOp }

def setDigestOp (s : Session B) (inDigestOp : B.Hash) : Session B :=
  { s with digestOp := some inDigestOp }

def setHashAlgo (s : Session B) (inHashAlgo : HashAlgo) : Session B :=
  { s with hashAlgo := inHashAlgo }

/-- A key is not replaced where no object could let the old one go. -/
def setSymmetricKey (s : Session B) (inSymmetricKey : Option ByteString) : Session B :=
  if s.symmetricKey.isSome && !s.macOp.isSome && !s.symmetricCryptoOp.isSome then s
  else { s with symmetricKey := inSymmetricKey }

def setPublicKey (s : Session B) (inPublicKey : Option B.PublicKey) : Session B :=
  if s.asymmetricCryptoOp.isSome then { s with publicKey := inPublicKey } else s

def setPrivateKey (s : Session B) (inPrivateKey : Option B.PrivateKey) : Session B :=
  if s.asymmetricCryptoOp.isSome then { s with privateKey := inPrivateKey } else s

def setMacOp (s : Session B) (inMacOp : B.Mac) : Session B :=
  let s := if s.macOp.isSome then s.setSymmetricKey none else s
  { s with macOp := some inMacOp }

def setAsymmetricCryptoOp (s : Session B) (inAsymmetricCryptoOp : B.Asym) : Session B :=
  let s := if s.asymmetricCryptoOp.isSome then (s.setPublicKey none).setPrivateKey none else s
  { s with asymmetricCryptoOp := some inAsymmetricCryptoOp }

def setSymmetricCryptoOp (s : Session B) (inSymmetricCryptoOp : B.Cipher) : Session B :=
  let s := if s.symmetricCryptoOp.isSome then s.setSymmetricKey none else s
  { s with symmetricCryptoOp := some inSymmetricCryptoOp }

def setMechanism (s : Session B) (inMechanism : AsymMech) : Session B :=
  { s with mechanism := inMechanism }

def setMechanismParam (s : Session B) : Option B.MechanismParam → Session B
  | none => s
  | some inMechanismParam => { s with mechanismParam := some inMechanismParam }

def setReAuthentication (s : Session B) (inReAuthentication : Bool) : Session B :=
  { s with reAuthentication := inReAuthentication }

def setAllowMultiPartOp (s : Session B) (inAllowMultiPartOp : Bool) : Session B :=
  { s with allowMultiPartOp := inAllowMultiPartOp }

def setAllowSinglePartOp (s : Session B) (inAllowSinglePartOp : Bool) : Session B :=
  { s with allowSinglePartOp := inAllowSinglePartOp }

end Session

end SoftHSM.Operation
