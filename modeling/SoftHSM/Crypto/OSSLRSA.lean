import SoftHSM.Lib.Der
import SoftHSM.Library.CipherSizes
import SoftHSM.Library.Mechanisms

/-!
What fits under an RSA key. The lengths that the library compares are taken from the bytes of the
modulus as they are stored, from its bits, or left to the backend, and what is left of them is a
difference of numbers without a sign.
-/

namespace SoftHSM.RSA

open CK_RV Create Numeral
open Crypt (AsymMech)

/-! ### Keys and differences -/

/-- A key in any representation of its modulus. The backend counts bits in an `int`. -/
structure RSAKey where
  n : ByteString
  e : ℕ
  d : ℕ
  positive : 0 < Tlv.value n
  bignum : n.length * 8 < 2 ^ 31
  inverse : ∀ x < Tlv.value n, (x ^ d % Tlv.value n) ^ e % Tlv.value n = x

def RSAKey.getBitLength (key : RSAKey) : ℕ := bits key.n

def RSAKey.getOutputLength (key : RSAKey) : ℕ := (key.getBitLength + 7) / 8

/-- What is computed, and whether a difference on the way went below zero. -/
structure Unsigned (α : Type) where
  value : α
  wraps : Bool

def difference (a b : ℕ) : Unsigned ℕ := ⟨(a + 2 ^ 64 - b) % 2 ^ 64, decide (a < b)⟩

/-- What `memset` and `resize` can be asked for; beyond it they throw. -/
def wipe (newSize : ℕ) : Option ByteString :=
  if newSize < 2 ^ 63 then some (List.replicate newSize 0) else none

/-- What a caller points to lies in memory. -/
structure Buffer where
  bytes : ByteString
  inMemory : bytes.length < 2 ^ 63

/-! ### The backend -/

inductive HashAlgo
  | MD5 | SHA1 | SHA224 | SHA256 | SHA384 | SHA512
  deriving DecidableEq

def HashAlgo.size : HashAlgo → ℕ
  | MD5 => 16
  | SHA1 => 20
  | SHA224 => 28
  | SHA256 => 32
  | SHA384 => 48
  | SHA512 => 64

/-- A digest with the name of its algorithm. -/
def HashAlgo.infoSize : HashAlgo → ℕ
  | MD5 => 34
  | SHA1 => 35
  | SHA224 => 47
  | SHA256 => 51
  | SHA384 => 67
  | SHA512 => 83

inductive Padding
  | RSA_NO_PADDING
  | RSA_PKCS1_PADDING (md : Option HashAlgo)
  | RSA_PKCS1_PSS_PADDING (md mgf1 : HashAlgo) (saltlen : ℤ)

/-- `EVP_PKEY_sign` is told how much room there is. -/
structure EVP where
  EVP_PKEY_sign : RSAKey → Padding → ℕ → ByteString → Option ByteString
  EVP_PKEY_verify : RSAKey → Padding → ByteString → ByteString → Bool
  digest : HashAlgo → ByteString → ByteString

/-- The bits of a modulus, of the number that it is. -/
def bitLength (n : ByteString) : ℕ := Nat.log2 (Tlv.value n) + 1

/-- The bytes of a number below the modulus. -/
def k (key : RSAKey) : ℕ := (bitLength key.n + 7) / 8

/-- The bytes of a message that is encoded, which has a bit less. -/
def emLen (key : RSAKey) : ℕ := (bitLength key.n - 1 + 7) / 8

/-- What there is a signature of; the lengths below zero, which have a name of their own, have room
for no salt at the least. -/
def Fits (key : RSAKey) (tbs : ByteString) : Padding → Prop
  | .RSA_NO_PADDING => tbs.length = k key ∧ Tlv.value tbs < Tlv.value key.n
  | .RSA_PKCS1_PADDING none => tbs.length + 11 ≤ k key
  | .RSA_PKCS1_PADDING (some md) => tbs.length = md.size ∧ md.infoSize + 11 ≤ k key
  | .RSA_PKCS1_PSS_PADDING md _ saltlen =>
    tbs.length = md.size ∧ md.size + saltlen.toNat + 2 ≤ emLen key

/-- A length that is not a name. -/
def Padding.Plain : Padding → Prop
  | .RSA_PKCS1_PSS_PADDING _ _ saltlen => 0 ≤ saltlen
  | _ => True

/-- A backend that is RSA. -/
structure EVP.Correct (E : EVP) : Prop where
  signs : ∀ key pad siglen tbs, pad.Plain → k key ≤ siglen → Fits key tbs pad →
    (E.EVP_PKEY_sign key pad siglen tbs).isSome = true
  fits : ∀ key pad siglen tbs sig, E.EVP_PKEY_sign key pad siglen tbs = some sig →
    Fits key tbs pad ∧ sig.length = k key
  verifies : ∀ key pad siglen tbs sig, tbs ≠ [] → pad.Plain →
    E.EVP_PKEY_sign key pad siglen tbs = some sig → E.EVP_PKEY_verify key pad sig tbs = true
  recovers : ∀ key pad sig tbs, E.EVP_PKEY_verify key pad sig tbs = true → Fits key tbs pad

/-! ### `OSSLRSA` -/

structure RSAPssMechanismParam where
  hashAlg : HashAlgo
  mgfAlg : HashAlgo
  sLen : ℕ

/-- The hash of a mechanism that hashes, and whether its padding has a salt. -/
def hashed : AsymMech → Option (HashAlgo × Bool)
  | .RSA_MD5_PKCS => some (.MD5, false)
  | .RSA_SHA1_PKCS => some (.SHA1, false)
  | .RSA_SHA224_PKCS => some (.SHA224, false)
  | .RSA_SHA256_PKCS => some (.SHA256, false)
  | .RSA_SHA384_PKCS => some (.SHA384, false)
  | .RSA_SHA512_PKCS => some (.SHA512, false)
  | .RSA_SHA1_PKCS_PSS => some (.SHA1, true)
  | .RSA_SHA224_PKCS_PSS => some (.SHA224, true)
  | .RSA_SHA256_PKCS_PSS => some (.SHA256, true)
  | .RSA_SHA384_PKCS_PSS => some (.SHA384, true)
  | .RSA_SHA512_PKCS_PSS => some (.SHA512, true)
  | _ => none

/-- What is left for the salt. -/
def saltRoom (bitLength allowedLen : ℕ) : Unsigned ℕ :=
  let less := difference ((bitLength + 6) / 8) 2
  let left := difference less.value allowedLen
  ⟨left.value, less.wraps || left.wraps⟩

/-- The length of a salt is handed over as an `int`. -/
def toInt (sLen : ℕ) : ℤ := (BitVec.ofNat 32 sLen).toInt

/-- `OSSLRSA::signInit` and `OSSLRSA::verifyInit`, which differ in the key they are given; what they
keep is the padding. -/
def hashInit (key : RSAKey) (mechanism : AsymMech) (mechanismParam : Option RSAPssMechanismParam) :
    Unsigned (Option (HashAlgo × Padding)) :=
  match hashed mechanism with
  | none => ⟨none, false⟩
  | some (h, false) => ⟨some (h, .RSA_PKCS1_PADDING (some h)), false⟩
  | some (h, true) =>
    match mechanismParam with
    | none => ⟨none, false⟩
    | some pssParam =>
      if pssParam.hashAlg ≠ h ∨ pssParam.mgfAlg ≠ h then ⟨none, false⟩
      else
        let room := saltRoom key.getBitLength h.size
        if room.value < pssParam.sLen then ⟨none, room.wraps⟩
        else ⟨some (h, .RSA_PKCS1_PSS_PADDING h h (toInt pssParam.sLen)), room.wraps⟩

def OSSLRSA.signInit := hashInit

def OSSLRSA.verifyInit := hashInit

def OSSLRSA.signFinal (E : EVP) (key : RSAKey) (pending : HashAlgo × Padding) (data : ByteString) :
    Option ByteString :=
  E.EVP_PKEY_sign key pending.2 key.n.length (E.digest pending.1 data)

def OSSLRSA.verifyFinal (E : EVP) (key : RSAKey) (pending : HashAlgo × Padding)
    (data signature : ByteString) : Bool :=
  E.EVP_PKEY_verify key pending.2 signature (E.digest pending.1 data)

/-- The parameters of `RSA_PKCS_PSS` without a hash, checked against the length of the data. -/
def rawPss (key : RSAKey) (mechanismParam : Option RSAPssMechanismParam) (data : ByteString) :
    Unsigned (Option Padding) :=
  match mechanismParam with
  | none => ⟨none, false⟩
  | some pssParam =>
    if pssParam.hashAlg = .MD5 ∨ pssParam.mgfAlg = .MD5 then ⟨none, false⟩
    else if data.length ≠ pssParam.hashAlg.size then ⟨none, false⟩
    else
      let room := saltRoom key.getBitLength pssParam.hashAlg.size
      if room.value < pssParam.sLen then ⟨none, room.wraps⟩
      else
        ⟨some (.RSA_PKCS1_PSS_PADDING pssParam.hashAlg pssParam.mgfAlg (toInt pssParam.sLen)),
          room.wraps⟩

def OSSLRSA.sign (E : EVP) (key : RSAKey) (data : ByteString) (mechanism : AsymMech)
    (mechanismParam : Option RSAPssMechanismParam) : Unsigned (Option ByteString) :=
  match mechanism with
  | .RSA_PKCS =>
    let allowedLen := difference key.n.length 11
    if allowedLen.value < data.length then ⟨none, allowedLen.wraps⟩
    else ⟨E.EVP_PKEY_sign key (.RSA_PKCS1_PADDING none) key.n.length data, allowedLen.wraps⟩
  | .RSA_PKCS_PSS =>
    let padding := rawPss key mechanismParam data
    ⟨padding.value.bind fun pad => E.EVP_PKEY_sign key pad key.n.length data, padding.wraps⟩
  | .RSA =>
    if data.length ≠ key.n.length then ⟨none, false⟩
    else ⟨E.EVP_PKEY_sign key .RSA_NO_PADDING key.n.length data, false⟩
  | mechanism =>
    let pending := OSSLRSA.signInit key mechanism mechanismParam
    ⟨pending.value.bind fun p => OSSLRSA.signFinal E key p data, pending.wraps⟩

def OSSLRSA.verify (E : EVP) (key : RSAKey) (originalData signature : ByteString)
    (mechanism : AsymMech) (mechanismParam : Option RSAPssMechanismParam) : Unsigned Bool :=
  match mechanism with
  | .RSA_PKCS => ⟨E.EVP_PKEY_verify key (.RSA_PKCS1_PADDING none) signature originalData, false⟩
  | .RSA_PKCS_PSS =>
    let padding := rawPss key mechanismParam originalData
    ⟨padding.value.any fun pad => E.EVP_PKEY_verify key pad signature originalData, padding.wraps⟩
  | .RSA => ⟨E.EVP_PKEY_verify key .RSA_NO_PADDING signature originalData, false⟩
  | mechanism =>
    let pending := OSSLRSA.verifyInit key mechanism mechanismParam
    ⟨pending.value.any fun p => OSSLRSA.verifyFinal E key p originalData signature, pending.wraps⟩

/-! ### The calls -/

structure CK_RSA_PKCS_PSS_PARAMS where
  hashAlg : CK_MECHANISM_TYPE
  mgf : UInt64
  sLen : UInt64

def CKG_MGF1_SHA1 : UInt64 := 0x1
def CKG_MGF1_SHA224 : UInt64 := 0x5
def CKG_MGF1_SHA256 : UInt64 := 0x2
def CKG_MGF1_SHA384 : UInt64 := 0x3
def CKG_MGF1_SHA512 : UInt64 := 0x4

/-- A hash with its number and that of the mask that goes with it. -/
def pssHashes : List (HashAlgo × CK_MECHANISM_TYPE × UInt64) :=
  [(.SHA1, CKM_SHA_1, CKG_MGF1_SHA1), (.SHA224, CKM_SHA224, CKG_MGF1_SHA224),
    (.SHA256, CKM_SHA256, CKG_MGF1_SHA256), (.SHA384, CKM_SHA384, CKG_MGF1_SHA384),
    (.SHA512, CKM_SHA512, CKG_MGF1_SHA512)]

def CK_RSA_PKCS_PSS_PARAMS.names (p : CK_RSA_PKCS_PSS_PARAMS)
    (h : HashAlgo × CK_MECHANISM_TYPE × UInt64) : Bool :=
  p.hashAlg == h.2.1 && p.mgf == h.2.2

def CK_RSA_PKCS_PSS_PARAMS.param (p : CK_RSA_PKCS_PSS_PARAMS) (h : HashAlgo) : RSAPssMechanismParam :=
  ⟨h, h, p.sLen.toNat⟩

/-- The mechanisms that take no parameter, and whether they take the data in parts. -/
def plainMechanisms : List (CK_MECHANISM_TYPE × AsymMech × Bool) :=
  [(CKM_RSA_PKCS, .RSA_PKCS, false), (CKM_RSA_X_509, .RSA, false),
    (CKM_MD5_RSA_PKCS, .RSA_MD5_PKCS, true), (CKM_SHA1_RSA_PKCS, .RSA_SHA1_PKCS, true),
    (CKM_SHA224_RSA_PKCS, .RSA_SHA224_PKCS, true), (CKM_SHA256_RSA_PKCS, .RSA_SHA256_PKCS, true),
    (CKM_SHA384_RSA_PKCS, .RSA_SHA384_PKCS, true), (CKM_SHA512_RSA_PKCS, .RSA_SHA512_PKCS, true)]

/-- The mechanisms that hash and salt, each with the one hash that its parameters may name. -/
def saltedMechanisms : List (CK_MECHANISM_TYPE × AsymMech × HashAlgo × CK_MECHANISM_TYPE × UInt64) :=
  [(CKM_SHA1_RSA_PKCS_PSS, .RSA_SHA1_PKCS_PSS, .SHA1, CKM_SHA_1, CKG_MGF1_SHA1),
    (CKM_SHA224_RSA_PKCS_PSS, .RSA_SHA224_PKCS_PSS, .SHA224, CKM_SHA224, CKG_MGF1_SHA224),
    (CKM_SHA256_RSA_PKCS_PSS, .RSA_SHA256_PKCS_PSS, .SHA256, CKM_SHA256, CKG_MGF1_SHA256),
    (CKM_SHA384_RSA_PKCS_PSS, .RSA_SHA384_PKCS_PSS, .SHA384, CKM_SHA384, CKG_MGF1_SHA384),
    (CKM_SHA512_RSA_PKCS_PSS, .RSA_SHA512_PKCS_PSS, .SHA512, CKM_SHA512, CKG_MGF1_SHA512)]

/-- A session after `AsymSignInit` or `AsymVerifyInit` with an RSA key. -/
structure Session where
  key : RSAKey
  mechanism : AsymMech
  mechanismParam : Option RSAPssMechanismParam
  allowMultiPartOp : Bool
  pending : Option (HashAlgo × Padding)

/-- What the mechanism and its parameters ask for. -/
def rsaMechanism (mechanism : CK_MECHANISM_TYPE) (pParameter : Option CK_RSA_PKCS_PSS_PARAMS) :
    Except CK_RV (AsymMech × Option RSAPssMechanismParam × Bool) :=
  match plainMechanisms.find? fun m => m.1 == mechanism with
  | some m => .ok (m.2.1, none, m.2.2)
  | none =>
    if mechanism = CKM_RSA_PKCS_PSS then
      match pParameter with
      | none => .error CKR_ARGUMENTS_BAD
      | some p =>
        match pssHashes.find? p.names with
        | none => .error CKR_ARGUMENTS_BAD
        | some h => .ok (.RSA_PKCS_PSS, some (p.param h.1), false)
    else
      match saltedMechanisms.find? fun m => m.1 == mechanism with
      | none => .error CKR_MECHANISM_INVALID
      | some m =>
        match pParameter with
        | none => .error CKR_ARGUMENTS_BAD
        | some p =>
          if p.names m.2.2 then .ok (m.2.1, some (p.param m.2.2.1), true)
          else .error CKR_ARGUMENTS_BAD

/-- An RSA key that allows the mechanism is initialised for it. -/
def asymInit
    (init : RSAKey → AsymMech → Option RSAPssMechanismParam → Unsigned (Option (HashAlgo × Padding)))
    (key : RSAKey) (mechanism : CK_MECHANISM_TYPE) (pParameter : Option CK_RSA_PKCS_PSS_PARAMS) :
    Unsigned (Except CK_RV Session) :=
  match rsaMechanism mechanism pParameter with
  | .error rv => ⟨.error rv, false⟩
  | .ok (mech, param, false) => ⟨.ok ⟨key, mech, param, false, none⟩, false⟩
  | .ok (mech, param, true) =>
    let pending := init key mech param
    match pending.value with
    | none => ⟨.error CKR_MECHANISM_INVALID, pending.wraps⟩
    | some p => ⟨.ok ⟨key, mech, param, true, some p⟩, pending.wraps⟩

def AsymSignInit := asymInit OSSLRSA.signInit

def AsymVerifyInit := asymInit OSSLRSA.verifyInit

/-- Input that may be shorter than the modulus has zeros put before it. -/
def prepended (session : Session) (size : ℕ) (pData : ByteString) : Unsigned (Option ByteString) :=
  if session.mechanism = .RSA then
    let zeros := difference size pData.length
    ⟨(wipe zeros.value).map (· ++ pData), zeros.wraps⟩
  else ⟨some pData, false⟩

/-- In parts where the mechanism hashes, and in one piece otherwise. -/
def Session.signs (E : EVP) (session : Session) (message : ByteString) :
    Unsigned (Option ByteString) :=
  if session.allowMultiPartOp then
    ⟨session.pending.bind fun p => OSSLRSA.signFinal E session.key p message, false⟩
  else OSSLRSA.sign E session.key message session.mechanism session.mechanismParam

def Session.verifies (E : EVP) (session : Session) (message signature : ByteString) : Unsigned Bool :=
  if session.allowMultiPartOp then
    ⟨session.pending.any fun p => OSSLRSA.verifyFinal E session.key p message signature, false⟩
  else OSSLRSA.verify E session.key message signature session.mechanism session.mechanismParam

structure Answer where
  rv : CK_RV
  pulSignatureLen : ℕ
  pSignature : Option ByteString
  deriving DecidableEq

/-- `buffer` is whether `pSignature` points anywhere. -/
def AsymSign (E : EVP) (session : Session) (pData : Buffer) (buffer : Bool) (pulSignatureLen : ℕ) :
    Unsigned Answer :=
  let size := session.key.getOutputLength
  if buffer = false then ⟨⟨CKR_OK, size, none⟩, false⟩
  else if pulSignatureLen < size then ⟨⟨CKR_BUFFER_TOO_SMALL, size, none⟩, false⟩
  else
    let data := prepended session size pData.bytes
    match data.value with
    -- What `resize` throws is caught where the module is entered.
    | none => ⟨⟨CKR_FUNCTION_FAILED, pulSignatureLen, none⟩, data.wraps⟩
    | some message =>
      let signature := session.signs E message
      match signature.value with
      | none => ⟨⟨CKR_GENERAL_ERROR, pulSignatureLen, none⟩, data.wraps || signature.wraps⟩
      | some s =>
        if s.length ≠ size then
          ⟨⟨CKR_GENERAL_ERROR, pulSignatureLen, none⟩, data.wraps || signature.wraps⟩
        else ⟨⟨CKR_OK, size, some s⟩, data.wraps || signature.wraps⟩

def AsymVerify (E : EVP) (session : Session) (pData : Buffer) (pSignature : ByteString) :
    Unsigned CK_RV :=
  let size := session.key.getOutputLength
  if pSignature.length ≠ size then ⟨CKR_SIGNATURE_LEN_RANGE, false⟩
  else
    let data := prepended session size pData.bytes
    match data.value with
    | none => ⟨CKR_FUNCTION_FAILED, data.wraps⟩
    | some message =>
      let verified := session.verifies E message pSignature
      ⟨if verified.value then CKR_OK else CKR_SIGNATURE_INVALID, data.wraps || verified.wraps⟩

/-! ### Lengths by the value of the modulus -/

inductive Side
  | signing
  | verifying
  deriving DecidableEq

/-- One use of a key: a mechanism with its parameters, and data in one piece. -/
structure Use where
  side : Side
  key : RSAKey
  mechanism : CK_MECHANISM_TYPE
  pParameter : Option CK_RSA_PKCS_PSS_PARAMS
  pData : Buffer

namespace Use

def init (u : Use) : Unsigned (Except CK_RV Session) :=
  match u.side with
  | .signing => AsymSignInit u.key u.mechanism u.pParameter
  | .verifying => AsymVerifyInit u.key u.mechanism u.pParameter

/-- The data is signed; or there is a signature with which it is verified. -/
def call (E : EVP) (u : Use) (session : Session) : Prop :=
  match u.side with
  | .signing => ∃ pulSignatureLen, (AsymSign E session u.pData true pulSignatureLen).value.rv = CKR_OK
  | .verifying => ∃ pSignature, (AsymVerify E session u.pData pSignature).value = CKR_OK

def Accepted (E : EVP) (u : Use) : Prop := ∃ session, u.init.value = .ok session ∧ u.call E session

/-- No call with the session takes a difference below zero. -/
def Counts (E : EVP) (u : Use) (session : Session) : Prop :=
  match u.side with
  | .signing => ∀ buffer pulSignatureLen,
      (AsymSign E session u.pData buffer pulSignatureLen).wraps = false
  | .verifying => ∀ pSignature, (AsymVerify E session u.pData pSignature).wraps = false

/-- The mechanism has a salt, and a length that is compared with what there is room for. -/
def Salted (u : Use) (mech : AsymMech) (param : RSAPssMechanismParam) (multi : Bool) : Prop :=
  rsaMechanism u.mechanism u.pParameter = .ok (mech, some param, multi) ∧
    (multi = false → u.pData.bytes.length = param.hashAlg.size)

end Use

/-- What is accepted depends on the number that the modulus is, and nothing is taken below zero.
There is RSA only of numbers below the modulus. -/
structure LengthsByValue (E : EVP) (u : Use) : Prop where
  x509 : u.mechanism = CKM_RSA_X_509 → Tlv.value u.pData.bytes < Tlv.value u.key.n →
    (u.Accepted E ↔ u.pData.bytes.length ≤ k u.key)
  pkcs : u.side = .signing → u.mechanism = CKM_RSA_PKCS →
    (u.Accepted E ↔ u.pData.bytes.length + 11 ≤ k u.key)
  saltAtInit : ∀ mech param, u.Salted mech param true →
    ((∃ session, u.init.value = .ok session) ↔ param.hashAlg.size + param.sLen + 2 ≤ emLen u.key)
  salt : ∀ mech param, u.Salted mech param false →
    (u.Accepted E ↔ param.hashAlg.size + param.sLen + 2 ≤ emLen u.key)
  signature : ∀ session pulSignatureLen s, u.init.value = .ok session →
    (AsymSign E session u.pData true pulSignatureLen).value.pSignature = some s → s.length = k u.key
  noWrap : u.init.wraps = false ∧ ∀ session, u.init.value = .ok session → u.Counts E session

/-- The uses that the comparisons are right about. -/
structure Fitting (u : Use) : Prop where
  x509 : u.mechanism = CKM_RSA_X_509 → u.pData.bytes.length ≤ k u.key ∧
    (u.side = .signing → Tlv.value u.pData.bytes < Tlv.value u.key.n → u.key.n.head? ≠ some 0)
  pkcs : u.side = .signing → u.mechanism = CKM_RSA_PKCS → 11 ≤ u.key.n.length
  salt : ∀ mech param multi, u.Salted mech param multi → param.hashAlg.size + 2 ≤ emLen u.key

/-! ### The size of a modulus -/

lemma log2_lt_eight {x : UInt8} : Nat.log2 x.toNat < 8 := by
  by_cases hx : x.toNat = 0
  · rw [hx]
    decide
  · exact (Nat.log2_lt hx).2 x.toNat_lt

/-- The bits from the first one that is set are those of the number. -/
lemma bits_eq {l : ByteString} (h : 0 < Tlv.value l) : bits l = bitLength l := by
  induction l with
  | nil => exact absurd h (by decide)
  | cons x rest ih =>
    have hone : Tlv.value [x] = x.toNat := by simp [Tlv.value]
    have hvalue : Tlv.value (x :: rest) = x.toNat * 256 ^ rest.length + Tlv.value rest := by
      rw [← List.singleton_append, value_append, hone]
    by_cases hx : x = 0
    · have hzero : Tlv.value (x :: rest) = Tlv.value rest := by
        rw [hvalue, hx]
        simp
      rw [bits, if_pos hx, bitLength, hzero, ih (hzero ▸ h), bitLength]
    · have hne : x.toNat ≠ 0 := fun h0 => hx (UInt8.toNat_inj.1 (by simpa using h0))
      have hrest := value_lt rest
      have hpow : (256 : ℕ) ^ rest.length = 2 ^ (rest.length * 8) := by
        rw [Nat.mul_comm, Nat.pow_mul]
      obtain ⟨hlow, hhigh⟩ := (Nat.log2_eq_iff hne).1 (rfl : x.toNat.log2 = _)
      have hlog : Nat.log2 (Tlv.value (x :: rest)) = rest.length * 8 + Nat.log2 x.toNat := by
        rw [Nat.log2_eq_iff h.ne', hvalue, hpow]
        rw [hpow] at hrest
        constructor
        · rw [Nat.pow_add, Nat.mul_comm]
          exact (Nat.mul_le_mul_right _ hlow).trans (Nat.le_add_right _ _)
        · calc x.toNat * 2 ^ (rest.length * 8) + Tlv.value rest
              < (x.toNat + 1) * 2 ^ (rest.length * 8) := by
                rw [Nat.succ_mul]
                exact Nat.add_lt_add_left hrest _
            _ ≤ 2 ^ (Nat.log2 x.toNat + 1) * 2 ^ (rest.length * 8) := Nat.mul_le_mul_right _ hhigh
            _ = 2 ^ (rest.length * 8 + Nat.log2 x.toNat + 1) := by
                rw [← Nat.pow_add]
                congr 1
                omega
      rw [bits, if_neg hx, bitLength, hlog]
      omega

lemma bits_le (l : ByteString) : bits l ≤ l.length * 8 := by
  induction l with
  | nil => rfl
  | cons x rest ih =>
    have hlog := log2_lt_eight (x := x)
    rw [bits, List.length_cons]
    split_ifs <;> omega

namespace RSAKey

variable (key : RSAKey)

lemma getOutputLength_eq : key.getOutputLength = k key := by
  rw [getOutputLength, getBitLength, bits_eq key.positive, k]

lemma emLen_eq : (key.getBitLength + 6) / 8 = emLen key := by
  rw [getBitLength, bits_eq key.positive, emLen, bitLength]
  congr 1

lemma one_le_k : 1 ≤ k key := by
  rw [k, bitLength]
  omega

lemma k_le : k key ≤ key.n.length := by
  have hle := bits_le key.n
  rw [bits_eq key.positive] at hle
  rw [k]
  omega

lemma emLen_le : emLen key ≤ k key := by
  rw [emLen, k]
  omega

lemma length_lt : key.n.length < 2 ^ 28 := by
  have := key.bignum
  omega

/-- The modulus takes the bytes that it is stored in, unless the first is zero. -/
lemma k_eq_iff : k key = key.n.length ↔ key.n.head? ≠ some 0 := by
  have hk : k key = (bits key.n + 7) / 8 := by rw [k, bits_eq key.positive]
  have hpos := key.positive
  rw [hk]
  cases hn : key.n with
  | nil =>
    rw [hn] at hpos
    exact absurd hpos (by decide)
  | cons x rest =>
    rw [List.head?_cons, List.length_cons, bits]
    by_cases hx : x = 0
    · have hle := bits_le rest
      rw [if_pos hx, hx]
      constructor
      · intro h
        omega
      · intro h
        exact absurd rfl h
    · have hlog := log2_lt_eight (x := x)
      rw [if_neg hx]
      constructor
      · exact fun _ h => hx (Option.some.inj h)
      · intro _
        omega

end RSAKey

/-! ### Differences -/

@[simp] lemma difference_wraps {a b : ℕ} : (difference a b).wraps = false ↔ b ≤ a := by
  simp [difference]

lemma difference_value {a b : ℕ} (hle : b ≤ a) (ha : a < 2 ^ 64) : (difference a b).value = a - b := by
  have hsum : a + 2 ^ 64 - b = a - b + 2 ^ 64 := by omega
  rw [difference, hsum, Nat.add_mod_right, Nat.mod_eq_of_lt (by omega)]

lemma difference_value_of_lt {a b : ℕ} (hlt : a < b) :
    (difference a b).value = a + 2 ^ 64 - b := by
  rw [difference, Nat.mod_eq_of_lt (by omega)]

lemma saltRoom_wraps {bitLength h : ℕ} (hb : bitLength < 2 ^ 32) :
    (saltRoom bitLength h).wraps = false ↔ h + 2 ≤ (bitLength + 6) / 8 := by
  rw [saltRoom, Bool.or_eq_false_iff, difference_wraps, difference_wraps]
  constructor
  · rintro ⟨htwo, hle⟩
    rw [difference_value htwo (by omega)] at hle
    omega
  · intro hle
    have htwo : 2 ≤ (bitLength + 6) / 8 := by omega
    rw [difference_value htwo (by omega)]
    omega

lemma saltRoom_value {bitLength h : ℕ} (hb : bitLength < 2 ^ 32)
    (hle : h + 2 ≤ (bitLength + 6) / 8) :
    (saltRoom bitLength h).value = (bitLength + 6) / 8 - 2 - h := by
  have htwo : 2 ≤ (bitLength + 6) / 8 := by omega
  rw [saltRoom, difference_value htwo (by omega), difference_value (by omega) (by omega)]

/-- What throws: more zeros than there are addresses. -/
lemma wipe_difference {a b : ℕ} (ha : a < 2 ^ 63) (hb : b < 2 ^ 63) :
    wipe (difference a b).value = if b ≤ a then some (List.replicate (a - b) 0) else none := by
  by_cases hle : b ≤ a
  · rw [difference_value hle (by omega), wipe, if_pos (by omega), if_pos hle]
  · rw [difference_value_of_lt (by omega), wipe, if_neg (by omega), if_neg hle]

lemma toInt_of_lt {sLen : ℕ} (h : sLen < 2 ^ 31) : toInt sLen = sLen := by
  rw [toInt, BitVec.toInt_eq_toNat_cond, BitVec.toNat_ofNat, Nat.mod_eq_of_lt (by omega),
    if_pos (by omega)]

/-! ### What a backend that is RSA makes of it -/

section Backend

variable {E : EVP} (hE : E.Correct) {key : RSAKey} {pad : Padding} {tbs : ByteString}
include hE

lemma signs_iff (hplain : pad.Plain) :
    (∃ s, E.EVP_PKEY_sign key pad key.n.length tbs = some s ∧ s.length = k key) ↔
      Fits key tbs pad := by
  constructor
  · rintro ⟨s, hs, -⟩
    exact (hE.fits _ _ _ _ _ hs).1
  · intro hfits
    obtain ⟨s, hs⟩ := Option.isSome_iff_exists.1 (hE.signs _ _ _ _ hplain key.k_le hfits)
    exact ⟨s, hs, (hE.fits _ _ _ _ _ hs).2⟩

lemma verifies_iff (hplain : pad.Plain) (hne : tbs ≠ []) :
    (∃ s, s.length = k key ∧ E.EVP_PKEY_verify key pad s tbs = true) ↔ Fits key tbs pad := by
  constructor
  · rintro ⟨s, -, hs⟩
    exact hE.recovers _ _ _ _ hs
  · intro hfits
    obtain ⟨s, hs, hlen⟩ := (signs_iff hE hplain).2 hfits
    exact ⟨s, hlen, hE.verifies _ _ _ _ _ hne hplain hs⟩

end Backend

/-! ### What the calls come to -/

section Calls

variable {E : EVP} {session : Session} {pData : Buffer}

lemma AsymSign_ok :
    (∃ room, (AsymSign E session pData true room).value.rv = CKR_OK) ↔
      ∃ message, (prepended session session.key.getOutputLength pData.bytes).value = some message ∧
        ∃ s, (session.signs E message).value = some s ∧ s.length = session.key.getOutputLength := by
  constructor
  · rintro ⟨room, hok⟩
    rw [AsymSign, if_neg (by decide)] at hok
    split_ifs at hok with hroom
    cases hm : (prepended session session.key.getOutputLength pData.bytes).value with
    | none => simp [hm] at hok
    | some message =>
      cases hs : (session.signs E message).value with
      | none => simp [hm, hs] at hok
      | some s =>
        refine ⟨message, rfl, s, hs, ?_⟩
        by_contra hne
        simp [hm, hs, hne] at hok
  · rintro ⟨message, hm, s, hs, hlen⟩
    refine ⟨session.key.getOutputLength, ?_⟩
    simp [AsymSign, hm, hs, hlen]

lemma AsymSign_signature {room : ℕ} {s : ByteString}
    (h : (AsymSign E session pData true room).value.pSignature = some s) :
    s.length = session.key.getOutputLength := by
  rw [AsymSign, if_neg (by decide)] at h
  split_ifs at h with hroom
  cases hm : (prepended session session.key.getOutputLength pData.bytes).value with
  | none => simp [hm] at h
  | some message =>
    cases hs : (session.signs E message).value with
    | none => simp [hm, hs] at h
    | some t =>
      by_cases hlen : t.length = session.key.getOutputLength
      · have ht : t = s := by simpa [hm, hs, hlen] using h
        rw [← ht, hlen]
      · simp [hm, hs, hlen] at h

lemma AsymSign_wraps :
    (∀ buffer room, (AsymSign E session pData buffer room).wraps = false) ↔
      (prepended session session.key.getOutputLength pData.bytes).wraps = false ∧
        ∀ message, (prepended session session.key.getOutputLength pData.bytes).value = some message →
          (session.signs E message).wraps = false := by
  constructor
  · intro h
    have hwraps := h true session.key.getOutputLength
    rw [AsymSign, if_neg (by decide), if_neg (lt_irrefl _)] at hwraps
    cases hm : (prepended session session.key.getOutputLength pData.bytes).value with
    | none => exact ⟨by simpa [hm] using hwraps, fun _ h0 => nomatch h0⟩
    | some message =>
      have hboth : (prepended session session.key.getOutputLength pData.bytes).wraps = false ∧
          (session.signs E message).wraps = false := by
        simp only [hm] at hwraps
        cases hs : (session.signs E message).value with
        | none => simpa [hs] using hwraps
        | some t =>
          simp only [hs] at hwraps
          split_ifs at hwraps <;> simpa using hwraps
      refine ⟨hboth.1, fun m h0 => ?_⟩
      cases h0
      exact hboth.2
  · rintro ⟨hpre, hsigns⟩ buffer room
    rw [AsymSign]
    split_ifs
    · rfl
    · rfl
    · cases hm : (prepended session session.key.getOutputLength pData.bytes).value with
      | none => simpa [hm] using hpre
      | some message =>
        have hmessage := hsigns message hm
        cases hs : (session.signs E message).value with
        | none => simp [hm, hs, hpre, hmessage]
        | some t =>
          simp only [hm, hs]
          split_ifs <;> simp [hpre, hmessage]

lemma AsymVerify_ok :
    (∃ pSignature, (AsymVerify E session pData pSignature).value = CKR_OK) ↔
      ∃ message, (prepended session session.key.getOutputLength pData.bytes).value = some message ∧
        ∃ s, s.length = session.key.getOutputLength ∧
          (session.verifies E message s).value = true := by
  constructor
  · rintro ⟨s, hok⟩
    rw [AsymVerify] at hok
    split_ifs at hok with hlen
    cases hm : (prepended session session.key.getOutputLength pData.bytes).value with
    | none => simp [hm] at hok
    | some message =>
      refine ⟨message, rfl, s, not_not.1 hlen, ?_⟩
      by_contra hne
      simp [hm, hne] at hok
  · rintro ⟨message, hm, s, hlen, hs⟩
    exact ⟨s, by simp [AsymVerify, hm, hlen, hs]⟩

lemma AsymVerify_wraps :
    (∀ pSignature, (AsymVerify E session pData pSignature).wraps = false) ↔
      (prepended session session.key.getOutputLength pData.bytes).wraps = false ∧
        ∀ message, (prepended session session.key.getOutputLength pData.bytes).value = some message →
          ∀ s : ByteString, s.length = session.key.getOutputLength →
            (session.verifies E message s).wraps = false := by
  constructor
  · intro h
    have hwraps : ∀ s : ByteString, s.length = session.key.getOutputLength → _ := fun s hs => by
      have hw := h s
      rw [AsymVerify, if_neg (not_not.2 hs)] at hw
      exact hw
    cases hm : (prepended session session.key.getOutputLength pData.bytes).value with
    | none =>
      have hzeros := hwraps (List.replicate session.key.getOutputLength 0) (by simp)
      exact ⟨by simpa [hm] using hzeros, fun _ h0 => nomatch h0⟩
    | some message =>
      simp only [hm, Bool.or_eq_false_iff] at hwraps
      refine ⟨(hwraps (List.replicate session.key.getOutputLength 0) (by simp)).1,
        fun m h0 s hs => ?_⟩
      cases h0
      exact (hwraps s hs).2
  · rintro ⟨hpre, hverifies⟩ s
    rw [AsymVerify]
    split_ifs with hlen
    · rfl
    · cases hm : (prepended session session.key.getOutputLength pData.bytes).value with
      | none => simpa [hm] using hpre
      | some message =>
        simp only [hm, Bool.or_eq_false_iff]
        exact ⟨hpre, hverifies message hm s (not_not.1 hlen)⟩

end Calls

/-! ### Mechanisms and their parameters -/

/-- The kinds of mechanisms, by what they ask for. -/
inductive Asks (mechanism : CK_MECHANISM_TYPE) : AsymMech → Option RSAPssMechanismParam → Bool → Prop
  | pkcs (h : mechanism = CKM_RSA_PKCS) : Asks mechanism .RSA_PKCS none false
  | x509 (h : mechanism = CKM_RSA_X_509) : Asks mechanism .RSA none false
  | hash (hpkcs : mechanism ≠ CKM_RSA_PKCS) (hx509 : mechanism ≠ CKM_RSA_X_509) (mech : AsymMech)
      (h : HashAlgo) (hmech : hashed mech = some (h, false)) (hraw : mech ≠ .RSA) :
      Asks mechanism mech none true
  | salt (hpkcs : mechanism ≠ CKM_RSA_PKCS) (hx509 : mechanism ≠ CKM_RSA_X_509)
      (param : RSAPssMechanismParam) (hmgf : param.mgfAlg = param.hashAlg)
      (hhash : param.hashAlg ≠ .MD5) : Asks mechanism .RSA_PKCS_PSS (some param) false
  | hashSalt (hpkcs : mechanism ≠ CKM_RSA_PKCS) (hx509 : mechanism ≠ CKM_RSA_X_509) (mech : AsymMech)
      (param : RSAPssMechanismParam) (hmech : hashed mech = some (param.hashAlg, true))
      (hmgf : param.mgfAlg = param.hashAlg) (hraw : mech ≠ .RSA) :
      Asks mechanism mech (some param) true

lemma rsaMechanism_asks {mechanism : CK_MECHANISM_TYPE} {pParameter : Option CK_RSA_PKCS_PSS_PARAMS}
    {mech : AsymMech} {param : Option RSAPssMechanismParam} {multi : Bool}
    (h : rsaMechanism mechanism pParameter = .ok (mech, param, multi)) :
    Asks mechanism mech param multi := by
  unfold rsaMechanism at h
  split at h
  · next m hm =>
    have heq : m.1 = mechanism := by simpa using List.find?_some hm
    have hmem := List.mem_of_find?_eq_some hm
    cases h
    subst heq
    simp only [plainMechanisms, List.mem_cons, List.not_mem_nil, or_false] at hmem
    obtain rfl | rfl | rfl | rfl | rfl | rfl | rfl | rfl := hmem
    · exact .pkcs rfl
    · exact .x509 rfl
    all_goals exact .hash (by decide) (by decide) _ _ rfl (by decide)
  · next hnone =>
    have hne : mechanism ≠ CKM_RSA_PKCS ∧ mechanism ≠ CKM_RSA_X_509 := by
      constructor <;> rintro rfl <;> simp [plainMechanisms, CKM_RSA_PKCS, CKM_RSA_X_509] at hnone
    split_ifs at h with hpss
    · cases pParameter with
      | none => cases h
      | some p =>
        simp only at h
        split at h
        · cases h
        · next x hx =>
          have hmem := List.mem_of_find?_eq_some hx
          cases h
          refine .salt hne.1 hne.2 _ rfl ?_
          simp only [pssHashes, List.mem_cons, List.not_mem_nil, or_false] at hmem
          obtain rfl | rfl | rfl | rfl | rfl := hmem <;> exact HashAlgo.noConfusion
    · split at h
      · cases h
      · next m hm =>
        have hmem := List.mem_of_find?_eq_some hm
        cases pParameter with
        | none => cases h
        | some p =>
          simp only at h
          split_ifs at h with hnames
          cases h
          simp only [saltedMechanisms, List.mem_cons, List.not_mem_nil, or_false] at hmem
          obtain rfl | rfl | rfl | rfl | rfl := hmem <;>
            exact .hashSalt hne.1 hne.2 _ _ rfl rfl AsymMech.noConfusion

lemma rsaMechanism_x509 (pParameter : Option CK_RSA_PKCS_PSS_PARAMS) :
    rsaMechanism CKM_RSA_X_509 pParameter = .ok (.RSA, none, false) := rfl

lemma rsaMechanism_pkcs (pParameter : Option CK_RSA_PKCS_PSS_PARAMS) :
    rsaMechanism CKM_RSA_PKCS pParameter = .ok (.RSA_PKCS, none, false) := rfl

/-! ### One mechanism after the other -/

lemma prepended_raw {session : Session} (h : session.mechanism = .RSA) (pData : Buffer) :
    prepended session session.key.getOutputLength pData.bytes =
      ⟨if pData.bytes.length ≤ k session.key then
        some (List.replicate (k session.key - pData.bytes.length) 0 ++ pData.bytes) else none,
        decide (k session.key < pData.bytes.length)⟩ := by
  have hk := session.key.k_le
  have hlen := session.key.length_lt
  rw [prepended, if_pos h, session.key.getOutputLength_eq]
  simp only [wipe_difference (show k session.key < 2 ^ 63 by omega) pData.inMemory]
  congr 1
  split_ifs <;> rfl

lemma prepended_other {session : Session} (h : session.mechanism ≠ .RSA) (size : ℕ)
    (pData : ByteString) : prepended session size pData = ⟨some pData, false⟩ := by
  rw [prepended, if_neg h]

section Use

variable {E : EVP} {u : Use} {mech : AsymMech} {param : Option RSAPssMechanismParam}

lemma init_single (h : rsaMechanism u.mechanism u.pParameter = .ok (mech, param, false)) :
    u.init = ⟨.ok ⟨u.key, mech, param, false, none⟩, false⟩ := by
  unfold Use.init AsymSignInit AsymVerifyInit asymInit
  rw [h]
  cases u.side <;> rfl

lemma init_multi (h : rsaMechanism u.mechanism u.pParameter = .ok (mech, param, true)) :
    u.init = ⟨match (hashInit u.key mech param).value with
      | none => .error CKR_MECHANISM_INVALID
      | some p => .ok ⟨u.key, mech, param, true, some p⟩, (hashInit u.key mech param).wraps⟩ := by
  unfold Use.init AsymSignInit AsymVerifyInit asymInit OSSLRSA.signInit OSSLRSA.verifyInit
  rw [h]
  cases hp : (hashInit u.key mech param).value <;> cases u.side <;> simp [hp]

lemma init_error {rv : CK_RV} (h : rsaMechanism u.mechanism u.pParameter = .error rv) :
    u.init = ⟨.error rv, false⟩ := by
  unfold Use.init AsymSignInit AsymVerifyInit asymInit
  rw [h]
  cases u.side <;> rfl

/-- A session has the key, and the mechanism that was asked for. -/
lemma init_session {session : Session} (h : u.init.value = .ok session) :
    session.key = u.key ∧ ∃ param multi,
      rsaMechanism u.mechanism u.pParameter = .ok (session.mechanism, param, multi) ∧
        session.allowMultiPartOp = multi := by
  cases hm : rsaMechanism u.mechanism u.pParameter with
  | error rv =>
    rw [init_error hm] at h
    cases h
  | ok m =>
    obtain ⟨mech, param, multi⟩ := m
    cases multi with
    | false =>
      rw [init_single hm] at h
      cases h
      exact ⟨rfl, param, false, rfl, rfl⟩
    | true =>
      rw [init_multi hm] at h
      cases hp : (hashInit u.key mech param).value with
      | none =>
        rw [hp] at h
        cases h
      | some p =>
        rw [hp] at h
        cases h
        exact ⟨rfl, param, true, rfl, rfl⟩

lemma signature_length {session : Session} {room : ℕ} {s : ByteString} (h : u.init.value = .ok session)
    (hs : (AsymSign E session u.pData true room).value.pSignature = some s) :
    s.length = k u.key := by
  rw [AsymSign_signature hs, session.key.getOutputLength_eq, (init_session h).1]

/-- In parts, nothing is subtracted after the initialisation. -/
lemma counts_multi (h : rsaMechanism u.mechanism u.pParameter = .ok (mech, param, true))
    (hraw : mech ≠ .RSA) {session : Session} (hs : u.init.value = .ok session) :
    u.Counts E session := by
  obtain ⟨-, param', multi, hm, hmulti⟩ := init_session hs
  rw [h] at hm
  cases hm
  unfold Use.Counts
  cases u.side with
  | signing =>
    refine AsymSign_wraps.2 ⟨by rw [prepended_other hraw], fun message _ => ?_⟩
    rw [Session.signs, if_pos hmulti]
  | verifying =>
    refine AsymVerify_wraps.2 ⟨by rw [prepended_other hraw], fun message _ s _ => ?_⟩
    rw [Session.verifies, if_pos hmulti]

end Use

section Raw

variable {E : EVP} {u : Use}

lemma counts_x509 {session : Session} (hmech : session.mechanism = .RSA) (hkey : session.key = u.key)
    (hmulti : session.allowMultiPartOp = false) :
    u.Counts E session ↔ u.pData.bytes.length ≤ k u.key := by
  have hsigns : ∀ message, (session.signs E message).wraps = false := by
    intro message
    rw [Session.signs, hmulti, if_neg (by decide), hmech, OSSLRSA.sign]
    split_ifs <;> rfl
  have hverifies : ∀ message s, (session.verifies E message s).wraps = false := by
    intro message s
    rw [Session.verifies, hmulti, if_neg (by decide), hmech, OSSLRSA.verify]
  unfold Use.Counts
  cases u.side with
  | signing =>
    rw [AsymSign_wraps, prepended_raw hmech, hkey]
    simp [hsigns]
  | verifying =>
    rw [AsymVerify_wraps, prepended_raw hmech, hkey]
    simp [hverifies]

/-- The numbers below the modulus have signatures, in as many bytes as the backend has. -/
lemma call_x509 (hE : E.Correct) {session : Session} (hmech : session.mechanism = .RSA)
    (hkey : session.key = u.key) (hmulti : session.allowMultiPartOp = false)
    (hval : Tlv.value u.pData.bytes < Tlv.value u.key.n) :
    u.call E session ↔ u.pData.bytes.length ≤ k u.key ∧
      (u.side = .signing → u.key.n.head? ≠ some 0) := by
  unfold Use.call
  have hone := u.key.one_le_k
  by_cases hle : u.pData.bytes.length ≤ k u.key
  · have hpre : (prepended session session.key.getOutputLength u.pData.bytes).value =
        some (List.replicate (k u.key - u.pData.bytes.length) 0 ++ u.pData.bytes) := by
      rw [prepended_raw hmech, hkey]
      exact if_pos hle
    obtain ⟨message, hmessage⟩ : ∃ message,
        message = List.replicate (k u.key - u.pData.bytes.length) 0 ++ u.pData.bytes := ⟨_, rfl⟩
    have hlen : message.length = k u.key := by
      rw [hmessage, List.length_append, List.length_replicate]
      omega
    have hfits : Fits u.key message .RSA_NO_PADDING := by
      refine ⟨hlen, ?_⟩
      rw [hmessage, value_zeros]
      exact hval
    rw [← hmessage] at hpre
    cases u.side with
    | signing =>
      simp only [AsymSign_ok, hpre, Option.some.injEq, exists_eq_left', hle, true_and, forall_const]
      rw [session.key.getOutputLength_eq, Session.signs, hmulti, if_neg (by decide), hmech,
        OSSLRSA.sign, hkey, ← u.key.k_eq_iff, ← hlen]
      by_cases heq : message.length = u.key.n.length
      · rw [if_neg (not_not.2 heq)]
        have hsigned := (signs_iff hE (show Padding.RSA_NO_PADDING.Plain from trivial)).2 hfits
        rw [← hlen] at hsigned
        exact ⟨fun _ => heq, fun _ => hsigned⟩
      · rw [if_pos heq]
        exact ⟨fun ⟨s, hs, _⟩ => (nomatch hs), fun h => absurd h heq⟩
    | verifying =>
      simp only [AsymVerify_ok, hpre, Option.some.injEq, exists_eq_left', hle, true_and,
        reduceCtorEq, false_implies, iff_true]
      rw [session.key.getOutputLength_eq, hkey]
      have hne : message ≠ [] := by
        intro h0
        rw [h0] at hlen
        exact absurd hlen.symm (Nat.one_le_iff_ne_zero.1 hone)
      obtain ⟨s, hs, hverified⟩ :=
        (verifies_iff hE (show Padding.RSA_NO_PADDING.Plain from trivial) hne).2 hfits
      refine ⟨s, hs, ?_⟩
      rw [Session.verifies, hmulti, if_neg (by decide), hmech, OSSLRSA.verify, hkey]
      exact hverified
  · have hpre : (prepended session session.key.getOutputLength u.pData.bytes).value = none := by
      rw [prepended_raw hmech, hkey]
      exact if_neg hle
    cases u.side with
    | signing => simp [AsymSign_ok, hpre, hle]
    | verifying => simp [AsymVerify_ok, hpre, hle]

end Raw

section Pkcs

variable {E : EVP} {u : Use} {session : Session}

lemma counts_pkcs (hmech : session.mechanism = .RSA_PKCS) (hkey : session.key = u.key)
    (hmulti : session.allowMultiPartOp = false) :
    u.Counts E session ↔ (u.side = .signing → 11 ≤ u.key.n.length) := by
  have hraw : session.mechanism ≠ .RSA := by
    rw [hmech]
    exact AsymMech.noConfusion
  unfold Use.Counts
  cases u.side with
  | signing =>
    simp only [AsymSign_wraps, prepended_other hraw, Option.some.injEq, true_and, forall_eq',
      forall_const]
    rw [Session.signs, hmulti, if_neg (by decide), hmech, OSSLRSA.sign, hkey]
    rw [← difference_wraps]
    split_ifs <;> exact Iff.rfl
  | verifying =>
    simp only [AsymVerify_wraps, prepended_other hraw, Option.some.injEq, true_and, forall_eq',
      reduceCtorEq, false_implies, iff_true]
    intro s _
    rw [Session.verifies, hmulti, if_neg (by decide), hmech, OSSLRSA.verify]

/-- The backend refuses what the stored length lets through. -/
lemma call_pkcs (hE : E.Correct) (hmech : session.mechanism = .RSA_PKCS) (hkey : session.key = u.key)
    (hmulti : session.allowMultiPartOp = false) (hside : u.side = .signing)
    (hlen : 11 ≤ u.key.n.length) :
    u.call E session ↔ u.pData.bytes.length + 11 ≤ k u.key := by
  have hraw : session.mechanism ≠ .RSA := by
    rw [hmech]
    exact AsymMech.noConfusion
  have hk := u.key.k_le
  have hallowed : (difference u.key.n.length 11).value = u.key.n.length - 11 :=
    difference_value hlen (by have := u.key.length_lt; omega)
  have hsigned :=
    @signs_iff E hE u.key (.RSA_PKCS1_PADDING none) u.pData.bytes trivial
  unfold Use.call
  rw [hside]
  simp only [AsymSign_ok, prepended_other hraw, Option.some.injEq, exists_eq_left']
  rw [session.key.getOutputLength_eq, Session.signs, hmulti, if_neg (by decide), hmech,
    OSSLRSA.sign, hkey]
  by_cases hlt : (difference u.key.n.length 11).value < u.pData.bytes.length
  · rw [if_pos hlt]
    rw [hallowed] at hlt
    exact ⟨fun ⟨s, hs, _⟩ => (nomatch hs), fun h => by omega⟩
  · rw [if_neg hlt]
    exact hsigned

end Pkcs

section Salt

variable {E : EVP} {u : Use} {session : Session} {param : RSAPssMechanismParam}

lemma getBitLength_lt (key : RSAKey) : key.getBitLength < 2 ^ 32 := by
  have hle := bits_le key.n
  have := key.bignum
  rw [RSAKey.getBitLength]
  omega

lemma saltRoom_wraps_iff (key : RSAKey) (h : ℕ) :
    (saltRoom key.getBitLength h).wraps = false ↔ h + 2 ≤ emLen key := by
  rw [saltRoom_wraps (getBitLength_lt key), key.emLen_eq]

lemma lt_saltRoom_iff {key : RSAKey} {h sLen : ℕ} (hle : h + 2 ≤ emLen key) :
    (saltRoom key.getBitLength h).value < sLen ↔ ¬h + sLen + 2 ≤ emLen key := by
  rw [saltRoom_value (getBitLength_lt key) (by rw [key.emLen_eq]; exact hle), key.emLen_eq]
  omega

/-- Where there is room for the hash, the salt is one that the backend is told of. -/
lemma fits_salt {key : RSAKey} {tbs : ByteString} {sLen : ℕ} {md mgf : HashAlgo}
    (hfit : md.size + sLen + 2 ≤ emLen key) (htbs : tbs.length = md.size) :
    (Padding.RSA_PKCS1_PSS_PADDING md mgf (toInt sLen)).Plain ∧
      Fits key tbs (.RSA_PKCS1_PSS_PADDING md mgf (toInt sLen)) := by
  have hk := key.k_le
  have hem := key.emLen_le
  have hlen := key.length_lt
  have hint : toInt sLen = sLen := toInt_of_lt (by omega)
  rw [hint]
  refine ⟨Int.natCast_nonneg sLen, htbs, ?_⟩
  rw [Int.toNat_natCast]
  exact hfit

lemma rawPss_eq (key : RSAKey) {data : ByteString} (hmgf : param.mgfAlg = param.hashAlg)
    (hhash : param.hashAlg ≠ .MD5) (hdata : data.length = param.hashAlg.size) :
    rawPss key (some param) data =
      ⟨if (saltRoom key.getBitLength param.hashAlg.size).value < param.sLen then none
        else some (.RSA_PKCS1_PSS_PADDING param.hashAlg param.mgfAlg (toInt param.sLen)),
        (saltRoom key.getBitLength param.hashAlg.size).wraps⟩ := by
  have hmd5 : ¬(param.hashAlg = .MD5 ∨ param.hashAlg = .MD5) := fun h => h.elim hhash hhash
  rw [rawPss, hmgf, if_neg hmd5, if_neg (not_not.2 hdata)]
  dsimp only
  split_ifs <;> rfl

lemma rawPss_ne (key : RSAKey) {data : ByteString} (hdata : data.length ≠ param.hashAlg.size) :
    rawPss key (some param) data = ⟨none, false⟩ := by
  rw [rawPss]
  split_ifs <;> rfl

lemma counts_salt (hmech : session.mechanism = .RSA_PKCS_PSS) (hkey : session.key = u.key)
    (hparam : session.mechanismParam = some param) (hmulti : session.allowMultiPartOp = false)
    (hmgf : param.mgfAlg = param.hashAlg) (hhash : param.hashAlg ≠ .MD5) :
    u.Counts E session ↔
      (u.pData.bytes.length = param.hashAlg.size → param.hashAlg.size + 2 ≤ emLen u.key) := by
  have hraw : session.mechanism ≠ .RSA := by
    rw [hmech]
    exact AsymMech.noConfusion
  have hpss : (rawPss u.key (some param) u.pData.bytes).wraps = false ↔
      (u.pData.bytes.length = param.hashAlg.size → param.hashAlg.size + 2 ≤ emLen u.key) := by
    by_cases hdata : u.pData.bytes.length = param.hashAlg.size
    · rw [rawPss_eq u.key hmgf hhash hdata, saltRoom_wraps_iff]
      exact ⟨fun h _ => h, fun h => h hdata⟩
    · rw [rawPss_ne u.key hdata]
      exact ⟨fun _ h => absurd h hdata, fun _ => rfl⟩
  rw [← hpss]
  unfold Use.Counts
  cases u.side with
  | signing =>
    simp only [AsymSign_wraps, prepended_other hraw, Option.some.injEq, true_and, forall_eq']
    rw [Session.signs, hmulti, if_neg (by decide), hmech, OSSLRSA.sign, hparam, hkey]
  | verifying =>
    simp only [AsymVerify_wraps, prepended_other hraw, Option.some.injEq, true_and, forall_eq',
      Session.verifies, hmulti, Bool.false_eq_true, if_false, hmech, OSSLRSA.verify, hparam, hkey]
    exact ⟨fun h => h (List.replicate u.key.getOutputLength 0) (List.length_replicate ..),
      fun h _ _ => h⟩

lemma size_pos (h : HashAlgo) : 0 < h.size := by
  cases h <;> decide

lemma call_salt (hE : E.Correct) (hmech : session.mechanism = .RSA_PKCS_PSS)
    (hkey : session.key = u.key) (hparam : session.mechanismParam = some param)
    (hmulti : session.allowMultiPartOp = false) (hmgf : param.mgfAlg = param.hashAlg)
    (hhash : param.hashAlg ≠ .MD5) (hdata : u.pData.bytes.length = param.hashAlg.size)
    (hroom : param.hashAlg.size + 2 ≤ emLen u.key) :
    u.call E session ↔ param.hashAlg.size + param.sLen + 2 ≤ emLen u.key := by
  have hraw : session.mechanism ≠ .RSA := by
    rw [hmech]
    exact AsymMech.noConfusion
  have hpos := size_pos param.hashAlg
  have hne : u.pData.bytes ≠ [] := List.ne_nil_of_length_pos (by omega)
  have hpss := rawPss_eq u.key hmgf hhash hdata
  unfold Use.call
  by_cases hfit : param.hashAlg.size + param.sLen + 2 ≤ emLen u.key
  · obtain ⟨hplain, hfits⟩ := @fits_salt _ _ _ _ param.mgfAlg hfit hdata
    rw [if_neg (by rw [lt_saltRoom_iff hroom]; exact not_not.2 hfit)] at hpss
    cases u.side with
    | signing =>
      simp only [AsymSign_ok, prepended_other hraw, Option.some.injEq, exists_eq_left', hfit, iff_true]
      rw [session.key.getOutputLength_eq, Session.signs, hmulti, if_neg (by decide), hmech,
        OSSLRSA.sign, hparam, hkey, hpss]
      exact (signs_iff hE hplain).2 hfits
    | verifying =>
      simp only [AsymVerify_ok, prepended_other hraw, Option.some.injEq, exists_eq_left', hfit, iff_true]
      rw [session.key.getOutputLength_eq, hkey]
      obtain ⟨s, hs, hverified⟩ := (verifies_iff hE hplain hne).2 hfits
      refine ⟨s, hs, ?_⟩
      rw [Session.verifies, hmulti, if_neg (by decide), hmech, OSSLRSA.verify, hparam, hkey, hpss]
      exact hverified
  · rw [if_pos ((lt_saltRoom_iff hroom).2 hfit)] at hpss
    cases u.side with
    | signing =>
      simp only [AsymSign_ok, prepended_other hraw, Option.some.injEq, exists_eq_left', hfit, iff_false]
      rw [Session.signs, hmulti, if_neg (by decide), hmech, OSSLRSA.sign, hparam, hkey, hpss]
      rintro ⟨s, hs, -⟩
      cases hs
    | verifying =>
      simp only [AsymVerify_ok, prepended_other hraw, Option.some.injEq, exists_eq_left', hfit, iff_false]
      rintro ⟨s, -, hs⟩
      rw [Session.verifies, hmulti, if_neg (by decide), hmech, OSSLRSA.verify, hparam, hkey,
        hpss] at hs
      cases hs

/-- A mechanism that hashes compares when it is initialised, on both sides alike. -/
lemma hashInit_salt (key : RSAKey) {mech : AsymMech} (hmech : hashed mech = some (param.hashAlg, true))
    (hmgf : param.mgfAlg = param.hashAlg) :
    ((hashInit key mech (some param)).wraps = false ↔ param.hashAlg.size + 2 ≤ emLen key) ∧
      (param.hashAlg.size + 2 ≤ emLen key →
        ((hashInit key mech (some param)).value.isSome = true ↔
          param.hashAlg.size + param.sLen + 2 ≤ emLen key)) := by
  rw [← saltRoom_wraps_iff]
  unfold hashInit
  rw [hmech]
  dsimp only
  have hself : ¬(param.hashAlg ≠ param.hashAlg ∨ param.hashAlg ≠ param.hashAlg) := by simp
  rw [hmgf, if_neg hself]
  constructor
  · split_ifs <;> exact Iff.rfl
  · intro hroom
    rw [saltRoom_wraps_iff] at hroom
    have hlt := @lt_saltRoom_iff _ _ param.sLen hroom
    split_ifs with h
    · exact ⟨fun h0 => (nomatch h0), fun hfit => absurd hfit (hlt.1 h)⟩
    · exact ⟨fun _ => not_not.1 fun hfit => h (hlt.2 hfit), fun _ => rfl⟩

end Salt

/-! ### All mechanisms -/

section All

variable {E : EVP} {u : Use}

/-- Nothing is asked of a use that none of the comparisons is made for. -/
lemma lengths_of_none (hx509 : u.mechanism ≠ CKM_RSA_X_509) (hpkcs : u.mechanism ≠ CKM_RSA_PKCS)
    (hsalt : ∀ mech param multi,
      rsaMechanism u.mechanism u.pParameter ≠ .ok (mech, some param, multi))
    (hinit : u.init.wraps = false)
    (hcounts : ∀ session, u.init.value = .ok session → u.Counts E session) :
    LengthsByValue E u ∧ Fitting u :=
  ⟨⟨fun h => absurd h hx509, fun _ h => absurd h hpkcs, fun _ _ h => absurd h.1 (hsalt _ _ _),
    fun _ _ h => absurd h.1 (hsalt _ _ _), fun _ _ _ h hs => signature_length h hs,
    hinit, hcounts⟩,
    ⟨fun h => absurd h hx509, fun _ h => absurd h hpkcs, fun _ _ _ h => absurd h.1 (hsalt _ _ _)⟩⟩

lemma lengths_x509 (hE : E.Correct) (hmech : u.mechanism = CKM_RSA_X_509) :
    LengthsByValue E u ↔ Fitting u := by
  have hask : rsaMechanism u.mechanism u.pParameter = .ok (.RSA, none, false) := by
    rw [hmech, rsaMechanism_x509]
  have hpkcs : u.mechanism ≠ CKM_RSA_PKCS := by
    rw [hmech]
    decide
  have hsalt : ∀ mech param multi,
      rsaMechanism u.mechanism u.pParameter ≠ .ok (mech, some param, multi) := by
    rintro mech param multi h
    rw [hask] at h
    cases h
  have hinit := init_single hask
  have hcounts := @counts_x509 E u ⟨u.key, .RSA, none, false, none⟩ rfl rfl rfl
  have haccepted : Tlv.value u.pData.bytes < Tlv.value u.key.n →
      (u.Accepted E ↔ u.pData.bytes.length ≤ k u.key ∧
        (u.side = .signing → u.key.n.head? ≠ some 0)) := by
    intro hval
    unfold Use.Accepted
    simp only [hinit, Except.ok.injEq, exists_eq_left']
    exact call_x509 hE rfl rfl rfl hval
  constructor
  · intro h
    have hle := hcounts.1 (h.noWrap.2 _ (congrArg Unsigned.value hinit))
    exact ⟨fun _ => ⟨hle, fun hside hval => ((haccepted hval).1 ((h.x509 hmech hval).2 hle)).2 hside⟩,
      fun _ h0 => absurd h0 hpkcs, fun _ _ _ h0 => absurd h0.1 (hsalt _ _ _)⟩
  · intro h
    obtain ⟨hle, hhead⟩ := h.x509 hmech
    refine ⟨fun _ hval => ?_, fun _ h0 => absurd h0 hpkcs, fun _ _ h0 => absurd h0.1 (hsalt _ _ _),
      fun _ _ h0 => absurd h0.1 (hsalt _ _ _), fun _ _ _ h0 hs => signature_length h0 hs, ?_, ?_⟩
    · rw [haccepted hval]
      exact ⟨fun h0 => h0.1, fun h0 => ⟨h0, fun hside => hhead hside hval⟩⟩
    · rw [hinit]
    · intro session hs
      rw [hinit] at hs
      cases hs
      exact hcounts.2 hle

lemma lengths_pkcs (hE : E.Correct) (hmech : u.mechanism = CKM_RSA_PKCS) :
    LengthsByValue E u ↔ Fitting u := by
  have hask : rsaMechanism u.mechanism u.pParameter = .ok (.RSA_PKCS, none, false) := by
    rw [hmech, rsaMechanism_pkcs]
  have hx509 : u.mechanism ≠ CKM_RSA_X_509 := by
    rw [hmech]
    decide
  have hsalt : ∀ mech param multi,
      rsaMechanism u.mechanism u.pParameter ≠ .ok (mech, some param, multi) := by
    rintro mech param multi h
    rw [hask] at h
    cases h
  have hinit := init_single hask
  have hcounts := @counts_pkcs E u ⟨u.key, .RSA_PKCS, none, false, none⟩ rfl rfl rfl
  constructor
  · intro h
    exact ⟨fun h0 => absurd h0 hx509,
      fun hside _ => hcounts.1 (h.noWrap.2 _ (congrArg Unsigned.value hinit)) hside,
      fun _ _ _ h0 => absurd h0.1 (hsalt _ _ _)⟩
  · intro h
    refine ⟨fun h0 => absurd h0 hx509, fun hside _ => ?_, fun _ _ h0 => absurd h0.1 (hsalt _ _ _),
      fun _ _ h0 => absurd h0.1 (hsalt _ _ _), fun _ _ _ h0 hs => signature_length h0 hs, ?_, ?_⟩
    · unfold Use.Accepted
      simp only [hinit, Except.ok.injEq, exists_eq_left']
      exact call_pkcs hE rfl rfl rfl hside (h.pkcs hside hmech)
    · rw [hinit]
    · intro session hs
      rw [hinit] at hs
      cases hs
      exact hcounts.2 fun hside => h.pkcs hside hmech

lemma lengths_salt (hE : E.Correct) {param : RSAPssMechanismParam}
    (hask : rsaMechanism u.mechanism u.pParameter = .ok (.RSA_PKCS_PSS, some param, false))
    (hx509 : u.mechanism ≠ CKM_RSA_X_509) (hpkcs : u.mechanism ≠ CKM_RSA_PKCS)
    (hmgf : param.mgfAlg = param.hashAlg) (hhash : param.hashAlg ≠ .MD5) :
    LengthsByValue E u ↔ Fitting u := by
  have hinit := init_single hask
  have hcounts := @counts_salt E u ⟨u.key, .RSA_PKCS_PSS, some param, false, none⟩ param rfl rfl rfl rfl
    hmgf hhash
  have hparam : ∀ mech param' multi, u.Salted mech param' multi → mech = .RSA_PKCS_PSS ∧
      param' = param ∧ multi = false ∧ u.pData.bytes.length = param.hashAlg.size := by
    rintro mech param' multi ⟨h, hdata⟩
    rw [hask] at h
    cases h
    exact ⟨rfl, rfl, rfl, hdata rfl⟩
  constructor
  · intro h
    refine ⟨fun h0 => absurd h0 hx509, fun _ h0 => absurd h0 hpkcs, fun _ _ _ h0 => ?_⟩
    obtain ⟨-, rfl, -, hdata⟩ := hparam _ _ _ h0
    exact hcounts.1 (h.noWrap.2 _ (congrArg Unsigned.value hinit)) hdata
  · intro h
    have hroom : u.pData.bytes.length = param.hashAlg.size →
        param.hashAlg.size + 2 ≤ emLen u.key := fun hdata => h.salt _ _ _ ⟨hask, fun _ => hdata⟩
    refine ⟨fun h0 => absurd h0 hx509, fun _ h0 => absurd h0 hpkcs, fun _ _ h0 => ?_,
      fun _ _ h0 => ?_, fun _ _ _ h0 hs => signature_length h0 hs, ?_, ?_⟩
    · exact nomatch (hparam _ _ _ h0).2.2.1
    · obtain ⟨-, rfl, -, hdata⟩ := hparam _ _ _ h0
      unfold Use.Accepted
      simp only [hinit, Except.ok.injEq, exists_eq_left']
      exact call_salt hE rfl rfl rfl rfl hmgf hhash hdata (hroom hdata)
    · rw [hinit]
    · intro session hs
      rw [hinit] at hs
      cases hs
      exact hcounts.2 hroom

lemma lengths_hashSalt {mech : AsymMech} {param : RSAPssMechanismParam}
    (hask : rsaMechanism u.mechanism u.pParameter = .ok (mech, some param, true))
    (hx509 : u.mechanism ≠ CKM_RSA_X_509) (hpkcs : u.mechanism ≠ CKM_RSA_PKCS)
    (hmech : hashed mech = some (param.hashAlg, true)) (hmgf : param.mgfAlg = param.hashAlg)
    (hraw : mech ≠ .RSA) : LengthsByValue E u ↔ Fitting u := by
  have hinit := init_multi hask
  obtain ⟨hwraps, hsome⟩ := hashInit_salt u.key hmech hmgf
  have hok : (∃ session, u.init.value = .ok session) ↔
      (hashInit u.key mech (some param)).value.isSome = true := by
    rw [hinit]
    cases (hashInit u.key mech (some param)).value <;> simp
  have hparam : ∀ mech' param' multi, u.Salted mech' param' multi →
      mech' = mech ∧ param' = param ∧ multi = true := by
    rintro mech' param' multi ⟨h, -⟩
    rw [hask] at h
    cases h
    exact ⟨rfl, rfl, rfl⟩
  constructor
  · intro h
    refine ⟨fun h0 => absurd h0 hx509, fun _ h0 => absurd h0 hpkcs, fun _ _ _ h0 => ?_⟩
    obtain ⟨-, rfl, -⟩ := hparam _ _ _ h0
    have hwrap := h.noWrap.1
    rw [hinit] at hwrap
    exact hwraps.1 hwrap
  · intro h
    have hroom := h.salt mech param true ⟨hask, fun h0 => (nomatch h0)⟩
    refine ⟨fun h0 => absurd h0 hx509, fun _ h0 => absurd h0 hpkcs, fun _ _ h0 => ?_,
      fun _ _ h0 => ?_, fun _ _ _ h0 hs => signature_length h0 hs, ?_,
      fun session hs => counts_multi hask hraw hs⟩
    · obtain ⟨-, rfl, -⟩ := hparam _ _ _ h0
      rw [hok]
      exact hsome hroom
    · exact nomatch (hparam _ _ _ h0).2.2
    · rw [hinit]
      exact hwraps.2 hroom

end All

/-! ### A backend -/

instance (key : RSAKey) (tbs : ByteString) : (pad : Padding) → Decidable (Fits key tbs pad)
  | .RSA_NO_PADDING => inferInstanceAs (Decidable (_ ∧ _))
  | .RSA_PKCS1_PADDING none => inferInstanceAs (Decidable (_ ≤ _))
  | .RSA_PKCS1_PADDING (some _) => inferInstanceAs (Decidable (_ ∧ _))
  | .RSA_PKCS1_PSS_PADDING _ _ _ => inferInstanceAs (Decidable (_ ∧ _))

/-- The signature of a number is compared with it; of what is padded, only the length counts. -/
def recovered (key : RSAKey) (sig tbs : ByteString) : Padding → Bool
  | .RSA_NO_PADDING => Tlv.value sig ^ key.e % Tlv.value key.n == Tlv.value tbs
  | _ => true

def textbook : EVP where
  EVP_PKEY_sign key pad siglen tbs :=
    if k key ≤ siglen ∧ Fits key tbs pad then
      some (bigEndian (k key) (Tlv.value tbs ^ key.d % Tlv.value key.n))
    else none
  EVP_PKEY_verify key pad sig tbs := decide (Fits key tbs pad) && recovered key sig tbs pad
  digest h _ := List.replicate h.size 0

lemma value_lt_k (key : RSAKey) : Tlv.value key.n < 256 ^ k key := by
  have hlt : Tlv.value key.n < 2 ^ bitLength key.n := (Nat.log2_lt key.positive.ne').1 (Nat.lt_succ_self _)
  have hle : bitLength key.n ≤ 8 * k key := by
    rw [k]
    omega
  calc Tlv.value key.n < 2 ^ bitLength key.n := hlt
    _ ≤ 2 ^ (8 * k key) := Nat.pow_le_pow_right (by decide) hle
    _ = 256 ^ k key := by rw [Nat.pow_mul]

lemma textbook_correct : textbook.Correct where
  signs key pad siglen tbs _ hle hfits := by
    simp [textbook, hle, hfits]
  fits key pad siglen tbs sig h := by
    simp only [textbook, Option.ite_none_right_eq_some, Option.some.injEq] at h
    obtain ⟨⟨-, hfits⟩, rfl⟩ := h
    exact ⟨hfits, length_bigEndian _ _⟩
  verifies key pad siglen tbs sig _ _ h := by
    simp only [textbook, Option.ite_none_right_eq_some, Option.some.injEq] at h
    obtain ⟨⟨-, hfits⟩, rfl⟩ := h
    simp only [textbook, hfits, decide_true, Bool.true_and]
    cases pad with
    | RSA_NO_PADDING =>
      have hlt : Tlv.value tbs ^ key.d % Tlv.value key.n < 256 ^ k key :=
        (Nat.mod_lt _ key.positive).trans (value_lt_k key)
      rw [recovered, value_bigEndian, Nat.mod_eq_of_lt hlt, key.inverse _ hfits.2]
      exact beq_self_eq_true _
    | RSA_PKCS1_PADDING md => rfl
    | RSA_PKCS1_PSS_PADDING md mgf1 saltlen => rfl
  recovers key pad sig tbs h := by
    simp only [textbook, Bool.and_eq_true, decide_eq_true_eq] at h
    exact h.1

/-- The modulus 33, stored with zeros in front or without. -/
def smallKey (zeros : ℕ) (h : zeros < 8) : RSAKey where
  n := List.replicate zeros 0 ++ [33]
  e := 3
  d := 7
  positive := by
    rw [value_zeros]
    decide
  bignum := by
    rw [List.length_append, List.length_replicate, List.length_singleton]
    omega
  inverse := by
    rw [value_zeros]
    decide

end SoftHSM.RSA
