import Mathlib.Algebra.GroupWithZero.Nat
import Mathlib.Order.Nat
import SoftHSM.Cryptoki
import SoftHSM.Lib.Checked

/-!
The sizes that are told to a caller before anything is encrypted or decrypted, from the length of
what comes in and the number of the bytes still held. Beside each stands the same size counted
without a machine word, and what a cipher gives.
-/

namespace SoftHSM.Crypt

open Checked

inductive SymMode
  | Unknown | CBC | CFB | CTR | ECB | GCM | MGM | OFB | CTR_ACPKM
  deriving DecidableEq

def SymMode.isBlockCipher : SymMode → Bool
  | .CBC => true
  | .ECB => true
  | _ => false

/-- The blocks are those of the ciphers there are, and tags have at most the length of a block of
sixteen. No block mode is set up with a tag. -/
structure SymmetricAlgorithm where
  currentCipherMode : SymMode
  currentPaddingMode : Bool
  currentTagBytes : UInt64
  currentBufferSize : UInt64
  blockSize : UInt64
  checkMaximumBytes : UInt64 → Bool
  blockSize_cases : blockSize = 8 ∨ blockSize = 16
  tagBytes_le : currentTagBytes.toNat ≤ 16
  tagBytes_of_block : currentCipherMode.isBlockCipher = true → currentTagBytes = 0

namespace SymmetricAlgorithm

variable (c : SymmetricAlgorithm)

def isBlockCipher : Bool := c.currentCipherMode.isBlockCipher

/-- The bytes of a block, those still held and those of the tag, as numbers. -/
def block : ℕ := c.blockSize.toNat

def held : ℕ := c.currentBufferSize.toNat

def tag : ℕ := c.currentTagBytes.toNat

lemma block_cases : c.block = 8 ∨ c.block = 16 := by
  rcases c.blockSize_cases with h | h <;> simp [block, h]

lemma held_lt : c.held < 2 ^ 64 := c.currentBufferSize.toNat_lt

lemma tag_of_block (h : c.isBlockCipher = true) : c.tag = 0 := by
  simp [tag, c.tagBytes_of_block h]

end SymmetricAlgorithm

structure Session where
  symmetricCryptoOp : Option SymmetricAlgorithm
  allowMultiPartOp : Bool
  allowSinglePartOp : Bool

def Session.resetOp (_ : Session) : Session := ⟨none, false, false⟩

/-- What a call leaves: its answer, the length at the caller's pointer and the session. -/
structure Reply where
  rv : CK_RV
  pulLen : UInt64
  session : Session

/-! ### The sizes -/

def SymEncrypt.maxSize (c : SymmetricAlgorithm) (ulDataLen : UInt64) : Except CK_RV UInt64 :=
  let maxSize := ulDataLen + c.currentTagBytes
  if c.isBlockCipher then
    let remainder := ulDataLen % c.blockSize
    if c.currentPaddingMode = false ∧ remainder ≠ 0 then .error .CKR_DATA_LEN_RANGE
    -- Round up to block size.
    else if remainder ≠ 0 then .ok (ulDataLen + c.blockSize - remainder)
    else if c.currentPaddingMode then .ok (ulDataLen + c.blockSize)
    else .ok maxSize
  else .ok maxSize

def SymEncryptUpdate.maxSize (c : SymmetricAlgorithm) (ulDataLen : UInt64) : UInt64 :=
  if c.isBlockCipher then
    let nrOfBlocks := toInt ((ulDataLen + c.currentBufferSize) / c.blockSize)
    ofInt nrOfBlocks * c.blockSize
  else ulDataLen + c.currentBufferSize

def SymEncryptFinal.size (c : SymmetricAlgorithm) : Except CK_RV UInt64 :=
  let remainingSize := c.currentBufferSize + c.currentTagBytes
  if c.isBlockCipher then
    if remainingSize % c.blockSize ≠ 0 ∧ c.currentPaddingMode = false then
      .error .CKR_DATA_LEN_RANGE
    else if c.currentPaddingMode then
      .ok ((remainingSize + c.blockSize) / c.blockSize * c.blockSize)
    else .ok remainingSize
  else .ok remainingSize

def SymDecrypt.maxSize (c : SymmetricAlgorithm) (ulEncryptedDataLen : UInt64) :
    Except CK_RV UInt64 :=
  if c.isBlockCipher ∧ ulEncryptedDataLen % c.blockSize ≠ 0 then
    .error .CKR_ENCRYPTED_DATA_LEN_RANGE
  else .ok ulEncryptedDataLen

/-- The byte that is left out where there is padding. -/
def paddingAdjustByte (c : SymmetricAlgorithm) : UInt64 := if c.currentPaddingMode then 1 else 0

def SymDecryptUpdate.maxSize (c : SymmetricAlgorithm) (ulEncryptedDataLen : UInt64) : UInt64 :=
  if c.isBlockCipher then
    let nrOfBlocks :=
      toInt ((ulEncryptedDataLen + c.currentBufferSize - paddingAdjustByte c) / c.blockSize)
    ofInt nrOfBlocks * c.blockSize
  else ulEncryptedDataLen + c.currentBufferSize

def SymDecryptFinal.size (c : SymmetricAlgorithm) : Except CK_RV UInt64 :=
  let remainingSize := c.currentBufferSize
  if c.isBlockCipher then
    if remainingSize % c.blockSize ≠ 0 then .error .CKR_ENCRYPTED_DATA_LEN_RANGE
    else .ok (remainingSize - paddingAdjustByte c)
  else .ok remainingSize

/-! ### The calls -/

/-- What the six calls have in common: a size is told, a buffer that is too short is not written
to, and the cipher works on the rest. `work` is given the size, the length of the buffer and what
the cipher gives. -/
def crypt {ω : Type} (allowed : Session → Bool) (size : SymmetricAlgorithm → Except CK_RV UInt64)
    (work : Session → SymmetricAlgorithm → UInt64 → UInt64 → ω → Reply) (session : Session)
    (buffer : Bool) (pulLen : UInt64) (given : ω) : Reply :=
  match session.symmetricCryptoOp with
  | none => ⟨.CKR_OPERATION_NOT_INITIALIZED, pulLen, session.resetOp⟩
  | some cipher =>
    if allowed session = false then ⟨.CKR_OPERATION_NOT_INITIALIZED, pulLen, session.resetOp⟩
    else match size cipher with
      | .error rv => ⟨rv, pulLen, session.resetOp⟩
      | .ok maxSize =>
        if buffer = false then ⟨.CKR_OK, maxSize, session⟩
        else if pulLen < maxSize then ⟨.CKR_BUFFER_TOO_SMALL, maxSize, session⟩
        else work session cipher maxSize pulLen given

/-- A size, where the cipher still takes that many bytes. -/
def withinMaximum (c : SymmetricAlgorithm) (bytes : UInt64) (rv : CK_RV)
    (size : Except CK_RV UInt64) : Except CK_RV UInt64 :=
  match size with
  | .error rv => .error rv
  | .ok maxSize => if c.checkMaximumBytes bytes then .ok maxSize else .error rv

/-- The cipher with what it has taken and given. -/
def SymmetricAlgorithm.updated (c : SymmetricAlgorithm) (taken : UInt64) (given : ℕ) :
    SymmetricAlgorithm :=
  { c with currentBufferSize := c.currentBufferSize + taken - UInt64.ofNat given }

/-- The encryption of a whole: what it gives is brought to the size that was told. -/
def SymEncrypt (session : Session) (ulDataLen : UInt64) :
    Bool → UInt64 → Option ℕ × Option ℕ → Reply :=
  crypt Session.allowSinglePartOp
    (fun c => withinMaximum c ulDataLen .CKR_DATA_LEN_RANGE (SymEncrypt.maxSize c ulDataLen))
    (fun session _ maxSize pulLen given =>
      match given.1, given.2 with
      | some _, some _ => ⟨.CKR_OK, maxSize, session.resetOp⟩
      | _, _ => ⟨.CKR_GENERAL_ERROR, pulLen, session.resetOp⟩) session

def SymEncryptUpdate (session : Session) (ulDataLen : UInt64) :
    Bool → UInt64 → Option ℕ → Reply :=
  crypt Session.allowMultiPartOp
    (fun c => withinMaximum c ulDataLen .CKR_DATA_LEN_RANGE
      (.ok (SymEncryptUpdate.maxSize c ulDataLen)))
    (fun session c _ pulLen given =>
      match given with
      | none => ⟨.CKR_GENERAL_ERROR, pulLen, session.resetOp⟩
      | some size =>
        -- Unrecoverable if too large.
        if pulLen.toNat < size then ⟨.CKR_GENERAL_ERROR, pulLen, session.resetOp⟩
        else ⟨.CKR_OK, UInt64.ofNat size,
          { session with symmetricCryptoOp := some (c.updated ulDataLen size) }⟩) session

def SymEncryptFinal (session : Session) : Bool → UInt64 → Option ℕ → Reply :=
  crypt Session.allowMultiPartOp SymEncryptFinal.size
    (fun session _ _ pulLen given =>
      match given with
      | none => ⟨.CKR_GENERAL_ERROR, pulLen, session.resetOp⟩
      | some size =>
        if pulLen.toNat < size then ⟨.CKR_GENERAL_ERROR, pulLen, session.resetOp⟩
        else ⟨.CKR_OK, UInt64.ofNat size, session.resetOp⟩) session

def SymDecrypt (session : Session) (ulEncryptedDataLen : UInt64) :
    Bool → UInt64 → Option ℕ × Option ℕ → Reply :=
  crypt Session.allowSinglePartOp
    (fun c => withinMaximum c ulEncryptedDataLen .CKR_ENCRYPTED_DATA_LEN_RANGE
      (SymDecrypt.maxSize c ulEncryptedDataLen))
    (fun session _ _ pulLen given =>
      match given.1, given.2 with
      | some size, some sizeFinal =>
        ⟨.CKR_OK, UInt64.ofNat (min (size + sizeFinal) ulEncryptedDataLen.toNat), session.resetOp⟩
      | _, _ => ⟨.CKR_ENCRYPTED_DATA_INVALID, pulLen, session.resetOp⟩) session

def SymDecryptUpdate (session : Session) (ulEncryptedDataLen : UInt64) :
    Bool → UInt64 → Option ℕ → Reply :=
  crypt Session.allowMultiPartOp
    (fun c => withinMaximum c ulEncryptedDataLen .CKR_ENCRYPTED_DATA_LEN_RANGE
      (.ok (SymDecryptUpdate.maxSize c ulEncryptedDataLen)))
    (fun session c _ pulLen given =>
      match given with
      | none => ⟨.CKR_ENCRYPTED_DATA_INVALID, pulLen, session.resetOp⟩
      | some size =>
        if pulLen.toNat < size then ⟨.CKR_ENCRYPTED_DATA_LEN_RANGE, pulLen, session.resetOp⟩
        else ⟨.CKR_OK, UInt64.ofNat size,
          { session with symmetricCryptoOp := some (c.updated ulEncryptedDataLen size) }⟩) session

def SymDecryptFinal (session : Session) : Bool → UInt64 → Option ℕ → Reply :=
  crypt Session.allowMultiPartOp SymDecryptFinal.size
    (fun session _ _ pulLen given =>
      match given with
      | none => ⟨.CKR_ENCRYPTED_DATA_INVALID, pulLen, session.resetOp⟩
      | some size =>
        if pulLen.toNat < size then ⟨.CKR_ENCRYPTED_DATA_LEN_RANGE, pulLen, session.resetOp⟩
        else ⟨.CKR_OK, UInt64.ofNat size, session.resetOp⟩) session

/-! ### The same sizes without a word -/

/-- None where a sum or a product leaves the word, a difference would be negative or the number of
the blocks is not one of the numbers that are kept of it. -/
def SymEncrypt.exact (ulDataLen : ℕ) (c : SymmetricAlgorithm) : Option ℕ :=
  if c.isBlockCipher then
    if ulDataLen % c.block ≠ 0 then do
      let up ← add ulDataLen c.block
      sub up (ulDataLen % c.block)
    else if c.currentPaddingMode then add ulDataLen c.block
    else some ulDataLen
  else add ulDataLen c.tag

def SymEncryptUpdate.exact (ulDataLen : ℕ) (c : SymmetricAlgorithm) : Option ℕ := do
  let all ← add ulDataLen c.held
  if c.isBlockCipher then
    let nrOfBlocks ← int (all / c.block)
    mul nrOfBlocks c.block
  else some all

def SymEncryptFinal.exact (c : SymmetricAlgorithm) : Option ℕ := do
  let remainingSize ← add c.held c.tag
  if c.isBlockCipher ∧ c.currentPaddingMode then
    let up ← add remainingSize c.block
    mul (up / c.block) c.block
  else some remainingSize

def SymDecrypt.exact (ulEncryptedDataLen : ℕ) (_ : SymmetricAlgorithm) : Option ℕ :=
  some ulEncryptedDataLen

def SymDecryptUpdate.exact (ulEncryptedDataLen : ℕ) (c : SymmetricAlgorithm) : Option ℕ := do
  let all ← add ulEncryptedDataLen c.held
  if c.isBlockCipher then
    let counted ← sub all (paddingAdjustByte c).toNat
    let nrOfBlocks ← int (counted / c.block)
    mul nrOfBlocks c.block
  else some all

def SymDecryptFinal.exact (c : SymmetricAlgorithm) : Option ℕ :=
  if c.isBlockCipher then sub c.held (paddingAdjustByte c).toNat else some c.held

/-! ### What a cipher gives -/

namespace SymmetricAlgorithm

variable (c : SymmetricAlgorithm)

/-- The most that comes out while more may come in, of so many bytes: whole blocks, and where
padding is to be taken off, not the last one. -/
def most (decrypting : Bool) (all : ℕ) : ℕ :=
  if c.isBlockCipher then
    if decrypting && c.currentPaddingMode then (all - 1) / c.block * c.block
    else all / c.block * c.block
  else all

/-- A cipher may hold back what it takes, up to all of it. -/
def Updates (decrypting : Bool) (all given : ℕ) : Prop :=
  given ≤ c.most decrypting all ∧ (c.isBlockCipher = true → c.block ∣ given)

/-- What the end of an encryption gives of the bytes still held: an encryption fails for nothing
but a block that is not full. -/
def EncryptFinals (held : ℕ) (given : Option ℕ) : Prop :=
  given =
    if c.isBlockCipher then
      if c.currentPaddingMode then some ((held / c.block + 1) * c.block)
      else if c.block ∣ held then some held else none
    else some (held + c.tag)

/-- What the end of a decryption gives, where the padding and the tag are right. -/
def DecryptFinals (held : ℕ) (given : Option ℕ) : Prop :=
  if c.isBlockCipher then
    c.block ∣ held ∧
      if c.currentPaddingMode then
        0 < held ∧ ∃ padding, 1 ≤ padding ∧ padding ≤ c.block ∧ given = some (held - padding)
      else given = some held
  else c.tag ≤ held ∧ given = some (held - c.tag)

/-- An update that the cipher does not fail. -/
def UpdateGives (decrypting : Bool) (taken : ℕ) (given : Option ℕ) : Prop :=
  ∃ size, given = some size ∧ c.Updates decrypting (taken + c.held) size

/-- One update and the end. -/
def WholeGives (decrypting : Bool) (taken : ℕ) (given : Option ℕ × Option ℕ) : Prop :=
  ∃ size, given.1 = some size ∧ c.Updates decrypting (taken + c.held) size ∧
    if decrypting then c.DecryptFinals (taken + c.held - size) given.2
    else c.EncryptFinals (taken + c.held - size) given.2

end SymmetricAlgorithm

/-- What comes out of an update or an end, and of both. -/
def produced (given : Option ℕ) : ℕ := given.getD 0

def producedWhole (given : Option ℕ × Option ℕ) : ℕ := produced given.1 + produced given.2

/-- **What is asked** of the size that a call tells: it is the size counted without a word, no less
than what the cipher then gives and no more than the bytes there are, a block and the tag; and with
a buffer of that size the call succeeds. -/
def Sound {ω : Type} (call : Bool → UInt64 → ω → Reply) (session : Session)
    (exact : SymmetricAlgorithm → Option ℕ) (taken : ℕ) (gives : SymmetricAlgorithm → ω → Prop)
    (produced : ω → ℕ) : Prop :=
  ∀ c ∈ session.symmetricCryptoOp, ∀ pulLen given₀,
    (call false pulLen given₀).rv = .CKR_OK →
    exact c = some (call false pulLen given₀).pulLen.toNat ∧
    (call false pulLen given₀).pulLen.toNat ≤ taken + c.held + c.block + c.tag ∧
    ∀ given, gives c given →
      produced given ≤ (call false pulLen given₀).pulLen.toNat ∧
      (call true (call false pulLen given₀).pulLen given).rv = .CKR_OK

/-! ### Keys that are not symmetric -/

inductive AsymMech
  | Unknown | RSA | RSA_MD5_PKCS | RSA_PKCS | RSA_PKCS_OAEP
  | RSA_SHA1_PKCS | RSA_SHA224_PKCS | RSA_SHA256_PKCS | RSA_SHA384_PKCS | RSA_SHA512_PKCS
  | RSA_PKCS_PSS | RSA_SHA1_PKCS_PSS | RSA_SHA224_PKCS_PSS | RSA_SHA256_PKCS_PSS
  | RSA_SHA384_PKCS_PSS | RSA_SHA512_PKCS_PSS | RSA_SSL
  | DSA | DSA_SHA1 | DSA_SHA224 | DSA_SHA256 | DSA_SHA384 | DSA_SHA512
  | ECDSA | ECDSA_SHA1 | ECDSA_SHA224 | ECDSA_SHA256 | ECDSA_SHA384 | ECDSA_SHA512
  | GOST | GOST_GOST | GOST_512 | GOST_GOST_512 | EDDSA | MLDSA | MLKEM
  deriving DecidableEq

/-- A session with an operation, and the length of what its key puts out. -/
structure AsymSession where
  asymmetricCryptoOp : Bool
  mechanism : AsymMech
  outputLength : Option UInt64
  allowSinglePartOp : Bool
  reAuthentication : Bool

/-- What a call leaves: its answer, the length at the caller's pointer, and how many zeros are put
before the data, where it comes to that. -/
structure AsymReply where
  rv : CK_RV
  pulLen : UInt64
  zeros : Option UInt64

/-- The input may be shorter than the modulus, so that zeros are put before it. -/
def zeros (mechanism : AsymMech) (size ulDataLen : UInt64) : UInt64 :=
  if mechanism = .RSA then size - ulDataLen else 0

/-- `given` is the length of what the operation gives. -/
def AsymEncrypt (session : AsymSession) (ulDataLen : UInt64) (buffer : Bool) (pulLen : UInt64)
    (given : Option ℕ) : AsymReply :=
  match session.outputLength with
  | none => ⟨.CKR_OPERATION_NOT_INITIALIZED, pulLen, none⟩
  | some size =>
    if session.asymmetricCryptoOp = false ∨ session.allowSinglePartOp = false then
      ⟨.CKR_OPERATION_NOT_INITIALIZED, pulLen, none⟩
    else if buffer = false then ⟨.CKR_OK, size, none⟩
    else if pulLen < size then ⟨.CKR_BUFFER_TOO_SMALL, size, none⟩
    else if given = some size.toNat then
      ⟨.CKR_OK, size, some (zeros session.mechanism size ulDataLen)⟩
    else ⟨.CKR_GENERAL_ERROR, pulLen, some (zeros session.mechanism size ulDataLen)⟩

/-- `gost` is whether the library was built with the signatures of 2012. -/
def AsymSign (gost : Bool) (session : AsymSession) (ulDataLen : UInt64) (buffer : Bool)
    (pulLen : UInt64) (given : Option ℕ) : AsymReply :=
  match session.outputLength with
  | none => ⟨.CKR_OPERATION_NOT_INITIALIZED, pulLen, none⟩
  | some size =>
    if session.asymmetricCryptoOp = false ∨ session.allowSinglePartOp = false then
      ⟨.CKR_OPERATION_NOT_INITIALIZED, pulLen, none⟩
    else if session.reAuthentication then ⟨.CKR_USER_NOT_LOGGED_IN, pulLen, none⟩
    else if buffer = false then ⟨.CKR_OK, size, none⟩
    else if pulLen < size then ⟨.CKR_BUFFER_TOO_SMALL, size, none⟩
    -- One digest is signed, and nothing else.
    else if gost = true ∧ session.mechanism = .GOST ∧ ulDataLen ≠ 32 then
      ⟨.CKR_DATA_LEN_RANGE, pulLen, none⟩
    else if given = some size.toNat then
      ⟨.CKR_OK, size, some (zeros session.mechanism size ulDataLen)⟩
    else ⟨.CKR_GENERAL_ERROR, pulLen, some (zeros session.mechanism size ulDataLen)⟩

/-- The zeros of a call are what the input lacks of the length of the output. -/
def ZerosSound (call : Bool → UInt64 → Option ℕ → AsymReply) (session : AsymSession)
    (ulDataLen : UInt64) : Prop :=
  ∀ buffer pulLen given z, (call buffer pulLen given).zeros = some z →
    session.mechanism = .RSA →
    ∃ size, session.outputLength = some size ∧ sub size.toNat ulDataLen.toNat = some z.toNat

/-! ### What is held in a run -/

section Runs

variable {c : SymmetricAlgorithm} {decrypting : Bool}

lemma most_le (decrypting : Bool) (all : ℕ) : c.most decrypting all ≤ all := by
  have hdiv := Nat.div_mul_le_self all c.block
  have hdiv' := Nat.div_mul_le_self (all - 1) c.block
  unfold SymmetricAlgorithm.most
  split_ifs <;> omega

/-- Updates that a cipher gives, each with what it takes and what comes out. -/
def Run (decrypting : Bool) (c : SymmetricAlgorithm) : List (UInt64 × ℕ) → Prop
  | [] => True
  | (taken, given) :: us =>
    c.Updates decrypting (taken.toNat + c.held) given ∧ Run decrypting (c.updated taken given) us

def SymmetricAlgorithm.after (c : SymmetricAlgorithm) (us : List (UInt64 × ℕ)) :
    SymmetricAlgorithm :=
  us.foldl (fun c u => c.updated u.1 u.2) c

def received (us : List (UInt64 × ℕ)) : ℕ := (us.map fun u => u.1.toNat).sum

def returned (us : List (UInt64 × ℕ)) : ℕ := (us.map Prod.snd).sum

lemma held_updated {taken : UInt64} {given : ℕ} (hlt : taken.toNat + c.held < 2 ^ 64)
    (hle : given ≤ taken.toNat + c.held) :
    (c.updated taken given).held = taken.toNat + c.held - given := by
  have hcomm : c.currentBufferSize.toNat + taken.toNat = taken.toNat + c.held := Nat.add_comm _ _
  have hadd : (c.currentBufferSize + taken).toNat = taken.toNat + c.held := by
    rw [toNat_add (by rw [hcomm]; exact hlt), hcomm]
  have hgiven : (UInt64.ofNat given).toNat = given := by
    rw [UInt64.toNat_ofNat', Nat.mod_eq_of_lt (Nat.lt_of_le_of_lt hle hlt)]
  change (c.currentBufferSize + taken - UInt64.ofNat given).toNat = _
  rw [toNat_sub (by rw [hadd, hgiven]; exact hle), hadd, hgiven]

/-- What is held in a run is what has come in and has not gone out, while that can be counted. -/
theorem held_after {us : List (UInt64 × ℕ)} (hrun : Run decrypting c us)
    (hlt : c.held + received us < 2 ^ 64) :
    (c.after us).held + returned us = c.held + received us := by
  induction us generalizing c with
  | nil => rfl
  | cons u us ih =>
    obtain ⟨taken, given⟩ := u
    obtain ⟨hu, hrest⟩ := hrun
    have hr : received ((taken, given) :: us) = taken.toNat + received us := rfl
    have hg : returned ((taken, given) :: us) = given + returned us := rfl
    have hle := hu.1.trans (most_le (c := c) decrypting _)
    rw [hr] at hlt ⊢
    have hheld := held_updated (c := c) (by omega) hle
    have hih := ih hrest (by omega)
    have hafter : c.after ((taken, given) :: us) = (c.updated taken given).after us := rfl
    rw [hafter, hg]
    omega

/-- A decryption with padding holds something as soon as something has come in, so that the size
of its end is right. -/
theorem held_pos_after {us : List (UInt64 × ℕ)} (hb : c.isBlockCipher = true)
    (hp : c.currentPaddingMode = true) (hrun : Run true c us)
    (hlt : c.held + received us < 2 ^ 64) (hpos : 0 < c.held + received us) :
    0 < (c.after us).held := by
  induction us generalizing c with
  | nil => exact hpos
  | cons u us ih =>
    obtain ⟨taken, given⟩ := u
    obtain ⟨⟨hmost, -⟩, hrest⟩ := hrun
    have hr : received ((taken, given) :: us) = taken.toNat + received us := rfl
    have hdiv := Nat.div_mul_le_self (taken.toNat + c.held - 1) c.block
    have hless : given ≤ taken.toNat + c.held - 1 := by
      simp only [SymmetricAlgorithm.most, hb, hp, if_true, Bool.and_self] at hmost
      omega
    rw [hr] at hlt hpos
    have hle : given ≤ taken.toNat + c.held := by omega
    have hheld := held_updated (c := c) (by omega) hle
    exact ih (c := c.updated taken given) hb hp hrest (by omega) (by omega)

end Runs

end SoftHSM.Crypt
