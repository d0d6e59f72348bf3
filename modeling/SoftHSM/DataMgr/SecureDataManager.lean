import Mathlib.Data.List.Basic
import Mathlib.Logic.Function.Iterate

/-!
The secure data manager of a token: one 32-byte key, kept in memory under a mask that
changes at every use, and sealed in two blobs, one under the SO PIN and one under the user
PIN. SHA-256, AES-CBC and the random number generator are parameters; the byte strings, the
derivation of RFC 4880 and the operations of the manager are those of the source.
-/

namespace SoftHSM

abbrev ByteString := List UInt8

namespace ByteString

/-- `substr(start, len)`. -/
def substr (b : ByteString) (start len : ℕ) : ByteString := (b.drop start).take len

/-- `substr(start)`. -/
def substrFrom (b : ByteString) (start : ℕ) : ByteString := b.drop start

/-- `operator^=`: the bytes that both strings have are combined, the others stay. -/
def xorAssign (b rhs : ByteString) : ByteString :=
  b.zipWith (· ^^^ ·) rhs ++ b.drop rhs.length

@[simp] lemma length_xorAssign (b rhs : ByteString) :
    (xorAssign b rhs).length = b.length := by
  simp only [xorAssign, List.length_append, List.length_zipWith, List.length_drop]
  omega

lemma zipWith_xor_self (b rhs : ByteString) (h : b.length = rhs.length) :
    (b.zipWith (· ^^^ ·) rhs).zipWith (· ^^^ ·) rhs = b := by
  induction b generalizing rhs with
  | nil => simp
  | cons x xs ih =>
    cases rhs with
    | nil => simp at h
    | cons y ys =>
      have hxs := ih ys (by simpa using h)
      simp only [List.zipWith_cons_cons, hxs, List.cons.injEq, and_true]
      rw [UInt8.xor_assoc, UInt8.xor_self, UInt8.xor_zero]

/-- Combining twice with one string of the same length changes nothing. -/
lemma xorAssign_cancel {b rhs : ByteString} (h : b.length = rhs.length) :
    xorAssign (xorAssign b rhs) rhs = b := by
  have h1 : b.drop rhs.length = [] := by simp [h]
  have h2 : (b.zipWith (· ^^^ ·) rhs).drop rhs.length = [] := by simp [h]
  simp only [xorAssign, h1, List.append_nil, h2]
  exact zipWith_xor_self b rhs h

end ByteString

open ByteString

/-- What the manager takes from outside: SHA-256, and AES-256 in CBC mode with padding, over
whole messages. -/
structure Primitives where
  hash : ByteString → ByteString
  encrypt : ByteString → ByteString → ByteString → ByteString
  decrypt : ByteString → ByteString → ByteString → Option ByteString

/-- `aes->getBlockSize()`. -/
def blockSize : ℕ := 16

def PBE_ITERATION_BASE_COUNT : ℕ := 1500

/-- The random bytes of one call, one stream for each place that draws some. -/
structure Draws where
  mask : ℕ → UInt8
  key : ℕ → UInt8
  salt : ℕ → UInt8
  IV : ℕ → UInt8
  remask : ℕ → UInt8

def generateRandom (stream : ℕ → UInt8) (n : ℕ) : ByteString := (List.range n).map stream

@[simp] lemma length_generateRandom (stream : ℕ → UInt8) (n : ℕ) :
    (generateRandom stream n).length = n := by simp [generateRandom]

/-- The primitives of `pbeEncryptKey` that fail in one call. -/
structure PbeFaults where
  salt : Bool
  derive : Bool
  IV : Bool
  encryptInit : Bool
  encryptMagic : Bool
  encryptKey : Bool
  encryptFinal : Bool
  deriving DecidableEq

def PbeFaults.none : PbeFaults := ⟨false, false, false, false, false, false, false⟩

namespace RFC4880

/-- The hash of salt and password, hashed again `iter - 1` times, where `iter` depends on the
last byte of the salt. -/
def PBEDeriveKey (P : Primitives) (password salt : ByteString) : Option ByteString :=
  if salt.length < 8 then none
  else if password.length = 0 then none
  else
    let iter := PBE_ITERATION_BASE_COUNT + (salt.getD (salt.length - 1) 0).toNat
    some (P.hash^[iter - 1] (P.hash (salt ++ password)))

end RFC4880

structure SecureDataManager where
  userEncryptedKey : ByteString
  soEncryptedKey : ByteString
  soLoggedIn : Bool
  userLoggedIn : Bool
  maskedKey : ByteString
  mask : ByteString
  deriving DecidableEq

namespace SecureDataManager

open RFC4880

/-- `ByteString("524A52")`. -/
def magic : ByteString := [0x52, 0x4A, 0x52]

/-- A manager over two stored blobs; a blank one has none. -/
def create (r : Draws) (soPINBlob userPINBlob : ByteString) : SecureDataManager where
  userEncryptedKey := userPINBlob
  soEncryptedKey := soPINBlob
  soLoggedIn := false
  userLoggedIn := false
  maskedKey := []
  mask := generateRandom r.mask 32

def blank (r : Draws) : SecureDataManager := create r [] []

def unmask (m : SecureDataManager) : ByteString := xorAssign m.maskedKey m.mask

def remask (stream : ℕ → UInt8) (key : ByteString) (m : SecureDataManager) :
    SecureDataManager :=
  let mask := generateRandom stream 32
  { m with mask := mask, maskedKey := xorAssign key mask }

variable (P : Primitives)

/-- The bytes that a CBC encryption has put out after `n` bytes of input: whole blocks. -/
def wholeBlocks (n : ℕ) : ℕ := n / blockSize * blockSize

/-- Seals the current key under a passphrase, in the place of the blob passed. The result
says whether it succeeded; the blob is overwritten as far as the call came. -/
def pbeEncryptKey (f : PbeFaults) (r : Draws) (passphrase encryptedKey : ByteString)
    (m : SecureDataManager) : Bool × ByteString × SecureDataManager :=
  if f.salt then (false, encryptedKey, m)
  else
    let salt := generateRandom r.salt 8
    match if f.derive then none else PBEDeriveKey P passphrase salt with
    | none => (false, encryptedKey, m)
    | some pbeKey =>
      if f.IV then (false, salt, m)
      else
        let IV := generateRandom r.IV blockSize
        if f.encryptInit || f.encryptMagic then (false, salt ++ IV, m)
        else
          -- the magic alone is less than a block, so nothing is put out for it
          let key := unmask m
          let data := P.encrypt pbeKey IV (magic ++ key)
          let blocks := data.take (wholeBlocks (magic ++ key).length)
          let m := remask r.remask key m
          if f.encryptKey then (false, salt ++ IV, m)
          else if f.encryptFinal then (false, salt ++ IV ++ blocks, m)
          else (true, salt ++ IV ++ data, m)

def setSOPIN (f : PbeFaults) (r : Draws) (soPIN : ByteString) (m : SecureDataManager) :
    Bool × SecureDataManager :=
  if soPIN.length = 0 then (false, m)
  else if m.soEncryptedKey.length > 0 && !m.soLoggedIn then (false, m)
  else
    -- a blank token gets its key here
    let m := if m.soEncryptedKey.length = 0 then
        remask r.mask (generateRandom r.key 32) m else m
    let (rv, blob, m) := pbeEncryptKey P f r soPIN m.soEncryptedKey m
    (rv, { m with soEncryptedKey := blob })

def setUserPIN (f : PbeFaults) (r : Draws) (userPIN : ByteString) (m : SecureDataManager) :
    Bool × SecureDataManager :=
  if !m.soLoggedIn && !m.userLoggedIn then (false, m)
  else if userPIN.length = 0 then (false, m)
  else
    let (rv, blob, m) := pbeEncryptKey P f r userPIN m.userEncryptedKey m
    (rv, { m with userEncryptedKey := blob })

/-- The key that a blob yields under a passphrase, when it shows the magic: the part that
`login` and `reAuthenticate` share. -/
def openBlob (passphrase encryptedKey : ByteString) : Option ByteString :=
  let salt := substr encryptedKey 0 8
  let IV := substr encryptedKey 8 blockSize
  let encryptedKeyData := substrFrom encryptedKey (8 + blockSize)
  match PBEDeriveKey P passphrase salt with
  | none => none
  | some pbeKey =>
    match P.decrypt pbeKey IV encryptedKeyData with
    | none => none
    | some decryptedKeyData =>
      if substr decryptedKeyData 0 3 ≠ magic then none
      else some (substrFrom decryptedKeyData 3)

def logout (m : SecureDataManager) : SecureDataManager :=
  { m with soLoggedIn := false, userLoggedIn := false, maskedKey := [] }

def login (r : Draws) (passphrase encryptedKey : ByteString) (m : SecureDataManager) :
    Bool × SecureDataManager :=
  let m := logout m
  match openBlob P passphrase encryptedKey with
  | none => (false, m)
  | some key => (true, remask r.remask key m)

def loginSO (r : Draws) (soPIN : ByteString) (m : SecureDataManager) :
    Bool × SecureDataManager :=
  let (rv, m) := login P r soPIN m.soEncryptedKey m
  (rv, { m with soLoggedIn := rv })

def loginUser (r : Draws) (userPIN : ByteString) (m : SecureDataManager) :
    Bool × SecureDataManager :=
  let (rv, m) := login P r userPIN m.userEncryptedKey m
  (rv, { m with userLoggedIn := rv })

def reAuthenticate (passphrase encryptedKey : ByteString) : Bool :=
  (openBlob P passphrase encryptedKey).isSome

def reAuthenticateSO (soPIN : ByteString) (m : SecureDataManager) : Bool :=
  reAuthenticate P soPIN m.soEncryptedKey

def reAuthenticateUser (userPIN : ByteString) (m : SecureDataManager) : Bool :=
  reAuthenticate P userPIN m.userEncryptedKey

def decrypt (r : Draws) (encrypted : ByteString) (m : SecureDataManager) :
    Option ByteString × SecureDataManager :=
  if (!m.userLoggedIn && !m.soLoggedIn) || m.maskedKey.length != 32 then (none, m)
  else if encrypted.length = 0 then (some [], m)
  else
    let theKey := unmask m
    let m := remask r.remask theKey m
    let IV := substr encrypted 0 blockSize
    if IV.length ≠ blockSize then (none, m)
    else (P.decrypt theKey IV (substrFrom encrypted blockSize), m)

def encrypt (r : Draws) (plaintext : ByteString) (m : SecureDataManager) :
    Option ByteString × SecureDataManager :=
  if (!m.userLoggedIn && !m.soLoggedIn) || m.maskedKey.length != 32 then (none, m)
  else
    let theKey := unmask m
    let m := remask r.remask theKey m
    let IV := generateRandom r.IV blockSize
    (some (IV ++ P.encrypt theKey IV plaintext), m)

end SecureDataManager

end SoftHSM
