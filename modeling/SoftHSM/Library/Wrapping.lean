import SoftHSM.Library.UnwrapTotal

/-!
Keys that are wrapped, up to the bytes of the blob, and the way back. The ciphers of the two
directions are parameters, and so is what comes before the bytes of the key are there; that one
direction undoes the other is asked of them where it is used.
-/

namespace SoftHSM.Unwrap

open CK_RV Create Access File

/-! ### Wrapping -/

def RFC3394Pad (keydata : ByteString) : ByteString :=
  let alignment := keydata.length % 8
  if alignment ≠ 0 then keydata ++ List.replicate (8 - alignment) 0 else keydata

/-- The other direction of a chained cipher without padding. -/
structure CbcEncryption where
  encryptInit : Bool
  encryptUpdate : ByteString → Option ByteString
  encryptFinal : ByteString → Option ByteString

/-- A symmetric key at work in both directions. -/
structure WrappingKey extends Symmetric where
  aesEncryption : CbcEncryption
  des3Encryption : CbcEncryption
  /-- The cipher under `OSSLAES::wrapUnwrapKey`, without and with padding. -/
  keyWrapping : Bool → ByteString → Option ByteString
  encryptBlock : ByteString → ByteString

variable (supported : List CK_MECHANISM_TYPE) (b : Build)

/-- The first byte of the initial vector is asked for, also where its length is 0. -/
def CbcEncryption.encrypt (cipher : CbcEncryption) (blocksize : ℕ) (keydata : ByteString) :
    Run CK_RV ByteString := do
  let _ ← elementAt (List.replicate blocksize (0 : UInt8)) 0
  require (cipher.encryptInit = true) CKR_MECHANISM_INVALID
  let wrapped ← given (cipher.encryptUpdate keydata) CKR_GENERAL_ERROR
  let encryptedFinal ← given (cipher.encryptFinal keydata) CKR_GENERAL_ERROR
  return wrapped ++ encryptedFinal

/-- `OSSLAES::wrapKey`. Only without padding are lengths looked at. -/
def wrapKey (s : WrappingKey) (pad : Bool) (keydata : ByteString) : Option ByteString :=
  if pad || checkLength keydata.length 16 then s.keyWrapping pad keydata else none

/-- A text under a stream of bytes. -/
def masked (stream : ℕ → UInt8) (text : ByteString) : ByteString :=
  text.mapIdx fun i byte => byte ^^^ stream i

def wrapKexp15 (s : WrappingKey) (m : Mechanism) (block : ℕ) (ukm keydata : ByteString) :
    Run CK_RV ByteString := do
  passes m.parameter
  require (keydata.length = 32) CKR_KEY_SIZE_RANGE
  require (s.twinKey = true) CKR_GENERAL_ERROR
  let tag ← given (s.omac (ukm ++ keydata)) CKR_GENERAL_ERROR
  let plain := keydata ++ (List.range block).map tag
  let stream ← given s.ctr CKR_GENERAL_ERROR
  return masked stream plain

/-- So many blocks of eight bytes, from an offset on. -/
def eachBlock (f : ByteString → ByteString) (text : ByteString) (offset : ℕ) :
    ℕ → Run CK_RV ByteString
  | 0 => return []
  | count + 1 => do
    let block ← slice text offset 8
    let rest ← eachBlock f text (offset + 8) count
    return f block ++ rest

def wrapGOST28147 (s : WrappingKey) (m : Mechanism) (ukm keydata : ByteString) :
    Run CK_RV ByteString := do
  passes m.parameter
  require (keydata.length = 32) CKR_KEY_SIZE_RANGE
  require (s.gost28147 = true) CKR_GENERAL_ERROR
  let wrapped ← eachBlock s.encryptBlock keydata 0 4
  let mac ← macBlocks s.toSymmetric keydata 0 4 fun i => ukm.getD i 0
  return wrapped ++ (List.range 4).map mac

def WrapKeySym (s : WrappingKey) (m : Mechanism) (ukm keydata : ByteString) :
    Run CK_RV ByteString :=
  if m.mechanism = CKM_KUZNECHIK_KEXP_15_WRAP then wrapKexp15 s m 16 ukm keydata
  else if m.mechanism = CKM_MAGMA_KEXP_15_WRAP then wrapKexp15 s m 8 ukm keydata
  else if m.mechanism = CKM_GOST28147_KEY_WRAP then wrapGOST28147 s m ukm keydata
  else if b.HAVE_AES_KEY_WRAP = true ∧ m.mechanism = CKM_AES_KEY_WRAP then do
    let keydata := RFC3394Pad keydata
    require (16 ≤ keydata.length ∧ keydata.length % 8 = 0) CKR_KEY_SIZE_RANGE
    passes s.getSymmetricKey
    given (wrapKey s false keydata) CKR_GENERAL_ERROR
  else if b.HAVE_AES_KEY_WRAP_PAD = true ∧ m.mechanism = CKM_AES_KEY_WRAP_PAD then do
    passes s.getSymmetricKey
    given (wrapKey s true keydata) CKR_GENERAL_ERROR
  else if m.mechanism = CKM_AES_CBC then do
    passes s.getSymmetricKey
    s.aesEncryption.encrypt 16 keydata
  else if m.mechanism = CKM_AES_CBC_PAD then do
    passes s.getSymmetricKey
    s.aesEncryption.encrypt 16 (RFC5652Pad keydata 16)
  else if m.mechanism = CKM_DES3_CBC then do
    -- The block size has not been set.
    passes s.getSymmetricKey
    s.des3Encryption.encrypt 0 keydata
  else if m.mechanism = CKM_DES3_CBC_PAD then do
    passes s.getSymmetricKey
    s.des3Encryption.encrypt 8 (RFC5652Pad keydata 8)
  else refuse CKR_MECHANISM_INVALID

/-- A public key at work, and the temporary key that is made for it: what making it comes to, its
bytes, and the key as it is used. -/
structure PublicKey where
  modulusBits : Option UInt64
  getRSAPublicKey : CK_RV
  oaepParam : CK_RV
  hashLen : UInt64
  encrypt : CK_MECHANISM_TYPE → ByteString → Option ByteString
  generateAES : CK_RV
  temporary : WrappingKey
  emphkeydata : ByteString

/-- The room that is left for a key is a word, and may wrap. -/
def WrapKeyAsym (p : PublicKey) (mechanism : CK_MECHANISM_TYPE) (keydata : ByteString) :
    Run CK_RV ByteString := do
  require (mechanism ∈ [CKM_RSA_PKCS, CKM_RSA_PKCS_OAEP]) CKR_MECHANISM_INVALID
  let bits ← given p.modulusBits CKR_GENERAL_ERROR
  let modulus_length := bits / 8
  if mechanism = CKM_RSA_PKCS then
    require (keydata.length ≤ (modulus_length - 11).toNat) CKR_KEY_SIZE_RANGE
  passes p.getRSAPublicKey
  if mechanism = CKM_RSA_PKCS_OAEP then
    passes p.oaepParam
    require (keydata.length ≤ (modulus_length - 2 - 2 * p.hashLen).toNat) CKR_KEY_SIZE_RANGE
  given (p.encrypt mechanism keydata) CKR_GENERAL_ERROR

def WrapMechRsaAesKw (p : PublicKey) (keydata : ByteString) : Run CK_RV ByteString := do
  passes p.generateAES
  let wrapped_2 ← WrapKeySym b p.temporary ⟨CKM_AES_KEY_WRAP_PAD, CKR_OK⟩ [] keydata
  let wrapped_1 ← WrapKeyAsym p CKM_RSA_PKCS_OAEP p.emphkeydata
  return wrapped_1 ++ wrapped_2

/-- What a call is given: the mechanism and its parameter, what the checks of access to the two keys
come to, what reading the bytes of the second comes to, and what the first one does. -/
structure Order where
  mechanism : Mechanism
  ukm : ByteString
  wrapKey : AttributeMap
  wrapAccess : CK_RV
  key : AttributeMap
  keyAccess : CK_RV
  keydata : Run CK_RV ByteString
  symmetric : WrappingKey
  asymmetric : PublicKey

/-- The blob of `C_WrapKey`. -/
def Order.blob (o : Order) : Run CK_RV ByteString := do
  require ((look (wrapMechanisms b) o.mechanism.mechanism).isSome = true) CKR_MECHANISM_INVALID
  passes o.mechanism.parameter
  passes o.wrapAccess
  passes (wrapKeyCheck CKO_PUBLIC_KEY CKR_WRAPPING_KEY_TYPE_INCONSISTENT o.mechanism.mechanism
    o.wrapKey)
  require (o.wrapKey.getBooleanValue CKA_WRAP false = true) CKR_KEY_FUNCTION_NOT_PERMITTED
  require (isMechanismPermitted supported (some o.wrapKey) o.mechanism.mechanism = true)
    CKR_MECHANISM_INVALID
  passes o.keyAccess
  passes (wrappedCheck b o.mechanism.mechanism o.wrapKey o.key)
  let keydata ← o.keydata
  require (keydata.length ≠ 0) CKR_KEY_NOT_WRAPPABLE
  if o.mechanism.mechanism = CKM_RSA_AES_KEY_WRAP then WrapMechRsaAesKw b o.asymmetric keydata
  else if keyClass o.wrapKey = CKO_SECRET_KEY then
    WrapKeySym b o.symmetric o.mechanism o.ukm keydata
  else WrapKeyAsym o.asymmetric o.mechanism.mechanism keydata

/-- `C_WrapKey`: the answer, `*pulWrappedKeyLen` and what is in the buffer of so many bytes. -/
def C_WrapKey (o : Order) (room : Option ℕ) : Run CK_RV (CK_RV × ℕ × Option ByteString) := do
  let wrapped ← o.blob supported b
  match room with
  | none => return (CKR_OK, wrapped.length, none)
  | some room =>
    if wrapped.length ≤ room then return (CKR_OK, wrapped.length, some wrapped)
    else return (CKR_BUFFER_TOO_SMALL, wrapped.length, none)

/-! ### The directions of one key -/

/-- What is asked of the ciphers: each direction undoes the other, and the wrapping of keys adds a
block to whole blocks. -/
structure WrappingKey.Inverse (s : WrappingKey) : Prop where
  aes : ∀ k w, s.aesEncryption.encrypt 16 k = .ok w ↔ s.aes.decrypt w = .ok k
  des3 : ∀ k w, s.des3Encryption.encrypt 8 k = .ok w ↔ s.des3.decrypt w = .ok k
  keyWrapping : ∀ pad k w, s.keyWrapping pad k = some w ↔ s.keyWrap pad w = some k
  length_keyWrapping : ∀ pad k w, s.keyWrapping pad k = some w →
    w.length = (k.length + 7) / 8 * 8 + 8 ∧ k ≠ [] ∧ (pad = false → 8 ∣ k.length)
  length_encryptBlock : ∀ block, (s.encryptBlock block).length = 8
  decrypt_encrypt : s.gost28147 = true → ∀ block, block.length = 8 →
    s.decryptBlock (s.encryptBlock block) = block
  encrypt_decrypt : s.gost28147 = true → ∀ block, block.length = 8 →
    s.encryptBlock (s.decryptBlock block) = block

@[simp] lemma length_masked (stream : ℕ → UInt8) (text : ByteString) :
    (masked stream text).length = text.length := List.length_mapIdx

@[simp] lemma masked_masked (stream : ℕ → UInt8) (text : ByteString) :
    masked stream (masked stream text) = text := by
  refine List.ext_getElem (by simp) fun i hi hi' => ?_
  simp only [masked, List.getElem_mapIdx]
  rw [UInt8.xor_assoc, UInt8.xor_self, UInt8.xor_zero]

/-- The loop compares the bytes behind the key with the code. -/
lemma sameTag_eq (tag : ℕ → UInt8) (plain : ByteString) (i count : ℕ)
    (h : 32 + i + count ≤ plain.length) :
    ∃ same, sameTag tag plain i count = .ok same ∧
      (same = true ↔ (plain.drop (32 + i)).take count =
        (List.range count).map fun j => tag (i + j)) := by
  induction count generalizing i with
  | zero => exact ⟨true, rfl, by simp⟩
  | succ count ih =>
    obtain ⟨same, hsame, hiff⟩ := ih (i + 1) (by omega)
    have hi : 32 + i < plain.length := by omega
    refine ⟨tag i == plain[32 + i] && same, ?_, ?_⟩
    · rw [sameTag, elementAt_of_lt hi, ok_bind, hsame]
      rfl
    · have hshift (j : ℕ) : i + 1 + j = i + j.succ := by omega
      rw [List.drop_eq_getElem_cons hi, List.take_succ_cons, List.range_succ_eq_map, List.map_cons,
        List.map_map, List.cons.injEq, Bool.and_eq_true, beq_iff_eq, hiff, Nat.add_zero]
      simp only [Function.comp_def, hshift, ← Nat.add_assoc]
      exact and_congr_left' eq_comm

section Blocks

lemma decryptBlocks_eq (s : Symmetric) (wrapped : ByteString) (offset count : ℕ) :
    decryptBlocks s wrapped offset count = eachBlock s.decryptBlock wrapped offset count := by
  induction count generalizing offset with
  | zero => rfl
  | succ count ih => simp only [decryptBlocks, eachBlock, ih]

variable {f f' : ByteString → ByteString}

lemma length_of_eachBlock (hf : ∀ block, (f block).length = 8) {text out : ByteString}
    {offset count : ℕ} (h : eachBlock f text offset count = .ok out) : out.length = 8 * count := by
  induction count generalizing offset out with
  | zero => exact congrArg List.length (Except.ok.inj h).symm
  | succ count ih =>
    obtain ⟨block, -, h⟩ := of_bind h
    obtain ⟨rest, hrest, h⟩ := of_bind h
    obtain rfl := Except.ok.inj h
    rw [List.length_append, hf, ih hrest]
    omega

/-- **Block by block** one direction takes back what the other one made, wherever that lies. -/
lemma eachBlock_eachBlock (hf : ∀ block, (f block).length = 8)
    (hinv : ∀ block, block.length = 8 → f' (f block) = block) {text out : ByteString}
    {offset count : ℕ} (h : eachBlock f text offset count = .ok out) (pre post : ByteString) :
    eachBlock f' (pre ++ out ++ post) pre.length count =
      .ok ((text.drop offset).take (8 * count)) := by
  induction count generalizing offset out pre with
  | zero => rfl
  | succ count ih =>
    obtain ⟨block, hblock, h⟩ := of_bind h
    obtain ⟨rest, hrest, h⟩ := of_bind h
    obtain rfl := Except.ok.inj h
    obtain ⟨hle, hslice⟩ := of_slice hblock
    have hlen : block.length = 8 := by
      rw [hslice, List.length_take, List.length_drop]
      omega
    have hnext := ih hrest (pre ++ f block)
    rw [List.length_append, hf] at hnext
    have hassoc : pre ++ (f block ++ rest) ++ post = pre ++ f block ++ rest ++ post := by
      rw [List.append_assoc pre (f block) rest]
    have hhere : (slice (pre ++ f block ++ rest ++ post) pre.length 8 : Run CK_RV ByteString) =
        .ok (f block) := by
      rw [slice_of_le (by simp only [List.length_append, hf]; omega), List.append_assoc,
        List.append_assoc, List.drop_left, List.take_left' (hf block)]
    rw [eachBlock, hassoc, hhere, ok_bind, hnext, ok_bind, hinv block hlen, hslice,
      show 8 * (count + 1) = 8 + 8 * count by omega, List.take_add, List.drop_drop]
    rfl

lemma eachBlock_ok (f : ByteString → ByteString) (text : ByteString) (offset count : ℕ)
    (h : offset + 8 * count ≤ text.length) : ∃ out, eachBlock f text offset count = .ok out := by
  induction count generalizing offset with
  | zero => exact ⟨[], rfl⟩
  | succ count ih =>
    obtain ⟨rest, hrest⟩ := ih (offset + 8) (by omega)
    exact ⟨_, by rw [eachBlock, slice_of_le (by omega), ok_bind, hrest, ok_bind]; rfl⟩

end Blocks

/-! ### Lengths as they are looked at -/

/-- A length as an `int`. -/
lemma toInt_checked (size : ℕ) :
    (Checked.toInt (UInt64.ofNat size)).toInt = (size : ℤ).bmod (2 ^ 32) := by
  have hnat : (Checked.toInt (UInt64.ofNat size)).toBitVec.toNat = size % 2 ^ 32 := by
    simp only [Checked.toInt, UInt32.toBitVec_toInt32, UInt32.toNat_toBitVec, UInt64.toNat_toUInt32,
      UInt64.toNat_ofNat']
    omega
  rw [← Int32.toInt_toBitVec, BitVec.toInt_eq_toNat_bmod, hnat, Int.natCast_mod]
  exact Int.emod_bmod ..

lemma checkLength_iff (size minsize : ℕ) :
    checkLength size minsize = true ↔
      (minsize : ℤ) ≤ (size : ℤ).bmod (2 ^ 32) ∧ 8 ∣ (size : ℤ).bmod (2 ^ 32) := by
  simp only [checkLength, toInt_checked, Bool.and_eq_true, Bool.not_eq_true', decide_eq_false_iff_not,
    not_lt, beq_iff_eq]
  rw [Int.dvd_iff_tmod_eq_zero]

lemma checkLength_of_bounds {size minsize : ℕ} (h : size < 2 ^ 31) (hmin : minsize ≤ size)
    (hdvd : 8 ∣ size) : checkLength size minsize = true := by
  rw [checkLength_iff, Int.bmod_def]
  omega

/-- What is long enough as a blob is long enough as a key. -/
lemma checkLength_sub {size : ℕ} (h : checkLength (size + 8) 24 = true) :
    checkLength size 16 = true := by
  rw [checkLength_iff, Int.bmod_def] at h ⊢
  omega

/-! ### Each mechanism -/

section Mechanisms

variable {s : WrappingKey} {m : Mechanism} {block : ℕ} {ukm k w : ByteString}

/-- What the export of a key is, whichever way it goes. -/
def IsKexp15 (s : WrappingKey) (m : Mechanism) (block : ℕ) (ukm k w : ByteString) : Prop :=
  m.parameter = CKR_OK ∧ k.length = 32 ∧ s.twinKey = true ∧
    ∃ tag, s.omac (ukm ++ k) = some tag ∧
      ∃ stream, s.ctr = some stream ∧ w = masked stream (k ++ (List.range block).map tag)

lemma wrapKexp15_ok_iff : wrapKexp15 s m block ukm k = .ok w ↔ IsKexp15 s m block ukm k w := by
  constructor
  · intro h
    obtain ⟨_, hparameter, h⟩ := of_bind h
    obtain ⟨_, hlen, h⟩ := of_bind h
    obtain ⟨_, htwin, h⟩ := of_bind h
    obtain ⟨tag, htag, h⟩ := of_bind h
    obtain ⟨stream, hstream, h⟩ := of_bind h
    exact ⟨of_passes hparameter, of_require hlen, of_require htwin, tag, of_given htag, stream,
      of_given hstream, (Except.ok.inj h).symm⟩
  · rintro ⟨hparameter, hlen, htwin, tag, htag, stream, hstream, rfl⟩
    simp only [wrapKexp15, passes, require, Access.given, if_pos hparameter, if_pos hlen,
      if_pos htwin, htag, hstream, ok_bind]
    rfl

/-- **An export is taken** just where it is the one that is made of the key in it. -/
lemma unwrapKexp15_ok_iff :
    unwrapKexp15 s.toSymmetric m block ukm w = .ok k ↔ IsKexp15 s m block ukm k w := by
  constructor
  · intro h
    obtain ⟨_, hparameter, h⟩ := of_bind h
    obtain ⟨_, hlen, h⟩ := of_bind h
    have hlen := of_require hlen
    obtain ⟨_, htwin, h⟩ := of_bind h
    obtain ⟨stream, hstream, h⟩ := of_bind h
    obtain ⟨key, hkey, h⟩ := of_bind h
    obtain ⟨tag, htag, h⟩ := of_bind h
    obtain ⟨same, hsame, h⟩ := of_bind h
    obtain ⟨_, hright, hk⟩ := of_bind h
    have hplain : (masked stream w).length = 32 + block := by rw [length_masked, hlen]
    obtain rfl := Except.ok.inj (hkey.symm.trans hk)
    obtain ⟨-, rfl⟩ := of_slice hkey
    obtain ⟨_, heq, hiff⟩ := sameTag_eq tag (masked stream w) 0 block (by omega)
    have htags := hiff.1 ((Except.ok.inj (heq.symm.trans hsame)).trans (of_require hright))
    simp only [Nat.add_zero, Nat.zero_add] at htags
    rw [List.take_of_length_le (by rw [List.length_drop]; omega)] at htags
    refine ⟨of_passes hparameter, ?_, of_require htwin, tag, of_given htag, stream,
      of_given hstream, ?_⟩
    · exact List.length_take_of_le ((Nat.le_add_right 32 block).trans_eq hplain.symm)
    · rw [← htags]
      exact (masked_masked stream w).symm.trans
        (congrArg _ (List.take_append_drop 32 (masked stream w)).symm)
  · rintro ⟨hparameter, hlen, htwin, tag, htag, stream, hstream, rfl⟩
    obtain ⟨plain, hplain⟩ : ∃ plain, plain = k ++ (List.range block).map tag := ⟨_, rfl⟩
    have hlength : plain.length = 32 + block := by simp [hplain, hlen]
    have hback : (masked stream plain).mapIdx (fun i byte => byte ^^^ stream i) = plain :=
      masked_masked stream plain
    have hkey : (slice plain 0 32 : Run CK_RV ByteString) = .ok k := by
      rw [slice_of_le (by omega), hplain, List.drop_zero, List.take_left' hlen]
    obtain ⟨same, heq, hiff⟩ := sameTag_eq tag plain 0 block (by omega)
    have hsame : same = true := by
      rw [hiff, hplain, Nat.add_zero, List.drop_left' hlen, List.take_of_length_le (by simp)]
      simp
    rw [← hplain]
    simp only [unwrapKexp15, passes, require, Access.given, if_pos hparameter, length_masked,
      if_pos hlength, if_pos htwin, hstream, ok_bind, hback, hkey, htag, heq, if_pos hsame]

/-- What the wrapping with the cipher of 1989 is, whichever way it goes. -/
def IsGOST28147 (s : WrappingKey) (m : Mechanism) (ukm k w : ByteString) : Prop :=
  m.parameter = CKR_OK ∧ k.length = 32 ∧ s.gost28147 = true ∧
    ∃ wrapped, eachBlock s.encryptBlock k 0 4 = .ok wrapped ∧
      ∃ mac, macBlocks s.toSymmetric k 0 4 (fun i => ukm.getD i 0) = .ok mac ∧
        w = wrapped ++ (List.range 4).map mac

lemma wrapGOST28147_ok_iff : wrapGOST28147 s m ukm k = .ok w ↔ IsGOST28147 s m ukm k w := by
  constructor
  · intro h
    obtain ⟨_, hparameter, h⟩ := of_bind h
    obtain ⟨_, hlen, h⟩ := of_bind h
    obtain ⟨_, hgost, h⟩ := of_bind h
    obtain ⟨wrapped, hwrapped, h⟩ := of_bind h
    obtain ⟨mac, hmac, h⟩ := of_bind h
    exact ⟨of_passes hparameter, of_require hlen, of_require hgost, wrapped, hwrapped, mac, hmac,
      (Except.ok.inj h).symm⟩
  · rintro ⟨hparameter, hlen, hgost, wrapped, hwrapped, mac, hmac, rfl⟩
    simp only [wrapGOST28147, passes, require, if_pos hparameter, if_pos hlen, if_pos hgost, hwrapped,
      hmac, ok_bind]
    rfl

lemma unwrapGOST28147_ok_iff (hs : s.Inverse) :
    unwrapGOST28147 s.toSymmetric m ukm w = .ok k ↔ IsGOST28147 s m ukm k w := by
  constructor
  · intro h
    obtain ⟨_, hparameter, h⟩ := of_bind h
    obtain ⟨_, hlen, h⟩ := of_bind h
    have hlen := of_require hlen
    obtain ⟨_, hgost, h⟩ := of_bind h
    obtain ⟨keydata, hkey, h⟩ := of_bind h
    obtain ⟨mac, hmac, h⟩ := of_bind h
    obtain ⟨same, hsame, h⟩ := of_bind h
    obtain ⟨_, hright, h⟩ := of_bind h
    obtain rfl := Except.ok.inj h
    rw [decryptBlocks_eq] at hkey
    have hback := eachBlock_eachBlock s.length_decryptBlock (hs.encrypt_decrypt (of_require hgost)) hkey
      [] []
    rw [List.nil_append, List.append_nil, List.drop_zero] at hback
    obtain ⟨_, heq, hiff⟩ := sameTag_eq mac w 0 4 (by omega)
    have htags := hiff.1 ((Except.ok.inj (heq.symm.trans hsame)).trans (of_require hright))
    simp only [Nat.add_zero, Nat.zero_add] at htags
    rw [List.take_of_length_le (by rw [List.length_drop]; omega)] at htags
    refine ⟨of_passes hparameter, length_of_eachBlock s.length_decryptBlock hkey, of_require hgost,
      _, hback, mac, hmac, ?_⟩
    rw [← htags, List.take_append_drop]
  · rintro ⟨hparameter, hlen, hgost, wrapped, hwrapped, mac, hmac, rfl⟩
    have hcount : wrapped.length = 32 := length_of_eachBlock hs.length_encryptBlock hwrapped
    have hback := eachBlock_eachBlock hs.length_encryptBlock (hs.decrypt_encrypt hgost) hwrapped []
      ((List.range 4).map mac)
    rw [List.drop_zero, List.take_of_length_le (by omega)] at hback
    have hkey : decryptBlocks s.toSymmetric (wrapped ++ (List.range 4).map mac) 0 4 = .ok k :=
      (decryptBlocks_eq ..).trans hback
    have hlength : (wrapped ++ (List.range 4).map mac).length = 36 := by simp [hcount]
    obtain ⟨same, heq, hiff⟩ :=
      sameTag_eq mac (wrapped ++ (List.range 4).map mac) 0 4 (by omega)
    have hsame : same = true := by
      rw [hiff, Nat.add_zero, List.drop_left' hcount, List.take_of_length_le (by simp)]
      simp
    simp only [unwrapGOST28147, passes, require, if_pos hparameter, if_pos hlength, if_pos hgost,
      ok_bind, hkey, hmac, heq, if_pos hsame]
    rfl

/-- What comes back of a key: with one mechanism it has been filled up with zeros. -/
def recovered (mechanism : CK_MECHANISM_TYPE) (keydata : ByteString) : ByteString :=
  if mechanism = CKM_AES_KEY_WRAP then RFC3394Pad keydata else keydata

lemma RFC3394Pad_of_dvd (h : 8 ∣ k.length) : RFC3394Pad k = k := by
  rw [RFC3394Pad, if_neg (not_not.2 (Nat.mod_eq_zero_of_dvd h))]

lemma decryptPad_of_encrypt {b : Blocksize} {cipher : Cbc b.size} {cipher' : CbcEncryption}
    (hs : ∀ k w, cipher'.encrypt b.size k = .ok w ↔ cipher.decrypt w = .ok k) :
    cipher.decryptPad w = .ok k ↔ cipher'.encrypt b.size (RFC5652Pad k b.size) = .ok w := by
  rw [hs]
  constructor
  · intro h
    obtain ⟨keydata, hkey, h⟩ := of_bind h
    obtain ⟨unpadded, hunpad, h⟩ := of_bind h
    obtain rfl := of_given h
    rcases eq_or_ne keydata [] with rfl | hne
    · rw [RFC5652Unpad_nil] at hunpad
      cases hunpad
    · obtain ⟨r, hr, hpad⟩ := RFC5652Unpad_of_ne_nil (b := b) hne
      rw [hkey, hpad k (Except.ok.inj (hr.symm.trans hunpad))]
  · intro h
    rw [Cbc.decryptPad, h, ok_bind, RFC5652Unpad_pad, ok_bind]
    rfl

/-- The wrapping of keys, either way. A blob of 2 GiB is as long as a negative `int`. -/
lemma unwrapKey_of_wrapKey (hs : s.Inverse) {pad : Bool} (hw : w.length < 2 ^ 31)
    (h : wrapKey s pad k = some w) : unwrapKey s.toSymmetric pad w = some k := by
  rw [wrapKey] at h
  split_ifs at h with hcheck
  obtain ⟨hlen, hne, hdvd⟩ := hs.length_keyWrapping pad k w h
  have hpos := List.length_pos_of_ne_nil hne
  have hcheck' : checkLength w.length (if pad then 16 else 24) = true := by
    refine checkLength_of_bounds hw ?_ (by omega)
    cases pad with
    | true => simp only [if_true]; omega
    | false =>
      have := (checkLength_iff _ _).1 hcheck
      rw [Int.bmod_def] at this
      simp only [Bool.false_eq_true, if_false]
      omega
  rw [unwrapKey, if_pos hcheck']
  exact (hs.keyWrapping pad k w).1 h

lemma wrapKey_of_unwrapKey (hs : s.Inverse) {pad : Bool}
    (h : unwrapKey s.toSymmetric pad w = some k) : wrapKey s pad k = some w := by
  rw [unwrapKey] at h
  rw [wrapKey]
  by_cases hcheck : checkLength w.length (if pad then 16 else 24) = true
  · rw [if_pos hcheck] at h
    have h := (hs.keyWrapping pad k w).2 h
    obtain ⟨hlen, -, hdvd⟩ := hs.length_keyWrapping pad k w h
    cases pad with
    | true => exact h
    | false =>
      have hdvd := hdvd rfl
      rw [if_neg (by decide), show w.length = k.length + 8 by omega] at hcheck
      rw [checkLength_sub hcheck]
      exact h
  · rw [if_neg hcheck] at h
    cases h

lemma wrapKey_iff (hs : s.Inverse) {pad : Bool} (hw : w.length < 2 ^ 31) :
    wrapKey s pad k = some w ↔ unwrapKey s.toSymmetric pad w = some k :=
  ⟨unwrapKey_of_wrapKey hs hw, wrapKey_of_unwrapKey hs⟩

lemma length_of_unwrapKey (hs : s.Inverse) (h : unwrapKey s.toSymmetric false w = some k) :
    16 ≤ k.length ∧ 8 ∣ k.length := by
  have h := wrapKey_of_unwrapKey hs h
  rw [wrapKey, Bool.false_or] at h
  split_ifs at h with hcheck
  have := (checkLength_iff _ _).1 hcheck
  rw [Int.bmod_def] at this
  omega

lemma dvd_length_RFC3394Pad (keydata : ByteString) : 8 ∣ (RFC3394Pad keydata).length := by
  unfold RFC3394Pad
  dsimp only
  split_ifs with h
  · rw [List.length_append, List.length_replicate]
    omega
  · omega

lemma passes_bind_iff {rv : CK_RV} {x : Run CK_RV ByteString} {a : ByteString} :
    (passes rv >>= fun _ => x) = .ok a ↔ rv = CKR_OK ∧ x = .ok a := by
  constructor
  · intro h
    obtain ⟨_, hrv, h⟩ := of_bind h
    exact ⟨of_passes hrv, h⟩
  · rintro ⟨rfl, h⟩
    exact h

lemma given_ok_iff {x : Option ByteString} {e : CK_RV} {a : ByteString} :
    given x e = .ok a ↔ x = some a := by
  constructor
  · exact of_given
  · rintro rfl
    rfl

variable (b : Build)

/-- **A blob is unwrapped** just to the key that it is the wrapping of. Where keys are filled up,
that is a key of whole blocks. -/
theorem unwrapKeySym_iff (hs : s.Inverse) (hw : w.length < 2 ^ 31)
    (hk : m.mechanism = CKM_AES_KEY_WRAP → 8 ∣ k.length) :
    UnwrapKeySym b s.toSymmetric m ukm w = .ok k ↔ WrapKeySym b s m ukm k = .ok w := by
  unfold UnwrapKeySym WrapKeySym
  by_cases hkuz : m.mechanism = CKM_KUZNECHIK_KEXP_15_WRAP
  · rw [if_pos hkuz, if_pos hkuz, unwrapKexp15_ok_iff, wrapKexp15_ok_iff]
  rw [if_neg hkuz, if_neg hkuz]
  by_cases hmagma : m.mechanism = CKM_MAGMA_KEXP_15_WRAP
  · rw [if_pos hmagma, if_pos hmagma, unwrapKexp15_ok_iff, wrapKexp15_ok_iff]
  rw [if_neg hmagma, if_neg hmagma]
  by_cases hgost : m.mechanism = CKM_GOST28147_KEY_WRAP
  · rw [if_pos hgost, if_pos hgost, unwrapGOST28147_ok_iff hs, wrapGOST28147_ok_iff]
  rw [if_neg hgost, if_neg hgost]
  by_cases hwrap : b.HAVE_AES_KEY_WRAP = true ∧ m.mechanism = CKM_AES_KEY_WRAP
  · rw [if_pos hwrap, if_pos hwrap, passes_bind_iff, given_ok_iff]
    have hdvd := hk hwrap.2
    dsimp only
    rw [RFC3394Pad_of_dvd hdvd]
    constructor
    · rintro ⟨hkey, h⟩
      rw [require, if_pos ⟨(length_of_unwrapKey hs h).1, Nat.mod_eq_zero_of_dvd hdvd⟩, ok_bind]
      exact passes_bind_iff.2 ⟨hkey, given_ok_iff.2 ((wrapKey_iff hs hw).2 h)⟩
    · intro h
      obtain ⟨_, -, h⟩ := of_bind h
      obtain ⟨hkey, h⟩ := passes_bind_iff.1 h
      exact ⟨hkey, (wrapKey_iff hs hw).1 (given_ok_iff.1 h)⟩
  rw [if_neg hwrap, if_neg hwrap]
  by_cases hpad : b.HAVE_AES_KEY_WRAP_PAD = true ∧ m.mechanism = CKM_AES_KEY_WRAP_PAD
  · rw [if_pos hpad, if_pos hpad, passes_bind_iff, passes_bind_iff, given_ok_iff, given_ok_iff,
      wrapKey_iff hs hw]
  rw [if_neg hpad, if_neg hpad]
  by_cases hcbc : m.mechanism = CKM_AES_CBC
  · rw [if_pos hcbc, if_pos hcbc, passes_bind_iff, passes_bind_iff, hs.aes]
  rw [if_neg hcbc, if_neg hcbc]
  by_cases hcbcPad : m.mechanism = CKM_AES_CBC_PAD
  · rw [if_pos hcbcPad, if_pos hcbcPad, passes_bind_iff, passes_bind_iff]
    exact and_congr_right' (decryptPad_of_encrypt (b := ⟨16, by decide, by decide⟩) hs.aes)
  rw [if_neg hcbcPad, if_neg hcbcPad]
  by_cases hdes : m.mechanism = CKM_DES3_CBC
  · -- The vector is empty, and its first byte is not there.
    rw [if_pos hdes, if_neg (by rw [hdes]; decide), passes_bind_iff]
    constructor
    · intro h
      cases h
    · rintro ⟨-, h⟩
      cases h
  rw [if_neg hdes]
  by_cases hdesPad : m.mechanism = CKM_DES3_CBC_PAD
  · rw [if_pos hdesPad, if_pos hdesPad, passes_bind_iff, passes_bind_iff]
    exact and_congr_right' (decryptPad_of_encrypt (b := ⟨8, by decide, by decide⟩) hs.des3)
  rw [if_neg hdesPad, if_neg hdesPad]
  constructor <;> intro h <;> cases h

/-- Filling a key up is part of its wrapping. -/
lemma wrapKeySym_recovered (h : WrapKeySym b s m ukm k = .ok w) :
    WrapKeySym b s m ukm (recovered m.mechanism k) = .ok w := by
  unfold recovered
  split_ifs with hwrap
  · have hpad := RFC3394Pad_of_dvd (dvd_length_RFC3394Pad k)
    unfold WrapKeySym at h ⊢
    simp +decide only [hwrap, hpad, and_false, if_false] at h ⊢
    exact h
  · exact h

lemma length_of_IsKexp15 (h : IsKexp15 s m block ukm k w) : w.length = 32 + block := by
  obtain ⟨-, hlen, -, tag, -, stream, -, rfl⟩ := h
  simp [hlen]

lemma length_of_IsGOST28147 (hs : s.Inverse) (h : IsGOST28147 s m ukm k w) : w.length = 36 := by
  obtain ⟨-, -, -, wrapped, hwrapped, mac, -, rfl⟩ := h
  simp [length_of_eachBlock hs.length_encryptBlock hwrapped]

/-- The lengths that wrapping gives are those that unwrapping asks for. -/
lemma wrappedKeyLenRange_of_wrapKeySym (hs : s.Inverse) (h : WrapKeySym b s m ukm k = .ok w) :
    wrappedKeyLenRange m.mechanism w.length = CKR_OK := by
  unfold WrapKeySym at h
  unfold wrappedKeyLenRange
  split_ifs with hwrap hpad hgost hkuz hmagma
  · simp +decide only [hwrap.1, and_false, if_false] at h
    split_ifs at h
    · obtain ⟨_, hlong, h⟩ := of_bind h
      obtain ⟨-, h⟩ := passes_bind_iff.1 h
      rw [given_ok_iff, wrapKey] at h
      split_ifs at h
      have := (hs.length_keyWrapping _ _ _ h).1
      have := (of_require hlong).1
      omega
    · cases h
  · simp +decide only [hpad.1, and_false, if_false] at h
    split_ifs at h
    · obtain ⟨-, h⟩ := passes_bind_iff.1 h
      obtain ⟨hlen, hne, -⟩ := hs.length_keyWrapping true k w (given_ok_iff.1 h)
      have := List.length_pos_of_ne_nil hne
      omega
    · cases h
  · simp +decide only [hgost.1, if_false, if_true] at h
    exact absurd (length_of_IsGOST28147 hs (wrapGOST28147_ok_iff.1 h)) hgost.2
  · simp +decide only [hkuz.1, if_true] at h
    exact absurd (length_of_IsKexp15 (wrapKexp15_ok_iff.1 h)) hkuz.2
  · simp +decide only [hmagma.1, if_false, if_true] at h
    exact absurd (length_of_IsKexp15 (wrapKexp15_ok_iff.1 h)) hmagma.2
  · rfl

lemma length_of_wrapKeySym_pad (hs : s.Inverse) {rv : CK_RV}
    (h : WrapKeySym b s ⟨CKM_AES_KEY_WRAP_PAD, rv⟩ ukm k = .ok w) : 16 ≤ w.length := by
  have hrange := wrappedKeyLenRange_of_wrapKeySym b hs h
  by_contra hshort
  have hne : CKM_AES_KEY_WRAP_PAD ≠ CKM_AES_KEY_WRAP := by decide
  rw [wrappedKeyLenRange, if_neg fun hm => hne hm.1,
    if_pos ⟨rfl, Or.inl (Nat.lt_of_not_le hshort)⟩] at hrange
  cases hrange

end Mechanisms

end SoftHSM.Unwrap
