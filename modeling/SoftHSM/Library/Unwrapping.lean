import SoftHSM.Lib.Access
import SoftHSM.Lib.Checked
import SoftHSM.Library.KeyUse

/-!
Keys that are unwrapped, up to their bytes: the lengths of a wrapped blob, the positions at which it
is read, and the padding that is taken off. A run faults where the code reads outside a buffer or
takes a length below zero. What the ciphers give, and what else is checked, are parameters.
-/

namespace SoftHSM.Unwrap

open CK_RV Create Access File

/-- An answer that is not `CKR_OK` ends a run. -/
def passes (rv : CK_RV) : Run CK_RV Unit := require (rv = CKR_OK) rv

/-! ### Padding -/

def RFC5652Pad (keydata : ByteString) (blocksize : ℕ) : ByteString :=
  let padbytes := blocksize - keydata.length % blocksize
  let padbytes := if padbytes = 0 then padbytes + blocksize else padbytes
  keydata ++ List.replicate padbytes (UInt8.ofNat padbytes)

/-- The loop over the bytes of the padding, from one on and so many of them. -/
def isPadding (padded : ByteString) (padbyte : UInt8) (i : ℕ) : ℕ → Run CK_RV Bool
  | 0 => return true
  | count + 1 => do
    let byte ← elementAt padded i
    if byte ≠ padbyte then return false
    isPadding padded padbyte (i + 1) count

/-- The buffer without its padding, if that is right. -/
def RFC5652Unpad (padded : ByteString) (blocksize : ℕ) : Run CK_RV (Option ByteString) := do
  let wrappedlen := padded.length
  if wrappedlen % blocksize ≠ 0 then return none
  let last ← minus wrappedlen 1
  let padbyte ← elementAt padded last
  if padbyte = 0 ∨ blocksize < padbyte.toNat then return none
  let start ← minus wrappedlen padbyte.toNat
  if ← isPadding padded padbyte start padbyte.toNat then return some (padded.take start)
  return none

/-! ### Symmetric keys -/

/-- A block cipher with a key, chained and without padding. It gives as much as it takes, and takes
whole blocks. -/
structure Cbc (blocksize : ℕ) where
  decryptInit : Bool
  decryptUpdate : ByteString → Option ByteString
  decryptFinal : ByteString → Option ByteString
  length_decrypt : ∀ w d f, decryptUpdate w = some d → decryptFinal w = some f →
    (d ++ f).length = w.length ∧ blocksize ∣ w.length

/-- A symmetric key at work. `getSymmetricKey` is the answer of what comes before: the algorithm
and the bits of the key. -/
structure Symmetric where
  getSymmetricKey : CK_RV
  aes : Cbc 16
  des3 : Cbc 8
  /-- The wrapping of keys, without and with padding. -/
  keyWrap : Bool → ByteString → Option ByteString
  /-- The two ciphers of a twin key, where they are set: the stream of the one and the code of
  the other. -/
  twinKey : Bool
  ctr : Option (ℕ → UInt8)
  omac : ByteString → Option (ℕ → UInt8)
  gost28147 : Bool
  decryptBlock : ByteString → ByteString
  length_decryptBlock : ∀ block, (decryptBlock block).length = 8
  macBlock : (ℕ → UInt8) → ByteString → ℕ → UInt8

variable (b : Build)

def Cbc.decrypt {blocksize : ℕ} (cipher : Cbc blocksize) (wrapped : ByteString) :
    Run CK_RV ByteString := do
  require (cipher.decryptInit = true) CKR_MECHANISM_INVALID
  let keydata ← given (cipher.decryptUpdate wrapped) CKR_GENERAL_ERROR
  let decryptedFinal ← given (cipher.decryptFinal wrapped) CKR_GENERAL_ERROR
  return keydata ++ decryptedFinal

/-- `CKM_AES_CBC_PAD` and its like. -/
def Cbc.decryptPad {blocksize : ℕ} (cipher : Cbc blocksize) (wrapped : ByteString) :
    Run CK_RV ByteString := do
  let keydata ← cipher.decrypt wrapped
  let unpadded ← RFC5652Unpad keydata blocksize
  given unpadded CKR_GENERAL_ERROR

/-- `OSSLAES::checkLength`, where the length is an `int`. -/
def checkLength (size minsize : ℕ) : Bool :=
  let insize := (Checked.toInt (UInt64.ofNat size)).toInt
  !(insize < minsize) && insize.tmod 8 == 0

/-- `OSSLAES::unwrapKey`. -/
def unwrapKey (s : Symmetric) (pad : Bool) (wrapped : ByteString) : Option ByteString :=
  if checkLength wrapped.length (if pad then 16 else 24) then s.keyWrap pad wrapped else none

/-- The codes differ at none of so many positions. -/
def sameTag (tag : ℕ → UInt8) (plain : ByteString) (i : ℕ) : ℕ → Run CK_RV Bool
  | 0 => return true
  | count + 1 => do
    let byte ← elementAt plain (32 + i)
    let rest ← sameTag tag plain (i + 1) count
    return tag i == byte && rest

/-- The export of a key of 32 bytes with a code of a block, where `ukm` is the parameter. -/
def unwrapKexp15 (s : Symmetric) (m : Mechanism) (block : ℕ) (ukm wrapped : ByteString) :
    Run CK_RV ByteString := do
  passes m.parameter
  require (wrapped.length = 32 + block) CKR_WRAPPED_KEY_LEN_RANGE
  require (s.twinKey = true) CKR_GENERAL_ERROR
  let stream ← given s.ctr CKR_GENERAL_ERROR
  let plain := wrapped.mapIdx fun i byte => byte ^^^ stream i
  let key ← slice plain 0 32
  let tag ← given (s.omac (ukm ++ key)) CKR_GENERAL_ERROR
  let same ← sameTag tag plain 0 block
  require (same = true) CKR_WRAPPED_KEY_INVALID
  slice plain 0 32

/-- The four blocks of a key of 32 bytes. -/
def decryptBlocks (s : Symmetric) (wrapped : ByteString) (offset : ℕ) :
    ℕ → Run CK_RV ByteString
  | 0 => return []
  | count + 1 => do
    let block ← slice wrapped offset 8
    let rest ← decryptBlocks s wrapped (offset + 8) count
    return s.decryptBlock block ++ rest

def macBlocks (s : Symmetric) (keydata : ByteString) (offset : ℕ) :
    ℕ → (ℕ → UInt8) → Run CK_RV (ℕ → UInt8)
  | 0, mac => return mac
  | count + 1, mac => do
    let block ← slice keydata offset 8
    macBlocks s keydata (offset + 8) count (s.macBlock mac block)

/-- The code of a key of 32 bytes begins with the parameter, or with zeros. -/
def unwrapGOST28147 (s : Symmetric) (m : Mechanism) (ukm wrapped : ByteString) :
    Run CK_RV ByteString := do
  passes m.parameter
  require (wrapped.length = 36) CKR_WRAPPED_KEY_LEN_RANGE
  require (s.gost28147 = true) CKR_GENERAL_ERROR
  let keydata ← decryptBlocks s wrapped 0 4
  let mac ← macBlocks s keydata 0 4 fun i => ukm.getD i 0
  let same ← sameTag mac wrapped 0 4
  require (same = true) CKR_WRAPPED_KEY_INVALID
  return keydata

def UnwrapKeySym (s : Symmetric) (m : Mechanism) (ukm wrapped : ByteString) :
    Run CK_RV ByteString :=
  if m.mechanism = CKM_KUZNECHIK_KEXP_15_WRAP then unwrapKexp15 s m 16 ukm wrapped
  else if m.mechanism = CKM_MAGMA_KEXP_15_WRAP then unwrapKexp15 s m 8 ukm wrapped
  else if m.mechanism = CKM_GOST28147_KEY_WRAP then unwrapGOST28147 s m ukm wrapped
  else if b.HAVE_AES_KEY_WRAP = true ∧ m.mechanism = CKM_AES_KEY_WRAP then do
    passes s.getSymmetricKey
    given (unwrapKey s false wrapped) CKR_GENERAL_ERROR
  else if b.HAVE_AES_KEY_WRAP_PAD = true ∧ m.mechanism = CKM_AES_KEY_WRAP_PAD then do
    passes s.getSymmetricKey
    given (unwrapKey s true wrapped) CKR_GENERAL_ERROR
  else if m.mechanism = CKM_AES_CBC then do
    passes s.getSymmetricKey
    s.aes.decrypt wrapped
  else if m.mechanism = CKM_AES_CBC_PAD then do
    passes s.getSymmetricKey
    s.aes.decryptPad wrapped
  else if m.mechanism = CKM_DES3_CBC_PAD then do
    passes s.getSymmetricKey
    s.des3.decryptPad wrapped
  else refuse CKR_MECHANISM_INVALID

/-! ### Private keys -/

/-- A private key at work, and the temporary key that may come of it: what storing it comes to, and
the key as it is used. -/
structure Asymmetric where
  getRSAPrivateKey : CK_RV
  oaepParam : CK_RV
  size : ℕ
  decrypt : CK_MECHANISM_TYPE → ByteString → Option ByteString
  modulus : ByteString
  storeTemporary : ByteString → CK_RV
  temporary : ByteString → Symmetric

def UnwrapKeyAsym (a : Asymmetric) (mechanism : CK_MECHANISM_TYPE) (wrapped : ByteString) :
    Run CK_RV ByteString := do
  require (mechanism ∈ [CKM_RSA_PKCS, CKM_RSA_PKCS_OAEP]) CKR_MECHANISM_INVALID
  passes a.getRSAPrivateKey
  if mechanism = CKM_RSA_PKCS_OAEP then passes a.oaepParam
  -- The library takes no other length than that of the modulus.
  require (wrapped.length = a.size) CKR_GENERAL_ERROR
  given (a.decrypt mechanism wrapped) CKR_GENERAL_ERROR

def UnwrapMechRsaAesKw (a : Asymmetric) (wrapped : ByteString) : Run CK_RV ByteString := do
  let wrappedLen1 := a.modulus.length
  let wrappedLen2 ← minus wrapped.length wrappedLen1
  let _ ← elementAt wrapped 0
  let wrapped_1 ← slice wrapped 0 wrappedLen1
  let emphkeydata ← UnwrapKeyAsym a CKM_RSA_PKCS_OAEP wrapped_1
  passes (a.storeTemporary emphkeydata)
  let _ ← elementAt wrapped wrappedLen1
  let wrapped_2 ← slice wrapped wrappedLen1 wrappedLen2
  UnwrapKeySym b (a.temporary emphkeydata) ⟨CKM_AES_KEY_WRAP_PAD, CKR_OK⟩ [] wrapped_2

/-! ### The call -/

/-- What the lengths of a blob come to before anything else is looked at. -/
def wrappedKeyLenRange (mechanism : CK_MECHANISM_TYPE) (ulWrappedKeyLen : ℕ) : CK_RV :=
  if mechanism = CKM_AES_KEY_WRAP ∧ (ulWrappedKeyLen < 24 ∨ ulWrappedKeyLen % 8 ≠ 0) then
    CKR_WRAPPED_KEY_LEN_RANGE
  else if mechanism = CKM_AES_KEY_WRAP_PAD ∧ (ulWrappedKeyLen < 16 ∨ ulWrappedKeyLen % 8 ≠ 0) then
    CKR_WRAPPED_KEY_LEN_RANGE
  else if mechanism = CKM_GOST28147_KEY_WRAP ∧ ulWrappedKeyLen ≠ 36 then CKR_WRAPPED_KEY_LEN_RANGE
  else if mechanism = CKM_KUZNECHIK_KEXP_15_WRAP ∧ ulWrappedKeyLen ≠ 48 then
    CKR_WRAPPED_KEY_LEN_RANGE
  else if mechanism = CKM_MAGMA_KEXP_15_WRAP ∧ ulWrappedKeyLen ≠ 40 then CKR_WRAPPED_KEY_LEN_RANGE
  else CKR_OK

/-- What a call is given besides the blob: the mechanism and its parameter where a code begins
with that, the unwrapping key, what the checks of access to it and those of the template come to,
and what the key does. -/
structure Given where
  mechanism : Mechanism
  ukm : ByteString
  unwrapKey : AttributeMap
  access : CK_RV
  template : CK_RV
  symmetric : Symmetric
  asymmetric : Asymmetric

/-- The checks of a call that the blob has no part in. -/
def Given.check (g : Given) : Run CK_RV Unit := do
  passes g.mechanism.parameter
  passes g.access
  passes (wrapKeyCheck CKO_PRIVATE_KEY CKR_UNWRAPPING_KEY_TYPE_INCONSISTENT g.mechanism.mechanism
    g.unwrapKey)
  passes g.template

/-- `C_UnwrapKey`, up to the bytes of the key. -/
def C_UnwrapKey (g : Given) (wrapped : ByteString) : Run CK_RV ByteString := do
  require ((look (unwrapMechanisms b) g.mechanism.mechanism).isSome = true) CKR_MECHANISM_INVALID
  passes (wrappedKeyLenRange g.mechanism.mechanism wrapped.length)
  g.check
  if g.mechanism.mechanism = CKM_RSA_AES_KEY_WRAP then
    UnwrapMechRsaAesKw b g.asymmetric wrapped
  else if keyClass g.unwrapKey = CKO_SECRET_KEY then
    UnwrapKeySym b g.symmetric g.mechanism g.ukm wrapped
  else if keyClass g.unwrapKey = CKO_PRIVATE_KEY then
    UnwrapKeyAsym g.asymmetric g.mechanism.mechanism wrapped
  else refuse CKR_UNWRAPPING_KEY_TYPE_INCONSISTENT

/-! ### Padding that is put on and taken off -/

section Padding

/-- The block sizes there are padding bytes for. -/
structure Blocksize where
  size : ℕ
  pos : 0 < size
  lt : size < 256

/-- The loop stays inside the buffer, and looks at each byte until one differs. -/
lemma isPadding_eq {padded : ByteString} (padbyte : UInt8) {i count : ℕ}
    (h : i + count ≤ padded.length) :
    isPadding padded padbyte i count =
      .ok (((padded.drop i).take count).all fun byte => byte == padbyte) := by
  induction count generalizing i with
  | zero => rfl
  | succ count ih =>
    have hi : i < padded.length := by omega
    have hdrop : padded.drop i = padded[i] :: padded.drop (i + 1) := List.drop_eq_getElem_cons hi
    simp only [isPadding, elementAt_of_lt hi, ok_bind, hdrop, List.take_succ_cons, List.all_cons]
    by_cases hb : padded[i] = padbyte
    · rw [if_neg (not_not.2 hb), beq_iff_eq.2 hb, Bool.true_and]
      exact ih (by omega)
    · rw [if_pos hb, beq_eq_false_iff_ne.2 hb, Bool.false_and]
      rfl

lemma RFC5652Pad_eq (keydata : ByteString) (b : Blocksize) :
    RFC5652Pad keydata b.size =
      keydata ++ List.replicate (b.size - keydata.length % b.size)
        (UInt8.ofNat (b.size - keydata.length % b.size)) := by
  have hlt := Nat.mod_lt keydata.length b.pos
  simp only [RFC5652Pad]
  rw [if_neg (by omega)]

/-- The bytes of the padding are as many as are lacking to a block, and at least one. -/
lemma padbytes_mod {len size : ℕ} (hpos : 0 < size) :
    (len + (size - len % size)) % size = 0 := by
  have hlt := Nat.mod_lt len hpos
  have hsplit := Nat.div_add_mod len size
  have hsum : len + (size - len % size) = size * (len / size + 1) := by
    rw [Nat.mul_add, Nat.mul_one]
    omega
  rw [hsum, Nat.mul_mod_right]

/-- **Padding comes off** as it was put on. -/
lemma RFC5652Unpad_pad (keydata : ByteString) (b : Blocksize) :
    RFC5652Unpad (RFC5652Pad keydata b.size) b.size = .ok (some keydata) := by
  have hlt := Nat.mod_lt keydata.length b.pos
  have hb := b.lt
  rw [RFC5652Pad_eq]
  obtain ⟨p, hp⟩ : ∃ p, p = b.size - keydata.length % b.size := ⟨_, rfl⟩
  have hone : 1 ≤ p := by omega
  have hmod : (keydata.length + p) % b.size = 0 := by rw [hp]; exact padbytes_mod b.pos
  have hbyte : (UInt8.ofNat p).toNat = p := by
    rw [UInt8.toNat_ofNat', Nat.mod_eq_of_lt (by omega)]
  have hnz : UInt8.ofNat p ≠ 0 := by
    intro h
    rw [h] at hbyte
    exact absurd hbyte (by simp; omega)
  rw [← hp]
  obtain ⟨padded, hpadded⟩ : ∃ l, l = keydata ++ List.replicate p (UInt8.ofNat p) := ⟨_, rfl⟩
  have hlen : padded.length = keydata.length + p := by simp [hpadded]
  have hlast : (elementAt padded (padded.length - 1) : Run CK_RV UInt8) = .ok (UInt8.ofNat p) := by
    rw [elementAt_of_lt (by omega)]
    congr 1
    simp only [hpadded, List.length_append, List.length_replicate]
    rw [List.getElem_append_right (by omega), List.getElem_replicate]
  have hall : isPadding padded (UInt8.ofNat p) keydata.length p = .ok true := by
    rw [isPadding_eq _ (by omega), hpadded, List.drop_left, List.take_of_length_le (by simp)]
    simp
  have hstart : padded.length - p = keydata.length := by omega
  have hkeep : ¬ (UInt8.ofNat p = 0 ∨ b.size < (UInt8.ofNat p).toNat) := by
    rw [hbyte]
    rintro (h | h)
    · exact hnz h
    · omega
  have htake : padded.take keydata.length = keydata := by rw [hpadded, List.take_left]
  rw [← hpadded]
  unfold RFC5652Unpad
  rw [if_neg (by rw [hlen]; exact not_not.2 hmod), minus_of_le (by omega), ok_bind, hlast, ok_bind,
    if_neg hkeep, hbyte, minus_of_le (by omega), ok_bind, hstart, hall, ok_bind, if_pos rfl, htake]
  rfl

lemma RFC5652Unpad_nil (blocksize : ℕ) : RFC5652Unpad [] blocksize = .error (.fault .negative) := by
  unfold RFC5652Unpad
  dsimp only
  rw [if_neg (by simp), minus_of_lt (by simp), error_bind]

/-- What is left of a buffer whose padding is right, and that padding put on again. -/
lemma eq_pad_of_bytes {padded : ByteString} {b : Blocksize} {padbyte : UInt8}
    (hmod : padded.length % b.size = 0) (hle : padbyte.toNat ≤ padded.length) (hpos : padbyte ≠ 0)
    (hbound : padbyte.toNat ≤ b.size)
    (hall : ∀ byte ∈ padded.drop (padded.length - padbyte.toNat), byte = padbyte) :
    padded = RFC5652Pad (padded.take (padded.length - padbyte.toNat)) b.size := by
  have hone : 0 < padbyte.toNat := Nat.pos_of_ne_zero fun h => hpos (UInt8.toNat_inj.1 h)
  have hb := b.pos
  rw [RFC5652Pad_eq]
  obtain ⟨p, hp⟩ : ∃ p, p = padbyte.toNat := ⟨_, rfl⟩
  rw [← hp] at hle hbound hall hone ⊢
  have hlen : (padded.take (padded.length - p)).length = padded.length - p := by simp
  have hcount : b.size - (padded.length - p) % b.size = p := by
    obtain ⟨k, hk⟩ := Nat.dvd_of_mod_eq_zero hmod
    cases k with
    | zero => omega
    | succ k =>
      have hsplit : padded.length - p = b.size - p + b.size * k := by
        rw [hk, Nat.mul_succ]
        omega
      rw [hsplit, Nat.add_mul_mod_self_left]
      by_cases hfull : p = b.size
      · rw [hfull, Nat.sub_self, Nat.zero_mod, Nat.sub_zero]
      · rw [Nat.mod_eq_of_lt (by omega)]
        omega
  have hdrop : padded.drop (padded.length - p) = List.replicate p padbyte := by
    refine List.eq_replicate_iff.2 ⟨?_, hall⟩
    rw [List.length_drop]
    omega
  rw [hlen, hcount]
  conv_lhs => rw [← List.take_append_drop (padded.length - p) padded, hdrop]
  rw [hp, UInt8.ofNat_toNat]

/-- A buffer with something in it is read inside, and what is taken off it is its padding. -/
lemma RFC5652Unpad_of_ne_nil {padded : ByteString} {b : Blocksize} (h : padded ≠ []) :
    ∃ r, RFC5652Unpad padded b.size = .ok r ∧ ∀ d, r = some d → padded = RFC5652Pad d b.size := by
  have hlen : 0 < padded.length := List.length_pos_of_ne_nil h
  have hb := b.pos
  unfold RFC5652Unpad
  by_cases hmod : padded.length % b.size = 0
  swap
  · exact ⟨none, by rw [if_pos hmod]; rfl, fun d hd => by cases hd⟩
  rw [if_neg (not_not.2 hmod), minus_of_le hlen, ok_bind, elementAt_of_lt (by omega), ok_bind]
  obtain ⟨padbyte, hpadbyte⟩ : ∃ byte, byte = padded[padded.length - 1] := ⟨_, rfl⟩
  rw [← hpadbyte]
  by_cases hbad : padbyte = 0 ∨ b.size < padbyte.toNat
  · exact ⟨none, by rw [if_pos hbad]; rfl, fun d hd => by cases hd⟩
  rw [not_or, Nat.not_lt] at hbad
  obtain ⟨hpos, hbound⟩ := hbad
  -- A multiple of the block size that is not 0 is no less than the padding.
  have hblock : b.size ≤ padded.length := Nat.le_of_dvd hlen (Nat.dvd_of_mod_eq_zero hmod)
  have hle : padbyte.toNat ≤ padded.length := hbound.trans hblock
  rw [if_neg (by rw [not_or, Nat.not_lt]; exact ⟨hpos, hbound⟩), minus_of_le hle, ok_bind,
    isPadding_eq _ (by omega), ok_bind,
    List.take_of_length_le (by rw [List.length_drop]; omega)]
  by_cases hall : (padded.drop (padded.length - padbyte.toNat)).all (fun byte => byte == padbyte)
  · refine ⟨_, by rw [if_pos hall]; rfl, fun d hd => ?_⟩
    obtain rfl := Option.some.inj hd
    refine eq_pad_of_bytes hmod hle hpos hbound fun byte hbyte => ?_
    exact beq_iff_eq.1 (List.all_eq_true.1 hall byte hbyte)
  · exact ⟨none, by rw [if_neg hall]; rfl, fun d hd => by cases hd⟩

/-- What is asked of the padding: a buffer is accepted where it is some buffer with padding, and
that buffer is returned. -/
def Unpads (padded : ByteString) (b : Blocksize) : Prop :=
  ∃ r, RFC5652Unpad padded b.size = .ok r ∧ ∀ d, r = some d ↔ padded = RFC5652Pad d b.size

lemma unpads_iff (padded : ByteString) (b : Blocksize) : Unpads padded b ↔ padded ≠ [] := by
  constructor
  · rintro ⟨r, hr, -⟩ rfl
    rw [RFC5652Unpad_nil] at hr
    cases hr
  · intro h
    obtain ⟨r, hr, hpad⟩ := RFC5652Unpad_of_ne_nil (b := b) h
    refine ⟨r, hr, fun d => ⟨hpad d, fun hd => ?_⟩⟩
    have hunpad := RFC5652Unpad_pad d b
    rw [← hd, hr] at hunpad
    exact Except.ok.inj hunpad

end Padding

end SoftHSM.Unwrap
