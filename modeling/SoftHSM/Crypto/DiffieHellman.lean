import Mathlib.Data.FinEnum
import Mathlib.Data.Nat.Prime.Defs
import Mathlib.Tactic.NormNum.Prime
import SoftHSM.Crypto.KeySerialisation
import SoftHSM.Library.P11Attributes
import SoftHSM.Lib.Der

/-!
Secrets that two parties agree on: a number, which the backends deliver in bytes with or without
leading zeros, and which the library puts at the end of a buffer. The buffers of the two backends have
the length of the modulus as it is stored or computed, and for curves that of the order of the group.
-/

namespace SoftHSM

open ByteString (split)
open Numeral

/-! ### The backends -/

/-- What comes of a derivation; bytes may be written in front of the buffer. -/
inductive Derived
  | failed
  | outside
  | key (keyBits : ByteString)
  deriving DecidableEq

/-- `memcpy` to the end of a buffer of zeros, by the difference of two numbers. -/
def compensated (size : ℕ) (key : ByteString) : Derived :=
  if key.length ≤ size then .key (List.replicate (size - key.length) 0 ++ key) else .outside

/-- The bytes of a number that is stored with leading zeros, without them. -/
def BN_num_bytes (stored : ByteString) : ℕ := (stored.dropWhile (· = 0)).length

inductive CryptoBackend
  | OpenSSL
  | OpenSSL3
  | Botan
  deriving DecidableEq

/-- `ECDH_compute_key`, which gives no more than there is room for. -/
def ECDH_compute_key (outlen : ℕ) (secret : ByteString) : ByteString := secret.take outlen

def OSSLECDH.deriveKey (orderLength : ℕ) (secret : ByteString) : Derived :=
  let derivedSecret := ECDH_compute_key orderLength secret
  if derivedSecret.length = 0 then .failed else compensated orderLength derivedSecret

def BotanECDH.deriveKey (orderLength : ℕ) (secret : ByteString) : Derived :=
  compensated orderLength secret

/-- `OSSLDH::deriveKey` before version 3; `DH_size` is the length of the modulus. -/
def OSSLDH.deriveKey (p secret : ByteString) : Derived :=
  if secret.length = 0 then .failed else compensated (BN_num_bytes p) secret

/-- The same from version 3 on, where the backend is asked for the length. -/
def OSSLDH.deriveKeyPadded (p secret : ByteString) : Derived :=
  let secretLen := BN_num_bytes p
  if secret.length ≤ secretLen then .key (secret ++ List.replicate (secretLen - secret.length) 0)
  else .failed

/-- `BotanDH::deriveKey`; the output length of a key is that of its stored modulus. -/
def BotanDH.deriveKey (p secret : ByteString) : Derived := compensated p.length secret

def CryptoBackend.deriveDH : CryptoBackend → ByteString → ByteString → Derived
  | OpenSSL => OSSLDH.deriveKey
  | OpenSSL3 => OSSLDH.deriveKeyPadded
  | Botan => BotanDH.deriveKey

def CryptoBackend.deriveECDH : CryptoBackend → ℕ → ByteString → Derived
  | Botan => BotanECDH.deriveKey
  | _ => OSSLECDH.deriveKey

/-! ### Values -/

namespace DeriveKey

def odd_parity_table : List UInt8 := [
  0x01, 0x01, 0x02, 0x02, 0x04, 0x04, 0x07, 0x07, 0x08, 0x08, 0x0B, 0x0B, 0x0D, 0x0D, 0x0E, 0x0E,
  0x10, 0x10, 0x13, 0x13, 0x15, 0x15, 0x16, 0x16, 0x19, 0x19, 0x1A, 0x1A, 0x1C, 0x1C, 0x1F, 0x1F,
  0x20, 0x20, 0x23, 0x23, 0x25, 0x25, 0x26, 0x26, 0x29, 0x29, 0x2A, 0x2A, 0x2C, 0x2C, 0x2F, 0x2F,
  0x31, 0x31, 0x32, 0x32, 0x34, 0x34, 0x37, 0x37, 0x38, 0x38, 0x3B, 0x3B, 0x3D, 0x3D, 0x3E, 0x3E,
  0x40, 0x40, 0x43, 0x43, 0x45, 0x45, 0x46, 0x46, 0x49, 0x49, 0x4A, 0x4A, 0x4C, 0x4C, 0x4F, 0x4F,
  0x51, 0x51, 0x52, 0x52, 0x54, 0x54, 0x57, 0x57, 0x58, 0x58, 0x5B, 0x5B, 0x5D, 0x5D, 0x5E, 0x5E,
  0x61, 0x61, 0x62, 0x62, 0x64, 0x64, 0x67, 0x67, 0x68, 0x68, 0x6B, 0x6B, 0x6D, 0x6D, 0x6E, 0x6E,
  0x70, 0x70, 0x73, 0x73, 0x75, 0x75, 0x76, 0x76, 0x79, 0x79, 0x7A, 0x7A, 0x7C, 0x7C, 0x7F, 0x7F,
  0x80, 0x80, 0x83, 0x83, 0x85, 0x85, 0x86, 0x86, 0x89, 0x89, 0x8A, 0x8A, 0x8C, 0x8C, 0x8F, 0x8F,
  0x91, 0x91, 0x92, 0x92, 0x94, 0x94, 0x97, 0x97, 0x98, 0x98, 0x9B, 0x9B, 0x9D, 0x9D, 0x9E, 0x9E,
  0xA1, 0xA1, 0xA2, 0xA2, 0xA4, 0xA4, 0xA7, 0xA7, 0xA8, 0xA8, 0xAB, 0xAB, 0xAD, 0xAD, 0xAE, 0xAE,
  0xB0, 0xB0, 0xB3, 0xB3, 0xB5, 0xB5, 0xB6, 0xB6, 0xB9, 0xB9, 0xBA, 0xBA, 0xBC, 0xBC, 0xBF, 0xBF,
  0xC1, 0xC1, 0xC2, 0xC2, 0xC4, 0xC4, 0xC7, 0xC7, 0xC8, 0xC8, 0xCB, 0xCB, 0xCD, 0xCD, 0xCE, 0xCE,
  0xD0, 0xD0, 0xD3, 0xD3, 0xD5, 0xD5, 0xD6, 0xD6, 0xD9, 0xD9, 0xDA, 0xDA, 0xDC, 0xDC, 0xDF, 0xDF,
  0xE0, 0xE0, 0xE3, 0xE3, 0xE5, 0xE5, 0xE6, 0xE6, 0xE9, 0xE9, 0xEA, 0xEA, 0xEC, 0xEC, 0xEF, 0xEF,
  0xF1, 0xF1, 0xF2, 0xF2, 0xF4, 0xF4, 0xF7, 0xF7, 0xF8, 0xF8, 0xFB, 0xFB, 0xFD, 0xFD, 0xFE, 0xFE]

def odd_parity (b : UInt8) : UInt8 := odd_parity_table.getD b.toNat 0

def isDES (keyType : CK_KEY_TYPE) : Bool := keyType ∈ [CKK_DES, CKK_DES2, CKK_DES3]

/-- What the loop over the template finds: the length, of which the last one counts. -/
def templateLength : List CK_ATTRIBUTE → ℕ → Except CK_RV ℕ
  | [], byteLen => .ok byteLen
  | e :: pTemplate, byteLen =>
    if e.type = CKA_VALUE then .error .CKR_ATTRIBUTE_READ_ONLY
    else if e.type = CKA_VALUE_LEN then
      if e.ulValueLen ≠ sizeof_CK_ULONG then .error .CKR_ATTRIBUTE_VALUE_INVALID
      else templateLength pTemplate (ulongAt e.bytes).toNat
    else if e.type = CKA_CHECK_VALUE ∧ e.ulValueLen > 0 then .error .CKR_ATTRIBUTE_VALUE_INVALID
    else templateLength pTemplate byteLen

/-- The lengths of the keys that have one. -/
def fixedLength (withFIPS : Bool) (keyType : CK_KEY_TYPE) : Option ℕ :=
  if keyType = CKK_DES ∧ !withFIPS then some 8
  else if keyType = CKK_DES2 then some 16
  else if keyType = CKK_DES3 then some 24
  else none

/-- The check of the length in `deriveDH`. -/
def lengthDH (withFIPS : Bool) (keyType : CK_KEY_TYPE) (byteLen : ℕ) : Except CK_RV ℕ :=
  match fixedLength withFIPS keyType with
  | some len => if byteLen ≠ 0 then .error .CKR_ATTRIBUTE_READ_ONLY else .ok len
  | none =>
    if keyType = CKK_GENERIC_SECRET then
      if byteLen = 0 then .error .CKR_TEMPLATE_INCOMPLETE else .ok byteLen
    else if keyType = CKK_AES ∧ byteLen ∈ [16, 24, 32] then .ok byteLen
    else .error .CKR_ATTRIBUTE_VALUE_INVALID

/-- The check of the length in `deriveECDH`, where none means as much as there is. -/
def lengthECDH (withFIPS : Bool) (keyType : CK_KEY_TYPE) (byteLen : ℕ) : Except CK_RV ℕ :=
  match fixedLength withFIPS keyType with
  | some len => if byteLen ≠ 0 ∧ byteLen ≠ len then .error .CKR_ATTRIBUTE_VALUE_INVALID else .ok len
  | none =>
    if keyType = CKK_GENERIC_SECRET then .ok byteLen
    else if keyType = CKK_AES ∧ byteLen ∈ [0, 16, 24, 32] then .ok byteLen
    else .error .CKR_ATTRIBUTE_VALUE_INVALID

/-- The length of the key where none is asked for. -/
def defaultLength (keyType : CK_KEY_TYPE) (size : ℕ) : ℕ :=
  if keyType = CKK_AES then (if size ≥ 32 then 32 else if size ≥ 24 then 24 else 16) else size

/-- The value that both functions store, in the clear. -/
def storedValue (keyType : CK_KEY_TYPE) (byteLen : ℕ) (secretValue : ByteString) :
    Except CK_RV ByteString :=
  if byteLen > secretValue.length then .error .CKR_FUNCTION_FAILED
  else
    let secretValue := if byteLen < secretValue.length then
      (split secretValue (secretValue.length - byteLen)).2 else secretValue
    .ok (if isDES keyType then secretValue.map odd_parity else secretValue)

def deriveDH (withFIPS : Bool) (keyType : CK_KEY_TYPE) (pTemplate : List CK_ATTRIBUTE)
    (secretValue : ByteString) : Except CK_RV ByteString := do
  let byteLen ← templateLength pTemplate 0
  let byteLen ← lengthDH withFIPS keyType byteLen
  storedValue keyType byteLen secretValue

def deriveECDH (withFIPS : Bool) (keyType : CK_KEY_TYPE) (pTemplate : List CK_ATTRIBUTE)
    (secretValue : ByteString) : Except CK_RV ByteString := do
  let byteLen ← templateLength pTemplate 0
  let byteLen ← lengthECDH withFIPS keyType byteLen
  storedValue keyType (if byteLen = 0 then defaultLength keyType secretValue.length else byteLen)
    secretValue

/-- The length that a template asks for: the last one in it. -/
def askedLength (pTemplate : List CK_ATTRIBUTE) : Option ℕ :=
  ((pTemplate.filter (·.type = CKA_VALUE_LEN)).getLast?).map fun e => (ulongAt e.bytes).toNat

/-- A byte with its lowest bit such that the number of its bits is odd. -/
def withOddParity (b : UInt8) : UInt8 :=
  let upper := b &&& 0xFE
  if ((List.range 8).filter fun i => upper.toNat.testBit i).length % 2 = 0 then upper ||| 1 else upper

lemma odd_parity_eq : ∀ b : UInt8, odd_parity b = withOddParity b := by decide +kernel

lemma templateLength_eq {pTemplate : List CK_ATTRIBUTE} {byteLen len : ℕ}
    (h : templateLength pTemplate byteLen = .ok len) :
    len = (askedLength pTemplate).getD byteLen := by
  induction pTemplate generalizing byteLen with
  | nil =>
    cases h
    rfl
  | cons e pTemplate ih =>
    rw [templateLength] at h
    split_ifs at h with hvalue hlength hsize hcheck
    · rw [ih h, askedLength, askedLength, List.filter_cons_of_pos (by simpa using hlength)]
      cases hfilter : pTemplate.filter (·.type = CKA_VALUE_LEN) with
      | nil => rfl
      | cons e' rest => rw [List.getLast?_cons_cons, List.getLast?_cons]; rfl
    · rw [ih h, askedLength, askedLength, List.filter_cons_of_neg (by simpa using hlength)]

lemma lengthDH_eq {withFIPS : Bool} {keyType : CK_KEY_TYPE} {byteLen len : ℕ}
    (h : lengthDH withFIPS keyType byteLen = .ok len) (h0 : byteLen ≠ 0) : len = byteLen := by
  rw [lengthDH] at h
  split at h
  · rw [if_pos h0] at h
    cases h
  · split_ifs at h <;> cases h <;> rfl

lemma lengthECDH_eq {withFIPS : Bool} {keyType : CK_KEY_TYPE} {byteLen len : ℕ}
    (h : lengthECDH withFIPS keyType byteLen = .ok len) (h0 : byteLen ≠ 0) : len = byteLen := by
  rw [lengthECDH] at h
  split at h
  · split_ifs at h with hne
    cases h
    by_contra hother
    exact hne ⟨h0, Ne.symm hother⟩
  · split_ifs at h <;> cases h <;> rfl

/-- **What is stored** is the end of the secret, with its parity for the keys that have one. -/
lemma storedValue_eq {keyType : CK_KEY_TYPE} {byteLen : ℕ} {secretValue value : ByteString}
    (h : storedValue keyType byteLen secretValue = .ok value) :
    value.length = byteLen ∧ byteLen ≤ secretValue.length ∧
      value = (secretValue.drop (secretValue.length - byteLen)).map
        (if isDES keyType then withOddParity else id) := by
  have hparity : odd_parity = withOddParity := funext odd_parity_eq
  rw [storedValue, hparity] at h
  by_cases hlong : byteLen > secretValue.length
  · rw [if_pos hlong] at h
    cases h
  · have hlast : (if byteLen < secretValue.length then
        (split secretValue (secretValue.length - byteLen)).2 else secretValue) =
        secretValue.drop (secretValue.length - byteLen) := by
      split_ifs with hsplit
      · rfl
      · rw [show secretValue.length - byteLen = 0 by omega, List.drop_zero]
    rw [if_neg hlong, hlast] at h
    have hvalue : value = (secretValue.drop (secretValue.length - byteLen)).map
        (if isDES keyType then withOddParity else id) := by
      split_ifs at h ⊢ with hdes
      · exact (Except.ok.inj h).symm
      · rw [List.map_id]
        exact (Except.ok.inj h).symm
    refine ⟨?_, by omega, hvalue⟩
    rw [hvalue, List.length_map, List.length_drop]
    omega

/-- What both functions come to: a value of a length that is the one asked for. -/
lemma stored_of_derive {withFIPS : Bool} {keyType : CK_KEY_TYPE} {pTemplate : List CK_ATTRIBUTE}
    {secretValue value : ByteString}
    (h : deriveDH withFIPS keyType pTemplate secretValue = .ok value ∨
      deriveECDH withFIPS keyType pTemplate secretValue = .ok value) :
    ∃ len, storedValue keyType len secretValue = .ok value ∧
      ∀ n, askedLength pTemplate = some n → n ≠ 0 → len = n := by
  rw [deriveDH, deriveECDH] at h
  cases htemplate : templateLength pTemplate 0 with
  | error rv =>
    rw [htemplate] at h
    rcases h with h | h <;> cases h
  | ok byteLen =>
    have hasked {n : ℕ} (hn : askedLength pTemplate = some n) : byteLen = n := by
      rw [templateLength_eq htemplate, hn, Option.getD_some]
    rw [htemplate] at h
    rcases h with h | h
    · change (lengthDH withFIPS keyType byteLen >>= fun byteLen =>
        storedValue keyType byteLen secretValue) = .ok value at h
      cases hlength : lengthDH withFIPS keyType byteLen with
      | error rv =>
        rw [hlength] at h
        cases h
      | ok len =>
        rw [hlength] at h
        refine ⟨len, h, fun n hn h0 => ?_⟩
        rw [← hasked hn] at h0 ⊢
        exact lengthDH_eq hlength h0
    · change (lengthECDH withFIPS keyType byteLen >>= fun byteLen => storedValue keyType
        (if byteLen = 0 then defaultLength keyType secretValue.length else byteLen)
          secretValue) = .ok value at h
      cases hlength : lengthECDH withFIPS keyType byteLen with
      | error rv =>
        rw [hlength] at h
        cases h
      | ok len =>
        rw [hlength] at h
        refine ⟨_, h, fun n hn h0 => ?_⟩
        rw [← hasked hn] at h0 ⊢
        have hlen := lengthECDH_eq hlength h0
        rw [hlen, if_neg h0]

end DeriveKey

/-! ### One value for both -/

/-- The bytes of a number that a backend delivers. -/
structure Delivers (L : ℕ) (padded : Bool) (v : ℕ) (secret : ByteString) : Prop where
  nonempty : secret ≠ []
  fits : secret.length ≤ L
  padded : padded = true → secret.length = L
  value : Tlv.value secret = v

/-- Parties with keys, and the number that any two of them come to. -/
structure Agreement where
  Private : Type
  Public : Type
  publicKey : Private → Public
  agree : Private → Public → ℕ
  comm (a b : Private) : agree a (publicKey b) = agree b (publicKey a)

/-- Both parties derive the number that they agree on, in so many bytes. -/
def Canonical (derive : ByteString → Derived) (L : ℕ) (padded : Bool) (range : ℕ → Prop) : Prop :=
  ∀ A : Agreement, (∀ a q, range (A.agree a q)) →
    ∀ secret : A.Private → A.Public → ByteString,
      (∀ a q, Delivers L padded (A.agree a q) (secret a q)) → ∀ a b,
        derive (secret a (A.publicKey b)) = .key (bigEndian L (A.agree a (A.publicKey b))) ∧
          derive (secret b (A.publicKey a)) = .key (bigEndian L (A.agree a (A.publicKey b)))

lemma canonical_iff {derive : ByteString → Derived} {L : ℕ} {padded : Bool} {range : ℕ → Prop} :
    Canonical derive L padded range ↔ ∀ v, range v → ∀ secret, Delivers L padded v secret →
      derive secret = .key (bigEndian L v) := by
  constructor
  · intro h v hv secret hsecret
    exact (h ⟨Unit, Unit, id, fun _ _ => v, fun _ _ => rfl⟩ (fun _ _ => hv) (fun _ _ => secret)
      (fun _ _ => hsecret) () ()).1
  · intro h A hrange secret hsecret a b
    refine ⟨h _ (hrange _ _) _ (hsecret _ _), ?_⟩
    rw [A.comm a b]
    exact h _ (hrange _ _) _ (hsecret _ _)

/-- What is delivered, behind as many zeros as are missing. -/
lemma Delivers.filled {L v : ℕ} {padded : Bool} {secret : ByteString}
    (h : Delivers L padded v secret) :
    List.replicate (L - secret.length) 0 ++ secret = bigEndian L v := by
  have hfits := h.fits
  apply Der.eq_of_value
  · rw [List.length_append, List.length_replicate, length_bigEndian]
    omega
  · have hlt : v < 256 ^ L := by
      rw [← h.value]
      exact (value_lt secret).trans_le (Nat.pow_le_pow_right (by decide) hfits)
    rw [value_zeros, value_bigEndian, Nat.mod_eq_of_lt hlt, h.value]

lemma compensated_eq {L v : ℕ} {padded : Bool} {secret : ByteString}
    (h : Delivers L padded v secret) : compensated L secret = .key (bigEndian L v) := by
  rw [compensated, if_pos h.fits, h.filled]

/-- The length of a number is that of its bytes without leading zeros. -/
lemma BN_num_bytes_eq (p : ByteString) :
    BN_num_bytes p = (minimalBigEndian (Tlv.value p)).length := by
  induction p with
  | nil => rfl
  | cons b p ih =>
    have hone : Tlv.value [b] = b.toNat := by simp [Tlv.value]
    have hvalue : Tlv.value (b :: p) = b.toNat * 256 ^ p.length + Tlv.value p := by
      rw [← List.singleton_append, value_append, hone]
    by_cases hb : b = 0
    · subst hb
      have hzero : Tlv.value (0 :: p) = Tlv.value p := by
        rw [hvalue]
        simp
      rw [hzero, ← ih, BN_num_bytes, BN_num_bytes, List.dropWhile_cons_of_pos (by simp)]
    · have hpos : 1 ≤ b.toNat := by
        by_contra hlt
        exact hb (UInt8.toNat_inj.1 (by simpa using hlt))
      have hge : 256 ^ p.length ≤ Tlv.value (b :: p) := by
        rw [hvalue]
        nlinarith [Nat.zero_le (Tlv.value p), Nat.mul_le_mul_right (256 ^ p.length) hpos]
      have hne : Tlv.value (b :: p) ≠ 0 := by
        have := Nat.pow_pos (n := p.length) (show 0 < 256 by decide)
        omega
      rw [BN_num_bytes, List.dropWhile_cons_of_neg (by simpa using hb),
        Der.minimalBigEndian_eq (r := (b :: p).length) (fun _ => hge) (value_lt _)
          (fun h0 => absurd h0 hne), length_bigEndian]

lemma BN_num_bytes_iff {p : ByteString} : BN_num_bytes p = p.length ↔ p.head? ≠ some 0 := by
  cases p with
  | nil => simp [BN_num_bytes]
  | cons b p =>
    rw [BN_num_bytes, List.head?_cons]
    by_cases hb : b = 0
    · have hle := (List.dropWhile_suffix (l := p) (· = (0 : UInt8))).length_le
      rw [hb, List.dropWhile_cons_of_pos (by simp), List.length_cons]
      constructor
      · intro h
        omega
      · intro h
        exact absurd rfl h
    · rw [List.dropWhile_cons_of_neg (by simpa using hb)]
      simp [hb]

/-- The length of a key that is derived is that of the buffer. -/
lemma length_of_compensated {size : ℕ} {secret keyBits : ByteString}
    (h : compensated size secret = .key keyBits) : keyBits.length = size := by
  rw [compensated] at h
  split_ifs at h with hle
  cases h
  rw [List.length_append, List.length_replicate]
  omega

/-- A number is delivered with all its leading zeros. -/
lemma delivers_bigEndian {L v : ℕ} (padded : Bool) (hL : 0 < L) (hv : v < 256 ^ L) :
    Delivers L padded v (bigEndian L v) where
  nonempty h := by
    have hlen := length_bigEndian L v
    rw [h] at hlen
    exact hL.ne hlen
  fits := (length_bigEndian L v).le
  padded _ := length_bigEndian L v
  value := by rw [value_bigEndian, Nat.mod_eq_of_lt hv]

lemma deriveDH_iff (build : CryptoBackend) {p : ℕ} {stored : ByteString} (hp : 1 < p)
    (hstored : Tlv.value stored = p) :
    Canonical (build.deriveDH stored) (minimalBigEndian p).length (build = .OpenSSL3)
      (fun v => 0 < v ∧ v < p) ↔ (build = .Botan → stored.head? ≠ some 0) := by
  have hlen : BN_num_bytes stored = (minimalBigEndian p).length := by
    rw [BN_num_bytes_eq, hstored]
  rw [canonical_iff, ← hlen]
  cases build with
  | OpenSSL =>
    refine ⟨fun _ h => (by cases h), fun _ v _ secret h => ?_⟩
    have hne : secret.length ≠ 0 := fun h0 => h.nonempty (List.length_eq_zero_iff.1 h0)
    rw [CryptoBackend.deriveDH, OSSLDH.deriveKey, if_neg hne, compensated_eq h]
  | OpenSSL3 =>
    refine ⟨fun _ h => (by cases h), fun _ v _ secret h => ?_⟩
    have hfull : secret.length = BN_num_bytes stored := h.padded (decide_eq_true rfl)
    have hfilled := h.filled
    rw [hfull, Nat.sub_self, List.replicate_zero, List.nil_append] at hfilled
    rw [CryptoBackend.deriveDH, OSSLDH.deriveKeyPadded]
    simp [hfilled]
  | Botan =>
    rw [← BN_num_bytes_iff]
    constructor
    · intro h _
      have hpos : 0 < BN_num_bytes stored := by
        rw [hlen]
        by_contra h0
        have hval := value_lt (minimalBigEndian p)
        rw [Der.value_minimalBigEndian, Nat.eq_zero_of_not_pos h0] at hval
        omega
      have hone : 1 < 256 ^ BN_num_bytes stored := Nat.one_lt_pow hpos.ne' (by decide)
      have hkey := h 1 ⟨Nat.one_pos, hp⟩ _ (delivers_bigEndian _ hpos hone)
      have hlength := length_of_compensated hkey
      rwa [length_bigEndian] at hlength
    · intro h v _ secret hsecret
      rw [CryptoBackend.deriveDH, BotanDH.deriveKey, ← h rfl, compensated_eq hsecret]

lemma deriveECDH_iff (build : CryptoBackend) {fieldLength orderLength : ℕ} (hfield : 0 < fieldLength)
    {values : ℕ → Prop} (hvalues : ∃ v, values v) (hrange : ∀ v, values v → v < 256 ^ fieldLength) :
    Canonical (build.deriveECDH orderLength) fieldLength false values ↔
      orderLength = fieldLength := by
  rw [canonical_iff]
  constructor
  · intro h
    obtain ⟨v, hv⟩ := hvalues
    have hkey := h v hv _ (delivers_bigEndian false hfield (hrange v hv))
    have hlength : (bigEndian fieldLength v).length = orderLength := by
      cases build with
      | Botan => exact length_of_compensated hkey
      | OpenSSL | OpenSSL3 =>
        rw [CryptoBackend.deriveECDH, OSSLECDH.deriveKey] at hkey
        · split_ifs at hkey
          exact length_of_compensated hkey
        · exact fun h => by cases h
    rw [← hlength, length_bigEndian]
  · rintro rfl v _ secret h
    cases build with
    | Botan => rw [CryptoBackend.deriveECDH, BotanECDH.deriveKey, compensated_eq h]
    | OpenSSL | OpenSSL3 =>
      have hne : secret.length ≠ 0 := fun h0 => h.nonempty (List.length_eq_zero_iff.1 h0)
      rw [CryptoBackend.deriveECDH, OSSLECDH.deriveKey, ECDH_compute_key, List.take_of_length_le h.fits]
      · rw [if_neg hne, compensated_eq h]
      · exact fun h => by cases h

/-- **Derived secrets** have one value for both parties, in as many bytes as the modulus or the field,
if and only if the stored modulus has no leading zeros where its length is taken, and the order of the
curve has as many bytes as its field; and the end of them is stored. -/
theorem derived_secrets_iff (build : CryptoBackend) :
    (∀ (p : ℕ) (stored : ByteString), p.Prime → Tlv.value stored = p →
      (Canonical (build.deriveDH stored) (minimalBigEndian p).length (build = .OpenSSL3)
        (fun v => 0 < v ∧ v < p) ↔ (build = .Botan → stored.head? ≠ some 0))) ∧
    (∀ (fieldLength orderLength : ℕ) (values : ℕ → Prop), 0 < fieldLength → (∃ v, values v) →
      (∀ v, values v → v < 256 ^ fieldLength) →
      (Canonical (build.deriveECDH orderLength) fieldLength false values ↔
        orderLength = fieldLength)) ∧
    (∀ (withFIPS : Bool) (keyType : CK_KEY_TYPE) (pTemplate : List CK_ATTRIBUTE)
      (secretValue value : ByteString),
      DeriveKey.deriveDH withFIPS keyType pTemplate secretValue = .ok value ∨
        DeriveKey.deriveECDH withFIPS keyType pTemplate secretValue = .ok value →
      value.length ≤ secretValue.length ∧
        value = (secretValue.drop (secretValue.length - value.length)).map
          (if DeriveKey.isDES keyType then DeriveKey.withOddParity else id) ∧
        ∀ n, DeriveKey.askedLength pTemplate = some n → n ≠ 0 → value.length = n) := by
  refine ⟨fun p stored hp hstored => deriveDH_iff build hp.one_lt hstored,
    fun fieldLength orderLength values hfield hvalues hrange =>
      deriveECDH_iff build hfield hvalues hrange,
    fun withFIPS keyType pTemplate secretValue value h => ?_⟩
  obtain ⟨len, hstored, hasked⟩ := DeriveKey.stored_of_derive h
  obtain ⟨rfl, hle, hvalue⟩ := DeriveKey.storedValue_eq hstored
  exact ⟨hle, hvalue, hasked⟩

/-- A prime and two parties, and a key from the end of what they agree on. -/
theorem derived_secrets_small :
    Canonical (CryptoBackend.Botan.deriveDH [0xFB]) (minimalBigEndian 251).length
        (CryptoBackend.Botan = .OpenSSL3) (fun v => 0 < v ∧ v < 251) ∧
      Canonical (CryptoBackend.OpenSSL.deriveECDH 20) 20 false (· < 256 ^ 20) ∧
      (DeriveKey.deriveECDH false CKK_DES [] (List.range 20 |>.map UInt8.ofNat)).toOption =
        some [13, 13, 14, 14, 16, 16, 19, 19] := by
  refine ⟨((derived_secrets_iff .Botan).1 251 [0xFB] (by norm_num) rfl).2 fun _ => by decide,
    ((derived_secrets_iff .OpenSSL).2.1 20 20 (· < 256 ^ 20) (by omega) ⟨0, by norm_num⟩
      fun _ h => h).2 rfl, by decide +kernel⟩

/-- A curve over a field of 233 bits whose order has 232 bits: one build cuts off the last byte, the
other writes a byte in front of its buffer. -/
theorem derived_secrets_sect233k1 :
    OSSLECDH.deriveKey 29 (bigEndian 30 (256 ^ 29 + 7)) ≠ .key (bigEndian 30 (256 ^ 29 + 7)) ∧
      OSSLECDH.deriveKey 29 (bigEndian 30 (256 ^ 29 + 7)) = .key (bigEndian 29 (256 ^ 28)) ∧
      BotanECDH.deriveKey 29 (bigEndian 30 (256 ^ 29 + 7)) = .outside ∧
      ¬ Canonical (CryptoBackend.OpenSSL.deriveECDH 29) 30 false (· < 256 ^ 30) := by
  refine ⟨by decide +kernel, by decide +kernel, by decide +kernel, fun h => ?_⟩
  have hlength := (deriveECDH_iff .OpenSSL (by omega) ⟨0, by norm_num⟩ fun _ h => h).1 h
  omega

end SoftHSM
