import SoftHSM.Library.P11Attributes
import SoftHSM.Lib.Memory
import SoftHSM.Lib.Numeral

/-!
The derivation of a key from a GOST key: in one step, or as a stretch of a stream of blocks that are
numbered. The limits on the stretch are partly in bytes and partly in bits, and it may begin in the
middle of a block.
-/

namespace SoftHSM

open Numeral

/-! ### The derivation -/

/-- The parameter of the derivation from a stream. A pointer that is not there has no value. -/
structure GOSTKDFTreeParams where
  ulLabelLength : UInt64
  pLabel : Option ByteString
  ulSeedLength : UInt64
  pSeed : Option ByteString
  ulR : UInt64
  ulL : UInt64
  ulOffset : UInt64

/-- The parameter with its mechanism, of the size that the mechanism asks for. -/
inductive GOSTKDFParameter
  | hmac (bytes : Option ByteString)
  | tree (params : Option GOSTKDFTreeParams)

namespace GOSTKDFTreeParams

/-- The checks of the parameter, with the length of the key. -/
def check (p : GOSTKDFTreeParams) (resultLen : UInt64) : CK_RV :=
  if p.pLabel = none ∨ p.pSeed = none ∨ p.ulLabelLength = 0 ∨ p.ulSeedLength = 0 ∨
      p.ulR < 1 ∨ p.ulR > 4 ∨ p.ulL > 0xffffffffffffffff / 8 ∨
      p.ulOffset > p.ulL ∨ resultLen > p.ulL - p.ulOffset then .CKR_MECHANISM_PARAM_INVALID
  else
    let maxCounter : UInt64 := (1 <<< (8 * p.ulR)) - 1
    if p.ulL * 8 > maxCounter * 32 ∨ p.ulOffset / 32 + 1 > maxCounter ∨
        p.ulSeedLength > 0xffffffffffffffff - 16 ∨
        p.ulLabelLength > 0xffffffffffffffff - 16 - p.ulSeedLength then .CKR_MECHANISM_PARAM_INVALID
    else .CKR_OK

def label (p : GOSTKDFTreeParams) : ByteString := (p.pLabel.getD []).take p.ulLabelLength.toNat

def seed (p : GOSTKDFTreeParams) : ByteString := (p.pSeed.getD []).take p.ulSeedLength.toNat

/-- `bitLength`: the bytes of a number without zeros in front, put before others. -/
def bitLength (bits : UInt64) (bytes : ByteString) : ByteString :=
  if _h : bits = 0 then bytes else bitLength (bits >>> 8) (bits.toUInt8 :: bytes)
termination_by bits.toNat
decreasing_by
  have hne : bits.toNat ≠ 0 := fun h0 => _h (UInt64.toNat_inj.1 h0)
  rw [UInt64.toNat_shiftRight, show (8 : UInt64).toNat % 64 = 8 from rfl, Nat.shiftRight_eq_div_pow]
  omega

/-- What is hashed for a block. -/
def message (p : GOSTKDFTreeParams) (blockIndex : UInt64) : ByteString :=
  ((List.range p.ulR.toNat).reverse.map fun j => (blockIndex >>> UInt64.ofNat (8 * j)).toUInt8) ++
    p.label ++ [0] ++ p.seed ++ bitLength (p.ulL * 8) []

section loop

variable (hmacStreebog256KDF : ByteString → ByteString → Block 32) (key : ByteString)
  (p : GOSTKDFTreeParams) (resultLen : ℕ)

/-- The body of the loop, with the result so far and the number of the block. -/
def step (s : ByteString × UInt64) : ByteString × UInt64 :=
  let block := List.ofFn (hmacStreebog256KDF key (p.message s.2))
  let blockOffset := p.ulOffset.toNat % 32
  let skip := if s.1.length = 0 then blockOffset else 0
  let take := min (32 - skip) (resultLen - s.1.length)
  (s.1 ++ (block.drop skip).take take, s.2 + 1)

lemma length_step (s : ByteString × UInt64) : (step hmacStreebog256KDF key p resultLen s).1.length =
    s.1.length + min (32 - if s.1.length = 0 then p.ulOffset.toNat % 32 else 0)
      (resultLen - s.1.length) := by
  rw [step, List.length_append, List.length_take, List.length_drop, List.length_ofFn]
  omega

/-- `while (result.size() < resultLen)`. -/
def loop (s : ByteString × UInt64) : ByteString × UInt64 :=
  if s.1.length < resultLen then loop (step hmacStreebog256KDF key p resultLen s) else s
termination_by resultLen - s.1.length
decreasing_by
  rw [length_step]
  split <;> omega

/-- Where the loop begins. -/
def start : ByteString × UInt64 := ([], p.ulOffset / 32 + 1)

end loop

end GOSTKDFTreeParams

/-- Whether a pair of keys is derived. -/
def twin (tree : Bool) (baseType keyType : CK_KEY_TYPE) : Bool :=
  tree && ((baseType = CKK_MAGMA && keyType = CKK_MAGMA_TWIN_KEY) ||
    (baseType = CKK_KUZNECHIK && keyType = CKK_KUZNECHIK_TWIN_KEY))

/-- What the template says against the key. -/
def checkValueLen (resultLen : UInt64) : List CK_ATTRIBUTE → CK_RV
  | [] => .CKR_OK
  | e :: pTemplate =>
    if e.type = CKA_VALUE then .CKR_ATTRIBUTE_READ_ONLY
    else if e.type = CKA_VALUE_LEN ∧ (e.pValue = none ∨ e.ulValueLen ≠ sizeof_CK_ULONG) then
      .CKR_ATTRIBUTE_VALUE_INVALID
    else if e.type = CKA_VALUE_LEN ∧ ulongAt e.bytes ≠ resultLen then .CKR_ATTRIBUTE_VALUE_INVALID
    else checkValueLen resultLen pTemplate

/-- `deriveGOSTKDF` as far as the value that is stored: the base key comes with its value, unless that
cannot be decrypted. -/
def deriveGOSTKDF (hmacStreebog256KDF : ByteString → ByteString → Block 32)
    (baseType keyType : CK_KEY_TYPE) (isOnToken : Bool) (pTemplate : List CK_ATTRIBUTE)
    (pParameter : GOSTKDFParameter) (baseValue : Option ByteString) : Except CK_RV ByteString :=
  let twin := match pParameter with
    | .hmac _ => twin false baseType keyType
    | .tree _ => twin true baseType keyType
  let resultLen : UInt64 := if twin then 64 else 32
  if keyType ≠ baseType ∧ !twin then .error .CKR_TEMPLATE_INCONSISTENT
  else if isOnToken then .error .CKR_TEMPLATE_INCONSISTENT
  else if checkValueLen resultLen pTemplate ≠ .CKR_OK then .error (checkValueLen resultLen pTemplate)
  else match pParameter with
    | .hmac none => .error .CKR_MECHANISM_PARAM_INVALID
    | .hmac (some bytes) =>
      if bytes.length < 4 then .error .CKR_MECHANISM_PARAM_INVALID
      else if bytes.getD 0 0 ≠ 1 ∨ bytes.getD (bytes.length - 2) 0 ≠ 1 ∨
          bytes.getD (bytes.length - 1) 0 ≠ 0 then .error .CKR_MECHANISM_PARAM_INVALID
      else match baseValue with
        | none => .error .CKR_GENERAL_ERROR
        | some key =>
          if key.length ≠ 32 then .error .CKR_KEY_SIZE_RANGE
          else .ok (List.ofFn (hmacStreebog256KDF key bytes))
    | .tree none => .error .CKR_MECHANISM_PARAM_INVALID
    | .tree (some p) =>
      if p.check resultLen ≠ .CKR_OK then .error (p.check resultLen)
      else match baseValue with
        | none => .error .CKR_GENERAL_ERROR
        | some key =>
          if key.length ≠ 32 then .error .CKR_KEY_SIZE_RANGE
          else .ok (p.loop hmacStreebog256KDF key resultLen.toNat p.start).1

namespace GOSTKDFTreeParams

variable {hmac : ByteString → ByteString → Block 32} {key : ByteString} {p : GOSTKDFTreeParams}

/-! ### The stream -/

/-- A block of the stream. -/
def K (hmac : ByteString → ByteString → Block 32) (key : ByteString) (p : GOSTKDFTreeParams) (i : ℕ) :
    Block 32 :=
  hmac key (bigEndian p.ulR.toNat i ++ p.label ++ [0] ++ p.seed ++ minimalBigEndian (8 * p.ulL.toNat))

/-- The first blocks of the stream, one after another. -/
def keyStream (hmac : ByteString → ByteString → Block 32) (key : ByteString) (p : GOSTKDFTreeParams)
    (blocks : ℕ) : ByteString :=
  (List.range blocks).flatMap fun i => List.ofFn (K hmac key p (i + 1))

/-- A byte of the stream. -/
def streamByte (hmac : ByteString → ByteString → Block 32) (key : ByteString) (p : GOSTKDFTreeParams)
    (j : ℕ) : UInt8 := K hmac key p (j / 32 + 1) ⟨j % 32, Nat.mod_lt _ (by decide)⟩

/-- Bytes of the stream from an offset on. -/
def slice (hmac : ByteString → ByteString → Block 32) (key : ByteString) (p : GOSTKDFTreeParams)
    (offset len : ℕ) : ByteString := (List.range len).map fun j => streamByte hmac key p (offset + j)

lemma length_slice (offset len : ℕ) : (slice hmac key p offset len).length = len := by
  rw [slice, List.length_map, List.length_range]

lemma slice_add (offset len len' : ℕ) : slice hmac key p offset (len + len') =
    slice hmac key p offset len ++ slice hmac key p (offset + len) len' := by
  rw [slice, List.range_add, List.map_append, List.map_map]
  simp only [slice, Function.comp_def, add_assoc]

/-- A stretch of one block. -/
lemma drop_take_block {pos len : ℕ} (h : pos % 32 + len ≤ 32) :
    ((List.ofFn (K hmac key p (pos / 32 + 1))).drop (pos % 32)).take len = slice hmac key p pos len := by
  refine List.ext_getElem ?_ fun j hj hj' => ?_
  · rw [List.length_take, List.length_drop, List.length_ofFn, length_slice]
    omega
  · rw [length_slice] at hj'
    have hdiv : (pos + j) / 32 = pos / 32 := by omega
    have hmod : (pos + j) % 32 = pos % 32 + j := by omega
    rw [List.getElem_take, List.getElem_drop, List.getElem_ofFn]
    simp only [slice, streamByte, List.getElem_map, List.getElem_range, hdiv, hmod]

lemma keyStream_eq_slice (blocks : ℕ) : keyStream hmac key p blocks = slice hmac key p 0 (32 * blocks) := by
  induction blocks with
  | zero => rfl
  | succ k ih =>
    have hdiv : (32 * k) / 32 = k := by omega
    have hmod : (32 * k) % 32 = 0 := by omega
    have hblock := @drop_take_block hmac key p (32 * k) 32 (by omega)
    rw [hdiv, hmod, List.drop_zero, List.take_of_length_le (by rw [List.length_ofFn])] at hblock
    have hk : keyStream hmac key p (k + 1) =
        keyStream hmac key p k ++ List.ofFn (K hmac key p (k + 1)) := by
      simp [keyStream, List.range_succ]
    rw [hk, ih, hblock, Nat.mul_succ, slice_add, zero_add]

/-- **A stretch of the stream** lies in as many blocks as hold it. -/
lemma slice_eq_keyStream {offset len blocks : ℕ} (h : offset + len ≤ 32 * blocks) :
    slice hmac key p offset len = ((keyStream hmac key p blocks).drop offset).take len := by
  have hsplit : 32 * blocks = offset + (len + (32 * blocks - (offset + len))) := by omega
  rw [keyStream_eq_slice, hsplit, slice_add, List.drop_left' (length_slice ..), slice_add,
    List.take_left' (length_slice ..), zero_add]

/-! ### The messages -/

lemma bitLength_eq (bits : UInt64) (bytes : ByteString) :
    bitLength bits bytes = minimalBigEndian bits.toNat ++ bytes := by
  induction bits, bytes using bitLength.induct with
  | case1 bytes =>
    rw [bitLength]
    simp [minimalBigEndian]
  | case2 bits bytes h ih =>
    have hpos : 0 < bits.toNat := Nat.pos_of_ne_zero fun h0 => h (UInt64.toNat_inj.1 h0)
    have hdiv : (bits >>> 8).toNat = bits.toNat / 256 := by
      rw [UInt64.toNat_shiftRight, show (8 : UInt64).toNat % 64 = 8 from rfl,
        Nat.shiftRight_eq_div_pow]
    have hmod : UInt8.ofNat (bits.toNat % 256) = bits.toUInt8 := by
      apply UInt8.toNat_inj.1
      rw [UInt8.toNat_ofNat', UInt64.toNat_toUInt8]
      omega
    rw [bitLength, dif_neg h, ih, minimalBigEndian, minimalBigEndian, hdiv,
      Nat.digits_def' (by decide) hpos, List.reverse_cons, List.map_append, List.append_assoc,
      List.map_singleton, hmod]
    rfl

lemma counter_eq (blockIndex : UInt64) {r : ℕ} (hr : r ≤ 8) :
    ((List.range r).reverse.map fun j => (blockIndex >>> UInt64.ofNat (8 * j)).toUInt8) =
      bigEndian r blockIndex.toNat := by
  refine List.map_congr_left fun j hj => ?_
  have hlt : j < r := List.mem_range.1 (List.mem_reverse.1 hj)
  have hshift : (UInt64.ofNat (8 * j)).toNat % 64 = 8 * j := by
    rw [UInt64.toNat_ofNat']
    omega
  have hpow : 2 ^ (8 * j) = 256 ^ j := by
    rw [pow_mul]
    rfl
  apply UInt8.toNat_inj.1
  rw [UInt64.toNat_toUInt8, UInt64.toNat_shiftRight, hshift, Nat.shiftRight_eq_div_pow, hpow,
    UInt8.toNat_ofNat']

lemma hmac_message (hr : p.ulR.toNat ≤ 8) (hl : 8 * p.ulL.toNat < 2 ^ 64) (blockIndex : UInt64) :
    hmac key (p.message blockIndex) = K hmac key p blockIndex.toNat := by
  have hbits : (p.ulL * 8).toNat = 8 * p.ulL.toNat := by
    rw [UInt64.toNat_mul, show (8 : UInt64).toNat = 8 from rfl]
    omega
  rw [message, K, counter_eq blockIndex hr, bitLength_eq, hbits, List.append_nil]

/-! ### The loop -/

/-- What holds in front of each round: the bytes up to some place are there, and the block is the one
that the place is in. -/
structure Before (hmac : ByteString → ByteString → Block 32) (key : ByteString)
    (p : GOSTKDFTreeParams) (resultLen : ℕ) (s : ByteString × UInt64) : Prop where
  bytes : s.1 = slice hmac key p p.ulOffset.toNat s.1.length
  most : s.1.length ≤ resultLen
  block : s.1.length < resultLen → s.2.toNat = (p.ulOffset.toNat + s.1.length) / 32 + 1
  begins : s.1.length ≠ 0 → s.1.length < resultLen → (p.ulOffset.toNat + s.1.length) % 32 = 0

lemma before_start (resultLen : ℕ) : Before hmac key p resultLen p.start where
  bytes := rfl
  most := Nat.zero_le _
  block _ := by
    have hlt := p.ulOffset.toNat_lt
    rw [start, UInt64.toNat_add, UInt64.toNat_div, show (32 : UInt64).toNat = 32 from rfl,
      show (1 : UInt64).toNat = 1 from rfl, List.length_nil, Nat.add_zero]
    omega
  begins h := absurd rfl h

/-- A round: as many bytes more as the block has and the key takes. -/
lemma Before.step {resultLen : ℕ} {s : ByteString × UInt64} (h : Before hmac key p resultLen s)
    (hr : p.ulR.toNat ≤ 8) (hl : 8 * p.ulL.toNat < 2 ^ 64) (hin : p.ulOffset.toNat + resultLen ≤ p.ulL.toNat)
    (hlt : s.1.length < resultLen) : Before hmac key p resultLen (step hmac key p resultLen s) := by
  have hindex := h.block hlt
  have hskip : (if s.1.length = 0 then p.ulOffset.toNat % 32 else 0) =
      (p.ulOffset.toNat + s.1.length) % 32 := by
    by_cases h0 : s.1.length = 0
    · rw [if_pos h0, h0, Nat.add_zero]
    · rw [if_neg h0, h.begins h0 hlt]
  set pos := p.ulOffset.toNat + s.1.length with hpos
  set take := min (32 - pos % 32) (resultLen - s.1.length) with htake
  have hlen : (GOSTKDFTreeParams.step hmac key p resultLen s).1.length = s.1.length + take := by
    rw [length_step, hskip]
  have hbytes : (GOSTKDFTreeParams.step hmac key p resultLen s).1 =
      slice hmac key p p.ulOffset.toNat (s.1.length + take) := by
    rw [slice_add, ← hpos, ← h.bytes, ← drop_take_block (by omega), ← hindex,
      ← hmac_message hr hl]
    simp only [GOSTKDFTreeParams.step, hskip, ← htake]
  refine ⟨by rw [hlen, hbytes], by omega, fun hlt' => ?_, fun _ hlt' => ?_⟩
  · have hsucc : (GOSTKDFTreeParams.step hmac key p resultLen s).2.toNat = s.2.toNat + 1 := by
      rw [GOSTKDFTreeParams.step, UInt64.toNat_add, show (1 : UInt64).toNat = 1 from rfl]
      omega
    rw [hlen] at hlt' ⊢
    rw [hsucc, hindex]
    omega
  · rw [hlen] at hlt' ⊢
    omega

/-- **The loop ends**: it makes some rounds, each of them for want of bytes. -/
lemma loop_rounds (resultLen : ℕ) (s : ByteString × UInt64) :
    ∃ rounds, p.loop hmac key resultLen s = (step hmac key p resultLen)^[rounds] s ∧
      (∀ i < rounds, ((step hmac key p resultLen)^[i] s).1.length < resultLen) ∧
      resultLen ≤ ((step hmac key p resultLen)^[rounds] s).1.length := by
  induction s using loop.induct hmac key p resultLen with
  | case1 s hlt ih =>
    obtain ⟨rounds, heq, hall, hend⟩ := ih
    refine ⟨rounds + 1, ?_, fun i hi => ?_, hend⟩
    · rw [loop, if_pos hlt, heq]
      rfl
    · cases i with
      | zero => exact hlt
      | succ i => exact hall i (by omega)
  | case2 s hge =>
    refine ⟨0, ?_, fun i hi => absurd hi (Nat.not_lt_zero i), Nat.not_lt.1 hge⟩
    rw [loop, if_neg hge]
    rfl

lemma before_iterate {resultLen rounds : ℕ} {s : ByteString × UInt64}
    (h : Before hmac key p resultLen s) (hr : p.ulR.toNat ≤ 8) (hl : 8 * p.ulL.toNat < 2 ^ 64)
    (hin : p.ulOffset.toNat + resultLen ≤ p.ulL.toNat)
    (hall : ∀ i < rounds, ((step hmac key p resultLen)^[i] s).1.length < resultLen) {i : ℕ}
    (hi : i ≤ rounds) : Before hmac key p resultLen ((step hmac key p resultLen)^[i] s) := by
  induction i with
  | zero => exact h
  | succ i ih =>
    rw [Function.iterate_succ_apply']
    exact (ih (by omega)).step hr hl hin (hall i (by omega))

/-! ### The limits -/

/-- A label, a seed and a width of the counter, each as it may be; the message is not longer than a
length can say. -/
structure Named (p : GOSTKDFTreeParams) : Prop where
  label : p.pLabel ≠ none
  seed : p.pSeed ≠ none
  labelLength : p.ulLabelLength ≠ 0
  seedLength : p.ulSeedLength ≠ 0
  narrowest : 1 ≤ p.ulR.toNat
  widest : p.ulR.toNat ≤ 4
  lengths : p.ulLabelLength.toNat + p.ulSeedLength.toNat + 16 < 2 ^ 64

lemma maxCounter_eq {r : UInt64} (h1 : 1 ≤ r.toNat) (h4 : r.toNat ≤ 4) :
    ((1 <<< (8 * r)) - 1 : UInt64).toNat = 256 ^ r.toNat - 1 := by
  have hcases : r = 1 ∨ r = 2 ∨ r = 3 ∨ r = 4 := by
    simp only [← UInt64.toNat_inj]
    have hnum : (1 : UInt64).toNat = 1 ∧ (2 : UInt64).toNat = 2 ∧ (3 : UInt64).toNat = 3 ∧
      (4 : UInt64).toNat = 4 := ⟨rfl, rfl, rfl, rfl⟩
    omega
  rcases hcases with rfl | rfl | rfl | rfl <;> decide

/-- **The limits** as they are: a bit for each byte of the length that the counter is good for, and
not eight. -/
lemma check_iff {resultLen : UInt64} (hn : 0 < resultLen.toNat) :
    p.check resultLen = .CKR_OK ↔ p.Named ∧ p.ulOffset.toNat + resultLen.toNat ≤ p.ulL.toNat ∧
      p.ulL.toNat ≤ 4 * (256 ^ p.ulR.toNat - 1) := by
  have hL := p.ulL.toNat_lt
  have hO := p.ulOffset.toNat_lt
  have hS := p.ulSeedLength.toNat_lt
  have hB := p.ulLabelLength.toNat_lt
  have hmax : (0xffffffffffffffff / 8 : UInt64).toNat = (2 ^ 64 - 1) / 8 := by decide
  have hmax16 : (0xffffffffffffffff - 16 : UInt64).toNat = 2 ^ 64 - 17 := by decide
  have h1 : (1 : UInt64).toNat = 1 := rfl
  have h4 : (4 : UInt64).toNat = 4 := rfl
  have hdiff : p.ulOffset.toNat ≤ p.ulL.toNat →
      (p.ulL - p.ulOffset).toNat = p.ulL.toNat - p.ulOffset.toNat := fun h =>
    UInt64.toNat_sub_of_le _ _ (UInt64.le_iff_toNat_le.2 h)
  rw [check]
  split
  · rename_i hbad
    refine ⟨fun h => (by cases h), fun ⟨hp, hin, hle⟩ => absurd hbad ?_⟩
    have hR4 : 256 ^ p.ulR.toNat ≤ 256 ^ 4 := Nat.pow_le_pow_right (by decide) hp.widest
    have hw := hp.widest
    have hm := hp.narrowest
    have hd := hdiff (by omega)
    simp only [hp.label, hp.seed, hp.labelLength, hp.seedLength, UInt64.lt_iff_toNat_lt, GT.gt, hmax,
      h1, h4, hd, false_or]
    omega
  · rename_i hgood
    simp only [not_or, UInt64.lt_iff_toNat_lt, GT.gt, h1, h4, hmax] at hgood
    obtain ⟨hlabel, hseed, hlabelLen, hseedLen, hnarrow, hwide, hL8, hoff, hroom⟩ := hgood
    rw [hdiff (by omega)] at hroom
    have hcounter := maxCounter_eq (r := p.ulR) (by omega) (by omega)
    have hR4 : 256 ^ p.ulR.toNat ≤ 256 ^ 4 := Nat.pow_le_pow_right (by decide) (by omega)
    have hR0 : 256 ^ 1 ≤ 256 ^ p.ulR.toNat := Nat.pow_le_pow_right (by decide) (by omega)
    set max : UInt64 := (1 <<< (8 * p.ulR)) - 1 with hmaxdef
    have hbits : (p.ulL * 8).toNat = 8 * p.ulL.toNat := by
      rw [UInt64.toNat_mul, show (8 : UInt64).toNat = 8 from rfl]
      omega
    have hlimit : (max * 32).toNat = 32 * (256 ^ p.ulR.toNat - 1) := by
      rw [UInt64.toNat_mul, hcounter, show (32 : UInt64).toNat = 32 from rfl]
      omega
    have hfirst : (p.ulOffset / 32 + 1).toNat = p.ulOffset.toNat / 32 + 1 := by
      rw [UInt64.toNat_add, UInt64.toNat_div, h1, show (32 : UInt64).toNat = 32 from rfl]
      omega
    have hseed16 : p.ulSeedLength.toNat ≤ 2 ^ 64 - 17 →
        (0xffffffffffffffff - 16 - p.ulSeedLength : UInt64).toNat =
          2 ^ 64 - 17 - p.ulSeedLength.toNat := by
      intro h
      rw [UInt64.toNat_sub_of_le _ _ (UInt64.le_iff_toNat_le.2 (by rw [hmax16]; exact h)), hmax16]
    dsimp only
    split
    · rename_i hbad
      refine ⟨fun h => (by cases h), fun ⟨hp, hin, hle⟩ => absurd hbad ?_⟩
      have hlen := hp.lengths
      have h16 := hseed16 (by omega)
      simp only [UInt64.lt_iff_toNat_lt, GT.gt, hbits, hlimit, hfirst, hcounter, hmax16, h16]
      omega
    · rename_i hgood'
      simp only [not_or, UInt64.lt_iff_toNat_lt, GT.gt, hbits, hlimit, hfirst, hcounter, hmax16]
        at hgood'
      obtain ⟨hlong, -, hseedmax, hlabelmax⟩ := hgood'
      rw [hseed16 (by omega)] at hlabelmax
      refine ⟨fun _ => ⟨⟨hlabel, hseed, hlabelLen, hseedLen, by omega, by omega, by omega⟩, by omega,
        by omega⟩, fun _ => rfl⟩

/-! ### The derivation of a stretch -/

/-- The bytes of a key that is derived from the stream. -/
def treeLen (baseType keyType : CK_KEY_TYPE) : UInt64 := if twin true baseType keyType then 64 else 32

lemma toNat_treeLen (baseType keyType : CK_KEY_TYPE) :
    (treeLen baseType keyType).toNat = if twin true baseType keyType then 64 else 32 := by
  rw [treeLen]
  split
  · rfl
  · rfl

variable {baseType keyType : CK_KEY_TYPE} {isOnToken : Bool} {pTemplate : List CK_ATTRIBUTE}
  {baseValue : Option ByteString} {v : ByteString}

/-- A call that is accepted but for the length of the stream and the offset. -/
structure Asked (baseType keyType : CK_KEY_TYPE) (isOnToken : Bool) (pTemplate : List CK_ATTRIBUTE)
    (p : GOSTKDFTreeParams) (baseValue : Option ByteString) : Prop where
  types : keyType = baseType ∨ twin true baseType keyType = true
  session : isOnToken = false
  template : checkValueLen (treeLen baseType keyType) pTemplate = .CKR_OK
  named : p.Named
  base : ∃ key, baseValue = some key ∧ key.length = 32

/-- What is derived, and when. -/
lemma deriveGOSTKDF_tree_ok :
    deriveGOSTKDF hmac baseType keyType isOnToken pTemplate (.tree (some p)) baseValue = .ok v ↔
      Asked baseType keyType isOnToken pTemplate p baseValue ∧
      p.ulOffset.toNat + (treeLen baseType keyType).toNat ≤ p.ulL.toNat ∧
      p.ulL.toNat ≤ 4 * (256 ^ p.ulR.toNat - 1) ∧
      v = (p.loop hmac (baseValue.getD []) (treeLen baseType keyType).toNat p.start).1 := by
  have hpos : 0 < (treeLen baseType keyType).toNat := by
    rw [toNat_treeLen]
    split <;> omega
  have hcheck := check_iff (p := p) hpos
  rw [deriveGOSTKDF]
  simp only [← treeLen.eq_1]
  by_cases htypes : keyType ≠ baseType ∧ (!twin true baseType keyType) = true
  · rw [if_pos htypes]
    refine ⟨fun h => (by cases h), fun ⟨h, _⟩ => absurd htypes ?_⟩
    rcases h.types with ht | ht
    · simp [ht]
    · simp [ht]
  rw [if_neg htypes]
  by_cases htoken : isOnToken = true
  · rw [if_pos htoken]
    exact ⟨fun h => (by cases h), fun ⟨h, _⟩ => by rw [h.session] at htoken; cases htoken⟩
  rw [if_neg htoken]
  by_cases htemplate : checkValueLen (treeLen baseType keyType) pTemplate ≠ .CKR_OK
  · rw [if_pos htemplate]
    exact ⟨fun h => (by cases h), fun ⟨h, _⟩ => absurd h.template htemplate⟩
  rw [if_neg htemplate]
  by_cases hparams : p.check (treeLen baseType keyType) ≠ .CKR_OK
  · rw [if_pos hparams]
    exact ⟨fun h => (by cases h), fun ⟨h, hin, hle, _⟩ => absurd (hcheck.2 ⟨h.named, hin, hle⟩) hparams⟩
  rw [if_neg hparams]
  obtain ⟨hnamed, hin, hle⟩ := hcheck.1 (not_not.1 hparams)
  have htypes' : keyType = baseType ∨ twin true baseType keyType = true := by
    by_cases ht : keyType = baseType
    · exact .inl ht
    · exact .inr (by simpa [ht] using htypes)
  cases baseValue with
  | none => exact ⟨fun h => (by cases h), fun ⟨h, _⟩ => by obtain ⟨_, hk, _⟩ := h.base; cases hk⟩
  | some key =>
    dsimp only
    by_cases hkey : key.length ≠ 32
    · rw [if_pos hkey]
      refine ⟨fun h => (by cases h), fun ⟨h, _⟩ => ?_⟩
      obtain ⟨_, hk, h32⟩ := h.base
      cases hk
      exact absurd h32 hkey
    · rw [if_neg hkey]
      have hasked : Asked baseType keyType isOnToken pTemplate p (some key) :=
        ⟨htypes', Bool.eq_false_iff.2 htoken, not_not.1 htemplate, hnamed, key, rfl, not_not.1 hkey⟩
      constructor
      · intro h
        cases h
        exact ⟨hasked, hin, hle, rfl⟩
      · rintro ⟨-, -, -, rfl⟩
        rfl

/-- **The loop derives the stretch**, and no number of a block is more than its bytes hold. -/
lemma loop_eq {resultLen : ℕ} (hr : p.ulR.toNat ≤ 4) (hpos : 0 < resultLen)
    (hin : p.ulOffset.toNat + resultLen ≤ p.ulL.toNat)
    (hle : p.ulL.toNat ≤ 32 * (256 ^ p.ulR.toNat - 1)) :
    (p.loop hmac key resultLen p.start).1 = slice hmac key p p.ulOffset.toNat resultLen ∧
      ∃ rounds, p.loop hmac key resultLen p.start = (step hmac key p resultLen)^[rounds] p.start ∧
        ∀ i < rounds, ((step hmac key p resultLen)^[i] p.start).2.toNat < 256 ^ p.ulR.toNat := by
  have hR4 : 256 ^ p.ulR.toNat ≤ 256 ^ 4 := Nat.pow_le_pow_right (by decide) hr
  obtain ⟨rounds, heq, hall, hend⟩ := loop_rounds (p := p) resultLen p.start
  have hbefore : ∀ i ≤ rounds, Before hmac key p resultLen ((step hmac key p resultLen)^[i] p.start) :=
    fun i hi => before_iterate (before_start resultLen) (by omega) (by omega) hin hall hi
  refine ⟨?_, rounds, heq, fun i hi => ?_⟩
  · have hlast := hbefore rounds (Nat.le_refl _)
    rw [heq, hlast.bytes, Nat.le_antisymm hlast.most hend]
  · have hblock := (hbefore i hi.le).block (hall i hi)
    have hlen := hall i hi
    omega

/-- **The derivation from the stream**: what it derives is always the stretch, so that two stretches
agree where both are; and it derives each that there is, unless the length is over a bit for each
byte that the counter is good for. -/
theorem deriveGOSTKDF_tree_iff (hmac : ByteString → ByteString → Block 32)
    (baseType keyType : CK_KEY_TYPE) (isOnToken : Bool) (pTemplate : List CK_ATTRIBUTE)
    (p : GOSTKDFTreeParams) (baseValue : Option ByteString) :
    ((∀ v, deriveGOSTKDF hmac baseType keyType isOnToken pTemplate (.tree (some p)) baseValue = .ok v →
        (∀ blocks, p.ulOffset.toNat + (treeLen baseType keyType).toNat ≤ 32 * blocks →
          v = ((keyStream hmac (baseValue.getD []) p blocks).drop p.ulOffset.toNat).take
            (treeLen baseType keyType).toNat) ∧
        (∃ rounds, p.loop hmac (baseValue.getD []) (treeLen baseType keyType).toNat p.start =
            (step hmac (baseValue.getD []) p (treeLen baseType keyType).toNat)^[rounds] p.start ∧
          ∀ i < rounds, ((step hmac (baseValue.getD []) p (treeLen baseType keyType).toNat)^[i]
            p.start).2.toNat < 256 ^ p.ulR.toNat) ∧
        ∀ ulOffset v', deriveGOSTKDF hmac baseType keyType isOnToken pTemplate
            (.tree (some { p with ulOffset := ulOffset })) baseValue = .ok v' →
          ∀ j, p.ulOffset.toNat ≤ j → j < p.ulOffset.toNat + (treeLen baseType keyType).toNat →
            ulOffset.toNat ≤ j → j < ulOffset.toNat + (treeLen baseType keyType).toNat →
            v.getD (j - p.ulOffset.toNat) 0 = v'.getD (j - ulOffset.toNat) 0) ∧
      (Asked baseType keyType isOnToken pTemplate p baseValue →
        p.ulOffset.toNat + (treeLen baseType keyType).toNat ≤ p.ulL.toNat →
        p.ulL.toNat ≤ 32 * (256 ^ p.ulR.toNat - 1) →
        ∃ v, deriveGOSTKDF hmac baseType keyType isOnToken pTemplate (.tree (some p)) baseValue = .ok v)) ↔
    ¬ (Asked baseType keyType isOnToken pTemplate p baseValue ∧
      p.ulOffset.toNat + (treeLen baseType keyType).toNat ≤ p.ulL.toNat ∧
      4 * (256 ^ p.ulR.toNat - 1) < p.ulL.toNat ∧ p.ulL.toNat ≤ 32 * (256 ^ p.ulR.toNat - 1)) := by
  have hpos : 0 < (treeLen baseType keyType).toNat := by
    rw [toNat_treeLen]
    split <;> omega
  set n := (treeLen baseType keyType).toNat with hn
  have hbyte : ∀ (q : GOSTKDFTreeParams) (offset j : ℕ), offset ≤ j → j < offset + n →
      (slice hmac (baseValue.getD []) q offset n).getD (j - offset) 0 =
        streamByte hmac (baseValue.getD []) q j := by
    intro q offset j h1 h2
    have hlt : j - offset < n := by omega
    have hj : offset + (j - offset) = j := by omega
    simp [slice, List.getD_eq_getElem?_getD, hlt, hj]
  constructor
  · rintro ⟨-, hall⟩ ⟨hasked, hin, hlong, hle⟩
    obtain ⟨v, hv⟩ := hall hasked hin hle
    have hshort := (deriveGOSTKDF_tree_ok.1 hv).2.2.1
    omega
  · intro hnot
    refine ⟨fun v hv => ?_, fun hasked hin hle => ?_⟩
    · obtain ⟨hasked, hin, hle, rfl⟩ := deriveGOSTKDF_tree_ok.1 hv
      obtain ⟨hslice, hrounds⟩ := loop_eq
        hasked.named.widest hpos hin (by omega)
      refine ⟨fun blocks hblocks => ?_, hrounds, fun ulOffset v' hv' j h1 h2 h3 h4 => ?_⟩
      · rw [hslice, slice_eq_keyStream hblocks]
      · obtain ⟨hasked', hin', hle', rfl⟩ := deriveGOSTKDF_tree_ok.1 hv'
        have hslice' := (@loop_eq hmac (baseValue.getD []) _ _ hasked'.named.widest hpos hin'
            (by dsimp only at hle' ⊢; omega)).1
        rw [hslice, hslice', hbyte p _ j h1 h2, hbyte _ _ j h3 h4]
        rfl
    · have hshort : p.ulL.toNat ≤ 4 * (256 ^ p.ulR.toNat - 1) := by
        by_contra hlong
        exact hnot ⟨hasked, hin, Nat.not_le.1 hlong, hle⟩
      exact ⟨_, deriveGOSTKDF_tree_ok.2 ⟨hasked, hin, hshort, rfl⟩⟩

/-- Thirty-two bytes of a stream of 1024, with a counter of one byte. -/
theorem refused_stretch :
    let p : GOSTKDFTreeParams := ⟨1, some [1], 1, some [2], 1, 1024, 0⟩
    Asked CKK_MAGMA CKK_MAGMA false [] p (some (List.replicate 32 0)) ∧
      p.ulOffset.toNat + 32 ≤ p.ulL.toNat ∧ p.ulL.toNat ≤ 32 * (256 ^ p.ulR.toNat - 1) ∧
      p.check 32 = .CKR_MECHANISM_PARAM_INVALID ∧
      ∀ v, deriveGOSTKDF (fun _ _ => 0) CKK_MAGMA CKK_MAGMA false [] (.tree (some p))
        (some (List.replicate 32 0)) ≠ .ok v := by
  intro p
  have hnamed : p.Named := by
    constructor <;> decide
  refine ⟨⟨.inl rfl, rfl, rfl, hnamed, _, rfl, rfl⟩, by decide, by decide, by decide, fun v hv => ?_⟩
  have hshort : p.ulL.toNat ≤ 4 * (256 ^ p.ulR.toNat - 1) := (deriveGOSTKDF_tree_ok.1 hv).2.2.1
  revert hshort
  decide

end GOSTKDFTreeParams

end SoftHSM
