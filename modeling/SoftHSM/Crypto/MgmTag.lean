import SoftHSM.Crypto.Mgm

/-!
What the authenticated mode is for: the ciphertext is the text under a key stream, the tag a sum of
products over a field. The loops compute both, in place as well, and no counter comes round within
the length limits, so a text is accepted with its tag and with no other.
-/

set_option linter.unusedSectionVars false

namespace SoftHSM.Mgm

open BinaryField Counter

section mode

variable {n : ℕ} [NeZero n] (E : Block n → Block n)

/-! ### The mode -/

/-- Byte `j` of the key stream from a counter block on. -/
def keyStream (y : Block n) (j : ℕ) : UInt8 :=
  E ((incrementHalf (n / 2) n)^[j / n] y) ⟨j % n, Nat.mod_lt _ (NeZero.pos n)⟩

def counterMode (y : Block n) (text : ByteString) : ByteString :=
  text.mapIdx fun j b => b ^^^ keyStream E y j

/-- The blocks of a text, the last one filled up with zeros. -/
def blocks (text : ByteString) : List (Block n) := (offsets n text.length).map (padded text)

/-- Two lengths in bits, each the half of a block, the highest byte first. -/
def lengths (aadLen textLen : ℕ) : Block n := fun j =>
  if j < n / 2 then UInt8.ofNat (8 * aadLen / 256 ^ (n / 2 - 1 - j))
  else UInt8.ofNat (8 * textLen / 256 ^ (n / 2 - 1 - (j - n / 2)))

/-- The sum of the products of keys and blocks, the keys from a counter block on. -/
noncomputable def productSum (z : Block n) (bs : List (Block n × ℕ)) : Block n :=
  xorSum bs fun bi => product (reduction n) (E ((incrementHalf 0 (n / 2))^[bi.2] z)) bi.1

/-- The tag over additional data and a ciphertext, before it is cut. -/
noncomputable def tag (icn : Block n) (aad cipherText : ByteString) : Block n :=
  E (productSum E (startZ E icn)
    (blocks aad ++ blocks cipherText ++ [lengths aad.length cipherText.length]).zipIdx)

/-- The ciphertext of a text. -/
def sealed (icn : Block n) (text : ByteString) : ByteString := counterMode E (startY E icn) text

/-- The tag of a text. -/
noncomputable def sealTag (icn : Block n) (aad text : ByteString) (tagLen : ℕ) : ByteString :=
  (List.ofFn (tag E icn aad (sealed E icn text))).take tagLen

/-- The counter blocks of the key stream for a text. -/
def streamCounters (icn : Block n) (len : ℕ) : List (Block n) :=
  values (n / 2) n (startY E icn) (offsets n len).length

/-- The counter blocks of the keys of the authentication. -/
def hashCounters (icn : Block n) (aadLen len : ℕ) : List (Block n) :=
  values 0 (n / 2) (startZ E icn) ((offsets n aadLen).length + (offsets n len).length + 1)

end mode

section loops

variable {n : ℕ} [NeZero n] {E : Block n → Block n}

/-! ### The field -/

lemma byte_bits : ∀ b : UInt8, (∀ j < 8, (b <<< 1).toBitVec.getLsbD j =
      (decide (0 < j) && b.toBitVec.getLsbD (j - 1))) ∧
    (∀ j < 8, (b >>> 7).toBitVec.getLsbD j = (decide (j = 0) && b.toBitVec.getLsbD 7)) ∧
    (b &&& 0x80 ≠ 0 ↔ b.toBitVec.getLsbD 7 = true) := by
  decide +kernel

/-- A byte that is shifted, with the top bit of the next one. -/
lemma getLsbD_shifted (v : Block n) {k : ℕ} (hk : k < 8 * n) (hfirst : n - 1 - k / 8 < n) :
    (v ⟨n - 1 - k / 8, hfirst⟩ <<< 1 ||| if h : n - 1 - k / 8 + 1 < n then
      v ⟨n - 1 - k / 8 + 1, h⟩ >>> 7 else 0).toBitVec.getLsbD (k % 8) =
      (decide (0 < k) && bit v (k - 1)) := by
  have hlt : k % 8 < 8 := Nat.mod_lt _ (by decide)
  rw [UInt8.toBitVec_or, BitVec.getLsbD_or, (byte_bits _).1 _ hlt]
  by_cases h0 : k % 8 = 0
  · by_cases hk0 : k = 0
    · rw [dif_neg (by omega)]
      simp [hk0]
    · have hnext : n - 1 - k / 8 + 1 < n := by omega
      have hdiv : n - 1 - (k - 1) / 8 = n - 1 - k / 8 + 1 := by omega
      have hmod : (k - 1) % 8 = 7 := by omega
      have hpos : 0 < k := by omega
      rw [dif_pos hnext, (byte_bits _).2.1 _ hlt, bit, dif_pos (by omega)]
      simp only [h0, hdiv, hmod, hpos, decide_true, decide_false, lt_irrefl, Bool.true_and,
        Bool.false_and, Bool.false_or]
  · have hdiv : (k - 1) / 8 = k / 8 := by omega
    have hmod : (k - 1) % 8 = k % 8 - 1 := by omega
    have hpos : 0 < k := by omega
    have hpos' : 0 < k % 8 := by omega
    have hnext : (if h : n - 1 - k / 8 + 1 < n then v ⟨n - 1 - k / 8 + 1, h⟩ >>> 7
        else 0).toBitVec.getLsbD (k % 8) = false := by
      split
      · rw [(byte_bits _).2.1 _ hlt, decide_eq_false h0, Bool.false_and]
      · exact BitVec.getLsbD_zero
    rw [hnext, bit, dif_pos (by omega)]
    simp only [hdiv, hmod, hpos, hpos', decide_true, Bool.true_and, Bool.or_false]

/-- The shift doubles. -/
lemma isDouble_gfDouble (v : Block n) : IsDouble (reduction n) v (gfDouble v) := by
  intro k hk
  have htop : bit v (8 * n - 1) = (v 0).toBitVec.getLsbD 7 := by
    have hdiv : n - 1 - (8 * n - 1) / 8 = 0 := by omega
    have hmod : (8 * n - 1) % 8 = 7 := by omega
    rw [bit, dif_pos (by omega)]
    simp only [hdiv, hmod]
    rfl
  have hcarry := (byte_bits (v 0)).2.2
  rw [bit, dif_pos hk, htop, gfDouble, UInt8.toBitVec_xor, BitVec.getLsbD_xor,
    getLsbD_shifted v hk (by omega)]
  congr 1
  -- what comes back
  by_cases h8 : k < 8
  · have hlast : n - 1 - k / 8 + 1 = n := by omega
    rw [Nat.mod_eq_of_lt h8, low]
    by_cases ht : (v 0).toBitVec.getLsbD 7 = true
    · rw [if_pos ⟨hlast, hcarry.2 ht⟩, ht, Bool.true_and]
    · rw [if_neg fun h => ht (hcarry.1 h.2), Bool.eq_false_iff.2 ht]
      exact BitVec.getLsbD_zero
  · have hlast : n - 1 - k / 8 + 1 ≠ n := by omega
    rw [if_neg fun h => hlast h.1, low, BitVec.getLsbD_of_ge _ k (by omega), Bool.and_false]
    exact BitVec.getLsbD_zero

lemma gfMultiply_eq (x y : Block n) : gfMultiply x y = product (reduction n) x y :=
  multiply_eq_product (NeZero.pos n) isDouble_gfDouble x y

/-! ### The text -/

lemma length_counterMode (y : Block n) (text : ByteString) :
    (counterMode E y text).length = text.length := by
  rw [counterMode, List.length_mapIdx]

/-- **Twice the key stream** is nothing. -/
lemma counterMode_counterMode (y : Block n) (text : ByteString) :
    counterMode E y (counterMode E y text) = text := by
  refine List.ext_getElem (by rw [length_counterMode, length_counterMode]) fun i _ _ => ?_
  simp [counterMode]

/-- Two stretches are one or do not meet. -/
def Apart (source out len : ℕ) : Prop := source = out ∨ source + len ≤ out ∨ out + len ≤ source

lemma xorBytes_apply {source out take : ℕ} (gamma : Block n) (m : Memory) (ht : take ≤ n)
    (h : Apart source out take) (a : ℕ) : xorBytes source out gamma take m a =
      if ha : out ≤ a ∧ a < out + take then m (source + (a - out)) ^^^ gamma ⟨a - out, by omega⟩
      else m a := by
  induction take generalizing a with
  | zero =>
    rw [dif_neg (by omega)]
    rfl
  | succ t ih =>
    have hap : Apart source out t := by
      unfold Apart at h ⊢
      omega
    have ih' := ih (by omega) hap
    have hlast : (List.finRange n)[t]? = some ⟨t, by omega⟩ := by simp [show t < n by omega]
    have hstep : xorBytes source out gamma (t + 1) m =
        Function.update (xorBytes source out gamma t m) (out + t)
          (xorBytes source out gamma t m (source + t) ^^^ gamma ⟨t, by omega⟩) := by
      rw [xorBytes, List.take_add_one, hlast, List.foldl_append]
      rfl
    -- what is read next has not been written yet
    have hread : xorBytes source out gamma t m (source + t) = m (source + t) := by
      rw [ih', dif_neg]
      unfold Apart at h
      omega
    rw [hstep, hread]
    by_cases ha : a = out + t
    · subst ha
      have hsub : out + t - out = t := by omega
      have hin : out ≤ out + t ∧ out + t < out + (t + 1) := by omega
      rw [Function.update_self, dif_pos hin]
      simp only [hsub]
    · rw [Function.update_of_ne ha, ih']
      by_cases hin : out ≤ a ∧ a < out + t
      · rw [dif_pos hin, dif_pos (by omega)]
      · rw [dif_neg hin, dif_neg (by omega)]

lemma length_offsets (len : ℕ) : (offsets n len).length = (len + n - 1) / n := by
  simp [offsets]

/-- The loop, after some rounds of it: what lies behind has not been read or written. -/
lemma foldl_ctrStep {source out len : ℕ} (h : Apart source out len) (y : Block n) (m : Memory)
    {j : ℕ} (hj : j ≤ (len + n - 1) / n) :
    (List.range j).foldl (fun ym i => ctrStep E source out len ym (n * i)) (y, m) =
      ((incrementHalf (n / 2) n)^[j] y, fun a => if out ≤ a ∧ a < out + min (n * j) len then
        m (source + (a - out)) ^^^ keyStream E y (a - out) else m a) := by
  have hn : 0 < n := NeZero.pos n
  induction j with
  | zero =>
    refine Prod.ext rfl (funext fun a => ?_)
    exact (if_neg (by omega)).symm
  | succ j ih =>
    have hlen : n * j < len := by
      have h1 : (j + 1) * n ≤ len + n - 1 := (Nat.le_div_iff_mul_le hn).1 hj
      rw [Nat.succ_mul, Nat.mul_comm] at h1
      omega
    have hsucc : n * (j + 1) = n * j + n := Nat.mul_succ n j
    set take := if len - n * j < n then len - n * j else n with htake
    have htake_le : take ≤ n := by
      rw [htake]
      split <;> omega
    have hmin : min (n * (j + 1)) len = n * j + take := by
      rw [htake]
      split <;> omega
    have hap : Apart (source + n * j) (out + n * j) take := by
      unfold Apart at h ⊢
      omega
    rw [List.range_succ, List.foldl_append, ih (by omega), List.foldl_cons, List.foldl_nil, ctrStep]
    refine Prod.ext (Function.iterate_succ_apply' ..).symm (funext fun a => ?_)
    dsimp only
    rw [← htake, xorBytes_apply _ _ htake_le hap, hmin, Nat.min_eq_left hlen.le]
    by_cases ha : out + n * j ≤ a ∧ a < out + n * j + take
    · have hread : ¬ (out ≤ source + n * j + (a - (out + n * j)) ∧
          source + n * j + (a - (out + n * j)) < out + n * j) := by
        unfold Apart at h
        omega
      have hdiv : (a - out) / n = j := by
        refine Nat.div_eq_of_lt_le ?_ ?_
        · rw [Nat.mul_comm]
          omega
        · rw [Nat.succ_mul, Nat.mul_comm]
          omega
      have hmod : (a - out) % n = a - (out + n * j) := by
        have := Nat.div_add_mod (a - out) n
        rw [hdiv] at this
        omega
      have haddr : source + n * j + (a - (out + n * j)) = source + (a - out) := by omega
      rw [dif_pos ha, if_neg hread, if_pos (by omega), haddr, keyStream]
      simp only [hdiv, hmod]
    · rw [dif_neg ha]
      by_cases hb : out ≤ a ∧ a < out + n * j
      · rw [if_pos hb, if_pos (by omega)]
      · rw [if_neg hb, if_neg (by omega)]

/-- **The loop over the text** is the counter mode, in place as well. -/
lemma ctrLoop_eq {source out len : ℕ} (h : Apart source out len) (y : Block n) (m : Memory) :
    (ctrLoop E source out len y m).2 = m.write out (counterMode E y (m.bytes source len)) := by
  have hn : 0 < n := NeZero.pos n
  have hall : len ≤ n * ((len + n - 1) / n) := by
    have := Nat.div_add_mod (len + n - 1) n
    have := Nat.mod_lt (len + n - 1) hn
    omega
  rw [ctrLoop, offsets, List.foldl_map, foldl_ctrStep h y m (Nat.le_refl _)]
  funext a
  dsimp only
  rw [Memory.write, length_counterMode, Memory.length_bytes, Nat.min_eq_right hall]
  split
  · rename_i ha
    have hlt : a - out < len := by omega
    simp [counterMode, Memory.bytes, hlt]
  · rfl

/-! ### The tag -/

/-- The loops over what is authenticated, from some index on. -/
lemma foldl_sumStep (bs : List (Block n)) (z s : Block n) (i : ℕ) :
    bs.foldl (sumStep E) ((incrementHalf 0 (n / 2))^[i] z, s) =
      ((incrementHalf 0 (n / 2))^[i + bs.length] z, s ^^^ productSum E z (bs.zipIdx i)) := by
  induction bs generalizing s i with
  | nil => simp [productSum]
  | cons b bs ih =>
    have hi : i + 1 + bs.length = i + (b :: bs).length := by
      rw [List.length_cons]
      omega
    rw [List.foldl_cons, sumStep, ← Function.iterate_succ_apply' (incrementHalf 0 (n / 2)), ih, hi,
      List.zipIdx_cons, productSum, productSum, xorSum_cons, gfMultiply_eq, xor_assoc]

lemma sumLoop_eq (text : ByteString) (zs : Block n × Block n) :
    sumLoop E text zs = (blocks text).foldl (sumStep E) zs := by
  rw [sumLoop, blocks, List.foldl_map]

lemma storeLength_eq {len bytes j : ℕ} (hlen : len ≤ 2 ^ 61 - 1) (hj : j < bytes) (h8 : bytes ≤ 8) :
    storeLength len bytes j = UInt8.ofNat (8 * len / 256 ^ (bytes - 1 - j)) := by
  have hi : bytes - 1 - j < 8 := by omega
  have hbits : (UInt64.ofNat len * 8).toNat = 8 * len := by
    rw [UInt64.toNat_mul, UInt64.toNat_ofNat', show (8 : UInt64).toNat = 8 from rfl]
    omega
  have hshift : (UInt64.ofNat (8 * (bytes - 1 - j))).toNat % 64 = 8 * (bytes - 1 - j) := by
    rw [UInt64.toNat_ofNat']
    omega
  have hpow : 2 ^ (8 * (bytes - 1 - j)) = 256 ^ (bytes - 1 - j) := by
    rw [pow_mul]
    rfl
  rw [storeLength, if_pos hi]
  apply UInt8.toNat_inj.1
  rw [UInt64.toNat_toUInt8, UInt64.toNat_shiftRight, hbits, hshift, Nat.shiftRight_eq_div_pow, hpow,
    UInt8.toNat_ofNat']

lemma lengthBlock_eq {aadLen len : ℕ} (hn : n / 2 ≤ 8) (hhalf : n = n / 2 + n / 2)
    (ha : aadLen ≤ 2 ^ 61 - 1) (hl : len ≤ 2 ^ 61 - 1) :
    lengthBlock (n := n) aadLen len = lengths aadLen len := by
  funext j
  rw [lengthBlock, lengths]
  split
  · exact storeLength_eq ha (by omega) hn
  · exact storeLength_eq hl (by omega) hn

/-- What the loops over the additional data, the ciphertext and the lengths come to. -/
lemma sumLoops (icn : Block n) (aad cipherText : ByteString) :
    ∀ zs, zs = sumLoop E cipherText (sumLoop E aad (startZ E icn, 0)) →
      E (zs.2 ^^^ gfMultiply (E zs.1) (lengths aad.length cipherText.length)) =
        tag E icn aad cipherText := by
  rintro zs rfl
  have h := foldl_sumStep (E := E) (blocks aad ++ blocks cipherText ++
    [lengths aad.length cipherText.length]) (startZ E icn) 0 0
  rw [List.foldl_append, List.foldl_append, Function.iterate_zero_apply, zero_xor] at h
  have hsum := congrArg Prod.snd h
  dsimp only at hsum
  rw [tag, ← hsum, sumLoop_eq, sumLoop_eq]
  rfl

/-! ### The comparison -/

lemma foldl_or_eq_zero {α : Type*} (l : List α) (g : α → UInt8) (s : UInt8) :
    l.foldl (fun d i => d ||| g i) s = 0 ↔ s = 0 ∧ ∀ i ∈ l, g i = 0 := by
  have hor : ∀ a b : UInt8, a ||| b = 0 ↔ a = 0 ∧ b = 0 := by
    intro a b
    rw [← UInt8.toNat_inj, ← UInt8.toNat_inj, ← UInt8.toNat_inj, UInt8.toNat_or]
    exact Nat.or_eq_zero_iff
  induction l generalizing s with
  | nil => simp
  | cons i l ih =>
    rw [List.foldl_cons, List.forall_mem_cons, ← and_assoc, ← hor]
    exact ih _

lemma equalConstantTime_iff {a b : ByteString} {len : ℕ} (ha : a.length = len) (hb : b.length = len) :
    equalConstantTime a b len = true ↔ a = b := by
  rw [equalConstantTime, decide_eq_true_iff, foldl_or_eq_zero]
  constructor
  · rintro ⟨-, h⟩
    refine List.ext_getElem (by omega) fun i hi hi' => ?_
    have := h i (List.mem_range.2 (by omega))
    rw [xor_eq_zero_iff] at this
    simpa [List.getD_eq_getElem?_getD, hi, hi'] using this
  · rintro rfl
    exact ⟨rfl, fun i _ => LawfulXor.xor_self _⟩

end loops

section messages

variable {c : Cipher} {E : Block c.blockSize → Block c.blockSize}

/-! ### Messages -/

lemma maximumMGMBytes_le (c : Cipher) : maximumMGMBytes c.blockSize ≤ 2 ^ 61 - 1 := by
  cases c with
  | KUZNECHIK => decide
  | MAGMA => decide

/-- What a call has for additional data of some length and a text of some length. -/
structure Message (c : Cipher) (icn : Block c.blockSize) (aad : Option ByteString) (aadLen len : ℕ)
    (source out : Option ℕ) (tagLen : ℕ) : Prop where
  topBit : icn 0 &&& 0x80 = 0
  aadLength : (aad.getD []).length = aadLen
  nonempty : ¬ (aadLen = 0 ∧ len = 0)
  aadMaximum : aadLen ≤ maximumMGMBytes c.blockSize
  maximum : len ≤ maximumMGMBytes c.blockSize
  tagMinimum : 4 ≤ tagLen
  tagMaximum : tagLen ≤ c.blockSize
  pointers : len = 0 ∨ source.isSome ∧ out.isSome
  apart : Apart (source.getD 0) (out.getD 0) len

variable {icn : Block c.blockSize} {aad : Option ByteString} {aadLen len : ℕ} {source out : Option ℕ}
  {tagLen : ℕ}

lemma Message.accepted (h : Message c icn aad aadLen len source out tagLen) :
    accepted true (some icn) aad aadLen len true tagLen = true := by
  have hboth := h.nonempty
  have haad : aadLen = 0 ∨ aad.isSome = true := by
    cases ha : aad with
    | some a => exact .inr rfl
    | none =>
      have := h.aadLength
      rw [ha] at this
      exact .inl this.symm
  simp only [Mgm.accepted, Option.any_some, h.topBit, h.tagMinimum, h.tagMaximum, h.aadMaximum,
    h.maximum, Bool.true_and, decide_true, Bool.and_true, Bool.and_eq_true, Bool.not_eq_true',
    Bool.or_eq_true, decide_eq_true_eq, haad, and_true]
  rw [Bool.and_eq_false_iff, decide_eq_false_iff_not, decide_eq_false_iff_not]
  omega

lemma Message.pointers_given (h : Message c icn aad aadLen len source out tagLen) :
    (len ≠ 0 && (source.isNone || out.isNone)) = false := by
  rcases h.pointers with h0 | ⟨hs, ho⟩
  · simp [h0]
  · obtain ⟨p, rfl⟩ := Option.isSome_iff_exists.1 hs
    obtain ⟨q, rfl⟩ := Option.isSome_iff_exists.1 ho
    exact Bool.and_false _

/-- **Encryption**: the ciphertext of the text, and its tag. -/
lemma Message.mgmEncrypt_eq (h : Message c icn aad aadLen len source out tagLen) (m : Memory) :
    mgmEncrypt true E (some icn) aad aadLen source len out true tagLen m =
      some (sealTag E icn (aad.getD []) (m.bytes (source.getD 0) len) tagLen,
        m.write (out.getD 0) (sealed E icn (m.bytes (source.getD 0) len))) := by
  have hlen : (sealed E icn (m.bytes (source.getD 0) len)).length = len := by
    rw [sealed, length_counterMode, Memory.length_bytes]
  have hmem : (ctrLoop E (source.getD 0) (out.getD 0) len (startY E icn) m).2 =
      m.write (out.getD 0) (sealed E icn (m.bytes (source.getD 0) len)) := ctrLoop_eq h.apart _ m
  have htext : (m.write (out.getD 0) (sealed E icn (m.bytes (source.getD 0) len))).bytes
      (out.getD 0) len = sealed E icn (m.bytes (source.getD 0) len) := by
    have := Memory.bytes_write m (out.getD 0) (sealed E icn (m.bytes (source.getD 0) len))
    rwa [hlen] at this
  have haad : (aad.getD []).take aadLen = aad.getD [] := by
    rw [← h.aadLength, List.take_length]
  have hblock : lengthBlock (n := c.blockSize) aadLen len =
      lengths (aad.getD []).length (sealed E icn (m.bytes (source.getD 0) len)).length := by
    rw [h.aadLength, hlen]
    refine lengthBlock_eq ?_ ?_ (h.aadMaximum.trans (maximumMGMBytes_le c))
      (h.maximum.trans (maximumMGMBytes_le c))
    · cases c <;> decide
    · cases c <;> decide
  have hrefused : (!Mgm.accepted true (some icn) aad aadLen len true tagLen ||
      len ≠ 0 && (source.isNone || out.isNone)) = false := by
    rw [h.accepted, h.pointers_given]
    rfl
  have hsum := sumLoops (E := E) icn (aad.getD []) (sealed E icn (m.bytes (source.getD 0) len)) _ rfl
  rw [mgmEncrypt, hrefused]
  simp only [Bool.false_eq_true, if_false, Option.getD_some, hmem, htext, haad, hblock, hsum]
  rfl

/-- **Decryption**: the text comes with its tag, and with no other. -/
lemma Message.mgmDecrypt_eq (h : Message c icn aad aadLen len source out tagLen) (m : Memory)
    {t : ByteString} (ht : t.length = tagLen) :
    mgmDecrypt true E (some icn) aad aadLen source len (some t) tagLen out m =
      if t = sealTag E icn (aad.getD []) (sealed E icn (m.bytes (source.getD 0) len)) tagLen then
        (true, m.write (out.getD 0) (sealed E icn (m.bytes (source.getD 0) len)))
      else (false, m.write (out.getD 0) (List.replicate len 0)) := by
  set s := source.getD 0 with hs
  set o := out.getD 0 with ho
  set cipherText := m.bytes s len with hcipher
  set text := sealed E icn cipherText with htext
  have hclen : cipherText.length = len := Memory.length_bytes ..
  have htlen : text.length = len := by rw [htext, sealed, length_counterMode, hclen]
  -- the text, then the ciphertext again
  have hfirst : (ctrLoop E s o len (startY E icn) m).2 = m.write o text := ctrLoop_eq h.apart _ m
  have hsecond : mgmEncrypt true E (some icn) aad aadLen (some o) len (some o) true tagLen
      (m.write o text) = some (sealTag E icn (aad.getD []) text tagLen, m.write o cipherText) := by
    have hplace : Message c icn aad aadLen len (some o) (some o) tagLen :=
      { h with pointers := .inr ⟨rfl, rfl⟩, apart := .inl rfl }
    have hread : (m.write o text).bytes o len = text := by
      rw [← htlen]
      exact Memory.bytes_write m o text
    have hback : sealed E icn text = cipherText := counterMode_counterMode _ _
    rw [hplace.mgmEncrypt_eq, Option.getD_some, hread, hback,
      Memory.write_write _ _ (htlen.trans hclen.symm)]
  -- the text once more, read from where the ciphertext is
  have hthird : (ctrLoop E s o len (startY E icn) (m.write o cipherText)).2 = m.write o text := by
    have hread : (m.write o cipherText).bytes s len = cipherText := by
      rcases h.apart with heq | hap
      · rw [show s = o from heq, ← hclen]
        exact Memory.bytes_write m o cipherText
      · refine Memory.bytes_congr fun a h1 h2 => Memory.write_of_outside _ _ _ ?_
        rw [hclen]
        omega
    rw [ctrLoop_eq h.apart, hread, ← Memory.write_write m o (hclen.trans htlen.symm)]
    rfl
  have hzero : (m.write o cipherText).write o (List.replicate len 0) =
      m.write o (List.replicate len 0) :=
    Memory.write_write _ _ (hclen.trans List.length_replicate.symm)
  have hslen : (sealTag E icn (aad.getD []) text tagLen).length = tagLen := by
    rw [sealTag, List.length_take, List.length_ofFn]
    exact Nat.min_eq_left h.tagMaximum
  have hequal := equalConstantTime_iff hslen ht
  rw [mgmDecrypt, h.pointers_given]
  simp only [Bool.false_eq_true, if_false, Option.isSome_some, h.accepted, Bool.not_true,
    Option.getD_some, ← hs, ← ho, hfirst, hsecond, hthird, hzero]
  by_cases heq : t = sealTag E icn (aad.getD []) text tagLen
  · rw [hequal.2 heq.symm, if_pos heq]
    rfl
  · have hne : equalConstantTime (sealTag E icn (aad.getD []) text tagLen) t tagLen = false :=
      Bool.eq_false_iff.2 fun h => heq (hequal.1 h).symm
    rw [hne, if_neg heq]
    rfl

/-! ### Counters -/

lemma rounds_le (h : Message c icn aad aadLen len source out tagLen) :
    (offsets c.blockSize len).length ≤ 256 ^ (c.blockSize - c.blockSize / 2) ∧
      (offsets c.blockSize aadLen).length + (offsets c.blockSize len).length + 1 ≤
        256 ^ (c.blockSize / 2 - 0) := by
  have haad := h.aadMaximum
  have hlen := h.maximum
  rw [length_offsets, length_offsets]
  cases c with
  | KUZNECHIK =>
    have hmax : maximumMGMBytes 16 = 2 ^ 61 - 1 := by decide
    simp only [Cipher.blockSize, hmax] at haad hlen ⊢
    omega
  | MAGMA =>
    have hmax : maximumMGMBytes 8 = 2 ^ 29 - 1 := by decide
    simp only [Cipher.blockSize, hmax] at haad hlen ⊢
    omega

/-- A counter block that is one of the key stream and one of the authentication has its halves from
the two first ones. -/
lemma halves_of_mem (x : Block c.blockSize) (hy : x ∈ streamCounters E icn len)
    (hz : x ∈ hashCounters E icn aadLen len) :
    x = fun i : Fin c.blockSize =>
      if (i : ℕ) < c.blockSize / 2 then startY E icn i else startZ E icn i := by
  obtain ⟨j, -, rfl⟩ := List.mem_map.1 hy
  obtain ⟨k, -, hk⟩ := List.mem_map.1 hz
  funext i
  split
  · rename_i hi
    exact iterate_outside _ i (.inl hi) j
  · rename_i hi
    rw [← hk]
    exact iterate_outside _ i (.inr (by omega)) k

/-- **The mode** for every permutation: encryption has the ciphertext and the tag; decryption has
the text with this tag and with no other, and leaves zeros otherwise; neither counter comes round,
and what the two have in common is one block at most. -/
theorem mgm_authenticates (c : Cipher) (E : Equiv.Perm (Block c.blockSize)) {icn : Block c.blockSize}
    {aad : Option ByteString} {aadLen len : ℕ} {source out : Option ℕ} {tagLen : ℕ}
    (h : Message c icn aad aadLen len source out tagLen) (m : Memory) :
    (mgmEncrypt true E (some icn) aad aadLen source len out true tagLen m =
      some (sealTag E icn (aad.getD []) (m.bytes (source.getD 0) len) tagLen,
        m.write (out.getD 0) (sealed E icn (m.bytes (source.getD 0) len)))) ∧
    (∀ t : ByteString, t.length = tagLen →
      ∃ text : ByteString, sealed E icn text = m.bytes (source.getD 0) len ∧
        mgmDecrypt true E (some icn) aad aadLen source len (some t) tagLen out m =
          if t = sealTag E icn (aad.getD []) text tagLen then (true, m.write (out.getD 0) text)
          else (false, m.write (out.getD 0) (List.replicate len 0))) ∧
    (streamCounters E icn len).Nodup ∧ (hashCounters E icn aadLen len).Nodup ∧
    ∀ x ∈ streamCounters E icn len, ∀ x' ∈ streamCounters E icn len,
      x ∈ hashCounters E icn aadLen len → x' ∈ hashCounters E icn aadLen len → x = x' := by
  obtain ⟨hy, hz⟩ := rounds_le h
  refine ⟨h.mgmEncrypt_eq m, fun t ht => ?_, nodup_values (Nat.le_refl _) hy _,
    nodup_values (Nat.div_le_self _ _) hz _, fun x hx x' hx' hxz hxz' => ?_⟩
  · exact ⟨sealed E icn (m.bytes (source.getD 0) len), counterMode_counterMode _ _,
      h.mgmDecrypt_eq m ht⟩
  · rw [halves_of_mem x hx hxz, halves_of_mem x' hx' hxz']

/-- Three bytes in place. -/
lemma message_in_place : Message .MAGMA 0 none 0 3 (some 0) (some 0) 4 where
  topBit := by decide
  aadLength := rfl
  nonempty := by omega
  aadMaximum := by decide
  maximum := by decide
  tagMinimum := by decide
  tagMaximum := by decide
  pointers := .inr ⟨rfl, rfl⟩
  apart := .inl rfl

theorem mgm_authenticates_in_place : ∃ t : ByteString,
    mgmEncrypt true (Equiv.refl (Block 8)) (some 0) none 0 (some 0) 3 (some 0) true 4 (fun _ => 1) =
      some (t, Memory.write (fun _ => 1) 0
        (sealed (Equiv.refl (Block 8)) 0 (Memory.bytes (fun _ => 1) 0 3))) :=
  ⟨_, (mgm_authenticates .MAGMA (Equiv.refl _) message_in_place fun _ => 1).1⟩

/-- The second key of the authentication comes from the first block of the key stream, where the
permutation makes it so. -/
theorem counters_meet :
    let z : Block 16 := fun i => if i < 8 then 0xff else 0
    let E : Equiv.Perm (Block 16) := Equiv.swap (Function.update (0 : Block 16) 0 0x80) z
    accepted true (some (0 : Block 16)) none 0 16 true 16 = true ∧
      ¬ (streamCounters (n := 16) E 0 16 ++ hashCounters (n := 16) E 0 0 16).Nodup := by
  intro z E
  refine ⟨by decide, fun hnodup => ?_⟩
  have hy : startY E (0 : Block 16) = 0 := by
    have hzero : Function.update (0 : Block 16) 0 ((0 : Block 16) 0 &&& 0x7f) = 0 := by decide
    rw [startY, hzero]
    exact Equiv.swap_apply_of_ne_of_ne (by decide) (by decide)
  have hz : startZ E (0 : Block 16) = z := by
    have htop : Function.update (0 : Block 16) 0 ((0 : Block 16) 0 ||| 0x80) =
        Function.update (0 : Block 16) 0 0x80 := by decide
    rw [startZ, htop]
    exact Equiv.swap_apply_left ..
  have hround : incrementHalf 0 8 z = 0 := by decide
  have hstream : (0 : Block 16) ∈ streamCounters (n := 16) E 0 16 :=
    List.mem_map.2 ⟨0, by decide, hy⟩
  have hhash : (0 : Block 16) ∈ hashCounters (n := 16) E 0 0 16 := by
    refine List.mem_map.2 ⟨1, by decide, ?_⟩
    rw [hz]
    exact hround
  exact (List.nodup_append.1 hnodup).2.2 0 hstream 0 hhash rfl

end messages

end SoftHSM.Mgm
