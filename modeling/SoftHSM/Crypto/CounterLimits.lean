import SoftHSM.Crypto.MeshingModes
import SoftHSM.Lib.Numeral

/-!
How much may be encrypted before a counter comes round: the limit that both backends compute from
the first counter block, the count that they keep and the check in front of every update, and the
counters of a stream whose key changes after every section.
-/

namespace SoftHSM

open Crypt (SymMode)
open Mgm (Cipher)

/-! ### Numbers bit by bit -/

/-- `BN_mask_bits` and `mask_bits`. -/
def maskBits (a n : ℕ) : ℕ := a % 2 ^ n

def setBit (a n : ℕ) : ℕ := a ||| 2 ^ n

def clearBit (a n : ℕ) : ℕ := if a.testBit n then a ^^^ 2 ^ n else a

/-- The loop that turns the lowest bits round, from the highest of them. -/
def reverseBits : ℕ → ℕ → ℕ
  | 0, counter => counter
  | n + 1, counter => reverseBits n (if counter.testBit n then clearBit counter n else setBit counter n)

/-- The block size of the only cipher with a counter field. -/
def aesBlockSize : ℕ := 16

/-! ### The backends -/

namespace OSSLEVPSymmetricAlgorithm

/-- What there is of the numbers, which are allocated only for a counter. -/
structure Limits where
  maximumBytes : Option ℕ
  counterBytes : Option ℕ

def counterBitsInit (iv : ByteString) (counterBits : ℕ) : Limits :=
  if counterBits > 0 then
    let counter := reverseBits counterBits (maskBits (Tlv.value iv) counterBits)
    ⟨some ((counter + 1) * aesBlockSize), some 0⟩
  else ⟨none, none⟩

def checkMaximumBytes (l : Limits) (bytes : ℕ) : Bool :=
  match l.maximumBytes with
  | none => true
  | some maximumBytes => l.counterBytes.getD 0 + bytes ≤ maximumBytes

/-- What `encryptUpdate` and `decryptUpdate` count. -/
def update (l : Limits) (data : ByteString) : Limits :=
  if data.length = 0 then l
  else if l.maximumBytes.isSome then { l with counterBytes := l.counterBytes.map (· + data.length) }
  else l

end OSSLEVPSymmetricAlgorithm

namespace BotanSymmetricAlgorithm

/-- A negative maximum is none. -/
structure Limits where
  maximumBytes : ℤ
  counterBytes : ℤ

def init (iv : ByteString) (counterBits : ℕ) (old : Limits) : Limits :=
  if counterBits > 0 then
    let counter := reverseBits counterBits (maskBits (Tlv.value iv) counterBits)
    ⟨(counter + 1) * aesBlockSize, 0⟩
  else { old with maximumBytes := -1 }

def checkMaximumBytes (l : Limits) (bytes : ℕ) : Bool :=
  if l.maximumBytes < 0 then true else l.counterBytes + bytes ≤ l.maximumBytes

/-- What `encryptUpdate` and `decryptUpdate` count. -/
def update (l : Limits) (data : ByteString) : Limits :=
  if 0 ≤ l.maximumBytes then { l with counterBytes := l.counterBytes + data.length } else l

end BotanSymmetricAlgorithm

/-! ### An operation -/

/-- What a backend does with the limit. -/
structure Backend where
  Limits : Type
  init : ByteString → ℕ → Limits
  checkMaximumBytes : Limits → ℕ → Bool
  update : Limits → ByteString → Limits

def openssl : Backend where
  Limits := OSSLEVPSymmetricAlgorithm.Limits
  init := OSSLEVPSymmetricAlgorithm.counterBitsInit
  checkMaximumBytes := OSSLEVPSymmetricAlgorithm.checkMaximumBytes
  update := OSSLEVPSymmetricAlgorithm.update

/-- With what is there from the constructor or an operation before. -/
def botan (old : BotanSymmetricAlgorithm.Limits) : Backend where
  Limits := BotanSymmetricAlgorithm.Limits
  init iv counterBits := BotanSymmetricAlgorithm.init iv counterBits old
  checkMaximumBytes := BotanSymmetricAlgorithm.checkMaximumBytes
  update := BotanSymmetricAlgorithm.update

/-- The updates of an operation that the layer above lets through: a refused one ends it. -/
def Backend.letsThrough (b : Backend) (l : b.Limits) : List ByteString → Bool
  | [] => true
  | data :: chunks => b.checkMaximumBytes l data.length && b.letsThrough (b.update l data) chunks

/-- The counter blocks of so many bytes: all of the first block is counted up. -/
def counterBlocks (cb : Block 16) (bytes : ℕ) : List (Block 16) :=
  Counter.values 0 16 cb (Chained.pieces aesBlockSize bytes)

/-- The number in the last bits of a counter block, and the rest. -/
def counterField (n : ℕ) (cb : Block 16) : ℕ := Counter.number 0 16 cb % 2 ^ n

def fixedPart (n : ℕ) (cb : Block 16) : ℕ := Counter.number 0 16 cb / 2 ^ n

/-! ### The limit -/

lemma testBit_setBit (a n i : ℕ) : (setBit a n).testBit i = (a.testBit i || decide (n = i)) := by
  rw [setBit, Nat.testBit_or, Nat.testBit_two_pow]

lemma testBit_clearBit (a n i : ℕ) :
    (clearBit a n).testBit i = (a.testBit i && !decide (n = i)) := by
  rw [clearBit]
  split
  · rename_i h
    rw [Nat.testBit_xor, Nat.testBit_two_pow]
    by_cases hni : n = i
    · subst hni
      simp [h]
    · simp [hni]
  · rename_i h
    by_cases hni : n = i
    · subst hni
      simp [h]
    · simp [hni]

lemma testBit_reverseBits (n a i : ℕ) :
    (reverseBits n a).testBit i = if i < n then !a.testBit i else a.testBit i := by
  induction n generalizing a with
  | zero => rfl
  | succ n ih =>
    rw [reverseBits, ih]
    by_cases hin : i = n
    · subst hin
      cases h : a.testBit i with
      | false => simp [h, testBit_setBit]
      | true => simp [h, testBit_clearBit]
    · have hiff : i < n + 1 ↔ i < n := by omega
      have hsame : (if a.testBit n then clearBit a n else setBit a n).testBit i = a.testBit i := by
        have hne : ¬ n = i := fun h => hin h.symm
        split
        · simp [testBit_clearBit, hne]
        · simp [testBit_setBit, hne]
      rw [hsame]
      simp only [hiff]

/-- **The bits turned round** are the distance to the last value of the counter. -/
lemma reverseBits_maskBits (n a : ℕ) : reverseBits n (maskBits a n) + 1 = 2 ^ n - a % 2 ^ n := by
  have hlt : a % 2 ^ n < 2 ^ n := Nat.mod_lt _ (Nat.two_pow_pos n)
  have hrev : reverseBits n (maskBits a n) = 2 ^ n - (a % 2 ^ n + 1) := by
    refine Nat.eq_of_testBit_eq fun i => ?_
    rw [testBit_reverseBits, Nat.testBit_two_pow_sub_succ hlt, maskBits]
    by_cases hi : i < n
    · simp [hi]
    · simp [hi]
  omega

lemma value_ofFn_take (v : Block 16) {e : ℕ} (he : e ≤ 16) :
    Tlv.value ((List.ofFn v).take e) = Counter.number 0 e v := by
  induction e with
  | zero => rfl
  | succ e ih =>
    have hlt : e < (List.ofFn v).length := by
      rw [List.length_ofFn]
      omega
    have hone : Tlv.value [(List.ofFn v)[e]] = (v ⟨e, by omega⟩).toNat := by
      rw [List.getElem_ofFn]
      simp [Tlv.value]
    rw [List.take_succ_eq_append_getElem hlt, Numeral.value_append, ih (by omega), hone,
      Counter.number, if_neg (by omega), dif_pos (by omega)]
    rfl

lemma value_ofFn (v : Block 16) : Tlv.value (List.ofFn v) = Counter.number 0 16 v := by
  rw [← value_ofFn_take v (Nat.le_refl 16), List.take_of_length_le (by simp)]

/-- The most that may be encrypted from a counter block on. -/
def most (n : ℕ) (cb : Block 16) : ℕ := (2 ^ n - counterField n cb) * 16

/-- What a backend keeps while a limit is watched: what was let through so far. -/
structure Backend.Watches (b : Backend) (limit : ℕ) (R : b.Limits → ℕ → Prop) : Prop where
  check : ∀ l sofar bytes, R l sofar → (b.checkMaximumBytes l bytes = true ↔ sofar + bytes ≤ limit)
  update : ∀ l sofar data, R l sofar → R (b.update l data) (sofar + data.length)

/-- **The updates** that are let through are those that stay within the limit together. -/
lemma Backend.Watches.letsThrough_iff {b : Backend} {limit : ℕ} {R : b.Limits → ℕ → Prop}
    (h : b.Watches limit R) (chunks : List ByteString) {l : b.Limits} {sofar : ℕ} (hl : R l sofar)
    (hle : sofar ≤ limit) :
    b.letsThrough l chunks = true ↔ sofar + chunks.flatten.length ≤ limit := by
  induction chunks generalizing l sofar with
  | nil => simpa [Backend.letsThrough] using hle
  | cons data chunks ih =>
    rw [Backend.letsThrough, Bool.and_eq_true, h.check l sofar _ hl, List.flatten_cons,
      List.length_append]
    constructor
    · rintro ⟨hdata, hrest⟩
      have := (ih (h.update l sofar data hl) hdata).1 hrest
      omega
    · intro hall
      have hdata : sofar + data.length ≤ limit := by omega
      exact ⟨hdata, (ih (h.update l sofar data hl) hdata).2 (by omega)⟩

lemma openssl_watches (limit : ℕ) :
    openssl.Watches limit fun l sofar => l = ⟨some limit, some sofar⟩ where
  check l sofar bytes hl := by
    subst hl
    exact decide_eq_true_iff
  update l sofar data hl := by
    subst hl
    by_cases h0 : data.length = 0
    · rw [h0]
      exact if_pos h0
    · exact if_neg h0

lemma botan_watches (old : BotanSymmetricAlgorithm.Limits) (limit : ℕ) :
    (botan old).Watches limit fun l sofar => l = ⟨limit, sofar⟩ where
  check l sofar bytes hl := by
    subst hl
    have hpos : ¬ ((limit : ℤ) < 0) := by omega
    change (if (limit : ℤ) < 0 then true else decide ((sofar : ℤ) + bytes ≤ limit)) = true ↔ _
    rw [if_neg hpos, decide_eq_true_iff]
    omega
  update l sofar data hl := by
    subst hl
    have hpos : (0 : ℤ) ≤ limit := by omega
    have hupdate : BotanSymmetricAlgorithm.update ⟨limit, sofar⟩ data =
        ⟨limit, (sofar : ℤ) + data.length⟩ := if_pos hpos
    rw [Nat.cast_add]
    exact hupdate

lemma counter_limit (n : ℕ) (cb : Block 16) :
    (reverseBits n (maskBits (Tlv.value (List.ofFn cb)) n) + 1) * aesBlockSize = most n cb := by
  rw [reverseBits_maskBits, value_ofFn]
  rfl

/-- **Both backends** let through just what fits under the limit. -/
lemma letsThrough_iff {b : Backend} (hb : b = openssl ∨ ∃ old, b = botan old) {n : ℕ} (hn : 1 ≤ n)
    (cb : Block 16) (chunks : List ByteString) :
    b.letsThrough (b.init (List.ofFn cb) n) chunks = true ↔ chunks.flatten.length ≤ most n cb := by
  have hpos : n > 0 := hn
  rcases hb with rfl | ⟨old, rfl⟩
  · have hinit : openssl.init (List.ofFn cb) n = ⟨some (most n cb), some 0⟩ := by
      rw [← counter_limit]
      exact if_pos hpos
    have h := (openssl_watches (most n cb)).letsThrough_iff chunks hinit (Nat.zero_le _)
    rwa [Nat.zero_add] at h
  · have hinit : (botan old).init (List.ofFn cb) n = ⟨((most n cb : ℕ) : ℤ), ((0 : ℕ) : ℤ)⟩ := by
      rw [← counter_limit]
      push_cast
      exact if_pos hpos
    have h := (botan_watches old (most n cb)).letsThrough_iff chunks hinit (Nat.zero_le _)
    rwa [Nat.zero_add] at h

/-- A counter that starts in its field and stays below the end of it leaves the rest alone. -/
lemma number_counterBlock {n : ℕ} (hn : n ≤ 128) (cb : Block 16) {i : ℕ}
    (hi : i < 2 ^ n - counterField n cb) :
    Counter.number 0 16 ((Counter.increment 0 16)^[i] cb) = Counter.number 0 16 cb + i := by
  have hlt := Counter.number_lt 0 16 cb
  have hpow : (256 : ℕ) ^ (16 - 0) = 2 ^ (128 - n) * 2 ^ n := by
    rw [← pow_add, Nat.sub_add_cancel hn]
    norm_num
  have hdiv := Nat.div_add_mod (Counter.number 0 16 cb) (2 ^ n)
  have hhigh : Counter.number 0 16 cb / 2 ^ n < 2 ^ (128 - n) := by
    rw [Nat.div_lt_iff_lt_mul (Nat.two_pow_pos n), ← hpow]
    exact hlt
  rw [Counter.number_iterate (Nat.le_refl 16), Nat.mod_eq_of_lt]
  rw [hpow]
  rw [counterField] at hi
  calc Counter.number 0 16 cb + i
      < 2 ^ n * (Counter.number 0 16 cb / 2 ^ n) + 2 ^ n := by omega
    _ = (Counter.number 0 16 cb / 2 ^ n + 1) * 2 ^ n := by ring
    _ ≤ 2 ^ (128 - n) * 2 ^ n := Nat.mul_le_mul_right _ hhigh

lemma pieces_le {n bytes : ℕ} {cb : Block 16} (h : bytes ≤ most n cb) :
    Chained.pieces aesBlockSize bytes ≤ 2 ^ n - counterField n cb := by
  rw [Chained.pieces, aesBlockSize]
  rw [most] at h
  omega

/-- **Within the limit** no counter block comes twice, and the rest of the block stays. -/
lemma counterBlocks_distinct {n : ℕ} (hn : n ≤ 128) {cb : Block 16} {bytes : ℕ}
    (h : bytes ≤ most n cb) :
    (counterBlocks cb bytes).Nodup ∧
      ∀ x ∈ counterBlocks cb bytes, fixedPart n x = fixedPart n cb := by
  have hle := pieces_le h
  have hpow : 2 ^ n ≤ 256 ^ (16 - 0) := by
    calc 2 ^ n ≤ 2 ^ 128 := Nat.pow_le_pow_right (by decide) hn
      _ = 256 ^ (16 - 0) := by norm_num
  refine ⟨Counter.nodup_values (Nat.le_refl 16) (by omega) cb, fun x hx => ?_⟩
  obtain ⟨i, hi, rfl⟩ := List.mem_map.1 hx
  have hlt : i < 2 ^ n - counterField n cb := Nat.lt_of_lt_of_le (List.mem_range.1 hi) hle
  rw [fixedPart, fixedPart, number_counterBlock hn cb hlt]
  rw [counterField] at hlt
  have hdiv := Nat.div_add_mod (Counter.number 0 16 cb) (2 ^ n)
  rw [Nat.div_eq_iff (Nat.two_pow_pos n)]
  constructor
  · rw [Nat.mul_comm]
    omega
  · rw [Nat.mul_comm]
    omega

/-! ### The stream with sections -/

namespace GOSTSymmetricAlgorithm

variable {o : ByteOrder} {cf : Cipher}

/-- No new section starts behind block `i` up to block `j`. -/
def SameSection (cf : Cipher) (sectionLen i j : ℕ) : Prop :=
  ∀ k, i < k → k ≤ j →
    ¬ (sectionLen ≠ 0 ∧ cf.blockSize * k ≠ 0 ∧ cf.blockSize * k % sectionLen = 0)

/-- No counter comes twice in one section of a text. -/
def CountersDistinct (o : ByteOrder) (a : GOSTSymmetricAlgorithm cf) (input : ByteString) : Prop :=
  ∀ i j, i < j → j < Chained.pieces cf.blockSize input.length →
    SameSection cf (sectionBytes (loadBE32 a.parameters)) i j →
      (a.registersAt o input i).map Registers.counter ≠ (a.registersAt o input j).map Registers.counter

lemma counter_after (sectionLen : ℕ) (input : ByteString) (s : Registers cf) (k : ℕ) :
    (Chained.after cf.blockSize (acpkmStep o sectionLen) input s k).1.counter =
      incrementCounter^[k] s.counter := by
  induction k with
  | zero => rfl
  | succ k ih =>
    rw [Chained.after_succ, Function.iterate_succ_apply', ← ih]
    rfl

/-- Inside a section the key stays. -/
lemma cipher_after (sectionLen : ℕ) (input : ByteString) (s : Registers cf) {i j : ℕ} (hij : i ≤ j)
    (h : SameSection cf sectionLen i j) :
    (acpkmStep o sectionLen (cf.blockSize * j)
        (Chained.after cf.blockSize (acpkmStep o sectionLen) input s j).1 []).1.cipher =
      (acpkmStep o sectionLen (cf.blockSize * i)
        (Chained.after cf.blockSize (acpkmStep o sectionLen) input s i).1 []).1.cipher := by
  induction j, hij using Nat.le_induction with
  | base => rfl
  | succ j hij ih =>
    have hno := h (j + 1) (by omega) (Nat.le_refl _)
    rw [← ih fun k hik hkj => h k hik (by omega), Chained.after_succ]
    simp only [acpkmStep, if_neg hno]
    rfl

/-- Two counters are the same where their distance is a multiple of the number of their values. -/
lemma iterate_counter_eq_iff (c : Block cf.blockSize) (i j : ℕ) :
    incrementCounter^[i] c = incrementCounter^[j] c ↔
      i ≡ j [MOD 256 ^ (cf.blockSize - cf.blockSize / 2)] := by
  have hn : ∀ k, Counter.number (cf.blockSize / 2) cf.blockSize (incrementCounter^[k] c) =
      (Counter.number (cf.blockSize / 2) cf.blockSize c + k) %
        256 ^ (cf.blockSize - cf.blockSize / 2) :=
    Counter.number_iterate (Nat.le_refl _) c
  constructor
  · intro h
    have hsame := (hn i).symm.trans ((congrArg _ h).trans (hn j))
    exact Nat.ModEq.add_left_cancel' _ hsame
  · intro h
    have hsum : Counter.number (cf.blockSize / 2) cf.blockSize (incrementCounter^[i] c) =
        Counter.number (cf.blockSize / 2) cf.blockSize (incrementCounter^[j] c) := by
      rw [hn, hn]
      exact Nat.ModEq.add_left _ h
    refine Counter.eq_of_number (Nat.le_refl _) hsum fun k hk => ?_
    have hout : k < cf.blockSize / 2 ∨ cf.blockSize ≤ k := by omega
    exact (Counter.iterate_outside c k hout i).trans (Counter.iterate_outside c k hout j).symm

/-- The cipher that block `k` is encrypted with. -/
def cipherAt (o : ByteOrder) (a : GOSTSymmetricAlgorithm cf) (input : ByteString) (k : ℕ) :
    Option (GOSTSymmetric cf) :=
  (a.registersAt o input k).map fun r =>
    (acpkmStep o (sectionBytes (loadBE32 a.parameters)) (cf.blockSize * k) r []).1.cipher

section started

variable {a : GOSTSymmetricAlgorithm cf} {encrypt : Bool} {iv : ByteString} {key : SymmetricKey}
  {g : GOSTSymmetric cf}

lemma cipherAt_eq (h : Started o a encrypt iv key g) (input : ByteString) {i j : ℕ} (hij : i ≤ j)
    (hs : SameSection cf (sectionBytes (loadBE32 iv)) i j) :
    a.cipherAt o input j = a.cipherAt o input i := by
  rw [cipherAt, cipherAt, registersAt_eq h, registersAt_eq h, h.parameters]
  exact congrArg some (cipher_after _ input _ hij hs)

lemma half_blockSize (cf : Cipher) : cf.blockSize - cf.blockSize / 2 = cf.blockSize / 2 := by
  cases cf <;> rfl

/-- An accepted period that is not zero is so many blocks. -/
lemma section_of_accepts {params : ByteString} (h : acpkmAccepts cf params = true)
    (h0 : loadBE32 params ≠ 0) :
    ∃ m, 0 < m ∧ m < 256 ^ (cf.blockSize / 2) ∧
      sectionBytes (loadBE32 params) = cf.blockSize * m := by
  have hlt : loadBE32 params < 2 ^ 32 := UInt32.toNat_lt _
  rw [acpkmAccepts, decide_eq_true_iff] at h
  obtain ⟨-, hperiod⟩ := h
  push Not at hperiod
  obtain ⟨hle, hmod⟩ := hperiod h0
  refine ⟨loadBE32 params / (cf.blockSize * 8), ?_, ?_, ?_⟩
  · exact Nat.div_pos hle (Nat.mul_pos (blockSize_pos cf) (by decide))
  · cases cf with
    | KUZNECHIK =>
      change loadBE32 params / (16 * 8) < 256 ^ 8
      omega
    | MAGMA =>
      change loadBE32 params / (8 * 8) < 256 ^ 4
      omega
  · rw [sectionBytes, Nat.mul_comm cf.blockSize 8, ← Nat.div_div_eq_div_mul]
    refine (Nat.mul_div_cancel' ?_).symm
    have hdvd : cf.blockSize * 8 ∣ loadBE32 params := Nat.dvd_of_mod_eq_zero hmod
    exact Nat.dvd_div_of_mul_dvd (by rwa [Nat.mul_comm])

/-- Blocks of one section are nearer to each other than the next section. -/
lemma sub_lt_of_sameSection {m i j : ℕ} (hm : 0 < m) (hij : i < j)
    (h : SameSection cf (cf.blockSize * m) i j) : j - i < m := by
  by_contra hno
  have hb := blockSize_pos cf
  -- the first block of the section behind block `i`
  have hk := Nat.div_add_mod i m
  have hr := Nat.mod_lt i hm
  have hnext : m * (i / m + 1) = m * (i / m) + m := by ring
  refine h (m * (i / m + 1)) (by omega) (by omega) ⟨?_, ?_, ?_⟩
  · exact (Nat.mul_pos hb hm).ne'
  · exact (Nat.mul_pos hb (by rw [hnext]; omega)).ne'
  · rw [← Nat.mul_assoc]
    exact Nat.mul_mod_right ..

/-- **The counters** of a section are different ones exactly where there are sections, or not more
blocks than counters. -/
lemma countersDistinct_iff (h : Started o a encrypt iv key g) (input : ByteString) :
    CountersDistinct o a input ↔
      loadBE32 iv ≠ 0 ∨ Chained.pieces cf.blockSize input.length ≤ 256 ^ (cf.blockSize / 2) := by
  have hcounter : ∀ k, (a.registersAt o input k).map Registers.counter =
      some (incrementCounter^[k] (firstCounter iv)) := by
    intro k
    rw [registersAt_eq h, Option.map_some, counter_after]
  have hne : ∀ i j, (a.registersAt o input i).map Registers.counter ≠
      (a.registersAt o input j).map Registers.counter ↔ ¬ i ≡ j [MOD 256 ^ (cf.blockSize / 2)] := by
    intro i j
    rw [hcounter, hcounter, Ne, Option.some.injEq, iterate_counter_eq_iff, half_blockSize]
  have hfar : ∀ {i j}, i < j → j - i < 256 ^ (cf.blockSize / 2) →
      ¬ i ≡ j [MOD 256 ^ (cf.blockSize / 2)] := by
    intro i j hij hlt hmod
    have hdvd := (Nat.modEq_iff_dvd' (Nat.le_of_lt hij)).1 hmod
    have := Nat.le_of_dvd (by omega) hdvd
    omega
  rw [CountersDistinct, h.parameters]
  constructor
  · intro hall
    by_contra hno
    push Not at hno
    obtain ⟨h0, hmany⟩ := hno
    have hsame : SameSection cf (sectionBytes (loadBE32 iv)) 0 (256 ^ (cf.blockSize / 2)) := by
      intro k _ _ hk
      rw [h0] at hk
      exact hk.1 rfl
    refine (hne _ _).1 (hall 0 _ (Nat.pow_pos (by decide)) hmany hsame) ?_
    exact (Nat.modEq_zero_iff_dvd.2 (Nat.dvd_refl _)).symm
  · rintro hcase i j hij hj hsame
    rw [hne]
    refine hfar hij ?_
    rcases hcase with h0 | hfew
    · obtain ⟨m, hm, hmlt, hsection⟩ := section_of_accepts h.accepts h0
      rw [hsection] at hsame
      exact Nat.lt_trans (sub_lt_of_sameSection hm hij hsame) hmlt
    · omega

end started

end GOSTSymmetricAlgorithm

/-! ### All counters -/

/-- A stream of Magma whose key is never changed. -/
def magmaStream : Bool × GOSTSymmetricAlgorithm .MAGMA :=
  GOSTSymmetricAlgorithm.cryptInit true .new (some ⟨List.replicate 32 0, []⟩) .CTR_ACPKM
    (List.replicate 8 0) false [] 0

end SoftHSM
