import SoftHSM.Library.CipherSizes

/-!
Where the sizes that are told to a caller are right, call by call.
-/

namespace SoftHSM.Crypt

open Checked

/-! ### From the calls to the sizes -/

section Calls

variable {ω : Type} {allowed : Session → Bool}
  {size : SymmetricAlgorithm → Except CK_RV UInt64}
  {work : Session → SymmetricAlgorithm → UInt64 → UInt64 → ω → Reply}
  {session : Session} {c : SymmetricAlgorithm}

lemma crypt_of_size {z : UInt64} (hc : session.symmetricCryptoOp = some c)
    (ha : allowed session = true) (hz : size c = .ok z) (buffer : Bool) (pulLen : UInt64)
    (given : ω) :
    crypt allowed size work session buffer pulLen given =
      if buffer = false then ⟨.CKR_OK, z, session⟩
      else if pulLen < z then ⟨.CKR_BUFFER_TOO_SMALL, z, session⟩
      else work session c z pulLen given := by
  simp [crypt, hc, ha, hz]

/-- A size that is told with success is the one that was computed. -/
lemma size_of_query {pulLen : UInt64} {given : ω} (hc : session.symmetricCryptoOp = some c)
    (hsize : ∀ rv, size c = .error rv → rv ≠ .CKR_OK)
    (h : (crypt allowed size work session false pulLen given).rv = .CKR_OK) :
    allowed session = true ∧ ∃ z, size c = .ok z := by
  cases ha : allowed session with
  | false => simp [crypt, hc, ha] at h
  | true =>
    refine ⟨rfl, ?_⟩
    cases hz : size c with
    | ok z => exact ⟨z, rfl⟩
    | error rv =>
      refine absurd ?_ (hsize rv hz)
      simpa [crypt, hc, ha, hz] using h

/-- **What is asked of a call** is asked of its size. -/
lemma sound_crypt_iff [Inhabited ω] {exact : SymmetricAlgorithm → Option ℕ} {taken : ℕ}
    {gives : SymmetricAlgorithm → ω → Prop} {produced : ω → ℕ}
    (hsize : ∀ c rv, size c = .error rv → rv ≠ .CKR_OK) :
    Sound (crypt allowed size work session) session exact taken gives produced ↔
      ∀ c ∈ session.symmetricCryptoOp, allowed session = true → ∀ z, size c = .ok z →
        exact c = some z.toNat ∧ z.toNat ≤ taken + c.held + c.block + c.tag ∧
        ∀ given, gives c given →
          produced given ≤ z.toNat ∧ (work session c z z given).rv = .CKR_OK := by
  constructor
  · intro h c hc ha z hz
    have hcall := @crypt_of_size _ _ _ work _ _ _ hc ha hz
    have hs := h c hc 0 default
    rw [hcall, if_pos rfl] at hs
    obtain ⟨hexact, hmost, hgiven⟩ := hs rfl
    refine ⟨hexact, hmost, fun given hg => ⟨(hgiven given hg).1, ?_⟩⟩
    have hw := (hgiven given hg).2
    rw [hcall, if_neg (by decide), if_neg (by simp)] at hw
    exact hw
  · intro h c hc pulLen given₀ hq
    obtain ⟨ha, z, hz⟩ := size_of_query hc (hsize c) hq
    have hcall := @crypt_of_size _ _ _ work _ _ _ hc ha hz
    obtain ⟨hexact, hmost, hgiven⟩ := h c hc ha z hz
    rw [hcall, if_pos rfl]
    refine ⟨hexact, hmost, fun given hg => ⟨(hgiven given hg).1, ?_⟩⟩
    rw [hcall, if_neg (by decide), if_neg (by simp)]
    exact (hgiven given hg).2

/-- What comes out is no more than the buffer takes. -/
lemma rv_of_le {z : UInt64} {size : ℕ} {rv : CK_RV} {s s' : Session} (h : size ≤ z.toNat) :
    (if z.toNat < size then (⟨rv, z, s⟩ : Reply) else ⟨.CKR_OK, UInt64.ofNat size, s'⟩).rv =
      .CKR_OK := by
  rw [if_neg (Nat.not_lt.2 h)]

lemma withinMaximum_eq_ok {bytes : UInt64} {rv : CK_RV} {s : Except CK_RV UInt64} {z : UInt64} :
    withinMaximum c bytes rv s = .ok z ↔ s = .ok z ∧ c.checkMaximumBytes bytes = true := by
  cases s with
  | error e => simp [withinMaximum]
  | ok w => cases hb : c.checkMaximumBytes bytes <;> simp [withinMaximum, hb]

lemma withinMaximum_eq_error {bytes : UInt64} {rv e : CK_RV} {s : Except CK_RV UInt64}
    (h : withinMaximum c bytes rv s = .error e) : s = .error e ∨ e = rv := by
  cases s with
  | error e' => exact .inl h
  | ok w =>
    right
    simp only [withinMaximum] at h
    split at h
    · cases h
    · exact (Except.error.inj h).symm

end Calls

/-! ### Updates -/

section Updates

variable {c : SymmetricAlgorithm} {n : UInt64}

lemma block_pos (c : SymmetricAlgorithm) : 0 < c.block := by
  rcases c.block_cases with h | h <;> omega

/-- A number of blocks that is kept, times their length. -/
lemma toNat_blocks {x : UInt64} (h : x.toNat / c.block < 2 ^ 31) :
    (ofInt (toInt (x / c.blockSize)) * c.blockSize).toNat = x.toNat / c.block * c.block := by
  have hdiv : (x / c.blockSize).toNat = x.toNat / c.block := UInt64.toNat_div _ _
  have hback : ofInt (toInt (x / c.blockSize)) = x / c.blockSize :=
    ofInt_toInt (by rw [hdiv]; exact h)
  have hle : x.toNat / c.block * c.block ≤ x.toNat := Nat.div_mul_le_self _ _
  have hlt := x.toNat_lt
  rw [hback, toNat_mul, hdiv]
  · rfl
  · rw [hdiv]
    exact Nat.lt_of_le_of_lt hle hlt

/-- Where the size of an update of an encryption is right. -/
def SymEncryptUpdate.Fits (n : UInt64) (c : SymmetricAlgorithm) : Prop :=
  if c.isBlockCipher then (n.toNat + c.held) / c.block < 2 ^ 31 else n.toNat + c.held < 2 ^ 64

lemma lt_of_blocks_lt {a : ℕ} (h : a / c.block < 2 ^ 31) : a < 2 ^ 64 := by
  rcases c.block_cases with hb | hb <;> rw [hb] at h <;> omega

lemma encryptUpdate_exact_iff :
    SymEncryptUpdate.exact n.toNat c = some (SymEncryptUpdate.maxSize c n).toNat ↔
      SymEncryptUpdate.Fits n c := by
  unfold SymEncryptUpdate.exact SymEncryptUpdate.maxSize SymEncryptUpdate.Fits
  cases hb : c.isBlockCipher with
  | false =>
    simp only [Bool.false_eq_true, if_false, Option.bind_eq_bind, Option.bind_eq_some_iff,
      add_eq_some, Option.some.injEq]
    constructor
    · rintro ⟨all, ⟨hlt, -⟩, -⟩
      exact hlt
    · intro h
      exact ⟨_, ⟨h, rfl⟩, (toNat_add h).symm⟩
  | true =>
    simp only [if_true, Option.bind_eq_bind, Option.bind_eq_some_iff, add_eq_some, int_eq_some,
      mul_eq_some]
    constructor
    · rintro ⟨all, ⟨-, rfl⟩, blocks, ⟨hlt, -⟩, -⟩
      exact hlt
    · intro h
      have hsum : n.toNat + c.held < 2 ^ 64 := lt_of_blocks_lt h
      have hadd : (n + c.currentBufferSize).toNat = n.toNat + c.held := toNat_add hsum
      have hmul : (n.toNat + c.held) / c.block * c.block < 2 ^ 64 :=
        Nat.lt_of_le_of_lt (Nat.div_mul_le_self _ _) hsum
      refine ⟨_, ⟨hsum, rfl⟩, _, ⟨h, rfl⟩, hmul, ?_⟩
      rw [toNat_blocks (by rw [hadd]; exact h), hadd]

/-- Where the size of an update of a decryption is right. -/
def SymDecryptUpdate.Fits (n : UInt64) (c : SymmetricAlgorithm) : Prop :=
  if c.isBlockCipher then
    if c.currentPaddingMode then
      0 < n.toNat + c.held ∧ (n.toNat + c.held - 1) / c.block < 2 ^ 31 ∧
        n.toNat + c.held < 2 ^ 64
    else (n.toNat + c.held) / c.block < 2 ^ 31
  else n.toNat + c.held < 2 ^ 64

lemma toNat_paddingAdjustByte :
    (paddingAdjustByte c).toNat = if c.currentPaddingMode then 1 else 0 := by
  cases h : c.currentPaddingMode <;> simp [paddingAdjustByte, h]

/-- Without padding there is no byte that is left out. -/
lemma decryptUpdate_maxSize_of_no_padding
    (h : c.isBlockCipher = true → c.currentPaddingMode = false) :
    SymDecryptUpdate.maxSize c n = SymEncryptUpdate.maxSize c n := by
  unfold SymDecryptUpdate.maxSize SymEncryptUpdate.maxSize
  cases hb : c.isBlockCipher with
  | false => simp only [Bool.false_eq_true, if_false]
  | true => simp [paddingAdjustByte, h hb]

lemma decryptUpdate_exact_of_no_padding (a : ℕ)
    (h : c.isBlockCipher = true → c.currentPaddingMode = false) :
    SymDecryptUpdate.exact a c = SymEncryptUpdate.exact a c := by
  unfold SymDecryptUpdate.exact SymEncryptUpdate.exact
  cases hb : c.isBlockCipher with
  | false => rfl
  | true => simp [toNat_paddingAdjustByte, h hb, Checked.sub]

lemma decryptUpdate_exact_iff :
    SymDecryptUpdate.exact n.toNat c = some (SymDecryptUpdate.maxSize c n).toNat ↔
      SymDecryptUpdate.Fits n c := by
  by_cases hp : c.isBlockCipher = true → c.currentPaddingMode = false
  · rw [decryptUpdate_maxSize_of_no_padding hp, decryptUpdate_exact_of_no_padding _ hp,
      encryptUpdate_exact_iff]
    unfold SymEncryptUpdate.Fits SymDecryptUpdate.Fits
    cases hb : c.isBlockCipher with
    | false => rfl
    | true => rw [hp hb]; rfl
  · obtain ⟨hb, hpad⟩ : c.isBlockCipher = true ∧ c.currentPaddingMode = true := by simpa using hp
    have hone : (paddingAdjustByte c).toNat = 1 := by simp [toNat_paddingAdjustByte, hpad]
    simp only [SymDecryptUpdate.exact, SymDecryptUpdate.maxSize, SymDecryptUpdate.Fits, hb, hpad,
      hone, if_true, Option.bind_eq_bind, Option.bind_eq_some_iff, add_eq_some, int_eq_some,
      sub_eq_some, mul_eq_some]
    constructor
    · rintro ⟨all, ⟨hlt, rfl⟩, counted, ⟨hpos, rfl⟩, blocks, ⟨hblocks, -⟩, -⟩
      exact ⟨hpos, hblocks, hlt⟩
    · rintro ⟨hpos, hblocks, hlt⟩
      have hadd : (n + c.currentBufferSize).toNat = n.toNat + c.held := toNat_add hlt
      have hsub : (n + c.currentBufferSize - paddingAdjustByte c).toNat = n.toNat + c.held - 1 := by
        rw [toNat_sub (by rw [hadd, hone]; exact hpos), hadd, hone]
      have hle := Nat.div_mul_le_self (n.toNat + c.held - 1) c.block
      refine ⟨_, ⟨hlt, rfl⟩, _, ⟨hpos, rfl⟩, _, ⟨hblocks, rfl⟩, by omega, ?_⟩
      rw [toNat_blocks (by rw [hsub]; exact hblocks), hsub]

/-- The size of an update, counted without a word, is the most that comes out. -/
lemma encryptUpdate_exact_eq {a k : ℕ} (h : SymEncryptUpdate.exact a c = some k) :
    k = c.most false (a + c.held) := by
  unfold SymEncryptUpdate.exact at h
  unfold SymmetricAlgorithm.most
  cases hb : c.isBlockCipher with
  | false =>
    simp only [hb, Bool.false_eq_true, if_false, Option.bind_eq_bind, Option.bind_eq_some_iff,
      add_eq_some, Option.some.injEq] at h
    obtain ⟨all, ⟨-, rfl⟩, rfl⟩ := h
    rfl
  | true =>
    simp only [hb, if_true, Option.bind_eq_bind, Option.bind_eq_some_iff, add_eq_some, int_eq_some,
      mul_eq_some] at h
    obtain ⟨all, ⟨-, rfl⟩, blocks, ⟨-, rfl⟩, -, rfl⟩ := h
    rfl

lemma decryptUpdate_exact_eq {a k : ℕ} (h : SymDecryptUpdate.exact a c = some k) :
    k = c.most true (a + c.held) := by
  by_cases hp : c.isBlockCipher = true → c.currentPaddingMode = false
  · rw [decryptUpdate_exact_of_no_padding a hp] at h
    rw [encryptUpdate_exact_eq h]
    unfold SymmetricAlgorithm.most
    cases hb : c.isBlockCipher with
    | false => rfl
    | true => rw [hp hb]; rfl
  · obtain ⟨hb, hpad⟩ : c.isBlockCipher = true ∧ c.currentPaddingMode = true := by simpa using hp
    have hone : (paddingAdjustByte c).toNat = 1 := by simp [toNat_paddingAdjustByte, hpad]
    simp only [SymDecryptUpdate.exact, hb, hone, if_true, Option.bind_eq_bind,
      Option.bind_eq_some_iff, add_eq_some, int_eq_some, sub_eq_some, mul_eq_some] at h
    obtain ⟨all, ⟨-, rfl⟩, counted, ⟨-, rfl⟩, blocks, ⟨-, rfl⟩, -, rfl⟩ := h
    simp [SymmetricAlgorithm.most, hb, hpad]

lemma encryptUpdate_sound_iff (session : Session) :
    Sound (SymEncryptUpdate session n) session (SymEncryptUpdate.exact n.toNat) n.toNat
        (fun c => c.UpdateGives false n.toNat) produced ↔
      ∀ c ∈ session.symmetricCryptoOp, session.allowMultiPartOp = true →
        c.checkMaximumBytes n = true → SymEncryptUpdate.Fits n c := by
  refine (sound_crypt_iff ?_).trans ?_
  · intro c rv h
    rcases withinMaximum_eq_error h with h | rfl
    · cases h
    · decide
  refine forall₂_congr fun c _ => forall_congr' fun _ => ?_
  simp only [withinMaximum_eq_ok, Except.ok.injEq, and_imp, forall_eq']
  refine forall_congr' fun _ => ?_
  rw [← encryptUpdate_exact_iff]
  refine ⟨And.left, fun hexact => ⟨hexact, ?_, ?_⟩⟩
  · have hle := most_le (c := c) false (n.toNat + c.held)
    rw [encryptUpdate_exact_eq hexact]
    omega
  · rintro given ⟨size, rfl, hle, -⟩
    have hsize : size ≤ (SymEncryptUpdate.maxSize c n).toNat := by
      rw [encryptUpdate_exact_eq hexact]
      exact hle
    exact ⟨hsize, rv_of_le hsize⟩

lemma decryptUpdate_sound_iff (session : Session) :
    Sound (SymDecryptUpdate session n) session (SymDecryptUpdate.exact n.toNat) n.toNat
        (fun c => c.UpdateGives true n.toNat) produced ↔
      ∀ c ∈ session.symmetricCryptoOp, session.allowMultiPartOp = true →
        c.checkMaximumBytes n = true → SymDecryptUpdate.Fits n c := by
  refine (sound_crypt_iff ?_).trans ?_
  · intro c rv h
    rcases withinMaximum_eq_error h with h | rfl
    · cases h
    · decide
  refine forall₂_congr fun c _ => forall_congr' fun _ => ?_
  simp only [withinMaximum_eq_ok, Except.ok.injEq, and_imp, forall_eq']
  refine forall_congr' fun _ => ?_
  rw [← decryptUpdate_exact_iff]
  refine ⟨And.left, fun hexact => ⟨hexact, ?_, ?_⟩⟩
  · have hle := most_le (c := c) true (n.toNat + c.held)
    rw [decryptUpdate_exact_eq hexact]
    omega
  · rintro given ⟨size, rfl, hle, -⟩
    have hsize : size ≤ (SymDecryptUpdate.maxSize c n).toNat := by
      rw [decryptUpdate_exact_eq hexact]
      exact hle
    exact ⟨hsize, rv_of_le hsize⟩

end Updates

/-! ### Ends -/

section Ends

variable {c : SymmetricAlgorithm}

/-- Where the size of the end of an encryption is right. -/
def SymEncryptFinal.Fits (c : SymmetricAlgorithm) : Prop :=
  if c.isBlockCipher then c.currentPaddingMode = true → c.held + c.block < 2 ^ 64
  else c.held + c.tag < 2 ^ 64

/-- Where the size of the end of a decryption is right. -/
def SymDecryptFinal.Fits (c : SymmetricAlgorithm) : Prop :=
  c.isBlockCipher = true → c.currentPaddingMode = true → 0 < c.held

/-- A length that is rounded up to more. -/
lemma succ_blocks (a : ℕ) : (a + c.block) / c.block * c.block = (a / c.block + 1) * c.block := by
  rw [Nat.add_div_right _ (block_pos c)]

lemma add_tagBytes_of_block (hb : c.isBlockCipher = true) (x : UInt64) :
    x + c.currentTagBytes = x := by
  rw [c.tagBytes_of_block hb, UInt64.add_zero]

lemma encryptFinal_size_padded (hb : c.isBlockCipher = true) (hp : c.currentPaddingMode = true) :
    SymEncryptFinal.size c =
      .ok ((c.currentBufferSize + c.blockSize) / c.blockSize * c.blockSize) := by
  simp only [SymEncryptFinal.size, hb, hp, add_tagBytes_of_block hb, if_true, Bool.true_eq_false,
    and_false, if_false]

lemma encryptFinal_size_unpadded (hb : c.isBlockCipher = true)
    (hp : c.currentPaddingMode = false) :
    SymEncryptFinal.size c =
      if c.currentBufferSize % c.blockSize ≠ 0 then .error .CKR_DATA_LEN_RANGE
      else .ok c.currentBufferSize := by
  simp only [SymEncryptFinal.size, hb, hp, add_tagBytes_of_block hb, if_true, and_true,
    Bool.false_eq_true, if_false]

lemma encryptFinal_size_stream (hb : c.isBlockCipher = false) :
    SymEncryptFinal.size c = .ok (c.currentBufferSize + c.currentTagBytes) := by
  simp only [SymEncryptFinal.size, hb, Bool.false_eq_true, if_false]

lemma encryptFinal_size_error {rv : CK_RV} (h : SymEncryptFinal.size c = .error rv) :
    rv ≠ .CKR_OK := by
  simp only [SymEncryptFinal.size] at h
  split_ifs at h
  obtain rfl := Except.error.inj h
  decide

lemma toNat_padded (hlt : c.held + c.block < 2 ^ 64) :
    ((c.currentBufferSize + c.blockSize) / c.blockSize * c.blockSize).toNat =
      (c.held / c.block + 1) * c.block := by
  have hadd : (c.currentBufferSize + c.blockSize).toNat = c.held + c.block := toNat_add hlt
  have hdiv : ((c.currentBufferSize + c.blockSize) / c.blockSize).toNat =
      (c.held + c.block) / c.block := by
    rw [UInt64.toNat_div, hadd]
    rfl
  have hle := Nat.div_mul_le_self (c.held + c.block) c.block
  rw [toNat_mul, hdiv, ← succ_blocks]
  · rfl
  · rw [hdiv]
    exact Nat.lt_of_le_of_lt hle hlt

lemma dvd_of_mod_eq_zero {x : UInt64} (h : x % c.blockSize = 0) : c.block ∣ x.toNat := by
  have hmod := congrArg UInt64.toNat h
  rw [UInt64.toNat_mod] at hmod
  exact Nat.dvd_of_mod_eq_zero hmod

/-- An end is sound as its size is. -/
lemma encryptFinal_sound_iff (session : Session) :
    Sound (SymEncryptFinal session) session SymEncryptFinal.exact 0
        (fun c => c.EncryptFinals c.held) produced ↔
      ∀ c ∈ session.symmetricCryptoOp, session.allowMultiPartOp = true →
        SymEncryptFinal.Fits c := by
  refine (sound_crypt_iff fun c rv => encryptFinal_size_error).trans ?_
  refine forall₂_congr fun c _ => forall_congr' fun _ => ?_
  have hheld := c.held_lt
  cases hb : c.isBlockCipher with
  | false =>
    simp only [encryptFinal_size_stream hb, Except.ok.injEq, forall_eq', SymEncryptFinal.exact,
      SymEncryptFinal.Fits, hb, Bool.false_eq_true, false_and, if_false, Option.bind_eq_bind,
      Option.bind_eq_some_iff, add_eq_some, Option.some.injEq, SymmetricAlgorithm.EncryptFinals]
    constructor
    · rintro ⟨⟨_, ⟨hlt, -⟩, -⟩, -, -⟩
      exact hlt
    · intro hlt
      have hadd : (c.currentBufferSize + c.currentTagBytes).toNat = c.held + c.tag := toNat_add hlt
      refine ⟨⟨_, ⟨hlt, rfl⟩, hadd.symm⟩, by omega, ?_⟩
      rintro given rfl
      exact ⟨hadd.ge, rv_of_le hadd.ge⟩
  | true =>
    have htag := c.tag_of_block hb
    cases hp : c.currentPaddingMode with
    | false =>
      simp only [SymEncryptFinal.Fits, encryptFinal_size_unpadded hb hp, hb, hp, if_true,
        Bool.false_eq_true, false_imp_iff, iff_true]
      intro z hz
      split_ifs at hz with hmod
      obtain rfl := Except.ok.inj hz
      have hdvd : c.block ∣ c.held := dvd_of_mod_eq_zero (not_not.1 hmod)
      have hle : c.held ≤ c.currentBufferSize.toNat := le_rfl
      refine ⟨?_, ?_, ?_⟩
      · simp only [SymEncryptFinal.exact, hp, Bool.false_eq_true, and_false, if_false,
          Option.bind_eq_bind, Option.bind_eq_some_iff, add_eq_some, Option.some.injEq, htag]
        exact ⟨_, ⟨hheld, rfl⟩, rfl⟩
      · change c.held ≤ _
        omega
      · rintro given hg
        obtain rfl : given = some c.held := by
          simpa only [SymmetricAlgorithm.EncryptFinals, hb, hp, if_true, Bool.false_eq_true,
            if_false, if_pos hdvd] using hg
        exact ⟨hle, rv_of_le hle⟩
    | true =>
      simp only [SymEncryptFinal.Fits, encryptFinal_size_padded hb hp, Except.ok.injEq, forall_eq',
        SymEncryptFinal.exact, hb, hp, if_true, true_imp_iff, and_self, Option.bind_eq_bind,
        Option.bind_eq_some_iff, add_eq_some, mul_eq_some, htag, SymmetricAlgorithm.EncryptFinals]
      constructor
      · rintro ⟨⟨_, ⟨-, rfl⟩, _, ⟨hlt, -⟩, -⟩, -, -⟩
        exact hlt
      · intro hlt
        have hval := toNat_padded hlt
        have hle := Nat.div_mul_le_self (c.held + c.block) c.block
        have hsucc := succ_blocks (c := c) c.held
        refine ⟨⟨_, ⟨hheld, rfl⟩, _, ⟨hlt, rfl⟩, ?_, ?_⟩, ?_, ?_⟩
        · exact Nat.lt_of_le_of_lt hle hlt
        · exact hsucc.trans hval.symm
        · omega
        · rintro given rfl
          exact ⟨hval.ge, rv_of_le hval.ge⟩

lemma decryptFinal_size_error {rv : CK_RV} (h : SymDecryptFinal.size c = .error rv) :
    rv ≠ .CKR_OK := by
  simp only [SymDecryptFinal.size] at h
  split_ifs at h
  obtain rfl := Except.error.inj h
  decide

lemma decryptFinal_sound_iff (session : Session) :
    Sound (SymDecryptFinal session) session SymDecryptFinal.exact 0
        (fun c => c.DecryptFinals c.held) produced ↔
      ∀ c ∈ session.symmetricCryptoOp, session.allowMultiPartOp = true →
        SymDecryptFinal.Fits c := by
  refine (sound_crypt_iff fun c rv => decryptFinal_size_error).trans ?_
  refine forall₂_congr fun c _ => forall_congr' fun _ => ?_
  cases hb : c.isBlockCipher with
  | false =>
    simp only [SymDecryptFinal.size, SymDecryptFinal.exact, SymDecryptFinal.Fits, hb,
      Bool.false_eq_true, if_false, Except.ok.injEq, forall_eq', false_imp_iff, iff_true,
      SymmetricAlgorithm.DecryptFinals]
    refine ⟨rfl, ?_, ?_⟩
    · change c.held ≤ _
      omega
    · rintro given ⟨htag, rfl⟩
      have hle : c.held - c.tag ≤ c.currentBufferSize.toNat := Nat.sub_le _ _
      exact ⟨hle, rv_of_le hle⟩
  | true =>
    simp only [SymDecryptFinal.size, SymDecryptFinal.exact, SymDecryptFinal.Fits, hb, if_true,
      true_imp_iff, SymmetricAlgorithm.DecryptFinals]
    constructor
    · intro h hp
      -- Nothing held is a number of whole blocks, so a size is told.
      by_contra hpos
      have hzero : c.currentBufferSize = 0 := by
        apply UInt64.toNat_inj.1
        exact Nat.eq_zero_of_not_pos hpos
      obtain ⟨hexact, -, -⟩ := h _ (by rw [if_neg (by simp [hzero])])
      rw [sub_eq_some, toNat_paddingAdjustByte, if_pos hp] at hexact
      exact hpos hexact.1
    · intro hpos z hz
      split_ifs at hz with hmod
      obtain rfl := Except.ok.inj hz
      have hadj : (paddingAdjustByte c).toNat ≤ c.held := by
        rw [toNat_paddingAdjustByte]
        split_ifs with hp
        · exact hpos hp
        · exact Nat.zero_le _
      have hsub : (c.currentBufferSize - paddingAdjustByte c).toNat =
          c.held - (paddingAdjustByte c).toNat := toNat_sub hadj
      refine ⟨?_, by omega, ?_⟩
      · rw [sub_eq_some]
        exact ⟨hadj, hsub.symm⟩
      · rintro given ⟨hdvd, hg⟩
        have hsize : ∃ size, given = some size ∧
            size ≤ (c.currentBufferSize - paddingAdjustByte c).toNat := by
          rw [hsub, toNat_paddingAdjustByte]
          split_ifs at hg ⊢ with hp
          · obtain ⟨-, padding, hone, -, rfl⟩ := hg
            exact ⟨_, rfl, by omega⟩
          · exact ⟨_, hg, le_rfl⟩
        obtain ⟨size, rfl, hle⟩ := hsize
        exact ⟨hle, rv_of_le hle⟩

end Ends

/-! ### Wholes -/

section Wholes

variable {c : SymmetricAlgorithm} {n : UInt64}

/-- Where the size of an encryption of a whole is right: as nothing but the whole is counted, what
is still held has to fit into the last block. -/
def SymEncrypt.Fits (n : UInt64) (c : SymmetricAlgorithm) : Prop :=
  if c.isBlockCipher then
    if c.currentPaddingMode then
      n.toNat % c.block + c.held < c.block ∧ n.toNat + c.block < 2 ^ 64
    else c.block ∣ n.toNat → c.held = 0
  else c.held = 0 ∧ n.toNat + c.tag < 2 ^ 64

/-- Where the size of a decryption of a whole is right. -/
def SymDecrypt.Fits (n : UInt64) (c : SymmetricAlgorithm) : Prop :=
  if c.isBlockCipher then c.block ∣ n.toNat → c.held = 0 ∨ ¬ c.block ∣ c.held
  else c.held ≤ c.tag

lemma mod_eq_zero_iff {x : UInt64} : x % c.blockSize = 0 ↔ c.block ∣ x.toNat := by
  refine ⟨dvd_of_mod_eq_zero, fun h => ?_⟩
  apply UInt64.toNat_inj.1
  rw [UInt64.toNat_mod]
  exact Nat.mod_eq_zero_of_dvd h

/-- The blocks that a length fills, and one more. -/
lemma encrypt_size_padded (hb : c.isBlockCipher = true) (hp : c.currentPaddingMode = true) :
    ∃ z, SymEncrypt.maxSize c n = .ok z ∧
      (SymEncrypt.exact n.toNat c = some z.toNat ↔ n.toNat + c.block < 2 ^ 64) ∧
      (n.toNat + c.block < 2 ^ 64 → z.toNat = (n.toNat / c.block + 1) * c.block) := by
  have hmod : (n % c.blockSize).toNat = n.toNat % c.block := UInt64.toNat_mod _ _
  simp only [SymEncrypt.maxSize, SymEncrypt.exact, hb, hp, if_true, Bool.true_eq_false, false_and,
    if_false]
  by_cases hr : n % c.blockSize = 0
  · have hzero : n.toNat % c.block = 0 := Nat.mod_eq_zero_of_dvd (mod_eq_zero_iff.1 hr)
    refine ⟨n + c.blockSize, by rw [if_neg (not_not.2 hr)], ?_, fun hlt => ?_⟩
    · rw [if_neg (not_not.2 hzero), add_eq_some]
      exact ⟨And.left, fun hlt => ⟨hlt, (toNat_add hlt).symm⟩⟩
    · have hadd : (n + c.blockSize).toNat = n.toNat + c.block := toNat_add hlt
      rcases c.block_cases with h | h <;> rw [h] at hadd hzero ⊢ <;> omega
  · have hnz : n.toNat % c.block ≠ 0 := by
      rw [← hmod]
      exact fun h => hr (UInt64.toNat_inj.1 h)
    have hle : n.toNat % c.block ≤ n.toNat + c.block :=
      (Nat.mod_le _ _).trans (Nat.le_add_right _ _)
    have hval : n.toNat + c.block < 2 ^ 64 →
        (n + c.blockSize - n % c.blockSize).toNat = n.toNat + c.block - n.toNat % c.block := by
      intro hlt
      have hadd : (n + c.blockSize).toNat = n.toNat + c.block := toNat_add hlt
      rw [toNat_sub (by rw [hadd, hmod]; exact hle), hadd, hmod]
    refine ⟨n + c.blockSize - n % c.blockSize, by rw [if_pos hr], ?_, fun hlt => ?_⟩
    · rw [if_pos hnz]
      simp only [Option.bind_eq_bind, Option.bind_eq_some_iff, add_eq_some, sub_eq_some]
      constructor
      · rintro ⟨_, ⟨hlt, -⟩, -⟩
        exact hlt
      · intro hlt
        exact ⟨_, ⟨hlt, rfl⟩, hle, (hval hlt).symm⟩
    · rw [hval hlt]
      rcases c.block_cases with h | h <;> rw [h] at hlt hnz ⊢ <;> omega

lemma encrypt_size_unpadded (hb : c.isBlockCipher = true) (hp : c.currentPaddingMode = false) :
    SymEncrypt.maxSize c n = if n % c.blockSize ≠ 0 then .error .CKR_DATA_LEN_RANGE else .ok n := by
  by_cases hr : n % c.blockSize = 0 <;>
    simp [SymEncrypt.maxSize, hb, hp, hr, c.tagBytes_of_block hb]

lemma encrypt_size_error {rv : CK_RV} (h : SymEncrypt.maxSize c n = .error rv) : rv ≠ .CKR_OK := by
  simp only [SymEncrypt.maxSize] at h
  split_ifs at h
  obtain rfl := Except.error.inj h
  decide

/-- The whole of an encryption with padding, whatever part of it comes first. -/
lemma padded_whole {all size : ℕ} (hdvd : c.block ∣ size) (hle : size ≤ all) :
    size + ((all - size) / c.block + 1) * c.block = (all / c.block + 1) * c.block := by
  obtain ⟨k, rfl⟩ := hdvd
  rcases c.block_cases with h | h <;> rw [h] at hle ⊢ <;> omega

/-- A cipher may hold back all that it takes. -/
lemma updates_zero (c : SymmetricAlgorithm) (decrypting : Bool) (all : ℕ) :
    c.Updates decrypting all 0 := ⟨Nat.zero_le _, fun _ => Nat.dvd_zero _⟩

/-- **The size of an encryption of a whole**, for a cipher that takes that many bytes. -/
lemma encrypt_fits_iff :
    (∀ z, SymEncrypt.maxSize c n = .ok z →
      SymEncrypt.exact n.toNat c = some z.toNat ∧
      z.toNat ≤ n.toNat + c.held + c.block + c.tag ∧
      ∀ given, c.WholeGives false n.toNat given →
        producedWhole given ≤ z.toNat ∧ given.2 ≠ none) ↔ SymEncrypt.Fits n c := by
  cases hb : c.isBlockCipher with
  | false =>
    have hsize : SymEncrypt.maxSize c n = .ok (n + c.currentTagBytes) := by
      simp [SymEncrypt.maxSize, hb]
    simp only [hsize, Except.ok.injEq, forall_eq', SymEncrypt.exact, SymEncrypt.Fits, hb,
      Bool.false_eq_true, if_false, add_eq_some]
    constructor
    · rintro ⟨⟨hlt, hval⟩, -, hgiven⟩
      have hg := hgiven (some 0, some (n.toNat + c.held + c.tag))
        ⟨0, rfl, updates_zero c _ _, by simp [SymmetricAlgorithm.EncryptFinals, hb]⟩
      have hle : 0 + (n.toNat + c.held + c.tag) ≤ _ := hg.1
      exact ⟨by omega, hlt⟩
    · rintro ⟨hzero, hlt⟩
      have hadd : (n + c.currentTagBytes).toNat = n.toNat + c.tag := toNat_add hlt
      refine ⟨⟨hlt, hadd.symm⟩, by omega, ?_⟩
      rintro ⟨first, last⟩ ⟨size, rfl, ⟨hmost, -⟩, hlast⟩
      have hle := hmost.trans (most_le (c := c) false _)
      obtain rfl : last = some (n.toNat + c.held - size + c.tag) := by
        simpa [SymmetricAlgorithm.EncryptFinals, hb] using hlast
      have hsum : producedWhole (some size, some (n.toNat + c.held - size + c.tag)) =
          size + (n.toNat + c.held - size + c.tag) := rfl
      exact ⟨by omega, by simp⟩
  | true =>
    cases hp : c.currentPaddingMode with
    | false =>
      simp only [encrypt_size_unpadded hb hp, SymEncrypt.Fits, hb, hp, if_true, Bool.false_eq_true,
        if_false]
      constructor
      · intro h hdvd
        obtain ⟨-, -, hgiven⟩ := h n (by rw [if_neg (not_not.2 (mod_eq_zero_iff.2 hdvd))])
        have hg := hgiven
          (some 0, if c.block ∣ n.toNat + c.held then some (n.toNat + c.held) else none)
          ⟨0, rfl, updates_zero c _ _, by simp [SymmetricAlgorithm.EncryptFinals, hb, hp]⟩
        obtain ⟨hle, hsome⟩ := hg
        split_ifs at hle hsome with hall
        · have : 0 + (n.toNat + c.held) ≤ n.toNat := hle
          omega
        · exact absurd rfl hsome
      · intro h z hz
        split_ifs at hz with hr
        obtain rfl := Except.ok.inj hz
        have hdvd := mod_eq_zero_iff.1 (not_not.1 hr)
        have hzero := h hdvd
        refine ⟨?_, by omega, ?_⟩
        · simp [SymEncrypt.exact, hb, hp, Nat.mod_eq_zero_of_dvd hdvd]
        · rintro ⟨first, last⟩ ⟨size, rfl, ⟨hmost, hblock⟩, hlast⟩
          have hle := hmost.trans (most_le (c := c) false _)
          have hrest : c.block ∣ n.toNat + c.held - size := by
            rw [hzero, Nat.add_zero]
            exact Nat.dvd_sub hdvd (hblock hb)
          obtain rfl : last = some (n.toNat + c.held - size) := by
            simpa [SymmetricAlgorithm.EncryptFinals, hb, hp, hrest] using hlast
          have hsum : producedWhole (some size, some (n.toNat + c.held - size)) =
              size + (n.toNat + c.held - size) := rfl
          exact ⟨by omega, by simp⟩
    | true =>
      obtain ⟨z, hz, hexact, hval⟩ := encrypt_size_padded (n := n) hb hp
      simp only [hz, Except.ok.injEq, forall_eq', hexact, SymEncrypt.Fits, hb, hp, if_true]
      constructor
      · rintro ⟨hlt, -, hgiven⟩
        have hg := hgiven (some 0, some (((n.toNat + c.held) / c.block + 1) * c.block))
          ⟨0, rfl, updates_zero c _ _, by simp [SymmetricAlgorithm.EncryptFinals, hb, hp]⟩
        have hle : 0 + ((n.toNat + c.held) / c.block + 1) * c.block ≤ z.toNat := hg.1
        rw [hval hlt] at hle
        refine ⟨?_, hlt⟩
        rcases c.block_cases with h | h <;> rw [h] at hle ⊢ <;> omega
      · rintro ⟨hfit, hlt⟩
        have hz := hval hlt
        have hblocks : (n.toNat + c.held) / c.block = n.toNat / c.block := by
          rcases c.block_cases with h | h <;> rw [h] at hfit ⊢ <;> omega
        have hdiv := Nat.div_mul_le_self n.toNat c.block
        have hsucc : (n.toNat / c.block + 1) * c.block = n.toNat / c.block * c.block + c.block :=
          Nat.succ_mul _ _
        refine ⟨hlt, by omega, ?_⟩
        rintro ⟨first, last⟩ ⟨size, rfl, ⟨hmost, hblock⟩, hlast⟩
        have hle := hmost.trans (most_le (c := c) false _)
        obtain rfl : last = some (((n.toNat + c.held - size) / c.block + 1) * c.block) := by
          simpa [SymmetricAlgorithm.EncryptFinals, hb, hp] using hlast
        refine ⟨?_, by simp⟩
        have hwhole := padded_whole (hblock hb) hle
        rw [hblocks] at hwhole
        exact (hwhole.trans hz.symm).le

lemma encrypt_sound_iff (session : Session) :
    Sound (SymEncrypt session n) session (SymEncrypt.exact n.toNat) n.toNat
        (fun c => c.WholeGives false n.toNat) producedWhole ↔
      ∀ c ∈ session.symmetricCryptoOp, session.allowSinglePartOp = true →
        c.checkMaximumBytes n = true → SymEncrypt.Fits n c := by
  refine (sound_crypt_iff ?_).trans ?_
  · intro c rv h
    rcases withinMaximum_eq_error h with h | rfl
    · exact encrypt_size_error h
    · decide
  refine forall₂_congr fun c _ => forall_congr' fun _ => ?_
  simp only [withinMaximum_eq_ok, and_imp]
  rw [← encrypt_fits_iff]
  refine ⟨fun h hmax z hz => ?_, fun h z hz hmax => ?_⟩
  · obtain ⟨hexact, hmost, hgiven⟩ := h z hz hmax
    refine ⟨hexact, hmost, fun given hg => ⟨(hgiven given hg).1, fun hnone => ?_⟩⟩
    have hrv := (hgiven given hg).2
    simp [hnone] at hrv
  · obtain ⟨hexact, hmost, hgiven⟩ := h hmax z hz
    refine ⟨hexact, hmost, fun given hg => ⟨(hgiven given hg).1, ?_⟩⟩
    obtain ⟨last, hlast⟩ := Option.ne_none_iff_exists'.1 (hgiven given hg).2
    obtain ⟨size, hfirst, -⟩ := hg
    simp [hfirst, hlast]

lemma decrypt_size_error {rv : CK_RV} (h : SymDecrypt.maxSize c n = .error rv) : rv ≠ .CKR_OK := by
  simp only [SymDecrypt.maxSize] at h
  split_ifs at h
  obtain rfl := Except.error.inj h
  decide

lemma decrypt_size_eq_ok {z : UInt64} :
    SymDecrypt.maxSize c n = .ok z ↔ (c.isBlockCipher = true → c.block ∣ n.toNat) ∧ n = z := by
  unfold SymDecrypt.maxSize
  rw [← mod_eq_zero_iff]
  split_ifs with h
  · simp [h.1, h.2]
  · rw [Except.ok.injEq, iff_and_self]
    intro _ hb
    exact not_not.1 fun hr => h ⟨hb, hr⟩

/-- **The size of a decryption of a whole**: nothing that is held may come out beside it. -/
lemma decrypt_fits_iff :
    ((c.isBlockCipher = true → c.block ∣ n.toNat) →
      ∀ given, c.WholeGives true n.toNat given → producedWhole given ≤ n.toNat) ↔
      SymDecrypt.Fits n c := by
  cases hb : c.isBlockCipher with
  | false =>
    simp only [SymDecrypt.Fits, hb, Bool.false_eq_true, false_imp_iff, true_imp_iff, if_false]
    constructor
    · intro h
      by_contra hlt
      have hg := h (some 0, some (n.toNat + c.held - c.tag)) ⟨0, rfl, updates_zero c _ _, by
        simp only [SymmetricAlgorithm.DecryptFinals, hb, if_true, Bool.false_eq_true, if_false,
          Nat.sub_zero, and_true]
        omega⟩
      have hle : 0 + (n.toNat + c.held - c.tag) ≤ n.toNat := hg
      omega
    · rintro hle ⟨first, last⟩ ⟨size, rfl, ⟨hmost, -⟩, hlast⟩
      have hall := hmost.trans (most_le (c := c) true _)
      simp only [SymmetricAlgorithm.DecryptFinals, hb, if_true, Bool.false_eq_true,
        if_false] at hlast
      obtain ⟨htag, rfl⟩ := hlast
      change size + (n.toNat + c.held - size - c.tag) ≤ n.toNat
      omega
  | true =>
    simp only [SymDecrypt.Fits, hb, true_imp_iff, if_true]
    refine forall_congr' fun hdvd => ?_
    constructor
    · intro h
      by_contra hnot
      obtain ⟨hpos, hheld⟩ : 0 < c.held ∧ c.block ∣ c.held := by
        rw [not_or, not_not] at hnot
        exact ⟨Nat.pos_of_ne_zero hnot.1, hnot.2⟩
      have hall : c.block ∣ n.toNat + c.held := Nat.dvd_add hdvd hheld
      have hblock : 1 < c.block := by rcases c.block_cases with h | h <;> omega
      -- The last block comes out but for one byte.
      have hg := h (some 0, some (n.toNat + c.held - if c.currentPaddingMode then 1 else 0))
        ⟨0, rfl, updates_zero c _ _, by
          simp only [SymmetricAlgorithm.DecryptFinals, hb, if_true, Nat.sub_zero, hall, true_and]
          split_ifs with hp
          · exact ⟨by omega, 1, le_rfl, hblock.le, rfl⟩
          · rfl⟩
      have hle : 0 + (n.toNat + c.held - if c.currentPaddingMode then 1 else 0) ≤ n.toNat := hg
      have hbig : c.block ≤ c.held := Nat.le_of_dvd hpos hheld
      split_ifs at hle <;> omega
    · rintro hfit ⟨first, last⟩ ⟨size, rfl, ⟨hmost, hblock⟩, hlast⟩
      have hall := hmost.trans (most_le (c := c) true _)
      simp only [SymmetricAlgorithm.DecryptFinals, hb, if_true] at hlast
      obtain ⟨hrest, hlast⟩ := hlast
      have hheld : c.block ∣ c.held := by
        have hsum : c.block ∣ n.toNat + c.held - size + size := Nat.dvd_add hrest (hblock hb)
        rw [Nat.sub_add_cancel hall] at hsum
        exact (Nat.dvd_add_right hdvd).1 hsum
      have hzero : c.held = 0 := hfit.resolve_right (not_not.2 hheld)
      have hlen : ∃ final, last = some final ∧ final ≤ n.toNat + c.held - size := by
        split_ifs at hlast with hp
        · obtain ⟨-, padding, -, -, rfl⟩ := hlast
          exact ⟨_, rfl, Nat.sub_le _ _⟩
        · exact ⟨_, hlast, le_rfl⟩
      obtain ⟨final, rfl, hfinal⟩ := hlen
      change size + final ≤ n.toNat
      omega

lemma decrypt_sound_iff (session : Session) :
    Sound (SymDecrypt session n) session (SymDecrypt.exact n.toNat) n.toNat
        (fun c => c.WholeGives true n.toNat) producedWhole ↔
      ∀ c ∈ session.symmetricCryptoOp, session.allowSinglePartOp = true →
        c.checkMaximumBytes n = true → SymDecrypt.Fits n c := by
  refine (sound_crypt_iff ?_).trans ?_
  · intro c rv h
    rcases withinMaximum_eq_error h with h | rfl
    · exact decrypt_size_error h
    · decide
  refine forall₂_congr fun c _ => forall_congr' fun _ => ?_
  simp only [withinMaximum_eq_ok, decrypt_size_eq_ok, and_imp]
  rw [← decrypt_fits_iff]
  refine ⟨fun h hmax hdvd given hg => ?_, fun h z hdvd hz hmax => ?_⟩
  · exact ((h n hdvd rfl hmax).2.2 given hg).1
  · subst hz
    refine ⟨rfl, by omega, fun given hg => ⟨h hmax hdvd given hg, ?_⟩⟩
    obtain ⟨size, hfirst, -, hlast⟩ := hg
    have hsome : ∃ final, given.2 = some final := by
      simp only [SymmetricAlgorithm.DecryptFinals, if_true] at hlast
      split_ifs at hlast with hb hp
      · obtain ⟨-, -, padding, -, -, hlast⟩ := hlast
        exact ⟨_, hlast⟩
      · exact ⟨_, hlast.2⟩
      · exact ⟨_, hlast.2⟩
    obtain ⟨final, hfinal⟩ := hsome
    simp [hfirst, hfinal]

end Wholes

/-! ### Keys that are not symmetric -/

section Asymmetric

variable {session : AsymSession} {n : UInt64}

/-- Where the zeros are right: the input of a call that is let in is no longer than the output. -/
def ZerosFit (session : AsymSession) (n : UInt64) : Prop :=
  session.asymmetricCryptoOp = true → session.allowSinglePartOp = true →
    session.mechanism = .RSA → ∀ size ∈ session.outputLength, n.toNat ≤ size.toNat

lemma zeros_RSA {size : UInt64} (hm : session.mechanism = .RSA) :
    sub size.toNat n.toNat = some (zeros session.mechanism size n).toNat ↔
      n.toNat ≤ size.toNat := by
  rw [sub_eq_some, zeros, if_pos hm]
  exact ⟨And.left, fun h => ⟨h, (toNat_sub h).symm⟩⟩

lemma asymEncrypt_sound_iff :
    ZerosSound (AsymEncrypt session n) session n ↔ ZerosFit session n := by
  constructor
  · intro h hop hsingle hm size hsize
    obtain ⟨size', hsize', hz⟩ := h true size none (zeros session.mechanism size n)
      (by simp [AsymEncrypt, Option.mem_def.1 hsize, hop, hsingle]) hm
    obtain rfl : size = size' := Option.some.inj (hsize.symm.trans hsize')
    exact (zeros_RSA hm).1 hz
  · intro h buffer pulLen given z hz hm
    unfold AsymEncrypt at hz
    cases hsize : session.outputLength with
    | none => simp [hsize] at hz
    | some size =>
      refine ⟨size, rfl, ?_⟩
      simp only [hsize] at hz
      split_ifs at hz with hop
      all_goals
        obtain rfl := Option.some.inj hz
        rw [not_or, Bool.not_eq_false, Bool.not_eq_false] at hop
        exact (zeros_RSA hm).2 (h hop.1 hop.2 hm size hsize)

lemma asymSign_sound_iff (gost : Bool) :
    ZerosSound (AsymSign gost session n) session n ↔
      (session.reAuthentication = false → ZerosFit session n) := by
  constructor
  · intro h hre hop hsingle hm size hsize
    obtain ⟨size', hsize', hz⟩ := h true size none (zeros session.mechanism size n)
      (by simp [AsymSign, Option.mem_def.1 hsize, hop, hsingle, hre, hm]) hm
    obtain rfl : size = size' := Option.some.inj (hsize.symm.trans hsize')
    exact (zeros_RSA hm).1 hz
  · intro h buffer pulLen given z hz hm
    unfold AsymSign at hz
    cases hsize : session.outputLength with
    | none => simp [hsize] at hz
    | some size =>
      refine ⟨size, rfl, ?_⟩
      simp only [hsize] at hz
      split_ifs at hz with hop hre
      all_goals
        obtain rfl := Option.some.inj hz
        rw [not_or, Bool.not_eq_false, Bool.not_eq_false] at hop
        exact (zeros_RSA hm).2 (h (by simpa using hre) hop.1 hop.2 hm size hsize)

end Asymmetric

/-- Blocks of sixteen bytes, chained and padded, with nothing held. -/
def paddedBlocks : SymmetricAlgorithm where
  currentCipherMode := .CBC
  currentPaddingMode := true
  currentTagBytes := 0
  currentBufferSize := 0
  blockSize := 16
  checkMaximumBytes := fun _ => true
  blockSize_cases := .inr rfl
  tagBytes_le := by decide
  tagBytes_of_block := fun _ => rfl

end SoftHSM.Crypt
