import SoftHSM.Crypto.GOSTMacAlgorithm
import SoftHSM.Crypto.GOSTSymmetricAlgorithm
import SoftHSM.Library.Wrapping

/-!
The keys of the national ciphers when they wrap: the twin keys of the exports, whose halves go to
the code and to the stream, and the key of the cipher of 1989. Here the ciphers are the library's
own.
-/

namespace SoftHSM

open Mgm (Cipher)

/-! ### The stream -/

namespace GOSTSymmetric

variable {c : Cipher}

/-- The body of the loop in `ctr`. -/
def ctrStep (o : ByteOrder) (g : GOSTSymmetric c) : Chained.Step (Block c.blockSize) UInt8 :=
  fun _ counter p =>
    (Mgm.incrementHalf (c.blockSize / 2) c.blockSize counter,
      List.zipWith (· ^^^ ·) p (List.ofFn (g.encryptBlock o counter 0)))

/-- The first half of the first counter block is the vector. -/
def startCounter (iv : ByteString) : Block c.blockSize := fun i =>
  if i < c.blockSize / 2 then iv.getD i 0 else 0

def ctr (o : ByteOrder) (g : GOSTSymmetric c) (iv input : ByteString) : Option ByteString :=
  if !g.keyed || iv.length ≠ c.blockSize / 2 then none
  else some (Chained.loop c.blockSize (g.ctrStep o) input (startCounter iv)).2

/-- The byte that the stream has at a place. -/
def gamma (o : ByteOrder) (g : GOSTSymmetric c) (iv : ByteString) (i : ℕ) : UInt8 :=
  g.encryptBlock o
    ((Mgm.incrementHalf (c.blockSize / 2) c.blockSize)^[i / c.blockSize] (startCounter iv)) 0
    (Fin.ofNat c.blockSize i)

end GOSTSymmetric

namespace Unwrap

open Create Access

lemma masked_append (stream : ℕ → UInt8) (x y : ByteString) :
    masked stream (x ++ y) = masked stream x ++ masked (fun i => stream (x.length + i)) y := by
  simp only [masked, List.mapIdx_append, Nat.add_comm]

lemma zipWith_block {n : ℕ} (b : Block n) {p : ByteString} (h : p.length ≤ n) (stream : ℕ → UInt8)
    (hs : ∀ i : Fin n, stream i = b i) :
    List.zipWith (· ^^^ ·) p (List.ofFn b) = masked stream p := by
  refine List.ext_getElem (by simp; omega) fun i hi hi' => ?_
  simp only [masked, List.getElem_zipWith, List.getElem_ofFn, List.getElem_mapIdx]
  rw [← hs]

open GOSTSymmetric in
/-- What the loop has after so many pieces is the text under the stream so far. -/
lemma after_ctrStep {c : Cipher} (o : ByteOrder) (g : GOSTSymmetric c) (iv input : ByteString)
    (k : ℕ) :
    Chained.after c.blockSize (g.ctrStep o) input (startCounter iv) k =
      ((Mgm.incrementHalf (c.blockSize / 2) c.blockSize)^[k] (startCounter iv),
        masked (g.gamma o iv) (input.take (c.blockSize * k))) := by
  induction k with
  | zero => simp [masked]
  | succ k ih =>
    have hpiece : (Chained.piece c.blockSize input (c.blockSize * k)).length ≤ c.blockSize := by
      rw [Chained.length_piece]
      exact Nat.min_le_left ..
    rw [Chained.after_succ, ih, Chained.body, Nat.mul_add, Nat.mul_one, List.take_add, masked_append,
      Function.iterate_succ_apply']
    have hgamma : List.zipWith (· ^^^ ·) (Chained.piece c.blockSize input (c.blockSize * k))
          (List.ofFn (g.encryptBlock o
            ((Mgm.incrementHalf (c.blockSize / 2) c.blockSize)^[k] (startCounter iv)) 0)) =
        masked (fun i => g.gamma o iv ((input.take (c.blockSize * k)).length + i))
          ((input.drop (c.blockSize * k)).take c.blockSize) := by
      rcases Nat.lt_or_ge input.length (c.blockSize * k) with hshort | hlong
      · have hnil : input.drop (c.blockSize * k) = [] := List.drop_eq_nil_of_le (by omega)
        rw [Chained.piece, hnil, List.take_nil]
        rfl
      · rw [List.length_take_of_le hlong]
        refine zipWith_block _ hpiece _ fun i => ?_
        have hdiv : (c.blockSize * k + i) / c.blockSize = k := by
          rw [Nat.mul_add_div (NeZero.pos _), Nat.div_eq_of_lt i.isLt, Nat.add_zero]
        have hmod : Fin.ofNat c.blockSize (c.blockSize * k + i) = i := by
          refine Fin.ext ?_
          rw [Fin.val_ofNat, Nat.mul_add_mod, Nat.mod_eq_of_lt i.isLt]
        rw [gamma, hdiv, hmod]
    exact Prod.ext rfl (congrArg (masked _ _ ++ ·) hgamma)

open GOSTSymmetric in
/-- **The stream** does not depend on what it is put over. -/
lemma ctr_eq {c : Cipher} (o : ByteOrder) (g : GOSTSymmetric c) (iv input : ByteString) :
    g.ctr o iv input = if !g.keyed || iv.length ≠ c.blockSize / 2 then none
      else some (masked (g.gamma o iv) input) := by
  rw [ctr, Chained.loop, after_ctrStep,
    List.take_of_length_le (Chained.le_mul_pieces (NeZero.pos c.blockSize))]

/-! ### Keys -/

/-- The two ciphers of a twin key, for the code and for the stream. -/
def twinCiphers (o : ByteOrder) (c : Cipher) (key : SymmetricKey) :
    Option (GOSTSymmetric c × GOSTSymmetric c) :=
  if key.keyBits.length ≠ 64 then none
  else
    let (ok, macCipher) := GOSTSymmetric.new.setKey o (some (key.keyBits.take 32))
    let (ok', encCipher) := GOSTSymmetric.new.setKey o (some (key.keyBits.drop 32))
    if !ok || !ok' then none else some (macCipher, encCipher)

def cipher28147 (key : SymmetricKey) : Option GOST28147 :=
  if key.keyBits.length ≠ 32 then none
  else do
    let cipher ← GOST28147.new.setParamSet key.algorithmParameters
    let (ok, cipher) := cipher.setKey (some key.keyBits)
    if ok then some cipher else none

def bytesBlock (n : ℕ) (p : ByteString) : Block n := fun i => p.getD i 0

/-- A chained cipher of another kind of key, which does not start. -/
def unused (blocksize : ℕ) : Cbc blocksize where
  decryptInit := false
  decryptUpdate := fun _ => none
  decryptFinal := fun _ => none
  length_decrypt := fun _ _ _ h => nomatch h

def cipherOf (mechanism : CK_MECHANISM_TYPE) : Cipher :=
  if mechanism = CKM_KUZNECHIK_KEXP_15_WRAP then .KUZNECHIK else .MAGMA

/-- A key of these ciphers at work for a mechanism, with the parameter `ukm`. -/
def gostKey (o : ByteOrder) (mechanism : CK_MECHANISM_TYPE) (key : SymmetricKey)
    (ukm : ByteString) : WrappingKey :=
  let c := cipherOf mechanism
  let twin := twinCiphers o c key
  let cipher := (cipher28147 key).getD GOST28147.new
  { getSymmetricKey := CK_RV.CKR_OK
    aes := unused 16
    des3 := unused 8
    keyWrap := fun _ _ => none
    twinKey := twin.isSome
    ctr := twin.bind fun ciphers =>
      if !ciphers.2.keyed || ukm.length ≠ c.blockSize / 2 then none
      else some (ciphers.2.gamma o ukm)
    omac := fun text => twin.bind fun ciphers =>
      (GOSTSymmetric.omac ciphers.1.keyed (fun b => ciphers.1.encryptBlock o b 0) (some text)
        text.length true).map fun tag i => tag (Fin.ofNat c.blockSize i)
    gost28147 := (cipher28147 key).isSome
    decryptBlock := fun p => List.ofFn (cipher.decryptBlock (bytesBlock 8 p) 0)
    length_decryptBlock := fun _ => List.length_ofFn
    macBlock := fun state block i =>
      (List.ofFn (cipher.macBlock (fun j => state j) (bytesBlock 8 block))).getD i 0
    aesEncryption := ⟨false, fun _ => none, fun _ => none⟩
    des3Encryption := ⟨false, fun _ => none, fun _ => none⟩
    keyWrapping := fun _ _ => none
    encryptBlock := fun p => List.ofFn (cipher.encryptBlock (bytesBlock 8 p) 0) }

section Keys

variable {o : ByteOrder} {mechanism : CK_MECHANISM_TYPE} {key : SymmetricKey} {ukm : ByteString}

/-- Under the stream of a key is what its second cipher makes of a text. -/
lemma gostKey_ctr (text : ByteString) :
    (gostKey o mechanism key ukm).ctr.map (fun stream => masked stream text) =
      (twinCiphers o (cipherOf mechanism) key).bind fun ciphers => ciphers.2.ctr o ukm text := by
  simp only [gostKey]
  cases twinCiphers o (cipherOf mechanism) key with
  | none => rfl
  | some ciphers =>
    simp only [Option.bind_some, ctr_eq]
    split <;> rfl

lemma keyed_of_cipher28147 {cipher : GOST28147} (h : cipher28147 key = some cipher) :
    cipher.keyed = true := by
  unfold cipher28147 at h
  split_ifs at h
  obtain ⟨g, -, h⟩ := Option.bind_eq_some_iff.1 h
  dsimp only at h
  split_ifs at h with hok
  obtain rfl := Option.some.inj h
  exact g.keyed_setKey hok

lemma ofFn_bytesBlock {n : ℕ} {p : ByteString} (h : p.length = n) :
    List.ofFn (bytesBlock n p) = p := by
  refine List.ext_getElem (by simp [h]) fun i hi hi' => ?_
  rw [List.getElem_ofFn, bytesBlock, List.getD_eq_getElem _ _ hi']

lemma bytesBlock_ofFn {n : ℕ} (b : Block n) : bytesBlock n (List.ofFn b) = b := by
  funext i
  rw [bytesBlock, List.getD_eq_getElem _ _ (by simp), List.getElem_ofFn]

/-- **The ciphers of such a key** undo each other. -/
lemma inverse_gostKey (o : ByteOrder) (mechanism : CK_MECHANISM_TYPE) (key : SymmetricKey)
    (ukm : ByteString) : (gostKey o mechanism key ukm).Inverse where
  aes k w := by constructor <;> intro h <;> cases h
  des3 k w := by constructor <;> intro h <;> cases h
  keyWrapping pad k w := by constructor <;> intro h <;> cases h
  length_keyWrapping pad k w h := nomatch h
  length_encryptBlock _ := List.length_ofFn
  decrypt_encrypt h block hlen := by
    obtain ⟨cipher, hcipher⟩ := Option.isSome_iff_exists.1 h
    simp only [gostKey, hcipher, Option.getD_some]
    rw [bytesBlock_ofFn, cipher.decryptBlock_encryptBlock (keyed_of_cipher28147 hcipher),
      ofFn_bytesBlock hlen]
  encrypt_decrypt h block hlen := by
    obtain ⟨cipher, hcipher⟩ := Option.isSome_iff_exists.1 h
    simp only [gostKey, hcipher, Option.getD_some]
    rw [bytesBlock_ofFn, cipher.encryptBlock_decryptBlock (keyed_of_cipher28147 hcipher),
      ofFn_bytesBlock hlen]

/-- The mechanisms that these keys wrap with. -/
def gostWrapMechanisms : List CK_MECHANISM_TYPE :=
  [CKM_KUZNECHIK_KEXP_15_WRAP, CKM_MAGMA_KEXP_15_WRAP, CKM_GOST28147_KEY_WRAP]

/-- A key that a mechanism works with, and a parameter of the right length. -/
def Usable (mechanism : CK_MECHANISM_TYPE) (key : SymmetricKey) (ukm : ByteString) : Prop :=
  if mechanism = CKM_GOST28147_KEY_WRAP then
    key.keyBits.length = 32 ∧ (GOST28147.paramSetOf key.algorithmParameters).isSome = true
  else key.keyBits.length = 64 ∧ ukm.length = (cipherOf mechanism).blockSize / 2

lemma cipher28147_isSome :
    (cipher28147 key).isSome = true ↔
      key.keyBits.length = 32 ∧ (GOST28147.paramSetOf key.algorithmParameters).isSome = true := by
  unfold cipher28147
  by_cases hlen : key.keyBits.length = 32
  · rw [if_neg (not_not.2 hlen)]
    cases hset : GOST28147.paramSetOf key.algorithmParameters with
    | none => simp [GOST28147.setParamSet, hset]
    | some p => simp [GOST28147.setParamSet, GOST28147.setKey, hset, hlen]
  · rw [if_pos hlen]
    simp [hlen]

lemma twinCiphers_eq_some {c : Cipher} (h : key.keyBits.length = 64) :
    ∃ ciphers, twinCiphers o c key = some ciphers ∧ ciphers.1.keyed = true ∧
      ciphers.2.keyed = true := by
  have hmac : (GOSTSymmetric.new.setKey o (some (key.keyBits.take 32)) :
      Bool × GOSTSymmetric c).1 = true := by
    rw [GOSTSymmetric.setKey, if_pos (by simp; omega)]
  have henc : (GOSTSymmetric.new.setKey o (some (key.keyBits.drop 32)) :
      Bool × GOSTSymmetric c).1 = true := by
    rw [GOSTSymmetric.setKey, if_pos (by simp; omega)]
  refine ⟨(_, _), ?_, GOSTSymmetric.keyed_setKey hmac, GOSTSymmetric.keyed_setKey henc⟩
  simp [twinCiphers, h, hmac, henc]

lemma twinKey_iff : (gostKey o mechanism key ukm).twinKey = true ↔ key.keyBits.length = 64 := by
  constructor
  · intro h
    by_contra hlen
    rw [gostKey] at h
    simp [twinCiphers, hlen] at h
  · intro h
    obtain ⟨ciphers, hciphers, -⟩ := twinCiphers_eq_some (o := o) (c := cipherOf mechanism) h
    simp [gostKey, hciphers]

/-- An export is made of each key of 32 bytes, where the key and the parameter are right. -/
lemma wrapKexp15_gostKey {m : Mechanism} {block : ℕ} {k : ByteString} :
    (∃ w, wrapKexp15 (gostKey o mechanism key ukm) m block ukm k = .ok w) ↔
      m.parameter = CK_RV.CKR_OK ∧ k.length = 32 ∧ key.keyBits.length = 64 ∧
        ukm.length = (cipherOf mechanism).blockSize / 2 := by
  constructor
  · rintro ⟨w, h⟩
    obtain ⟨hparameter, hlen, htwin, -, -, stream, hstream, -⟩ := wrapKexp15_ok_iff.1 h
    refine ⟨hparameter, hlen, twinKey_iff.1 htwin, ?_⟩
    obtain ⟨ciphers, -, hstream⟩ := Option.bind_eq_some_iff.1 hstream
    by_contra hukm
    rw [if_pos (by simp [hukm])] at hstream
    cases hstream
  · rintro ⟨hparameter, hlen, hkey, hukm⟩
    obtain ⟨ciphers, hciphers, hmac, henc⟩ :=
      twinCiphers_eq_some (o := o) (c := cipherOf mechanism) hkey
    have htag : ∃ tag, (gostKey o mechanism key ukm).omac (ukm ++ k) = some tag := by
      simp only [gostKey, hciphers, Option.bind_some, GOSTSymmetric.omac, hmac]
      rw [if_neg (by simp), Option.map_some]
      exact ⟨_, rfl⟩
    have hstream : ∃ stream, (gostKey o mechanism key ukm).ctr = some stream := by
      simp only [gostKey, hciphers, Option.bind_some]
      rw [if_neg (by simp [henc, hukm])]
      exact ⟨_, rfl⟩
    obtain ⟨tag, htag⟩ := htag
    obtain ⟨stream, hstream⟩ := hstream
    exact ⟨_, wrapKexp15_ok_iff.2
      ⟨hparameter, hlen, twinKey_iff.2 hkey, tag, htag, stream, hstream, rfl⟩⟩

lemma macBlocks_ok (s : Symmetric) (keydata : ByteString) (offset count : ℕ) (mac : ℕ → UInt8)
    (h : offset + 8 * count ≤ keydata.length) :
    ∃ mac', macBlocks s keydata offset count mac = .ok mac' := by
  induction count generalizing offset mac with
  | zero => exact ⟨mac, rfl⟩
  | succ count ih =>
    rw [macBlocks, slice_of_le (by omega), ok_bind]
    exact ih _ _ (by omega)

lemma wrapGOST28147_gostKey {m : Mechanism} {k : ByteString} :
    (∃ w, wrapGOST28147 (gostKey o mechanism key ukm) m ukm k = .ok w) ↔
      m.parameter = CK_RV.CKR_OK ∧ k.length = 32 ∧ key.keyBits.length = 32 ∧
        (GOST28147.paramSetOf key.algorithmParameters).isSome = true := by
  constructor
  · rintro ⟨w, h⟩
    obtain ⟨hparameter, hlen, hgost, -⟩ := wrapGOST28147_ok_iff.1 h
    exact ⟨hparameter, hlen, cipher28147_isSome.1 hgost⟩
  · rintro ⟨hparameter, hlen, hkey⟩
    obtain ⟨wrapped, hwrapped⟩ :=
      eachBlock_ok (gostKey o mechanism key ukm).encryptBlock k 0 4 (by omega)
    obtain ⟨mac, hmac⟩ := macBlocks_ok (gostKey o mechanism key ukm).toSymmetric k 0 4
      (fun i => ukm.getD i 0) (by omega)
    exact ⟨_, wrapGOST28147_ok_iff.2
      ⟨hparameter, hlen, cipher28147_isSome.2 hkey, wrapped, hwrapped, mac, hmac, rfl⟩⟩

/-- **The formats of these keys**: each key of 32 bytes has a blob where the wrapping key and the
parameter are right, and the blobs that are unwrapped are those and no others. -/
theorem gost_blobs (b : Build) (o : ByteOrder) (m : Mechanism) (key : SymmetricKey)
    (ukm k : ByteString) (hm : m.mechanism ∈ gostWrapMechanisms) :
    ((∃ w, WrapKeySym b (gostKey o m.mechanism key ukm) m ukm k = .ok w) ↔
      m.parameter = CK_RV.CKR_OK ∧ k.length = 32 ∧ Usable m.mechanism key ukm) ∧
    ∀ w, UnwrapKeySym b (gostKey o m.mechanism key ukm).toSymmetric m ukm w = .ok k ↔
      WrapKeySym b (gostKey o m.mechanism key ukm) m ukm k = .ok w := by
  have hinv := inverse_gostKey o m.mechanism key ukm
  unfold WrapKeySym UnwrapKeySym Usable
  rcases List.mem_cons.1 hm with hkuz | hm
  · have hne : m.mechanism ≠ CKM_GOST28147_KEY_WRAP := by rw [hkuz]; decide
    simp only [if_pos hkuz, if_neg hne]
    exact ⟨wrapKexp15_gostKey, fun w => unwrapKexp15_ok_iff.trans wrapKexp15_ok_iff.symm⟩
  rcases List.mem_pair.1 hm with hmagma | hgost
  · have hne : m.mechanism ≠ CKM_GOST28147_KEY_WRAP := by rw [hmagma]; decide
    have hkuz : m.mechanism ≠ CKM_KUZNECHIK_KEXP_15_WRAP := by rw [hmagma]; decide
    simp only [if_pos hmagma, if_neg hkuz, if_neg hne]
    exact ⟨wrapKexp15_gostKey, fun w => unwrapKexp15_ok_iff.trans wrapKexp15_ok_iff.symm⟩
  · have hkuz : m.mechanism ≠ CKM_KUZNECHIK_KEXP_15_WRAP := by rw [hgost]; decide
    have hmagma : m.mechanism ≠ CKM_MAGMA_KEXP_15_WRAP := by rw [hgost]; decide
    simp only [if_pos hgost, if_neg hkuz, if_neg hmagma]
    exact ⟨wrapGOST28147_gostKey,
      fun w => (unwrapGOST28147_ok_iff hinv).trans wrapGOST28147_ok_iff.symm⟩

/-- A key of zeros under a twin key of zeros. -/
theorem gost_blobs_zeros :
    ∃ w, WrapKeySym plainBuild (gostKey .little CKM_KUZNECHIK_KEXP_15_WRAP
          ⟨List.replicate 64 0, []⟩ (List.replicate 8 0))
        ⟨CKM_KUZNECHIK_KEXP_15_WRAP, CK_RV.CKR_OK⟩ (List.replicate 8 0) (List.replicate 32 0) =
          .ok w ∧
      UnwrapKeySym plainBuild (gostKey .little CKM_KUZNECHIK_KEXP_15_WRAP
          ⟨List.replicate 64 0, []⟩ (List.replicate 8 0)).toSymmetric
        ⟨CKM_KUZNECHIK_KEXP_15_WRAP, CK_RV.CKR_OK⟩ (List.replicate 8 0) w =
          .ok (List.replicate 32 0) := by
  obtain ⟨hmade, htaken⟩ := gost_blobs plainBuild .little ⟨CKM_KUZNECHIK_KEXP_15_WRAP, CK_RV.CKR_OK⟩
    ⟨List.replicate 64 0, []⟩ (List.replicate 8 0) (List.replicate 32 0) (by decide)
  have husable : Usable CKM_KUZNECHIK_KEXP_15_WRAP ⟨List.replicate 64 0, []⟩
      (List.replicate 8 0) := by
    rw [Usable, if_neg (by decide)]
    exact ⟨rfl, rfl⟩
  obtain ⟨w, hw⟩ := hmade.2 ⟨rfl, rfl, husable⟩
  exact ⟨w, hw, (htaken w).2 hw⟩

end Keys

end Unwrap

end SoftHSM
