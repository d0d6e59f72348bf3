import SoftHSM.Crypto.GOST28147
import SoftHSM.Crypto.Kuznechik
import SoftHSM.Crypto.Mgm

/-!
The two block ciphers behind one interface, and Magma against the cipher of 1989: the same network
of rounds, with the bytes of the words, of the blocks and of the key in the opposite order.
-/

namespace SoftHSM

open Mgm (Cipher)

/-! ### Magma -/

local instance neZero_four : NeZero 4 := ⟨Nat.succ_ne_zero 3⟩

local instance neZero_eight : NeZero 8 := ⟨Nat.succ_ne_zero 7⟩

def loadBE32 (p : Block 4) : UInt32 :=
  (p 0).toUInt32 <<< 24 ||| (p 1).toUInt32 <<< 16 ||| (p 2).toUInt32 <<< 8 ||| (p 3).toUInt32

def storeBE32 (v : UInt32) : Block 4 :=
  ![(v >>> 24).toUInt8, (v >>> 16).toUInt8, (v >>> 8).toUInt8, v.toUInt8]

def rotl32 (x n : UInt32) : UInt32 := x <<< n ||| x >>> (32 - n)

def magmaPi : List (List UInt8) := [
  [12, 4, 6, 2, 10, 5, 11, 9, 14, 8, 13, 7, 0, 3, 15, 1],
  [6, 8, 2, 3, 9, 10, 5, 12, 1, 14, 4, 7, 11, 13, 0, 15],
  [11, 3, 5, 8, 2, 15, 10, 13, 14, 1, 7, 4, 12, 9, 6, 0],
  [12, 8, 2, 1, 13, 4, 15, 6, 7, 0, 10, 5, 3, 14, 9, 11],
  [7, 15, 5, 10, 8, 1, 6, 13, 0, 9, 3, 14, 11, 4, 2, 12],
  [5, 13, 15, 6, 9, 2, 12, 10, 11, 7, 8, 1, 4, 3, 14, 0],
  [8, 14, 2, 5, 6, 9, 1, 12, 15, 4, 11, 0, 13, 10, 3, 7],
  [1, 7, 14, 13, 0, 5, 8, 3, 4, 15, 10, 6, 9, 12, 11, 2]]

def magmaG (k a : UInt32) : UInt32 :=
  let x := k + a
  let y := (List.finRange 8).foldl (fun (y : UInt32) i =>
    y ||| ((magmaPi.getD i []).getD (x >>> UInt32.ofNat (4 * i) &&& 0xf).toNat 0).toUInt32 <<<
      UInt32.ofNat (4 * i)) 0
  rotl32 y 11

/-! ### The interface -/

structure GOSTSymmetric (c : Cipher) where
  keyed : Bool
  kuzRoundKeys : Fin 10 → Block 16
  magmaKey : Fin 8 → UInt32

namespace GOSTSymmetric

variable {c : Cipher}

/-- The constructor. -/
def new : GOSTSymmetric c := ⟨false, fun _ => 0, fun _ => 0⟩

def expandMagmaKey (key : Block 32) : Fin 8 → UInt32 := fun i => loadBE32 (keyWord key i)

/-- The body of the loop in `cryptMagma`, on `a1` and `a0`. -/
def magmaRound (magmaKey : Fin 8 → UInt32) (decrypt : Bool) (a : UInt32 × UInt32) (round : ℕ) :
    UInt32 × UInt32 :=
  (a.2, a.1 ^^^ magmaG (magmaKey (keyIndex decrypt round)) a.2)

/-- The last round, with the first word of the key in both directions, comes after the loop. -/
def cryptMagma (magmaKey : Fin 8 → UInt32) (input : Block 8) (decrypt : Bool) : Block 8 :=
  let (a1, a0) := (List.range 31).foldl (magmaRound magmaKey decrypt)
    (loadBE32 (halves input).1, loadBE32 (halves input).2)
  let result := a1 ^^^ magmaG (magmaKey 0) a0
  joined (storeBE32 result) (storeBE32 a0)

/-- What `setKey` makes of a key of the right length, on a machine with this order of bytes. -/
def keyedWith (o : ByteOrder) (g : GOSTSymmetric c) (key : Block 32) : GOSTSymmetric c :=
  match c with
  | .KUZNECHIK => ⟨true, Kuznechik.expandKuznechikKey (Kuznechik.tabled o) key, g.magmaKey⟩
  | .MAGMA => ⟨true, g.kuzRoundKeys, expandMagmaKey key⟩

def setKey (o : ByteOrder) (g : GOSTSymmetric c) (key : Option ByteString) :
    Bool × GOSTSymmetric c :=
  match key with
  | some key => if key.length = 32 then (true, g.keyedWith o fun i => key.getD i 0) else (false, g)
  | none => (false, g)

/-- Without a key the output stays what it was. -/
def encryptBlock (o : ByteOrder) : {c : Cipher} → GOSTSymmetric c → (input out : Block c.blockSize) →
    Block c.blockSize
  | .KUZNECHIK, g, input, out =>
    if g.keyed then Kuznechik.encryptBlock (Kuznechik.tabled o) g.kuzRoundKeys input else out
  | .MAGMA, g, input, out => if g.keyed then cryptMagma g.magmaKey input false else out

def decryptBlock (o : ByteOrder) : {c : Cipher} → GOSTSymmetric c → (input out : Block c.blockSize) →
    Block c.blockSize
  | .KUZNECHIK, g, input, out =>
    if g.keyed then Kuznechik.decryptBlock (Kuznechik.tabled o) g.kuzRoundKeys input else out
  | .MAGMA, g, input, out => if g.keyed then cryptMagma g.magmaKey input true else out

/-! ### The bytes the other way round -/

/-- The bytes of a block from the last one. -/
def reversed {n : ℕ} (b : Block n) : Block n := fun i => b i.rev

@[simp] lemma reversed_reversed {n : ℕ} (b : Block n) : reversed (reversed b) = b := by
  funext i
  rw [reversed, reversed, Fin.rev_rev]

lemma loadBE32_eq (p : Block 4) : loadBE32 p = loadLE32 (reversed p) := by
  have hcomm : ∀ a b c d : UInt32, a ||| b ||| c ||| d = d ||| c ||| b ||| a := by
    intro a b c d
    rw [UInt32.or_comm _ d, UInt32.or_comm (a ||| b) c, UInt32.or_comm a b, ← UInt32.or_assoc,
      ← UInt32.or_assoc]
  exact hcomm ..

lemma storeBE32_eq (v : UInt32) : storeBE32 v = reversed (storeLE32 v) := by
  funext i
  fin_cases i <;> rfl

lemma halves_reversed (b : Block 8) :
    halves (reversed b) = (reversed (halves b).2, reversed (halves b).1) := by
  refine Prod.ext (funext fun j => ?_) (funext fun j => ?_)
  · exact congrArg b (Fin.ext (by simp; omega))
  · exact congrArg b (Fin.ext (by simp))

lemma reversed_joined (x y : Block 4) : reversed (joined x y) = joined (reversed y) (reversed x) := by
  rw [← joined_halves (reversed (joined x y)), halves_reversed, halves_joined]

/-! ### Magma as a network of rounds -/

lemma foldl_magmaRound (magmaKey : Fin 8 → UInt32) (decrypt : Bool) (a : UInt32 × UInt32) (m : ℕ) :
    (List.range m).foldl (magmaRound magmaKey decrypt) a =
      (Feistel.rounds magmaG ((List.range m).map fun i => magmaKey (keyIndex decrypt i)) a.swap).swap := by
  induction m with
  | zero => rfl
  | succ m ih =>
    rw [List.range_succ, List.foldl_append, ih, List.map_append, Feistel.rounds_append]
    rfl

def roundKeys (magmaKey : Fin 8 → UInt32) (decrypt : Bool) : List UInt32 :=
  (List.range 32).map fun i => magmaKey (keyIndex decrypt i)

lemma roundKeys_decrypt (magmaKey : Fin 8 → UInt32) :
    roundKeys magmaKey true = (roundKeys magmaKey false).reverse := by
  have h := congrArg (List.map magmaKey) keyIndex_dec
  rwa [List.map_reverse, List.map_map, List.map_map] at h

/-- The last word is the first one of the key, whichever way the rounds go. -/
lemma roundKeys_eq (magmaKey : Fin 8 → UInt32) (decrypt : Bool) :
    roundKeys magmaKey decrypt =
      ((List.range 31).map fun i => magmaKey (keyIndex decrypt i)) ++ [magmaKey 0] := by
  have hlast : keyIndex decrypt 31 = 0 := by
    cases decrypt
    · decide
    · decide
  rw [roundKeys, List.range_succ, List.map_append, List.map_singleton, hlast]

/-- **Magma** is the network, on the words of the block with its bytes from the last one. -/
lemma cryptMagma_eq (magmaKey : Fin 8 → UInt32) (input : Block 8) (decrypt : Bool) :
    cryptMagma magmaKey input decrypt =
      reversed (GOST28147.stored (Feistel.network magmaG (roundKeys magmaKey decrypt)
        (GOST28147.loaded (reversed input)))) := by
  have hstart : (loadBE32 (halves input).1, loadBE32 (halves input).2).swap =
      GOST28147.loaded (reversed input) := by
    rw [GOST28147.loaded, halves_reversed, loadBE32_eq, loadBE32_eq]
    rfl
  rw [cryptMagma, foldl_magmaRound, hstart, roundKeys_eq, Feistel.network_concat, GOST28147.stored,
    reversed_joined, ← storeBE32_eq, ← storeBE32_eq]
  rfl

lemma cryptMagma_cryptMagma (magmaKey : Fin 8 → UInt32) (b : Block 8) :
    cryptMagma magmaKey (cryptMagma magmaKey b false) true = b := by
  rw [cryptMagma_eq, cryptMagma_eq, reversed_reversed, GOST28147.loaded_stored, roundKeys_decrypt,
    Feistel.network_reverse, GOST28147.stored_loaded, reversed_reversed]

example : List.ofFn (cryptMagma (expandMagmaKey fun i =>
    if i < 16 then UInt8.ofNat (0xff - 17 * i) else UInt8.ofNat (0xf0 + i - 16))
    ![0xfe, 0xdc, 0xba, 0x98, 0x76, 0x54, 0x32, 0x10] false) =
    [0x4e, 0xe9, 0x01, 0xe5, 0xc2, 0xd8, 0xca, 0x3d] := by decide +kernel

/-! ### One cipher -/

lemma magmaPi_eq (i : Fin 8) (n : Fin 16) :
    (magmaPi.getD i []).getD n 0 = GOST28147.loadSBox .TC26_Z i n := rfl

lemma magmaG_eq_mix {g : GOST28147} (hs : g.sbox = GOST28147.loadSBox .TC26_Z) : magmaG = g.mix := by
  have hlow : ∀ v : UInt32, (Fin.ofNat 16 (v &&& 15).toNat : Fin 16).val = (v &&& 0xf).toNat := by
    intro v
    have hle : (v &&& 15).toNat ≤ 15 := by
      rw [UInt32.toNat_and]
      exact Nat.and_le_right
    exact Nat.mod_eq_of_lt (by omega)
  funext k a
  rw [GOST28147.mix, GOST28147.round, magmaG, UInt32.add_comm k a, hs]
  simp only [← magmaPi_eq, hlow]
  rfl

/-- The bytes of every word of a key the other way round. -/
def wordsReversed (key : Block 32) : Block 32 := fun i =>
  key ⟨4 * (i / 4) + (3 - i % 4), by omega⟩

lemma expandMagmaKey_eq (g : GOST28147) (key : Block 32) :
    expandMagmaKey key = (g.keyedWith (wordsReversed key)).key := by
  have hword : ∀ i, reversed (keyWord key i) = keyWord (wordsReversed key) i := by
    intro i
    funext j
    refine congrArg key (Fin.ext ?_)
    simp
    omega
  funext i
  rw [expandMagmaKey, loadBE32_eq, hword]
  rfl

/-! ### Keys -/

lemma getD_ofFn (key : Block 32) : (fun i : Fin 32 => (List.ofFn key).getD i 0) = key := by
  funext i
  rw [List.getD_eq_getElem _ _ (by rw [List.length_ofFn]; exact i.isLt), List.getElem_ofFn]

lemma setKey_ofFn (o : ByteOrder) (m : GOSTSymmetric c) (key : Block 32) :
    m.setKey o (some (List.ofFn key)) = (true, m.keyedWith o key) := by
  rw [setKey, if_pos List.length_ofFn, getD_ofFn]

lemma keyed_setKey {o : ByteOrder} {m : GOSTSymmetric c} {p : Option ByteString}
    (h : (m.setKey o p).1 = true) : (m.setKey o p).2.keyed = true := by
  rcases p with _ | bs
  · cases h
  by_cases hl : bs.length = 32
  · rw [setKey, if_pos hl]
    cases c
    · rfl
    · rfl
  · simp [setKey, hl] at h

lemma decryptBlock_encryptBlock_magma (o : ByteOrder) {m : GOSTSymmetric .MAGMA}
    (hk : m.keyed = true) (block out out' : Block 8) :
    m.decryptBlock o (m.encryptBlock o block out) out' = block := by
  have henc : m.encryptBlock o block out = cryptMagma m.magmaKey block false := if_pos hk
  have hdec : m.decryptBlock o (m.encryptBlock o block out) out' =
      cryptMagma m.magmaKey (m.encryptBlock o block out) true := if_pos hk
  exact (hdec.trans (congrArg (cryptMagma m.magmaKey · true) henc)).trans
    (cryptMagma_cryptMagma m.magmaKey block)

end GOSTSymmetric

lemma GOST28147.setKey_ofFn (g : GOST28147) (key : Block 32) :
    g.setKey (some (List.ofFn key)) = (true, g.keyedWith key) := by
  rw [GOST28147.setKey, if_pos List.length_ofFn, GOSTSymmetric.getD_ofFn]

open GOSTSymmetric

/-- **Both ciphers** decrypt what they encrypt, the one of 1989 with any table of substitutions, and
Magma is the cipher of 1989 with its last table once the bytes are turned round. -/
theorem feistel_ciphers_invert_and_agree (o : ByteOrder) :
    (∀ (g : GOST28147) (p : Option ByteString), (g.setKey p).1 = true → ∀ block out out',
      (g.setKey p).2.decryptBlock ((g.setKey p).2.encryptBlock block out) out' = block) ∧
    (∀ (m : GOSTSymmetric .MAGMA) (p : Option ByteString), (m.setKey o p).1 = true →
      ∀ block out out' : Block 8,
      (m.setKey o p).2.decryptBlock o ((m.setKey o p).2.encryptBlock o block out) out' = block) ∧
    ∀ (m : GOSTSymmetric .MAGMA) (g z : GOST28147),
      g.setParamSet ([0x06, 0x09] ++ GOST28147.zOid) = some z → ∀ (key : Block 32) (block out out' : Block 8),
      let magma := (m.setKey o (some (List.ofFn key))).2
      let gost := (z.setKey (some (List.ofFn (wordsReversed key)))).2
      magma.encryptBlock o block out = reversed (gost.encryptBlock (reversed block) out') ∧
        magma.decryptBlock o block out = reversed (gost.decryptBlock (reversed block) out') := by
  refine ⟨fun g p hp block out out' => ?_, fun m p hp block out out' => ?_,
    fun m g z hz key block out out' => ?_⟩
  · exact GOST28147.decryptBlock_encryptBlock _ (g.keyed_setKey hp) block out out'
  · exact decryptBlock_encryptBlock_magma o (keyed_setKey hp) block out out'
  · have hs : z.sbox = GOST28147.loadSBox .TC26_Z := by
      have hset : g.setParamSet ([0x06, 0x09] ++ GOST28147.zOid) =
          some { g with paramSet := .TC26_Z, sbox := GOST28147.loadSBox .TC26_Z } := rfl
      rw [hset, Option.some.injEq] at hz
      rw [← hz]
    have hmix : magmaG = (z.keyedWith (wordsReversed key)).mix := magmaG_eq_mix hs
    have hkeys : ∀ dec, roundKeys (expandMagmaKey key) dec =
        (z.keyedWith (wordsReversed key)).roundKeys dec := by
      intro dec
      rw [expandMagmaKey_eq z key]
      rfl
    have hcrypt : ∀ dec, cryptMagma (expandMagmaKey key) block dec =
        reversed ((z.keyedWith (wordsReversed key)).crypt (reversed block) out' dec) := by
      intro dec
      rw [cryptMagma_eq, hmix, hkeys, GOST28147.crypt_of_keyed _ rfl]
    rw [setKey_ofFn, GOST28147.setKey_ofFn]
    exact ⟨hcrypt false, hcrypt true⟩

/-- With keys of zeros. -/
theorem feistel_ciphers_zero_key :
    let g := (GOST28147.new.setKey (some (List.replicate 32 0))).2
    let m := ((new : GOSTSymmetric .MAGMA).setKey .little (some (List.replicate 32 0))).2
    let z := { GOST28147.new with paramSet := .TC26_Z, sbox := GOST28147.loadSBox .TC26_Z }
    g.decryptBlock (g.encryptBlock 0 0) 0 = 0 ∧
      m.decryptBlock .little (m.encryptBlock .little (0 : Block 8) (0 : Block 8)) (0 : Block 8) = 0 ∧
      ((new : GOSTSymmetric .MAGMA).setKey .little (some (List.ofFn (0 : Block 32)))).2.encryptBlock .little
          (0 : Block 8) (0 : Block 8) =
        reversed ((z.setKey (some (List.ofFn (wordsReversed 0)))).2.encryptBlock (reversed 0) 0) :=
  ⟨(feistel_ciphers_invert_and_agree .little).1 GOST28147.new (some (List.replicate 32 0)) rfl 0 0 0,
    (feistel_ciphers_invert_and_agree .little).2.1 new (some (List.replicate 32 0)) rfl 0 0 0,
    ((feistel_ciphers_invert_and_agree .little).2.2 new GOST28147.new
      { GOST28147.new with paramSet := .TC26_Z, sbox := GOST28147.loadSBox .TC26_Z } rfl 0 0 0 0).1⟩

end SoftHSM
