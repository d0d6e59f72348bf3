import SoftHSM.DataMgr.SecureDataManager
import SoftHSM.Lib.Feistel
import SoftHSM.Lib.Memory

/-!
The block cipher of 1989 as the library computes it: words with the lowest byte first, thirty-two
rounds with a table of substitutions that the key's parameters name, and the change of the key that
the modes make in the middle of a message.
-/

namespace SoftHSM

/-! ### Words -/

def loadLE32 (p : Block 4) : UInt32 :=
  (p 0).toUInt32 ||| (p 1).toUInt32 <<< 8 ||| (p 2).toUInt32 <<< 16 ||| (p 3).toUInt32 <<< 24

def storeLE32 (v : UInt32) : Block 4 :=
  ![v.toUInt8, (v >>> 8).toUInt8, (v >>> 16).toUInt8, (v >>> 24).toUInt8]

/-- The two words of a block. -/
def halves (b : Block 8) : Block 4 × Block 4 :=
  (fun j => b (Fin.castAdd 4 j), fun j => b (Fin.natAdd 4 j))

def joined (x y : Block 4) : Block 8 := Fin.append x y

/-- Word `i` of a key. -/
def keyWord (key : Block 32) (i : Fin 8) : Block 4 := fun j => key ⟨4 * i + j, by omega⟩

/-- The word of the key that a round takes, which for decryption are the same ones from the end. -/
def keyIndex (dec : Bool) (i : ℕ) : Fin 8 :=
  Fin.ofNat 8 (if dec then (if i < 8 then i else 7 - i % 8) else if i < 24 then i % 8 else 7 - i % 8)

/-- A bit of a word is a bit of one of its bytes. -/
lemma getLsbD_loadLE32 (p : Block 4) {k : ℕ} (hk : k < 32) :
    (loadLE32 p).toBitVec.getLsbD k = (p ⟨k / 8, by omega⟩).toBitVec.getLsbD (k % 8) := by
  interval_cases k <;> simp [loadLE32]

lemma getLsbD_storeLE32 (v : UInt32) (i : Fin 4) {k : ℕ} (hk : k < 8) :
    (storeLE32 v i).toBitVec.getLsbD k = v.toBitVec.getLsbD (8 * i + k) := by
  fin_cases i <;> simp [storeLE32, hk]

lemma storeLE32_loadLE32 (p : Block 4) : storeLE32 (loadLE32 p) = p := by
  funext i
  apply UInt8.toBitVec_inj.1
  ext k hk
  have hdiv : (8 * (i : ℕ) + k) / 8 = i := by omega
  have hmod : (8 * (i : ℕ) + k) % 8 = k := by omega
  rw [← BitVec.getLsbD_eq_getElem, ← BitVec.getLsbD_eq_getElem, getLsbD_storeLE32 _ _ hk,
    getLsbD_loadLE32 _ (by omega)]
  simp only [hdiv, hmod]

lemma loadLE32_storeLE32 (v : UInt32) : loadLE32 (storeLE32 v) = v := by
  apply UInt32.toBitVec_inj.1
  ext k hk
  rw [← BitVec.getLsbD_eq_getElem, ← BitVec.getLsbD_eq_getElem, getLsbD_loadLE32 _ (by omega),
    getLsbD_storeLE32 _ _ (by omega)]
  simp only [Nat.div_add_mod]

@[simp] lemma halves_joined (x y : Block 4) : halves (joined x y) = (x, y) :=
  Prod.ext (funext fun j => Fin.append_left x y j) (funext fun j => Fin.append_right x y j)

@[simp] lemma joined_halves (b : Block 8) : joined (halves b).1 (halves b).2 = b :=
  Fin.append_castAdd_natAdd

/-- For decryption the words of the key come in the opposite order. -/
lemma keyIndex_dec : (List.range 32).map (keyIndex true) =
    ((List.range 32).map (keyIndex false)).reverse := by
  decide

/-! ### Parameter sets -/

namespace GOST28147

inductive ParamSet
  | TEST
  | CRYPTOPRO_A
  | CRYPTOPRO_B
  | CRYPTOPRO_C
  | CRYPTOPRO_D
  | TC26_Z
  deriving DecidableEq

def testPacked : List UInt8 := [
  0x4c, 0xde, 0x38, 0x9c, 0x29, 0x89, 0xef, 0xb6, 0xff, 0xeb, 0x56, 0xc5, 0x5e, 0xc2, 0x9b, 0x02,
  0x98, 0x75, 0x61, 0x3b, 0x11, 0x3f, 0x89, 0x60, 0x03, 0x97, 0x0c, 0x79, 0x8a, 0xa1, 0xd5, 0x5d,
  0xe2, 0x10, 0xad, 0x43, 0x37, 0x5d, 0xb3, 0x8e, 0xb4, 0x2c, 0x77, 0xe7, 0xcd, 0x46, 0xca, 0xfa,
  0xd6, 0x6a, 0x20, 0x1f, 0x70, 0xf4, 0x1e, 0xa4, 0xab, 0x03, 0xf2, 0x21, 0x65, 0xb8, 0x44, 0xd8]

def aPacked : List UInt8 := [
  0x93, 0xee, 0xb3, 0x1b, 0x67, 0x47, 0x5a, 0xda, 0x3e, 0x6a, 0x1d, 0x2f, 0x29, 0x2c, 0x9c, 0x95,
  0x88, 0xbd, 0x81, 0x70, 0xba, 0x31, 0xd2, 0xac, 0x1f, 0xd3, 0xf0, 0x6e, 0x70, 0x89, 0x0b, 0x08,
  0xa5, 0xc0, 0xe7, 0x86, 0x42, 0xf2, 0x45, 0xc2, 0xe6, 0x5b, 0x29, 0x43, 0xfc, 0xa4, 0x34, 0x59,
  0xcb, 0x0f, 0xc8, 0xf1, 0x04, 0x78, 0x7f, 0x37, 0xdd, 0x15, 0xae, 0xbd, 0x51, 0x96, 0x66, 0xe4]

def bPacked : List UInt8 := [
  0x80, 0xe7, 0x28, 0x50, 0x41, 0xc5, 0x73, 0x24, 0xb2, 0x00, 0xc2, 0xab, 0x1a, 0xad, 0xf6, 0xbe,
  0x34, 0x9b, 0x94, 0x98, 0x5d, 0x26, 0x5d, 0x13, 0x05, 0xd1, 0xae, 0xc7, 0x9c, 0xb2, 0xbb, 0x31,
  0x29, 0x73, 0x1c, 0x7a, 0xe7, 0x5a, 0x41, 0x42, 0xa3, 0x8c, 0x07, 0xd9, 0xcf, 0xff, 0xdf, 0x06,
  0xdb, 0x34, 0x6a, 0x6f, 0x68, 0x6e, 0x80, 0xfd, 0x76, 0x19, 0xe9, 0x85, 0xfe, 0x48, 0x35, 0xec]

def cPacked : List UInt8 := [
  0x10, 0x83, 0x8c, 0xa7, 0xb1, 0x26, 0xd9, 0x94, 0xc7, 0x50, 0xbb, 0x60, 0x2d, 0x01, 0x01, 0x85,
  0x9b, 0x45, 0x48, 0xda, 0xd4, 0x9d, 0x5e, 0xe2, 0x05, 0xfa, 0x12, 0x2f, 0xf2, 0xa8, 0x24, 0x0e,
  0x48, 0x3b, 0x97, 0xfc, 0x5e, 0x72, 0x33, 0x36, 0x8f, 0xc9, 0xc6, 0x51, 0xec, 0xd7, 0xe5, 0xbb,
  0xa9, 0x6e, 0x6a, 0x4d, 0x7a, 0xef, 0xf0, 0x19, 0x66, 0x1c, 0xaf, 0xc3, 0x33, 0xb4, 0x7d, 0x78]

def dPacked : List UInt8 := [
  0xfb, 0x11, 0x08, 0x31, 0xc6, 0xc5, 0xc0, 0x0a, 0x23, 0xbe, 0x8f, 0x66, 0xa4, 0x0c, 0x93, 0xf8,
  0x6c, 0xfa, 0xd2, 0x1f, 0x4f, 0xe7, 0x25, 0xeb, 0x5e, 0x60, 0xae, 0x90, 0x02, 0x5d, 0xbb, 0x24,
  0x77, 0xa6, 0x71, 0xdc, 0x9d, 0xd2, 0x3a, 0x83, 0xe8, 0x4b, 0x64, 0xc5, 0xd0, 0x84, 0x57, 0x49,
  0x15, 0x99, 0x4c, 0xb7, 0xba, 0x33, 0xe9, 0xad, 0x89, 0x7f, 0xfd, 0x52, 0x31, 0x28, 0x16, 0x7e]

def zSBox : List (List UInt8) := [
  [12, 4, 6, 2, 10, 5, 11, 9, 14, 8, 13, 7, 0, 3, 15, 1],
  [6, 8, 2, 3, 9, 10, 5, 12, 1, 14, 4, 7, 11, 13, 0, 15],
  [11, 3, 5, 8, 2, 15, 10, 13, 14, 1, 7, 4, 12, 9, 6, 0],
  [12, 8, 2, 1, 13, 4, 15, 6, 7, 0, 10, 5, 3, 14, 9, 11],
  [7, 15, 5, 10, 8, 1, 6, 13, 0, 9, 3, 14, 11, 4, 2, 12],
  [5, 13, 15, 6, 9, 2, 12, 10, 11, 7, 8, 1, 4, 3, 14, 0],
  [8, 14, 2, 5, 6, 9, 1, 12, 15, 4, 11, 0, 13, 10, 3, 7],
  [1, 7, 14, 13, 0, 5, 8, 3, 4, 15, 10, 6, 9, 12, 11, 2]]

def meshConstant : List UInt8 := [
  0x69, 0x00, 0x72, 0x22, 0x64, 0xc9, 0x04, 0x23, 0x8d, 0x3a, 0xdb, 0x96, 0x46, 0xe9, 0x2a, 0xc4,
  0x18, 0xfe, 0xac, 0x94, 0x00, 0xed, 0x07, 0x12, 0xc0, 0x86, 0xdc, 0xc2, 0xef, 0x4c, 0xa9, 0x2b]

/-- A substitution for each nibble of a word. -/
abbrev SBox := Fin 8 → Fin 16 → UInt8

def ParamSet.packed : ParamSet → List UInt8
  | .CRYPTOPRO_A => aPacked
  | .CRYPTOPRO_B => bPacked
  | .CRYPTOPRO_C => cPacked
  | .CRYPTOPRO_D => dPacked
  | _ => testPacked

/-- The new set is written out, the others have two nibbles to a byte. -/
def loadSBox (paramSet : ParamSet) : SBox := fun b v =>
  if paramSet = .TC26_Z then (zSBox.getD b []).getD v 0
  else
    let x := paramSet.packed.getD (v * 4 + b / 2) 0
    if b.val % 2 = 0 then x >>> 4 else x &&& 15

def baseOid : ByteString := [0x2a, 0x85, 0x03, 0x02, 0x02, 0x1f]

def zOid : ByteString := [0x2a, 0x85, 0x03, 0x07, 0x01, 0x02, 0x05, 0x01, 0x01]

/-- The value of the enumeration that a number is. -/
def ParamSet.ofByte (n : UInt8) : ParamSet :=
  [.TEST, .CRYPTOPRO_A, .CRYPTOPRO_B, .CRYPTOPRO_C, .CRYPTOPRO_D].getD n.toNat .TC26_Z

def paramSetOf (oid : ByteString) : Option ParamSet :=
  if oid.length = 0 then some .CRYPTOPRO_A
  else if oid.length = 9 ∧ oid.take 2 = [0x06, 0x07] ∧ (oid.drop 2).take 6 = baseOid ∧
      oid.getD 8 0 ≤ 4 then some (.ofByte (oid.getD 8 0))
  else if oid.length = 11 ∧ oid.take 2 = [0x06, 0x09] ∧ (oid.drop 2).take 9 = zOid then some .TC26_Z
  else none

end GOST28147

/-! ### The cipher -/

structure GOST28147 where
  paramSet : GOST28147.ParamSet
  keyed : Bool
  key : Fin 8 → UInt32
  sbox : GOST28147.SBox

namespace GOST28147

/-- The constructor. -/
def new : GOST28147 := ⟨.CRYPTOPRO_A, false, fun _ => 0, loadSBox .CRYPTOPRO_A⟩

variable (g : GOST28147)

def setParamSet (oid : ByteString) : Option GOST28147 :=
  (paramSetOf oid).map fun p => { g with paramSet := p, sbox := loadSBox p }

/-- What `setKey` makes of a key of the right length. -/
def keyedWith (key : Block 32) : GOST28147 :=
  { g with keyed := true, key := fun i => loadLE32 (keyWord key i) }

/-- `setKey`, which does nothing with a key of another length. -/
def setKey (p : Option ByteString) : Bool × GOST28147 :=
  match p with
  | some p => if p.length = 32 then (true, g.keyedWith fun i => p.getD i 0) else (false, g)
  | none => (false, g)

def round (v : UInt32) : UInt32 :=
  let r := (List.finRange 8).foldl (fun r i =>
    r ||| (g.sbox i (Fin.ofNat 16 (v >>> UInt32.ofNat (4 * i) &&& 15).toNat)).toUInt32 <<<
      UInt32.ofNat (4 * i)) 0
  r <<< 11 ||| r >>> 21

/-- The body of the loop in `crypt`. -/
def cryptRound (dec : Bool) (n : UInt32 × UInt32) (i : ℕ) : UInt32 × UInt32 :=
  let next := n.2 ^^^ g.round (n.1 + g.key (keyIndex dec i))
  if i = 31 then (n.1, next) else (next, n.1)

/-- Without a key the output stays what it was. -/
def crypt (input out : Block 8) (dec : Bool) : Block 8 :=
  if g.keyed then
    let (n1, n2) := (List.range 32).foldl (g.cryptRound dec)
      (loadLE32 (halves input).1, loadLE32 (halves input).2)
    joined (storeLE32 n1) (storeLE32 n2)
  else out

def encryptBlock (input out : Block 8) : Block 8 := g.crypt input out false

def decryptBlock (input out : Block 8) : Block 8 := g.crypt input out true

/-- The body of the loop in `macBlock`. -/
def macRound (n : UInt32 × UInt32) (i : ℕ) : UInt32 × UInt32 :=
  (n.2 ^^^ g.round (n.1 + g.key (Fin.ofNat 8 i)), n.1)

def macBlock (state block : Block 8) : Block 8 :=
  let (n1, n2) := (List.range 16).foldl g.macRound
    (loadLE32 (halves state).1 ^^^ loadLE32 (halves block).1,
      loadLE32 (halves state).2 ^^^ loadLE32 (halves block).2)
  joined (storeLE32 n1) (storeLE32 n2)

def usesKeyMeshing : Bool := g.paramSet ≠ .TEST

/-- A quarter of the new key before it is decrypted. -/
def meshBlock (i : ℕ) : Block 8 := fun j => meshConstant.getD (8 * i + j) 0

/-- The next key is the constant decrypted with this one, and the feedback, where there is one, is
encrypted with the next. -/
def meshKey (iv : Option (Block 8)) : GOST28147 × Option (Block 8) :=
  let next := (List.range 4).flatMap fun i => List.ofFn (g.decryptBlock (meshBlock i) 0)
  let g := (g.setKey (some next)).2
  (g, iv.map fun iv => g.encryptBlock iv 0)

/-! ### As a network of rounds -/

/-- The function of a round, with the words of the key. -/
def mix (k n : UInt32) : UInt32 := g.round (n + k)

def roundKeys (dec : Bool) : List UInt32 := (List.range 32).map fun i => g.key (keyIndex dec i)

lemma roundKeys_dec : g.roundKeys true = (g.roundKeys false).reverse := by
  have h := congrArg (List.map g.key) keyIndex_dec
  rwa [List.map_reverse, List.map_map, List.map_map] at h

lemma foldl_cryptRound (dec : Bool) (n : UInt32 × UInt32) {m : ℕ} (hm : m ≤ 31) :
    (List.range m).foldl (g.cryptRound dec) n =
      Feistel.rounds g.mix ((List.range m).map fun i => g.key (keyIndex dec i)) n := by
  induction m with
  | zero => rfl
  | succ m ih =>
    rw [List.range_succ, List.foldl_append, ih (by omega), List.map_append, Feistel.rounds_append]
    simp only [List.foldl_cons, List.foldl_nil, cryptRound, if_neg (show m ≠ 31 by omega)]
    rfl

/-- The last round of the loop leaves the halves in their places. -/
lemma foldl_cryptRound_network (dec : Bool) (n : UInt32 × UInt32) :
    (List.range 32).foldl (g.cryptRound dec) n = Feistel.network g.mix (g.roundKeys dec) n := by
  rw [roundKeys, List.range_succ, List.foldl_append, g.foldl_cryptRound dec n (Nat.le_refl 31),
    List.map_append, List.map_singleton, Feistel.network_concat]
  rfl

/-- The words of a block. -/
def loaded (b : Block 8) : UInt32 × UInt32 := (loadLE32 (halves b).1, loadLE32 (halves b).2)

def stored (n : UInt32 × UInt32) : Block 8 := joined (storeLE32 n.1) (storeLE32 n.2)

@[simp] lemma stored_loaded (b : Block 8) : stored (loaded b) = b := by
  simp [stored, loaded, storeLE32_loadLE32]

@[simp] lemma loaded_stored (n : UInt32 × UInt32) : loaded (stored n) = n := by
  simp [stored, loaded, loadLE32_storeLE32]

lemma crypt_of_keyed (h : g.keyed = true) (input out : Block 8) (dec : Bool) :
    g.crypt input out dec = stored (Feistel.network g.mix (g.roundKeys dec) (loaded input)) := by
  rw [crypt, if_pos h, g.foldl_cryptRound_network]
  rfl

/-- **Decryption** takes back what encryption made of a block, whatever the table is. -/
lemma decryptBlock_encryptBlock (h : g.keyed = true) (b out out' : Block 8) :
    g.decryptBlock (g.encryptBlock b out) out' = b := by
  rw [decryptBlock, encryptBlock, g.crypt_of_keyed h, g.crypt_of_keyed h, loaded_stored,
    roundKeys_dec, Feistel.network_reverse, stored_loaded]

lemma encryptBlock_decryptBlock (h : g.keyed = true) (b out out' : Block 8) :
    g.encryptBlock (g.decryptBlock b out) out' = b := by
  have hkeys : g.roundKeys false = (g.roundKeys true).reverse := by
    rw [roundKeys_dec, List.reverse_reverse]
  rw [decryptBlock, encryptBlock, g.crypt_of_keyed h, g.crypt_of_keyed h, loaded_stored, hkeys,
    Feistel.network_reverse, stored_loaded]

lemma loadLE32_xor (p q : Block 4) : loadLE32 (p ^^^ q) = loadLE32 p ^^^ loadLE32 q := by
  apply UInt32.toBitVec_inj.1
  ext k hk
  rw [UInt32.toBitVec_xor, ← BitVec.getLsbD_eq_getElem, ← BitVec.getLsbD_eq_getElem,
    BitVec.getLsbD_xor, getLsbD_loadLE32 _ hk, getLsbD_loadLE32 _ hk, getLsbD_loadLE32 _ hk,
    ← BitVec.getLsbD_xor, ← UInt8.toBitVec_xor]
  rfl

/-- The words of the key for the half of the rounds that the codes of authentication take. -/
def macKeys : List UInt32 := (List.range 16).map fun i => g.key (Fin.ofNat 8 i)

lemma loaded_xor (p q : Block 8) :
    loaded (p ^^^ q) = (loadLE32 (halves p).1 ^^^ loadLE32 (halves q).1,
      loadLE32 (halves p).2 ^^^ loadLE32 (halves q).2) := by
  rw [← loadLE32_xor, ← loadLE32_xor, loaded]
  rfl

/-- **A block of a code** is mixed in and goes through the rounds. -/
lemma macBlock_eq (state block : Block 8) :
    g.macBlock state block = stored (Feistel.rounds g.mix g.macKeys (loaded (state ^^^ block))) := by
  have hrounds (n : UInt32 × UInt32) :
      (List.range 16).foldl g.macRound n = Feistel.rounds g.mix g.macKeys n := by
    rw [Feistel.rounds, macKeys, List.foldl_map]
    rfl
  rw [macBlock, hrounds, loaded_xor]
  rfl

/-- A key of the right length is taken. -/
lemma setKey_eq_true {p : Option ByteString} (h : (g.setKey p).1 = true) :
    ∃ bs, p = some bs ∧ bs.length = 32 ∧
      (g.setKey p).2 = g.keyedWith fun i => bs.getD i 0 := by
  rcases p with _ | bs
  · cases h
  · by_cases hl : bs.length = 32
    · exact ⟨bs, rfl, hl, by simp [setKey, hl]⟩
    · simp [setKey, hl] at h

lemma keyed_setKey {p : Option ByteString} (h : (g.setKey p).1 = true) :
    (g.setKey p).2.keyed = true := by
  obtain ⟨bs, -, -, hset⟩ := g.setKey_eq_true h
  rw [hset]
  rfl

end GOST28147

end SoftHSM
