import SoftHSM.Crypto.GOSTMacAlgorithm

/-!
The code of authentication of the cipher of 1989: sixteen rounds for each block, the key changes
after every 1024 bytes, and what is left of the text behind its whole blocks is filled up with zeros.
The block that is filled up is worked off behind the loop, where the key does not change.
-/

namespace SoftHSM

open Omac (blockOf)
open Mgm (reduction)

/-- What the code needs of a cipher whose state is of type `σ`. -/
structure MacCipher (σ : Type) where
  macBlock : σ → Block 8 → Block 8 → Block 8
  meshKey : σ → Block 8 → σ × Block 8
  usesKeyMeshing : σ → Bool

namespace MacCipher

variable {σ τ : Type} (C : MacCipher σ)

/-- The change of the key in front of a block. -/
def meshAt (processed : ℕ) (s : σ × Block 8) : σ × Block 8 :=
  if processed ≠ 0 ∧ processed % 1024 = 0 ∧ C.usesKeyMeshing s.1 then C.meshKey s.1 s.2 else s

/-- The body of the loop in `calculate`. -/
def step (input : ByteString) (s : σ × Block 8) (i : ℕ) : σ × Block 8 :=
  let s := C.meshAt (8 * i) s
  (s.1, C.macBlock s.1 s.2 (blockOf (input.drop (8 * i))))

/-- The loop, over a number of blocks. -/
def steps (input : ByteString) (cipher : σ) (count : ℕ) : σ × Block 8 :=
  (List.range count).foldl (C.step input) (cipher, 0)

/-- The state at the end of `calculate`. -/
def loop (cipher : σ) (input : ByteString) : Block 8 :=
  let processed := input.length / 8
  let (cipher, state) := C.steps input cipher processed
  let (state, processed) :=
    if 8 * processed < input.length then
      (C.macBlock cipher state (blockOf (input.drop (8 * processed))), processed + 1)
    else (state, processed)
  if processed = 1 then C.macBlock cipher state 0 else state

/-- **The code** of a text that is filled up with zeros to whole blocks, of which there are two at
the least. -/
def mac (cipher : σ) (input : ByteString) : Block 8 :=
  (C.steps input cipher (max 2 ((input.length + 7) / 8))).2

lemma steps_succ (input : ByteString) (cipher : σ) (count : ℕ) :
    C.steps input cipher (count + 1) = C.step input (C.steps input cipher count) count := by
  rw [steps, List.range_succ, List.foldl_append]
  rfl

/-- The key stays in front of a block at another place. -/
lemma meshAt_of_not {processed : ℕ} {s : σ × Block 8}
    (h : ¬ (processed ≠ 0 ∧ processed % 1024 = 0 ∧ C.usesKeyMeshing s.1)) :
    C.meshAt processed s = s :=
  if_neg h

lemma step_of_not {input : ByteString} {s : σ × Block 8} {i : ℕ}
    (h : ¬ (8 * i ≠ 0 ∧ 8 * i % 1024 = 0 ∧ C.usesKeyMeshing s.1)) :
    C.step input s i = (s.1, C.macBlock s.1 s.2 (blockOf (input.drop (8 * i)))) := by
  rw [step, C.meshAt_of_not h]

/-- Nothing is left of a text behind its end. -/
lemma blockOf_drop_eq_zero {input : ByteString} {k : ℕ} (h : input.length ≤ k) :
    (blockOf (input.drop k) : Block 8) = 0 := by
  rw [List.drop_of_length_le h]
  rfl

/-- A text of one block. -/
lemma loop_eq_of_le {cipher : σ} {input : ByteString} (h0 : input ≠ []) (h : input.length ≤ 8) :
    C.loop cipher input = C.mac cipher input := by
  have hpos : 0 < input.length := List.length_pos_of_ne_nil h0
  have hmax : max 2 ((input.length + 7) / 8) = 0 + 1 + 1 := by omega
  have hzero : (blockOf (input.drop (8 * (0 + 1))) : Block 8) = 0 := blockOf_drop_eq_zero (by omega)
  have hsteps : C.mac cipher input =
      C.macBlock cipher (C.macBlock cipher 0 (blockOf (input.drop (8 * 0)))) 0 := by
    rw [mac, hmax, steps_succ, steps_succ]
    have hfirst : C.steps input cipher 0 = (cipher, 0) := rfl
    rw [hfirst, C.step_of_not (by omega), C.step_of_not (by omega), hzero]
  rw [hsteps, loop]
  by_cases h8 : input.length = 8
  · have hdiv : input.length / 8 = 0 + 1 := by omega
    have hend : ¬ 8 * (0 + 1) < input.length := by omega
    rw [hdiv, steps_succ, C.step_of_not (by omega)]
    simp only [if_neg hend, if_pos]
    rfl
  · have hdiv : input.length / 8 = 0 := by omega
    have hrest : 8 * 0 < input.length := by omega
    rw [hdiv]
    simp only [if_pos hrest, Nat.zero_add, if_pos]
    rfl

/-- A longer text: the loop does what the code asks for, and at the end leaves out a change of the
key. -/
lemma loop_of_gt {cipher : σ} {input : ByteString} (h : 8 < input.length) :
    C.loop cipher input =
      if input.length % 8 = 0 then (C.steps input cipher (input.length / 8)).2
      else C.macBlock (C.steps input cipher (input.length / 8)).1
        (C.steps input cipher (input.length / 8)).2
        (blockOf (input.drop (8 * (input.length / 8)))) := by
  rw [loop]
  by_cases hwhole : input.length % 8 = 0
  · have hend : ¬ 8 * (input.length / 8) < input.length := by omega
    have hmany : input.length / 8 ≠ 1 := by omega
    simp only [if_pos hwhole, if_neg hend, if_neg hmany]
  · have hrest : 8 * (input.length / 8) < input.length := by omega
    have hmany : input.length / 8 + 1 ≠ 1 := by omega
    simp only [if_neg hwhole, if_pos hrest, if_neg hmany]

lemma mac_of_gt {cipher : σ} {input : ByteString} (h : 8 < input.length) :
    C.mac cipher input =
      if input.length % 8 = 0 then (C.steps input cipher (input.length / 8)).2
      else (C.step input (C.steps input cipher (input.length / 8)) (input.length / 8)).2 := by
  rw [mac]
  split_ifs with hwhole
  · rw [show max 2 ((input.length + 7) / 8) = input.length / 8 by omega]
  · rw [show max 2 ((input.length + 7) / 8) = input.length / 8 + 1 by omega, steps_succ]

/-- **The loop computes the code** where no block that is filled up comes after a change of the
key. -/
lemma loop_eq {cipher : σ} {input : ByteString} (h0 : input ≠ [])
    (h : ¬ (C.usesKeyMeshing (C.steps input cipher (input.length / 8)).1 = true ∧
      1024 < input.length ∧ 0 < input.length % 1024 ∧ input.length % 1024 < 8)) :
    C.loop cipher input = C.mac cipher input := by
  rcases Nat.lt_or_ge 8 input.length with hlong | hshort
  · rw [C.loop_of_gt hlong, C.mac_of_gt hlong]
    split_ifs with hwhole
    · rfl
    · rw [C.step_of_not]
      rintro ⟨hne, hmod, hmesh⟩
      exact h ⟨hmesh, by omega, by omega, by omega⟩
  · exact C.loop_eq_of_le h0 hshort

/-! ### Two ciphers with one meaning -/

/-- The states of two ciphers that do the same. -/
structure Simulates (C : MacCipher σ) (D : MacCipher τ) (R : σ → τ → Prop) : Prop where
  macBlock {c : σ} {d : τ} (h : R c d) (state block : Block 8) :
    C.macBlock c state block = D.macBlock d state block
  meshKey_fst {c : σ} {d : τ} (h : R c d) (state : Block 8) :
    R (C.meshKey c state).1 (D.meshKey d state).1
  meshKey_snd {c : σ} {d : τ} (h : R c d) (state : Block 8) :
    (C.meshKey c state).2 = (D.meshKey d state).2
  usesKeyMeshing {c : σ} {d : τ} (h : R c d) : C.usesKeyMeshing c = D.usesKeyMeshing d

namespace Simulates

variable {C} {D : MacCipher τ} {R : σ → τ → Prop} (hsim : Simulates C D R)

include hsim

lemma meshAt (processed : ℕ) {s : σ × Block 8} {t : τ × Block 8} (h : R s.1 t.1 ∧ s.2 = t.2) :
    R (C.meshAt processed s).1 (D.meshAt processed t).1 ∧
      (C.meshAt processed s).2 = (D.meshAt processed t).2 := by
  obtain ⟨hR, hstate⟩ := h
  rw [MacCipher.meshAt, MacCipher.meshAt, hsim.usesKeyMeshing hR, hstate]
  split_ifs
  · exact ⟨hsim.meshKey_fst hR t.2, hsim.meshKey_snd hR t.2⟩
  · exact ⟨hR, hstate⟩

lemma steps (input : ByteString) {c : σ} {d : τ} (h : R c d) (count : ℕ) :
    R (C.steps input c count).1 (D.steps input d count).1 ∧
      (C.steps input c count).2 = (D.steps input d count).2 := by
  induction count with
  | zero => exact ⟨h, rfl⟩
  | succ count ih =>
    rw [steps_succ, steps_succ]
    obtain ⟨hR, hstate⟩ := hsim.meshAt (8 * count) ih
    refine ⟨hR, ?_⟩
    rw [step, step, hstate]
    exact hsim.macBlock hR _ _

/-- **The loop** comes to the same code. -/
lemma loop (input : ByteString) {c : σ} {d : τ} (h : R c d) : C.loop c input = D.loop d input := by
  obtain ⟨hR, hstate⟩ := hsim.steps input h (input.length / 8)
  rw [MacCipher.loop, MacCipher.loop]
  dsimp only
  rw [hstate]
  split_ifs <;> simp only [hsim.macBlock hR]

end Simulates

end MacCipher

/-! ### Keyed permutations -/

/-- A block cipher and the rounds that its codes of authentication take, with any key. -/
structure KeyedPermutations where
  encryptBlock : Block 32 → Equiv.Perm (Block 8)
  macRounds : Block 32 → Equiv.Perm (Block 8)

namespace KeyedPermutations

variable (P : KeyedPermutations)

/-- The key that comes after a key: the constant, decrypted with it. -/
def nextKey (key : Block 32) : Block 32 := fun i =>
  ((List.range 4).flatMap fun i =>
    List.ofFn ((P.encryptBlock key).symm (GOST28147.meshBlock i))).getD i 0

/-- The cipher, whose state is its key. -/
def macCipher (paramSet : GOST28147.ParamSet) : MacCipher (Block 32) where
  macBlock key state block := P.macRounds key (state ^^^ block)
  meshKey key state := (P.nextKey key, P.encryptBlock (P.nextKey key) state)
  usesKeyMeshing _ := paramSet ≠ .TEST

end KeyedPermutations

/-! ### The cipher itself -/

namespace GOST28147

variable (g : GOST28147)

def macCipher : MacCipher GOST28147 where
  macBlock := GOST28147.macBlock
  meshKey g state := ((g.meshKey (some state)).1, ((g.meshKey (some state)).2).getD state)
  usesKeyMeshing := GOST28147.usesKeyMeshing

/-- The cipher with the table of a parameter set and a key. -/
def keyedBy (paramSet : ParamSet) (key : Block 32) : GOST28147 :=
  keyedWith { new with paramSet := paramSet, sbox := loadSBox paramSet } key

/-- The rounds that a block of a code goes through. -/
def macForth (b : Block 8) : Block 8 := stored (Feistel.rounds g.mix g.macKeys (loaded b))

/-- The same rounds back. -/
def macBack (b : Block 8) : Block 8 :=
  stored (Feistel.network g.mix g.macKeys.reverse (loaded b).swap)

lemma macBack_macForth (b : Block 8) : g.macBack (g.macForth b) = b := by
  have hback := Feistel.network_reverse g.mix g.macKeys (loaded b)
  rw [Feistel.network] at hback
  rw [macBack, macForth, loaded_stored]
  exact (congrArg stored hback).trans (stored_loaded b)

lemma macForth_macBack (b : Block 8) : g.macForth (g.macBack b) = b := by
  have hforth := Feistel.network_reverse g.mix g.macKeys.reverse (loaded b).swap
  rw [List.reverse_reverse, Feistel.network] at hforth
  rw [macForth, macBack, loaded_stored, Prod.swap_inj.1 hforth, stored_loaded]

/-- A set of parameters as permutations. -/
def permutations (paramSet : ParamSet) : KeyedPermutations where
  encryptBlock key := {
    toFun := fun b => (keyedBy paramSet key).encryptBlock b 0
    invFun := fun b => (keyedBy paramSet key).decryptBlock b 0
    left_inv := fun b => (keyedBy paramSet key).decryptBlock_encryptBlock rfl b 0 0
    right_inv := fun b => (keyedBy paramSet key).encryptBlock_decryptBlock rfl b 0 0 }
  macRounds key := {
    toFun := (keyedBy paramSet key).macForth
    invFun := (keyedBy paramSet key).macBack
    left_inv := (keyedBy paramSet key).macBack_macForth
    right_inv := (keyedBy paramSet key).macForth_macBack }

/-- The cipher has a key, and its table is the one of its parameters. -/
def Keys (paramSet : ParamSet) (g : GOST28147) (key : Block 32) : Prop := g = keyedBy paramSet key

/-- **The cipher** does what its permutations do. -/
lemma simulates (paramSet : ParamSet) :
    macCipher.Simulates ((permutations paramSet).macCipher paramSet) (Keys paramSet) := by
  have hmesh (key : Block 32) (state : Block 8) :
      ((keyedBy paramSet key).meshKey (some state)).1 =
        keyedBy paramSet ((permutations paramSet).nextKey key) := by
    rw [meshKey, setKey]
    rfl
  constructor
  · rintro g key rfl state block
    exact (keyedBy paramSet key).macBlock_eq state block
  · rintro g key rfl state
    exact hmesh key state
  · rintro g key rfl state
    have h := congrArg (fun g : GOST28147 => g.encryptBlock state 0) (hmesh key state)
    exact h
  · rintro g key rfl
    rfl

end GOST28147

namespace GOST28147MacAlgorithm

open GOSTMacAlgorithm (keyBlock)

/-- `GOST28147MacAlgorithm::calculate`, over the permutations that a parameter set stands for. -/
def calculate (permutations : GOST28147.ParamSet → KeyedPermutations) (key : SymmetricKey)
    (input : ByteString) : Option ByteString :=
  (GOST28147.paramSetOf key.algorithmParameters).bind fun paramSet =>
    if key.keyBits.length = 32 then
      some ((List.ofFn (((permutations paramSet).macCipher paramSet).loop (keyBlock key) input)).take 4)
    else none

/-- The same over the cipher itself. -/
def calculateGOST28147 (key : SymmetricKey) (input : ByteString) : Option ByteString := do
  let cipher ← GOST28147.new.setParamSet key.algorithmParameters
  let (ok, cipher) := cipher.setKey (some key.keyBits)
  if ok then some ((List.ofFn (GOST28147.macCipher.loop cipher input)).take 4) else none

/-- **The code** that the first four bytes are of. -/
def macOf (permutations : KeyedPermutations) (paramSet : GOST28147.ParamSet) (key : SymmetricKey)
    (input : ByteString) : ByteString :=
  (List.ofFn ((permutations.macCipher paramSet).mac (keyBlock key) input)).take 4

theorem calculateGOST28147_eq (key : SymmetricKey) (input : ByteString) :
    calculateGOST28147 key input = calculate GOST28147.permutations key input := by
  rw [calculateGOST28147, calculate, GOST28147.setParamSet]
  rcases GOST28147.paramSetOf key.algorithmParameters with _ | paramSet
  · rfl
  · by_cases hlen : key.keyBits.length = 32
    · have hset : GOST28147.setKey { GOST28147.new with
          paramSet := paramSet, sbox := GOST28147.loadSBox paramSet } (some key.keyBits) =
          (true, GOST28147.keyedBy paramSet (keyBlock key)) := if_pos hlen
      have hloop := (GOST28147.simulates paramSet).loop input
        (c := GOST28147.keyedBy paramSet (keyBlock key)) (d := keyBlock key) rfl
      rw [Option.bind_some, if_pos hlen, ← hloop]
      simp only [Option.map_some, Option.bind_eq_bind, Option.bind_some, hset, if_true]
    · simp [GOST28147.setKey, hlen]

/-! ### Where a change of the key is left out -/

/-- The last block of a text is filled up and comes after a change of the key. -/
def FilledAfterChange (paramSet : GOST28147.ParamSet) (text : ByteString) : Prop :=
  paramSet ≠ .TEST ∧ 1024 < text.length ∧ 0 < text.length % 1024 ∧ text.length % 1024 < 8

instance (paramSet : GOST28147.ParamSet) (text : ByteString) :
    Decidable (FilledAfterChange paramSet text) :=
  inferInstanceAs (Decidable (_ ∧ _))

lemma calculate_of_paramSet {permutations : GOST28147.ParamSet → KeyedPermutations}
    {key : SymmetricKey} {paramSet : GOST28147.ParamSet}
    (hset : GOST28147.paramSetOf key.algorithmParameters = some paramSet)
    (hkey : key.keyBits.length = 32) (text : ByteString) :
    calculate permutations key text = some ((List.ofFn
      (((permutations paramSet).macCipher paramSet).loop (keyBlock key) text)).take 4) := by
  rw [calculate, hset, Option.bind_some, if_pos hkey]

/-- The first block of a key. -/
def firstBlock (key : Block 32) : Block 8 := fun i => key (Fin.castLE (by omega) i)

/-- Permutations that add the first block of the key. -/
def added : KeyedPermutations where
  encryptBlock key := (xor_left_involutive (firstBlock key)).toPerm
  macRounds key := (xor_left_involutive (firstBlock key)).toPerm

lemma nextKey_added (key : Block 32) : added.nextKey key 0 = 0x69 ^^^ key 0 := by
  rw [KeyedPermutations.nextKey, List.range_succ_eq_map, List.flatMap_cons]
  rfl

/-- The first byte of a key goes back and forth between two values. -/
lemma steps_added (paramSet : GOST28147.ParamSet) (text : ByteString) {key : Block 32}
    (hkey : key 0 = 1) (count : ℕ) :
    ((added.macCipher paramSet).steps text key count).1 0 = 1 ∨
      ((added.macCipher paramSet).steps text key count).1 0 = 0x68 := by
  induction count with
  | zero => exact Or.inl hkey
  | succ count ih =>
    rw [MacCipher.steps_succ, MacCipher.step, MacCipher.meshAt]
    split_ifs
    · have hnext := nextKey_added ((added.macCipher paramSet).steps text key count).1
      rcases ih with h | h <;> rw [h] at hnext
      · exact Or.inr hnext
      · exact Or.inl hnext
    · exact ih

/-- Without its change of the key, the last block takes another key than it should. -/
lemma loop_added_ne {paramSet : GOST28147.ParamSet} {text : ByteString} {key : Block 32}
    (hkey : key 0 = 1) (h : FilledAfterChange paramSet text) :
    (added.macCipher paramSet).loop key text 0 ≠ (added.macCipher paramSet).mac key text 0 := by
  obtain ⟨hset, hlong, hrest, hfill⟩ := h
  have hbyte := steps_added paramSet text hkey (text.length / 8)
  have hmesh : 8 * (text.length / 8) ≠ 0 ∧ 8 * (text.length / 8) % 1024 = 0 ∧
      (added.macCipher paramSet).usesKeyMeshing
        ((added.macCipher paramSet).steps text key (text.length / 8)).1 = true :=
    ⟨by omega, by omega, decide_eq_true hset⟩
  rw [MacCipher.loop_of_gt _ (by omega), MacCipher.mac_of_gt _ (by omega), if_neg (by omega),
    if_neg (by omega), MacCipher.step, MacCipher.meshAt, if_pos hmesh]
  generalize (added.macCipher paramSet).steps text key (text.length / 8) = s at hbyte
  generalize (blockOf (text.drop (8 * (text.length / 8))) : Block 8) = block
  intro heq
  have hcode : s.2 0 ^^^ block 0 ^^^ s.1 0 =
      s.2 0 ^^^ added.nextKey s.1 0 ^^^ block 0 ^^^ added.nextKey s.1 0 := heq
  have hzero : s.1 0 = 0 := by
    have hcancel : s.2 0 ^^^ added.nextKey s.1 0 ^^^ block 0 ^^^ added.nextKey s.1 0 =
        s.2 0 ^^^ block 0 := by
      rw [UInt8.xor_assoc (s.2 0), UInt8.xor_comm _ (block 0), ← UInt8.xor_assoc, xor_cancel_right]
    rw [hcancel] at hcode
    exact xor_left_eq_self_iff.1 hcode
  rcases hbyte with h | h <;> rw [h] at hzero <;> exact absurd hzero (by decide)

lemma not_computes_added {oid : ByteString} {paramSet : GOST28147.ParamSet}
    (hset : GOST28147.paramSetOf oid = some paramSet) {text : ByteString}
    (h : FilledAfterChange paramSet text) :
    ¬ MacAlgorithm.Computes (calculate fun _ => added) ⟨1 :: List.replicate 31 0, oid⟩ text
      (macOf added paramSet ⟨1 :: List.replicate 31 0, oid⟩ text) := by
  intro hc
  have hkey : (1 :: List.replicate 31 (0 : UInt8)).length = 32 := rfl
  have heq := hc.eq hkey (calculate_of_paramSet hset hkey text)
  have hbyte := congrArg (fun mac : ByteString => mac.getD 0 0) heq
  exact loop_added_ne rfl h hbyte

/-- **The algorithm computes the code** of a text, with every cipher and every key, if and only if
no block that is filled up comes after a change of the key. -/
lemma computes_iff {oid : ByteString} {paramSet : GOST28147.ParamSet}
    (hset : GOST28147.paramSetOf oid = some paramSet) {text : ByteString} (h0 : text ≠ []) :
    (∀ permutations keyBits, keyBits.length = 32 →
      MacAlgorithm.Computes (calculate permutations) ⟨keyBits, oid⟩ text
        (macOf (permutations paramSet) paramSet ⟨keyBits, oid⟩ text)) ↔
      ¬ FilledAfterChange paramSet text := by
  constructor
  · intro h hfilled
    exact not_computes_added hset hfilled (h (fun _ => added) (1 :: List.replicate 31 0) rfl)
  · intro h permutations keyBits hkey
    apply MacAlgorithm.computes hkey
    rw [calculate_of_paramSet hset hkey, MacCipher.loop_eq _ h0]
    · rfl
    · rintro ⟨hmesh, hlong⟩
      exact h ⟨of_decide_eq_true hmesh, hlong⟩

end GOST28147MacAlgorithm

/-! ### The codes of the three ciphers -/

/-- **The codes** over Kuznechik and Magma are the ones of the chain, those of the cipher of 1989
are computed except for a last block that is filled up after a change of the key. -/
theorem macs_are_computed (oid text : ByteString) :
    (∀ (c : Mgm.Cipher) (cipher : Block 32 → Equiv.Perm (Block c.blockSize)) (key : SymmetricKey),
      key.keyBits.length = 32 →
        MacAlgorithm.Computes (GOSTMacAlgorithm.calculate cipher) key text
          ((List.ofFn (Omac.omac (cipher (GOSTMacAlgorithm.keyBlock key))
            (BinaryField.doubled (reduction c.blockSize)) text)).take
              (GOSTMacAlgorithm.getMacSize c)) ∧
        GOSTSymmetric.omac true (cipher (GOSTMacAlgorithm.keyBlock key)) (some text) text.length
          true = some (Omac.omac (cipher (GOSTMacAlgorithm.keyBlock key))
            (BinaryField.doubled (reduction c.blockSize)) text)) ∧
    (GOST28147.paramSetOf oid = none → ∀ permutations keyBits,
      GOST28147MacAlgorithm.calculate permutations ⟨keyBits, oid⟩ text = none) ∧
    (∀ paramSet, GOST28147.paramSetOf oid = some paramSet → text ≠ [] →
      ((∀ permutations keyBits, keyBits.length = 32 →
        MacAlgorithm.Computes (GOST28147MacAlgorithm.calculate permutations) ⟨keyBits, oid⟩ text
          (GOST28147MacAlgorithm.macOf (permutations paramSet) paramSet ⟨keyBits, oid⟩ text)) ↔
        ¬ (paramSet ≠ .TEST ∧ 1024 < text.length ∧ 0 < text.length % 1024 ∧
          text.length % 1024 < 8))) := by
  refine ⟨fun c cipher key hkey => ⟨?_, ?_⟩, fun hset permutations keyBits => ?_,
    fun paramSet hset h0 => GOST28147MacAlgorithm.computes_iff hset h0⟩
  · apply MacAlgorithm.computes hkey
    rw [GOSTMacAlgorithm.calculate, omacLoop_eq]
  · rw [GOSTSymmetric.omac, if_neg (by simp), Option.getD_some, List.take_length, omacLoop_eq]
  · rw [GOST28147MacAlgorithm.calculate, hset, Option.bind_none]

/-- A text of 1025 bytes, with a cipher that adds the key. -/
theorem mac_without_change : ¬ MacAlgorithm.Computes
    (GOST28147MacAlgorithm.calculate fun _ => GOST28147MacAlgorithm.added)
    ⟨1 :: List.replicate 31 0, []⟩ (List.replicate 1025 0)
    (GOST28147MacAlgorithm.macOf GOST28147MacAlgorithm.added .CRYPTOPRO_A
      ⟨1 :: List.replicate 31 0, []⟩ (List.replicate 1025 0)) := by
  apply GOST28147MacAlgorithm.not_computes_added rfl
  rw [GOST28147MacAlgorithm.FilledAfterChange, List.length_replicate]
  decide

end SoftHSM
