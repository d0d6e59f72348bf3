import SoftHSM.Crypto.GOST28147Algorithm
import SoftHSM.Crypto.GOSTSymmetric
import SoftHSM.Crypto.MgmTag
import SoftHSM.Lib.Omac

/-!
The codes of authentication over Kuznechik and Magma. The text is collected until the end, and the
code is then computed by a loop that both the algorithm and the cipher itself have; it is the code of
the chain, with the masks from the doubling in the field.
-/

namespace SoftHSM

open Mgm (Cipher padded reduction)

/-! ### Signing and verifying -/

namespace MacAlgorithm

inductive Operation
  | NONE
  | SIGN
  | VERIFY
  deriving DecidableEq

def Operation.of (verify : Bool) : Operation := if verify then VERIFY else SIGN

end MacAlgorithm

/-- `MacAlgorithm` with the text that `GOSTMacAlgorithm` and `GOST28147MacAlgorithm` collect. -/
structure MacAlgorithm where
  currentOperation : MacAlgorithm.Operation
  currentKey : Option SymmetricKey
  input : ByteString

namespace MacAlgorithm

/-- The constructor. -/
def new : MacAlgorithm := ⟨.NONE, none, []⟩

/-- `MacAlgorithm::signInit` and `verifyInit`, on a key. -/
def startOperation (a : MacAlgorithm) (key : SymmetricKey) (verify : Bool) : Bool × MacAlgorithm :=
  if a.currentOperation ≠ .NONE then (false, a)
  else (true, { a with currentKey := some key, currentOperation := .of verify })

/-- `signInit` and `verifyInit` of the two algorithms; the text is gone in any case. -/
def init (verify : Bool) (a : MacAlgorithm) (key : Option SymmetricKey) : Bool × MacAlgorithm :=
  let a := { a with input := [] }
  match key with
  | none => (false, a)
  | some key => if key.keyBits.length = 32 then a.startOperation key verify else (false, a)

/-- `signUpdate` and `verifyUpdate`. -/
def update (verify : Bool) (a : MacAlgorithm) (data : ByteString) : Bool × MacAlgorithm :=
  if a.currentOperation ≠ .of verify then (false, a) else (true, { a with input := a.input ++ data })

/-- `MacAlgorithm::signFinal` and `verifyFinal`. -/
def endOperation (a : MacAlgorithm) (verify : Bool) : Bool × MacAlgorithm :=
  if a.currentOperation ≠ .of verify then (false, a)
  else (true, { a with currentOperation := .NONE, currentKey := none })

def equalConstantTime (a b : ByteString) : Bool :=
  if a.length ≠ b.length then false else Mgm.equalConstantTime a b a.length

section final

variable (calculate : SymmetricKey → ByteString → Option ByteString)

/-- The signature is written even if there is no operation to end. -/
def signFinal (a : MacAlgorithm) (signature : ByteString) : Bool × ByteString × MacAlgorithm :=
  match a.currentKey.bind (calculate · a.input) with
  | none => (false, signature, a)
  | some mac =>
    let (ok, a) := { a with input := [] }.endOperation false
    (ok, mac, a)

def verifyFinal (a : MacAlgorithm) (signature : ByteString) : Bool × MacAlgorithm :=
  match a.currentKey.bind (calculate · a.input) with
  | none => (false, a)
  | some expected =>
    let (ended, a) := { a with input := [] }.endOperation true
    (ended && equalConstantTime expected signature, a)

/-! ### Whole operations -/

/-- The updates of one operation, all of which have to be taken. -/
def updates (verify : Bool) (a : MacAlgorithm) : List ByteString → Option MacAlgorithm
  | [] => some a
  | data :: chunks =>
    let (ok, a) := update verify a data
    if ok then updates verify a chunks else none

/-- An operation up to its end. -/
def collect (verify : Bool) (a : MacAlgorithm) (key : SymmetricKey) (chunks : List ByteString) :
    Option MacAlgorithm :=
  let (ok, a) := a.init verify (some key)
  if ok then a.updates verify chunks else none

/-- The signature of a text that is given in pieces. -/
def sign (a : MacAlgorithm) (key : SymmetricKey) (chunks : List ByteString) : Option ByteString := do
  let a ← a.collect false key chunks
  let (ok, mac, _) := a.signFinal calculate []
  if ok then some mac else none

/-- What the verification of a signature says. -/
def verify (a : MacAlgorithm) (key : SymmetricKey) (chunks : List ByteString)
    (signature : ByteString) : Option Bool := do
  let a ← a.collect true key chunks
  some (a.verifyFinal calculate signature).1

/-- **The code** of a text is the one that is given as its signature and the only one that is
accepted, however the text is cut. -/
def Computes (key : SymmetricKey) (text mac : ByteString) : Prop :=
  ∀ a : MacAlgorithm, a.currentOperation = .NONE → ∀ chunks : List ByteString,
    chunks.flatten = text →
      sign calculate a key chunks = some mac ∧
        ∀ signature, verify calculate a key chunks signature = some (decide (signature = mac))

end final

lemma equalConstantTime_iff {a b : ByteString} : equalConstantTime a b = true ↔ b = a := by
  rw [equalConstantTime]
  split_ifs with h
  · exact ⟨fun h => (by cases h), fun heq => absurd (congrArg List.length heq).symm h⟩
  · rw [Mgm.equalConstantTime_iff rfl (not_not.1 h).symm]
    exact eq_comm

lemma updates_eq (verify : Bool) (chunks : List ByteString) (a : MacAlgorithm)
    (ha : a.currentOperation = .of verify) :
    a.updates verify chunks = some { a with input := a.input ++ chunks.flatten } := by
  induction chunks generalizing a with
  | nil => simp [updates]
  | cons data chunks ih =>
    have hupdate : a.update verify data = (true, { a with input := a.input ++ data }) := by
      simp [update, ha]
    rw [updates, hupdate]
    dsimp only
    rw [if_pos rfl, ih { a with input := a.input ++ data } ha, List.flatten_cons, List.append_assoc]

/-- A key of the right length is taken, and the pieces are put together. -/
lemma collect_eq (verify : Bool) {a : MacAlgorithm} (ha : a.currentOperation = .NONE)
    {key : SymmetricKey} (hkey : key.keyBits.length = 32) (chunks : List ByteString) :
    a.collect verify key chunks = some ⟨.of verify, some key, chunks.flatten⟩ := by
  have hinit : a.init verify (some key) = (true, ⟨.of verify, some key, []⟩) := by
    simp [init, startOperation, ha, hkey]
  rw [collect, hinit]
  dsimp only
  rw [if_pos rfl, updates_eq verify chunks _ rfl, List.nil_append]

/-- **Both directions** compute the same code. -/
lemma computes {calculate : SymmetricKey → ByteString → Option ByteString} {key : SymmetricKey}
    (hkey : key.keyBits.length = 32) {text mac : ByteString} (h : calculate key text = some mac) :
    Computes calculate key text mac := by
  rintro a ha chunks rfl
  refine ⟨?_, fun signature => ?_⟩
  · simp [sign, collect_eq false ha hkey, signFinal, h, endOperation]
  · have hequal : equalConstantTime mac signature = decide (signature = mac) := by
      rw [Bool.eq_iff_iff, equalConstantTime_iff, decide_eq_true_iff]
    simp [verify, collect_eq true ha hkey, verifyFinal, h, endOperation, hequal]

/-- A code that is computed is the one that the calculation gives. -/
lemma Computes.eq {calculate : SymmetricKey → ByteString → Option ByteString} {key : SymmetricKey}
    (hkey : key.keyBits.length = 32) {text mac mac' : ByteString} (h : calculate key text = some mac)
    (hc : Computes calculate key text mac') : mac = mac' := by
  have hsign := (computes hkey h new rfl [text] List.flatten_singleton).1
  have hsign' := (hc new rfl [text] List.flatten_singleton).1
  exact Option.some.inj (hsign.symm.trans hsign')

end MacAlgorithm

/-! ### The loop -/

section loop

variable {n : ℕ} [NeZero n]

/-- The body of the loop in `shiftSubkey`, with the bit that is carried. -/
def shiftStep (input : Block n) (s : UInt8 × Block n) (i : Fin n) : UInt8 × Block n :=
  (input i >>> 7, Function.update s.2 i (input i <<< 1 ||| s.1))

/-- The last byte of a block. -/
def lastByte (n : ℕ) [NeZero n] : Fin n := ⟨n - 1, Nat.sub_lt (NeZero.pos n) Nat.one_pos⟩

/-- `shiftSubkey`, which goes over the bytes from the last one. -/
def shiftSubkey (input : Block n) : Block n :=
  let (carry, out) := (List.finRange n).reverse.foldl (shiftStep input) (0, 0)
  if carry ≠ 0 then Function.update out (lastByte n) (out (lastByte n) ^^^ reduction n) else out

/-- The loop that `GOSTMacAlgorithm::calculate` and `GOSTSymmetric::omac` both have. -/
def omacLoop (encryptBlock : Block n → Block n) (input : ByteString) : Block n :=
  let k1 := shiftSubkey (encryptBlock 0)
  let k2 := shiftSubkey k1
  let full := input.length / n
  let complete := input.length ≠ 0 ∧ input.length % n = 0
  let beforeLast := if complete then full - 1 else full
  let chain := (List.range beforeLast).foldl
    (fun chain k => encryptBlock (chain ^^^ padded input (k * n))) 0
  let last := padded input (beforeLast * n)
  let last :=
    if complete then last ^^^ k1
    else
      let tail := input.length - beforeLast * n
      Function.update last (Fin.ofNat n tail) 0x80 ^^^ k2
  encryptBlock (chain ^^^ last)

/-- A byte after the shift, without what comes back. -/
def shifted (input : Block n) (i : Fin n) : UInt8 :=
  input i <<< 1 ||| if h : i + 1 < n then input ⟨i + 1, h⟩ >>> 7 else 0

omit [NeZero n] in
/-- The bytes from a place on are shifted, and the bit in front of them is carried. -/
lemma foldr_shiftStep (input : Block n) {m : ℕ} (hm : m ≤ n) :
    ((List.finRange n).drop m).foldr (fun i s => shiftStep input s i) (0, 0) =
      (if h : m < n then input ⟨m, h⟩ >>> 7 else 0,
        fun i : Fin n => if m ≤ i then shifted input i else 0) := by
  induction hm using Nat.decreasingInduction with
  | self =>
    rw [List.drop_of_length_le (by simp), dif_neg (lt_irrefl n)]
    refine Prod.ext rfl (funext fun i => ?_)
    exact (if_neg (by omega)).symm
  | of_succ m hlt ih =>
    rw [List.drop_eq_getElem_cons (by simpa using hlt), List.foldr_cons, ih, dif_pos hlt]
    refine Prod.ext (by simp [shiftStep]) (funext fun i => ?_)
    by_cases hi : i = ⟨m, hlt⟩
    · subst hi
      simp [shiftStep, shifted]
    · have hne : (i : ℕ) ≠ m := fun h => hi (Fin.ext h)
      simp only [shiftStep, List.getElem_finRange, Fin.cast_mk]
      rw [Function.update_of_ne hi]
      by_cases hle : m ≤ (i : ℕ)
      · rw [if_pos hle, if_pos (by omega)]
      · rw [if_neg hle, if_neg (by omega)]

lemma carry_iff : ∀ b : UInt8, b >>> 7 ≠ 0 ↔ b &&& 0x80 ≠ 0 := by decide +kernel

/-- **The shift** is the one of the field. -/
lemma shiftSubkey_eq (input : Block n) : shiftSubkey input = Mgm.gfDouble input := by
  have hn : 0 < n := NeZero.pos n
  have hfold : (List.finRange n).reverse.foldl (shiftStep input) (0, 0) =
      (input 0 >>> 7, fun i => shifted input i) := by
    have h := foldr_shiftStep input (Nat.zero_le n)
    simp only [List.drop_zero, dif_pos hn, Nat.zero_le, if_true] at h
    rw [List.foldl_reverse, h]
    rfl
  have hlast : ∀ i : Fin n, (i : ℕ) + 1 = n ↔ i = lastByte n := by
    intro i
    rw [Fin.ext_iff]
    show (i : ℕ) + 1 = n ↔ (i : ℕ) = n - 1
    omega
  rw [shiftSubkey, hfold]
  funext i
  rw [Mgm.gfDouble]
  dsimp only
  by_cases hc : input 0 &&& 0x80 ≠ 0
  · rw [if_pos ((carry_iff _).2 hc)]
    by_cases hi : i = lastByte n
    · rw [hi, Function.update_self, if_pos ⟨(hlast _).2 rfl, hc⟩, shifted]
    · rw [Function.update_of_ne hi, if_neg (fun h => hi ((hlast i).1 h.1)), UInt8.xor_zero, shifted]
  · rw [if_neg (fun h => hc ((carry_iff _).1 h)), if_neg (fun h => hc h.2), UInt8.xor_zero, shifted]

lemma shiftSubkey_eq_doubled (input : Block n) :
    shiftSubkey input = BinaryField.doubled (reduction n) input := by
  rw [shiftSubkey_eq]
  exact BinaryField.eq_doubled (NeZero.pos n) (Mgm.isDouble_gfDouble input)

omit [NeZero n] in
lemma padded_eq (input : ByteString) (offset : ℕ) :
    (padded input offset : Block n) = Omac.blockOf (input.drop offset) := by
  funext i
  simp [padded, Omac.blockOf, List.getD_eq_getElem?_getD]

/-- A bit behind the bytes. -/
lemma update_blockOf {p : ByteString} (hp : p.length < n) :
    Function.update (Omac.blockOf p : Block n) (Fin.ofNat n p.length) 0x80 =
      Omac.blockOf (p ++ [0x80]) := by
  funext i
  have hval : ((Fin.ofNat n p.length : Fin n) : ℕ) = p.length := Nat.mod_eq_of_lt hp
  by_cases hi : i = Fin.ofNat n p.length
  · rw [hi, Function.update_self, Omac.blockOf, hval]
    simp
  · have hne : (i : ℕ) ≠ p.length := fun h => hi (Fin.ext (h.trans hval.symm))
    rw [Function.update_of_ne hi, Omac.blockOf, Omac.blockOf]
    rcases Nat.lt_or_ge i p.length with hlt | hge
    · simp [List.getD_eq_getElem?_getD, List.getElem?_append_left hlt]
    · simp [List.getD_eq_getElem?_getD, List.getElem?_append_right hge,
        List.getElem?_eq_none hge, List.getElem?_eq_none (show [(0x80 : UInt8)].length ≤ i - p.length by
          simp; omega)]

/-- **The loop** computes the code of the chain. -/
theorem omacLoop_eq (encryptBlock : Block n → Block n) (input : ByteString) :
    omacLoop encryptBlock input =
      Omac.omac encryptBlock (BinaryField.doubled (reduction n)) input := by
  have hn : 0 < n := NeZero.pos n
  have hmod := Nat.div_add_mod input.length n
  rw [Omac.omac, Omac.chain_eq, omacLoop]
  simp only [shiftSubkey_eq_doubled, padded_eq]
  by_cases hc : input.length ≠ 0 ∧ input.length % n = 0
  · -- the last block is whole
    obtain ⟨k, hk⟩ : ∃ k, input.length / n = k + 1 := by
      refine Nat.exists_eq_add_one.2 (Nat.div_pos ?_ hn)
      exact Nat.le_of_dvd (Nat.pos_of_ne_zero hc.1) (Nat.dvd_of_mod_eq_zero hc.2)
    have hall : input.length = k * n + n := by
      rw [← hmod, hc.2, hk, Nat.mul_succ, Nat.mul_comm, Nat.add_zero]
    have hcount : (input.length - 1) / n = input.length / n - 1 := by
      rw [hk, Nat.add_sub_cancel]
      exact Nat.div_eq_of_lt_le (by omega) (by rw [Nat.succ_mul]; omega)
    have hlen : (input.drop ((input.length / n - 1) * n)).length = n := by
      rw [hk, Nat.add_sub_cancel, List.length_drop]
      omega
    rw [if_pos hc, if_pos hc, hcount, Omac.lastBlock, if_pos hlen]
    rfl
  · -- the last block is filled up, or there is none
    have hcount : (input.length - 1) / n = input.length / n := by
      by_cases h0 : input.length = 0
      · rw [h0]
      · have hne : input.length % n ≠ 0 := fun h => hc ⟨h0, h⟩
        have hlt := Nat.mod_lt input.length hn
        exact Nat.div_eq_of_lt_le (by rw [Nat.mul_comm]; omega)
          (by rw [Nat.succ_mul, Nat.mul_comm]; omega)
    have hlen : (input.drop (input.length / n * n)).length = input.length - input.length / n * n :=
      List.length_drop
    have hshort : (input.drop (input.length / n * n)).length < n := by
      have hlt := Nat.mod_lt input.length hn
      rw [hlen, Nat.mul_comm]
      omega
    rw [if_neg hc, if_neg hc, hcount, Omac.lastBlock, if_neg hshort.ne, ← hlen,
      update_blockOf hshort]
    rfl

end loop

/-! ### The algorithms -/

namespace GOSTMacAlgorithm

variable {c : Cipher}

def getMacSize : Cipher → ℕ
  | .KUZNECHIK => 8
  | .MAGMA => 4

/-- The first thirty-two bytes of a key, which are what `setKey` takes. -/
def keyBlock (key : SymmetricKey) : Block 32 := fun i => key.keyBits.getD i 0

/-- `GOSTMacAlgorithm::calculate`, over a block cipher with its keys. -/
def calculate (cipher : Block 32 → Equiv.Perm (Block c.blockSize)) (key : SymmetricKey)
    (input : ByteString) : Option ByteString :=
  some ((List.ofFn (omacLoop (cipher (keyBlock key)) input)).take (getMacSize c))

end GOSTMacAlgorithm

/-- `GOSTSymmetric::omac`, whose arguments are pointers. -/
def GOSTSymmetric.omac {n : ℕ} [NeZero n] (keyed : Bool) (encryptBlock : Block n → Block n)
    (input : Option ByteString) (len : ℕ) (out : Bool) : Option (Block n) :=
  if !keyed || !out || (len ≠ 0 && input.isNone) then none
  else some (omacLoop encryptBlock ((input.getD []).take len))

end SoftHSM
