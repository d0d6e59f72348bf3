import SoftHSM.Crypto.GOST28147Algorithm
import SoftHSM.Crypto.GOSTSymmetric

/-!
The modes of Kuznechik and Magma: block by block, with tags, and as a stream of counters whose key
is changed after every section of the text.
-/

namespace SoftHSM

open Crypt (SymMode)
open Mgm (Cipher)

structure GOSTSymmetricAlgorithm (c : Cipher) where
  currentKey : Option SymmetricKey
  currentCipherMode : SymMode
  currentTagBytes : ℕ
  currentOperation : Operation
  input : ByteString
  parameters : ByteString
  associatedData : ByteString
  encrypting : Bool

namespace GOSTSymmetricAlgorithm

variable {c : Cipher}

/-- Four bytes as a number, the highest first. -/
def loadBE32 (p : ByteString) : ℕ := (SoftHSM.loadBE32 fun i => p.getD i 0).toNat

def sectionBytes (periodBits : ℕ) : ℕ := periodBits / 8

/-- As many bytes as a block has. -/
def blockOf (p : ByteString) : Block c.blockSize := fun i => p.getD i 0

/-! ### Counters and keys of sections -/

/-- The cipher of a section and the counter. -/
structure Registers (c : Cipher) where
  cipher : GOSTSymmetric c
  counter : Block c.blockSize

/-- Only the second half counts. -/
def incrementCounter (counter : Block c.blockSize) : Block c.blockSize :=
  Mgm.incrementHalf (c.blockSize / 2) c.blockSize counter

/-- The key of the next section, from the one of this. -/
def meshKey (o : ByteOrder) (cipher : GOSTSymmetric c) : GOSTSymmetric c :=
  let key := (List.range (32 / c.blockSize)).flatMap fun k =>
    List.ofFn (cipher.encryptBlock o (fun i => UInt8.ofNat (0x80 + c.blockSize * k + i)) 0)
  (cipher.setKey o (some key)).2

/-- The body of the loop in `processCTRACPKM`, in both directions. -/
def acpkmStep (o : ByteOrder) (sectionLen : ℕ) : Chained.Step (Registers c) UInt8 := fun offset s p =>
  let cipher := if sectionLen ≠ 0 ∧ offset ≠ 0 ∧ offset % sectionLen = 0 then meshKey o s.cipher
    else s.cipher
  let gamma := cipher.encryptBlock o s.counter 0
  (⟨cipher, incrementCounter s.counter⟩, List.zipWith (· ^^^ ·) p (List.ofFn gamma))

/-- The counter of the first block: half a block from the parameters, then zeros. -/
def firstCounter (parameters : ByteString) : Block c.blockSize := fun i =>
  if i < c.blockSize / 2 then parameters.getD (4 + i) 0 else 0

def cipher (o : ByteOrder) (key : SymmetricKey) : Option (GOSTSymmetric c) :=
  let (ok, cipher) := GOSTSymmetric.new.setKey o (some key.keyBits)
  if ok then some cipher else none

def processCTRACPKM (o : ByteOrder) (key : SymmetricKey) (parameters input out : ByteString) :
    Bool × ByteString :=
  match cipher (c := c) o key with
  | none => (false, out)
  | some cipher =>
    let sectionLen := sectionBytes (loadBE32 parameters)
    (true, (Chained.loop c.blockSize (acpkmStep o sectionLen) input
      ⟨cipher, firstCounter parameters⟩).2)

/-! ### The other modes -/

def ecbStep (o : ByteOrder) (encrypt : Bool) : Chained.Step (GOSTSymmetric c) UInt8 := fun _ s p =>
  (s, List.ofFn (if encrypt then s.encryptBlock o (blockOf p) 0 else s.decryptBlock o (blockOf p) 0))

def processECB (o : ByteOrder) (key : SymmetricKey) (input out : ByteString) (encrypt : Bool) :
    Bool × ByteString :=
  if input.length % c.blockSize ≠ 0 then (false, out)
  else match cipher (c := c) o key with
    | none => (false, out)
    | some cipher => (true, (Chained.loop c.blockSize (ecbStep o encrypt) input cipher).2)

/-- The texts lie one behind the other in memory, the result behind them. -/
def processMGM (o : ByteOrder) (key : SymmetricKey) (a : GOSTSymmetricAlgorithm c) (out : ByteString)
    (encrypt : Bool) : Bool × ByteString :=
  match cipher (c := c) o key with
  | none => (false, out)
  | some cipher =>
    let m : Memory := Memory.write (fun _ => 0) 0 a.input
    let aad := a.associatedData
    let icn : Block c.blockSize := blockOf a.parameters
    let encryptBlock := fun b => cipher.encryptBlock o b 0
    let tagLen := a.currentTagBytes
    if encrypt then
      if a.input.length = 0 ∧ aad.length = 0 then (false, out)
      else
        let n := a.input.length
        match Mgm.mgmEncrypt cipher.keyed encryptBlock (some icn) (some aad) aad.length (some 0) n
            (some n) true tagLen m with
        | none => (false, List.replicate (n + tagLen) 0)
        | some (tag, m) => (true, m.bytes n n ++ tag)
    else if a.input.length < tagLen ∨ (a.input.length = tagLen ∧ aad.length = 0) then (false, out)
    else
      let n := a.input.length - tagLen
      let (ok, m) := Mgm.mgmDecrypt cipher.keyed encryptBlock (some icn) (some aad) aad.length (some 0)
        n (some (a.input.drop n)) tagLen (some a.input.length) m
      (ok, m.bytes a.input.length n)

/-! ### The interface -/

def new : GOSTSymmetricAlgorithm c := ⟨none, .Unknown, 0, .NONE, [], [], [], false⟩

/-- Of all modes only the one with tags has a limit. -/
def checkMaximumBytes (a : GOSTSymmetricAlgorithm c) (bytes : ℕ) : Bool :=
  if a.currentCipherMode ≠ .MGM then true
  else
    let maximumInput := Mgm.maximumMGMBytes c.blockSize + if a.encrypting then 0 else a.currentTagBytes
    a.input.length ≤ maximumInput ∧ bytes ≤ maximumInput - a.input.length

/-- The parameters of a stream of counters: the period of the key, in bits and whole blocks or
zero, and half a block. -/
def acpkmAccepts (c : Cipher) (params : ByteString) : Bool :=
  params.length = 4 + c.blockSize / 2 ∧
    let period := loadBE32 params
    let blockBits := c.blockSize * 8
    ¬ (period ≠ 0 ∧ (period < blockBits ∨ period % blockBits ≠ 0))

/-- The parameters of the mode with tags. -/
def mgmAccepts (c : Cipher) (params aad : ByteString) (tagBytes : ℕ) : Bool :=
  params.length = c.blockSize ∧ params.getD 0 0 &&& 0x80 = 0 ∧ 4 ≤ tagBytes ∧
    tagBytes ≤ c.blockSize ∧ (c.blockSize = 8 → aad.length ≤ 2 ^ 29 - 1)

/-- `SymmetricAlgorithm::encryptInit` and `decryptInit`. -/
def startOperation (a : GOSTSymmetricAlgorithm c) (key : SymmetricKey) (mode : SymMode)
    (tagBytes : ℕ) (encrypt : Bool) : Bool × GOSTSymmetricAlgorithm c :=
  if a.currentOperation ≠ .NONE then (false, a)
  else (true, { a with
    currentKey := some key, currentCipherMode := mode, currentTagBytes := tagBytes
    currentOperation := .of encrypt })

def init (a : GOSTSymmetricAlgorithm c) (key : Option SymmetricKey) (mode : SymMode)
    (params : ByteString) (encrypt : Bool) (aad : ByteString) (tagBytes : ℕ) :
    Bool × GOSTSymmetricAlgorithm c :=
  match key with
  | none => (false, a)
  | some key =>
    if key.keyBits.length ≠ 32 ∨ (mode ≠ .ECB ∧ mode ≠ .CTR_ACPKM ∧ mode ≠ .MGM) then (false, a)
    else if mode = .ECB ∧ params.length ≠ 0 then (false, a)
    else if mode = .CTR_ACPKM ∧ !acpkmAccepts c params then (false, a)
    else if mode = .MGM ∧ !mgmAccepts c params aad tagBytes then (false, a)
    else if mode ≠ .MGM ∧ (aad.length ≠ 0 ∨ tagBytes ≠ 0) then (false, a)
    else startOperation { a with
      input := [], parameters := params, associatedData := aad, encrypting := encrypt } key mode
        tagBytes encrypt

/-- `encryptInit` and `decryptInit`. -/
def cryptInit (encrypt : Bool) (a : GOSTSymmetricAlgorithm c) (key : Option SymmetricKey)
    (mode : SymMode) (iv : ByteString) (padding : Bool) (aad : ByteString) (tagBytes : ℕ) :
    Bool × GOSTSymmetricAlgorithm c :=
  if padding then (false, a) else a.init key mode iv encrypt aad tagBytes

/-- `encryptUpdate` and `decryptUpdate`, which give nothing out. -/
def cryptUpdate (encrypt : Bool) (a : GOSTSymmetricAlgorithm c) (data : ByteString) :
    Bool × GOSTSymmetricAlgorithm c :=
  if !a.checkMaximumBytes data.length then (false, a)
  else if a.currentOperation ≠ .of encrypt then (false, a)
  else (true, { a with input := a.input ++ data })

/-- `SymmetricAlgorithm::encryptFinal` and `decryptFinal`. -/
def endOperation (a : GOSTSymmetricAlgorithm c) (encrypt : Bool) : Bool × GOSTSymmetricAlgorithm c :=
  if a.currentOperation ≠ .of encrypt then (false, a)
  else (true, { a with
    currentKey := none, currentCipherMode := .Unknown, currentTagBytes := 0
    currentOperation := .NONE })

def process (o : ByteOrder) (a : GOSTSymmetricAlgorithm c) (key : SymmetricKey) (out : ByteString)
    (encrypt : Bool) : Bool × ByteString :=
  match a.currentCipherMode with
  | .ECB => processECB (c := c) o key a.input out encrypt
  | .MGM => processMGM o key a out encrypt
  | _ => processCTRACPKM (c := c) o key a.parameters a.input out

/-- The end of a call, which there is none of without a key. -/
def finish (o : ByteOrder) (a : GOSTSymmetricAlgorithm c) (out : ByteString) (encrypt : Bool) :
    Bool × ByteString × GOSTSymmetricAlgorithm c :=
  let (ok, out) := match a.currentKey with
    | none => (false, out)
    | some key => a.process o key out encrypt
  let (ok, a) := if ok then a.endOperation encrypt else (false, a)
  (ok, out, { a with input := [], parameters := [], associatedData := [] })

/-- The updates of one operation, all of which have to be taken. -/
def updates (encrypt : Bool) (a : GOSTSymmetricAlgorithm c) :
    List ByteString → Option (GOSTSymmetricAlgorithm c)
  | [] => some a
  | data :: chunks =>
    let (ok, a) := cryptUpdate encrypt a data
    if ok then updates encrypt a chunks else none

/-- What an operation gives in the end. -/
def result (o : ByteOrder) (encrypt : Bool) (a : GOSTSymmetricAlgorithm c)
    (chunks : List ByteString) : Option ByteString := do
  let a ← updates encrypt a chunks
  let (ok, out, _) := a.finish o [] encrypt
  if ok then some out else none

end GOSTSymmetricAlgorithm

end SoftHSM
