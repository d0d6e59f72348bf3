import SoftHSM.Crypto.GOST28147
import SoftHSM.Lib.Chained
import SoftHSM.Library.CipherSizes

/-!
The modes of the cipher of 1989: the text is collected until the end, and then worked off block by
block, with a new key and a new feedback after every 1024 bytes.
-/

namespace SoftHSM

open Crypt (SymMode)

structure SymmetricKey where
  keyBits : ByteString
  algorithmParameters : ByteString

inductive Operation
  | NONE
  | ENCRYPT
  | DECRYPT
  deriving DecidableEq

def Operation.of (encrypt : Bool) : Operation := if encrypt then ENCRYPT else DECRYPT

structure GOST28147Algorithm where
  currentKey : Option SymmetricKey
  currentCipherMode : SymMode
  currentOperation : Operation
  input : ByteString
  parameters : ByteString

namespace GOST28147Algorithm

/-! ### Blocks -/

/-- Eight bytes as a block. -/
def blockOf (p : ByteString) : Block 8 := fun i => p.getD i 0

/-- The cipher with its key, and the feedback of the modes that have one. -/
abbrev Registers := GOST28147 × Option (Block 8)

/-- The change of the key in front of a block. -/
def meshAt (offset : ℕ) (s : Registers) : Registers :=
  if offset ≠ 0 ∧ offset % 1024 = 0 ∧ s.1.usesKeyMeshing then s.1.meshKey s.2 else s

def ecbStep (encrypt : Bool) : Chained.Step Registers UInt8 := fun offset s p =>
  let s := meshAt offset s
  (s, List.ofFn (if encrypt then s.1.encryptBlock (blockOf p) 0 else s.1.decryptBlock (blockOf p) 0))

def cfbStep (encrypt : Bool) : Chained.Step Registers UInt8 := fun offset s p =>
  let s := meshAt offset s
  let gamma := s.1.encryptBlock (s.2.getD 0) 0
  let out := List.zipWith (· ^^^ ·) p (List.ofFn gamma)
  -- a last piece that is not a block leaves the feedback
  let feedback := if p.length = 8 then some (blockOf (if encrypt then out else p)) else s.2
  ((s.1, feedback), out)

def cbcStep (encrypt : Bool) : Chained.Step Registers UInt8 := fun offset s p =>
  let s := meshAt offset s
  let feedback := s.2.getD 0
  if encrypt then
    let out := s.1.encryptBlock (blockOf p ^^^ feedback) 0
    ((s.1, some out), List.ofFn out)
  else
    let block := s.1.decryptBlock (blockOf p) 0
    ((s.1, some (blockOf p)), List.ofFn (block ^^^ feedback))

/-! ### Modes -/

/-- The bytes that fill up the last block, or are a block of their own. -/
def padded (input : ByteString) : ByteString :=
  let count := 8 - input.length % 8
  input ++ List.replicate count (UInt8.ofNat count)

def processECB (cipher : GOST28147) (input out : ByteString) (encrypt : Bool) : Bool × ByteString :=
  if input.length % 8 ≠ 0 then (false, out)
  else (true, (Chained.loop 8 (ecbStep encrypt) input (cipher, none)).2)

def processCFB (cipher : GOST28147) (parameters input : ByteString) (encrypt : Bool) :
    Bool × ByteString :=
  (true, (Chained.loop 8 (cfbStep encrypt) input (cipher, some (blockOf parameters))).2)

/-- What the last bytes differ in from their number. -/
def difference (out : ByteString) (count : UInt8) : UInt8 :=
  (List.range 8).foldl (fun d i =>
    if i < count.toNat then d ||| (out.getD (out.length - 1 - i) 0 ^^^ count) else d) 0

/-- Of a text that does not end as it should, the caller's string keeps what was decrypted. -/
def processCBC (cipher : GOST28147) (parameters input out : ByteString) (encrypt : Bool) :
    Bool × ByteString :=
  if !encrypt ∧ (input.length = 0 ∨ input.length % 8 ≠ 0) then (false, out)
  else
    let text := if encrypt then padded input else input
    let out := (Chained.loop 8 (cbcStep encrypt) text (cipher, some (blockOf parameters))).2
    if encrypt then (true, out)
    else
      let count := out.getD (out.length - 1) 0
      if count = 0 ∨ 8 < count then (false, out)
      else if difference out count ≠ 0 then (false, out)
      else (true, out.take (out.length - count.toNat))

/-! ### The interface -/

def new : GOST28147Algorithm := ⟨none, .Unknown, .NONE, [], []⟩

/-- `SymmetricAlgorithm::encryptInit` and `decryptInit`. -/
def startOperation (a : GOST28147Algorithm) (key : SymmetricKey) (mode : SymMode) (encrypt : Bool) :
    Bool × GOST28147Algorithm :=
  if a.currentOperation ≠ .NONE then (false, a)
  else (true, { a with
    currentKey := some key, currentCipherMode := mode, currentOperation := .of encrypt })

def init (a : GOST28147Algorithm) (key : Option SymmetricKey) (mode : SymMode) (iv : ByteString)
    (padding encrypt : Bool) : Bool × GOST28147Algorithm :=
  match key with
  | none => (false, a)
  | some key =>
    if key.keyBits.length ≠ 32 ∨ (mode ≠ .ECB ∧ mode ≠ .CFB ∧ mode ≠ .CBC) then (false, a)
    else if (mode = .ECB ∧ iv.length ≠ 0) ∨ (mode ≠ .ECB ∧ iv.length ≠ 8) ∨
        (if mode = .CBC then !padding else padding) then (false, a)
    else if (GOST28147.new.setParamSet key.algorithmParameters).isNone then (false, a)
    else startOperation { a with input := [], parameters := iv } key mode encrypt

/-- `encryptInit` and `decryptInit`. -/
def cryptInit (encrypt : Bool) (a : GOST28147Algorithm) (key : Option SymmetricKey) (mode : SymMode)
    (iv : ByteString) (padding : Bool) (aad : ByteString) (tagBytes : ℕ) :
    Bool × GOST28147Algorithm :=
  if aad.length = 0 ∧ tagBytes = 0 then a.init key mode iv padding encrypt else (false, a)

/-- `encryptUpdate` and `decryptUpdate`, which give nothing out. -/
def cryptUpdate (encrypt : Bool) (a : GOST28147Algorithm) (data : ByteString) :
    Bool × GOST28147Algorithm :=
  if a.currentOperation ≠ .of encrypt then (false, a) else (true, { a with input := a.input ++ data })

/-- `SymmetricAlgorithm::encryptFinal` and `decryptFinal`. -/
def endOperation (a : GOST28147Algorithm) (encrypt : Bool) : Bool × GOST28147Algorithm :=
  if a.currentOperation ≠ .of encrypt then (false, a)
  else (true, { a with currentKey := none, currentCipherMode := .Unknown, currentOperation := .NONE })

/-- The cipher of a call: a new one with the parameters and the bits of the key. -/
def cipher (key : SymmetricKey) : Option GOST28147 := do
  let cipher ← GOST28147.new.setParamSet key.algorithmParameters
  let (ok, cipher) := cipher.setKey (some key.keyBits)
  if ok then some cipher else none

def process (a : GOST28147Algorithm) (cipher : GOST28147) (out : ByteString) (encrypt : Bool) :
    Bool × ByteString :=
  match a.currentCipherMode with
  | .ECB => processECB cipher a.input out encrypt
  | .CBC => processCBC cipher a.parameters a.input out encrypt
  | _ => processCFB cipher a.parameters a.input encrypt

/-- The end of a call, which there is none of without a key. -/
def finish (a : GOST28147Algorithm) (out : ByteString) (encrypt : Bool) :
    Bool × ByteString × GOST28147Algorithm :=
  let (ok, out) := match a.currentKey.bind cipher with
    | none => (false, out)
    | some cipher => a.process cipher out encrypt
  let (ok, a) := if ok then a.endOperation encrypt else (false, a)
  (ok, out, { a with input := [], parameters := [] })

/-! ### Whole operations -/

/-- The updates of one operation, all of which have to be taken. -/
def updates (encrypt : Bool) (a : GOST28147Algorithm) : List ByteString → Option GOST28147Algorithm
  | [] => some a
  | data :: chunks =>
    let (ok, a) := cryptUpdate encrypt a data
    if ok then updates encrypt a chunks else none

/-- What an operation gives in the end. -/
def result (encrypt : Bool) (a : GOST28147Algorithm) (chunks : List ByteString) :
    Option ByteString := do
  let a ← updates encrypt a chunks
  let (ok, out, _) := a.finish [] encrypt
  if ok then some out else none

/-- The step of a mode. -/
def step (mode : SymMode) (encrypt : Bool) : Chained.Step Registers UInt8 :=
  match mode with
  | .ECB => ecbStep encrypt
  | .CBC => cbcStep encrypt
  | _ => cfbStep encrypt

/-- The key and the feedback in front of block `k` of a text. -/
def registers (mode : SymMode) (encrypt : Bool) (start : Registers) (text : ByteString) (k : ℕ) :
    Registers :=
  (Chained.after 8 (step mode encrypt) text start k).1

end GOST28147Algorithm

end SoftHSM
