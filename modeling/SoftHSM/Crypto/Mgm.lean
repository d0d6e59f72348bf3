import SoftHSM.DataMgr.SecureDataManager
import SoftHSM.Lib.BinaryField
import SoftHSM.Lib.Counter

/-!
The authenticated mode of the block ciphers, as the library computes it: a key stream from one half
of a counter block, keys of the authentication from the other half of a second one, and a tag over
both texts and their lengths. The block cipher is a parameter, and the texts lie in memory, so that
a call may have its output where its input is.
-/

namespace SoftHSM.Mgm

inductive Cipher
  | KUZNECHIK
  | MAGMA

def Cipher.blockSize : Cipher → ℕ
  | KUZNECHIK => 16
  | MAGMA => 8

instance (c : Cipher) : NeZero c.blockSize := ⟨by cases c <;> decide⟩

/-- The sum of the lengths is not limited, only each of them. -/
def maximumMGMBytes (block : ℕ) : ℕ := if block = 8 then 2 ^ 29 - 1 else 2 ^ 61 - 1

section functions

variable {n : ℕ} [NeZero n]

/-! ### Field and lengths -/

/-- What a bit that is shifted out comes back as. -/
def reduction (n : ℕ) : UInt8 := if n = 16 then 0x87 else 0x1b

/-- The shift inside `gfMultiply`: every byte takes the top bit of the next one. -/
def gfDouble (v : Block n) : Block n := fun i =>
  let next := if h : i + 1 < n then v ⟨i + 1, h⟩ >>> 7 else 0
  let carry := if i + 1 = n ∧ v 0 &&& 0x80 ≠ 0 then reduction n else 0
  (v i <<< 1 ||| next) ^^^ carry

def gfMultiply (x y : Block n) : Block n := BinaryField.multiply gfDouble x y

/-- `storeLength`: byte `j` of as many as there are. -/
def storeLength (len bytes j : ℕ) : UInt8 :=
  let bits : UInt64 := UInt64.ofNat len * 8
  let i := bytes - 1 - j
  if i < 8 then (bits >>> UInt64.ofNat (8 * i)).toUInt8 else 0

def lengthBlock (aadLen plainLen : ℕ) : Block n := fun j =>
  if j < n / 2 then storeLength aadLen (n / 2) j else storeLength plainLen (n / 2) (j - n / 2)

/-! ### Loops -/

/-- The values of `offset` in `for (offset = 0; offset < len; offset += block)`. -/
def offsets (block len : ℕ) : List ℕ := (List.range ((len + block - 1) / block)).map (block * ·)

def incrementHalf (first last : ℕ) (value : Block n) : Block n := Counter.increment first last value

/-- `out[i] = in[i] ^ gamma[i]`, byte by byte. -/
def xorBytes (source out : ℕ) (gamma : Block n) (take : ℕ) (m : Memory) : Memory :=
  ((List.finRange n).take take).foldl
    (fun m (i : Fin n) => Function.update m (out + i) (m (source + i) ^^^ gamma i)) m

/-- The body of the loop over the text, with the counter block. -/
def ctrStep (encryptBlock : Block n → Block n) (source out len : ℕ) (ym : Block n × Memory)
    (offset : ℕ) : Block n × Memory :=
  let gamma := encryptBlock ym.1
  let take := if len - offset < n then len - offset else n
  (incrementHalf (n / 2) n ym.1, xorBytes (source + offset) (out + offset) gamma take ym.2)

def ctrLoop (encryptBlock : Block n → Block n) (source out len : ℕ) (y : Block n) (m : Memory) :
    Block n × Memory :=
  (offsets n len).foldl (ctrStep encryptBlock source out len) (y, m)

/-- A block of a text, filled up with zeros. -/
def padded (text : ByteString) (offset : ℕ) : Block n := fun i => text.getD (offset + i) 0

/-- The body of a loop over what is authenticated, with the counter block and the sum. -/
def sumStep (encryptBlock : Block n → Block n) (zs : Block n × Block n) (block : Block n) :
    Block n × Block n :=
  let h := encryptBlock zs.1
  (incrementHalf 0 (n / 2) zs.1, zs.2 ^^^ gfMultiply h block)

def sumLoop (encryptBlock : Block n → Block n) (text : ByteString) (zs : Block n × Block n) :
    Block n × Block n :=
  (offsets n text.length).foldl (fun zs offset => sumStep encryptBlock zs (padded text offset)) zs

/-! ### The mode -/

/-- The arguments that both directions check. A pointer that is not there has no value. -/
def accepted (keyed : Bool) (icn : Option (Block n)) (aad : Option ByteString) (aadLen textLen : ℕ)
    (tag : Bool) (tagLen : ℕ) : Bool :=
  keyed && icn.any (fun icn => icn 0 &&& 0x80 = 0) && tag && 4 ≤ tagLen && tagLen ≤ n &&
    !(aadLen = 0 && textLen = 0) && aadLen ≤ maximumMGMBytes n && textLen ≤ maximumMGMBytes n &&
    (aadLen = 0 || aad.isSome)

/-- The first counter block of the key stream. -/
def startY (encryptBlock : Block n → Block n) (icn : Block n) : Block n :=
  encryptBlock (Function.update icn 0 (icn 0 &&& 0x7f))

/-- The first counter block of the authentication. -/
def startZ (encryptBlock : Block n → Block n) (icn : Block n) : Block n :=
  encryptBlock (Function.update icn 0 (icn 0 ||| 0x80))

/-- `mgmEncrypt`: the tag and the memory, unless the call is refused. -/
def mgmEncrypt (keyed : Bool) (encryptBlock : Block n → Block n) (icn : Option (Block n))
    (aad : Option ByteString) (aadLen : ℕ) (plain : Option ℕ) (plainLen : ℕ) (cipherText : Option ℕ)
    (tag : Bool) (tagLen : ℕ) (m : Memory) : Option (ByteString × Memory) :=
  if !accepted keyed icn aad aadLen plainLen tag tagLen ||
      (plainLen ≠ 0 && (plain.isNone || cipherText.isNone)) then none
  else
    let icn := icn.getD 0
    let (_, m) := ctrLoop encryptBlock (plain.getD 0) (cipherText.getD 0) plainLen
      (startY encryptBlock icn) m
    let authenticated := (aad.getD []).take aadLen
    let zs := sumLoop encryptBlock authenticated (startZ encryptBlock icn, 0)
    let (z, sum) := sumLoop encryptBlock (m.bytes (cipherText.getD 0) plainLen) zs
    let sum := sum ^^^ gfMultiply (encryptBlock z) (lengthBlock aadLen plainLen)
    some ((List.ofFn (encryptBlock sum)).take tagLen, m)

def equalConstantTime (a b : ByteString) (len : ℕ) : Bool :=
  (List.range len).foldl (fun different i => different ||| (a.getD i 0 ^^^ b.getD i 0)) (0 : UInt8) = 0

/-- `mgmDecrypt`: whether the text is authentic, and the memory. -/
def mgmDecrypt (keyed : Bool) (encryptBlock : Block n → Block n) (icn : Option (Block n))
    (aad : Option ByteString) (aadLen : ℕ) (cipherText : Option ℕ) (cipherLen : ℕ)
    (tag : Option ByteString) (tagLen : ℕ) (plain : Option ℕ) (m : Memory) : Bool × Memory :=
  if cipherLen ≠ 0 && (cipherText.isNone || plain.isNone) then (false, m)
  else if !accepted keyed icn aad aadLen cipherLen tag.isSome tagLen then (false, m)
  else
    let source := cipherText.getD 0
    let out := plain.getD 0
    let y := startY encryptBlock (icn.getD 0)
    let (_, m) := ctrLoop encryptBlock source out cipherLen y m
    -- the text is encrypted again where it is, for its tag
    match mgmEncrypt keyed encryptBlock icn aad aadLen (some out) cipherLen (some out) true tagLen m with
    | none => (false, m.write out (List.replicate cipherLen 0))
    | some (expected, m) =>
      if !equalConstantTime expected (tag.getD []) tagLen then
        (false, m.write out (List.replicate cipherLen 0))
      else (true, (ctrLoop encryptBlock source out cipherLen y m).2)

end functions

end SoftHSM.Mgm
