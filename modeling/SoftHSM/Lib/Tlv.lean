import Mathlib.Data.List.Basic
import Mathlib.Data.Nat.Notation

/-!
Items of a tag, a length and a content. A length below 128 is one octet; otherwise the first
octet counts the octets of the length, which follow with the highest first.
-/

namespace SoftHSM.Tlv

/-- The number that the octets are, the highest first. -/
def value (octets : List UInt8) : ℕ := octets.foldl (fun n b => n * 256 + b.toNat) 0

def readLength : List UInt8 → Option (ℕ × List UInt8)
  | [] => none
  | b :: rest =>
    if b.toNat < 128 then some (b.toNat, rest)
    else if rest.length < b.toNat - 128 then none
    else some (value (rest.take (b.toNat - 128)), rest.drop (b.toNat - 128))

/-- The tag and the content of the first item, and what follows it. -/
def read : List UInt8 → Option (UInt8 × List UInt8 × List UInt8)
  | [] => none
  | tag :: rest =>
    match readLength rest with
    | none => none
    | some (n, rest) => if rest.length < n then none else some (tag, rest.take n, rest.drop n)

/-- The bytes are one item, and nothing else. -/
def IsItem (tag : UInt8) (content bytes : List UInt8) : Prop :=
  read bytes = some (tag, content, [])

/-- The bytes are the items, one after the other, and nothing else. -/
def AreItems : List (UInt8 × List UInt8) → List UInt8 → Prop
  | [], bytes => bytes = []
  | (tag, content) :: l, bytes =>
    ∃ rest, read bytes = some (tag, content, rest) ∧ AreItems l rest

/-- The octets of a length below 256. -/
def lengthOctets (n : ℕ) : List UInt8 :=
  if n < 128 then [UInt8.ofNat n] else [0x81, UInt8.ofNat n]

def encode (tag : UInt8) (content : List UInt8) : List UInt8 :=
  tag :: (lengthOctets content.length ++ content)

lemma toNat_ofNat {n : ℕ} (h : n < 256) : (UInt8.ofNat n).toNat = n := by
  rw [UInt8.toNat_ofNat']
  exact Nat.mod_eq_of_lt h

lemma readLength_lengthOctets {n : ℕ} (h : n < 256) (rest : List UInt8) :
    readLength (lengthOctets n ++ rest) = some (n, rest) := by
  unfold lengthOctets
  split
  · rename_i hs
    simp [readLength, toNat_ofNat h, hs]
  · have h81 : (0x81 : UInt8).toNat = 129 := rfl
    simp [readLength, value, toNat_ofNat h, h81]

lemma read_encode {tag : UInt8} {content : List UInt8} (h : content.length < 256)
    (rest : List UInt8) : read (encode tag content ++ rest) = some (tag, content, rest) := by
  simp [encode, read, List.append_assoc, readLength_lengthOctets h]

lemma isItem_encode {tag : UInt8} {content : List UInt8} (h : content.length < 256) :
    IsItem tag content (encode tag content) := by
  have hr := @read_encode tag content h []
  rwa [List.append_nil] at hr

lemma areItems_encode {l : List (UInt8 × List UInt8)} (h : ∀ x ∈ l, x.2.length < 256) :
    AreItems l (l.flatMap fun x => encode x.1 x.2) := by
  induction l with
  | nil => rfl
  | cons x l ih =>
    refine ⟨_, ?_, ih fun y hy => h y (by simp [hy])⟩
    rw [List.flatMap_cons]
    exact read_encode (h x (by simp)) _


end SoftHSM.Tlv
