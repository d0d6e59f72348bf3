import Mathlib.Data.Finset.Sort
import Mathlib.Data.Nat.Basic
import SoftHSM.DataMgr.SecureDataManager
import SoftHSM.Lib.Codec
import SoftHSM.Lib.OrderedMap

/-!
The values that a file holds: how `File` writes each kind of them, and how it reads them back.
-/

namespace SoftHSM

open Codec Codec.Reader Codec.Writer

abbrev CK_ATTRIBUTE_TYPE := UInt64

abbrev CK_MECHANISM_TYPE := UInt64

instance instLinearOrderUInt64 : LinearOrder UInt64 where
  le_refl _ := UInt64.le_refl _
  le_trans _ _ _ := UInt64.le_trans
  le_antisymm _ _ := UInt64.le_antisymm
  le_total := UInt64.le_total
  lt_iff_le_not_ge a b := by
    rw [UInt64.not_le]
    exact ⟨fun h => ⟨UInt64.le_of_lt h, h⟩, And.right⟩
  toDecidableLE := inferInstance

namespace ByteString

/-- The constructor from an `unsigned long`: eight bytes, the highest first. -/
def ofULong (longValue : UInt64) : ByteString :=
  (List.range 8).map fun i => (longValue >>> UInt64.ofNat (8 * (7 - i)) &&& 0xFF).toUInt8

def long_val (b : ByteString) : UInt64 := (b.take 8).foldl (fun rv x => rv <<< 8 + x.toUInt64) 0

def serialise (b : ByteString) : ByteString := ofULong (UInt64.ofNat b.length) ++ b

end ByteString

open ByteString

/-- An attribute as a file holds it. A map holds attributes in the order of their types. -/
inductive OSAttribute
  | boolean (value : Bool)
  | unsignedLong (value : UInt64)
  | byteString (value : ByteString)
  | mechanismTypeSet (value : Finset CK_MECHANISM_TYPE)
  | attributeMap (value : List (CK_ATTRIBUTE_TYPE × OSAttribute))

/-- The tags of the attributes in a map. -/
def akBoolean : UInt64 := 1
def akInteger : UInt64 := 2
def akBinary : UInt64 := 3
def akMechSet : UInt64 := 5

namespace File

/-! ### Writing -/

def writeULong (value : UInt64) : Writer := fwrite (ofULong value)

def writeByteString (value : ByteString) : Writer := fwrite value.serialise

def writeBool (value : Bool) : Writer := fwrite [if value then 0xFF else 0x00]

/-- The mechanisms of a set in the order of their numbers. -/
def mechanismTypes (value : Finset CK_MECHANISM_TYPE) : List CK_MECHANISM_TYPE :=
  value.sort (· ≤ ·)

def writeMechanismTypeSet (value : Finset CK_MECHANISM_TYPE) : Writer :=
  (writeULong (UInt64.ofNat value.card)).andThen (each writeULong (mechanismTypes value))

/-- What an attribute adds to the length of a map, its type and kind included. -/
def attributeLength : OSAttribute → Option ℕ
  | .boolean _ => some (8 + 8 + 1)
  | .unsignedLong _ => some (8 + 8 + 8)
  | .byteString value => some (8 + 8 + (8 + value.length))
  | .mechanismTypeSet value => some (8 + 8 + (8 + value.card * 8))
  | .attributeMap _ => none

/-- The length of a map, unless it holds another map. -/
def mapLength : List (CK_ATTRIBUTE_TYPE × OSAttribute) → Option ℕ
  | [] => some 0
  | (_, attr) :: value => do return (← attributeLength attr) + (← mapLength value)

def writeMapAttribute (i : CK_ATTRIBUTE_TYPE × OSAttribute) : Writer :=
  (writeULong i.1).andThen <|
    match i.2 with
    | .boolean val => (writeULong akBoolean).andThen (writeBool val)
    | .unsignedLong val => (writeULong akInteger).andThen (writeULong val)
    | .byteString val => (writeULong akBinary).andThen (writeByteString val)
    | .mechanismTypeSet val => (writeULong akMechSet).andThen (writeMechanismTypeSet val)
    | .attributeMap _ => done

def writeAttributeMap (value : List (CK_ATTRIBUTE_TYPE × OSAttribute)) : Writer :=
  match mapLength value with
  | none => refuse
  | some len => (writeULong (UInt64.ofNat len)).andThen (each writeMapAttribute value)

/-! ### Reading -/

def readULong : Reader UInt64 := do return long_val (← fread 8)

def readByteString : Reader ByteString := do
  let len ← readULong
  if len = 0 then return [] else fread len.toNat

def readBool : Reader Bool := do return (← fread 1) ≠ [0x00]

/-- The elements of a set, as many as its length says. -/
def readMechanismTypes : ℕ → Finset CK_MECHANISM_TYPE → Reader (Finset CK_MECHANISM_TYPE)
  | 0, value => pure value
  | count + 1, value => do readMechanismTypes count (insert (← readULong) value)

def readMechanismTypeSet : Reader (Finset CK_MECHANISM_TYPE) := do
  readMechanismTypes (← readULong).toNat ∅

/-- The value of an attribute in a map, with its length. -/
def readMapValue (attrKind : UInt64) : Reader (OSAttribute × ℕ) :=
  if attrKind = akBoolean then do return (.boolean (← readBool), 1)
  else if attrKind = akInteger then do return (.unsignedLong (← readULong), 8)
  else if attrKind = akBinary then do
    let val ← readByteString
    return (.byteString val, 8 + val.length)
  else if attrKind = akMechSet then do
    let val ← readMechanismTypeSet
    return (.mechanismTypeSet val, 8 + val.card * 8)
  else fail

/-- The attributes of a map, until its length is used up. -/
def readMapAttributes (len : ℕ) (value : List (CK_ATTRIBUTE_TYPE × OSAttribute)) :
    Reader (List (CK_ATTRIBUTE_TYPE × OSAttribute)) :=
  if len = 0 then pure value
  else do
    let attrType ← readULong
    if 8 > len then fail
    else do
      let attrKind ← readULong
      if 8 > len - 8 then fail
      else do
        let (val, size) ← readMapValue attrKind
        if size > len - 8 - 8 then fail
        else readMapAttributes (len - 8 - 8 - size) (OrderedMap.insert attrType val value).2
  termination_by len

def readAttributeMap : Reader (List (CK_ATTRIBUTE_TYPE × OSAttribute)) := do
  readMapAttributes (← readULong).toNat []

/-! ### Round trips -/

lemma length_ofULong (v : UInt64) : (ofULong v).length = 8 := by
  rw [ofULong, List.length_map, List.length_range]

/-- **A number** comes back from its eight bytes. -/
lemma long_val_ofULong (v : UInt64) : long_val (ofULong v) = v := by
  have hlt := v.toNat_lt
  apply UInt64.toNat_inj.1
  have hand : ∀ n, n &&& 255 = n % 256 := fun n => Nat.and_two_pow_sub_one_eq_mod n 8
  simp [long_val, ofULong, List.range_succ, hand, Nat.shiftRight_eq_div_pow, Nat.shiftLeft_eq]
  omega

lemma toNat_long_val {b : ByteString} (h : b.length = 8) :
    (long_val b).toNat = b.foldl (fun n x => n * 256 + x.toNat) 0 := by
  match b, h with
  | [a0, a1, a2, a3, a4, a5, a6, a7], _ =>
    have h0 := a0.toNat_lt
    have h1 := a1.toNat_lt
    have h2 := a2.toNat_lt
    have h3 := a3.toNat_lt
    have h4 := a4.toNat_lt
    have h5 := a5.toNat_lt
    have h6 := a6.toNat_lt
    have h7 := a7.toNat_lt
    simp [long_val, Nat.shiftLeft_eq, UInt64.toNat_add, UInt64.toNat_shiftLeft]
    omega

/-- Every eight bytes are those of a number. -/
lemma ofULong_long_val {b : ByteString} (h : b.length = 8) :
    ofULong (long_val b) = b := by
  have hv := toNat_long_val h
  match b, h with
  | [a0, a1, a2, a3, a4, a5, a6, a7], _ =>
    have h0 := a0.toNat_lt
    have h1 := a1.toNat_lt
    have h2 := a2.toNat_lt
    have h3 := a3.toNat_lt
    have h4 := a4.toNat_lt
    have h5 := a5.toNat_lt
    have h6 := a6.toNat_lt
    have h7 := a7.toNat_lt
    simp only [List.foldl] at hv
    generalize long_val [a0, a1, a2, a3, a4, a5, a6, a7] = n at hv ⊢
    have hand : ∀ n, n &&& 255 = n % 256 := fun n => Nat.and_two_pow_sub_one_eq_mod n 8
    simp only [ofULong, List.range_succ, List.range_zero]
    simp [← UInt8.toNat_inj, hand, Nat.shiftRight_eq_div_pow, hv]
    omega

lemma reads_readULong (v : UInt64) : Reads readULong (ofULong v) v := by
  have h := (Reads.fread (ofULong v)).bind_pure long_val
  rwa [length_ofULong, long_val_ofULong] at h

lemma writes_writeULong (v : UInt64) : Writes (writeULong v) (ofULong v) := Writes.fwrite _

lemma toNat_ofNat {n : ℕ} (h : n < 2 ^ 64) : (UInt64.ofNat n).toNat = n := by
  rw [UInt64.toNat_ofNat', Nat.mod_eq_of_lt h]

lemma reads_readByteString {v : ByteString} (h : v.length < 2 ^ 64) :
    Reads readByteString v.serialise v := by
  refine (reads_readULong _).bind ?_
  by_cases hv : v = []
  · subst hv
    exact Reads.pure []
  · have hlen : UInt64.ofNat v.length ≠ 0 := by
      intro h0
      have hn := toNat_ofNat h
      rw [h0] at hn
      exact hv (List.length_eq_zero_iff.1 hn.symm)
    rw [if_neg hlen, toNat_ofNat h]
    exact Reads.fread v

lemma reads_readBool (v : Bool) : Reads readBool [if v then 0xFF else 0x00] v := by
  have h := (Reads.fread [if v then 0xFF else 0x00]).bind_pure fun b => decide (b ≠ [0x00])
  cases v with
  | false => exact h
  | true => exact h

/-- The bytes of a set. -/
def mechanismTypeSetBytes (value : Finset CK_MECHANISM_TYPE) : ByteString :=
  ofULong (UInt64.ofNat value.card) ++ (mechanismTypes value).flatMap ofULong

lemma writes_writeMechanismTypeSet (value : Finset CK_MECHANISM_TYPE) :
    Writes (writeMechanismTypeSet value) (mechanismTypeSetBytes value) :=
  (writes_writeULong _).andThen (Writes.each fun v _ => writes_writeULong v)

/-- The elements are read into the set one by one. -/
lemma reads_readMechanismTypes (l : List CK_MECHANISM_TYPE) (value : Finset CK_MECHANISM_TYPE) :
    Reads (readMechanismTypes l.length value) (l.flatMap ofULong) (l.toFinset ∪ value) := by
  induction l generalizing value with
  | nil =>
    rw [List.toFinset_nil, Finset.empty_union]
    exact Reads.pure value
  | cons v l ih =>
    rw [List.flatMap_cons]
    refine (reads_readULong v).bind ?_
    have h := ih (insert v value)
    rwa [Finset.union_insert, ← Finset.insert_union, ← List.toFinset_cons] at h

lemma reads_readMechanismTypeSet {value : Finset CK_MECHANISM_TYPE} (h : value.card < 2 ^ 64) :
    Reads readMechanismTypeSet (mechanismTypeSetBytes value) value := by
  refine (reads_readULong _).bind ?_
  rw [toNat_ofNat h]
  have hr := reads_readMechanismTypes (mechanismTypes value) ∅
  rwa [mechanismTypes, Finset.length_sort, Finset.sort_toFinset, Finset.union_empty] at hr

/-! ### Maps -/

/-- The bytes of the value of an attribute in a map. -/
def mapValueBytes : OSAttribute → ByteString
  | .boolean val => ofULong akBoolean ++ [if val then 0xFF else 0x00]
  | .unsignedLong val => ofULong akInteger ++ ofULong val
  | .byteString val => ofULong akBinary ++ val.serialise
  | .mechanismTypeSet val => ofULong akMechSet ++ mechanismTypeSetBytes val
  | .attributeMap _ => []

def mapAttributeBytes (i : CK_ATTRIBUTE_TYPE × OSAttribute) : ByteString :=
  ofULong i.1 ++ mapValueBytes i.2

def attributeMapBytes (len : ℕ) (value : List (CK_ATTRIBUTE_TYPE × OSAttribute)) : ByteString :=
  ofULong (UInt64.ofNat len) ++ value.flatMap mapAttributeBytes

lemma writes_writeMapAttribute (i : CK_ATTRIBUTE_TYPE × OSAttribute) :
    Writes (writeMapAttribute i) (mapAttributeBytes i) := by
  obtain ⟨t, a⟩ := i
  refine (writes_writeULong t).andThen ?_
  cases a with
  | boolean val => exact (writes_writeULong _).andThen (Writes.fwrite _)
  | unsignedLong val => exact (writes_writeULong _).andThen (writes_writeULong _)
  | byteString val => exact (writes_writeULong _).andThen (Writes.fwrite _)
  | mechanismTypeSet val => exact (writes_writeULong _).andThen (writes_writeMechanismTypeSet _)
  | attributeMap value => exact Writes.done

lemma writes_writeAttributeMap {value : List (CK_ATTRIBUTE_TYPE × OSAttribute)} {len : ℕ}
    (h : mapLength value = some len) :
    Writes (writeAttributeMap value) (attributeMapBytes len value) := by
  rw [writeAttributeMap, h]
  exact (writes_writeULong _).andThen (Writes.each fun i _ => writes_writeMapAttribute i)

/-- **A value of a map** comes back with its length. -/
lemma reads_readMapValue {a : OSAttribute} {n : ℕ} (hn : attributeLength a = some (8 + 8 + n))
    (h : n < 2 ^ 64) : ∃ attrKind bs, mapValueBytes a = ofULong attrKind ++ bs ∧
      Reads (readMapValue attrKind) bs (a, n) := by
  cases a with
  | boolean val =>
    obtain rfl : 1 = n := Nat.add_left_cancel (Option.some.inj hn)
    exact ⟨akBoolean, _, rfl, (reads_readBool val).bind_pure fun v => (OSAttribute.boolean v, 1)⟩
  | unsignedLong val =>
    obtain rfl : 8 = n := Nat.add_left_cancel (Option.some.inj hn)
    exact ⟨akInteger, _, rfl, (reads_readULong val).bind_pure fun v => (OSAttribute.unsignedLong v, 8)⟩
  | byteString val =>
    obtain rfl : 8 + val.length = n := Nat.add_left_cancel (Option.some.inj hn)
    have hval : val.length < 2 ^ 64 := by omega
    exact ⟨akBinary, _, rfl,
      (reads_readByteString hval).bind_pure fun v => (OSAttribute.byteString v, 8 + v.length)⟩
  | mechanismTypeSet val =>
    obtain rfl : 8 + val.card * 8 = n := Nat.add_left_cancel (Option.some.inj hn)
    have hval : val.card < 2 ^ 64 := by omega
    exact ⟨akMechSet, _, rfl,
      (reads_readMechanismTypeSet hval).bind_pure fun v => (OSAttribute.mechanismTypeSet v, 8 + v.card * 8)⟩
  | attributeMap value => cases hn

/-- **The attributes of a map** come back behind those that are read already. -/
lemma reads_readMapAttributes {value l : List (CK_ATTRIBUTE_TYPE × OSAttribute)} {len : ℕ}
    (hlen : mapLength value = some len) (hlt : len < 2 ^ 64)
    (hs : OrderedMap.Sorted (l ++ value)) :
    Reads (readMapAttributes len l) (value.flatMap mapAttributeBytes) (l ++ value) := by
  induction value generalizing l len with
  | nil =>
    obtain rfl : 0 = len := Option.some.inj hlen
    rw [readMapAttributes, if_pos rfl, List.append_nil]
    exact Reads.pure l
  | cons i value ih =>
    obtain ⟨t, a⟩ := i
    rcases ha : attributeLength a with _ | m
    · rw [mapLength, ha] at hlen
      cases hlen
    rcases hr : mapLength value with _ | rest
    · rw [mapLength, ha, hr] at hlen
      cases hlen
    have hsum : m + rest = len := by
      rw [mapLength, ha, hr] at hlen
      exact Option.some.inj hlen
    obtain ⟨n, rfl⟩ : ∃ n, m = 8 + 8 + n := by
      cases a with
      | attributeMap _ => cases ha
      | _ => exact ⟨_, (Option.some.inj ha).symm⟩
    obtain ⟨attrKind, bs, hbs, hval⟩ := reads_readMapValue ha (by omega)
    have hlast : ∀ e ∈ l, e.1 < t := fun e he =>
      (List.pairwise_append.1 hs).2.2 e he (t, a) (List.mem_cons_self ..)
    have hs' : OrderedMap.Sorted ((l ++ [(t, a)]) ++ value) := by
      rwa [List.append_assoc, List.singleton_append]
    rw [List.flatMap_cons, mapAttributeBytes, hbs, List.append_assoc, List.append_assoc]
    rw [readMapAttributes, if_neg (by omega)]
    refine (reads_readULong t).bind ?_
    rw [if_neg (by omega)]
    refine (reads_readULong attrKind).bind ?_
    rw [if_neg (by omega)]
    refine hval.bind ?_
    dsimp only
    rw [if_neg (by omega), OrderedMap.insert_of_lt hlast]
    have hlen' : len - 8 - 8 - n = rest := by omega
    rw [hlen']
    have hih := ih (l := l ++ [(t, a)]) hr (by omega) hs'
    rwa [List.append_assoc, List.singleton_append] at hih

lemma reads_readAttributeMap {value : List (CK_ATTRIBUTE_TYPE × OSAttribute)} {len : ℕ}
    (hlen : mapLength value = some len) (hlt : len < 2 ^ 64) (hs : OrderedMap.Sorted value) :
    Reads readAttributeMap (attributeMapBytes len value) value := by
  refine (reads_readULong _).bind ?_
  rw [toNat_ofNat hlt]
  exact reads_readMapAttributes hlen hlt hs

/-! ### Readers shrink -/

lemma shrinks_readULong : Shrinks readULong :=
  (shrinks_fread 8).bind fun _ => shrinks_pure _

lemma shrinks_readByteString : Shrinks readByteString := by
  refine shrinks_readULong.bind fun len => ?_
  split
  · exact shrinks_pure _
  · exact shrinks_fread _

lemma shrinks_readBool : Shrinks readBool := (shrinks_fread 1).bind fun _ => shrinks_pure _

lemma shrinks_readMechanismTypes (count : ℕ) (value : Finset CK_MECHANISM_TYPE) :
    Shrinks (readMechanismTypes count value) := by
  induction count generalizing value with
  | zero => exact shrinks_pure _
  | succ count ih => exact shrinks_readULong.bind fun _ => ih _

lemma shrinks_readMechanismTypeSet : Shrinks readMechanismTypeSet :=
  shrinks_readULong.bind fun _ => shrinks_readMechanismTypes _ _

lemma shrinks_readMapValue (attrKind : UInt64) : Shrinks (readMapValue attrKind) := by
  unfold readMapValue
  split
  · exact shrinks_readBool.bind fun _ => shrinks_pure _
  split
  · exact shrinks_readULong.bind fun _ => shrinks_pure _
  split
  · exact shrinks_readByteString.bind fun _ => shrinks_pure _
  split
  · exact shrinks_readMechanismTypeSet.bind fun _ => shrinks_pure _
  · exact shrinks_fail

lemma shrinks_readMapAttributes (len : ℕ) (value : List (CK_ATTRIBUTE_TYPE × OSAttribute)) :
    Shrinks (readMapAttributes len value) := by
  induction len using Nat.strong_induction_on generalizing value with
  | _ len ih =>
    rw [readMapAttributes]
    split
    · exact shrinks_pure _
    refine shrinks_readULong.bind fun attrType => ?_
    split
    · exact shrinks_fail
    refine shrinks_readULong.bind fun attrKind => ?_
    split
    · exact shrinks_fail
    refine (shrinks_readMapValue attrKind).bind fun ⟨val, size⟩ => ?_
    dsimp only
    split
    · exact shrinks_fail
    · exact ih _ (by omega) _

lemma shrinks_readAttributeMap : Shrinks readAttributeMap :=
  shrinks_readULong.bind fun _ => shrinks_readMapAttributes _ _

end File

end SoftHSM
