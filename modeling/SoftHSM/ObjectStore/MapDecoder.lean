import SoftHSM.Lib.Access
import SoftHSM.ObjectStore.DBTables

/-!
The decoders of a map and of a set as they run on memory. A decoder has a block and its size, goes
through it by a position, and tests before each copy that the position plus what it copies is not
behind the size. Sizes are machine words, so that sum can wrap; a copy from outside the block is a
fault.

`Records` says which bytes are complete records. `Wraps` says that behind complete records there is
one whose length leaves the word when it is added to its position.
-/

namespace SoftHSM.DB

open Access

/-! ### Memory -/

/-- A block of memory; an allocation has less than half of the addresses. -/
structure Block where
  bytes : ByteString
  bound : bytes.length < 2 ^ 63

namespace Block

def size (binary : Block) : ℕ := binary.bytes.length

/-- The block from a position on. -/
def behind (binary : Block) (pos : ℕ) : Block where
  bytes := binary.bytes.drop pos
  bound := lt_of_le_of_lt (by simp) binary.bound

lemma bytes_behind (binary : Block) {p bs : ByteString} (hb : binary.bytes = p ++ bs) :
    (binary.behind p.length).bytes = bs := by
  have h : (binary.behind p.length).bytes = binary.bytes.drop p.length := rfl
  rw [h, hb, List.drop_left]

lemma size_lt (binary : Block) : binary.size < 2 ^ 63 := binary.bound

@[simp] lemma size_behind (binary : Block) (pos : ℕ) :
    (binary.behind pos).size = binary.size - pos := List.length_drop

end Block

/-- A sum of sizes. -/
def sizeAdd (a b : ℕ) : ℕ := (a + b) % 2 ^ 64

lemma sizeAdd_of_lt {a b : ℕ} (h : a + b < 2 ^ 64) : sizeAdd a b = a + b := Nat.mod_eq_of_lt h

/-- How a decoder ends that has no value: it returns false behind a message, or the vector that
is resized throws. -/
inductive Ending
  | returned (message : String)
  | length_error
  deriving DecidableEq

abbrev Decoding (α : Type) := Run Ending α

/-- The test before a copy, the copy, and the position behind it. -/
def field (message : String) (binary : Block) (size pos n : ℕ) : Decoding (ByteString × ℕ) := do
  require (sizeAdd pos n ≤ size) (.returned message)
  let bytes ← slice binary.bytes pos n
  return (bytes, sizeAdd pos n)

section field

variable {message : String} {binary : Block} {size pos n pos' : ℕ} {p bs w rest : ByteString}

/-- What was copied was in the block, and the position has moved on. -/
lemma of_field (h : field message binary size pos n = .ok (w, pos')) :
    pos + n ≤ binary.size ∧ pos + n ≤ size ∧ pos' = pos + n ∧
      w = (binary.bytes.drop pos).take n := by
  obtain ⟨_, hreq, h⟩ := of_bind h
  obtain ⟨b, hb, h⟩ := of_bind h
  obtain ⟨hle, rfl⟩ := of_slice hb
  have hlt := binary.bound
  have hadd : sizeAdd pos n = pos + n := sizeAdd_of_lt (by omega)
  have htest := of_require hreq
  rw [hadd] at htest
  cases h
  exact ⟨hle, htest, hadd, rfl⟩

/-- A field that is there, behind what was read. -/
lemma field_append (hb : binary.bytes = p ++ (w ++ rest)) (hsize : p.length + w.length ≤ size) :
    field message binary size p.length w.length = .ok (w, (p ++ w).length) := by
  have hlen : binary.bytes.length = p.length + (w.length + rest.length) := by
    rw [hb, List.length_append, List.length_append]
  have hlt := binary.bound
  have hadd : sizeAdd p.length w.length = p.length + w.length := sizeAdd_of_lt (by omega)
  rw [field, hadd, require, if_pos hsize, ok_bind, slice_of_le (by omega), ok_bind, hb,
    List.drop_left, List.take_left, List.length_append]
  rfl

/-- A field that is behind the size. -/
lemma field_short (hsize : size < pos + n) (hlt : pos + n < 2 ^ 64) :
    field message binary size pos n = refuse (.returned message) := by
  rw [field, sizeAdd_of_lt hlt, require, if_neg (Nat.not_le.2 hsize)]
  rfl

/-- What was copied, behind what was read before. -/
lemma field_split (hb : binary.bytes = p ++ bs)
    (h : field message binary size p.length n = .ok (w, pos')) :
    ∃ rest, bs = w ++ rest ∧ w.length = n ∧ pos' = (p ++ w).length ∧ pos' ≤ size := by
  obtain ⟨hle, hsize, rfl, rfl⟩ := of_field h
  have hlen : binary.size = p.length + bs.length := by
    rw [Block.size, hb, List.length_append]
  have hw : (bs.take n).length = n := List.length_take_of_le (by omega)
  rw [hb, List.drop_left, List.length_append, hw]
  exact ⟨bs.drop n, (List.take_append_drop n bs).symm, rfl, rfl, hsize⟩

end field

/-! ### The decoders -/

namespace Memory

/-- The loop of `decodeMechanismTypeSet`, from a position on. -/
def decodeMechanismTypeSetFrom (set : Finset CK_MECHANISM_TYPE) (binary : Block) (size pos : ℕ) :
    Decoding (Finset CK_MECHANISM_TYPE) :=
  if pos < size then
    match h : field "mechanism type set overrun" binary size pos 8 with
    | .error stop => .error stop
    | .ok (mechType, pos') =>
      have := of_field h
      decodeMechanismTypeSetFrom (insert (ulongAt mechType) set) binary size pos'
  else .ok set
  termination_by binary.size - pos

def decodeMechanismTypeSet (binary : Block) (size : ℕ) : Decoding (Finset CK_MECHANISM_TYPE) :=
  decodeMechanismTypeSetFrom ∅ binary size 0

section set

variable {binary : Block} {set set' : Finset CK_MECHANISM_TYPE} {size : ℕ} {p bs : ByteString}

/-- **A set that was read** is all of the numbers up to the size. -/
lemma decodeMechanismTypeSetFrom_split (hb : binary.bytes = p ++ bs) (hp : p.length ≤ size)
    (h : decodeMechanismTypeSetFrom set binary size p.length = .ok set') :
    ∃ (l : List CK_MECHANISM_TYPE) (rest : ByteString), bs = l.flatMap ulongBytes ++ rest ∧
      size = p.length + l.length * 8 ∧ set' = l.toFinset ∪ set := by
  induction hn : bs.length using Nat.strong_induction_on generalizing set p bs with
  | _ n ih =>
    rw [decodeMechanismTypeSetFrom] at h
    split at h
    · split at h
      · cases h
      · rename_i mechType pos' hf
        obtain ⟨rest, rfl, hlen, rfl, hsize⟩ := field_split hb hf
        have hb' : binary.bytes = (p ++ mechType) ++ rest := by rw [hb, List.append_assoc]
        have hlt : rest.length < n := by
          rw [← hn, List.length_append]
          omega
        obtain ⟨l, rest', rfl, hl, rfl⟩ := ih _ hlt hb' hsize h rfl
        refine ⟨ulongAt mechType :: l, rest', ?_, ?_, ?_⟩
        · rw [List.flatMap_cons, ulongBytes_ulongAt hlen, List.append_assoc]
        · rw [hl, List.length_append, List.length_cons]
          omega
        · rw [List.toFinset_cons, Finset.insert_union, Finset.union_insert]
    · cases h
      exact ⟨[], bs, rfl, by rw [List.length_nil]; omega, by simp⟩

/-- A set is read whole. -/
lemma decodeMechanismTypeSetFrom_append (l : List CK_MECHANISM_TYPE) {rest : ByteString}
    (hb : binary.bytes = p ++ (l.flatMap ulongBytes ++ rest))
    (hsize : size = p.length + l.length * 8) :
    decodeMechanismTypeSetFrom set binary size p.length = .ok (l.toFinset ∪ set) := by
  induction l generalizing p set with
  | nil =>
    rw [decodeMechanismTypeSetFrom, if_neg (by rw [hsize, List.length_nil]; omega)]
    simp
  | cons v l ih =>
    have hlen := length_ulongBytes v
    rw [List.length_cons] at hsize
    rw [List.flatMap_cons, List.append_assoc] at hb
    have hf : field "mechanism type set overrun" binary size p.length 8 =
        .ok (ulongBytes v, (p ++ ulongBytes v).length) := by
      rw [← hlen]
      exact field_append hb (by omega)
    have hb' : binary.bytes = (p ++ ulongBytes v) ++ (l.flatMap ulongBytes ++ rest) := by
      rw [hb, List.append_assoc]
    have hsize' : size = (p ++ ulongBytes v).length + l.length * 8 := by
      rw [List.length_append]
      omega
    rw [decodeMechanismTypeSetFrom, if_pos (by omega)]
    split
    · rename_i hs
      rw [hf] at hs
      cases hs
    · rename_i hs
      rw [hf] at hs
      cases hs
      rw [ih hb' hsize', ulongAt_ulongBytes, List.toFinset_cons, Finset.insert_union,
        Finset.union_insert]

/-- **Inside the size**: a set that ends with the block is read without a fault. -/
lemma decodeMechanismTypeSetFrom_safe {pos : ℕ} (hsize : size ≤ binary.size) :
    Safe (· = .returned "mechanism type set overrun")
      (decodeMechanismTypeSetFrom set binary size pos) := by
  induction hn : size - pos using Nat.strong_induction_on generalizing set pos with
  | _ n ih =>
    have hlt := binary.size_lt
    rw [decodeMechanismTypeSetFrom]
    split
    · split
      · rename_i stop hf
        by_cases hover : size < pos + 8
        · rw [field_short hover (by omega)] at hf
          cases hf
          exact safe_refuse rfl
        · have hs : pos + 8 ≤ binary.bytes.length := by
            have : binary.size = binary.bytes.length := rfl
            omega
          rw [field, sizeAdd_of_lt (by omega), require, if_pos (by omega), ok_bind,
            slice_of_le hs] at hf
          cases hf
      · rename_i mechType pos' hf
        obtain ⟨-, hle, rfl, -⟩ := of_field hf
        exact ih _ (by omega) rfl
    · exact safe_ok _

/-- **Outside the block**: a size that is further than a number behind the block is a fault. -/
lemma decodeMechanismTypeSetFrom_outside {pos : ℕ} (hpos : pos ≤ binary.size)
    (hsize : binary.size + 8 ≤ size) :
    decodeMechanismTypeSetFrom set binary size pos = .error (.fault .outside) := by
  induction hn : binary.size - pos using Nat.strong_induction_on generalizing set pos with
  | _ n ih =>
    have hlt := binary.size_lt
    rw [decodeMechanismTypeSetFrom, if_pos (by omega)]
    split
    · rename_i stop hf
      rw [field, sizeAdd_of_lt (by omega), require, if_pos (by omega), ok_bind] at hf
      by_cases hs : pos + 8 ≤ binary.bytes.length
      · rw [slice_of_le hs] at hf
        cases hf
      · rw [slice_of_lt (by omega)] at hf
        cases hf
        rfl
    · rename_i mechType pos' hf
      obtain ⟨hle, -, rfl, -⟩ := of_field hf
      exact ih _ (by omega) hle rfl

end set

def overrun : String := "attribute map template overrun"

/-- The switch over the kinds, behind the type and the kind of a record. -/
def decodeValue (attrKind : ByteString) (binary : Block) (size pos : ℕ) :
    Decoding (OSAttribute × ℕ) :=
  if attrKind = Kind.akBoolean.bytes then do
    let (value, pos) ← field overrun binary size pos 1
    return (.boolean (value ≠ [0]), pos)
  else if attrKind = Kind.akInteger.bytes then do
    let (value, pos) ← field overrun binary size pos 8
    return (.unsignedLong (ulongAt value), pos)
  else if attrKind = Kind.akBinary.bytes then do
    let (len, pos) ← field overrun binary size pos 8
    require (sizeAdd pos (ulongAt len).toNat ≤ size) (.returned overrun)
    -- `value.resize(len)`
    require ((ulongAt len).toNat < 2 ^ 63) .length_error
    let value ← slice binary.bytes pos (ulongAt len).toNat
    return (.byteString value, sizeAdd pos (ulongAt len).toNat)
  else if attrKind = Kind.akMechSet.bytes then do
    let (len, pos) ← field overrun binary size pos 8
    require (sizeAdd pos (ulongAt len).toNat ≤ size) (.returned overrun)
    let value ← decodeMechanismTypeSet (binary.behind pos) (ulongAt len).toNat
    return (.mechanismTypeSet value, sizeAdd pos (ulongAt len).toNat)
  else refuse (.returned "unsupported attribute kind in attribute map")

/-- A record at a position, and the position behind it. -/
def decodeRecord (binary : Block) (size pos : ℕ) :
    Decoding ((CK_ATTRIBUTE_TYPE × OSAttribute) × ℕ) := do
  let (attrType, pos) ← field overrun binary size pos 8
  let (attrKind, pos) ← field overrun binary size pos 4
  let (attr, pos) ← decodeValue attrKind binary size pos
  return ((ulongAt attrType, attr), pos)

/-! ### Complete records -/

/-- The bytes of a value behind its kind. -/
inductive IsValue : Kind → ByteString → OSAttribute → Prop
  | boolean (b : UInt8) : IsValue .akBoolean [b] (.boolean ([b] ≠ [0]))
  | integer (v : UInt64) : IsValue .akInteger (ulongBytes v) (.unsignedLong v)
  | binary {value : ByteString} (h : value.length < 2 ^ 64) :
      IsValue .akBinary (ulongBytes (UInt64.ofNat value.length) ++ value) (.byteString value)
  | mechSet {l : List CK_MECHANISM_TYPE} (h : l.length * 8 < 2 ^ 64) :
      IsValue .akMechSet (ulongBytes (UInt64.ofNat (l.length * 8)) ++ l.flatMap ulongBytes)
        (.mechanismTypeSet l.toFinset)

/-- Complete records, with their entries. -/
inductive Records : ByteString → List (CK_ATTRIBUTE_TYPE × OSAttribute) → Prop
  | nil : Records [] []
  | cons (attrType : CK_ATTRIBUTE_TYPE) {kind : Kind} {w bs : ByteString} {attr : OSAttribute}
      {l : List (CK_ATTRIBUTE_TYPE × OSAttribute)} :
      IsValue kind w attr → Records bs l →
      Records (ulongBytes attrType ++ (kind.bytes ++ (w ++ bs))) ((attrType, attr) :: l)

/-- A length in a record of a kind, behind its type, leaves the word at the record's position. -/
def Overflows (kind : Kind) (pos : ℕ) (bs : ByteString) : Prop :=
  ∃ (attrType len : UInt64) (rest : ByteString),
    bs = ulongBytes attrType ++ (kind.bytes ++ (ulongBytes len ++ rest)) ∧
    2 ^ 64 ≤ pos + 20 + len.toNat

/-- Behind complete records there is one of a kind whose length leaves the word. -/
def Wraps (kind : Kind) (binary : ByteString) : Prop :=
  ∃ (p bs : ByteString) (l : List (CK_ATTRIBUTE_TYPE × OSAttribute)),
    binary = p ++ bs ∧ Records p l ∧ Overflows kind p.length bs

lemma length_bytes (kind : Kind) : kind.bytes.length = 4 := by cases kind <;> rfl

section value

variable {binary : Block} {kind : Kind} {attr : OSAttribute} {attrKind w p bs rest : ByteString}
  {size pos pos' : ℕ}

lemma field_ulong (message : String) {v : UInt64} (hb : binary.bytes = p ++ (ulongBytes v ++ rest))
    (hsize : (p ++ ulongBytes v).length ≤ size) :
    field message binary size p.length 8 = .ok (ulongBytes v, (p ++ ulongBytes v).length) := by
  rw [List.length_append] at hsize
  have h := @field_append message _ _ _ _ _ hb hsize
  rwa [length_ulongBytes] at h

/-- **A complete value** is read. -/
lemma decodeValue_append (hv : IsValue kind w attr) (hb : binary.bytes = p ++ (w ++ rest))
    (hsize : (p ++ w).length ≤ size) :
    decodeValue kind.bytes binary size p.length = .ok (attr, (p ++ w).length) := by
  have hlt := binary.bound
  cases hv with
  | boolean b =>
    have hf : field overrun binary size p.length 1 = .ok ([b], (p ++ [b]).length) :=
      field_append hb (by rwa [List.length_append] at hsize)
    rw [decodeValue, if_pos rfl, hf]
    rfl
  | integer v =>
    rw [decodeValue, if_neg (by decide), if_pos rfl, field_ulong _ hb hsize, ok_bind]
    dsimp only
    rw [ulongAt_ulongBytes]
    rfl
  | @binary value h =>
    rw [List.append_assoc] at hb
    have hlen : (p ++ ulongBytes (UInt64.ofNat value.length)).length + value.length =
        (p ++ (ulongBytes (UInt64.ofNat value.length) ++ value)).length := by
      rw [← List.append_assoc, @List.length_append _ _ value]
    have hb' : binary.bytes =
        (p ++ ulongBytes (UInt64.ofNat value.length)) ++ (value ++ rest) := by
      rw [hb, List.append_assoc]
    have htotal : (p ++ ulongBytes (UInt64.ofNat value.length)).length + value.length ≤
        binary.bytes.length := by
      rw [hb', @List.length_append _ _ (value ++ rest), @List.length_append _ value]
      omega
    rw [decodeValue, if_neg (by decide), if_neg (by decide), if_pos rfl,
      field_ulong _ hb (by omega), ok_bind]
    dsimp only
    rw [ulongAt_ulongBytes, File.toNat_ofNat h, sizeAdd_of_lt (by omega), require,
      if_pos (by omega), ok_bind, require, if_pos (by omega), ok_bind, slice_of_le htotal, ok_bind,
      hb', List.drop_left, List.take_left, hlen]
    rfl
  | @mechSet l h =>
    have hflat : (l.flatMap ulongBytes).length = l.length * 8 := length_flatMap_ulongBytes l
    rw [List.append_assoc] at hb
    have hlen : (p ++ ulongBytes (UInt64.ofNat (l.length * 8))).length + l.length * 8 =
        (p ++ (ulongBytes (UInt64.ofNat (l.length * 8)) ++ l.flatMap ulongBytes)).length := by
      rw [← List.append_assoc, @List.length_append _ _ (l.flatMap ulongBytes), hflat]
    have hb' : binary.bytes =
        (p ++ ulongBytes (UInt64.ofNat (l.length * 8))) ++ (l.flatMap ulongBytes ++ rest) := by
      rw [hb, List.append_assoc]
    have htotal : (p ++ ulongBytes (UInt64.ofNat (l.length * 8))).length + l.length * 8 ≤
        binary.bytes.length := by
      rw [hb', @List.length_append _ _ (l.flatMap ulongBytes ++ rest),
        @List.length_append _ (l.flatMap ulongBytes)]
      omega
    have hset : decodeMechanismTypeSet
        (binary.behind (p ++ ulongBytes (UInt64.ofNat (l.length * 8))).length) (l.length * 8) =
        .ok l.toFinset := by
      have hb'' : (binary.behind (p ++ ulongBytes (UInt64.ofNat (l.length * 8))).length).bytes =
          [] ++ (l.flatMap ulongBytes ++ rest) := by
        rw [binary.bytes_behind hb', List.nil_append]
      have h := @decodeMechanismTypeSetFrom_append _ ∅ _ _ l _ hb''
          (by rw [List.length_nil, Nat.zero_add])
      rwa [Finset.union_empty] at h
    rw [decodeValue, if_neg (by decide), if_neg (by decide), if_neg (by decide), if_pos rfl,
      field_ulong _ hb (by omega), ok_bind]
    dsimp only
    rw [ulongAt_ulongBytes, File.toNat_ofNat h, sizeAdd_of_lt (by omega), require,
      if_pos (by omega), ok_bind, hset, ok_bind, hlen]
    rfl

/-- **What is read as a value** is a complete one. -/
lemma decodeValue_split (hb : binary.bytes = p ++ bs)
    (h : decodeValue attrKind binary size p.length = .ok (attr, pos')) :
    ∃ kind w rest, attrKind = Kind.bytes kind ∧ IsValue kind w attr ∧ bs = w ++ rest ∧
      pos' = (p ++ w).length := by
  have hlt := binary.bound
  rw [decodeValue] at h
  split at h
  · rename_i hk
    obtain ⟨⟨w, pos₁⟩, hf, h⟩ := of_bind h
    obtain ⟨rest, rfl, hlen, rfl, -⟩ := field_split hb hf
    obtain ⟨b, rfl⟩ := List.length_eq_one_iff.1 hlen
    cases h
    exact ⟨_, _, rest, hk, .boolean b, rfl, rfl⟩
  split at h
  · rename_i hk
    obtain ⟨⟨w, pos₁⟩, hf, h⟩ := of_bind h
    obtain ⟨rest, rfl, hlen, rfl, -⟩ := field_split hb hf
    cases h
    have hv := IsValue.integer (ulongAt w)
    rw [ulongBytes_ulongAt hlen] at hv
    exact ⟨_, _, rest, hk, hv, rfl, rfl⟩
  split at h
  · rename_i hk
    obtain ⟨⟨len, pos₁⟩, hf, h⟩ := of_bind h
    obtain ⟨rest, rfl, hlen, rfl, -⟩ := field_split hb hf
    obtain ⟨_, -, h⟩ := of_bind h
    obtain ⟨_, -, h⟩ := of_bind h
    obtain ⟨value, hs, h⟩ := of_bind h
    obtain ⟨hle, rfl⟩ := of_slice hs
    have hb' : binary.bytes = (p ++ len) ++ rest := by rw [hb, List.append_assoc]
    have htotal : binary.bytes.length = (p ++ len).length + rest.length := by
      rw [hb', List.length_append]
    have hvalue : (rest.take (ulongAt len).toNat).length = (ulongAt len).toNat :=
      List.length_take_of_le (by omega)
    rw [hb', List.drop_left, sizeAdd_of_lt (by omega)] at h
    have hv := @IsValue.binary (rest.take (ulongAt len).toNat) (by omega)
    rw [hvalue, UInt64.ofNat_toNat, ulongBytes_ulongAt hlen] at hv
    cases h
    refine ⟨_, _, rest.drop (ulongAt len).toNat, hk, hv, ?_, ?_⟩
    · rw [List.append_assoc, List.take_append_drop]
    · rw [← List.append_assoc, @List.length_append _ (p ++ len), hvalue]
  split at h
  · rename_i hk
    obtain ⟨⟨len, pos₁⟩, hf, h⟩ := of_bind h
    obtain ⟨rest, rfl, hlen, rfl, -⟩ := field_split hb hf
    obtain ⟨_, -, h⟩ := of_bind h
    obtain ⟨set, hs, h⟩ := of_bind h
    have hb' : binary.bytes = (p ++ len) ++ rest := by rw [hb, List.append_assoc]
    have hb'' : (binary.behind (p ++ len).length).bytes = [] ++ rest := by
      rw [binary.bytes_behind hb', List.nil_append]
    obtain ⟨l, rest', rfl, hl, rfl⟩ := decodeMechanismTypeSetFrom_split hb'' (Nat.zero_le _) hs
    have hflat : (l.flatMap ulongBytes).length = l.length * 8 := length_flatMap_ulongBytes l
    have htotal : binary.bytes.length =
        (p ++ len).length + ((l.flatMap ulongBytes).length + rest'.length) := by
      rw [hb', List.length_append, @List.length_append _ (l.flatMap ulongBytes)]
    rw [List.length_nil, Nat.zero_add] at hl
    rw [hl, sizeAdd_of_lt (by omega)] at h
    have hv := IsValue.mechSet (l := l) (by omega)
    rw [← hl, UInt64.ofNat_toNat, ulongBytes_ulongAt hlen] at hv
    rw [Finset.union_empty] at h
    cases h
    refine ⟨_, _, rest', hk, hv, ?_, ?_⟩
    · rw [List.append_assoc]
    · rw [← List.append_assoc, @List.length_append _ (p ++ len), hflat]
  · cases h

end value

section record

variable {binary : Block} {kind : Kind} {attr : OSAttribute} {attrKind w p bs rest : ByteString}
  {attrType : CK_ATTRIBUTE_TYPE} {entry : CK_ATTRIBUTE_TYPE × OSAttribute} {size pos pos' : ℕ}

lemma decodeRecord_append (hv : IsValue kind w attr)
    (hb : binary.bytes = p ++ (ulongBytes attrType ++ (kind.bytes ++ (w ++ rest))))
    (hsize : (p ++ (ulongBytes attrType ++ (kind.bytes ++ w))).length ≤ size) :
    decodeRecord binary size p.length = .ok ((attrType, attr),
      (p ++ (ulongBytes attrType ++ (kind.bytes ++ w))).length) := by
  have hassoc : p ++ (ulongBytes attrType ++ (kind.bytes ++ w)) =
      (p ++ ulongBytes attrType ++ kind.bytes) ++ w := by simp only [List.append_assoc]
  rw [hassoc] at hsize ⊢
  have hlen := hsize
  rw [List.length_append, List.length_append] at hlen
  have hkind : field overrun binary size (p ++ ulongBytes attrType).length 4 =
      .ok (kind.bytes, (p ++ ulongBytes attrType ++ kind.bytes).length) := by
    have h := @field_append overrun _ size (p ++ ulongBytes attrType) kind.bytes _
        (by rw [hb, List.append_assoc]) (by omega)
    rwa [length_bytes] at h
  have hvalue := @decodeValue_append _ _ _ _ (p ++ ulongBytes attrType ++ kind.bytes) rest _ hv
      (by rw [hb]; simp only [List.append_assoc]) hsize
  rw [decodeRecord, field_ulong _ hb (by omega), ok_bind]
  dsimp only
  rw [hkind, ok_bind]
  dsimp only
  rw [hvalue, ok_bind, ulongAt_ulongBytes]
  rfl

lemma decodeRecord_split (hb : binary.bytes = p ++ bs)
    (h : decodeRecord binary size p.length = .ok (entry, pos')) :
    ∃ kind w rest, IsValue kind w entry.2 ∧
      bs = ulongBytes entry.1 ++ (kind.bytes ++ (w ++ rest)) ∧
      pos' = (p ++ (ulongBytes entry.1 ++ (kind.bytes ++ w))).length := by
  obtain ⟨⟨t, pos₁⟩, ht, h⟩ := of_bind h
  obtain ⟨bs₁, rfl, hlen, rfl, -⟩ := field_split hb ht
  have hb₁ : binary.bytes = (p ++ t) ++ bs₁ := by rw [hb, List.append_assoc]
  obtain ⟨⟨k, pos₂⟩, hk, h⟩ := of_bind h
  obtain ⟨bs₂, rfl, -, rfl, -⟩ := field_split hb₁ hk
  have hb₂ : binary.bytes = (p ++ t ++ k) ++ bs₂ := by
    rw [hb₁]
    simp only [List.append_assoc]
  obtain ⟨⟨attr, pos₃⟩, hv, h⟩ := of_bind h
  obtain ⟨kind, w, rest, rfl, hw, rfl, rfl⟩ := decodeValue_split hb₂ hv
  cases h
  refine ⟨kind, w, rest, hw, ?_, ?_⟩
  · rw [ulongBytes_ulongAt hlen]
  · rw [ulongBytes_ulongAt hlen]
    simp only [List.append_assoc]

/-- A record takes its type at least, and is in the block. -/
lemma of_decodeRecord (h : decodeRecord binary size pos = .ok (entry, pos')) :
    pos < pos' ∧ pos' ≤ binary.size := by
  have hpos : pos ≤ binary.bytes.length := by
    obtain ⟨⟨t, pos₁⟩, ht, -⟩ := of_bind h
    have hle : pos + 8 ≤ binary.bytes.length := (of_field ht).1
    omega
  have hp : (binary.bytes.take pos).length = pos := List.length_take_of_le hpos
  rw [← hp] at h
  obtain ⟨kind, w, rest, -, hbs, rfl⟩ :=
    decodeRecord_split (List.take_append_drop pos binary.bytes).symm h
  have hall : binary.size = pos + (binary.bytes.drop pos).length := by
    rw [List.length_drop, Block.size]
    omega
  rw [hbs] at hall
  simp only [List.length_append, hp, length_ulongBytes] at hall ⊢
  omega

end record

/-- The loop of `decodeAttributeMap`; an entry whose type has come before does not count. -/
def decodeAttributeMapFrom (map : List (CK_ATTRIBUTE_TYPE × OSAttribute)) (binary : Block)
    (size pos : ℕ) : Decoding (List (CK_ATTRIBUTE_TYPE × OSAttribute)) :=
  if pos < size then
    match h : decodeRecord binary size pos with
    | .error stop => .error stop
    | .ok ((attrType, attr), pos') =>
      have := of_decodeRecord h
      decodeAttributeMapFrom (OrderedMap.insert attrType attr map).2 binary size pos'
  else .ok map
  termination_by binary.size - pos

def decodeAttributeMap (binary : Block) (size : ℕ) :
    Decoding (List (CK_ATTRIBUTE_TYPE × OSAttribute)) :=
  decodeAttributeMapFrom [] binary size 0

/-- The entries in a map, the first of a type. -/
def inserted (map l : List (CK_ATTRIBUTE_TYPE × OSAttribute)) :
    List (CK_ATTRIBUTE_TYPE × OSAttribute) :=
  l.foldl (fun map e => (OrderedMap.insert e.1 e.2 map).2) map

/-! ### One record -/

section overflow

variable {binary : Block} {kind : Kind} {attrKind p bs rest : ByteString} {pos n : ℕ}
  {len : UInt64} {P : Ending → Prop}

lemma field_safe (hP : ∀ m, P (.returned m)) (message : String) (hlt : pos + n < 2 ^ 64) :
    Safe P (field message binary binary.size pos n) := by
  by_cases hle : pos + n ≤ binary.size
  · rw [field, sizeAdd_of_lt hlt, require, if_pos hle, ok_bind, slice_of_le hle]
    exact safe_ok _
  · rw [field_short (Nat.not_le.1 hle) hlt]
    exact safe_refuse (hP message)

/-- **Without an overflow** a value is read, or refused behind a message. -/
lemma decodeValue_safe (hP : ∀ m, P (.returned m)) (hb : binary.bytes = p ++ bs)
    (hbin : attrKind = Kind.akBinary.bytes → ¬ P .length_error → ∀ len rest,
      bs = ulongBytes len ++ rest → p.length + 8 + len.toNat < 2 ^ 64)
    (hset : attrKind = Kind.akMechSet.bytes → ∀ len rest,
      bs = ulongBytes len ++ rest → p.length + 8 + len.toNat < 2 ^ 64) :
    Safe P (decodeValue attrKind binary binary.size p.length) := by
  have hlt := binary.bound
  have hall : binary.bytes.length = p.length + bs.length := by rw [hb, List.length_append]
  have hsize : binary.size = binary.bytes.length := rfl
  rw [decodeValue]
  split
  · exact safe_bind (field_safe hP _ (by omega)) fun _ _ => safe_ok _
  split
  · exact safe_bind (field_safe hP _ (by omega)) fun _ _ => safe_ok _
  split
  · rename_i hk
    refine safe_bind (field_safe hP _ (by omega)) ?_
    rintro ⟨len, pos⟩ hf
    obtain ⟨rest, hbs, hlen, rfl, hle⟩ := field_split hb hf
    have hpos : (p ++ len).length = p.length + 8 := by rw [List.length_append, hlen]
    have hlen64 := (ulongAt len).toNat_lt
    refine safe_bind (safe_require fun _ => hP _) fun _ htest => ?_
    have htest := of_require htest
    by_cases hno : P .length_error
    · refine safe_bind (safe_require fun _ => hno) fun _ hthrow => ?_
      have hthrow := of_require hthrow
      rw [sizeAdd_of_lt (by omega)] at htest
      rw [slice_of_le htest]
      exact safe_ok _
    · have hsum := hbin hk hno (ulongAt len) rest (by rw [ulongBytes_ulongAt hlen, hbs])
      rw [sizeAdd_of_lt (by omega)] at htest
      rw [require, if_pos (by omega), ok_bind, slice_of_le htest]
      exact safe_ok _
  split
  · rename_i hk
    refine safe_bind (field_safe hP _ (by omega)) ?_
    rintro ⟨len, pos⟩ hf
    obtain ⟨rest, hbs, hlen, rfl, hle⟩ := field_split hb hf
    have hpos : (p ++ len).length = p.length + 8 := by rw [List.length_append, hlen]
    refine safe_bind (safe_require fun _ => hP _) fun _ htest => ?_
    have htest := of_require htest
    have hsum := hset hk (ulongAt len) rest (by rw [ulongBytes_ulongAt hlen, hbs])
    rw [sizeAdd_of_lt (by omega)] at htest
    have hin : (ulongAt len).toNat ≤ (binary.behind (p ++ len).length).size := by
      rw [Block.size_behind]
      omega
    refine safe_bind (fun stop hs => ?_) fun _ _ => safe_ok _
    obtain ⟨e, he, rfl⟩ := decodeMechanismTypeSetFrom_safe hin stop hs
    exact ⟨_, he, hP _⟩
  · exact safe_refuse (hP _)

/-- **An overflow** ends with an exception where there is a byte string, and with a read outside
the block where there is a set. -/
lemma decodeValue_overflow (hk : kind = .akBinary ∨ kind = .akMechSet)
    (hb : binary.bytes = p ++ (ulongBytes len ++ rest))
    (hover : 2 ^ 64 ≤ p.length + 8 + len.toNat) :
    decodeValue kind.bytes binary binary.size p.length =
      if kind = .akBinary then refuse .length_error else .error (.fault .outside) := by
  have hlt := binary.bound
  have hlen64 := len.toNat_lt
  have hpos : (p ++ ulongBytes len).length = p.length + 8 := by
    rw [List.length_append, length_ulongBytes]
  have hall : binary.size = p.length + 8 + rest.length := by
    rw [Block.size, hb, ← List.append_assoc, List.length_append, hpos]
  have hbound : binary.size < 2 ^ 63 := hlt
  have hf : field overrun binary binary.size p.length 8 =
      .ok (ulongBytes len, (p ++ ulongBytes len).length) := field_ulong _ hb (by omega)
  have htest : sizeAdd (p ++ ulongBytes len).length len.toNat ≤ binary.size := by
    rw [sizeAdd, hpos]
    omega
  rcases hk with rfl | rfl
  · rw [decodeValue, if_neg (by decide), if_neg (by decide), if_pos rfl, hf, ok_bind]
    dsimp only
    rw [ulongAt_ulongBytes, require, if_pos htest, ok_bind, require, if_neg (by omega)]
    rfl
  · have hset : decodeMechanismTypeSet (binary.behind (p ++ ulongBytes len).length) len.toNat =
        .error (.fault .outside) := by
      refine decodeMechanismTypeSetFrom_outside (Nat.zero_le _) ?_
      rw [Block.size_behind, hpos]
      omega
    rw [decodeValue, if_neg (by decide), if_neg (by decide), if_neg (by decide), if_pos rfl, hf,
      ok_bind]
    dsimp only
    rw [ulongAt_ulongBytes, require, if_pos htest, ok_bind, hset]
    rfl

lemma decodeRecord_safe (hP : ∀ m, P (.returned m)) (hb : binary.bytes = p ++ bs)
    (hbin : ¬ P .length_error → ¬ Overflows .akBinary p.length bs)
    (hset : ¬ Overflows .akMechSet p.length bs) :
    Safe P (decodeRecord binary binary.size p.length) := by
  have hlt := binary.bound
  have hall : binary.bytes.length = p.length + bs.length := by rw [hb, List.length_append]
  refine safe_bind (field_safe hP _ (by omega)) ?_
  rintro ⟨t, pos₁⟩ ht
  obtain ⟨bs₁, rfl, hlen, rfl, -⟩ := field_split hb ht
  have hb₁ : binary.bytes = (p ++ t) ++ bs₁ := by rw [hb, List.append_assoc]
  have hpos₁ : (p ++ t).length = p.length + 8 := by rw [List.length_append, hlen]
  have hle₁ : (p ++ t).length ≤ binary.bytes.length := by
    rw [hb₁, @List.length_append _ (p ++ t)]
    omega
  refine safe_bind (field_safe hP _ (by omega)) ?_
  rintro ⟨k, pos₂⟩ hk
  obtain ⟨bs₂, rfl, hlen₂, rfl, -⟩ := field_split hb₁ hk
  have hb₂ : binary.bytes = (p ++ t ++ k) ++ bs₂ := by
    rw [hb₁]
    simp only [List.append_assoc]
  have hpos₂ : (p ++ t ++ k).length = p.length + 12 := by rw [List.length_append, hpos₁, hlen₂]
  have hover : ∀ {kind : Kind}, k = kind.bytes → ¬ Overflows kind p.length (t ++ (k ++ bs₂)) →
      ∀ len rest, bs₂ = ulongBytes len ++ rest →
        (p ++ t ++ k).length + 8 + len.toNat < 2 ^ 64 := by
    rintro kind rfl hno len rest rfl
    by_contra hge
    exact hno ⟨ulongAt t, len, rest, by rw [ulongBytes_ulongAt hlen], by omega⟩
  refine safe_bind (decodeValue_safe hP hb₂ (fun he hno => hover he (hbin hno))
    fun he => hover he hset) fun _ _ => safe_ok _

lemma decodeRecord_overflow (hk : kind = .akBinary ∨ kind = .akMechSet)
    (hb : binary.bytes = p ++ bs) (h : Overflows kind p.length bs) :
    decodeRecord binary binary.size p.length =
      if kind = .akBinary then refuse .length_error else .error (.fault .outside) := by
  obtain ⟨t, len, rest, rfl, hover⟩ := h
  have hpos₁ : (p ++ ulongBytes t).length = p.length + 8 := by
    rw [List.length_append, length_ulongBytes]
  have hpos₂ : (p ++ ulongBytes t ++ kind.bytes).length = p.length + 12 := by
    rw [List.length_append, hpos₁, length_bytes]
  have hb₁ : binary.bytes =
      (p ++ ulongBytes t) ++ (kind.bytes ++ (ulongBytes len ++ rest)) := by
    rw [hb, List.append_assoc]
  have hb₂ : binary.bytes =
      (p ++ ulongBytes t ++ kind.bytes) ++ (ulongBytes len ++ rest) := by
    rw [hb₁]
    simp only [List.append_assoc]
  have hle : (p ++ ulongBytes t ++ kind.bytes).length ≤ binary.size := by
    rw [Block.size, hb₂, @List.length_append _ (p ++ ulongBytes t ++ kind.bytes)]
    omega
  have hkind : field overrun binary binary.size (p ++ ulongBytes t).length 4 =
      .ok (kind.bytes, (p ++ ulongBytes t ++ kind.bytes).length) := by
    have h := @field_append overrun _ binary.size _ _ _ hb₁
        (by rw [List.length_append] at hle; exact hle)
    rwa [length_bytes] at h
  rw [decodeRecord, field_ulong _ hb (by omega), ok_bind]
  dsimp only
  rw [hkind, ok_bind]
  dsimp only
  rw [decodeValue_overflow hk hb₂ (by omega)]
  rcases hk with rfl | rfl <;> rfl

end overflow

/-! ### The loop -/

section loop

variable {binary : Block} {kind : Kind} {p w bs rest : ByteString} {P : Ending → Prop}
  {map map' l l' : List (CK_ATTRIBUTE_TYPE × OSAttribute)}

lemma Records.append {v : ByteString} (h : Records v l) (h' : Records w l') :
    Records (v ++ w) (l ++ l') := by
  induction h with
  | nil => exact h'
  | cons t hv _ ih =>
    have hr := ih.cons t hv
    simp only [List.append_assoc, List.cons_append] at hr ⊢
    exact hr

lemma Records.snoc {attrType : CK_ATTRIBUTE_TYPE} {attr : OSAttribute} (h : Records p l)
    (hv : IsValue kind w attr) :
    Records (p ++ (ulongBytes attrType ++ (kind.bytes ++ w))) (l ++ [(attrType, attr)]) := by
  have hone := Records.nil.cons attrType hv
  rw [List.append_nil] at hone
  exact h.append hone

/-- One turn of the loop, where there is a record. -/
lemma decodeAttributeMapFrom_step {attrType : CK_ATTRIBUTE_TYPE} {attr : OSAttribute}
    {size pos pos' : ℕ} (hpos : pos < size)
    (h : decodeRecord binary size pos = .ok ((attrType, attr), pos')) :
    decodeAttributeMapFrom map binary size pos =
      decodeAttributeMapFrom (OrderedMap.insert attrType attr map).2 binary size pos' := by
  rw [decodeAttributeMapFrom, if_pos hpos]
  split
  · rename_i hs
    rw [h] at hs
    cases hs
  · rename_i hs
    rw [h] at hs
    cases hs
    rfl

/-- And where there is none. -/
lemma decodeAttributeMapFrom_stop {size pos : ℕ} {stop : Stop Ending} (hpos : pos < size)
    (h : decodeRecord binary size pos = .error stop) :
    decodeAttributeMapFrom map binary size pos = .error stop := by
  rw [decodeAttributeMapFrom, if_pos hpos]
  split
  · rename_i hs
    rw [h] at hs
    cases hs
    rfl
  · rename_i hs
    rw [h] at hs
    cases hs

/-- **Complete records** are gone through. -/
lemma decodeAttributeMapFrom_append (hr : Records w l) (hb : binary.bytes = p ++ (w ++ rest)) :
    decodeAttributeMapFrom map binary binary.size p.length =
      decodeAttributeMapFrom (inserted map l) binary binary.size (p ++ w).length := by
  induction hr generalizing p map with
  | nil => rw [List.append_nil]; rfl
  | @cons t kind w bs attr l hv _ ih =>
    have hb' : binary.bytes = p ++ (ulongBytes t ++ (kind.bytes ++ (w ++ (bs ++ rest)))) := by
      rw [hb]
      simp only [List.append_assoc]
    have hb'' : binary.bytes = (p ++ (ulongBytes t ++ (kind.bytes ++ w))) ++ (bs ++ rest) := by
      rw [hb]
      simp only [List.append_assoc]
    have hall : binary.size =
        (p ++ (ulongBytes t ++ (kind.bytes ++ w))).length + (bs ++ rest).length := by
      rw [Block.size, hb'', List.length_append]
    have hpos : p.length < binary.size := by
      simp only [List.length_append, length_ulongBytes] at hall
      omega
    rw [decodeAttributeMapFrom_step hpos (decodeRecord_append hv hb' (by omega)), ih hb'']
    simp only [List.append_assoc]
    rfl

/-- **What is read as a map** is complete records. -/
lemma decodeAttributeMapFrom_split (hb : binary.bytes = p ++ bs)
    (h : decodeAttributeMapFrom map binary binary.size p.length = .ok map') :
    ∃ l, Records bs l ∧ map' = inserted map l := by
  induction hn : bs.length using Nat.strong_induction_on generalizing map p bs with
  | _ n ih =>
    have hall : binary.size = p.length + bs.length := by rw [Block.size, hb, List.length_append]
    rw [decodeAttributeMapFrom] at h
    split at h
    · split at h
      · cases h
      · rename_i attrType attr pos' hr
        obtain ⟨kind, w, rest, hv, rfl, rfl⟩ := decodeRecord_split hb hr
        have hlt : rest.length < n := by
          simp only [List.length_append, length_ulongBytes] at hn
          omega
        obtain ⟨l, hl, rfl⟩ := ih _ hlt (by rw [hb]; simp only [List.append_assoc]) h rfl
        exact ⟨_, hl.cons attrType hv, rfl⟩
    · cases h
      obtain rfl := List.length_eq_zero_iff.1 (show bs.length = 0 by omega)
      exact ⟨[], .nil, rfl⟩

/-- **Without an overflow** the loop comes to a map, or returns false. -/
lemma decodeAttributeMapFrom_safe (hP : ∀ m, P (.returned m))
    (hbin : ¬ P .length_error → ¬ Wraps .akBinary binary.bytes)
    (hset : ¬ Wraps .akMechSet binary.bytes) (hb : binary.bytes = p ++ bs) (hp : Records p l) :
    Safe P (decodeAttributeMapFrom map binary binary.size p.length) := by
  induction hn : bs.length using Nat.strong_induction_on generalizing map p bs l with
  | _ n ih =>
    have hsafe := decodeRecord_safe hP hb
      (fun hno hover => hbin hno ⟨p, bs, l, hb, hp, hover⟩)
      fun hover => hset ⟨p, bs, l, hb, hp, hover⟩
    rw [decodeAttributeMapFrom]
    split
    · split
      · rename_i stop hr
        obtain ⟨e, rfl, he⟩ := hsafe stop hr
        exact safe_refuse he
      · rename_i attrType attr pos' hr
        obtain ⟨kind, w, rest, hv, rfl, rfl⟩ := decodeRecord_split hb hr
        have hlt : rest.length < n := by
          simp only [List.length_append, length_ulongBytes] at hn
          omega
        exact ih _ hlt (by rw [hb]; simp only [List.append_assoc]) (hp.snoc hv) rfl
    · exact safe_ok _

/-- **An overflow** behind complete records is the end of the loop. -/
lemma decodeAttributeMap_wraps (hk : kind = .akBinary ∨ kind = .akMechSet)
    (h : Wraps kind binary.bytes) :
    decodeAttributeMap binary binary.size =
      if kind = .akBinary then refuse .length_error else .error (.fault .outside) := by
  obtain ⟨p, bs, l, hb, hp, hover⟩ := h
  have hpos : p.length < binary.size := by
    obtain ⟨t, len, rest, rfl, -⟩ := hover
    rw [Block.size, hb]
    simp only [List.length_append, length_ulongBytes]
    omega
  have hrun : decodeAttributeMap binary binary.size =
      decodeAttributeMapFrom (inserted [] l) binary binary.size p.length :=
    decodeAttributeMapFrom_append (p := []) hp (by rw [hb, List.nil_append])
  have hrecord := decodeRecord_overflow hk hb hover
  rw [hrun]
  rcases hk with rfl | rfl
  · exact decodeAttributeMapFrom_stop hpos hrecord
  · exact decodeAttributeMapFrom_stop hpos hrecord

end loop

end Memory
end SoftHSM.DB
