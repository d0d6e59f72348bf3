import SoftHSM.ObjectStore.MapDecoder

/-!
The codec of a map: its encoder makes complete records, and both decoders, the one on streams that
the tables are modelled with and the one on memory, take complete records and nothing else. The
one on memory leaves its block where a length overflows.
-/

namespace SoftHSM.DB

open Access Codec Codec.Reader Memory

/-! ### The encoder -/

lemma isValue_encode {attr : OSAttribute} {bs : ByteString} (h : encodeValue attr = some bs)
    (hlen : bs.length < 2 ^ 64) : ∃ kind w, bs = Kind.bytes kind ++ w ∧ IsValue kind w attr := by
  cases attr with
  | boolean val =>
    cases h
    have hv := IsValue.boolean (if val then 1 else 0)
    cases val <;> exact ⟨_, _, rfl, hv⟩
  | unsignedLong val =>
    cases h
    exact ⟨_, _, rfl, .integer val⟩
  | byteString val =>
    cases h
    simp only [List.length_append] at hlen
    exact ⟨_, _, rfl, .binary (by omega)⟩
  | mechanismTypeSet val =>
    cases h
    have hset := length_flatMap_ulongBytes (File.mechanismTypes val)
    have hv := IsValue.mechSet (l := File.mechanismTypes val) (by
      simp only [List.length_append, encodeMechanismTypeSet, hset] at hlen
      rw [sizeof_CK_ULONG] at hlen
      omega)
    rw [File.mechanismTypes, Finset.sort_toFinset] at hv
    refine ⟨_, _, rfl, ?_⟩
    rw [encodeMechanismTypeSet, hset]
    exact hv
  | attributeMap value => cases h

/-- **What the encoder makes** is complete records. -/
lemma records_encode {value : List (CK_ATTRIBUTE_TYPE × OSAttribute)} {binary : ByteString}
    (h : encodeAttributeMap value = some binary) (hlen : binary.length < 2 ^ 64) :
    Records binary value := by
  induction value generalizing binary with
  | nil =>
    cases h
    exact .nil
  | cons e value ih =>
    obtain ⟨t, attr⟩ := e
    obtain ⟨bs, hbs, h⟩ := Option.bind_eq_some_iff.1 h
    obtain ⟨rest, hrest, h⟩ := Option.bind_eq_some_iff.1 h
    cases h
    simp only [List.length_append] at hlen
    obtain ⟨kind, w, rfl, hv⟩ := isValue_encode hbs (by omega)
    rw [List.append_assoc]
    exact (ih hrest (by omega)).cons t hv

/-- A map of values that are no maps is encoded. -/
lemma encodeAttributeMap_isSome {value : List (CK_ATTRIBUTE_TYPE × OSAttribute)}
    (h : ∀ e ∈ value, kindOf e.2 ≠ .akAttrMap) :
    ∃ binary, encodeAttributeMap value = some binary := by
  induction value with
  | nil => exact ⟨[], rfl⟩
  | cons e value ih =>
    obtain ⟨t, attr⟩ := e
    obtain ⟨rest, hrest⟩ := ih fun e he => h e (List.mem_cons_of_mem _ he)
    have hattr := h _ (List.mem_cons_self ..)
    have hone : ∃ bs, encodeValue attr = some bs := by
      cases attr with
      | attributeMap value => exact absurd rfl hattr
      | _ => exact ⟨_, rfl⟩
    obtain ⟨bs, hbs⟩ := hone
    exact ⟨ulongBytes t ++ (bs ++ rest), by rw [encodeAttributeMap, hbs, hrest]; rfl⟩

/-- Entries in order are inserted behind one another. -/
lemma inserted_sorted {map l : List (CK_ATTRIBUTE_TYPE × OSAttribute)}
    (h : OrderedMap.Sorted (map ++ l)) : inserted map l = map ++ l := by
  induction l generalizing map with
  | nil => rw [List.append_nil]; rfl
  | cons e l ih =>
    have hlast : ∀ a ∈ map, a.1 < e.1 := fun a ha =>
      (List.pairwise_append.1 h).2.2 a ha e (List.mem_cons_self ..)
    have hassoc : map ++ e :: l = (map ++ [e]) ++ l := by
      rw [List.append_assoc, List.singleton_append]
    rw [hassoc] at h ⊢
    rw [← ih h]
    rw [inserted, List.foldl_cons, OrderedMap.insert_of_lt hlast]
    rfl

/-! ### The decoder on streams -/

section stream

variable {kind : Kind} {attr : OSAttribute} {w bs : ByteString}
  {map map' l : List (CK_ATTRIBUTE_TYPE × OSAttribute)}

lemma reads_value (hv : IsValue kind w attr) : Reads (DB.decodeValue kind.bytes) w attr := by
  cases hv with
  | boolean b => exact (Reads.fread [b]).bind_pure fun b => OSAttribute.boolean (b ≠ [0])
  | integer v => exact (reads_readULong v).bind_pure OSAttribute.unsignedLong
  | @binary value h =>
    refine (reads_readULong _).bind ?_
    rw [File.toNat_ofNat h]
    exact (Reads.fread value).bind_pure OSAttribute.byteString
  | @mechSet l h =>
    refine (reads_readULong _).bind ?_
    rw [File.toNat_ofNat h]
    have hr : Reads (fread (l.length * 8)) (l.flatMap ulongBytes) (l.flatMap ulongBytes) := by
      have h := Reads.fread (l.flatMap ulongBytes)
      rwa [length_flatMap_ulongBytes] at h
    suffices hall : Reads _ (l.flatMap ulongBytes ++ []) _ by rwa [List.append_nil] at hall
    refine hr.bind ?_
    rw [decodeMechanismTypeSet_flatMap]
    exact Reads.pure _

lemma takes_readULong : Takes readULong fun w v => w = ulongBytes v := by
  have h : Takes readULong fun w v => ∃ a, (w = a ∧ a.length = 8) ∧ v = ulongAt a := by
    refine (takes_fread 8).bind fun a w hw => ?_
    refine takes_pure ⟨a, ?_, rfl⟩
    rwa [List.append_nil]
  refine h.imp ?_
  rintro w v ⟨a, ⟨rfl, hlen⟩, rfl⟩
  exact (ulongBytes_ulongAt hlen).symm

lemma decodeMechanismTypeSet_split {binary : ByteString} {set : Finset CK_MECHANISM_TYPE}
    (h : DB.decodeMechanismTypeSet binary = some set) :
    ∃ l : List CK_MECHANISM_TYPE, binary = l.flatMap ulongBytes ∧ set = l.toFinset := by
  induction hn : binary.length using Nat.strong_induction_on generalizing binary set with
  | _ n ih =>
    rw [DB.decodeMechanismTypeSet] at h
    split at h
    · rename_i hnil
      cases h
      exact ⟨[], hnil, rfl⟩
    split at h
    · cases h
    obtain ⟨set', hset, rfl⟩ := Option.map_eq_some_iff.1 h
    have hlt : (binary.drop 8).length < n := by
      rw [List.length_drop]
      omega
    obtain ⟨l, hl, rfl⟩ := ih _ hlt hset rfl
    have hlen : (binary.take 8).length = 8 := List.length_take_of_le (by omega)
    refine ⟨ulongAt (binary.take 8) :: l, ?_, ?_⟩
    · rw [List.flatMap_cons, ulongBytes_ulongAt hlen, ← hl, List.take_append_drop]
    · rw [List.toFinset_cons]

lemma takes_decodeValue (attrKind : ByteString) : Takes (DB.decodeValue attrKind) fun w attr =>
    ∃ kind, attrKind = Kind.bytes kind ∧ IsValue kind w attr := by
  unfold DB.decodeValue
  split
  · rename_i hk
    refine (takes_fread 1).bind fun a w hw => takes_pure ?_
    obtain ⟨rfl, hlen⟩ := hw
    obtain ⟨b, rfl⟩ := List.length_eq_one_iff.1 hlen
    exact ⟨_, hk, .boolean b⟩
  split
  · rename_i hk
    refine takes_readULong.bind fun v w hw => takes_pure ?_
    rw [hw, List.append_nil]
    exact ⟨_, hk, .integer v⟩
  split
  · rename_i hk
    refine takes_readULong.bind fun len w hw => ?_
    refine (takes_fread _).bind fun value v hv => takes_pure ?_
    obtain ⟨rfl, hlen⟩ := hv
    have hvalue := IsValue.binary (by rw [hlen]; exact len.toNat_lt)
    rw [hlen, UInt64.ofNat_toNat] at hvalue
    rw [hw, List.append_nil]
    exact ⟨_, hk, hvalue⟩
  split
  · rename_i hk
    refine takes_readULong.bind fun len w hw => ?_
    refine (takes_fread _).bind fun value v hv => ?_
    obtain ⟨rfl, hlen⟩ := hv
    cases hset : DB.decodeMechanismTypeSet v with
    | none => exact takes_fail
    | some set =>
      obtain ⟨l, rfl, rfl⟩ := decodeMechanismTypeSet_split hset
      have hlen' : l.length * 8 = len.toNat := (length_flatMap_ulongBytes l).symm.trans hlen
      have hvalue := IsValue.mechSet (l := l) (by rw [hlen']; exact len.toNat_lt)
      rw [hlen', UInt64.ofNat_toNat] at hvalue
      refine takes_pure ?_
      rw [hw, List.append_nil]
      exact ⟨_, hk, hvalue⟩
  · exact takes_fail

/-- An entry of the stream is a record. -/
lemma takes_decodeEntry : Takes decodeEntry fun w e =>
    ∃ kind v, w = ulongBytes e.1 ++ (Kind.bytes kind ++ v) ∧ IsValue kind v e.2 := by
  refine takes_readULong.bind fun t w hw => ?_
  refine (takes_fread 4).bind fun k w' hk => ?_
  refine (takes_decodeValue k).bind fun attr v hv => takes_pure ?_
  obtain ⟨rfl, -⟩ := hk
  obtain ⟨kind, rfl, hvalue⟩ := hv
  rw [hw, List.append_nil]
  exact ⟨kind, v, rfl, hvalue⟩

lemma reads_record (t : CK_ATTRIBUTE_TYPE) (hv : IsValue kind w attr) :
    Reads decodeEntry (ulongBytes t ++ (kind.bytes ++ w)) (t, attr) := by
  refine (reads_readULong t).bind ?_
  have hkind := Reads.fread kind.bytes
  rw [length_bytes] at hkind
  exact hkind.bind ((reads_value hv).bind_pure fun attr => (t, attr))

lemma decodeAttributeMap_records (hr : Records bs l) :
    DB.decodeAttributeMap map bs = some (inserted map l) := by
  induction hr generalizing map with
  | nil =>
    rw [DB.decodeAttributeMap, if_pos rfl]
    rfl
  | @cons t kind w bs attr l hv _ ih =>
    have hread := (reads_record t hv).whole bs false
    simp only [List.append_assoc] at hread
    have hne : ulongBytes t ++ (kind.bytes ++ (w ++ bs)) ≠ [] :=
      fun h => ulongBytes_ne_nil t (List.append_eq_nil_iff.1 h).1
    rw [DB.decodeAttributeMap, if_neg hne]
    split
    · rename_i hs
      rw [hread] at hs
      cases hs
    · rename_i hs
      rw [hread] at hs
      cases hs
      exact ih

lemma decodeAttributeMap_split (h : DB.decodeAttributeMap map bs = some map') :
    ∃ l, Records bs l ∧ map' = inserted map l := by
  induction hn : bs.length using Nat.strong_induction_on generalizing map bs with
  | _ n ih =>
    rw [DB.decodeAttributeMap] at h
    split at h
    · rename_i hnil
      cases h
      exact ⟨[], hnil ▸ .nil, rfl⟩
    split at h
    · cases h
    · rename_i t attr s hread
      obtain ⟨w, ⟨kind, v, rfl, hv⟩, hs⟩ := takes_decodeEntry _ _ _ hread
      obtain ⟨rfl, -⟩ := Stream.mk.inj hs
      have hlt : s.rest.length < n := by
        simp only [List.length_append, length_ulongBytes] at hn
        omega
      obtain ⟨l, hl, rfl⟩ := ih _ hlt h rfl
      refine ⟨(t, attr) :: l, ?_, rfl⟩
      have hr := hl.cons t hv
      simp only [List.append_assoc] at hr ⊢
      exact hr

end stream

/-! ### The decoder on memory -/

/-- Complete records are a map. -/
lemma decodeAttributeMap_of_records {binary : Block}
    {l : List (CK_ATTRIBUTE_TYPE × OSAttribute)} (h : Records binary.bytes l) :
    Memory.decodeAttributeMap binary binary.size = .ok (inserted [] l) := by
  have hb : binary.bytes = [] ++ (binary.bytes ++ []) := by
    rw [List.append_nil, List.nil_append]
  have hrun := @decodeAttributeMapFrom_append _ _ _ _ [] _ h hb
  rw [List.nil_append] at hrun
  rw [Memory.decodeAttributeMap, ← List.length_nil (α := UInt8), hrun, decodeAttributeMapFrom,
    if_neg (by rw [Block.size]; omega)]

/-- **Both decoders** take the same maps. -/
theorem decodeAttributeMap_ok_iff (binary : Block)
    (map : List (CK_ATTRIBUTE_TYPE × OSAttribute)) :
    Memory.decodeAttributeMap binary binary.size = .ok map ↔
      DB.decodeAttributeMap [] binary.bytes = some map := by
  constructor
  · intro h
    obtain ⟨l, hl, rfl⟩ := decodeAttributeMapFrom_split (p := []) rfl h
    exact decodeAttributeMap_records hl
  · intro h
    obtain ⟨l, hl, rfl⟩ := decodeAttributeMap_split h
    exact decodeAttributeMap_of_records hl

/-- The run comes back, with a value or with false. -/
def Returns {α : Type} (run : Decoding α) : Prop := Safe (· ≠ .length_error) run

/-- The run reads nothing outside its block. -/
def Inside {α : Type} (run : Decoding α) : Prop := Safe (fun _ => True) run

lemma inside_iff (binary : Block) :
    Inside (Memory.decodeAttributeMap binary binary.size) ↔ ¬ Wraps .akMechSet binary.bytes := by
  constructor
  · intro h hw
    rw [decodeAttributeMap_wraps (.inr rfl) hw] at h
    exact not_safe_fault _ h
  · intro hw
    exact decodeAttributeMapFrom_safe (p := []) (fun _ => trivial) (fun h => absurd trivial h) hw rfl
      .nil

lemma returns_iff (binary : Block) :
    Returns (Memory.decodeAttributeMap binary binary.size) ↔
      ¬ (Wraps .akBinary binary.bytes ∨ Wraps .akMechSet binary.bytes) := by
  constructor
  · rintro h (hw | hw)
    · rw [decodeAttributeMap_wraps (.inl rfl) hw] at h
      obtain ⟨e, he, hne⟩ := h _ rfl
      cases he
      exact hne rfl
    · rw [decodeAttributeMap_wraps (.inr rfl) hw] at h
      exact not_safe_fault _ h
  · intro hw
    exact decodeAttributeMapFrom_safe (p := []) (fun _ he => by cases he)
      (fun _ hbin => hw (.inl hbin)) (fun hset => hw (.inr hset)) rfl .nil

/-- **A map comes back** from what its encoder makes. -/
theorem decode_encode {value : List (CK_ATTRIBUTE_TYPE × OSAttribute)} {binary : Block}
    (hs : OrderedMap.Sorted value) (h : encodeAttributeMap value = some binary.bytes) :
    Memory.decodeAttributeMap binary binary.size = .ok value := by
  have hlt := binary.bound
  rw [decodeAttributeMap_of_records (records_encode h (by omega)),
    inserted_sorted (by rwa [List.nil_append]), List.nil_append]

/-- A set of the block's size comes back, and true is for whole numbers alone. -/
theorem mechanism_set_decoding (binary : Block) :
    Returns (Memory.decodeMechanismTypeSet binary binary.size) ∧
      ∀ set, Memory.decodeMechanismTypeSet binary binary.size = .ok set ↔
        ∃ l : List CK_MECHANISM_TYPE, binary.bytes = l.flatMap ulongBytes ∧ set = l.toFinset := by
  refine ⟨fun stop hs => ?_, fun set => ⟨fun h => ?_, ?_⟩⟩
  · obtain ⟨e, he, hret⟩ := decodeMechanismTypeSetFrom_safe le_rfl stop hs
    refine ⟨e, he, ?_⟩
    rw [hret]
    simp
  · have hnil : binary.bytes = [] ++ binary.bytes := rfl
    obtain ⟨l, rest, hb, hl, rfl⟩ := decodeMechanismTypeSetFrom_split hnil (Nat.zero_le _) h
    have hlen : (l.flatMap ulongBytes).length = l.length * 8 := length_flatMap_ulongBytes l
    rw [Block.size, hb, List.length_append, hlen, List.length_nil] at hl
    obtain rfl := List.length_eq_zero_iff.1 (show rest.length = 0 by omega)
    exact ⟨l, by rw [hb, List.append_nil], Finset.union_empty _⟩
  · rintro ⟨l, hb, rfl⟩
    have hlen : (l.flatMap ulongBytes).length = l.length * 8 := length_flatMap_ulongBytes l
    have h := @decodeMechanismTypeSetFrom_append _ ∅ binary.size [] l _
        (by rw [hb, List.append_nil, List.nil_append])
        (by rw [Block.size, hb, hlen, List.length_nil, Nat.zero_add])
    rwa [Finset.union_empty] at h

/-! ### The codec -/

/-- A record takes its type, its kind and its length. -/
lemma not_wraps_of_short {kind : Kind} {binary : ByteString} (h : binary.length < 20) :
    ¬ Wraps kind binary := by
  rintro ⟨p, bs, l, rfl, -, t, len, rest, rfl, -⟩
  simp only [List.length_append, length_ulongBytes, length_bytes] at h
  omega

/-- Allowed mechanisms of `2 ^ 64 - 20` bytes, at the beginning of a blob. -/
def overflowing : Block where
  bytes := ulongBytes CKA_ALLOWED_MECHANISMS ++ (Kind.akMechSet.bytes ++
    ulongBytes 18446744073709551596)
  bound := by
    simp only [List.length_append, length_ulongBytes, length_bytes]
    decide

end SoftHSM.DB
