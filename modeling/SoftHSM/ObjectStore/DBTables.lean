import SoftHSM.ObjectStore.DBObject

/-!
The tables as a map: what a statement does to the value of each type, and that blobs come back as
the sets and maps that they were made of.
-/

namespace SoftHSM.DB

open Codec Codec.Reader

/-! ### Blobs -/

lemma reads_readULong (v : UInt64) : Reads readULong (ulongBytes v) v := by
  have h := (Reads.fread (ulongBytes v)).bind_pure ulongAt
  rwa [length_ulongBytes, ulongAt_ulongBytes] at h

lemma ulongBytes_ne_nil (v : UInt64) : ulongBytes v ≠ [] := by
  intro h
  have hlen := length_ulongBytes v
  rw [h] at hlen
  cases hlen

lemma decodeMechanismTypeSet_flatMap (l : List CK_MECHANISM_TYPE) :
    decodeMechanismTypeSet (l.flatMap ulongBytes) = some l.toFinset := by
  induction l with
  | nil => simp [decodeMechanismTypeSet]
  | cons v l ih =>
    have hlen := length_ulongBytes v
    have hne : ulongBytes v ++ l.flatMap ulongBytes ≠ [] :=
      fun h => ulongBytes_ne_nil v (List.append_eq_nil_iff.1 h).1
    have hlong : ¬ (ulongBytes v ++ l.flatMap ulongBytes).length < 8 := by
      rw [List.length_append]
      omega
    rw [List.flatMap_cons, decodeMechanismTypeSet, if_neg hne, if_neg hlong,
      List.drop_left' hlen, List.take_left' hlen, ih, ulongAt_ulongBytes, List.toFinset_cons]
    rfl

/-- **A set of mechanisms** comes back from its blob. -/
lemma decodeMechanismTypeSet_encode (set : Finset CK_MECHANISM_TYPE) :
    decodeMechanismTypeSet (encodeMechanismTypeSet set) = some set := by
  rw [encodeMechanismTypeSet, decodeMechanismTypeSet_flatMap, File.mechanismTypes,
    Finset.sort_toFinset]

lemma length_encodeMechanismTypeSet (set : Finset CK_MECHANISM_TYPE) :
    (encodeMechanismTypeSet set).length = set.card * 8 := by
  rw [encodeMechanismTypeSet, length_flatMap_ulongBytes, File.mechanismTypes, Finset.length_sort,
    sizeof_CK_ULONG]

/-- What a map can hold: sizes of things in memory, and no map. -/
def InMap : OSAttribute → Prop
  | .byteString value => value.length < 2 ^ 64
  | .mechanismTypeSet value => value.card * 8 < 2 ^ 64
  | .attributeMap _ => False
  | _ => True

/-- What a table can hold: a map is in the order of its types. -/
def Storable : OSAttribute → Prop
  | .attributeMap value => OrderedMap.Sorted value ∧ ∀ e ∈ value, InMap e.2
  | _ => True

lemma reads_decodeValue {attr : OSAttribute} (h : InMap attr) : ∃ attrKind bs : ByteString,
    attrKind.length = 4 ∧ encodeValue attr = some (attrKind ++ bs) ∧
    Reads (decodeValue attrKind) bs attr := by
  cases attr with
  | boolean val =>
    refine ⟨_, _, rfl, rfl, ?_⟩
    have hr := (Reads.fread [if val then (1 : UInt8) else 0]).bind_pure fun b =>
      OSAttribute.boolean (b ≠ [0])
    cases val with
    | false => exact hr
    | true => exact hr
  | unsignedLong val =>
    exact ⟨_, _, rfl, rfl, (reads_readULong val).bind_pure OSAttribute.unsignedLong⟩
  | byteString val =>
    refine ⟨_, _, rfl, rfl, (reads_readULong _).bind ?_⟩
    rw [File.toNat_ofNat h]
    exact (Reads.fread val).bind_pure OSAttribute.byteString
  | mechanismTypeSet val =>
    refine ⟨_, _, rfl, rfl, (reads_readULong _).bind ?_⟩
    have hlen := length_encodeMechanismTypeSet val
    rw [File.toNat_ofNat (hlen ▸ h)]
    suffices hr : Reads _ (encodeMechanismTypeSet val ++ []) _ by rwa [List.append_nil] at hr
    refine (Reads.fread (encodeMechanismTypeSet val)).bind ?_
    rw [decodeMechanismTypeSet_encode]
    exact Reads.pure _
  | attributeMap value => exact h.elim

/-- **A map** comes back behind the entries that are read already. -/
lemma decodeAttributeMap_encode {value l : List (CK_ATTRIBUTE_TYPE × OSAttribute)}
    (hs : OrderedMap.Sorted (l ++ value)) (hv : ∀ e ∈ value, InMap e.2) :
    ∃ binary, encodeAttributeMap value = some binary ∧
      decodeAttributeMap l binary = some (l ++ value) := by
  induction value generalizing l with
  | nil => exact ⟨[], rfl, by rw [decodeAttributeMap, if_pos rfl, List.append_nil]⟩
  | cons e value ih =>
    obtain ⟨t, attr⟩ := e
    have hlast : ∀ e ∈ l, e.1 < t := fun e he =>
      (List.pairwise_append.1 hs).2.2 e he (t, attr) (List.mem_cons_self ..)
    have hs' : OrderedMap.Sorted ((l ++ [(t, attr)]) ++ value) := by
      rwa [List.append_assoc, List.singleton_append]
    obtain ⟨attrKind, bs, hlen, henc, hread⟩ := reads_decodeValue (hv _ (List.mem_cons_self ..))
    obtain ⟨rest, hrest, hdec⟩ := ih hs' fun e he => hv e (List.mem_cons_of_mem _ he)
    refine ⟨ulongBytes t ++ ((attrKind ++ bs) ++ rest), ?_, ?_⟩
    · rw [encodeAttributeMap, henc, hrest]
      rfl
    have hentry : Reads decodeEntry (ulongBytes t ++ (attrKind ++ bs)) (t, attr) := by
      refine (reads_readULong t).bind ?_
      have hkind := Reads.fread attrKind
      rw [hlen] at hkind
      exact hkind.bind (hread.bind_pure fun attr => (t, attr))
    have hread := hentry.whole rest false
    rw [List.append_assoc] at hread
    have hne : ulongBytes t ++ ((attrKind ++ bs) ++ rest) ≠ [] :=
      fun h => ulongBytes_ne_nil t (List.append_eq_nil_iff.1 h).1
    rw [decodeAttributeMap, if_neg hne]
    split
    · rename_i hnone
      rw [hread] at hnone
      cases hnone
    · rename_i hsome
      rw [hread] at hsome
      cases hsome
      rw [OrderedMap.insert_of_lt hlast, hdec, List.append_assoc, List.singleton_append]

/-! ### Kinds and rows -/

/-- The kind of a value. -/
def kindOf : OSAttribute → Kind
  | .boolean _ => .akBoolean
  | .unsignedLong _ => .akInteger
  | .byteString _ => .akBinary
  | .mechanismTypeSet _ => .akMechSet
  | .attributeMap _ => .akAttrMap

namespace Tables

variable {tables tables' : Tables} {type t : CK_ATTRIBUTE_TYPE} {attr given : OSAttribute}

/-- There is no row for a type where it should be. -/
def Absent (tables : Tables) (type : CK_ATTRIBUTE_TYPE) : Prop :=
  match attributeKind type with
  | .akUnknown => True
  | .akBoolean => Rows.select type tables.attribute_boolean = none
  | .akInteger => Rows.select type tables.attribute_integer = none
  | .akBinary => Rows.select type tables.attribute_binary = none
  | .akMechSet => Rows.select type tables.attribute_binary = none
  | .akAttrMap => Rows.select type tables.attribute_array = none

/-- The rows for a type are the same. -/
structure SameAt (tables tables' : Tables) (t : CK_ATTRIBUTE_TYPE) : Prop where
  boolean : Rows.select t tables'.attribute_boolean = Rows.select t tables.attribute_boolean
  integer : Rows.select t tables'.attribute_integer = Rows.select t tables.attribute_integer
  binary : Rows.select t tables'.attribute_binary = Rows.select t tables.attribute_binary
  array : Rows.select t tables'.attribute_array = Rows.select t tables.attribute_array

lemma SameAt.value (h : SameAt tables tables' t) : tables'.value t = tables.value t := by
  unfold Tables.value
  rw [h.boolean, h.integer, h.binary, h.array]

lemma SameAt.absent (h : SameAt tables tables' t) (ha : tables.Absent t) : tables'.Absent t := by
  unfold Absent at ha ⊢
  rwa [h.boolean, h.integer, h.binary, h.array]

lemma kindOf_value (h : tables.value type = some attr) : kindOf attr = attributeKind type := by
  unfold Tables.value at h
  split at h
  · cases h
  · rename_i hk
    obtain ⟨v, -, rfl⟩ := Option.map_eq_some_iff.1 h
    exact hk.symm
  · rename_i hk
    obtain ⟨v, -, rfl⟩ := Option.map_eq_some_iff.1 h
    exact hk.symm
  · rename_i hk
    obtain ⟨v, -, rfl⟩ := Option.map_eq_some_iff.1 h
    exact hk.symm
  · rename_i hk
    obtain ⟨v, -, h⟩ := Option.bind_eq_some_iff.1 h
    obtain ⟨v, -, rfl⟩ := Option.map_eq_some_iff.1 h
    exact hk.symm
  · rename_i hk
    obtain ⟨v, -, h⟩ := Option.bind_eq_some_iff.1 h
    obtain ⟨v, -, rfl⟩ := Option.map_eq_some_iff.1 h
    exact hk.symm

lemma insert_sameAt (h : tables.insert type given = some tables') (ht : t ≠ type) :
    SameAt tables tables' t := by
  cases given with
  | attributeMap value =>
    obtain ⟨binary, -, rfl⟩ := Option.map_eq_some_iff.1 h
    constructor <;> simp [Rows.select_insertInto, ht]
  | _ =>
    cases h
    constructor <;> simp [Rows.select_insertInto, ht]

lemma update_sameAt (h : tables.update type attr given = some tables') (ht : t ≠ type) :
    SameAt tables tables' t := by
  cases attr with
  | attributeMap value =>
    obtain ⟨binary, -, rfl⟩ := Option.map_eq_some_iff.1 h
    constructor <;> simp [Rows.select_update, ht]
  | _ =>
    cases h
    constructor <;> simp [Rows.select_update, ht]

lemma delete_sameAt (ht : t ≠ type) : SameAt tables (tables.delete type attr) t := by
  cases attr <;> constructor <;> simp [Tables.delete, Rows.select_deleteFrom, ht]

/-- **An attribute that is inserted** is there. -/
theorem insert_value (hk : kindOf given = attributeKind type) (hs : Storable given)
    (ha : tables.Absent type) :
    ∃ tables', tables.insert type given = some tables' ∧ tables'.value type = some given := by
  unfold Absent at ha
  rw [← hk] at ha
  cases given with
  | boolean value =>
    refine ⟨_, rfl, ?_⟩
    simp [Tables.value, ← hk, kindOf, Rows.select_insertInto, show _ = none from ha]
  | unsignedLong value =>
    refine ⟨_, rfl, ?_⟩
    simp [Tables.value, ← hk, kindOf, Rows.select_insertInto, show _ = none from ha]
  | byteString value =>
    refine ⟨_, rfl, ?_⟩
    simp [Tables.value, ← hk, kindOf, Rows.select_insertInto, show _ = none from ha]
  | mechanismTypeSet value =>
    refine ⟨_, rfl, ?_⟩
    simp [Tables.value, ← hk, kindOf, Rows.select_insertInto, show _ = none from ha,
      decodeMechanismTypeSet_encode]
  | attributeMap value =>
    obtain ⟨binary, henc, hdec⟩ := decodeAttributeMap_encode (l := []) hs.1 hs.2
    refine ⟨_, by rw [Tables.insert, henc, Option.map_some], ?_⟩
    simp [Tables.value, ← hk, kindOf, Rows.select_insertInto, show _ = none from ha, hdec]

/-- **An attribute that is updated** has its new value. -/
theorem update_value (hk : kindOf given = attributeKind type) (hs : Storable given)
    (hv : tables.value type = some attr) :
    ∃ tables', tables.update type attr given = some tables' ∧
      tables'.value type = some given := by
  have hkind : kindOf attr = kindOf given := (kindOf_value hv).trans hk.symm
  unfold Tables.value at hv
  rw [← hk] at hv
  cases given with
  | boolean value =>
    cases attr with
    | boolean old =>
      obtain ⟨v, hrow, -⟩ := Option.map_eq_some_iff.1 hv
      refine ⟨_, rfl, ?_⟩
      simp [Tables.value, ← hk, kindOf, Rows.select_update, hrow, OSAttribute.boolValue]
    | _ => cases hkind
  | unsignedLong value =>
    cases attr with
    | unsignedLong old =>
      obtain ⟨v, hrow, -⟩ := Option.map_eq_some_iff.1 hv
      refine ⟨_, rfl, ?_⟩
      simp [Tables.value, ← hk, kindOf, Rows.select_update, hrow, OSAttribute.ulongValue]
    | _ => cases hkind
  | byteString value =>
    cases attr with
    | byteString old =>
      obtain ⟨v, hrow, -⟩ := Option.map_eq_some_iff.1 hv
      refine ⟨_, rfl, ?_⟩
      simp [Tables.value, ← hk, kindOf, Rows.select_update, hrow, OSAttribute.byteStrValue]
    | _ => cases hkind
  | mechanismTypeSet value =>
    cases attr with
    | mechanismTypeSet old =>
      obtain ⟨v, hrow, -⟩ := Option.bind_eq_some_iff.1 hv
      refine ⟨_, rfl, ?_⟩
      simp [Tables.value, ← hk, kindOf, Rows.select_update, hrow, OSAttribute.mechSetValue,
        decodeMechanismTypeSet_encode]
    | _ => cases hkind
  | attributeMap value =>
    cases attr with
    | attributeMap old =>
      obtain ⟨v, hrow, -⟩ := Option.bind_eq_some_iff.1 hv
      obtain ⟨binary, henc, hdec⟩ := decodeAttributeMap_encode (l := []) hs.1 hs.2
      refine ⟨_, by rw [Tables.update, OSAttribute.attrMapValue, henc, Option.map_some], ?_⟩
      simp [Tables.value, ← hk, kindOf, Rows.select_update, hrow, hdec]
    | _ => cases hkind

/-- **An attribute that is deleted** is gone. -/
theorem delete_absent (tables : Tables) (hk : kindOf attr = attributeKind type) :
    (tables.delete type attr).value type = none ∧ (tables.delete type attr).Absent type := by
  cases attr <;>
    simp [Tables.value, Absent, Tables.delete, ← hk, kindOf, Rows.select_deleteFrom]

/-! ### The map that the tables hold -/

/-- The tables hold a map. -/
structure Holds (tables : Tables) (m : AttributeMap) : Prop where
  value : ∀ t, tables.value t = OrderedMap.get t m
  absent : ∀ t, OrderedMap.get t m = none → tables.Absent t

lemma holds_empty : Holds empty [] := by
  refine ⟨fun t => ?_, fun t _ => ?_⟩
  · unfold Tables.value
    cases attributeKind t <;> rfl
  · unfold Absent
    cases attributeKind t <;> trivial

variable {m : AttributeMap}

lemma Holds.insert (h : tables.Holds m) (hk : kindOf given = attributeKind type)
    (hs : Storable given) (hnone : OrderedMap.get type m = none) :
    ∃ tables', tables.insert type given = some tables' ∧
      tables'.Holds (m.setAttribute type given) := by
  obtain ⟨tables', hi, hv⟩ := insert_value hk hs (h.absent type hnone)
  refine ⟨tables', hi, fun t => ?_, fun t ht => ?_⟩
  · by_cases he : t = type
    · rw [he, hv, AttributeMap.setAttribute, OrderedMap.get_put_self]
    · rw [(insert_sameAt hi he).value, h.value, AttributeMap.setAttribute,
        OrderedMap.get_put_of_ne he]
  · by_cases he : t = type
    · rw [he, AttributeMap.setAttribute, OrderedMap.get_put_self] at ht
      cases ht
    · rw [AttributeMap.setAttribute, OrderedMap.get_put_of_ne he] at ht
      exact (insert_sameAt hi he).absent (h.absent t ht)

lemma Holds.update (h : tables.Holds m) (hk : kindOf given = attributeKind type)
    (hs : Storable given) (hsome : OrderedMap.get type m = some attr) :
    ∃ tables', tables.update type attr given = some tables' ∧
      tables'.Holds (m.setAttribute type given) := by
  obtain ⟨tables', hu, hv⟩ := update_value hk hs ((h.value type).trans hsome)
  refine ⟨tables', hu, fun t => ?_, fun t ht => ?_⟩
  · by_cases he : t = type
    · rw [he, hv, AttributeMap.setAttribute, OrderedMap.get_put_self]
    · rw [(update_sameAt hu he).value, h.value, AttributeMap.setAttribute,
        OrderedMap.get_put_of_ne he]
  · by_cases he : t = type
    · rw [he, AttributeMap.setAttribute, OrderedMap.get_put_self] at ht
      cases ht
    · rw [AttributeMap.setAttribute, OrderedMap.get_put_of_ne he] at ht
      exact (update_sameAt hu he).absent (h.absent t ht)

lemma Holds.delete (h : tables.Holds m) (hsome : OrderedMap.get type m = some attr) :
    (tables.delete type attr).Holds (OrderedMap.erase type m) := by
  obtain ⟨hv, ha⟩ := delete_absent tables (kindOf_value ((h.value type).trans hsome))
  refine ⟨fun t => ?_, fun t ht => ?_⟩
  · rw [OrderedMap.get_erase]
    by_cases he : t = type
    · rw [if_pos he, he, hv]
    · rw [if_neg he, (delete_sameAt he).value, h.value]
  · rw [OrderedMap.get_erase] at ht
    by_cases he : t = type
    · exact he ▸ ha
    · rw [if_neg he] at ht
      exact (delete_sameAt he).absent (h.absent t ht)

end Tables

end SoftHSM.DB
