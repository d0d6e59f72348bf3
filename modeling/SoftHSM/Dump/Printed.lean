import SoftHSM.Dump.RawFile
import SoftHSM.Lib.Blocks

/-!
What the dump prints for the records of a file. It prints every whole file so, with the lengths of
its maps counted as the dump counts them, and no other stream. And what it prints says what the
records denote.
-/

namespace SoftHSM.DumpFile

open Codec Codec.Reader ByteString
open Blocks
open File (MapField MapRecord recordBytes)

/-! ### The print -/

/-- An entry of a map, as `readMap` holds it. -/
def fieldAttribute (type : CK_ATTRIBUTE_TYPE) : MapField → Attribute
  | .boolean val => { type, kind := BOOLEAN_ATTR, boolValue := val }
  | .integer val => { type, kind := ULONG_ATTR, ulongValue := val }
  | .binary val => { type, kind := BYTES_ATTR, bytestrValue := val }
  | .mechSet l => { type, kind := MECHSET_ATTR, mechSetValue := l.toFinset }

def attributes (l : List MapRecord) : List Attribute := l.map fun r => fieldAttribute r.1 r.2

namespace RecordValue

def kind : RecordValue → UInt64
  | entry e => fieldKind e
  | map _ => ATTRMAP_ATTR

/-- The bytes behind the kind, as the dump counts them. -/
def content : RecordValue → ByteString
  | entry e => fieldContent e
  | map l => ofULong (UInt64.ofNat (byteLength l)) ++ recordBytes l

lemma bytes_eq (v : RecordValue) : v.bytes byteLength = ofULong v.kind ++ v.content := by
  cases v with
  | entry e => exact word_eq e
  | map l => rfl

def printed (type : CK_ATTRIBUTE_TYPE) : RecordValue → List Item
  | entry (.boolean value) => [.bool false value]
  | entry (.integer value) => [.ulong false type value]
  | entry (.binary value) => [.length false (UInt64.ofNat value.length), .bytes false value]
  | entry (.mechSet l) => .length false (UInt64.ofNat l.length) :: l.map (.mech false)
  | map l => .length false (UInt64.ofNat (byteLength l)) :: dumpMap (attributes l)

lemma kind_eq_boolean {v : RecordValue} (h : v.kind = BOOLEAN_ATTR) :
    ∃ value, v = entry (.boolean value) := by
  cases v with
  | entry e =>
    obtain ⟨value, rfl⟩ := fieldKind_eq_boolean.1 h
    exact ⟨value, rfl⟩
  | map l => simp [kind, ATTRMAP_ATTR, BOOLEAN_ATTR] at h

lemma kind_eq_integer {v : RecordValue} (h : v.kind = ULONG_ATTR) :
    ∃ value, v = entry (.integer value) := by
  cases v with
  | entry e =>
    obtain ⟨value, rfl⟩ := fieldKind_eq_integer.1 h
    exact ⟨value, rfl⟩
  | map l => simp [kind, ATTRMAP_ATTR, ULONG_ATTR] at h

lemma kind_eq_binary {v : RecordValue} (h : v.kind = BYTES_ATTR) :
    ∃ value, v = entry (.binary value) := by
  cases v with
  | entry e =>
    obtain ⟨value, rfl⟩ := fieldKind_eq_binary.1 h
    exact ⟨value, rfl⟩
  | map l => simp [kind, ATTRMAP_ATTR, BYTES_ATTR] at h

lemma kind_eq_mechSet {v : RecordValue} (h : v.kind = MECHSET_ATTR) :
    ∃ l, v = entry (.mechSet l) := by
  cases v with
  | entry e =>
    obtain ⟨l, rfl⟩ := fieldKind_eq_mechSet.1 h
    exact ⟨l, rfl⟩
  | map l => simp [kind, ATTRMAP_ATTR, MECHSET_ATTR] at h

lemma kind_eq_map {v : RecordValue} (h : v.kind = ATTRMAP_ATTR) : ∃ l, v = map l := by
  cases v with
  | entry e => exact absurd h (fieldKind_ne e)
  | map l => exact ⟨l, rfl⟩

end RecordValue

def printedRecord (r : FileRecord) : List Item :=
  .type false r.1 :: .kind false r.2.kind :: r.2.printed r.1

def printedRecords (rs : List FileRecord) : List Item := rs.flatMap printedRecord

/-- The print of a whole file. -/
def printedFile (gen : UInt64) (rs : List FileRecord) : List Item :=
  .generation gen :: printedRecords rs

/-! ### What a print says

A print is taken apart at the items that stand at the head of a record, and in a map at the head
of an entry. -/

/-- The print of an entry in a map, behind its type and its kind. -/
def fieldPrinted (type : CK_ATTRIBUTE_TYPE) : MapField → List Item
  | .boolean val => [.bool true val]
  | .integer val => [.ulong true type val]
  | .binary val => [.length true (UInt64.ofNat val.length), .bytes true val]
  | .mechSet l => .length true (UInt64.ofNat l.toFinset.card) ::
      (File.mechanismTypes l.toFinset).map (.mech true)

lemma dump_fieldAttribute (type : CK_ATTRIBUTE_TYPE) (e : MapField) :
    (fieldAttribute type e).dump =
      .type true type :: .kind true (fieldKind e) :: fieldPrinted type e := by
  cases e <;> rfl

lemma mechanismTypes_inj {s t : Finset CK_MECHANISM_TYPE}
    (h : File.mechanismTypes s = File.mechanismTypes t) : s = t := by
  rw [← Finset.sort_toFinset s (· ≤ ·), ← Finset.sort_toFinset t (· ≤ ·)]
  exact congrArg List.toFinset h

lemma value_of_fieldPrinted {type type' : CK_ATTRIBUTE_TYPE} {e e' : MapField}
    (hkind : fieldKind e = fieldKind e') (h : fieldPrinted type e = fieldPrinted type' e') :
    e.value = e'.value := by
  cases e with
  | boolean val =>
    obtain ⟨val', rfl⟩ := fieldKind_eq_boolean.1 hkind.symm
    simp only [fieldPrinted, List.cons.injEq, Item.bool.injEq, true_and, and_true] at h
    rw [h]
  | integer val =>
    obtain ⟨val', rfl⟩ := fieldKind_eq_integer.1 hkind.symm
    simp only [fieldPrinted, List.cons.injEq, Item.ulong.injEq, true_and, and_true] at h
    rw [h.2]
  | binary val =>
    obtain ⟨val', rfl⟩ := fieldKind_eq_binary.1 hkind.symm
    simp only [fieldPrinted, List.cons.injEq, Item.bytes.injEq, true_and, and_true] at h
    rw [h.2]
  | mechSet l =>
    obtain ⟨l', rfl⟩ := fieldKind_eq_mechSet.1 hkind.symm
    have hmech := List.map_injective_iff.2 (fun m m' (heq : Item.mech true m = .mech true m') =>
      (Item.mech.inj heq).2) (List.cons.inj h).2
    rw [MapField.value, MapField.value, mechanismTypes_inj hmech]

lemma headed_dump : Headed (∃ type, · = Item.type true type)
    fun r : MapRecord => (fieldAttribute r.1 r.2).dump := by
  intro r
  refine ⟨_, _, dump_fieldAttribute r.1 r.2, ⟨r.1, rfl⟩, ?_⟩
  rintro y hy ⟨type, rfl⟩
  rcases r with ⟨t, val | val | val | l⟩ <;> simp [fieldPrinted] at hy

/-- The entries of a map are said by their print. -/
lemma denote_of_dumpMap {l l' : List MapRecord}
    (h : dumpMap (attributes l) = dumpMap (attributes l')) :
    l.map (fun r => (r.1, r.2.value)) = l'.map fun r => (r.1, r.2.value) := by
  refine headed_dump.map_eq (fun r r' hr => ?_) ?_
  · rw [dump_fieldAttribute, dump_fieldAttribute] at hr
    simp only [List.cons.injEq, Item.type.injEq, Item.kind.injEq, true_and] at hr
    obtain ⟨htype, hkind, hprinted⟩ := hr
    rw [htype, value_of_fieldPrinted hkind hprinted]
  · rwa [dumpMap, dumpMap, attributes, attributes, List.flatMap_map, List.flatMap_map] at h

lemma RecordValue.denote_of_printed {type type' : CK_ATTRIBUTE_TYPE} {v v' : RecordValue}
    (hkind : v.kind = v'.kind) (h : v.printed type = v'.printed type') : v.denote = v'.denote := by
  cases v with
  | entry e =>
    cases e with
    | boolean value =>
      obtain ⟨value', rfl⟩ := kind_eq_boolean hkind.symm
      simp only [printed, List.cons.injEq, Item.bool.injEq, true_and, and_true] at h
      rw [h]
    | integer value =>
      obtain ⟨value', rfl⟩ := kind_eq_integer hkind.symm
      simp only [printed, List.cons.injEq, Item.ulong.injEq, true_and, and_true] at h
      rw [h.2]
    | binary value =>
      obtain ⟨value', rfl⟩ := kind_eq_binary hkind.symm
      simp only [printed, List.cons.injEq, Item.bytes.injEq, true_and, and_true] at h
      rw [h.2]
    | mechSet l =>
      obtain ⟨l', rfl⟩ := kind_eq_mechSet hkind.symm
      have hmech := List.map_injective_iff.2 (fun m m' (heq : Item.mech false m = .mech false m') =>
        (Item.mech.inj heq).2) (List.cons.inj h).2
      rw [hmech]
  | map l =>
    obtain ⟨l', rfl⟩ := kind_eq_map hkind.symm
    rw [denote, denote, denote_of_dumpMap (List.cons.inj h).2]

/-- What stands at the head of a record, or where the dump gives up. -/
def IsHead (i : Item) : Prop := (∃ type, i = .type false type) ∨ ∃ v more, i = .rest v more

lemma not_isHead_of_printed {type : CK_ATTRIBUTE_TYPE} {v : RecordValue} :
    ∀ i ∈ .kind false v.kind :: v.printed type, ¬ IsHead i := by
  intro i hi hhead
  rcases v with (value | value | value | l) | l
  · rcases hhead with ⟨t, rfl⟩ | ⟨w, more, rfl⟩ <;> simp [RecordValue.printed] at hi
  · rcases hhead with ⟨t, rfl⟩ | ⟨w, more, rfl⟩ <;> simp [RecordValue.printed] at hi
  · rcases hhead with ⟨t, rfl⟩ | ⟨w, more, rfl⟩ <;> simp [RecordValue.printed] at hi
  · rcases hhead with ⟨t, rfl⟩ | ⟨w, more, rfl⟩ <;> simp [RecordValue.printed] at hi
  · simp only [RecordValue.printed, List.mem_cons] at hi
    rcases hi with rfl | rfl | hi
    · rcases hhead with ⟨t, ht⟩ | ⟨w, more, ht⟩ <;> cases ht
    · rcases hhead with ⟨t, ht⟩ | ⟨w, more, ht⟩ <;> cases ht
    · obtain ⟨attr, hattr, hi⟩ := List.mem_flatMap.1 hi
      obtain ⟨⟨t, e⟩, -, rfl⟩ := List.mem_map.1 hattr
      rw [dump_fieldAttribute] at hi
      rcases hhead with ⟨t', rfl⟩ | ⟨w, more, rfl⟩ <;> cases e <;> simp [fieldPrinted] at hi

lemma headed_printedRecord : Headed IsHead printedRecord := fun r =>
  ⟨_, _, rfl, .inl ⟨r.1, rfl⟩, not_isHead_of_printed⟩

/-- **What is printed** says what the records denote. -/
theorem denoted_of_printedFile {gen gen' : UInt64} {rs rs' : List FileRecord}
    (h : printedFile gen rs = printedFile gen' rs') : gen = gen' ∧ denoted rs = denoted rs' := by
  obtain ⟨hgen, hrs⟩ := List.cons.inj h
  refine ⟨Item.generation.inj hgen, ?_⟩
  have hdenote : rs.map (fun r => (r.1, r.2.denote)) = rs'.map fun r => (r.1, r.2.denote) := by
    refine headed_printedRecord.map_eq (fun r r' hr => ?_) hrs
    simp only [printedRecord, List.cons.injEq, Item.type.injEq, Item.kind.injEq, true_and] at hr
    obtain ⟨htype, hkind, hprinted⟩ := hr
    rw [htype, RecordValue.denote_of_printed hkind hprinted]
  rw [denoted, denoted, hdenote]

end SoftHSM.DumpFile
