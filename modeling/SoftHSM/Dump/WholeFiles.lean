import SoftHSM.Dump.Printed

/-!
The dump prints a whole file, with its maps counted in bytes, record by record, as long as no length
field that it comes to is larger than it takes.
-/

namespace SoftHSM.DumpFile

open Codec Codec.Reader ByteString
open File (MapField MapRecord recordBytes recordBytes_cons Fit)

/-! ### Length fields -/

/-- The length fields in a map of a length: behind whole attributes, a type and a kind, if the map
has room for them. -/
inductive MapLengthField : ℕ → ByteString → UInt64 → Prop
  | here {len : ℕ} (type : CK_ATTRIBUTE_TYPE) {kind : UInt64} (size : UInt64) (rest : ByteString)
      (hlen : 24 ≤ len) (hkind : kind = BYTES_ATTR ∨ kind = MECHSET_ATTR) :
    MapLengthField len (ofULong type ++ (ofULong kind ++ (ofULong size ++ rest))) size
  | behind {len : ℕ} (r : MapRecord) {rest : ByteString} {size : UInt64} (hr : r.2.Fits)
      (h : MapLengthField len rest size) :
    MapLengthField (8 + r.2.word.length + len) (ofULong r.1 ++ (r.2.word ++ rest)) size

/-- The length fields that the dump comes to behind the generation. -/
inductive LengthField : ByteString → UInt64 → Prop
  | here (type : CK_ATTRIBUTE_TYPE) {kind : UInt64} (len : UInt64) (rest : ByteString)
      (hkind : kind = BYTES_ATTR ∨ kind = ATTRMAP_ATTR ∨ kind = MECHSET_ATTR) :
    LengthField (ofULong type ++ (ofULong kind ++ (ofULong len ++ rest))) len
  | inMap (type : CK_ATTRIBUTE_TYPE) {len size : UInt64} {rest : ByteString}
      (h : MapLengthField len.toNat rest size) :
    LengthField (ofULong type ++ (ofULong ATTRMAP_ATTR ++ (ofULong len ++ rest))) size
  | behind (r : FileRecord) {rest : ByteString} {len : UInt64} (hr : r.2.Fits byteLength)
      (h : LengthField rest len) :
    LengthField (ofULong r.1 ++ (r.2.bytes byteLength ++ rest)) len

/-- A length field takes eight bytes, and so do its type and its kind. -/
lemma LengthField.le_length {bytes : ByteString} {len : UInt64} (h : LengthField bytes len) :
    24 ≤ bytes.length := by
  induction h with
  | here type len rest hkind =>
    simp only [List.length_append, File.length_ofULong]
    omega
  | inMap type h =>
    simp only [List.length_append, File.length_ofULong]
    omega
  | behind r hr h ih =>
    simp only [List.length_append]
    omega

/-! ### Whole files are read -/

lemma reading_whole {α : Type} {r : Reader α} {w : ByteString} {a : α} (h : Whole r w a)
    (f : α → Stream → Outcome) (rest : ByteString) :
    reading r f ⟨w ++ rest, false⟩ = f a ⟨rest, false⟩ := by
  rw [reading, h rest]

lemma whole_readBool (value : UInt8) : Whole readBool [value] value :=
  whole_rewinding (whole_of_reads ((Reads.fread [value]).bind_pure fun b => b.headD 0))

lemma whole_readULong (value : UInt64) : Whole readULong (ofULong value) value :=
  whole_rewinding (whole_of_reads (File.reads_readULong value))

lemma whole_readBytes (value : ByteString) : Whole (readBytes value.length) value value :=
  whole_rewinding (whole_of_reads (Reads.fread value))

lemma whole_readMechs (l : List CK_MECHANISM_TYPE) (value : Finset CK_MECHANISM_TYPE) :
    Whole (readMechs l.length value) (l.flatMap ofULong) (l.toFinset ∪ value) := by
  induction l generalizing value with
  | nil =>
    rw [List.toFinset_nil, Finset.empty_union]
    exact whole_pure value
  | cons mech l ih =>
    rw [List.flatMap_cons]
    refine (whole_readULong mech).bind ?_
    have h := ih (insert mech value)
    rwa [Finset.union_insert, ← Finset.insert_union, ← List.toFinset_cons] at h

lemma toNat_sub {len size : UInt64} (h : ¬ len < size) :
    (len - size).toNat + size.toNat = len.toNat := by
  have hle := UInt64.not_lt.1 h
  have hnat := UInt64.le_iff_toNat_le.1 hle
  rw [UInt64.toNat_sub_of_le _ _ hle]
  omega

lemma not_lt_of_toNat {len size : UInt64} (h : size.toNat ≤ len.toNat) : ¬ len < size := by
  rw [UInt64.lt_iff_toNat_lt]
  omega

lemma toNat_size {l : List CK_MECHANISM_TYPE} (h : l.length * 8 < 2 ^ 64) :
    (UInt64.ofNat l.length * 8).toNat = l.length * 8 := by
  have height : (8 : UInt64).toNat = 8 := rfl
  rw [UInt64.toNat_mul, File.toNat_ofNat (by omega), height, Nat.mod_eq_of_lt h]

/-- A value in a map that has room for it. -/
lemma whole_readMapValue (type : CK_ATTRIBUTE_TYPE) {e : MapField} (he : e.Fits) {len : UInt64}
    (hle : (fieldContent e).length ≤ len.toNat) : ∃ left : {left : UInt64 // left ≤ len},
      left.1.toNat + (fieldContent e).length = len.toNat ∧
        Whole (readMapValue type (fieldKind e) len) (fieldContent e)
          (fieldAttribute type e, left) := by
  have height : (8 : UInt64).toNat = 8 := rfl
  cases e with
  | boolean val =>
    have h : ¬ len < 1 := not_lt_of_toNat hle
    refine ⟨⟨len - 1, sub_le_of_not_lt h⟩, toNat_sub h, ?_⟩
    rw [readMapValue, fieldKind, if_pos rfl, dif_neg h]
    exact (whole_readBool val).bind_pure fun value => _
  | integer val =>
    have hlen : (fieldContent (.integer val)).length = 8 := File.length_ofULong val
    have h : ¬ len < 8 := not_lt_of_toNat (by omega)
    refine ⟨⟨len - 8, sub_le_of_not_lt h⟩, by rw [hlen]; exact toNat_sub h, ?_⟩
    rw [readMapValue, fieldKind, if_neg (by decide), if_pos rfl, dif_neg h]
    exact (whole_readULong val).bind_pure fun value => _
  | binary val =>
    have hlen : (fieldContent (.binary val)).length = 8 + val.length := by
      rw [fieldContent, serialise, List.length_append, File.length_ofULong]
    have hsize : (UInt64.ofNat val.length).toNat = val.length := File.toNat_ofNat he
    have h : ¬ len < 8 := not_lt_of_toNat (by omega)
    have hsub := toNat_sub h
    have h' : ¬ len - 8 < UInt64.ofNat val.length := not_lt_of_toNat (by omega)
    have hsub' := toNat_sub h'
    refine ⟨⟨len - 8 - UInt64.ofNat val.length, le_trans (sub_le_of_not_lt h') (sub_le_of_not_lt h)⟩,
      by dsimp only; omega, ?_⟩
    rw [readMapValue, fieldKind, if_neg (by decide), if_neg (by decide), if_pos rfl, dif_neg h]
    refine (whole_readULong _).bind ?_
    rw [dif_neg h', hsize]
    exact (whole_readBytes val).bind_pure fun value => _
  | mechSet l =>
    have hlen : (fieldContent (.mechSet l)).length = 8 + l.length * 8 := by
      rw [fieldContent, List.length_append, File.length_ofULong, MapField.length_flatMap_ofULong]
    have hlt := len.toNat_lt
    have hsize : (UInt64.ofNat l.length * 8).toNat = l.length * 8 := toNat_size (by omega)
    have h : ¬ len < 8 := not_lt_of_toNat (by omega)
    have hsub := toNat_sub h
    have h' : ¬ len - 8 < UInt64.ofNat l.length * 8 := not_lt_of_toNat (by omega)
    have hsub' := toNat_sub h'
    refine ⟨⟨len - 8 - UInt64.ofNat l.length * 8,
      le_trans (sub_le_of_not_lt h') (sub_le_of_not_lt h)⟩, by dsimp only; omega, ?_⟩
    rw [readMapValue, fieldKind, if_neg (by decide), if_neg (by decide), if_neg (by decide),
      if_pos rfl, dif_neg h]
    refine (whole_readULong _).bind ?_
    have hmechs := whole_readMechs l ∅
    rw [Finset.union_empty] at hmechs
    rw [dif_neg h', File.toNat_ofNat he]
    exact hmechs.bind_pure fun value => _

lemma byteLength_cons (r : MapRecord) (l : List MapRecord) :
    byteLength (r :: l) = 16 + (fieldContent r.2).length + byteLength l := by
  rw [byteLength, File.length_recordBytes_cons, word_eq, List.length_append, File.length_ofULong,
    byteLength]
  omega

/-- **The attributes of a map** are read while its length is counted down to nothing. -/
lemma whole_readMapLoop {l : List MapRecord} (hfit : Fit l) {len : UInt64}
    (hlen : byteLength l = len.toNat) : Whole (readMapLoop len) (recordBytes l) (attributes l) := by
  have height : (8 : UInt64).toNat = 8 := rfl
  induction l generalizing len with
  | nil =>
    obtain rfl : len = 0 := UInt64.toNat_inj.1 hlen.symm
    rw [readMapLoop, if_pos rfl]
    exact whole_pure []
  | cons r l ih =>
    obtain ⟨hr, hl⟩ := List.forall_mem_cons.1 hfit
    rw [byteLength_cons] at hlen
    have h0 : len ≠ 0 := by
      rintro rfl
      rw [UInt64.toNat_zero] at hlen
      omega
    have h8 : ¬ len < 8 := not_lt_of_toNat (by omega)
    have hsub := toNat_sub h8
    have h16 : ¬ len - 8 < 8 := not_lt_of_toNat (by omega)
    have hsub' := toNat_sub h16
    obtain ⟨left, hleft, hvalue⟩ := @whole_readMapValue r.1 r.2 hr (len - 8 - 8) (by omega)
    rw [readMapLoop, if_neg h0, dif_neg h8, recordBytes_cons, word_eq, List.append_assoc]
    refine (whole_readULong r.1).bind ?_
    rw [dif_neg h16]
    refine (whole_readULong (fieldKind r.2)).bind (hvalue.bind ?_)
    exact (ih hl (by omega)).bind_pure (fieldAttribute r.1 r.2 :: ·)

lemma whole_readMap {l : List MapRecord} (hfit : Fit l) {len : UInt64}
    (hlen : byteLength l = len.toNat) : Whole (readMap len) (recordBytes l) (attributes l) :=
  whole_rewinding (whole_readMapLoop hfit hlen)

lemma readingLength_whole {len : UInt64} (h : len ≤ MAX_BYTES) (f : UInt64 → Stream → Outcome)
    (rest : ByteString) : readingLength f ⟨ofULong len ++ rest, false⟩ =
      (f len ⟨rest, false⟩).after [.length false len] := by
  rw [readingLength, reading_whole (whole_readULong len), if_neg (UInt64.not_lt.2 h)]

lemma dumpMechs_whole (l : List CK_MECHANISM_TYPE) (rest : ByteString) :
    dumpMechs l.length ⟨l.flatMap ofULong ++ rest, false⟩ =
      ⟨l.map (.mech false), some ⟨rest, false⟩⟩ := by
  induction l with
  | nil => rfl
  | cons mech l ih =>
    rw [List.flatMap_cons, List.append_assoc, List.length_cons, dumpMechs,
      reading_whole (whole_readULong mech), ih]
    rfl

/-- The length of a value is no larger than the dump takes, if its kind has one. -/
def Short (v : RecordValue) : Prop := ∀ len w,
  v.kind = BYTES_ATTR ∨ v.kind = ATTRMAP_ATTR ∨ v.kind = MECHSET_ATTR →
    v.content = ofULong len ++ w → len ≤ MAX_BYTES

/-- **A value** is printed. -/
lemma dumpValue_whole (type : CK_ATTRIBUTE_TYPE) {v : RecordValue} (hfits : v.Fits byteLength)
    (hmax : Short v) (rest : ByteString) :
    dumpValue type v.kind ⟨v.content ++ rest, false⟩ =
      ⟨v.printed type, some ⟨rest, false⟩⟩ := by
  rcases v with (val | val | val | l) | l
  · rw [RecordValue.kind, fieldKind, dumpValue, if_pos rfl]
    exact reading_whole (whole_readBool val) _ rest
  · rw [RecordValue.kind, fieldKind, dumpValue, if_neg (by decide), if_pos rfl]
    exact reading_whole (whole_readULong val) _ rest
  · have hlen := hmax (UInt64.ofNat val.length) val (.inl rfl) rfl
    rw [RecordValue.kind, fieldKind, dumpValue, if_neg (by decide), if_neg (by decide), if_pos rfl,
      RecordValue.content, fieldContent, serialise, List.append_assoc, readingLength_whole hlen,
      File.toNat_ofNat hfits, reading_whole (whole_readBytes val)]
    rfl
  · have hlen := hmax (UInt64.ofNat l.length) (l.flatMap ofULong) (.inr (.inr rfl)) rfl
    rw [RecordValue.kind, fieldKind, dumpValue, if_neg (by decide), if_neg (by decide),
      if_neg (by decide), if_neg (by decide), if_pos rfl, RecordValue.content, fieldContent,
      List.append_assoc, readingLength_whole hlen, File.toNat_ofNat hfits, dumpMechs_whole]
    rfl
  · have hlen := hmax (UInt64.ofNat (byteLength l)) (recordBytes l) (.inr (.inl rfl)) rfl
    have hread := whole_readMap hfits.2 (File.toNat_ofNat hfits.1).symm
    rw [RecordValue.kind, dumpValue, if_neg (by decide), if_neg (by decide), if_neg (by decide),
      if_pos rfl, RecordValue.content, List.append_assoc, readingLength_whole hlen,
      reading_whole hread]
    rfl

lemma dumpAttributes_next {s s' : Stream} {items : List Item} (heof : s.eof = false)
    (h : dumpAttribute s = ⟨items, some s'⟩) : dumpAttributes s = items ++ dumpAttributes s' := by
  rw [dumpAttributes, heof, if_neg Bool.false_ne_true]
  split
  · rename_i h'
    rw [h] at h'
    cases h'
  · rename_i h'
    rw [h] at h'
    cases h'
    rfl

lemma dumpAttributes_stop {s : Stream} {items : List Item} (heof : s.eof = false)
    (h : dumpAttribute s = ⟨items, none⟩) : dumpAttributes s = items := by
  rw [dumpAttributes, heof, if_neg Bool.false_ne_true]
  split
  · rename_i h'
    rw [h] at h'
    cases h'
    rfl
  · rename_i h'
    rw [h] at h'
    cases h'

/-- **A record** is printed. -/
lemma dumpAttribute_whole {r : FileRecord} (hfits : r.2.Fits byteLength) (hmax : Short r.2)
    (rest : ByteString) : dumpAttribute ⟨ofULong r.1 ++ (r.2.bytes byteLength ++ rest), false⟩ =
      ⟨printedRecord r, some ⟨rest, false⟩⟩ := by
  rw [dumpAttribute, reading_whole (whole_readULong r.1), RecordValue.bytes_eq, List.append_assoc,
    reading_whole (whole_readULong r.2.kind), dumpValue_whole r.1 hfits hmax]
  rfl

lemma dumpAttributes_whole {rs : List FileRecord} (hfits : ∀ r ∈ rs, r.2.Fits byteLength)
    (hmax : ∀ len, LengthField (fileBytes byteLength rs) len → len ≤ MAX_BYTES) :
    dumpAttributes ⟨fileBytes byteLength rs, false⟩ = printedRecords rs := by
  induction rs with
  | nil => exact dumpAttributes_stop rfl rfl
  | cons r rs ih =>
    obtain ⟨hr, hrs⟩ := List.forall_mem_cons.1 hfits
    rw [fileBytes_cons] at hmax ⊢
    have hshort : Short r.2 := by
      intro len w hkind hcontent
      apply hmax
      rw [RecordValue.bytes_eq, hcontent, List.append_assoc, List.append_assoc]
      exact .here r.1 len _ hkind
    rw [dumpAttributes_next rfl (dumpAttribute_whole hr hshort _),
      ih hrs fun len h => hmax len (.behind r hr h), printedRecords, printedRecords,
      List.flatMap_cons]

variable {bytes : ByteString} {gen : UInt64} {rs : List FileRecord}

/-- **A whole file** is printed as one. -/
theorem dump_whole (h : IsFile byteLength bytes gen rs)
    (hmax : ∀ len, LengthField (bytes.drop 8) len → len ≤ MAX_BYTES) :
    dump bytes = printedFile gen rs := by
  obtain ⟨hfits, rfl⟩ := h
  rw [List.drop_left' (File.length_ofULong gen)] at hmax
  rw [dump, whole_readULong gen]
  simp only [dumpAttributes_whole hfits hmax, printedFile]

end SoftHSM.DumpFile
