import SoftHSM.Dump.Stumps

/-!
The tool against the store: on which streams the dump prints what `refresh` reads. The two walk
through the same values. They do not agree where a file ends within the generation or within the
type of a record, which the store passes over, and where the two ways of counting the length of a
map part, which takes a set in a map that names a mechanism twice.
-/

namespace SoftHSM.DumpFile

open Codec Codec.Reader ByteString
open File (recordBytes countedLength Fit)

/-- What an object is after it was read from a stream, and what the dump prints of that stream:
records of these attributes behind this generation, if the stream was accepted, and no whole file
if it was found corrupt. Of an empty file nothing is read. -/
structure Agrees (bytes : ByteString) (o : ObjectFile) : Prop where
  accepted : bytes ≠ [] → o.valid = true →
    ∃ rs, dump bytes = printedFile o.gen.currentValue rs ∧ o.attributes = denoted rs
  corrupted : bytes ≠ [] → o.valid = false → ∀ gen rs, dump bytes ≠ printedFile gen rs

/-- If a set in a map names a mechanism twice, however the lengths of the maps are counted, the
records that the other count finds make up the file too, and denote the same attributes. -/
def CountedAlike (bytes : ByteString) : Prop :=
  ∀ gen rs, IsFile countedLength bytes gen rs ∨ IsFile byteLength bytes gen rs → Repeats rs →
    ∃ rs₁ rs₂, IsFile countedLength bytes gen rs₁ ∧ IsFile byteLength bytes gen rs₂ ∧
      denoted rs₁ = denoted rs₂

variable {o : ObjectFile} {isFirstTime : Bool} {bytes : ByteString} {gen : UInt64}
  {rs : List FileRecord}

lemma IsFile.ne_nil {counted : List File.MapRecord → ℕ} (h : IsFile counted bytes gen rs) :
    bytes ≠ [] := by
  rintro rfl
  have hlen := congrArg List.length h.bytes_eq
  rw [List.length_append, File.length_ofULong, List.length_nil] at hlen
  omega

lemma IsFile.gen_eq {counted counted' : List File.MapRecord → ℕ} {gen' : UInt64}
    {rs' : List FileRecord} (h : IsFile counted bytes gen rs) (h' : IsFile counted' bytes gen' rs') :
    gen = gen' :=
  (ofULong_append_inj (h.bytes_eq.symm.trans h'.bytes_eq)).1

/-- What `refresh` reads of a whole file. -/
lemma refresh_isFile (gone : Bool) (hidle : o.inTransaction = false)
    (hread : isFirstTime = true ∨ o.gen.wasUpdated (some bytes) = true)
    (h : IsFile countedLength bytes gen rs) :
    (o.refresh isFirstTime gone (some bytes)).valid = true ∧
      (o.refresh isFirstTime gone (some bytes)).gen.currentValue = gen ∧
      (o.refresh isFirstTime gone (some bytes)).attributes = denoted rs := by
  have hwf : ObjectFile.WellFormed bytes (denoted rs) := wellFormed_iff.2 ⟨gen, rs, h, rfl⟩
  refine ⟨(ObjectFile.refresh_valid gone hidle hread h.ne_nil).2 (.inl ⟨_, hwf⟩), ?_,
    ObjectFile.refresh_attributes gone hidle hread hwf⟩
  obtain ⟨o₁, -, he⟩ := ObjectFile.refresh_read gone hidle hread
  have hne : ¬ bytes.isEmpty = true := by simpa using h.ne_nil
  rw [he, if_neg hne, h.bytes_eq, ObjectFile.load_bytes]

/-- A whole file for one of the two is one for the other, of the same attributes. -/
lemma CountedAlike.both (h : CountedAlike bytes)
    (hfile : IsFile countedLength bytes gen rs ∨ IsFile byteLength bytes gen rs) :
    ∃ rs₁ rs₂, IsFile countedLength bytes gen rs₁ ∧ IsFile byteLength bytes gen rs₂ ∧
      denoted rs₁ = denoted rs₂ := by
  by_cases hrepeats : Repeats rs
  · exact h gen rs hfile hrepeats
  · have hiff : IsFile countedLength bytes gen rs ↔ IsFile byteLength bytes gen rs :=
      isFile_iff_of_not_repeats hrepeats
    exact ⟨rs, rs, hfile.elim id hiff.2, hfile.elim hiff.1 id, rfl⟩

/-- What is accepted is a whole file for the dump, of the attributes that were read. -/
lemma Agrees.isFile (h : Agrees bytes o)
    (hmax : ∀ len, LengthField (bytes.drop 8) len → len ≤ MAX_BYTES) (hne : bytes ≠ [])
    (hvalid : o.valid = true) :
    ∃ rs, IsFile byteLength bytes o.gen.currentValue rs ∧ o.attributes = denoted rs := by
  obtain ⟨rs, hdump, hattributes⟩ := h.accepted hne hvalid
  obtain ⟨rs', hfile, hdenoted⟩ := isFile_of_dump hdump hmax
  exact ⟨rs', hfile, hattributes.trans hdenoted.symm⟩

lemma not_cutShort_nil : ¬ ObjectFile.CutShort [] := by
  rintro (⟨hne, -⟩ | ⟨gen, ws, l, cut, hgen, -, -, -, he⟩)
  · exact hne rfl
  · rw [(List.append_eq_nil_iff.1 he.symm).1] at hgen
    cases hgen

/-- An object that has read nothing. -/
def unread : ObjectFile := ⟨⟨0, false⟩, [], false, false, false⟩

/-- A generation and one boolean. -/
def oneBoolean : ByteString := ofULong 1 ++ fileBytes byteLength [(1, .entry (.boolean 0xFF))]

lemma isFile_oneBoolean : IsFile byteLength oneBoolean 1 [(1, .entry (.boolean 0xFF))] :=
  ⟨by simp [RecordValue.Fits, File.MapField.Fits], rfl⟩

/-- A set in a map takes more than a boolean. -/
lemma length_of_repeats {counted : List File.MapRecord → ℕ} (h : Repeats rs) :
    24 ≤ (fileBytes counted rs).length := by
  obtain ⟨⟨t, e | l⟩, hr, hrepeats⟩ := h
  · exact hrepeats.elim
  · obtain ⟨front, behind, rfl⟩ := List.append_of_mem hr
    simp only [fileBytes, List.flatMap_append, List.flatMap_cons, List.length_append,
      RecordValue.bytes, File.length_ofULong]
    omega

/-- A map of 40 bytes: a set of one mechanism that is there twice. -/
def mapTwice : ByteString := ofULong 0 ++ fileBytes byteLength [(1, .map File.twice)]

lemma fits_mapTwice : (RecordValue.map File.twice).Fits byteLength :=
  ⟨File.length_recordBytes_twice.trans_lt (by decide), File.fit_twice⟩

lemma dump_mapTwice : dump mapTwice = printedFile 0 [(1, .map File.twice)] := by
  have hlen : byteLength File.twice = 40 := File.length_recordBytes_twice
  have hshort : Short (.map File.twice) := by
    intro len w _ hcontent
    obtain rfl := (ofULong_append_inj hcontent).1
    rw [hlen]
    decide
  have hrecord := dumpAttributes_next rfl
    (@dumpAttribute_whole (1, .map File.twice) fits_mapTwice hshort [])
  rw [dump, mapTwice, whole_readULong 0]
  simp only [fileBytes_cons]
  rw [show fileBytes byteLength [] = [] from rfl, hrecord,
    show dumpAttributes ⟨[], false⟩ = [] from dumpAttributes_stop rfl rfl]
  rfl

lemma readAttribute_mapTwice : ∃ s, ObjectFile.readAttribute.read
    ⟨(RecordValue.map File.twice).bytes byteLength, false⟩ = (none, s) := by
  have hlen : byteLength File.twice = 40 := File.length_recordBytes_twice
  have hle : countedLength File.twice ≤ 40 := by
    rw [File.countedLength_twice]
    omega
  obtain ⟨m, hrun⟩ := File.read_recordBytes File.fit_twice hle [] [] false
  rw [File.countedLength_twice, List.append_nil] at hrun
  refine ⟨⟨[], true⟩, ?_⟩
  rw [RecordValue.bytes, hlen, ObjectFile.readAttribute, read_bind,
    (File.reads_readULong ATTRMAP_ATTR).whole]
  dsimp only
  rw [if_neg (by decide), if_neg (by decide), if_neg (by decide), if_neg (by decide),
    if_pos (by decide), read_bind, File.readAttributeMap, read_bind, (File.reads_readULong _).whole]
  dsimp only
  rw [show (UInt64.ofNat 40).toNat = 40 from rfl, hrun, File.readMapAttributes, if_neg (by decide),
    read_bind, ObjectFile.readULong_cut (by decide)]

lemma corrupt_mapTwice : (unread.refresh true false (some mapTwice)).valid = false := by
  obtain ⟨s, hcorrupt⟩ := readAttribute_mapTwice
  obtain ⟨o₁, -, he⟩ := @ObjectFile.refresh_read unread true mapTwice false rfl (.inl rfl)
  have hne : ¬ mapTwice.isEmpty = true := by
    rw [List.isEmpty_iff_length_eq_zero, mapTwice, List.length_append, File.length_ofULong]
    omega
  rw [he, if_neg hne, mapTwice, ObjectFile.load_bytes]
  simp only [fileBytes_cons]
  rw [show fileBytes byteLength [] = [] from rfl, List.append_nil,
    ObjectFile.readAttributes_corrupt rfl ((File.reads_readULong 1).whole _ false) hcorrupt]

end SoftHSM.DumpFile
